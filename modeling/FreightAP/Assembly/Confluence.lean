import FreightAP.Assembly.Transactions
import FreightAP.VerdictEvidence
import FreightAP.Workflow.Nodes

/-!
# Confluence of assembly

The documents of one load, at most one of each type, and a manual rate
confirmation among them or not, processed one after another from the start of
the load.  What the shipment holds depends only on which of them have been
seen: the flags, the documents of the slots, and the content that reconciliation
compares (`Gathered`).  Only the rate confirmation's slot keeps the order, and
reconciliation does not read it once a manual rate confirmation is on file.

`assemble_spec` says what one transaction does, `Filed.process` keeps the
summary, and two orders of the same papers come to the same verdict
(`assembly_confluent`).
-/

namespace FreightAP

variable [PyRuntime]

/-! ## Papers that arrive -/

/-- What arrives for a load. -/
inductive Arriving where
  | document (documentId : Nat)
  | manual (rc : RateConfirmation)
deriving DecidableEq

/-- A paper that is processed: a document with the load number text and the
extraction of its run, or a call of `create_rate_confirmation`. -/
inductive Processing where
  | document (ses : Session) (documentId : Nat) (loadNumber : Option String)
      (extraction : Extraction) (ev : Evaluation)
  | manual (ses : Session) (rc : RateConfirmation) (now : Int)

namespace Processing

/-- The paper. -/
def item : Processing → Arriving
  | .document _ documentId _ _ _ => .document documentId
  | .manual _ rc _ => .manual rc

/-- The session it runs in. -/
def session : Processing → Session
  | .document ses _ _ _ _ => ses
  | .manual ses _ _ => ses

/-- The text its load number is read from. -/
def loadNumber : Processing → Option String
  | .document _ _ loadNumber _ _ => loadNumber
  | .manual _ rc _ => some rc.loadNumber

/-- The arguments of its `reconcile_shipment`. -/
def evaluation : Processing → Evaluation
  | .document _ _ _ _ ev => ev
  | .manual _ rc now =>
      ⟨none, some now, none, some "manual_rate_confirmation",
        some ("manual-rate-confirmation:" ++ rc.id)⟩

/-- The time and the SLA of its evaluation. -/
def clock (x : Processing) : Int × Int :=
  (x.evaluation.now.getD x.session.clock, x.evaluation.slaDuration.getD x.session.slaDuration)

/-- `upsert_shipment` and then `reconcile_shipment`, after the rows that
`create_rate_confirmation` adds. -/
def run (x : Processing) (db : Database) :
    Except String (Option (Shipment × ReconciliationResult × Database)) :=
  match x with
  | .document ses documentId loadNumber extraction ev =>
      match db.document? documentId with
      | none => .error "Document was not found."
      | some row =>
          match assemble ses loadNumber row extraction ev db with
          | .error message => .error message
          | .ok none => .ok none
          | .ok (some (s, r, ws)) => .ok (some (s, r, db.apply ws))
  | .manual ses rc now =>
      if (db.rateConfirmation? rc.loadNumber).isSome then
        .error "Rate confirmation already exists for load_number"
      else
        let db := db.apply [.rateConfirmation rc, .document (manualDocument ses rc)]
        match assemble ses (some rc.loadNumber) (manualDocument ses rc)
            (rateConfirmationExtraction rc) (manual ses rc now).evaluation db with
        | .error message => .error message
        | .ok none => .ok none
        | .ok (some (s, r, ws)) => .ok (some (s, r, db.apply ws))

/-- Papers processed one after another: the last shipment and result, and the
database. -/
def runAll : Option (Shipment × ReconciliationResult) → Database → List Processing →
    Except String (Option (Shipment × ReconciliationResult) × Database)
  | last, db, [] => .ok (last, db)
  | last, db, x :: xs =>
      match x.run db with
      | .error message => .error message
      | .ok none => runAll last db xs
      | .ok (some (s, r, db')) => runAll (some (s, r)) db' xs

end Processing

/-! ## One transaction -/

/-- The row and the result hold the evaluation of the papers `p`. -/
structure Evaluated (s : Shipment) (r : ReconciliationResult) (p : Papers) (now slaDuration : Int) :
    Prop where
  checks : r.checks = (evidence s p (evaluateMissingDocumentPolicy s now slaDuration)).checks
  reasons : r.exceptionReasons =
    (evidence s p (evaluateMissingDocumentPolicy s now slaDuration)).exceptionReasons
  missing : r.missingDocs = (evaluateMissingDocumentPolicy s now slaDuration).missingDocs
  status : s.reconciliationStatus = reconciliationStatus s p now slaDuration

/-- The policy reads the flags and the age of the row. -/
theorem evaluateMissingDocumentPolicy_congr {s t : Shipment} (hhas : ∀ d, t.has d = s.has d)
    (hcreated : t.createdAt = s.createdAt) (now slaDuration : Int) :
    evaluateMissingDocumentPolicy t now slaDuration =
      evaluateMissingDocumentPolicy s now slaDuration := by
  have hmissing : t.missingSlots = s.missingSlots := by
    unfold Shipment.missingSlots
    exact List.filter_congr fun d _ => by rw [hhas]
  simp only [evaluateMissingDocumentPolicy, hmissing, hhas, hcreated]

/-- So does the evidence of given papers. -/
theorem evidence_congr {s t : Shipment} (hhas : ∀ d, t.has d = s.has d) (p : Papers)
    (policy : MissingDocumentPolicyResult) : evidence t p policy = evidence s p policy := by
  simp only [evidence, show t.hasPod = s.hasPod from hhas .pod]

theorem reconciliationStatus_congr {s t : Shipment} (hhas : ∀ d, t.has d = s.has d)
    (hcreated : t.createdAt = s.createdAt) (p : Papers) (now slaDuration : Int) :
    reconciliationStatus t p now slaDuration = reconciliationStatus s p now slaDuration := by
  simp only [reconciliationStatus, evaluateMissingDocumentPolicy_congr hhas hcreated,
    evidence_congr hhas]

/-- `reconcile_shipment` evaluates the papers of the row it was given. -/
theorem reconcileShipment_evaluated (ses : Session) (s : Shipment) (ev : Evaluation)
    (db : Database) :
    Evaluated (reconcileShipment ses s ev db).1 (reconcileShipment ses s ev db).2.1
      (shipmentPapers s db) (ev.now.getD ses.clock) (ev.slaDuration.getD ses.slaDuration) := by
  have hhas : ∀ d, (reconcileShipment ses s ev db).1.has d = (noteRateConfirmation s db).has d :=
    fun d => reconcileShipment_has d
  have hcreated : (reconcileShipment ses s ev db).1.createdAt =
      (noteRateConfirmation s db).createdAt := rfl
  have hpolicy := evaluateMissingDocumentPolicy_congr hhas hcreated
  obtain ⟨hchecks, hreasons, hmissing⟩ := resultRow_lists ses (reconcileShipment ses s ev db).1 ev
    (evidence (noteRateConfirmation s db) (shipmentPapers (noteRateConfirmation s db) db)
      (evaluateMissingDocumentPolicy (noteRateConfirmation s db) (ev.now.getD ses.clock)
        (ev.slaDuration.getD ses.slaDuration)))
    (evaluateMissingDocumentPolicy (noteRateConfirmation s db) (ev.now.getD ses.clock)
      (ev.slaDuration.getD ses.slaDuration)).missingDocs
    (existingResult? ev db)
  rw [← reconcileShipment_result] at hchecks hreasons hmissing
  rw [← shipmentPapers_noteRateConfirmation (s := s)]
  constructor
  case checks => rw [hchecks, evidence_congr hhas, hpolicy]
  case reasons => rw [hreasons, evidence_congr hhas, hpolicy]
  case missing => rw [hmissing, hpolicy]
  case status => exact (reconciliationStatus_congr hhas hcreated ..).symm

/-- A rate confirmation that is on file for the row, or none on file: nothing
is attached besides, and the flag of a filled slot goes up. -/
theorem attachExisting_settled (ses : Session) (s : Shipment) (db : Database)
    (h : (s.docId .rateCon).isSome = true ∨ db.rateConfirmation? s.loadNumber = none) :
    (attachExistingRateConfirmation ses s db).2 = [] ∧
      (∀ d, (attachExistingRateConfirmation ses s db).1.docId d = s.docId d) ∧
      ∀ d, (attachExistingRateConfirmation ses s db).1.has d =
        (s.has d || decide (d = .rateCon) && (s.docId .rateCon).isSome) := by
  unfold attachExistingRateConfirmation
  split
  next hs =>
    have hs' : (s.docId .rateCon).isSome = true := hs
    refine ⟨rfl, fun d => by cases d <;> rfl, fun d => ?_⟩
    rw [hs']
    cases d <;> simp [Shipment.has]
  next hs =>
    have hs' : (s.docId .rateCon).isSome = false := Bool.eq_false_iff.mpr hs
    rw [hs'] at h
    rw [h.resolve_left Bool.false_ne_true]
    exact ⟨rfl, fun _ => rfl, fun d => by simp [hs']⟩

/-- What one transaction leaves, from the row `held` that it finds. -/
structure Assembled (load : String) (slot : Slot) (document : Document) (held s : Shipment)
    (db db' : Database) : Prop where
  loadKey : s.loadNumber = load
  createdAt : s.createdAt = held.createdAt
  has : ∀ d, s.has d = (decide (slot = d) || held.has d || decide (d = .rateCon) &&
    ((s.docId .rateCon).isSome || (db.rateConfirmation? load).isSome))
  docId : ∀ d, s.docId d =
    if slot = d then (held.docId d).or (some document.id) else held.docId d
  found : db'.shipment? load = some s
  keyed : Table.Keyed Shipment.id db'.shipments
  confirmed : ∀ l, db'.rateConfirmation? l = db.rateConfirmation? l
  documents : ∀ k, db'.document? k =
    if document.id = k then some { document with shipmentId := some held.id } else db.document? k

/-- Attaching a document to the row of its load. -/
theorem attachDocument_settled (ses : Session) (extraction : Extraction) {load : String}
    {slot : Slot} {document : Document} {held : Shipment} {db : Database}
    (hslot : docFields document.docType = some slot) (hload : held.loadNumber = load)
    (hsettled : slot = .rateCon ∨ (held.docId .rateCon).isSome = true ∨
      db.rateConfirmation? load = none) :
    (attachDocument ses held document extraction db).2 =
        [.document { document with shipmentId := some held.id },
          .shipment (attachDocument ses held document extraction db).1] ∧
      (∀ d, (attachDocument ses held document extraction db).1.docId d =
        if slot = d then (held.docId d).or (some document.id) else held.docId d) ∧
      ∀ d, (attachDocument ses held document extraction db).1.has d =
        (decide (slot = d) || held.has d || decide (d = .rateCon) &&
          ((attachDocument ses held document extraction db).1.docId .rateCon).isSome) := by
  have hfill : ∀ d, (fillCarrier (fillSlot held document) extraction).docId d =
      if slot = d then (held.docId d).or (some document.id) else held.docId d := by
    intro d
    rw [fillCarrier_docId, fillSlot_docId hslot]
  have hcase : ((fillCarrier (fillSlot held document) extraction).docId .rateCon).isSome = true ∨
      db.rateConfirmation? (fillCarrier (fillSlot held document) extraction).loadNumber = none := by
    rw [hfill, fillCarrier_loadNumber, fillSlot_loadNumber, hload]
    rcases hsettled with hslot | hheld | hnone
    · left
      rw [if_pos hslot]
      cases held.docId .rateCon <;> rfl
    · left
      split
      · rw [Option.isSome_iff_exists] at hheld
        obtain ⟨id, hid⟩ := hheld
        rw [hid]
        rfl
      · exact hheld
    · exact .inr hnone
  obtain ⟨hws, hdocs, hflags⟩ := attachExisting_settled ses _ db hcase
  have hdoc : ∀ d, (attachDocument ses held document extraction db).1.docId d =
      if slot = d then (held.docId d).or (some document.id) else held.docId d := by
    intro d
    rw [← hfill, ← hdocs]
    cases d <;> rfl
  refine ⟨?_, hdoc, fun d => ?_⟩
  · rw [attachDocument_writes, hws]
    rfl
  · have hflag := hflags d
    rw [fillCarrier_has, fillSlot_has hslot, hfill] at hflag
    rw [hdoc, ← hflag]
    cases d <;> rfl

/-- A document is attached to the row of its load, and the row is evaluated on
the papers that are on file then. -/
theorem assemble_spec {ses : Session} {loadNumber : Option String} {load : String} {slot : Slot}
    (document : Document) (extraction : Extraction) (ev : Evaluation) {db : Database}
    (hslot : docFields document.docType = some slot)
    (hnorm : normalizeLoadNumber loadNumber = .ok (some load))
    (hkeyed : Table.Keyed Shipment.id db.shipments)
    (hsettled : slot = .rateCon ∨ ((heldShipment ses load db).docId .rateCon).isSome = true ∨
      db.rateConfirmation? load = none) :
    ∃ s r ws, assemble ses loadNumber document extraction ev db = .ok (some (s, r, ws)) ∧
      Assembled load slot document (heldShipment ses load db) s db (db.apply ws) ∧
      Evaluated s r (shipmentPapers s (db.apply ws)) (ev.now.getD ses.clock)
        (ev.slaDuration.getD ses.slaDuration) := by
  generalize hheld : heldShipment ses load db = held at *
  have hload : held.loadNumber = load := hheld ▸ heldShipment_loadNumber
  have hmanual : ∀ l, (db.apply (insertShipment ses load db)).rateConfirmation? l =
      db.rateConfirmation? l := by
    intro l
    rw [Database.rateConfirmation?, insertShipment_rateConfirmations]
    rfl
  have hupsert := @upsertShipment_eq _ ses _ _ document extraction db hnorm
  have hkeyed₁ := insertShipment_keyed ses load hkeyed
  have hfound₁ := insertShipment_finds ses load db
  have hdocuments₁ := insertShipment_documents ses load db
  rw [hheld] at hupsert hfound₁
  generalize hdb₁ : db.apply (insertShipment ses load db) = db₁ at *
  obtain ⟨hws, hdocId, hhas⟩ := attachDocument_settled ses extraction hslot hload
    (hmanual load ▸ hsettled)
  -- the row and the database that reconciliation starts from
  have hid₂ : (attachDocument ses held document extraction db₁).1.id = held.id := attachDocument_id
  have hload₂ : (attachDocument ses held document extraction db₁).1.loadNumber = load :=
    attachDocument_loadNumber.trans hload
  have hcreated₂ : (attachDocument ses held document extraction db₁).1.createdAt =
      held.createdAt := attachDocument_createdAt
  generalize (attachDocument ses held document extraction db₁).2 = ws₂ at *
  generalize (attachDocument ses held document extraction db₁).1 = s₂ at *
  subst hws
  generalize hdb₂ : db₁.apply [.document { document with shipmentId := some held.id },
    .shipment s₂] = db₂
  have hkeyed₂ : Table.Keyed Shipment.id db₂.shipments := hdb₂ ▸ Table.nodup_put hkeyed₁
  have hfound₂ : db₂.shipment? load = some s₂ := by
    rw [← hdb₂]
    exact Table.find?_put_of_found hkeyed₁ (decide_eq_true hload₂) hfound₁ hid₂.symm
  have hmanual₂ : ∀ l, db₂.rateConfirmation? l = db.rateConfirmation? l := by
    intro l
    rw [← hmanual, ← hdb₂]
    rfl
  obtain ⟨hd, hs, hr, -⟩ := reconcileShipment_writes ses s₂ ev db₂
  obtain ⟨hid₃, hload₃, hcreated₃, hdocId₃⟩ := reconcileShipment_row ses s₂ ev db₂
  have hdb : db.apply (insertShipment ses load db ++ [.document
      { document with shipmentId := some held.id }, .shipment s₂]) = db₂ := by
    rw [Database.apply_append, hdb₁, hdb₂]
  refine ⟨(reconcileShipment ses s₂ ev db₂).1, (reconcileShipment ses s₂ ev db₂).2.1,
    insertShipment ses load db ++ [.document { document with shipmentId := some held.id },
      .shipment s₂] ++ (reconcileShipment ses s₂ ev db₂).2.2, ?_, ?_, ?_⟩
  · simp only [assemble, hupsert, hdb]
  · rw [Database.apply_append, hdb]
    constructor
    case loadKey => exact hload₃.trans hload₂
    case createdAt => exact hcreated₃.trans hcreated₂
    case has =>
      intro d
      rw [reconcileShipment_has, noteRateConfirmation_has, hhas, hdocId₃, hload₂, hmanual₂,
        Bool.and_or_distrib_left, Bool.or_assoc, Bool.or_assoc]
    case docId => exact fun d => (hdocId₃ d).trans (hdocId d)
    case found =>
      rw [Database.shipment?, Database.shipments_apply, hs]
      exact Table.find?_put_of_found hkeyed₂ (decide_eq_true (hload₃.trans hload₂)) hfound₂
        hid₃.symm
    case keyed =>
      rw [Database.shipments_apply]
      exact Table.nodup_puts hkeyed₂
    case confirmed =>
      intro l
      rw [Database.rateConfirmation?_apply hr, hmanual₂]
    case documents =>
      intro k
      rw [Database.document?, Database.documents_apply, hd]
      show db₂.document? k = _
      rw [← hdb₂]
      show (db₁.write (.document _)).document? k = _
      rw [Database.document?_write_document]
      simp only [Database.document?, hdocuments₁]
  · have hpapers : shipmentPapers (reconcileShipment ses s₂ ev db₂).1
        (db.apply (insertShipment ses load db ++ [.document
          { document with shipmentId := some held.id }, .shipment s₂] ++
            (reconcileShipment ses s₂ ev db₂).2.2)) = shipmentPapers s₂ db₂ := by
      rw [Database.apply_append, hdb]
      refine shipmentPapers_congr hdocId₃ hload₃ (Database.rateConfirmation?_apply hr _) fun k => ?_
      rw [paper, Database.document?, Database.documents_apply, hd]
      rfl
    rw [hpapers]
    exact reconcileShipment_evaluated ses s₂ ev db₂

/-! ## What has been seen -/

/-- The slot of a document on file. -/
def slotOf (db : Database) (documentId : Nat) : Option Slot :=
  (db.document? documentId).bind fun document => docFields document.docType

/-- Whether a paper fills a slot, by the documents on file. -/
def Arriving.fills (db : Database) (d : Slot) : Arriving → Bool
  | .document documentId => slotOf db documentId = some d
  | .manual _ => d = .rateCon

/-- The papers of a load that has no shipment yet: at most one document of each
type, and at most one manual rate confirmation. -/
structure LoadSet (load : String) (items : List Arriving) (db : Database) : Prop where
  new : db.shipment? load = none
  unconfirmed : db.rateConfirmation? load = none
  keyed : Table.Keyed Shipment.id db.shipments
  nodup : items.Nodup
  filed : ∀ id, .document id ∈ items → ∃ d, slotOf db id = some d
  single : ∀ id id' d, .document id ∈ items → .document id' ∈ items →
    slotOf db id = some d → slotOf db id' = some d → id = id'
  confirmation : ∀ rc rc', .manual rc ∈ items → .manual rc' ∈ items → rc = rc'
  confirmationLoad : ∀ rc, .manual rc ∈ items → rc.loadNumber = load

/-- An order in which the papers of a load are processed.  The first one creates
the shipment, and the ids drawn for new documents are new. -/
structure OrderOf (load : String) (createdAt : Int) (items : List Arriving) (db : Database)
    (xs : List Processing) : Prop where
  perm : (xs.map Processing.item).Perm items
  loads : ∀ x ∈ xs, normalizeLoadNumber x.loadNumber = .ok (some load)
  companion : ∀ x ∈ xs, db.document? x.session.companionId = none
  created : ∀ x ∈ xs.head?, x.session.startedAt = createdAt

/-- The row holds the papers seen.  Which document is in the slot of the rate
confirmation is left open once a manual one was seen. -/
structure Gathered (load : String) (db : Database) (seen : List Arriving) (s : Shipment) :
    Prop where
  loadKey : s.loadNumber = load
  has : ∀ d, s.has d = seen.any (Arriving.fills db d)
  docId : ∀ d id, d ≠ .rateCon ∨ (∀ rc, .manual rc ∉ seen) →
    (s.docId d = some id ↔ .document id ∈ seen ∧ slotOf db id = some d)
  rateCon : (s.docId .rateCon).isSome = s.has .rateCon

/-- The database once some papers have been processed, from the database `db₀`. -/
structure Filed (load : String) (createdAt : Int) (db₀ : Database) (seen : List Arriving)
    (db : Database) : Prop where
  keyed : Table.Keyed Shipment.id db.shipments
  contents : ∀ id document, db₀.document? id = some document →
    ∃ shipmentId, db.document? id = some { document with shipmentId := shipmentId }
  confirmed : ∀ rc, db.rateConfirmation? load = some rc ↔ .manual rc ∈ seen
  row : seen = [] ∧ db.shipment? load = none ∨
    ∃ s, db.shipment? load = some s ∧ Gathered load db₀ seen s ∧ s.createdAt = createdAt

section

variable {load : String} {createdAt : Int} {items seen : List Arriving} {db₀ db : Database}

omit [PyRuntime] in
theorem LoadSet.start (h : LoadSet load items db) : Filed load createdAt db [] db where
  keyed := h.keyed
  contents id document hdoc := ⟨document.shipmentId, hdoc⟩
  confirmed rc := by simp [h.unconfirmed]
  row := .inl ⟨rfl, h.new⟩

omit [PyRuntime] in
/-- The row the next paper finds holds the papers seen. -/
theorem Filed.held (h : Filed load createdAt db₀ seen db) {ses : Session}
    (hfirst : seen = [] → ses.startedAt = createdAt) :
    Gathered load db₀ seen (heldShipment ses load db) ∧
      (heldShipment ses load db).createdAt = createdAt := by
  unfold heldShipment
  rcases h.row with ⟨rfl, hnone⟩ | ⟨s, hs, hgathered, hcreated⟩
  · rw [hnone]
    refine ⟨⟨rfl, fun d => ?_, fun d id _ => ?_, rfl⟩, hfirst rfl⟩
    · simp
    · simp
  · rw [hs]
    exact ⟨hgathered, hcreated⟩

omit [PyRuntime] in
/-- One more paper of a slot raises its flag, and the rate confirmation's flag
goes up only with a rate confirmation. -/
theorem Gathered.has_cons {slot : Slot} {document : Document} {held s : Shipment}
    {db' : Database} {item : Arriving} (h : Gathered load db₀ seen held)
    (ha : Assembled load slot document held s db db')
    (hitem : ∀ d, item.fills db₀ d = decide (slot = d))
    (hconf : (db.rateConfirmation? load).isSome = true →
      (item :: seen).any (Arriving.fills db₀ .rateCon) = true) :
    (∀ d, s.has d = (item :: seen).any (Arriving.fills db₀ d)) ∧
      (s.docId .rateCon).isSome = s.has .rateCon := by
  have hslot : (s.docId .rateCon).isSome =
      (decide (slot = .rateCon) || seen.any (Arriving.fills db₀ .rateCon)) := by
    rw [ha.docId, ← h.has, ← h.rateCon]
    by_cases hd : slot = .rateCon
    · rw [if_pos hd]
      cases held.docId .rateCon <;> simp [hd]
    · simp [hd]
  have hhas : ∀ d, s.has d = (item :: seen).any (Arriving.fills db₀ d) := by
    intro d
    rw [List.any_cons, hitem, ha.has, h.has]
    by_cases hd : d = .rateCon
    · subst hd
      rw [hslot]
      cases hrc : (db.rateConfirmation? load).isSome with
      | false => simp
      | true =>
          have hany := hconf hrc
          rw [List.any_cons, hitem] at hany
          rw [hany]
          rfl
    · simp [hd]
  refine ⟨hhas, ?_⟩
  rw [hhas, hslot, List.any_cons, hitem]

omit [PyRuntime] in
/-- A document that was not seen becomes the one of its slot. -/
theorem Gathered.document {slot : Slot} {document : Document} {held s : Shipment}
    {db' : Database} (hset : LoadSet load items db₀) (h : Gathered load db₀ seen held)
    (hseen : ∀ item ∈ seen, item ∈ items)
    (hin : .document document.id ∈ items) (hnew : .document document.id ∉ seen)
    (hslot : slotOf db₀ document.id = some slot)
    (ha : Assembled load slot document held s db db')
    (hconf : ∀ rc, db.rateConfirmation? load = some rc ↔ .manual rc ∈ seen) :
    Gathered load db₀ (.document document.id :: seen) s := by
  have hfills : ∀ d, (Arriving.document document.id).fills db₀ d = decide (slot = d) := by
    intro d
    simp [Arriving.fills, hslot]
  have hmanual : (db.rateConfirmation? load).isSome = true →
      (.document document.id :: seen).any (Arriving.fills db₀ .rateCon) = true := by
    intro hsome
    obtain ⟨rc, hrc⟩ := Option.isSome_iff_exists.mp hsome
    rw [List.any_eq_true]
    exact ⟨.manual rc, List.mem_cons_of_mem _ ((hconf rc).mp hrc), by simp [Arriving.fills]⟩
  obtain ⟨hhas, hrateCon⟩ := h.has_cons ha hfills hmanual
  refine ⟨ha.loadKey, hhas, fun d id hd => ?_, hrateCon⟩
  have hd' : d ≠ .rateCon ∨ ∀ rc, .manual rc ∉ seen := by
    rcases hd with hd | hd
    · exact .inl hd
    · exact .inr fun rc hrc => hd rc (List.mem_cons_of_mem _ hrc)
  rw [ha.docId]
  by_cases hsd : slot = d
  · subst hsd
    -- no other document of the slot was seen
    have hfree : held.docId slot = none := by
      cases hx : held.docId slot with
      | none => rfl
      | some id' =>
          obtain ⟨hmem, hslot'⟩ := (h.docId slot id' hd').mp hx
          have hid := hset.single _ _ _ (hseen _ hmem) hin hslot' hslot
          exact absurd (hid ▸ hmem) hnew
    rw [if_pos rfl, hfree, Option.none_or, Option.some.injEq]
    constructor
    · rintro rfl
      exact ⟨List.mem_cons_self .., hslot⟩
    · rintro ⟨hmem, hslot'⟩
      rcases List.mem_cons.mp hmem with hid | hmem
      · cases hid
        rfl
      · exact (hset.single _ _ _ (hseen _ hmem) hin hslot' hslot).symm
  · rw [if_neg hsd, h.docId d id hd']
    constructor
    · rintro ⟨hmem, hslot'⟩
      exact ⟨List.mem_cons_of_mem _ hmem, hslot'⟩
    · rintro ⟨hmem, hslot'⟩
      rcases List.mem_cons.mp hmem with hid | hmem
      · cases hid
        exact absurd (Option.some.inj (hslot.symm.trans hslot')) hsd
      · exact ⟨hmem, hslot'⟩

omit [PyRuntime] in
/-- A manual rate confirmation fills its slot and no other. -/
theorem Gathered.manual {document : Document} {rc : RateConfirmation} {held s : Shipment}
    {db' : Database} (h : Gathered load db₀ seen held)
    (ha : Assembled load .rateCon document held s db db') :
    Gathered load db₀ (.manual rc :: seen) s := by
  have hfills : ∀ d, (Arriving.manual rc).fills db₀ d = decide (Slot.rateCon = d) := by
    intro d
    simp [Arriving.fills, eq_comm]
  obtain ⟨hhas, hrateCon⟩ := h.has_cons ha hfills fun _ => by simp [Arriving.fills]
  refine ⟨ha.loadKey, hhas, fun d id hd => ?_, hrateCon⟩
  have hne : d ≠ .rateCon := by
    rcases hd with hd | hd
    · exact hd
    · exact absurd (List.mem_cons_self ..) (hd rc)
  rw [ha.docId, if_neg (Ne.symm hne), h.docId d id (.inl hne)]
  simp

/-- What a processed paper leaves: the database, the row and its evaluation. -/
structure Processed (load : String) (createdAt : Int) (db₀ : Database) (seen : List Arriving)
    (x : Processing) (s : Shipment) (r : ReconciliationResult) (db : Database) : Prop where
  filed : Filed load createdAt db₀ seen db
  found : db.shipment? load = some s
  gathered : Gathered load db₀ seen s
  created : s.createdAt = createdAt
  evaluated : Evaluated s r (shipmentPapers s db) x.clock.1 x.clock.2

/-- A paper of the set that was not seen is processed. -/
theorem Filed.process (hset : LoadSet load items db₀) (h : Filed load createdAt db₀ seen db)
    (hseen : ∀ item ∈ seen, item ∈ items) {x : Processing} (hin : x.item ∈ items)
    (hnew : x.item ∉ seen) (hnorm : normalizeLoadNumber x.loadNumber = .ok (some load))
    (hcompanion : db₀.document? x.session.companionId = none)
    (hfirst : seen = [] → x.session.startedAt = createdAt) :
    ∃ s r db', x.run db = .ok (some (s, r, db')) ∧
      Processed load createdAt db₀ (x.item :: seen) x s r db' := by
  obtain ⟨hheld, hcreated⟩ := h.held hfirst
  cases x with
  | document ses id loadNumber extraction ev =>
      obtain ⟨slot, hslot⟩ := hset.filed id hin
      obtain ⟨document₀, hdoc₀, htype⟩ := Option.bind_eq_some_iff.mp hslot
      obtain ⟨shipmentId, hdoc⟩ := h.contents id document₀ hdoc₀
      have hid : document₀.id = id := Table.get?_some_key hdoc₀
      have hsettled : slot = .rateCon ∨ ((heldShipment ses load db).docId .rateCon).isSome = true ∨
          db.rateConfirmation? load = none := by
        cases hrc : db.rateConfirmation? load with
        | none => exact .inr (.inr rfl)
        | some rc =>
            refine .inr (.inl (hheld.rateCon.trans ((hheld.has .rateCon).trans ?_)))
            rw [List.any_eq_true]
            exact ⟨.manual rc, (h.confirmed rc).mp hrc, by simp [Arriving.fills]⟩
      obtain ⟨s, r, ws, hassemble, ha, he⟩ := assemble_spec
        { document₀ with shipmentId := shipmentId } extraction ev htype hnorm h.keyed hsettled
      have hgathered : Gathered load db₀ (.document id :: seen) s := by
        have hg := hheld.document hset hseen (hid ▸ hin) (hid ▸ hnew) (hid ▸ hslot) ha h.confirmed
        exact hid ▸ hg
      simp only [Processing.loadNumber] at hassemble
      refine ⟨s, r, db.apply ws, by simp only [Processing.run, hdoc, hassemble], ?_, ha.found,
        hgathered, ha.createdAt.trans hcreated, he⟩
      refine ⟨ha.keyed, fun k document hk => ?_, fun rc => ?_,
        .inr ⟨s, ha.found, hgathered, ha.createdAt.trans hcreated⟩⟩
      · rw [ha.documents]
        split
        next heq =>
          have hsame : document = document₀ := by
            rw [← show id = k from hid.symm.trans heq, hdoc₀] at hk
            exact (Option.some.inj hk).symm
          rw [hsame]
          exact ⟨_, rfl⟩
        next => exact h.contents k document hk
      · rw [ha.confirmed, h.confirmed]
        simp [Processing.item]
  | manual ses rc now =>
      have hload : rc.loadNumber = load := hset.confirmationLoad rc hin
      have hnone : db.rateConfirmation? load = none := by
        cases hrc : db.rateConfirmation? load with
        | none => rfl
        | some rc' =>
            have hmem := (h.confirmed rc').mp hrc
            exact absurd (hset.confirmation _ _ (hseen _ hmem) hin ▸ hmem) hnew
      -- the rows that are added before the shipment is assembled
      have hopenedRc : (db.apply [.rateConfirmation rc, .document
          (manualDocument ses rc)]).rateConfirmation? load = some rc :=
        Table.find?_put_of_none (decide_eq_true hload) hnone
      have hopenedDoc : ∀ k, (db.apply [.rateConfirmation rc, .document
          (manualDocument ses rc)]).document? k =
          if ses.companionId = k then some (manualDocument ses rc) else db.document? k :=
        fun k => Database.document?_write_document ..
      have hopenedShipments : (db.apply [.rateConfirmation rc, .document
          (manualDocument ses rc)]).shipments = db.shipments := rfl
      have hopenedHeld : heldShipment ses load (db.apply [.rateConfirmation rc, .document
          (manualDocument ses rc)]) = heldShipment ses load db := rfl
      have hrun : (Processing.manual ses rc now).run db =
          match assemble ses (some rc.loadNumber) (manualDocument ses rc)
              (rateConfirmationExtraction rc) (Processing.manual ses rc now).evaluation
              (db.apply [.rateConfirmation rc, .document (manualDocument ses rc)]) with
          | .error message => .error message
          | .ok none => .ok none
          | .ok (some (s, r, ws)) => .ok (some (s, r, (db.apply [.rateConfirmation rc, .document
              (manualDocument ses rc)]).apply ws)) := by
        simp only [Processing.run, hload, hnone, Option.isSome_none, Bool.false_eq_true, if_false]
      generalize db.apply [.rateConfirmation rc, .document (manualDocument ses rc)] = opened at *
      have hslot : docFields (manualDocument ses rc).docType = some .rateCon := rfl
      obtain ⟨s, r, ws, hassemble, ha, he⟩ := assemble_spec (manualDocument ses rc)
        (rateConfirmationExtraction rc) (Processing.manual ses rc now).evaluation hslot hnorm
        (hopenedShipments ▸ h.keyed) (.inl rfl)
      rw [hopenedHeld] at ha
      have hgathered : Gathered load db₀ (.manual rc :: seen) s := hheld.manual ha
      refine ⟨s, r, opened.apply ws, ?_, ?_, ha.found, hgathered, ha.createdAt.trans hcreated, he⟩
      · rw [hrun]
        simp only [Processing.loadNumber] at hassemble
        simp only [hassemble]
      · refine ⟨ha.keyed, fun k document hk => ?_, fun rc' => ?_,
          .inr ⟨s, ha.found, hgathered, ha.createdAt.trans hcreated⟩⟩
        · have hne : ses.companionId ≠ k := by
            rintro rfl
            cases hcompanion.symm.trans hk
          rw [ha.documents, if_neg (show (manualDocument ses rc).id ≠ k from hne), hopenedDoc,
            if_neg hne]
          exact h.contents k document hk
        · rw [ha.confirmed, hopenedRc, Option.some.injEq]
          constructor
          · rintro rfl
            exact List.mem_cons_self ..
          · intro hmem
            rcases List.mem_cons.mp hmem with heq | hmem
            · cases heq
              rfl
            · exact hset.confirmation _ _ hin (hseen _ hmem)

/-! ## A whole order -/

/-- The papers that were not seen are processed one after another. -/
theorem runAll_spec (hset : LoadSet load items db₀) {xs : List Processing}
    (hloads : ∀ x ∈ xs, normalizeLoadNumber x.loadNumber = .ok (some load))
    (hcompanion : ∀ x ∈ xs, db₀.document? x.session.companionId = none)
    (hfirst : seen = [] → ∀ x ∈ xs.head?, x.session.startedAt = createdAt)
    (hperm : (xs.map Processing.item ++ seen).Perm items) (h : Filed load createdAt db₀ seen db)
    (last : Option (Shipment × ReconciliationResult)) :
    ∃ last' db', Processing.runAll last db xs = .ok (last', db') ∧
      ∀ front x, xs = front ++ [x] → ∃ seen' s r, last' = some (s, r) ∧ seen'.Perm items ∧
        Processed load createdAt db₀ seen' x s r db' := by
  induction xs generalizing seen db last with
  | nil => exact ⟨last, db, rfl, fun front x h => by simp at h⟩
  | cons x xs ih =>
      have hnodup : (x.item :: (xs.map Processing.item ++ seen)).Nodup :=
        hperm.nodup_iff.mpr hset.nodup
      have hnew : x.item ∉ seen := fun hm =>
        (List.nodup_cons.mp hnodup).1 (List.mem_append_right _ hm)
      have hin : x.item ∈ items := hperm.subset (List.mem_cons_self ..)
      have hseen : ∀ item ∈ seen, item ∈ items := fun item hm =>
        hperm.subset (List.mem_append_right _ hm)
      obtain ⟨s, r, db', hrun, hprocessed⟩ := h.process hset hseen hin hnew
        (hloads x (List.mem_cons_self ..)) (hcompanion x (List.mem_cons_self ..))
        fun hnil => hfirst hnil x rfl
      have hperm' : (xs.map Processing.item ++ x.item :: seen).Perm items :=
        List.perm_middle.trans hperm
      obtain ⟨last', db'', hrest, hlast⟩ := ih
        (fun y hy => hloads y (List.mem_cons_of_mem _ hy))
        (fun y hy => hcompanion y (List.mem_cons_of_mem _ hy))
        (fun hnil => by cases hnil) hperm' hprocessed.filed (some (s, r))
      refine ⟨last', db'', by simp only [Processing.runAll, hrun, hrest], ?_⟩
      rintro front y hxs
      cases xs with
      | nil =>
          cases hrest
          have hy : x = y := by simpa using congrArg List.getLast? hxs
          subst hy
          exact ⟨_, s, r, rfl, hperm', hprocessed⟩
      | cons z zs =>
          obtain ⟨w, front, rfl⟩ : ∃ w front', front = w :: front' := by
            cases front with
            | nil => simp at hxs
            | cons w front' => exact ⟨w, front', rfl⟩
          exact hlast front y (List.cons.inj hxs).2

/-- What a shipment and its last result say, but for the document in the slot of
the rate confirmation. -/
structure SameVerdict (s t : Shipment) (r q : ReconciliationResult) : Prop where
  has : ∀ d, s.has d = t.has d
  invoiceId : s.invoiceId = t.invoiceId
  bolId : s.bolId = t.bolId
  podId : s.podId = t.podId
  status : s.reconciliationStatus = t.reconciliationStatus
  checks : r.checks = q.checks
  missingDocs : r.missingDocs = q.missingDocs
  exceptionReasons : r.exceptionReasons = q.exceptionReasons

omit [PyRuntime] in
/-- The contents of the documents of the set stay as they were. -/
theorem Filed.paper_eq (h : Filed load createdAt db₀ seen db) {id : Nat} {d : Slot}
    (hslot : slotOf db₀ id = some d) : paper db id = paper db₀ id := by
  obtain ⟨document, hdoc, -⟩ := Option.bind_eq_some_iff.mp hslot
  obtain ⟨shipmentId, hrow⟩ := h.contents id document hdoc
  simp only [paper, hrow, hdoc, docExtraction]

omit [PyRuntime] in
/-- Rows that hold the same papers agree on the slots that are settled. -/
theorem Gathered.docId_eq {seen' : List Arriving} {s t : Shipment}
    (hs : Gathered load db₀ seen s) (ht : Gathered load db₀ seen' t) (hperm : seen.Perm seen')
    {d : Slot} (hd : d ≠ .rateCon ∨ ∀ rc, .manual rc ∉ seen) : s.docId d = t.docId d := by
  have hd' : d ≠ .rateCon ∨ ∀ rc, .manual rc ∉ seen' :=
    hd.imp_right fun hno rc hrc => hno rc (hperm.mem_iff.mpr hrc)
  refine Option.ext fun id => ?_
  rw [hs.docId d id hd, ht.docId d id hd', hperm.mem_iff]

/-- Papers that were processed to their end in two orders come to one verdict. -/
theorem Processed.same {seen' : List Arriving} {x y : Processing} {s t : Shipment}
    {r q : ReconciliationResult} {db' : Database}
    (hs : Processed load createdAt db₀ seen x s r db)
    (ht : Processed load createdAt db₀ seen' y t q db') (hperm : seen.Perm seen')
    (hclock : x.clock = y.clock) : SameVerdict s t r q := by
  have hhas : ∀ d, s.has d = t.has d := by
    intro d
    rw [hs.gathered.has, ht.gathered.has]
    exact hperm.any_eq
  have hcreated : s.createdAt = t.createdAt := hs.created.trans ht.created.symm
  have hconfirmed : db.rateConfirmation? load = db'.rateConfirmation? load := by
    refine Option.ext fun rc => ?_
    rw [hs.filed.confirmed, ht.filed.confirmed, hperm.mem_iff]
  have hpaper : ∀ d, d ≠ .rateCon ∨ (∀ rc, .manual rc ∉ seen) →
      (s.docId d).bind (paper db) = (t.docId d).bind (paper db') := by
    intro d hd
    rw [← hs.gathered.docId_eq ht.gathered hperm hd]
    cases hid : s.docId d with
    | none => rfl
    | some id =>
        have hslot := ((hs.gathered.docId d id hd).mp hid).2
        exact (hs.filed.paper_eq hslot).trans (ht.filed.paper_eq hslot).symm
  have hpapers : shipmentPapers s db = shipmentPapers t db' := by
    have hinvoice := hpaper .invoice (.inl (by simp))
    have hbol := hpaper .bol (.inl (by simp))
    have hpod := hpaper .pod (.inl (by simp))
    simp only [Shipment.docId] at hinvoice hbol hpod
    simp only [shipmentPapers, docExtraction_bind, hs.gathered.loadKey, ht.gathered.loadKey,
      ← hconfirmed, hinvoice, hbol, hpod, Papers.mk.injEq, true_and, and_true]
    cases hrc : db.rateConfirmation? load with
    | some rc => rfl
    | none =>
        -- without a manual rate confirmation its slot is settled too
        refine hpaper .rateCon (.inr fun rc hrc' => ?_)
        cases hrc.symm.trans ((hs.filed.confirmed rc).mpr hrc')
  have hpolicy := evaluateMissingDocumentPolicy_congr (fun d => (hhas d).symm) hcreated.symm
    x.clock.1 x.clock.2
  have he := hs.evaluated
  have he' := ht.evaluated
  rw [← hclock, ← hpapers] at he'
  constructor
  case has => exact hhas
  case invoiceId => exact hs.gathered.docId_eq ht.gathered hperm (d := .invoice) (.inl (by simp))
  case bolId => exact hs.gathered.docId_eq ht.gathered hperm (d := .bol) (.inl (by simp))
  case podId => exact hs.gathered.docId_eq ht.gathered hperm (d := .pod) (.inl (by simp))
  case status =>
    rw [he.status, he'.status]
    exact (reconciliationStatus_congr (fun d => (hhas d).symm) hcreated.symm ..).symm
  case checks =>
    rw [he.checks, he'.checks, hpolicy, evidence_congr fun d => (hhas d).symm]
  case missingDocs => rw [he.missing, he'.missing, hpolicy]
  case exceptionReasons =>
    rw [he.reasons, he'.reasons, hpolicy, evidence_congr fun d => (hhas d).symm]

/-- Two orders of the papers of a load come to the same shipment and the same
verdict, when they start at the same time and end with the same evaluation. -/
theorem assembly_confluent (hset : LoadSet load items db) (hne : items ≠ [])
    {xs ys : List Processing} (hxs : OrderOf load createdAt items db xs)
    (hys : OrderOf load createdAt items db ys)
    (hclock : xs.getLast?.map Processing.clock = ys.getLast?.map Processing.clock) :
    ∃ s r db₁ t q db₂, Processing.runAll none db xs = .ok (some (s, r), db₁) ∧
      Processing.runAll none db ys = .ok (some (t, q), db₂) ∧
      db₁.shipment? load = some s ∧ db₂.shipment? load = some t ∧ SameVerdict s t r q := by
  have hrun : ∀ {zs : List Processing}, OrderOf load createdAt items db zs →
      ∃ x seen s r db', zs.getLast? = some x ∧
        Processing.runAll none db zs = .ok (some (s, r), db') ∧ seen.Perm items ∧
        Processed load createdAt db seen x s r db' := by
    intro zs hzs
    obtain ⟨last, db', hall, hlast⟩ := runAll_spec hset hzs.loads hzs.companion
      (fun _ => hzs.created) (by rw [List.append_nil]; exact hzs.perm) hset.start none
    have hzne : zs ≠ [] := by
      rintro rfl
      exact hne hzs.perm.symm.eq_nil
    obtain ⟨seen, s, r, rfl, hperm, hprocessed⟩ := hlast zs.dropLast (zs.getLast hzne)
      (List.dropLast_append_getLast hzne).symm
    exact ⟨_, seen, s, r, db', List.getLast?_eq_some_getLast hzne, hall, hperm, hprocessed⟩
  obtain ⟨x, seen, s, r, db₁, hx, hall, hperm, hprocessed⟩ := hrun hxs
  obtain ⟨y, seen', t, q, db₂, hy, hall', hperm', hprocessed'⟩ := hrun hys
  rw [hx, hy] at hclock
  exact ⟨s, r, db₁, t, q, db₂, hall, hall', hprocessed.found, hprocessed'.found,
    hprocessed.same hprocessed' (hperm.trans hperm'.symm) (Option.some.inj hclock)⟩

end

/-! ## A load in two orders -/

section

omit [PyRuntime]

/-- An invoice and a mailed rate confirmation of the load LD-001. -/
def mailedPapers : Database :=
  { Database.empty with
    documents :=
      [⟨1, "a.pdf", "invoice", "extracted",
          some [("carrier_name", .str "ACME"), ("total_amount", .int 1000)], none⟩,
        ⟨2, "b.pdf", "rate_confirmation", "extracted",
          some [("carrier_name", .str "OTHER"), ("total_amount", .int 500)], none⟩] }

/-- A manual rate confirmation of the load. -/
def manualPaper : RateConfirmation where
  id := "rc1"
  loadNumber := "LD-001"
  carrierName := "Acme"
  origin := "A"
  destination := "B"
  agreedRate := 1000
  currency := "USD"
  shipmentDate := 20653

/-- The manual rate confirmation comes first, or last. -/
def manualFirst : List Processing :=
  [.manual ⟨10, 10, 100, "s1", 11, "q1", "x1", "y1"⟩ manualPaper 10,
    .document ⟨20, 20, 100, "s2", 12, "q2", "x2", "y2"⟩ 2 (some "ld-001") [] (.ofRun "r2"),
    .document ⟨30, 30, 100, "s3", 13, "q3", "x3", "y3"⟩ 1 (some "LD-001") [] (.ofRun "r1")]

@[inherit_doc manualFirst]
def manualLast : List Processing :=
  [.document ⟨10, 10, 100, "s1", 11, "q1", "x1", "y1"⟩ 1 (some "LD-001") [] (.ofRun "r1"),
    .document ⟨20, 20, 100, "s2", 12, "q2", "x2", "y2"⟩ 2 (some " LD-001") [] (.ofRun "r2"),
    .manual ⟨30, 30, 100, "s3", 13, "q3", "x3", "y3"⟩ manualPaper 30]

theorem assembly_confluent_sample :
    letI := asciiRuntime
    ∃ s r db₁ t q db₂,
      Processing.runAll none mailedPapers manualFirst = .ok (some (s, r), db₁) ∧
      Processing.runAll none mailedPapers manualLast = .ok (some (t, q), db₂) ∧
      db₁.shipment? "LD-001" = some s ∧ db₂.shipment? "LD-001" = some t ∧ SameVerdict s t r q := by
  let := asciiRuntime
  have hslot₁ : slotOf mailedPapers 1 = some .invoice := by decide
  have hslot₂ : slotOf mailedPapers 2 = some .rateCon := by decide
  have hset : LoadSet "LD-001" [.document 1, .document 2, .manual manualPaper] mailedPapers := by
    constructor
    case new => rfl
    case unconfirmed => rfl
    case keyed => exact List.nodup_nil
    case nodup => decide
    case filed =>
      intro id hid
      simp only [List.mem_cons, Arriving.document.injEq, reduceCtorEq, List.not_mem_nil, or_false]
        at hid
      rcases hid with rfl | rfl
      · exact ⟨_, hslot₁⟩
      · exact ⟨_, hslot₂⟩
    case single =>
      intro id id' d hid hid' hd hd'
      simp only [List.mem_cons, Arriving.document.injEq, reduceCtorEq, List.not_mem_nil, or_false]
        at hid hid'
      rcases hid with rfl | rfl <;> rcases hid' with rfl | rfl
      · rfl
      · cases hslot₁.symm.trans (hd.trans (hd'.symm.trans hslot₂))
      · cases hslot₁.symm.trans (hd'.trans (hd.symm.trans hslot₂))
      · rfl
    case confirmation =>
      intro rc rc' hrc hrc'
      simp only [List.mem_cons, Arriving.manual.injEq, reduceCtorEq, List.not_mem_nil, or_false,
        false_or] at hrc hrc'
      rw [hrc, hrc']
    case confirmationLoad =>
      intro rc hrc
      simp only [List.mem_cons, Arriving.manual.injEq, reduceCtorEq, List.not_mem_nil, or_false,
        false_or] at hrc
      rw [hrc]
      rfl
  refine @assembly_confluent _ _ 10 _ _ hset (by simp) _ _ ⟨by decide, ?_, by decide, ?_⟩
    ⟨by decide, ?_, by decide, ?_⟩ (by decide)
  · decide +kernel
  · decide
  · decide +kernel
  · decide

end

end FreightAP
