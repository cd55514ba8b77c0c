import FreightAP.Workflow.OwnDocument

/-!
# Arrival orders

The four documents of one load, processed one after another.  `Arrived` is the
database once the documents of some slots are in, whatever order they came in,
and `Arrived.process` adds one more.  A run's posting status is fixed by the
shipment its own match transaction found, so only the run of the last document
is ready for posting.
-/

namespace FreightAP

open Transition

variable [PyRuntime]

/-! ## The documents of a load -/

/-- A document to process: its row, its extraction, its session, and the next id
of the documents. -/
structure Job where
  documentId : Nat
  runId : String
  filename : String
  extraction : Extraction
  session : Session
  newDocumentId : Nat

/-- What its run meets. -/
def Job.env (j : Job) : NodeEnv := 
  ⟨.ok j.extraction, .error "not asked", j.session, j.newDocumentId⟩

/-- The input of its run. -/
def Job.state (j : Job) : WorkflowState := initialState j.runId j.documentId j.filename []

/-- The papers of a load. -/
def loadPapers (job : Slot → Job) : Papers where
  invoice := some (job .invoice).extraction
  rateCon := some (job .rateCon).extraction
  bol := some (job .bol).extraction
  pod := some (job .pod).extraction

/-- Four documents of one load that agree on every check and arrive within the
SLA. -/
structure AgreeingLoad (job : Slot → Job) (loadNumber : String) : Prop where
  docType : ∀ d, docFields ((job d).extraction.get "doc_type").text = some d
  load : ∀ d, ∃ text, loadNumberOf (some (job d).extraction) = .ok text ∧
    normalizeLoadNumber text = .ok (some loadNumber)
  distinct : ∀ d d', (job d).documentId = (job d').documentId → d = d'
  agree : (loadPapers job).Agree
  inTime : ∀ d d',
    (job d).session.clock < (job d').session.startedAt + (job d).session.slaDuration

/-- The documents of a load, each processed to its end before the next, with
the posting status of each run. -/
inductive Arrivals (job : Slot → Job) :
    List Slot → Database → List (Slot × PostingStatus) → Database → Prop where
  | nil {db : Database} : Arrivals job [] db [] db
  | cons {d : Slot} {order : List Slot} {db db' : Database} {x : Process}
      {resumes : List (Option String)} {outcomes : List (Slot × PostingStatus)} :
      Run (Fires (Process.step (job d).env)) (.start (job d).state db) resumes x →
      x.graph.checkpoint.next = none → Arrivals job order x.db outcomes db' →
      Arrivals job (d :: order) db ((d, x.graph.checkpoint.values.postingStatus) :: outcomes) db'

/-! ## The shipment so far -/

/-- Every slot has been seen. -/
def Complete (seen : List Slot) : Prop := ∀ d, d ∈ seen

instance (seen : List Slot) : Decidable (Complete seen) :=
  decidable_of_iff (∀ d ∈ Slot.all, d ∈ seen)
    ⟨fun h d => h d (by cases d <;> decide), fun h d _ => h d⟩

/-- The row holds the documents of the slots seen. -/
structure Holds (job : Slot → Job) (seen : List Slot) (s : Shipment) : Prop where
  has : ∀ d, s.has d = decide (d ∈ seen)
  docId : ∀ d, s.docId d = if d ∈ seen then some (job d).documentId else none
  createdAt : ∃ d, s.createdAt = (job d).session.startedAt

/-- The database once the documents of some slots have been processed. -/
structure Arrived (job : Slot → Job) (loadNumber : String) (seen : List Slot) (db : Database) :
    Prop where
  manual : db.rateConfirmation? loadNumber = none
  keyed : Table.Keyed Shipment.id db.shipments
  received : ∀ d, (db.document? (job d).documentId).isSome
  contents : ∀ d ∈ seen, paper db (job d).documentId = some (job d).extraction
  row : seen = [] ∧ db.shipment? loadNumber = none ∨
    ∃ s, db.shipment? loadNumber = some s ∧ Holds job seen s ∧
      s.reconciliationStatus = if Complete seen then .reconciled else .partialSet

section

variable {job : Slot → Job} {loadNumber : String} {seen : List Slot} {db : Database}

omit [PyRuntime] in
/-- The row the next document finds holds the documents seen. -/
theorem Arrived.held (h : Arrived job loadNumber seen db) (d : Slot) :
    Holds job seen (heldShipment (job d).session loadNumber db) := by
  unfold heldShipment
  rcases h.row with ⟨rfl, hn⟩ | ⟨s, hs, hh, -⟩
  · rw [hn]
    exact ⟨by simp, by simp, d, rfl⟩
  · rw [hs]
    exact hh

/-- With no manual rate confirmation a document just fills its slot. -/
theorem Holds.attach {s : Shipment} {document : Document} {d : Slot} {e : Extraction}
    (ses : Session) (hs : Holds job seen s) (hd : d ∉ seen)
    (hid : document.id = (job d).documentId) (hslot : docFields document.docType = some d)
    (hrc : db.rateConfirmation? s.loadNumber = none) :
    Holds job (d :: seen) (attachDocument ses s document e db).1 ∧
      (attachDocument ses s document e db).2 =
        [.document { document with shipmentId := some s.id },
          .shipment (attachDocument ses s document e db).1] := by
  have hhas : ∀ d', (fillCarrier (fillSlot s document) e).has d' = decide (d' ∈ d :: seen) := by
    intro d'
    rw [fillCarrier_has, fillSlot_has hslot, hs.has, ← Bool.decide_or, decide_eq_decide,
      List.mem_cons]
    exact or_congr_left eq_comm
  have hdoc : ∀ d', (fillCarrier (fillSlot s document) e).docId d' =
      if d' ∈ d :: seen then some (job d').documentId else none := by
    intro d'
    rw [fillCarrier_docId, fillSlot_docId hslot]
    by_cases hdd : d = d'
    · subst hdd
      rw [if_pos rfl, hs.docId, if_neg hd, if_pos (List.mem_cons_self ..), hid]
      rfl
    · rw [if_neg hdd, hs.docId]
      simp [Ne.symm hdd]
  have hnone : attachExistingRateConfirmation ses (fillCarrier (fillSlot s document) e) db =
      (fillCarrier (fillSlot s document) e, []) := attachExisting_none ses
    (by rw [fillCarrier_loadNumber, fillSlot_loadNumber]; exact hrc) (fun hr => by
      have hr' : ((fillCarrier (fillSlot s document) e).docId .rateCon).isSome = true := hr
      have hh := hhas .rateCon
      rw [hdoc] at hr'
      by_cases hm : Slot.rateCon ∈ d :: seen
      · exact hh.trans (decide_eq_true hm)
      · rw [if_neg hm] at hr'
        cases hr')
  have hrow : (attachDocument ses s document e db).1 =
      { fillCarrier (fillSlot s document) e with
        reconciliationStatus := statusOfPresence (fillCarrier (fillSlot s document) e) } := by
    simp only [attachDocument, hnone]
  refine ⟨⟨?_, ?_, ?_⟩, ?_⟩
  · intro d'
    rw [hrow, ← hhas d']
    cases d' <;> rfl
  · intro d'
    rw [hrow, ← hdoc d']
    cases d' <;> rfl
  · obtain ⟨d₀, h₀⟩ := hs.createdAt
    exact ⟨d₀, attachDocument_createdAt.trans h₀⟩
  · rw [attachDocument_writes, hnone]
    rfl

/-- The papers of a row are the extractions of the slots it holds. -/
theorem Holds.papers {s : Shipment} (hs : Holds job seen s)
    (hrc : db.rateConfirmation? s.loadNumber = none)
    (hc : ∀ d ∈ seen, paper db (job d).documentId = some (job d).extraction) :
    shipmentPapers s db =
      { invoice := if .invoice ∈ seen then some (job .invoice).extraction else none
        rateCon := if .rateCon ∈ seen then some (job .rateCon).extraction else none
        bol := if .bol ∈ seen then some (job .bol).extraction else none
        pod := if .pod ∈ seen then some (job .pod).extraction else none } := by
  have hslot : ∀ d, (s.docId d).bind (paper db) =
      if d ∈ seen then some (job d).extraction else none := by
    intro d
    rw [hs.docId]
    by_cases hd : d ∈ seen
    · rw [if_pos hd, if_pos hd]
      exact hc d hd
    · rw [if_neg hd, if_neg hd]
      rfl
  rw [← hslot .invoice, ← hslot .rateCon, ← hslot .bol, ← hslot .pod]
  simp only [shipmentPapers, docExtraction_bind, hrc]
  rfl

omit [PyRuntime] in
theorem noteRateConfirmation_none {s : Shipment} (h : db.rateConfirmation? s.loadNumber = none) :
    noteRateConfirmation s db = s := by
  rw [noteRateConfirmation, h]
  rfl

/-- Reconciling a row that holds some of an agreeing load's documents raises no
reason, and finds it reconciled when it holds all four. -/
theorem Holds.reconcile {s : Shipment} (hl : AgreeingLoad job loadNumber)
    (hs : Holds job seen s) (hrc : db.rateConfirmation? s.loadNumber = none)
    (hc : ∀ d ∈ seen, paper db (job d).documentId = some (job d).extraction) (d : Slot)
    (runId : String) :
    (reconcileShipment (job d).session s (.ofRun runId) db).2.1.exceptionReasons = [] ∧
      (reconcileShipment (job d).session s (.ofRun runId) db).1.reconciliationStatus =
        if Complete seen then .reconciled else .partialSet := by
  obtain ⟨d₀, hcreated⟩ := hs.createdAt
  have hpapers := hs.papers hrc hc
  have hquiet : (evidence s (shipmentPapers s db)
      (evaluateMissingDocumentPolicy s (job d).session.clock
        (job d).session.slaDuration)).exceptionReasons = [] := by
    refine quiet_evidence hl.agree ?_ ?_ (by rw [hcreated]; exact hl.inTime d d₀)
    · rw [hpapers]
      refine ⟨?_, ?_, ?_, ?_⟩
      · exact (ite_eq_or_eq _ _ _).symm
      · exact (ite_eq_or_eq _ _ _).symm
      · exact (ite_eq_or_eq _ _ _).symm
      · exact (ite_eq_or_eq _ _ _).symm
    · intro hpod
      have hmem : Slot.pod ∈ seen := of_decide_eq_true ((hs.has .pod).symm.trans hpod)
      rw [hpapers]
      exact if_pos hmem
  have hnote := noteRateConfirmation_none hrc
  refine ⟨?_, ?_⟩
  · have hres : ∀ o, (resultRow (job d).session
        (reconcileShipment (job d).session s (.ofRun runId) db).1 (.ofRun runId)
        (evidence s (shipmentPapers s db) (evaluateMissingDocumentPolicy s
          (job d).session.clock (job d).session.slaDuration))
        (evaluateMissingDocumentPolicy s (job d).session.clock
          (job d).session.slaDuration).missingDocs o).exceptionReasons = [] := by
      intro o
      cases o <;> exact hquiet
    rw [reconcileShipment_result, hnote]
    exact hres _
  · have hstatus : (reconcileShipment (job d).session s (.ofRun runId) db).1.reconciliationStatus =
        reconciliationStatus s (shipmentPapers s db) (job d).session.clock
          (job d).session.slaDuration := by
      rw [← hnote]
      simp only [reconcileShipment, hnote]
      rfl
    rw [hstatus]
    by_cases hall : Complete seen
    · rw [if_pos hall]
      refine reconciliationStatus_eq_reconciled.mpr ⟨fun d' => ?_, ?_⟩
      · rw [hs.has]
        exact decide_eq_true (hall d')
      · rw [hpapers, if_pos (hall _), if_pos (hall _), if_pos (hall _), if_pos (hall _)]
        exact hl.agree
    · rw [if_neg hall]
      have hmissing : (evaluateMissingDocumentPolicy s (job d).session.clock
          (job d).session.slaDuration).missingDocs ≠ [] := by
        intro hnil
        refine hall fun d' => ?_
        have hm : s.missingSlots = [] := by simpa [evaluateMissingDocumentPolicy] using hnil
        exact of_decide_eq_true ((hs.has d').symm.trans ((missingSlots_eq_nil s).mp hm d'))
      simp [reconciliationStatus, statusOfEvidence, hquiet, hmissing]

/-! ## One more document -/

/-- The attached row of a document and its database, in the middle of the match
transaction. -/
structure Attached (job : Slot → Job) (loadNumber : String) (seen : List Slot) (s : Shipment)
    (db : Database) : Prop where
  holds : Holds job seen s
  load : s.loadNumber = loadNumber
  manual : db.rateConfirmation? loadNumber = none
  keyed : Table.Keyed Shipment.id db.shipments
  received : ∀ d, (db.document? (job d).documentId).isSome
  contents : ∀ d ∈ seen, paper db (job d).documentId = some (job d).extraction
  found : db.shipment? loadNumber = some s

/-- The extraction stores the content of the document and nothing else. -/
theorem Arrived.contents_extract (hl : AgreeingLoad job loadNumber)
    (h : Arrived job loadNumber seen db) (d : Slot) :
    ∀ d' ∈ d :: seen, paper (afterExtract (job d).runId (job d).newDocumentId (job d).documentId
      (job d).filename (job d).extraction db) (job d').documentId = some (job d').extraction := by
  intro d' hd'
  refine (paper_write_document ..).trans ?_
  rw [extractedDocument_id (h.received d)]
  split
  next heq =>
    rw [← hl.distinct d d' heq]
    rfl
  next hne =>
    rcases List.mem_cons.mp hd' with rfl | hd'
    · exact absurd rfl hne
    · exact h.contents d' hd'

/-- The match transaction attaches the document to the row it locks. -/
theorem Arrived.attach (hl : AgreeingLoad job loadNumber) (h : Arrived job loadNumber seen db)
    {d : Slot} (hd : d ∉ seen) :
    ∃ s db₂, matchStart (job d).session (job d).documentId (job d).extraction
        (afterExtract (job d).runId (job d).newDocumentId (job d).documentId (job d).filename
          (job d).extraction db) = some (s, db₂) ∧
      Attached job loadNumber (d :: seen) s db₂ := by
  obtain ⟨text, htext, hnorm⟩ := hl.load d
  have hcontents := h.contents_extract hl d
  have hid := extractedDocument_id (h.received d) (job d).newDocumentId (job d).filename
    (job d).extraction
  have hfound := afterExtract_document (h.received d) (job d).runId (job d).newDocumentId
    (job d).filename (job d).extraction
  have hslot : docFields (extractedDocument (job d).newDocumentId (job d).documentId
      (job d).filename (job d).extraction db).docType = some d := hl.docType d
  generalize hdoc : extractedDocument (job d).newDocumentId (job d).documentId (job d).filename
    (job d).extraction db = document at hid hfound hslot
  generalize hdb : afterExtract (job d).runId (job d).newDocumentId (job d).documentId
    (job d).filename (job d).extraction db = db₁ at hcontents hfound ⊢
  have hheld : Holds job seen (heldShipment (job d).session loadNumber db₁) := hdb ▸ h.held d
  have hkeyed : Table.Keyed Shipment.id db₁.shipments := hdb ▸ h.keyed
  have hreceived : ∀ d', (db₁.document? (job d').documentId).isSome := fun d' =>
    hdb ▸ Database.document?_isSome_apply (h.received d') [.document _, .audit _ _]
  have hmanual : (db₁.apply (insertShipment (job d).session loadNumber db₁)).rateConfirmation?
      loadNumber = none := by
    rw [Database.rateConfirmation?, insertShipment_rateConfirmations]
    exact hdb ▸ h.manual
  have hload : (heldShipment (job d).session loadNumber db₁).loadNumber = loadNumber :=
    heldShipment_loadNumber
  have hmanual' : (db₁.apply (insertShipment (job d).session loadNumber db₁)).rateConfirmation?
      (heldShipment (job d).session loadNumber db₁).loadNumber = none := by
    rw [hload]
    exact hmanual
  obtain ⟨hattached, hws⟩ := hheld.attach (e := (job d).extraction) (job d).session hd hid hslot
    hmanual'
  have hkeyed' := insertShipment_keyed (job d).session loadNumber hkeyed
  rw [← hid] at hfound ⊢
  refine ⟨_, _, matchStart_eq (job d).session hfound htext hnorm, hattached,
    attachDocument_loadNumber.trans hload, ?_, ?_, fun d' => ?_, ?_, ?_⟩
  · rw [attachDocument_rateConfirmation?]
    exact hmanual
  · rw [hws]
    exact Table.nodup_put hkeyed'
  · exact Database.document?_isSome_apply
      (Database.document?_isSome_apply (hreceived d') _) _
  · intro d' hd'
    rw [hws]
    have hfound' : (db₁.apply (insertShipment (job d).session loadNumber db₁)).document?
        document.id = some document := by
      rw [Database.document?, insertShipment_documents]
      exact hfound
    refine (paper_rewrite _ hfound' _).trans ?_
    rw [paper, Database.document?, insertShipment_documents]
    exact hcontents d' hd'
  · rw [hws]
    refine Table.find?_put_of_found hkeyed' (decide_eq_true ?_)
      (insertShipment_finds (job d).session loadNumber db₁) attachDocument_id.symm
    exact attachDocument_loadNumber.trans hload

/-- The reconciliation that follows completes the arrival of the document. -/
theorem Attached.reconcile {s : Shipment} (hl : AgreeingLoad job loadNumber)
    (h : Attached job loadNumber seen s db) (d : Slot) (runId : String) :
    Arrived job loadNumber seen
        (db.apply (reconcileShipment (job d).session s (.ofRun runId) db).2.2) ∧
      (reconcileShipment (job d).session s (.ofRun runId) db).2.1.exceptionReasons = [] ∧
      (reconcileShipment (job d).session s (.ofRun runId) db).1.reconciliationStatus =
        if Complete seen then .reconciled else .partialSet := by
  have hmanual : db.rateConfirmation? s.loadNumber = none := h.load.symm ▸ h.manual
  obtain ⟨hreasons, hstatus⟩ := h.holds.reconcile hl hmanual h.contents d runId
  obtain ⟨hdocsOf, hshipsOf, hrcsOf, -⟩ :=
    reconcileShipment_writes (job d).session s (.ofRun runId) db
  have hdocs := Database.documents_apply db
    (reconcileShipment (job d).session s (.ofRun runId) db).2.2
  have hships := Database.shipments_apply db
    (reconcileShipment (job d).session s (.ofRun runId) db).2.2
  have hrcs := Database.rateConfirmations_apply db
    (reconcileShipment (job d).session s (.ofRun runId) db).2.2
  rw [hdocsOf, Table.puts_nil] at hdocs
  rw [hshipsOf, Table.puts_cons, Table.puts_nil] at hships
  rw [hrcsOf, Table.puts_nil] at hrcs
  obtain ⟨hid, hload, hcreated, hdocId⟩ := reconcileShipment_row (job d).session s
    (.ofRun runId) db
  refine ⟨⟨?_, ?_, fun d' => Database.document?_isSome_apply (h.received d') _, ?_,
    .inr ⟨(reconcileShipment (job d).session s (.ofRun runId) db).1, ?_, ?_, hstatus⟩⟩,
    hreasons, hstatus⟩
  · rw [Database.rateConfirmation?, hrcs]
    exact h.manual
  · rw [hships]
    exact Table.nodup_put h.keyed
  · intro d' hd'
    rw [paper, Database.document?, hdocs]
    exact h.contents d' hd'
  · rw [Database.shipment?, hships]
    refine Table.find?_put_of_found h.keyed (decide_eq_true ?_) h.found hid.symm
    exact hload.trans h.load
  · refine ⟨fun d' => ?_, fun d' => ?_, ?_⟩
    · rw [reconcileShipment_has, noteRateConfirmation_none hmanual]
      exact h.holds.has d'
    · rw [hdocId]
      exact h.holds.docId d'
    · obtain ⟨d₀, h₀⟩ := h.holds.createdAt
      exact ⟨d₀, hcreated.trans h₀⟩

/-- Processing a document of a slot not seen yet has one outcome: the document
is in, and its run is ready for posting when it was the last one. -/
theorem Arrived.process (hl : AgreeingLoad job loadNumber) (h : Arrived job loadNumber seen db)
    {d : Slot} (hd : d ∉ seen) :
    ∃ x, Run (Fires (Process.step (job d).env)) (.start (job d).state db) [none, none, none] x ∧
      x.graph.checkpoint.next = none ∧ Arrived job loadNumber (d :: seen) x.db ∧
      x.graph.checkpoint.values.postingStatus =
        (if Complete (d :: seen) then .readyForPosting else .notReady) ∧
      ∀ {resumes : List (Option String)} {y : Process},
        Run (Fires (Process.step (job d).env)) (.start (job d).state db) resumes y →
          y.graph.checkpoint.next = none → y = x := by
  have henv : (job d).env.extraction = .ok (job d).extraction := rfl
  obtain ⟨v₁, hex, he, hid, hrun⟩ := extractNode_start (job d).runId (job d).documentId
    (job d).filename db henv
  obtain ⟨s, db₂, hstart, hattached⟩ := h.attach hl hd
  obtain ⟨harrived, hreasons, hstatus⟩ :=
    hattached.reconcile hl d v₁.runId
  have hm := matchDocument_eq he (by rw [hid]; exact hstart)
  obtain ⟨x, hrunx, hend, -, hpost, hdb, huniq⟩ := Process.run_unreviewed (job d).state rfl hex hm
    (matchResultOf_unreviewed _ hreasons)
  refine ⟨x, hrunx, hend, ?_, ?_, huniq⟩
  · rw [hdb]
    exact ⟨harrived.manual, harrived.keyed, harrived.received, harrived.contents, harrived.row⟩
  · rw [hpost]
    simp only [matchResultOf, hstatus]
    split <;> rfl

/-! ## All four documents -/

/-- The posting status of each run of an order: only the last one is ready. -/
def outcomesOf (order : List Slot) : List (Slot × PostingStatus) :=
  order.map fun d => (d, if order.getLast? = some d then .readyForPosting else .notReady)

omit [PyRuntime] in
/-- A head that does not come back later leaves the outcomes of the tail. -/
theorem outcomesOf_cons {d : Slot} {order : List Slot} (hd : d ∉ order) :
    outcomesOf (d :: order) =
      (d, if order = [] then .readyForPosting else .notReady) :: outcomesOf order := by
  cases order with
  | nil => simp [outcomesOf]
  | cons d' order =>
      have hne : (d' :: order).getLast? ≠ some d := by
        intro hlast
        exact hd (List.mem_of_getLast? hlast)
      simp only [outcomesOf, List.map_cons, List.getLast?_cons_cons]
      rw [if_neg hne, if_neg (List.cons_ne_nil _ _)]

omit [PyRuntime] in
/-- The slots are all seen when none is left to come. -/
theorem complete_iff {d : Slot} {order : List Slot} (h : (d :: order ++ seen).Perm Slot.all) :
    Complete (d :: seen) ↔ order = [] := by
  have hnodup : (d :: order ++ seen).Nodup := h.nodup_iff.mpr (by decide)
  constructor
  · intro hall
    cases order with
    | nil => rfl
    | cons d' order =>
        exfalso
        obtain ⟨hd, hrest⟩ := List.nodup_cons.mp hnodup
        rcases List.mem_cons.mp (hall d') with rfl | hmem
        · exact hd (by simp)
        · exact (List.nodup_append.mp hrest).2.2 d' (List.mem_cons_self ..) d' hmem rfl
  · rintro rfl d'
    exact h.mem_iff.mpr (by cases d' <;> decide)

omit [PyRuntime] in
/-- The slots still to come are not seen, and seeing the first leaves the rest. -/
theorem perm_step {d : Slot} {order : List Slot} (h : (d :: order ++ seen).Perm Slot.all) :
    d ∉ seen ∧ d ∉ order ∧ (order ++ d :: seen).Perm Slot.all := by
  have hnodup : (d :: order ++ seen).Nodup := h.nodup_iff.mpr (by decide)
  have hd := (List.nodup_cons.mp hnodup).1
  exact ⟨fun hm => hd (List.mem_append_right _ hm), fun hm => hd (List.mem_append_left _ hm),
    List.perm_middle.trans h⟩

/-- Documents can be processed in every order. -/
theorem Arrived.exists_arrivals (hl : AgreeingLoad job loadNumber) {order : List Slot} :
    ∀ {seen : List Slot} {db : Database}, Arrived job loadNumber seen db →
      (order ++ seen).Perm Slot.all → ∃ outcomes db', Arrivals job order db outcomes db' := by
  induction order with
  | nil =>
      intro seen db _ _
      exact ⟨[], db, .nil⟩
  | cons d order ih =>
      intro seen db h hperm
      obtain ⟨hd, -, hperm'⟩ := perm_step hperm
      obtain ⟨x, hrun, hend, hx, -, -⟩ := h.process hl hd
      obtain ⟨outcomes, db', hrest⟩ := ih hx hperm'
      exact ⟨_, db', .cons hrun hend hrest⟩

/-- However the remaining documents come in, the last run is the one that is
ready for posting. -/
theorem Arrived.outcomes (hl : AgreeingLoad job loadNumber) {order : List Slot} {db db' : Database}
    {outcomes : List (Slot × PostingStatus)} (harr : Arrivals job order db outcomes db') :
    ∀ {seen : List Slot}, Arrived job loadNumber seen db → (order ++ seen).Perm Slot.all →
      Arrived job loadNumber (order.reverse ++ seen) db' ∧ outcomes = outcomesOf order := by
  induction harr with
  | nil =>
      intro seen h _
      exact ⟨h, rfl⟩
  | @cons d order db db' x resumes outcomes hrun hend hrest ih =>
      intro seen h hperm
      obtain ⟨hd, hdo, hperm'⟩ := perm_step hperm
      obtain ⟨x', -, -, hx', hpost, huniq⟩ := h.process hl hd
      cases huniq hrun hend
      obtain ⟨harrived, hout⟩ := ih hx' hperm'
      refine ⟨?_, ?_⟩
      · rw [List.reverse_cons, List.append_assoc]
        exact harrived
      · rw [outcomesOf_cons hdo, hpost, hout]
        simp only [complete_iff hperm]

omit [PyRuntime] in
/-- Before the first document. -/
theorem Arrived.empty (hnew : db.shipment? loadNumber = none)
    (hmanual : db.rateConfirmation? loadNumber = none)
    (hkeyed : Table.Keyed Shipment.id db.shipments)
    (hreceived : ∀ d, (db.document? (job d).documentId).isSome) : Arrived job loadNumber [] db :=
  ⟨hmanual, hkeyed, hreceived, by simp, .inl ⟨rfl, hnew⟩⟩

/-- Four agreeing documents of a new load, each with the row that its upload or
its mail made, leave the shipment reconciled in every order, and only the run of
the one processed last is ready for posting. -/
theorem arrival_orders (hl : AgreeingLoad job loadNumber)
    (hnew : db.shipment? loadNumber = none) (hmanual : db.rateConfirmation? loadNumber = none)
    (hkeyed : Table.Keyed Shipment.id db.shipments)
    (hreceived : ∀ d, (db.document? (job d).documentId).isSome) {order : List Slot}
    (hperm : order.Perm Slot.all) :
    (∃ outcomes db', Arrivals job order db outcomes db') ∧
    ∀ {outcomes db'}, Arrivals job order db outcomes db' →
      (∃ s, db'.shipment? loadNumber = some s ∧ s.reconciliationStatus = .reconciled) ∧
      outcomes = outcomesOf order := by
  have hempty : Arrived job loadNumber [] db := .empty hnew hmanual hkeyed hreceived
  have hperm' : (order ++ []).Perm Slot.all := by rwa [List.append_nil]
  refine ⟨hempty.exists_arrivals hl hperm', fun {outcomes db'} harr => ?_⟩
  obtain ⟨harrived, hout⟩ := Arrived.outcomes hl harr hempty hperm'
  rw [List.append_nil] at harrived
  have hall : Complete order.reverse := by
    intro d
    exact List.mem_reverse.mpr (hperm.mem_iff.mpr (by cases d <;> decide))
  rcases harrived.row with ⟨hnil, -⟩ | ⟨s, hs, -, hstatus⟩
  · exact absurd (hnil ▸ hall .invoice) List.not_mem_nil
  · rw [if_pos hall] at hstatus
    exact ⟨⟨s, hs, hstatus⟩, hout⟩

end

/-! ## A load in two orders -/

section

omit [PyRuntime]

/-- The four documents of the load LD-001, on their rows. -/
def agreeingJobs : Slot → Job
  | .invoice =>
      ⟨1, "r1", "a.pdf", (loadInvoice "A-1" 1000).dump,
        ⟨10, 10, 100, "s1", 11, "q1", "x1", "y1"⟩, 11⟩
  | .rateCon => ⟨2, "r2", "b.pdf", loadRateCon, ⟨20, 20, 100, "s2", 12, "q2", "x2", "y2"⟩, 12⟩
  | .bol => ⟨3, "r3", "c.pdf", loadBol, ⟨30, 30, 100, "s3", 13, "q3", "x3", "y3"⟩, 13⟩
  | .pod => ⟨4, "r4", "d.pdf", loadPod, ⟨40, 40, 100, "s4", 14, "q4", "x4", "y4"⟩, 14⟩

/-- Its documents have come in and none has been processed. -/
def receivedLoad : Database :=
  { Database.empty with
    documents :=
      [⟨1, "a.pdf", "unknown", "received", none, none⟩,
       ⟨2, "b.pdf", "unknown", "received", none, none⟩,
       ⟨3, "c.pdf", "unknown", "received", none, none⟩,
       ⟨4, "d.pdf", "unknown", "received", none, none⟩] }

theorem receivedLoad_received (d : Slot) :
    (receivedLoad.document? (agreeingJobs d).documentId).isSome := by
  cases d <;> rfl

theorem agreeingJobs_agree :
    letI := asciiRuntime
    AgreeingLoad agreeingJobs "LD-001" := by
  let := asciiRuntime
  refine ⟨fun d => ?_, fun d => ⟨some "LD-001", ?_, ?_⟩, fun d d' h => ?_, ⟨?_, ?_, ?_, ?_⟩,
    fun d d' => ?_⟩
  · cases d <;> decide +kernel
  · cases d <;> decide +kernel
  · decide +kernel
  · cases d <;> cases d' <;> first | rfl | exact absurd h (by decide)
  · exact ⟨1000, 1000, by decide +kernel, by decide +kernel, by decide +kernel⟩
  · exact ⟨by decide +kernel, by decide +kernel⟩
  · exact ⟨20653, 20653, by decide +kernel, by decide +kernel, by decide⟩
  · exact ⟨by decide +kernel, by decide +kernel⟩
  · cases d <;> cases d' <;> decide

theorem arrivalOrders_apply :
    letI := asciiRuntime
    ∃ outcomes db',
      Arrivals agreeingJobs [.pod, .bol, .rateCon, .invoice] receivedLoad outcomes db' ∧
      outcomes = [(.pod, .notReady), (.bol, .notReady), (.rateCon, .notReady),
        (.invoice, .readyForPosting)] := by
  let := asciiRuntime
  have hnew : receivedLoad.shipment? "LD-001" = none := rfl
  have hperm : [Slot.pod, .bol, .rateCon, .invoice].Perm Slot.all := by decide
  obtain ⟨⟨outcomes, db', harr⟩, hall⟩ :=
    arrival_orders agreeingJobs_agree hnew rfl List.nodup_nil receivedLoad_received hperm
  exact ⟨outcomes, db', harr, (hall harr).2⟩

/-- The invoice comes first: its load is reconciled at the end and its own run
is not ready for posting. -/
theorem invoiceFirst_notReady :
    letI := asciiRuntime
    ¬∀ {order : List Slot} {outcomes : List (Slot × PostingStatus)} {db' : Database},
      order.Perm Slot.all → Arrivals agreeingJobs order receivedLoad outcomes db' →
        (.invoice, .readyForPosting) ∈ outcomes := by
  let := asciiRuntime
  intro h
  have hempty : Arrived agreeingJobs "LD-001" [] receivedLoad :=
    .empty rfl rfl List.nodup_nil receivedLoad_received
  have hperm : (Slot.all ++ []).Perm Slot.all := by decide
  obtain ⟨outcomes, db', harr⟩ := hempty.exists_arrivals agreeingJobs_agree hperm
  have hmem := h (List.Perm.refl _) harr
  rw [(Arrived.outcomes agreeingJobs_agree harr hempty hperm).2] at hmem
  exact absurd hmem (by decide)

end

end FreightAP
