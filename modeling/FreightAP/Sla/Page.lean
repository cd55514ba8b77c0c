import Mathlib.Data.List.Sort
import FreightAP.Assembly.Latest
import FreightAP.Sla.Log

/-!
# The page of a shipment

`shipment_detail` reads the row, its latest result, its exception, the events
and the documents, each with a statement of its own, and other transactions
commit in between.  So the page holds parts of several states.

They go together all the same.  A row names documents that stay (`Backed`), and
an exception only gets more events (`SlaLog.Read`), so that what is read later
covers what was read before.  Arrivals, evaluations and manual rate
confirmations commit one by one here; the source commits some of them at once.
-/

namespace FreightAP

open History Transition

variable [PyRuntime]

/-! ## The page -/

/-- A document on the page. -/
structure DocumentPayload where
  id : Option Nat
  filename : String
  docType : String
  status : String
  extractedData : Option Extraction
deriving DecidableEq

/-- `_document_payload`. -/
def documentPayload (document : Document) : DocumentPayload :=
  ⟨some document.id, document.filename, document.docType, document.status, document.extractedData⟩

/-- A manual rate confirmation on the page. -/
def manualPayload (rc : RateConfirmation) : DocumentPayload :=
  ⟨none, "Manual Entry", "rate_confirmation", "extracted",
    some
      [("carrier_name", .str rc.carrierName),
       ("load_number", .str rc.loadNumber),
       ("agreed_rate", .float rc.agreedRate),
       ("origin", .str rc.origin),
       ("destination", .str rc.destination),
       ("shipment_date", .str (PyRuntime.dateText rc.shipmentDate))]⟩

/-- `_shipment_summary`: the columns of the row, and its policy. -/
structure ShipmentSummary where
  row : Shipment
  missingDocumentState : PolicyState
  missingDocumentDeadlineAt : Int
  missingRequiredDocs : List String
  overdueReasonCodes : List String

@[inherit_doc ShipmentSummary]
def shipmentSummary (s : Shipment) (now slaDuration : Int) : ShipmentSummary :=
  let policy := evaluateMissingDocumentPolicy s now slaDuration
  ⟨s, policy.state, policy.deadlineAt, policy.missingDocs, policy.reasonCodes⟩

/-- `shipment_detail`: the response. -/
structure ShipmentDetail where
  summary : ShipmentSummary
  documents : Slot → Option DocumentPayload
  reconciliationResult : Option ReconciliationResult
  missingDocumentException : Option (ShipmentException × List ShipmentExceptionEvent)

omit [PyRuntime] in
/-- The events of an exception, `order_by(version.asc())`. -/
def exceptionEvents (x : ShipmentException) (db : Database) : List ShipmentExceptionEvent :=
  (db.shipmentExceptionEvents.filter (·.exceptionId = x.id)).insertionSort
    fun e e' => e.version ≤ e'.version

/-- How far the page has been read. -/
inductive PagePhase where
  | shipment
  | result (s : Shipment)
  | exception (s : Shipment) (r : Option ReconciliationResult)
  | events (s : Shipment) (r : Option ReconciliationResult) (x : ShipmentException)
  | documents (s : Shipment) (r : Option ReconciliationResult)
      (x : Option (ShipmentException × List ShipmentExceptionEvent)) (left : List Slot)
      (shown : Slot → Option DocumentPayload)
  | answered (detail : ShipmentDetail)
  | notFound

omit [PyRuntime] in
/-- The response, once it is there. -/
def PagePhase.detail? : PagePhase → Option ShipmentDetail
  | .answered detail => some detail
  | _ => none

/-- The next statement of `shipment_detail`. -/
def shipmentDetail (db : Database) (shipmentId : Uuid) (now slaDuration : Int) :
    PagePhase → PagePhase
  | .shipment =>
      match Table.get? Shipment.id shipmentId db.shipments with
      | none => .notFound
      | some s => .result s
  | .result s => .exception s (latestReconciliationResult s.id db)
  | .exception s r =>
      match db.exception? s.id with
      | none => .documents s r none Slot.all fun _ => none
      | some x => .events s r x
  | .events s r x => .documents s r (some (x, exceptionEvents x db)) Slot.all fun _ => none
  | .documents s r x (d :: left) shown =>
      -- Keys of documents begin at 1, so a key is true just when it is there.
      let document := ((s.docId d).bind db.document?).map documentPayload
      .documents s r x left fun d' => if d' = d then document else shown d'
  | .documents s r x [] shown =>
      let manual := ((db.rateConfirmation? s.loadNumber).map manualPayload)
      let documents := fun d =>
        if d = .rateCon ∧ shown d = none ∧ s.hasRateCon then manual else shown d
      .answered ⟨shipmentSummary s now slaDuration, documents, r, x⟩
  | p => p

/-! ## The page and the other transactions -/

/-- The database with its history, and a page that is being read. -/
structure PageLog where
  log : SlaLog
  page : PagePhase

/-- A commit of another transaction, or the next statement of the page. -/
inductive PageLabel where
  | log (l : SlaLabel)
  | confirm (rc : RateConfirmation)
  | read

/-- One step.  The key of a manual rate confirmation is new, and so is its load
number. -/
def PageLog.step (shipmentId : Uuid) (now slaDuration : Int) (st : PageLog) :
    PageLabel → Option PageLog
  | .log l => (st.log.step l).map fun log => { st with log := log }
  | .confirm rc =>
      if (st.log.db.rateConfirmations.all fun rc' => rc'.id ≠ rc.id) ∧
          st.log.db.rateConfirmation? rc.loadNumber = none then
        some { st with log := { st.log with db := st.log.db.write (.rateConfirmation rc) } }
      else none
  | .read => some { st with page := shipmentDetail st.log.db shipmentId now slaDuration st.page }

/-! ## Rows and their documents -/

section

variable {db db' : Database} {s : Shipment} {ses : Session}

omit [PyRuntime] in
/-- What a row names is there, and every flag stands for something. -/
structure Shipment.Backed (s : Shipment) (db : Database) : Prop where
  filed : ∀ d id, s.docId d = some id → s.has d = true ∧ (db.document? id).isSome = true
  flagged : ∀ d, s.has d = true → (s.docId d).isSome = true ∨
    d = .rateCon ∧ (db.rateConfirmation? s.loadNumber).isSome = true

/-- All rows are. -/
def Database.Backed (db : Database) : Prop := ∀ s ∈ db.shipments, s.Backed db

/-- No document and no manual rate confirmation goes away. -/
structure Database.Grows (db db' : Database) : Prop where
  documents : ∀ id, (db.document? id).isSome = true → (db'.document? id).isSome = true
  rateConfirmations : ∀ loadNumber, (db.rateConfirmation? loadNumber).isSome = true →
    (db'.rateConfirmation? loadNumber).isSome = true

omit [PyRuntime] in
theorem Shipment.Backed.mono (h : s.Backed db) (hgrows : db.Grows db') : s.Backed db' where
  filed d id hid := ⟨(h.filed d id hid).1, hgrows.documents id (h.filed d id hid).2⟩
  flagged d hd := (h.flagged d hd).imp_right fun ⟨he, hrc⟩ => ⟨he, hgrows.rateConfirmations _ hrc⟩

omit [PyRuntime] in
theorem Shipment.backed_new (id : Uuid) (loadNumber : String) (createdAt : Int) :
    (Shipment.new id loadNumber createdAt).Backed db where
  filed d id hid := by cases (docId_new ..).symm.trans hid
  flagged d hd := by cases (has_new ..).symm.trans hd

omit [PyRuntime] in
/-- Writes of other tables than that of the manual rate confirmations. -/
theorem Database.Grows.apply {ws : List Write} (h : Database.rateConfirmationsOf ws = []) :
    db.Grows (db.apply ws) := by
  refine ⟨fun id hid => ?_, fun loadNumber hrc => ?_⟩
  · rw [Database.document?, Database.documents_apply]
    exact Table.get?_puts_isSome hid
  · rwa [Database.rateConfirmation?_apply h]

omit [PyRuntime] in
theorem backed_fillSlot (h : s.Backed db) (document : Document) :
    (fillSlot s document).Backed (db.write (.document document)) := by
  have hgrows : db.Grows (db.write (.document document)) :=
    show db.Grows (db.apply [.document document]) from .apply rfl
  have hnew : ((db.write (.document document)).document? document.id).isSome = true := by
    rw [Database.document?_write_document, if_pos rfl]
    rfl
  cases hslot : docFields document.docType with
  | none =>
      simp only [fillSlot, hslot]
      exact h.mono hgrows
  | some slot =>
      refine ⟨fun d id hid => ?_, fun d hd => ?_⟩
      · rw [fillSlot_docId hslot] at hid
        rw [fillSlot_has hslot]
        by_cases hd : slot = d
        · subst hd
          rw [if_pos rfl] at hid
          refine ⟨by simp, ?_⟩
          cases hs : s.docId slot with
          | none =>
              rw [hs] at hid
              cases hid
              exact hnew
          | some id' =>
              rw [hs] at hid
              cases hid
              exact hgrows.documents _ (h.filed slot _ hs).2
        · rw [if_neg hd] at hid
          obtain ⟨hhas, hdoc⟩ := h.filed d id hid
          exact ⟨by simp [hhas], hgrows.documents _ hdoc⟩
      · rw [fillSlot_docId hslot]
        rw [fillSlot_has hslot, Bool.or_eq_true, decide_eq_true_iff] at hd
        rw [fillSlot_loadNumber]
        by_cases he : slot = d
        · rw [if_pos he]
          refine .inl ?_
          cases s.docId d <;> rfl
        · rw [if_neg he]
          exact ((h.mono hgrows).flagged d (hd.resolve_left he))

omit [PyRuntime] in
theorem backed_congr {t : Shipment} (h : s.Backed db) (hdocId : ∀ d, t.docId d = s.docId d)
    (hhas : ∀ d, t.has d = s.has d) (hload : t.loadNumber = s.loadNumber) : t.Backed db where
  filed d id hid := by
    rw [hhas]
    exact h.filed d id ((hdocId d).symm.trans hid)
  flagged d hd := by
    rw [hdocId, hload]
    exact h.flagged d ((hhas d).symm.trans hd)

/-- Whatever the row was read from, the companion document is written with it. -/
theorem backed_attachExisting (h : s.Backed db') (ses : Session) (db : Database) :
    (attachExistingRateConfirmation ses s db).1.Backed
      (db'.apply (attachExistingRateConfirmation ses s db).2) := by
  unfold attachExistingRateConfirmation
  split
  next hsome =>
    refine ⟨fun d id hid => ?_, fun d hd => ?_⟩
    · cases d with
      | rateCon => exact ⟨rfl, (h.filed .rateCon id hid).2⟩
      | invoice => exact h.filed .invoice id hid
      | bol => exact h.filed .bol id hid
      | pod => exact h.filed .pod id hid
    · cases d with
      | rateCon => exact .inl hsome
      | invoice => exact h.flagged .invoice hd
      | bol => exact h.flagged .bol hd
      | pod => exact h.flagged .pod hd
  next =>
    split
    · exact h
    next rc hrc =>
      have hgrows : db'.Grows (db'.apply [.document (rateConfirmationDocument ses rc s db)]) :=
        .apply rfl
      refine ⟨fun d id hid => ?_, fun d hd => ?_⟩
      · cases d with
        | rateCon =>
            cases hid
            refine ⟨rfl, ?_⟩
            rw [Database.apply_cons, Database.apply_nil, Database.document?_write_document,
              if_pos rfl]
            rfl
        | invoice => exact (h.mono hgrows).filed .invoice id hid
        | bol => exact (h.mono hgrows).filed .bol id hid
        | pod => exact (h.mono hgrows).filed .pod id hid
      · cases d with
        | rateCon => exact .inl rfl
        | invoice => exact (h.mono hgrows).flagged .invoice hd
        | bol => exact (h.mono hgrows).flagged .bol hd
        | pod => exact (h.mono hgrows).flagged .pod hd

omit [PyRuntime] in
theorem Database.Backed.apply (h : db.Backed) {ws : List Write}
    (hrc : Database.rateConfirmationsOf ws = [])
    (hnew : ∀ s ∈ Database.shipmentsOf ws, s.Backed (db.apply ws)) : (db.apply ws).Backed := by
  intro s hs
  rw [Database.shipments_apply] at hs
  rcases Table.mem_puts hs with hs | hs
  · exact hnew s hs
  · exact (h s hs).mono (.apply hrc)

omit [PyRuntime] in
theorem insertShipment_backed (h : db.Backed) (ses : Session) (loadNumber : String) :
    db.Grows (db.apply (insertShipment ses loadNumber db)) ∧
      (db.apply (insertShipment ses loadNumber db)).Backed := by
  unfold insertShipment
  split
  · exact ⟨.apply rfl, h⟩
  · refine ⟨.apply rfl, h.apply rfl fun s hs => ?_⟩
    rw [List.mem_singleton.mp hs]
    exact Shipment.backed_new ..

theorem attachDocument_backed (h : db.Backed) (hs : s.Backed db) (ses : Session)
    (document : Document) (extraction : Extraction) :
    db.Grows (db.apply (attachDocument ses s document extraction db).2) ∧
      (db.apply (attachDocument ses s document extraction db).2).Backed := by
  let row : Document := { document with shipmentId := some s.id }
  have hfilled : (fillSlot s document).Backed (db.write (.document row)) := backed_fillSlot hs row
  have hattached := backed_attachExisting (s := fillCarrier (fillSlot s document) extraction)
    (backed_congr hfilled (fun _ => fillCarrier_docId _) (fun _ => fillCarrier_has _)
      fillCarrier_loadNumber) ses db
  have hrc : Database.rateConfirmationsOf (attachDocument ses s document extraction db).2 = [] := by
    rw [attachDocument_writes]
    rcases attachExisting_writes ses (fillCarrier (fillSlot s document) extraction) db with
      hw | ⟨rc, -, -, hw⟩ <;>
    · rw [hw]
      rfl
  have hshipments : Database.shipmentsOf (attachDocument ses s document extraction db).2 =
      [(attachDocument ses s document extraction db).1] := by
    rw [attachDocument_writes]
    rcases attachExisting_writes ses (fillCarrier (fillSlot s document) extraction) db with
      hw | ⟨rc, -, -, hw⟩ <;>
    · rw [hw]
      rfl
  refine ⟨.apply hrc, h.apply hrc fun t ht => ?_⟩
  rw [hshipments, List.mem_singleton] at ht
  subst ht
  rw [attachDocument_writes, List.cons_append, Database.apply_cons, Database.apply_append]
  refine Shipment.Backed.mono ?_ (.apply rfl)
  exact backed_congr hattached (fun d => by cases d <;> rfl) (fun d => by cases d <;> rfl) rfl

/-- An arriving document. -/
theorem upsertShipment_backed (h : db.Backed) {loadNumber : Option String} {document : Document}
    {extraction : Extraction} {ws : List Write}
    (hu : upsertShipment ses loadNumber document extraction db = .ok (some (s, ws))) :
    db.Grows (db.apply ws) ∧ (db.apply ws).Backed := by
  cases hn : normalizeLoadNumber loadNumber with
  | error message => simp only [upsertShipment, hn, reduceCtorEq] at hu
  | ok normalized =>
      cases normalized with
      | none => simp only [upsertShipment, hn, Except.ok.injEq, reduceCtorEq] at hu
      | some normalized =>
          rw [upsertShipment_eq hn] at hu
          cases hu
          obtain ⟨hgrows, hbacked⟩ := insertShipment_backed h ses normalized
          have hheld : (heldShipment ses normalized db).Backed
              (db.apply (insertShipment ses normalized db)) :=
            hbacked _ (Table.get?_some_mem (insertShipment_finds ses normalized db))
          obtain ⟨hgrows', hbacked'⟩ := attachDocument_backed hbacked hheld ses document extraction
          rw [Database.apply_append]
          exact ⟨⟨fun id hid => hgrows'.documents id (hgrows.documents id hid), fun l hl =>
            hgrows'.rateConfirmations l (hgrows.rateConfirmations l hl)⟩, hbacked'⟩

/-- An evaluation. -/
theorem reconcileShipment_backed (h : db.Backed) (hs : s.Backed db) (ses : Session)
    (ev : Evaluation) :
    db.Grows (db.apply (reconcileShipment ses s ev db).2.2) ∧
      (db.apply (reconcileShipment ses s ev db).2.2).Backed := by
  obtain ⟨-, hload, -, hdocId⟩ := reconcileShipment_row ses s ev db
  have hnoted : (reconcileShipment ses s ev db).1.Backed db := by
    refine ⟨fun d id hid => ?_, fun d hd => ?_⟩
    · obtain ⟨hhas, hdoc⟩ := hs.filed d id ((hdocId d).symm.trans hid)
      rw [reconcileShipment_has, noteRateConfirmation_has, hhas]
      exact ⟨rfl, hdoc⟩
    · rw [reconcileShipment_has, noteRateConfirmation_has, Bool.or_eq_true] at hd
      rw [hdocId, hload]
      rcases hd with hd | hd
      · exact hs.flagged d hd
      · obtain ⟨he, hrc⟩ := Bool.and_eq_true_iff.mp hd
        exact .inr ⟨of_decide_eq_true he, hrc⟩
  obtain ⟨-, hshipments, hrc, -⟩ := reconcileShipment_writes ses s ev db
  refine ⟨.apply hrc, h.apply hrc fun t ht => ?_⟩
  rw [hshipments, List.mem_singleton] at ht
  exact ht ▸ hnoted.mono (.apply hrc)

omit [PyRuntime] in
/-- A manual rate confirmation. -/
theorem confirm_backed (h : db.Backed) {rc : RateConfirmation}
    (hnew : ∀ rc' ∈ db.rateConfirmations, rc'.id ≠ rc.id) :
    db.Grows (db.write (.rateConfirmation rc)) ∧ (db.write (.rateConfirmation rc)).Backed := by
  have hgrows : db.Grows (db.write (.rateConfirmation rc)) := by
    refine ⟨fun _ hid => hid, fun loadNumber hl => ?_⟩
    have hput : (db.write (.rateConfirmation rc)).rateConfirmations =
        db.rateConfirmations ++ [rc] := Table.put_of_new hnew
    rw [Database.rateConfirmation?, hput, Table.get?, List.find?_append]
    cases hf : db.rateConfirmation? loadNumber with
    | none =>
        rw [hf] at hl
        cases hl
    | some rc' =>
        have hf' : db.rateConfirmations.find?
            (fun r => decide (r.loadNumber = loadNumber)) = some rc' := hf
        rw [hf']
        rfl
  exact ⟨hgrows, fun s hs => (h s hs).mono hgrows⟩

end

/-! ## The exception and its events -/

/-- Events that go on from an exception that was read before them. -/
structure ShipmentException.Covered (x : ShipmentException) (es : List ShipmentExceptionEvent) :
    Prop where
  versions : ∃ n, x.version ≤ n ∧ es.map (·.version) = List.range' 1 n
  linked : Linked (·.beforeState) (·.afterState) none es
  row : ∃ e ∈ es, e.version = x.version ∧ e.afterState = x.state

namespace SlaLog

variable {st st' : SlaLog} {k : Uuid} {x : ShipmentException}

/-- The exception of a shipment has been as it was read. -/
structure Read (k : Uuid) (x : ShipmentException) (st : SlaLog) : Prop where
  row : ∃ y, st.db.exception? k = some y ∧ y.id = x.id
  event : ∃ e ∈ st.events x, e.version = x.version ∧ e.afterState = x.state

/-- What is read is in the last event. -/
theorem Read.of_exception (h : st.Faithful k) (hx : st.db.exception? k = some x) :
    st.Read k x := by
  refine ⟨⟨x, hx, rfl⟩, ?_⟩
  have hlast := h.row x hx
  have hversions := h.versions x hx
  unfold last at hlast
  rw [Option.or_none, Option.map_eq_some_iff] at hlast
  obtain ⟨e, he, hstate⟩ := hlast
  refine ⟨e, List.mem_of_getLast? he, ?_, hstate⟩
  have hv : ((st.events x).map (·.version)).getLast? = some e.version := by
    rw [List.getLast?_map, he]
    rfl
  rw [hversions, List.getLast?_range'] at hv
  split at hv
  · cases hv
  · rw [Option.some.injEq] at hv
    omega

/-- It stays so: the exception keeps its key and only gets more events. -/
theorem Read.step {l : SlaLabel} (h : st.Read k x) (hwf : Wf st.db)
    (hs : st.step l = some st') : st'.Read k x := by
  obtain ⟨⟨y, hy, hid⟩, e, he, hev⟩ := h
  have hmore : ∀ more : List ShipmentExceptionEvent,
      st'.db.shipmentExceptionEvents = st.db.shipmentExceptionEvents ++ more →
        e ∈ st'.events x := by
    intro more hmore
    rw [events, hmore, List.filter_append]
    exact List.mem_append_left _ he
  rcases step_cases hs with ⟨hx, he', -⟩ | ⟨ses, k', ev, s, -, hfresh, -, hsync, -⟩
  · refine ⟨⟨y, ?_, hid⟩, e, hmore [] (he'.trans (List.append_nil _).symm), hev⟩
    rw [exception?_congr hx]
    exact hy
  · cases hsync with
    | kept _ _ hx he' =>
        refine ⟨⟨y, ?_, hid⟩, e, hmore [] (he'.trans (List.append_nil _).symm), hev⟩
        rw [exception?_congr hx]
        exact hy
    | @written row e' hold hnew hk _ _ _ hx he' =>
        have hlook := exception?_written hwf hfresh (fun x hx => (hold x hx).2)
          (fun hn => (hnew hn).2) hk hx k
        refine ⟨?_, e, hmore [e'] he', hev⟩
        by_cases hkk : k = k'
        · subst hkk
          exact ⟨row, hlook.trans (if_pos rfl), (hold y hy).2.trans hid⟩
        · exact ⟨y, hlook.trans ((if_neg hkk).trans hy), hid⟩

/-- The events of an exception that was read before. -/
theorem Read.covered (h : st.Read k x) (hf : st.Faithful k) :
    x.Covered (exceptionEvents x st.db) := by
  obtain ⟨⟨y, hy, hid⟩, e, he, hversion, hstate⟩ := h
  have hsame : st.events y = st.events x := by
    unfold events
    rw [hid]
  have hversions : (st.events x).map (·.version) = List.range' 1 y.version :=
    hsame ▸ hf.versions y hy
  have hsorted : (st.events x).Pairwise fun e e' => e.version ≤ e'.version := by
    have hle : ((st.events x).map (·.version)).Pairwise (· ≤ ·) := by
      rw [hversions]
      exact List.pairwise_le_range'
    exact List.pairwise_map.mp hle
  have hevents : exceptionEvents x st.db = st.events x := hsorted.insertionSort_eq
  rw [hevents]
  refine ⟨⟨y.version, ?_, hversions⟩, hsame ▸ hf.linked y hy, e, he, hversion, hstate⟩
  have hmem : e.version ∈ (st.events x).map (·.version) := List.mem_map.mpr ⟨e, he, rfl⟩
  rw [hversions, List.mem_range'_1] at hmem
  omega

end SlaLog

/-! ## What has been read -/

omit [PyRuntime] in
theorem Slot.mem_all (d : Slot) : d ∈ Slot.all := by
  cases d <;> decide

section

variable {db db' : Database} {k : Uuid} {s : Shipment} {r : Option ReconciliationResult}
  {st st' : SlaLog} {now slaDuration : Int} {p : PagePhase}

/-- The row and its result, as read from a database or from one before it. -/
structure PageRead (k : Uuid) (db : Database) (s : Shipment) (r : Option ReconciliationResult) :
    Prop where
  id : s.id = k
  backed : s.Backed db
  result : ∀ r', r = some r' → r'.shipmentId = k

/-- A slot shows the document that the row names. -/
def Shipment.Shows (s : Shipment) (shown : Slot → Option DocumentPayload) (d : Slot) : Prop :=
  (shown d).isSome = (s.docId d).isSome ∧ ∀ p, shown d = some p → p.id = s.docId d

/-- An exception on the page. -/
def ExceptionShown (k : Uuid) (x : Option (ShipmentException × List ShipmentExceptionEvent)) :
    Prop :=
  ∀ y es, x = some (y, es) → y.shipmentId = k ∧ y.Covered es

/-- The parts of a page go together. -/
structure ShipmentDetail.Consistent (k : Uuid) (detail : ShipmentDetail) : Prop where
  shipment : detail.summary.row.id = k
  result : ∀ r, detail.reconciliationResult = some r → r.shipmentId = k
  documents : ∀ d, (detail.documents d).isSome = detail.summary.row.has d
  keys : ∀ d p, detail.documents d = some p → p.id = detail.summary.row.docId d
  missing : detail.summary.missingRequiredDocs =
    (Slot.all.filter fun d => (detail.documents d).isNone).map Slot.requiredName
  exception : ExceptionShown k detail.missingDocumentException

/-- What is known of a page while it is read. -/
def PagePhase.Sound (k : Uuid) (st : SlaLog) : PagePhase → Prop
  | .shipment => True
  | .result s => PageRead k st.db s none
  | .exception s r => PageRead k st.db s r
  | .events s r x => PageRead k st.db s r ∧ x.shipmentId = k ∧ st.Read k x
  | .documents s r x left shown =>
      PageRead k st.db s r ∧ ExceptionShown k x ∧ ∀ d ∉ left, s.Shows shown d
  | .answered detail => detail.Consistent k
  | .notFound => True

omit [PyRuntime] in
theorem PageRead.mono (h : PageRead k db s r) (hgrows : db.Grows db') : PageRead k db' s r :=
  ⟨h.id, h.backed.mono hgrows, h.result⟩

/-- A commit takes nothing back from what has been read. -/
theorem PagePhase.Sound.mono (h : p.Sound k st) (hgrows : st.db.Grows st'.db)
    (hread : ∀ x, st.Read k x → st'.Read k x) : p.Sound k st' := by
  cases p with
  | shipment => exact trivial
  | result s => exact PageRead.mono h hgrows
  | exception s r => exact PageRead.mono h hgrows
  | events s r x => exact ⟨h.1.mono hgrows, h.2.1, hread x h.2.2⟩
  | documents s r x left shown => exact ⟨h.1.mono hgrows, h.2⟩
  | answered detail => exact h
  | notFound => exact trivial

omit [PyRuntime] in
/-- The document of a slot. -/
theorem shows_document (h : s.Backed db) {d : Slot} {shown : Slot → Option DocumentPayload}
    (hd : shown d = ((s.docId d).bind db.document?).map documentPayload) : s.Shows shown d := by
  rw [Shipment.Shows, hd]
  cases hid : s.docId d with
  | none => exact ⟨rfl, fun _ e => by cases e⟩
  | some id =>
      obtain ⟨document, hdoc⟩ := Option.isSome_iff_exists.mp (h.filed d id hid).2
      have hkey : document.id = id := Table.get?_some_key hdoc
      rw [Option.bind_some, hdoc]
      refine ⟨rfl, fun p hp => ?_⟩
      cases hp
      exact congrArg some hkey

/-- The answer. -/
theorem consistent_answer (h : PageRead k db s r)
    {x : Option (ShipmentException × List ShipmentExceptionEvent)} (hx : ExceptionShown k x)
    {shown : Slot → Option DocumentPayload} (hshown : ∀ d, s.Shows shown d) :
    ShipmentDetail.Consistent k ⟨shipmentSummary s now slaDuration,
      fun d => if d = .rateCon ∧ shown d = none ∧ s.hasRateCon then
        (db.rateConfirmation? s.loadNumber).map manualPayload else shown d, r, x⟩ := by
  have hdocuments : ∀ d, (if d = .rateCon ∧ shown d = none ∧ s.hasRateCon then
      (db.rateConfirmation? s.loadNumber).map manualPayload else shown d).isSome = s.has d := by
    intro d
    obtain ⟨hsome, -⟩ := hshown d
    split
    next hmanual =>
      obtain ⟨rfl, hnone, hflag⟩ := hmanual
      rw [hnone] at hsome
      rcases h.backed.flagged .rateCon hflag with hid | ⟨-, hrc⟩
      · cases hsome.trans hid
      · rw [Option.isSome_map, hrc]
        exact hflag.symm
    next hmanual =>
      rw [hsome]
      cases hid : s.docId d with
      | some id => exact (h.backed.filed d id hid).1.symm
      | none =>
          cases hhas : s.has d with
          | false => rfl
          | true =>
              -- Such a flag is that of a manual rate confirmation.
              rw [hid] at hsome
              rcases h.backed.flagged d hhas with hid' | ⟨rfl, -⟩
              · rw [hid] at hid'
                cases hid'
              · have hnone := Option.isNone_iff_eq_none.mp (Option.isSome_eq_false_iff.mp hsome)
                exact absurd ⟨rfl, hnone, hhas⟩ hmanual
  refine ⟨h.id, h.result, hdocuments, fun d p hp => ?_, ?_, hx⟩
  · obtain ⟨hsome, hkey⟩ := hshown d
    simp only at hp
    split at hp
    next hmanual =>
      obtain ⟨rfl, hnone, -⟩ := hmanual
      obtain ⟨rc, -, rfl⟩ := Option.map_eq_some_iff.mp hp
      rw [hnone] at hsome
      exact (Option.isNone_iff_eq_none.mp (Option.isSome_eq_false_iff.mp hsome.symm)).symm
    · exact hkey p hp
  · show s.missingSlots.map Slot.requiredName = _
    unfold Shipment.missingSlots
    congr 1
    refine List.filter_congr fun d _ => ?_
    rw [← hdocuments d, Option.not_isSome]

omit [PyRuntime] in
theorem latest_shipment {shipmentId : Uuid} {r' : ReconciliationResult}
    (h : latestReconciliationResult shipmentId db = some r') : r'.shipmentId = shipmentId := by
  have hmem := List.argmax_mem (Option.mem_def.mpr h)
  exact of_decide_eq_true (List.mem_filter.mp hmem).2

/-- The next statement of the page. -/
theorem shipmentDetail_sound (h : p.Sound k st) (hf : st.Faithful k) (hb : st.db.Backed) :
    (shipmentDetail st.db k now slaDuration p).Sound k st := by
  cases p with
  | shipment =>
      simp only [shipmentDetail]
      split
      · exact trivial
      next s hs =>
        exact ⟨Table.get?_some_key hs, hb s (Table.get?_some_mem hs), fun _ e => by cases e⟩
  | result s =>
      refine ⟨h.id, h.backed, fun r' hr => ?_⟩
      exact (latest_shipment hr).trans h.id
  | exception s r =>
      simp only [shipmentDetail]
      split
      next => exact ⟨h, fun _ _ e => (by cases e), fun d hd => absurd (Slot.mem_all d) hd⟩
      next x hx =>
        rw [h.id] at hx
        exact ⟨h, Table.get?_some_key hx, .of_exception hf hx⟩
  | events s r x =>
      obtain ⟨hpage, hk, hread⟩ := h
      refine ⟨hpage, fun y es e => ?_, fun d hd => absurd (Slot.mem_all d) hd⟩
      cases e
      exact ⟨hk, hread.covered hf⟩
  | documents s r x left shown =>
      obtain ⟨hpage, hx, hshown⟩ := h
      cases left with
      | nil => exact consistent_answer hpage hx fun d => hshown d List.not_mem_nil
      | cons d left =>
          refine ⟨hpage, hx, fun d' hd' => ?_⟩
          by_cases hd : d' = d
          · exact shows_document hpage.backed (if_pos hd |>.trans (hd ▸ rfl))
          · obtain ⟨hsome, hkey⟩ := hshown d' (List.not_mem_cons_of_ne_of_not_mem hd hd')
            exact ⟨(congrArg Option.isSome (if_neg hd)).trans hsome, fun q hq =>
              hkey q ((if_neg hd).symm.trans hq)⟩
  | answered detail => exact h
  | notFound => exact trivial

end

/-! ## In every run -/

namespace PageLog

variable {st st' : PageLog} {k : Uuid} {now slaDuration : Int} {l : PageLabel}

/-- The database is sound, and so is what has been read of it. -/
structure Sound (k : Uuid) (st : PageLog) : Prop where
  wf : SlaLog.Wf st.log.db
  faithful : ∀ j, st.log.Faithful j
  backed : st.log.db.Backed
  page : st.page.Sound k st.log

theorem Sound.step (h : st.Sound k) (hs : st.step k now slaDuration l = some st') :
    st'.Sound k := by
  cases l with
  | log l =>
      obtain ⟨log, hlog, hs⟩ := Option.map_eq_some_iff.mp hs
      cases hs
      obtain ⟨hwf, hfaithful⟩ := SlaLog.faithful_step h.wf h.faithful hlog
      have hgrows : st.log.db.Grows log.db ∧ log.db.Backed := by
        cases l with
        | arrive ses loadNumber document extraction =>
            simp only [SlaLog.step] at hlog
            split at hlog
            next s ws hu =>
              cases hlog
              exact upsertShipment_backed h.backed hu
            · cases hlog
              exact ⟨⟨fun _ hid => hid, fun _ hl => hl⟩, h.backed⟩
        | evaluate ses j ev =>
            simp only [SlaLog.step] at hlog
            split at hlog
            · obtain ⟨s, hrow, hlog⟩ := Option.map_eq_some_iff.mp hlog
              cases hlog
              exact reconcileShipment_backed h.backed (h.backed s (Table.get?_some_mem hrow)) ses ev
            · cases hlog
      exact ⟨hwf, hfaithful, hgrows.2, h.page.mono hgrows.1 fun x hx => hx.step h.wf hlog⟩
  | confirm rc =>
      simp only [PageLog.step] at hs
      split at hs
      next hnew =>
        cases hs
        have hid : ∀ rc' ∈ st.log.db.rateConfirmations, rc'.id ≠ rc.id := fun rc' hrc' =>
          of_decide_eq_true (List.all_eq_true.mp hnew.1 rc' hrc')
        obtain ⟨hgrows, hbacked⟩ := confirm_backed h.backed hid
        have hwf : SlaLog.Wf (st.log.db.write (.rateConfirmation rc)) := h.wf.congr rfl rfl
        exact ⟨hwf, fun j => (h.faithful j).frame rfl (fun _ _ => rfl) rfl, hbacked,
          h.page.mono hgrows fun x hx => ⟨hx.row, hx.event⟩⟩
      · cases hs
  | read =>
      cases hs
      exact ⟨h.wf, h.faithful, h.backed, shipmentDetail_sound h.page (h.faithful k) h.backed⟩

/-- However the page and the other transactions come between each other: every
flag of the row comes with its document, the documents listed as missing are
those that are not shown, and the events shown are the history of the exception
up to the state that is shown and on from it. -/
theorem shipment_page_consistent {db : Database} (h : SlaLog.Unopened db) (hb : db.Backed)
    {ls : List PageLabel}
    (hrun : Run (Fires (step k now slaDuration)) ⟨⟨db, []⟩, .shipment⟩ ls st)
    {detail : ShipmentDetail} (hanswer : st.page = .answered detail) : detail.Consistent k := by
  have hsound : st.Sound k :=
    hrun.preserves (Sound k) ⟨h.wf, h.faithful, hb, trivial⟩ fun _ _ _ ht hs => ht.step hs
  have hpage := hsound.page
  rw [hanswer] at hpage
  exact hpage

omit [PyRuntime]

/-- A page that reads the row and the exception before the invoice arrives and
changes both, and the events after. -/
def overtakenPage : List PageLabel :=
  match lateEvaluations with
  | [evaluated, arrived, evaluatedAgain] =>
      [.read, .log evaluated, .read, .read, .log arrived, .log evaluatedAgain, .read, .read, .read,
        .read, .read, .read]
  | _ => []

theorem shipment_page_consistent_overtaken :
    letI := asciiRuntime
    ∃ (st : PageLog) (detail : ShipmentDetail) (x : ShipmentException)
      (es : List ShipmentExceptionEvent),
      Run (Fires (step "s1" 1000 100)) ⟨⟨lateShipment, []⟩, .shipment⟩ overtakenPage st ∧
      st.page = .answered detail ∧ detail.missingDocumentException = some (x, es) ∧
      x.version = 1 ∧ es.length = 2 ∧ detail.documents .invoice = none ∧
      detail.Consistent "s1" := by
  let _ := asciiRuntime
  have hdata : (exec (step "s1" 1000 100) ⟨⟨lateShipment, []⟩, .shipment⟩ overtakenPage).any
      (fun st => st.page.detail?.any fun detail => (detail.documents .invoice).isNone &&
        detail.missingDocumentException.any fun x => decide (x.1.version = 1 ∧ x.2.length = 2)) =
      true := by
    decide +kernel
  obtain ⟨st, hst, hdata⟩ := (Option.any_eq_true _ _).mp hdata
  obtain ⟨detail, hdetail, hdata⟩ := (Option.any_eq_true _ _).mp hdata
  obtain ⟨hinvoice, hdata⟩ := Bool.and_eq_true_iff.mp hdata
  obtain ⟨⟨x, es⟩, hx, hdata⟩ := (Option.any_eq_true _ _).mp hdata
  obtain ⟨hversion, hlength⟩ := of_decide_eq_true hdata
  have hanswer : st.page = .answered detail := by
    cases hp : st.page <;> rw [hp] at hdetail <;> cases hdetail
    rfl
  have hbacked : lateShipment.Backed := fun s hs => by
    rw [List.mem_singleton.mp hs]
    exact Shipment.backed_new ..
  exact ⟨st, detail, x, es, run_of_exec hst, hanswer, hx, hversion, hlength,
    Option.isNone_iff_eq_none.mp hinvoice,
    shipment_page_consistent ⟨rfl, rfl⟩ hbacked (run_of_exec hst) hanswer⟩

end PageLog

end FreightAP
