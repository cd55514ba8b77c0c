import FreightAP.Assembly.Row
import FreightAP.Lib.History
import FreightAP.Lib.Transition

/-!
# The log of a missing-document exception

The exception row of a shipment and its events under any sequence of document
arrivals and evaluations, of any shipments.  What an evaluation does to the two
tables is `Synced`: nothing, when the row is already as the policy asks, else
one new version of the row and one event that says so.

`sla_history_faithful` says that the events are the history of the row.
-/

namespace FreightAP

open History Transition

variable [PyRuntime]

/-! ## What a policy asks of the row -/

/-- The part of the row that its events keep. -/
def ShipmentException.state (x : ShipmentException) : ExceptionState :=
  exceptionState x.status x.missingDocs x.reasonCodes x.deadlineAt

/-- The row is as a policy asks. -/
structure ShipmentException.Follows (x : ShipmentException) (p : MissingDocumentPolicyResult) :
    Prop where
  status : x.status = if p.state = .overdue then .active else .resolved
  missingDocs : x.missingDocs = if p.state = .overdue then p.missingDocs else []
  reasonCodes : x.reasonCodes = if p.state = .overdue then p.reasonCodes else []
  deadlineAt : x.deadlineAt = p.deadlineAt

/-- The name of a transition, from the row before it. -/
def transitionOf (x? : Option ShipmentException) (p : MissingDocumentPolicyResult) :
    ExceptionTransition :=
  if p.state ≠ .overdue then .resolved
  else if x?.all (·.status = .resolved) then .opened
  else .changed

/-- An event of the change from one row to another. -/
structure ShipmentExceptionEvent.Records (e : ShipmentExceptionEvent)
    (x? : Option ShipmentException) (row : ShipmentException)
    (p : MissingDocumentPolicyResult) : Prop where
  exceptionId : e.exceptionId = row.id
  version : e.version = row.version
  transition : e.transition = transitionOf x? p
  before : e.beforeState = x?.map ShipmentException.state
  after : e.afterState = row.state

/-- What an evaluation of shipment `k` does to the exception tables. -/
inductive Synced (ses : Session) (k : Uuid) (p : MissingDocumentPolicyResult)
    (db db' : Database) : Prop where
  | kept : (∀ x, db.exception? k = some x → x.Follows p) →
      (db.exception? k = none → p.state ≠ .overdue) →
      db'.shipmentExceptions = db.shipmentExceptions →
      db'.shipmentExceptionEvents = db.shipmentExceptionEvents → Synced ses k p db db'
  | written {row : ShipmentException} {e : ShipmentExceptionEvent} :
      (∀ x, db.exception? k = some x → ¬x.Follows p ∧ row.id = x.id) →
      (db.exception? k = none → p.state = .overdue ∧ row.id = ses.exceptionUuid) →
      row.shipmentId = k → row.Follows p →
      row.version = ((db.exception? k).map (·.version)).getD 0 + 1 →
      e.Records (db.exception? k) row p →
      db'.shipmentExceptions = Table.put ShipmentException.id row db.shipmentExceptions →
      db'.shipmentExceptionEvents = db.shipmentExceptionEvents ++ [e] → Synced ses k p db db'

/-- The drawn keys are new. -/
def Session.Fresh (ses : Session) (db : Database) : Prop :=
  (∀ x ∈ db.shipmentExceptions, x.id ≠ ses.exceptionUuid) ∧
    ∀ e ∈ db.shipmentExceptionEvents, e.id ≠ ses.eventUuid

instance (ses : Session) (db : Database) : Decidable (ses.Fresh db) :=
  inferInstanceAs (Decidable (_ ∧ _))

/-- The policy an evaluation finds. -/
def policyFound (ses : Session) (s : Shipment) (ev : Evaluation) (db : Database) :
    MissingDocumentPolicyResult :=
  evaluateMissingDocumentPolicy (noteRateConfirmation s db) (ev.now.getD ses.clock)
    (ev.slaDuration.getD ses.slaDuration)

/-- Synchronising the exception of a shipment. -/
theorem sync_synced {ses : Session} {s : Shipment} {p : MissingDocumentPolicyResult}
    {resultId : Uuid} {now : Int} {db db' : Database} (hfresh : ses.Fresh db)
    (hx : db'.shipmentExceptions = Table.puts ShipmentException.id
      (Database.exceptionsOf (syncMissingDocumentException ses s p resultId now db))
      db.shipmentExceptions)
    (he : db'.shipmentExceptionEvents = Table.puts ShipmentExceptionEvent.id
      (Database.eventsOf (syncMissingDocumentException ses s p resultId now db))
      db.shipmentExceptionEvents) : Synced ses s.id p db db' := by
  unfold syncMissingDocumentException at hx he
  cases hk : db.exception? s.id with
  | none =>
      simp only [hk] at hx he
      by_cases ho : p.state = .overdue
      · simp only [ho, if_true] at hx he
        refine .written (fun x h => ?_) (fun _ => ⟨ho, ?_⟩) ?_ ?_ ?_ ?_ hx
          (he.trans (Table.put_of_new hfresh.2))
        · cases hk.symm.trans h
        · rfl
        · rfl
        · constructor <;> simp [ho]
        · simp [hk]
        · constructor <;> simp [hk, ho, transitionOf, ShipmentException.state]
      · rw [if_neg ho] at hx he
        exact .kept (fun x h => by cases hk.symm.trans h) (fun _ => ho) hx he
  | some x =>
      simp only [hk] at hx he
      by_cases hf : x.Follows p
      · rw [if_pos ⟨hf.status, hf.missingDocs, hf.reasonCodes, hf.deadlineAt⟩] at hx he
        refine .kept (fun y h => ?_) (fun h => ?_) hx he
        · cases hk.symm.trans h
          exact hf
        · cases hk.symm.trans h
      · rw [if_neg fun h => hf ⟨h.1, h.2.1, h.2.2.1, h.2.2.2⟩] at hx he
        refine .written (fun y h => ?_) (fun h => ?_) ?_ ?_ ?_ ?_ hx
          (he.trans (Table.put_of_new hfresh.2))
        · cases hk.symm.trans h
          exact ⟨hf, rfl⟩
        · cases hk.symm.trans h
        · exact (Table.get?_some_key hk :)
        · exact ⟨rfl, rfl, rfl, rfl⟩
        · simp [hk]
        · constructor <;> simp [hk, transitionOf, ShipmentException.state]

theorem reconcileShipment_sync (ses : Session) (s : Shipment) (ev : Evaluation) (db : Database) :
    (reconcileShipment ses s ev db).2.2 =
      .shipment (reconcileShipment ses s ev db).1 :: .result (reconcileShipment ses s ev db).2.1 ::
        syncMissingDocumentException ses (reconcileShipment ses s ev db).1
          (policyFound ses s ev db) (reconcileShipment ses s ev db).2.1.id
          (ev.now.getD ses.clock) db := rfl

/-- An evaluation does to the exception tables what its policy asks. -/
theorem reconcileShipment_synced {ses : Session} {s : Shipment} {ev : Evaluation}
    {db : Database} (hfresh : ses.Fresh db) :
    Synced ses s.id (policyFound ses s ev db) db (db.apply (reconcileShipment ses s ev db).2.2) := by
  rw [← (reconcileShipment_row ses s ev db).1, reconcileShipment_sync]
  exact sync_synced hfresh (Database.exceptions_apply ..) (Database.events_apply ..)

/-! ## Histories -/

/-- The database, and the policy every evaluation so far has found, with its
shipment. -/
structure SlaLog where
  db : Database
  found : List (Uuid × MissingDocumentPolicyResult)

/-- A document arrives, or a shipment is evaluated. -/
inductive SlaLabel where
  | arrive (ses : Session) (loadNumber : Option String) (document : Document)
      (extraction : Extraction)
  | evaluate (ses : Session) (shipmentId : Uuid) (ev : Evaluation)

namespace SlaLog

/-- The policies found for a shipment. -/
def policies (st : SlaLog) (k : Uuid) : List MissingDocumentPolicyResult :=
  (st.found.filter (·.1 = k)).map (·.2)

/-- The events of an exception, oldest first. -/
def events (st : SlaLog) (x : ShipmentException) : List ShipmentExceptionEvent :=
  st.db.shipmentExceptionEvents.filter (·.exceptionId = x.id)

/-- One step.  The keys that an evaluation draws are new. -/
def step (st : SlaLog) : SlaLabel → Option SlaLog
  | .arrive ses loadNumber document extraction =>
      match upsertShipment ses loadNumber document extraction st.db with
      | .ok (some (_, ws)) => some { st with db := st.db.apply ws }
      | _ => some st
  | .evaluate ses k ev =>
      if ses.Fresh st.db then
        (Table.get? Shipment.id k st.db.shipments).map fun s =>
          ⟨st.db.apply (reconcileShipment ses s ev st.db).2.2,
            st.found ++ [(k, policyFound ses s ev st.db)]⟩
      else none

omit [PyRuntime] in
theorem insertShipment_exceptions (ses : Session) (loadNumber : String) (db : Database) :
    Database.exceptionsOf (insertShipment ses loadNumber db) = [] ∧
      Database.eventsOf (insertShipment ses loadNumber db) = [] := by
  unfold insertShipment
  split <;> exact ⟨rfl, rfl⟩

theorem attachDocument_exceptions (ses : Session) (s : Shipment) (document : Document)
    (extraction : Extraction) (db : Database) :
    Database.exceptionsOf (attachDocument ses s document extraction db).2 = [] ∧
      Database.eventsOf (attachDocument ses s document extraction db).2 = [] := by
  rw [attachDocument_writes]
  rcases attachExisting_writes ses (fillCarrier (fillSlot s document) extraction) db with
    h | ⟨rc, -, -, h⟩
  · rw [h]
    exact ⟨rfl, rfl⟩
  · rw [h]
    exact ⟨rfl, rfl⟩

/-- An arriving document writes no row of the exception tables. -/
theorem upsertShipment_exceptions {ses : Session} {loadNumber : Option String}
    {document : Document} {extraction : Extraction} {db : Database} {s : Shipment}
    {ws : List Write}
    (h : upsertShipment ses loadNumber document extraction db = .ok (some (s, ws))) :
    (db.apply ws).shipmentExceptions = db.shipmentExceptions ∧
      (db.apply ws).shipmentExceptionEvents = db.shipmentExceptionEvents := by
  cases hn : normalizeLoadNumber loadNumber with
  | error message => simp [upsertShipment, hn] at h
  | ok normalized =>
      cases normalized with
      | none => simp [upsertShipment, hn] at h
      | some normalized =>
          rw [upsertShipment_eq hn] at h
          cases h
          obtain ⟨hi, hie⟩ := insertShipment_exceptions ses normalized db
          obtain ⟨ha, hae⟩ := attachDocument_exceptions ses (heldShipment ses normalized db)
            document extraction (db.apply (insertShipment ses normalized db))
          rw [Database.apply_append, Database.exceptions_apply, Database.exceptions_apply,
            Database.events_apply, Database.events_apply, ha, hae, hi, hie]
          exact ⟨rfl, rfl⟩

/-- A step leaves the exception tables alone, or is an evaluation. -/
theorem step_cases {st st' : SlaLog} {l : SlaLabel} (h : st.step l = some st') :
    (st'.db.shipmentExceptions = st.db.shipmentExceptions ∧
      st'.db.shipmentExceptionEvents = st.db.shipmentExceptionEvents ∧ st'.found = st.found ∧
      ∀ ses k ev, l ≠ .evaluate ses k ev) ∨
    ∃ ses k ev s, l = .evaluate ses k ev ∧ ses.Fresh st.db ∧
      Table.get? Shipment.id k st.db.shipments = some s ∧
      Synced ses k (policyFound ses s ev st.db) st.db st'.db ∧
      st'.found = st.found ++ [(k, policyFound ses s ev st.db)] := by
  cases l with
  | arrive ses loadNumber document extraction =>
      simp only [step] at h
      cases hu : upsertShipment ses loadNumber document extraction st.db with
      | error message =>
          simp only [hu] at h
          cases h
          exact .inl ⟨rfl, rfl, rfl, by simp⟩
      | ok out =>
          cases out with
          | none =>
              simp only [hu] at h
              cases h
              exact .inl ⟨rfl, rfl, rfl, by simp⟩
          | some out =>
              simp only [hu] at h
              cases h
              obtain ⟨hx, he⟩ := upsertShipment_exceptions hu
              exact .inl ⟨hx, he, rfl, by simp⟩
  | evaluate ses k ev =>
      simp only [step] at h
      split at h
      next hfresh =>
        obtain ⟨s, hs, h⟩ := Option.map_eq_some_iff.mp h
        subst h
        have hk : s.id = k := Table.get?_some_key hs
        refine .inr ⟨ses, k, ev, s, rfl, hfresh, hs, ?_, rfl⟩
        rw [← hk]
        exact reconcileShipment_synced hfresh
      · cases h

/-! ## The invariant -/

/-- What the keys of the exception tables promise. -/
structure Wf (db : Database) : Prop where
  keyed : Table.Keyed ShipmentException.id db.shipmentExceptions
  unique : ∀ x ∈ db.shipmentExceptions, db.exception? x.shipmentId = some x
  owned : ∀ e ∈ db.shipmentExceptionEvents, ∃ x ∈ db.shipmentExceptions, x.id = e.exceptionId

/-- The events of a shipment's exception are the history of its row. -/
structure Faithful (st : SlaLog) (k : Uuid) : Prop where
  /-- There is a row once an evaluation has found the shipment overdue. -/
  opened : (∃ x, st.db.exception? k = some x) ↔ ∃ p ∈ st.policies k, p.state = .overdue
  versions : ∀ x, st.db.exception? k = some x →
    (st.events x).map (·.version) = List.range' 1 x.version
  linked : ∀ x, st.db.exception? k = some x →
    Linked (·.beforeState) (·.afterState) none (st.events x)
  row : ∀ x, st.db.exception? k = some x →
    last (·.afterState) none (st.events x) = some x.state
  follows : ∀ x p, st.db.exception? k = some x → (st.policies k).getLast? = some p → x.Follows p

omit [PyRuntime] in
theorem policies_snoc {st st' : SlaLog} {k : Uuid} {p : MissingDocumentPolicyResult}
    (h : st'.found = st.found ++ [(k, p)]) (j : Uuid) :
    st'.policies j = if j = k then st.policies k ++ [p] else st.policies j := by
  unfold policies
  by_cases hj : j = k
  · simp [h, hj]
  · have hk : ¬k = j := fun e => hj e.symm
    simp [h, hj, hk]

omit [PyRuntime] in
/-- A row of a known exception is the exception of its shipment. -/
theorem Wf.of_id {db : Database} (h : Wf db) {x y : ShipmentException} {k : Uuid}
    (hx : db.exception? k = some x) (hy : y ∈ db.shipmentExceptions) (hid : y.id = x.id) :
    y = x := by
  have h₁ := Table.get?_of_mem h.keyed hy
  rw [hid, Table.get?_of_mem h.keyed (Table.get?_some_mem hx)] at h₁
  exact (Option.some.inj h₁).symm

omit [PyRuntime] in
theorem exception?_congr {db db' : Database}
    (hx : db'.shipmentExceptions = db.shipmentExceptions) : db'.exception? = db.exception? := by
  funext j
  unfold Database.exception?
  rw [hx]

section

variable {st st' : SlaLog} {k : Uuid} {ses : Session} {p : MissingDocumentPolicyResult}
  {row : ShipmentException} {e : ShipmentExceptionEvent}

omit [PyRuntime] in
/-- After a write the shipment's exception is the written row, and those of the
other shipments are as they were. -/
theorem exception?_written {db db' : Database} (hwf : Wf db) (hfresh : ses.Fresh db)
    (hold : ∀ x, db.exception? k = some x → row.id = x.id)
    (hnew : db.exception? k = none → row.id = ses.exceptionUuid) (hk : row.shipmentId = k)
    (hx : db'.shipmentExceptions = Table.put ShipmentException.id row db.shipmentExceptions)
    (j : Uuid) : db'.exception? j = if j = k then some row else db.exception? j := by
  unfold Database.exception? Table.get? at *
  rw [hx]
  by_cases hj : j = k
  · rw [if_pos hj, hj]
    cases hf : db.shipmentExceptions.find? fun r => decide (r.shipmentId = k) with
    | none => exact Table.find?_put_of_none (decide_eq_true hk) hf
    | some x => exact Table.find?_put_of_found hwf.keyed (decide_eq_true hk) hf (hold x hf).symm
  · rw [if_neg hj]
    refine Table.find?_put_of_not (decide_eq_false (hk ▸ Ne.symm hj)) fun r hr hid => ?_
    cases hf : db.shipmentExceptions.find? fun r => decide (r.shipmentId = k) with
    | none => exact absurd (hid.trans (hnew hf)) (hfresh.1 r hr)
    | some x =>
        have hrx : r = x := hwf.of_id (k := k) hf hr (hid.trans (hold x hf))
        have hxk : x.shipmentId = k := Table.get?_some_key (κ := Uuid) hf
        exact decide_eq_false (hrx ▸ hxk ▸ Ne.symm hj)

omit [PyRuntime] in
theorem Wf.written {db db' : Database} (hwf : Wf db) (hfresh : ses.Fresh db)
    (hold : ∀ x, db.exception? k = some x → row.id = x.id)
    (hnew : db.exception? k = none → row.id = ses.exceptionUuid) (hk : row.shipmentId = k)
    (hx : db'.shipmentExceptions = Table.put ShipmentException.id row db.shipmentExceptions)
    (hid : e.exceptionId = row.id)
    (he : db'.shipmentExceptionEvents = db.shipmentExceptionEvents ++ [e]) : Wf db' := by
  have hlook := exception?_written hwf hfresh hold hnew hk hx
  refine ⟨hx ▸ Table.nodup_put hwf.keyed, fun y hy => ?_, fun e' he' => ?_⟩
  · rw [hlook]
    rw [hx] at hy
    rcases Table.mem_put hy with rfl | hold'
    · rw [if_pos hk]
    · have hy' := hwf.unique y hold'
      by_cases hyk : y.shipmentId = k
      · -- The row of the shipment has been written over.
        rw [hyk] at hy'
        have hkeyed : Table.Keyed ShipmentException.id
            (Table.put ShipmentException.id row db.shipmentExceptions) := Table.nodup_put hwf.keyed
        have hrow := Table.get?_of_mem hkeyed hy
        rw [← hold y hy', Table.get?_put_self] at hrow
        rw [if_pos hyk, Option.some.inj hrow]
      · rw [if_neg hyk]
        exact hy'
  · rw [he] at he'
    rw [hx]
    rcases List.mem_append.mp he' with he' | he'
    · obtain ⟨y, hy, hyid⟩ := hwf.owned e' he'
      by_cases hr : y.id = row.id
      · exact ⟨row, Table.mem_put_self, hr.symm.trans hyid⟩
      · exact ⟨y, Table.mem_put_of_ne hy hr, hyid⟩
    · rw [List.mem_singleton.mp he']
      exact ⟨row, Table.mem_put_self, hid.symm⟩

omit [PyRuntime] in
theorem Wf.congr {db db' : Database} (hwf : Wf db)
    (hx : db'.shipmentExceptions = db.shipmentExceptions)
    (he : db'.shipmentExceptionEvents = db.shipmentExceptionEvents) : Wf db' := by
  refine ⟨hx ▸ hwf.keyed, fun y hy => ?_, fun e' he' => ?_⟩
  · rw [exception?_congr hx]
    exact hwf.unique y (hx ▸ hy)
  · rw [hx]
    exact hwf.owned e' (he ▸ he')

/-- After an evaluation the shipment's exception is as its policy asks, and the
other exceptions are as they were. -/
theorem Wf.synced {db db' : Database} (hwf : Wf db) (hfresh : ses.Fresh db)
    (h : Synced ses k p db db') :
    Wf db' ∧ (∀ x, db'.exception? k = some x → x.Follows p) ∧
      (db'.exception? k = none → p.state ≠ .overdue) ∧
      ∀ j, j ≠ k → db'.exception? j = db.exception? j := by
  cases h with
  | kept hfollows hopen hx he =>
      have hlook := exception?_congr hx
      refine ⟨hwf.congr hx he, ?_, ?_, fun j _ => by rw [hlook]⟩
      · rw [hlook]
        exact hfollows
      · rw [hlook]
        exact hopen
  | written hold hnew hk hfollows _ hrec hx he =>
      have hold' := fun x hx => (hold x hx).2
      have hnew' := fun hn => (hnew hn).2
      have hlook := exception?_written hwf hfresh hold' hnew' hk hx
      refine ⟨hwf.written hfresh hold' hnew' hk hx hrec.exceptionId he, fun x hx => ?_,
        fun hn => ?_, fun j hj => (hlook j).trans (if_neg hj)⟩
      · rw [hlook, if_pos rfl, Option.some.injEq] at hx
        exact hx ▸ hfollows
      · rw [hlook, if_pos rfl] at hn
        cases hn

/-- What is left alone stays faithful. -/
theorem Faithful.frame {j : Uuid} (h : st.Faithful j)
    (hx : st'.db.exception? j = st.db.exception? j)
    (he : ∀ x, st.db.exception? j = some x → st'.events x = st.events x)
    (hp : st'.policies j = st.policies j) : st'.Faithful j := by
  refine ⟨by rw [hx, hp]; exact h.opened, fun x hj => ?_, fun x hj => ?_, fun x hj => ?_,
    fun x p hj hl => h.follows x p (hx ▸ hj) (hp ▸ hl)⟩
  · rw [he x (hx ▸ hj)]
    exact h.versions x (hx ▸ hj)
  · rw [he x (hx ▸ hj)]
    exact h.linked x (hx ▸ hj)
  · rw [he x (hx ▸ hj)]
    exact h.row x (hx ▸ hj)

/-- An evaluation that finds the row as it should be. -/
theorem Faithful.kept (h : st.Faithful k) (hfollows : ∀ x, st.db.exception? k = some x → x.Follows p)
    (hopen : st.db.exception? k = none → p.state ≠ .overdue)
    (hx : st'.db.shipmentExceptions = st.db.shipmentExceptions)
    (he : st'.db.shipmentExceptionEvents = st.db.shipmentExceptionEvents)
    (hp : st'.policies k = st.policies k ++ [p]) : st'.Faithful k := by
  have hlook : st'.db.exception? k = st.db.exception? k := congrFun (exception?_congr hx) k
  have hevents : ∀ x, st'.events x = st.events x := fun x => by
    unfold events
    rw [he]
  refine ⟨?_, fun x hj => ?_, fun x hj => ?_, fun x hj => ?_, fun x q hj hl => ?_⟩
  · rw [hlook, hp, h.opened]
    constructor
    · rintro ⟨q, hq, ho⟩
      exact ⟨q, List.mem_append_left _ hq, ho⟩
    · rintro ⟨q, hq, ho⟩
      rcases List.mem_append.mp hq with hq | hq
      · exact ⟨q, hq, ho⟩
      · rw [List.mem_singleton.mp hq] at ho
        cases hk : st.db.exception? k with
        | none => exact absurd ho (hopen hk)
        | some x => exact h.opened.mp ⟨x, hk⟩
  · rw [hevents]
    exact h.versions x (hlook ▸ hj)
  · rw [hevents]
    exact h.linked x (hlook ▸ hj)
  · rw [hevents]
    exact h.row x (hlook ▸ hj)
  · rw [hp, List.getLast?_concat, Option.some.injEq] at hl
    exact hl ▸ hfollows x (hlook ▸ hj)

/-- An evaluation that writes a new version of the row and its event. -/
theorem Faithful.written (h : st.Faithful k)
    (hevents : st'.events row = ((st.db.exception? k).map st.events).getD [] ++ [e])
    (hlook : st'.db.exception? k = some row) (hfollows : row.Follows p)
    (hopen : st.db.exception? k = none → p.state = .overdue)
    (hversion : row.version = ((st.db.exception? k).map (·.version)).getD 0 + 1)
    (hrec : e.Records (st.db.exception? k) row p)
    (hp : st'.policies k = st.policies k ++ [p]) : st'.Faithful k := by
  have hrow : ∀ x, st'.db.exception? k = some x → x = row := fun x hx =>
    Option.some.inj (hx.symm.trans hlook)
  refine ⟨iff_of_true ⟨row, hlook⟩ ?_, fun x hj => ?_, fun x hj => ?_, fun x hj => ?_,
    fun x q hj hl => ?_⟩
  · rw [hp]
    cases hk : st.db.exception? k with
    | none => exact ⟨p, List.mem_append_right _ (List.mem_singleton_self p), hopen hk⟩
    | some x =>
        obtain ⟨q, hq, ho⟩ := h.opened.mp ⟨x, hk⟩
        exact ⟨q, List.mem_append_left _ hq, ho⟩
  · rw [hrow x hj, hevents, List.map_append, List.map_singleton, hrec.version, hversion]
    cases hk : st.db.exception? k with
    | none => rfl
    | some y =>
        simp only [Option.map_some, Option.getD_some]
        rw [h.versions y hk, List.range'_concat, Nat.one_mul, Nat.add_comm 1]
  · rw [hrow x hj, hevents, linked_snoc, hrec.before]
    cases hk : st.db.exception? k with
    | none => exact ⟨trivial, rfl⟩
    | some y => exact ⟨h.linked y hk, (h.row y hk).symm⟩
  · rw [hrow x hj, hevents, last_snoc, hrec.after]
  · rw [hp, List.getLast?_concat, Option.some.injEq] at hl
    rw [hrow x hj, ← hl]
    exact hfollows

omit [PyRuntime] in
/-- The events of the written row: those of the row before it, and the new
one. -/
theorem events_written (hwf : Wf st.db) (hfresh : ses.Fresh st.db)
    (hold : ∀ x, st.db.exception? k = some x → row.id = x.id)
    (hnew : st.db.exception? k = none → row.id = ses.exceptionUuid)
    (hid : e.exceptionId = row.id)
    (he : st'.db.shipmentExceptionEvents = st.db.shipmentExceptionEvents ++ [e]) :
    st'.events row = ((st.db.exception? k).map st.events).getD [] ++ [e] := by
  have hsplit : st'.events row = st.events row ++ [e] := by
    simp [events, he, hid]
  rw [hsplit]
  congr 1
  cases hk : st.db.exception? k with
  | none =>
      refine List.filter_eq_nil_iff.mpr fun e' he' => ?_
      obtain ⟨y, hy, hyid⟩ := hwf.owned e' he'
      rw [decide_eq_true_iff, ← hyid, hnew hk]
      exact hfresh.1 y hy
  | some x =>
      simp only [events, Option.map_some, Option.getD_some]
      rw [hold x hk]

omit [PyRuntime] in
/-- Another shipment's exception has no new event. -/
theorem events_written_of_ne (hwf : Wf st.db) (hfresh : ses.Fresh st.db)
    (hold : ∀ x, st.db.exception? k = some x → row.id = x.id)
    (hnew : st.db.exception? k = none → row.id = ses.exceptionUuid)
    (hid : e.exceptionId = row.id)
    (he : st'.db.shipmentExceptionEvents = st.db.shipmentExceptionEvents ++ [e]) {j : Uuid}
    (hj : j ≠ k) {y : ShipmentException} (hy : st.db.exception? j = some y) :
    st'.events y = st.events y := by
  have hne : e.exceptionId ≠ y.id := by
    rw [hid]
    cases hk : st.db.exception? k with
    | none =>
        rw [hnew hk]
        exact (hfresh.1 y (Table.get?_some_mem hy)).symm
    | some x =>
        rw [hold x hk]
        intro hxy
        have := hwf.of_id hy (Table.get?_some_mem hk) hxy
        have hjy : y.shipmentId = j := Table.get?_some_key hy
        have hkx : x.shipmentId = k := Table.get?_some_key hk
        exact hj (hjy.symm.trans ((congrArg (·.shipmentId) this).symm.trans hkx))
  simp [events, he, hne]

/-- Every step keeps every history faithful. -/
theorem faithful_step {l : SlaLabel} (hwf : Wf st.db) (h : ∀ j, st.Faithful j)
    (hs : st.step l = some st') : Wf st'.db ∧ ∀ j, st'.Faithful j := by
  rcases step_cases hs with ⟨hx, he, hf, -⟩ | ⟨ses, k, ev, s, -, hfresh, -, hsync, hf⟩
  · refine ⟨hwf.congr hx he, fun j => (h j).frame (congrFun (exception?_congr hx) j)
      (fun y _ => ?_) ?_⟩
    · unfold events
      rw [he]
    · unfold policies
      rw [hf]
  · have hp := policies_snoc hf
    obtain ⟨hwf', -, -, hothers⟩ := hwf.synced hfresh hsync
    refine ⟨hwf', fun j => ?_⟩
    cases hsync with
    | kept hfollows hopen hx he =>
        by_cases hj : j = k
        · subst hj
          exact (h j).kept hfollows hopen hx he ((hp j).trans (if_pos rfl))
        · refine (h j).frame (hothers j hj) (fun y _ => ?_) ((hp j).trans (if_neg hj))
          unfold events
          rw [he]
    | written hold hnew hk hfollows hversion hrec hx he =>
        have hold' := fun x hx => (hold x hx).2
        have hnew' := fun hn => (hnew hn).2
        have hlook := exception?_written hwf hfresh hold' hnew' hk hx
        by_cases hj : j = k
        · subst hj
          exact (h j).written (events_written hwf hfresh hold' hnew' hrec.exceptionId he)
            ((hlook j).trans (if_pos rfl)) hfollows (fun hn => (hnew hn).1) hversion hrec
            ((hp j).trans (if_pos rfl))
        · exact (h j).frame (hothers j hj)
            (fun y hy => events_written_of_ne hwf hfresh hold' hnew' hrec.exceptionId he hj hy)
            ((hp j).trans (if_neg hj))

end

/-! ## In every history -/

/-- A database with no exception yet. -/
structure Unopened (db : Database) : Prop where
  exceptions : db.shipmentExceptions = []
  events : db.shipmentExceptionEvents = []

omit [PyRuntime] in
theorem Unopened.wf {db : Database} (h : Unopened db) : Wf db where
  keyed := by
    rw [h.exceptions]
    exact List.nodup_nil
  unique x hx := by
    rw [h.exceptions] at hx
    cases hx
  owned e he := by
    rw [h.events] at he
    cases he

omit [PyRuntime] in
theorem Unopened.none {db : Database} (h : Unopened db) (k : Uuid) : db.exception? k = none := by
  unfold Database.exception?
  rw [h.exceptions]
  rfl

theorem Unopened.faithful {db : Database} (h : Unopened db) (k : Uuid) :
    Faithful ⟨db, []⟩ k := by
  have hnone := h.none k
  refine ⟨⟨?_, ?_⟩, fun x hx => ?_, fun x hx => ?_, fun x hx => ?_, fun x p hx => ?_⟩
  · rintro ⟨x, hx⟩
    cases hnone.symm.trans hx
  · rintro ⟨p, hp, -⟩
    cases hp
  · cases hnone.symm.trans hx
  · cases hnone.symm.trans hx
  · cases hnone.symm.trans hx
  · cases hnone.symm.trans hx

/-- The invariant of every run. -/
theorem Unopened.run {db : Database} (h : Unopened db) {ls : List SlaLabel} {st : SlaLog}
    (hrun : Run (Fires step) ⟨db, []⟩ ls st) : Wf st.db ∧ ∀ k, st.Faithful k :=
  hrun.preserves (fun st => Wf st.db ∧ ∀ k, st.Faithful k) ⟨h.wf, h.faithful⟩
    fun _ _ _ ih hs => faithful_step ih.1 ih.2 hs

/-- After any sequence of arrivals and evaluations the events of a shipment's
exception are the history of its row, the row is as the policy of the last
evaluation asks, and an evaluation that finds the same policy again adds no
event. -/
theorem sla_history_faithful {db : Database} (h : Unopened db) {ls : List SlaLabel} {st : SlaLog}
    (hrun : Run (Fires step) ⟨db, []⟩ ls st) (k : Uuid) :
    st.Faithful k ∧
      (∀ x p, st.db.exception? k = some x → (st.policies k).getLast? = some p →
        (x.status = .active ↔ p.state = .overdue) ∧
        (x.status = .active → x.missingDocs = p.missingDocs ∧ x.reasonCodes = p.reasonCodes)) ∧
      ∀ ses ev st', st.step (.evaluate ses k ev) = some st' →
        (st'.policies k).getLast? = (st.policies k).getLast? →
        st'.db.shipmentExceptionEvents = st.db.shipmentExceptionEvents := by
  obtain ⟨-, hall⟩ := h.run hrun
  refine ⟨hall k, fun x p hx hp => ?_, fun ses ev st' hs hsame => ?_⟩
  · have hf := (hall k).follows x p hx hp
    have hactive : x.status = .active ↔ p.state = .overdue := by
      rw [hf.status]
      split
      next ho => exact iff_of_true rfl ho
      next ho => exact iff_of_false (by decide) ho
    refine ⟨hactive, fun ha => ⟨?_, ?_⟩⟩
    · rw [hf.missingDocs, if_pos (hactive.mp ha)]
    · rw [hf.reasonCodes, if_pos (hactive.mp ha)]
  · rcases step_cases hs with ⟨-, he, -⟩ | ⟨ses', k', ev', s, hl, -, -, hsync, hf⟩
    · exact he
    · cases hl
      have hlast : (st.policies k).getLast? = some (policyFound ses s ev st.db) := by
        rw [← hsame, policies_snoc hf, if_pos rfl, List.getLast?_concat]
      cases hsync with
      | kept _ _ _ he => exact he
      | written hold hnew =>
          cases hk : st.db.exception? k with
          | some x => exact absurd ((hall k).follows x _ hk hlast) (hold x hk).1
          | none =>
              -- An overdue policy would have opened the exception already.
              obtain ⟨x, hx⟩ := (hall k).opened.mpr
                ⟨_, List.mem_of_getLast? hlast, (hnew hk).1⟩
              cases hk.symm.trans hx

end SlaLog

omit [PyRuntime]

/-- A shipment that is past its deadline when its invoice arrives, and is
evaluated before and after. -/
def lateShipment : Database :=
  { Database.empty with shipments := [Shipment.new "s1" "LD-001" 0] }

@[inherit_doc lateShipment]
def lateEvaluations : List SlaLabel :=
  [.evaluate ⟨1, 1, 100, "", 0, "r1", "x1", "e1"⟩ "s1" ⟨none, some 1000, some 100, none, none⟩,
   .arrive ⟨2, 2, 100, "s2", 0, "", "", ""⟩ (some "ld-001")
    ⟨1, "a.pdf", "invoice", "extracted", some [], none⟩ [],
   .evaluate ⟨3, 3, 100, "", 0, "r2", "x2", "e2"⟩ "s1" ⟨none, some 2000, some 100, none, none⟩]

theorem lateEvaluations_faithful :
    letI := asciiRuntime
    ∃ (st : SlaLog) (x : ShipmentException), st.db.exception? "s1" = some x ∧
      x.missingDocs = ["rate_con", "bol", "pod"] ∧ (st.events x).map (·.version) = [1, 2] := by
  let := asciiRuntime
  let final := exec SlaLog.step ⟨lateShipment, []⟩ lateEvaluations
  have hsome : final.isSome = true := by decide +kernel
  have hdata : final.all (fun st => (st.db.exception? "s1").any fun x =>
      decide (x.missingDocs = ["rate_con", "bol", "pod"] ∧ x.version = 2)) = true := by
    decide +kernel
  obtain ⟨st, hst⟩ := Option.isSome_iff_exists.mp hsome
  rw [hst, Option.all_some, Option.any_eq_true] at hdata
  obtain ⟨x, hx, hdata⟩ := hdata
  rw [decide_eq_true_iff] at hdata
  have h := (SlaLog.sla_history_faithful ⟨rfl, rfl⟩ (run_of_exec hst) "s1").1
  refine ⟨st, x, hx, hdata.1, (h.versions x hx).trans ?_⟩
  rw [hdata.2]
  rfl

end FreightAP
