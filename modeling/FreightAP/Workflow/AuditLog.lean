import FreightAP.Assembly.Row
import FreightAP.Workflow.GraphSafety

/-!
# The audit log of a run

What the nodes insert into `workflow_audit_logs`.  A run has at most one row of
an event type, so the rows of a run are a list of event types that every node
keeps or puts its own event into (`audit_runNode`).

The rows come before the checkpoint of the node that wrote them.  `Reached` says
which rows the run of a checkpoint has, and `Raised` which rows a run has whose
graph was interrupted.
-/

namespace FreightAP

/-! ## The rows of a run -/

namespace Database

/-- The event types of the audit rows of a run, in their order. -/
def auditOf (runId : String) (db : Database) : List String :=
  (db.workflowAuditLogs.filter (·.1 = runId)).map (·.2)

/-- The database with these audit rows of the run. -/
def withAudit (runId : String) (events : List String) (db : Database) : Database :=
  { db with
    workflowAuditLogs :=
      db.workflowAuditLogs.filter (·.1 ≠ runId) ++ events.map fun event => (runId, event) }

variable {runId eventType : String} {events : List String} {db : Database}

@[simp] theorem auditOf_withAudit : (db.withAudit runId events).auditOf runId = events := by
  have hother : (db.workflowAuditLogs.filter (·.1 ≠ runId)).filter (·.1 = runId) = [] := by
    simp
  have hown : (events.map fun event => (runId, event)).filter (·.1 = runId) =
      events.map fun event => (runId, event) := by
    simp [List.filter_eq_self]
  simp only [auditOf, withAudit, List.filter_append, hother, hown, List.nil_append,
    List.map_map]
  exact List.map_id _

/-- Inserting an audit row of the run. -/
theorem auditOf_logAuditEvent :
    (logAuditEvent runId eventType db).auditOf runId =
      Table.put id eventType (db.auditOf runId) := by
  simp only [auditOf, logAuditEvent, write]
  induction db.workflowAuditLogs with
  | nil => simp [Table.put]
  | cons row rows ih =>
      by_cases hrow : row = (runId, eventType)
      · simp [Table.put, hrow]
      · by_cases hrun : row.1 = runId
        · have hevent : row.2 ≠ eventType := fun he => hrow (Prod.ext hrun he)
          simp [Table.put, hrow, hrun, hevent] at ih ⊢
          exact ih
        · simp [Table.put, hrow, hrun] at ih ⊢
          exact ih

theorem mem_auditOf : eventType ∈ db.auditOf runId ↔ (runId, eventType) ∈ db.workflowAuditLogs := by
  simp only [auditOf, List.mem_map, List.mem_filter, decide_eq_true_eq]
  constructor
  · rintro ⟨⟨run, event⟩, ⟨hmem, rfl⟩, rfl⟩
    exact hmem
  · intro hmem
    exact ⟨_, ⟨hmem, rfl⟩, rfl⟩

end Database

/-- Putting an event that is there changes nothing. -/
theorem put_event_of_mem {event : String} {events : List String} (h : event ∈ events) :
    Table.put id event events = events := by
  induction events with
  | nil => cases h
  | cons e events ih =>
      by_cases he : e = event
      · simp [Table.put, he]
      · have hmem : event ∈ events := (List.mem_cons.mp h).resolve_left (Ne.symm he)
        simp [Table.put, he, ih hmem]

/-- Nothing is taken out, and the list stays as it is only if the event was there. -/
theorem put_event_eq_iff {event : String} {events : List String} :
    Table.put id event events = events ↔ event ∈ events := by
  constructor
  · intro h
    exact h ▸ Table.mem_put_self
  · exact put_event_of_mem

theorem subset_put_event {event : String} {events : List String} :
    events ⊆ Table.put id event events := by
  intro e he
  by_cases h : e = event
  · exact h ▸ Table.mem_put_self
  · exact Table.mem_put_of_ne he h

/-! ## Writes that are no audit rows -/

/-- A row of the audit log. -/
def Write.isAudit : Write → Bool
  | .audit _ _ => true
  | _ => false

theorem workflowAuditLogs_apply {db : Database} {ws : List Write}
    (h : ∀ w ∈ ws, w.isAudit = false) : (db.apply ws).workflowAuditLogs = db.workflowAuditLogs := by
  induction ws generalizing db with
  | nil => rfl
  | cons w ws ih =>
      rw [Database.apply_cons, ih fun w' hw' => h w' (List.mem_cons_of_mem _ hw')]
      have hw := h w List.mem_cons_self
      cases w with
      | audit => cases hw
      | _ => rfl

section

variable [PyRuntime] {ses : Session} {db : Database}

omit [PyRuntime] in
theorem insertShipment_isAudit {loadNumber : String} :
    ∀ w ∈ insertShipment ses loadNumber db, w.isAudit = false := by
  intro w hw
  unfold insertShipment at hw
  split at hw
  · cases hw
  · cases List.mem_singleton.mp hw
    rfl

theorem attachDocument_isAudit {s : Shipment} {document : Document} {extraction : Extraction} :
    ∀ w ∈ (attachDocument ses s document extraction db).2, w.isAudit = false := by
  intro w hw
  rw [attachDocument_writes, List.cons_append] at hw
  rcases List.mem_cons.mp hw with rfl | hw
  · rfl
  · rcases List.mem_append.mp hw with hw | hw
    · rcases attachExisting_writes ses (fillCarrier (fillSlot s document) extraction) db with
        h | ⟨rc, -, -, h⟩
      · rw [h] at hw
        cases hw
      · rw [h] at hw
        cases List.mem_singleton.mp hw
        rfl
    · cases List.mem_singleton.mp hw
      rfl

theorem reconcileShipment_isAudit {s : Shipment} {ev : Evaluation} :
    ∀ w ∈ (reconcileShipment ses s ev db).2.2, w.isAudit = false := by
  intro w hw
  unfold reconcileShipment at hw
  rcases List.mem_cons.mp hw with rfl | hw
  · rfl
  · rcases List.mem_cons.mp hw with rfl | hw
    · rfl
    · have hex := sync_writes ses _ _ _ _ db w hw
      cases w with
      | audit => cases hex
      | _ => rfl

theorem upsertShipment_isAudit {loadNumber : Option String} {document : Document}
    {extraction : Extraction} {s : Shipment} {ws : List Write}
    (h : upsertShipment ses loadNumber document extraction db = .ok (some (s, ws))) :
    ∀ w ∈ ws, w.isAudit = false := by
  unfold upsertShipment at h
  cases hn : normalizeLoadNumber loadNumber with
  | error message => simp [hn] at h
  | ok normalized =>
      cases normalized with
      | none => simp [hn] at h
      | some normalized =>
          simp only [hn] at h
          split at h
          · cases h
          next s₀ hs =>
            simp only [Except.ok.injEq, Option.some.injEq, Prod.mk.injEq] at h
            rw [← h.2]
            intro w hw
            rcases List.mem_append.mp hw with hw | hw
            · exact insertShipment_isAudit w hw
            · exact attachDocument_isAudit w hw

/-- `match_node`'s transaction leaves the audit log alone. -/
theorem matchDocument_workflowAuditLogs {v : WorkflowState} {db' : Database} {m : MatchResult}
    (h : matchDocument ses v db = .ok (m, db')) :
    db'.workflowAuditLogs = db.workflowAuditLogs := by
  unfold matchDocument at h
  cases hd : db.document? v.documentId with
  | none =>
      simp only [hd, Except.ok.injEq, Prod.mk.injEq] at h
      rw [← h.2]
  | some document =>
      simp only [hd] at h
      cases hl : loadNumberOf v.extraction with
      | error message => simp [hl] at h
      | ok loadNumber =>
          simp only [hl, assemble] at h
          cases hu : upsertShipment ses loadNumber document (v.extraction.getD []) db with
          | error message => simp [hu] at h
          | ok upserted =>
              cases upserted with
              | none =>
                  simp only [hu, Except.ok.injEq, Prod.mk.injEq] at h
                  rw [← h.2]
              | some attached =>
                  simp only [hu, Except.ok.injEq, Prod.mk.injEq] at h
                  rw [← h.2]
                  refine workflowAuditLogs_apply fun w hw => ?_
                  rcases List.mem_append.mp hw with hw | hw
                  · exact upsertShipment_isAudit hu w hw
                  · exact reconcileShipment_isAudit w hw

end

/-! ## What a node logs -/

/-- The database a node leaves. -/
def NodeOutcome.database : NodeOutcome → Database
  | .update _ db => db
  | .interrupt _ db => db
  | .raised _ db => db

/-- The database a step of the graph leaves. -/
def GraphOutcome.database (db : Database) : GraphOutcome → Database
  | .advanced _ db => db
  | .interrupted _ db => db
  | .raised _ db => db
  | .finished => db

/-- The event that `complete_node` logs. -/
def completionEvent? (v : WorkflowState) : Option String :=
  if isDisposition v.humanDecision then none
  else some (if v.hasException then "failed" else "completed")

/-- The event that a node logs. -/
def loggedEvent? (env : NodeEnv) (v : WorkflowState) : Node → Option String
  | .extractNode => env.extraction.toOption.map fun _ => "extracted"
  | .supervisorNode => env.triage.toOption.map fun _ => "triaged"
  | .exceptionNode => some "exception_raised"
  | .completeNode => completionEvent? v
  | _ => none

/-- The events of a run with one more, if there is one. -/
def recordEvent (events : List String) (event : Option String) : List String :=
  event.elim events fun event => Table.put id event events

theorem subset_recordEvent {events : List String} {event : Option String} :
    events ⊆ recordEvent events event := by
  cases event with
  | none => exact List.Subset.refl _
  | some event => exact subset_put_event

theorem recordEvent_eq_iff {events : List String} {event : Option String} :
    recordEvent events event = events ↔ ∀ e, event = some e → e ∈ events := by
  cases event with
  | none => simp [recordEvent]
  | some event => simp [recordEvent, put_event_eq_iff]

section

variable [PyRuntime] {env : NodeEnv} {resume : Option String} {v : WorkflowState}
  {db db' : Database} {c c' : Checkpoint} {runId : String}

omit [PyRuntime] in
/-- The check before the insert makes no difference to the rows. -/
theorem auditOf_logExceptionRaisedOnce :
    (logExceptionRaisedOnce runId db).auditOf runId =
      Table.put id "exception_raised" (db.auditOf runId) := by
  unfold logExceptionRaisedOnce
  split
  next h => exact (put_event_of_mem (Database.mem_auditOf.mpr h)).symm
  · exact Database.auditOf_logAuditEvent

/-- A node leaves the rows of its run, with its own event put in. -/
theorem auditOf_runNode (env : NodeEnv) (resume : Option String) (n : Node) (db : Database)
    (hrun : v.runId = runId) :
    (runNode env resume n v db).database.auditOf runId =
      recordEvent (db.auditOf runId) (loggedEvent? env v n) := by
  subst hrun
  cases n with
  | extractNode =>
      simp only [runNode, extractNode, loggedEvent?]
      cases env.extraction with
      | error message => rfl
      | ok extraction => exact Database.auditOf_logAuditEvent
  | matchNode =>
      simp only [runNode, matchNode, loggedEvent?]
      cases hm : matchDocument env.session v db with
      | error message => rfl
      | ok out =>
          have hlogs := matchDocument_workflowAuditLogs hm
          simp [NodeOutcome.database, recordEvent, Database.auditOf, hlogs]
  | supervisorNode =>
      simp only [runNode, supervisorNode, loggedEvent?]
      cases env.triage with
      | error message => rfl
      | ok decision => exact Database.auditOf_logAuditEvent
  | exceptionNode =>
      cases resume with
      | none => exact auditOf_logExceptionRaisedOnce
      | some decision => exact auditOf_logExceptionRaisedOnce
  | approveNode => rfl
  | rejectNode => rfl
  | completeNode =>
      simp only [runNode, completeNode, loggedEvent?, completionEvent?]
      cases hd : isDisposition v.humanDecision with
      | true => simp [NodeOutcome.database, recordEvent]
      | false =>
          cases hex : v.hasException with
          | true =>
              simp [NodeOutcome.database, recordEvent, Database.auditOf_logAuditEvent]
          | false =>
              simp [NodeOutcome.database, recordEvent, Database.auditOf_logAuditEvent]

/-- The rows that a step of the graph leaves. -/
theorem auditOf_stepGraph (env : NodeEnv) (resume : Option String) (db : Database)
    (hrun : c.values.runId = runId) :
    ((stepGraph env resume c db).database db).auditOf runId =
      recordEvent (db.auditOf runId) (c.next.bind (loggedEvent? env c.values)) := by
  unfold stepGraph
  cases hn : c.next with
  | none => rfl
  | some n =>
      rw [Option.bind_some, ← auditOf_runNode env resume n db hrun]
      cases hr : runNode env resume n c.values db <;>
      · simp only [hr]
        rfl

/-- A step of the graph takes no row out. -/
theorem auditOf_subset (env : NodeEnv) (resume : Option String) (db : Database)
    (hrun : c.values.runId = runId) :
    db.auditOf runId ⊆ ((stepGraph env resume c db).database db).auditOf runId := by
  rw [auditOf_stepGraph env resume db hrun]
  exact subset_recordEvent

end

/-! ## The rows behind a checkpoint -/

/-- The rows of a run whose graph was interrupted. -/
structure Raised (events : List String) : Prop where
  extracted : "extracted" ∈ events
  triaged : "triaged" ∈ events
  raised : "exception_raised" ∈ events

/-- The rows that the nodes before a checkpoint have left, and what they left of
the decision and the status. -/
structure Checkpoint.Reached (runId : String) (events : List String) (c : Checkpoint) : Prop where
  run : c.values.runId = runId
  extracted : c.next ≠ some .extractNode → "extracted" ∈ events
  triaged : c.next = some .exceptionNode → "triaged" ∈ events
  decided : c.values.humanDecision = none ∨ isDisposition c.values.humanDecision = true
  ended : c.next = none → c.values.processingStatus ≠ .awaitingReview

theorem Raised.mono {events events' : List String} (h : Raised events) (hsub : events ⊆ events') :
    Raised events' := ⟨hsub h.extracted, hsub h.triaged, hsub h.raised⟩

section

variable [PyRuntime] {env : NodeEnv} {resume : Option String} {db db' : Database}
  {c c' : Checkpoint} {runId : String} {events events' : List String}

namespace Checkpoint.Reached

omit [PyRuntime] in
theorem mono (h : c.Reached runId events) (hsub : events ⊆ events') : c.Reached runId events' where
  run := h.run
  extracted hn := hsub (h.extracted hn)
  triaged hn := hsub (h.triaged hn)
  decided := h.decided
  ended := h.ended

omit [PyRuntime] in
/-- A new run, with no row yet. -/
theorem start {v : WorkflowState} (hrun : v.runId = runId) (hd : v.humanDecision = none) :
    (Checkpoint.start v).Reached runId events where
  run := hrun
  extracted h := absurd rfl h
  triaged h := by cases h
  decided := .inl hd
  ended h := by cases h

/-- What a step keeps of the run, the decision and the status, whatever the
database is. -/
theorem values (h : c.Reached runId events) (hres : resume = none ∨ isDisposition resume = true)
    (hs : stepGraph env resume c db = .advanced c' db') :
    c'.values.runId = runId ∧
      (c'.values.humanDecision = none ∨ isDisposition c'.values.humanDecision = true) ∧
      (c'.next = none → c'.values.processingStatus ≠ .awaitingReview) := by
  obtain ⟨n, v', hn, hr, rfl⟩ := stepGraph_advanced hs
  obtain ⟨hrun, -, -, hsame, hnew⟩ := runNode_update hr
  refine ⟨hrun.trans h.run, ?_, fun hnone => ?_⟩
  · by_cases hex : n = .exceptionNode
    · rw [(hnew hex).1]
      exact hres
    · rw [hsame hex]
      exact h.decided
  · cases n with
    | completeNode =>
        simp only [runNode, completeNode] at hr
        split at hr
        · cases hr
          intro h
          cases h
        · cases hr
          intro h
          cases h
    | _ => cases hnone

/-- The node of a checkpoint logs before the next checkpoint. -/
theorem step (h : c.Reached runId (db.auditOf runId))
    (hres : resume = none ∨ isDisposition resume = true)
    (hs : stepGraph env resume c db = .advanced c' db') : c'.Reached runId (db'.auditOf runId) := by
  have hsub := auditOf_subset env resume db h.run
  have hrows := auditOf_stepGraph env resume db h.run
  rw [hs] at hsub hrows
  obtain ⟨hrun, hdecided, hended⟩ := h.values hres hs
  obtain ⟨n, v', hn, hr, rfl⟩ := stepGraph_advanced hs
  rw [hn, Option.bind_some] at hrows
  refine ⟨hrun, fun _ => ?_, fun hnext => ?_, hdecided, hended⟩
  · by_cases hex : n = .extractNode
    · subst hex
      simp only [runNode, extractNode] at hr
      cases hx : env.extraction with
      | error message => simp [hx] at hr
      | ok extraction =>
          rw [show db'.auditOf runId = _ from hrows]
          simp [loggedEvent?, hx, Except.toOption, recordEvent, Table.mem_put_self]
    · exact hsub (h.extracted fun heq => hex (Option.some.inj (hn.symm.trans heq)))
  · cases n with
    | supervisorNode =>
        simp only [runNode, supervisorNode] at hr
        cases ht : env.triage with
        | error message => simp [ht] at hr
        | ok decision =>
            rw [show db'.auditOf runId = _ from hrows]
            simp [loggedEvent?, ht, Except.toOption, recordEvent, Table.mem_put_self]
    | exceptionNode => exact hsub (h.triaged hn)
    | matchNode =>
        simp only [nextNode, routeAfterMatch] at hnext
        split at hnext
        · cases hnext
        · split at hnext <;> cases hnext
    | _ => cases hnext

/-- A step of a run whose graph was interrupted before. -/
theorem resumed (h : c.Reached runId events) (hraised : Raised events)
    (hres : resume = none ∨ isDisposition resume = true)
    (hs : stepGraph env resume c db = .advanced c' db') : c'.Reached runId events := by
  obtain ⟨hrun, hdecided, hended⟩ := h.values hres hs
  exact ⟨hrun, fun _ => hraised.extracted, fun _ => hraised.triaged, hdecided, hended⟩

/-- `exception_node` logs before it interrupts. -/
theorem interrupted {payload : InterruptPayload} (h : c.Reached runId (db.auditOf runId))
    (hs : stepGraph env resume c db = .interrupted payload db') : Raised (db'.auditOf runId) := by
  have hsub := auditOf_subset env resume db h.run
  rw [hs] at hsub
  obtain ⟨hn, -, hdb⟩ := stepGraph_interrupted hs
  have hex : c.next ≠ some .extractNode := by
    rw [hn]
    decide
  refine ⟨hsub (h.extracted hex), hsub (h.triaged hn), ?_⟩
  rw [hdb, h.run, auditOf_logExceptionRaisedOnce]
  exact Table.mem_put_self

end Checkpoint.Reached

/-- The event that a node of a sound checkpoint logs, once the graph was
interrupted, is an old one, or that of a completion without a decision. -/
theorem Raised.keeps_iff (env : NodeEnv) (resume : Option String) (hraised : Raised (db.auditOf runId))
    (hc : c.Reached runId (db.auditOf runId)) (hsound : c.Sound) :
    ((stepGraph env resume c db).database db).auditOf runId = db.auditOf runId ↔
      (c.next = some .completeNode →
        isDisposition c.values.humanDecision = true ∨ "completed" ∈ db.auditOf runId) := by
  rw [auditOf_stepGraph env resume db hc.run, recordEvent_eq_iff]
  cases hsound with
  | clear hclear =>
      simp only [Option.bind_some, loggedEvent?, completionEvent?, hclear.1]
      cases hd : isDisposition _ <;> simp
  | reviewed hd _ =>
      have hdisp := hc.decided.resolve_left hd
      simp [loggedEvent?, completionEvent?, hdisp]
  | extract =>
      refine iff_of_true (fun e he => ?_) (fun h => by cases h)
      obtain ⟨_, _, rfl⟩ := Option.map_eq_some_iff.mp he
      exact hraised.extracted
  | supervise =>
      refine iff_of_true (fun e he => ?_) (fun h => by cases h)
      obtain ⟨_, _, rfl⟩ := Option.map_eq_some_iff.mp he
      exact hraised.triaged
  | review =>
      refine iff_of_true (fun e he => ?_) (fun h => by cases h)
      cases he
      exact hraised.raised
  | _ => exact iff_of_true (fun e he => by cases he) (fun h => by cases h)

end

end FreightAP
