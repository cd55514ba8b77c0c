import FreightAP.Worker.AuditedRun

/-!
# What the audit rows of a run stand behind

A run is made to wait for a review after its graph was interrupted, and by then
the rows of the nodes before the interrupt are committed.  `Backing` says so of
the stores, and `Backed` of an execution and of a call.  One step of each keeps
it, whether or not an execution survives the commit of an audit row.

A call that has the row locked works on such a run, so its graph inserts no row
before `complete_node` (`eventsAfter_eq_iff`).
-/

namespace FreightAP

open Transition

/-! ## What the stores have behind them -/

/-- The execution holds an interrupt of its graph. -/
def ExecPhase.interrupted : ExecPhase → Bool
  | .resulted _ .interrupted => true
  | _ => false

/-- The resume value that a call still has. -/
def ReviewPhase.resume? : ReviewPhase → Option String
  | .invoking _ _ resume => resume
  | _ => none

section

variable [PyRuntime] {uuid5 : String → String} {runId filename : String}
  {events events' : List String} {r r' : RunRecord} {p p' : ExecPhase} {a : ExecAction}
  {c : Checkpoint} {run loaded new : WorkflowRun} {env : NodeEnv} {db : Database}
  {v : Option String}

/-- The checkpoints and the rows of a run, against its audit rows. -/
structure RunRecord.Backing (r : RunRecord) (runId : String) (events : List String) : Prop where
  sound : r.SoundCheckpoints
  reached : ∀ c ∈ r.checkpoints, c.Reached runId events
  awaiting : r.Committed .awaitingReview → Raised events

namespace RunRecord.Backing

omit [PyRuntime] in
theorem mono (h : r.Backing runId events) (hsub : events ⊆ events') : r.Backing runId events' where
  sound := h.sound
  reached c hc := (h.reached c hc).mono hsub
  awaiting hc := (h.awaiting hc).mono hsub

omit [PyRuntime] in
theorem put (h : r.Backing runId events) (hsound : c.Sound ∧ c.Ended)
    (hc : c.Reached runId events) : (r.put c).Backing runId events where
  sound := h.sound.put hsound
  reached c' hc' := by
    rcases List.mem_append.mp hc' with hc' | hc'
    · exact h.reached c' hc'
    · cases List.mem_singleton.mp hc'
      exact hc
  awaiting := h.awaiting

omit [PyRuntime] in
theorem commit (h : r.Backing runId events) (run : WorkflowRun)
    (hrun : run.processingStatus = .awaitingReview → Raised events) :
    (r.commit run).Backing runId events where
  sound := h.sound
  reached := h.reached
  awaiting hc := by
    obtain ⟨row, hrow, hs⟩ := hc
    rcases List.mem_append.mp hrow with hrow | hrow
    · exact h.awaiting ⟨row, hrow, hs⟩
    · cases List.mem_singleton.mp hrow
      exact hrun hs

omit [PyRuntime] in
theorem writeRow (h : r.Backing runId events) (hw : r.writeRow loaded new = some r')
    (hnew : new.processingStatus = .awaitingReview → Raised events) :
    r'.Backing runId events := by
  rcases RunRecord.writeRow_cases hw with ⟨-, rfl⟩ | ⟨-, -, row, hrow, rfl⟩
  · exact h
  · refine h.commit _ fun hs => ?_
    simp only [WorkflowRun.flush] at hs
    split at hs
    · exact h.awaiting (hs ▸ committed_row hrow)
    · exact hnew hs

end RunRecord.Backing

omit [PyRuntime] in
theorem RunRecord.empty_backing : RunRecord.empty.Backing runId events where
  sound c hc := by cases hc
  reached c hc := by cases hc
  awaiting hc := by
    obtain ⟨v, hv, -⟩ := hc
    cases hv

/-- A run, and an execution that has a checkpoint of it or its interrupt. -/
structure ExecPhase.Backed (p : ExecPhase) (runId : String) (events : List String)
    (r : RunRecord) : Prop where
  record : r.Backing runId events
  known : ∀ c, p.checkpoint? = some c → c ∈ r.checkpoints
  raised : p.interrupted = true → Raised events

namespace ExecPhase.Backed

omit [PyRuntime] in
theorem mono (h : p.Backed runId events r) (hsub : events ⊆ events') :
    p.Backed runId events' r where
  record := h.record.mono hsub
  known := h.known
  raised hi := (h.raised hi).mono hsub

omit [PyRuntime] in
/-- An execution that has neither at hand. -/
theorem plain (h : r.Backing runId events) (hc : p.checkpoint? = none)
    (hi : p.interrupted = false) : p.Backed runId events r where
  record := h
  known c h := by cases hc.symm.trans h
  raised h := by cases hi.symm.trans h

omit [PyRuntime] in
theorem bare (h : r.Backing runId events) (hb : p.bare = true) : p.Backed runId events r := by
  refine plain h ?_ ?_ <;> cases p <;> first | rfl | cases hb

end ExecPhase.Backed

/-! ## Executions -/

/-- What a node does to the record. -/
theorem executeNode_record (env : NodeEnv) (db : Database) (run : WorkflowRun) (c : Checkpoint)
    (v : Option String) (r : RunRecord) :
    (executeNode env db run c v r).1 = r ∨
      ∃ c' db', stepGraph env v c db = .advanced c' db' ∧
        (executeNode env db run c v r).1 = r.put c' := by
  unfold executeNode
  cases hs : stepGraph env v c db with
  | advanced c' db' => exact .inr ⟨c', db', rfl, rfl⟩
  | _ => exact .inl rfl

/-- A node logs before its checkpoint is put, and before it interrupts. -/
theorem ExecPhase.Backed.executeNode (env : NodeEnv)
    (h : (ExecPhase.invoking run c).Backed runId (db.auditOf runId) r)
    (hv : v = none ∨ isDisposition v = true) :
    (FreightAP.executeNode env db run c v r).2.Backed runId
      (((stepGraph env v c db).database db).auditOf runId)
      (FreightAP.executeNode env db run c v r).1 := by
  have hmem := h.known c rfl
  have hc := h.record.reached c hmem
  have hrows := h.record.mono (auditOf_subset env v db hc.run)
  unfold FreightAP.executeNode
  cases hs : stepGraph env v c db with
  | advanced c' db' =>
      rw [hs] at hrows
      refine ⟨hrows.put ⟨(h.record.sound c hmem).1.step hs, stepGraph_settles hs⟩ (hc.step hv hs),
        fun d hd => ?_, fun hi => by cases hi⟩
      cases hd
      exact List.mem_append_right _ List.mem_cons_self
  | interrupted payload db' =>
      rw [hs] at hrows
      exact ⟨hrows, fun d hd => (by cases hd), fun _ => hc.interrupted hs⟩
  | raised message db' =>
      rw [hs] at hrows
      exact .plain hrows rfl rfl
  | finished =>
      rw [hs] at hrows
      refine ⟨hrows, fun d hd => ?_, fun hi => by cases hi⟩
      cases hd
      have hn := stepGraph_finished hs
      rw [← hn]
      exact hmem

omit [PyRuntime] in
/-- An execution writes that a run waits for a review after its graph was
interrupted. -/
theorem ExecPhase.Backed.result (hp : p.Backed runId events r) {result : GraphResult}
    (hr : p = .resulted run result)
    (ha : (result.row run).processingStatus = .awaitingReview) : Raised events := by
  subst hr
  cases result with
  | interrupted => exact hp.raised rfl
  | finished values =>
      have hmem := hp.known ⟨values, none⟩ rfl
      exact absurd ha ((hp.record.reached _ hmem).ended rfl)

variable {job : InvoiceJobEnvelope} {operatorReplay : Bool} {call : Nat → Option ReviewCall}

omit [PyRuntime] in
theorem inputCheckpoint_reached {documentId : Nat} {newest : Option Checkpoint}
    (hjob : deterministicRunId uuid5 job.idempotencyKey = runId) :
    (inputCheckpoint uuid5 job documentId newest).Reached runId events :=
  .start hjob rfl

/-- The steps of an execution that run no node. -/
theorem ExecPhase.Backed.executes (hp : p.Backed runId events r)
    (hjob : deterministicRunId uuid5 job.idempotencyKey = runId)
    (ha : ∀ env db resume, a ≠ .node env db resume)
    (h : Executes uuid5 job operatorReplay r a p r' p') : p'.Backed runId events r' := by
  cases h with
  | created _ hb => exact .bare (hp.record.commit _ fun hs => by cases hs) hb
  | found hc hn =>
      refine ⟨hp.record, fun d hd => ?_, fun hi => by cases hi⟩
      cases hd
      exact hn ▸ RunRecord.mem_checkpoints hc
  | input hc =>
      subst hc
      refine ⟨hp.record.put (inputCheckpoint_sound ..) (inputCheckpoint_reached hjob),
        fun d hd => ?_, fun hi => by cases hi⟩
      cases hd
      exact List.mem_append_right _ List.mem_cons_self
  | resumed hc =>
      refine ⟨hp.record, fun d hd => ?_, fun hi => by cases hi⟩
      cases hd
      exact RunRecord.mem_checkpoints hc
  | node => exact absurd rfl (ha _ _ _)
  | interrupted => exact absurd rfl (ha _ _ _)
  | ended => exact absurd rfl (ha _ _ _)
  | @wrote _ w result _ hw hne hr =>
      have hrecord : r'.Backing runId events := by
        refine hp.record.writeRow hr fun hs => ?_
        cases p with
        | resulted run result =>
            cases hw
            exact hp.result rfl hs
        | _ => cases hw <;> cases hs
      refine .plain hrecord ?_ ?_ <;> cases p <;> cases hw <;> cases result <;> rfl
  | quiet _ _ hb => exact .bare hp.record hb
  | _ => exact .plain hp.record rfl rfl

omit [PyRuntime] in
/-- A resume value is a disposition. -/
theorem resumeValue_decided {resume : Option Nat} (h : resumeValue call resume = some v) :
    v = none ∨ isDisposition v = true := by
  cases resume with
  | none =>
      cases h
      exact .inl rfl
  | some id =>
      obtain ⟨x, -, rfl⟩ := Option.map_eq_some_iff.mp h
      exact .inr (x.requested.isDisposition_text)

/-- What an execution steps on has these audit rows. -/
theorem ExecAction.subset_eventsAfter (a : ExecAction) (call : Nat → Option ReviewCall)
    (hp : p.Backed runId events r) :
    events ⊆ (a.withAudit runId events).eventsAfter runId events call p := by
  cases a with
  | node env db resume =>
      cases p with
      | invoking run c =>
          simp only [withAudit, eventsAfter]
          cases hv : resumeValue call resume with
          | none => exact List.Subset.refl _
          | some v =>
              have hsub := auditOf_subset env v (db.withAudit runId events)
                (hp.record.reached c (hp.known c rfl)).run
              rw [Database.auditOf_withAudit] at hsub
              exact hsub
      | _ => exact List.Subset.refl _
  | _ => exact List.Subset.refl _

/-- One step of an execution, whether or not it survives the commit of an audit
row. -/
theorem ExecPhase.Backed.executed (hp : p.Backed runId events r)
    (hjob : deterministicRunId uuid5 job.idempotencyKey = runId) (e : StepEnd)
    (h : runWorkflowForJob uuid5 call job operatorReplay r (e.action (a.withAudit runId events)) p =
      some (r', p')) :
    p'.Backed runId ((a.withAudit runId events).eventsAfter runId events call p) r' := by
  have hsub := ExecAction.subset_eventsAfter a call hp
  cases e with
  | whole =>
      cases a with
      | node env db resume =>
          cases p with
          | invoking run c =>
              simp only [StepEnd.action, ExecAction.withAudit, runWorkflowForJob] at h
              obtain ⟨v, hv, h⟩ := Option.map_eq_some_iff.mp h
              simp only [ExecAction.withAudit, ExecAction.eventsAfter, hv, Option.elim_some]
              have hp' : (ExecPhase.invoking run c).Backed runId
                  ((db.withAudit runId events).auditOf runId) r := by
                rw [Database.auditOf_withAudit]
                exact hp
              have hnode := hp'.executeNode env (resumeValue_decided hv)
              rw [h] at hnode
              exact hnode
          | _ => cases h
      | _ => exact hp.executes hjob (fun _ _ _ => by intro h; cases h) (runWorkflowForJob_executes h)
  | faulted =>
      exact (hp.mono hsub).executes hjob (fun _ _ _ => by intro h; cases h)
        (runWorkflowForJob_executes h)
  | crashed =>
      exact (hp.mono hsub).executes hjob (fun _ _ _ => by intro h; cases h)
        (runWorkflowForJob_executes h)

/-! ## The upload -/

/-- The steps of the upload, one constructor for each way a step goes. -/
inductive Uploads (runId filename : String) (r : RunRecord) :
    ExecAction → ExecPhase → RunRecord → ExecPhase → Prop where
  | inserted {documentId : Nat} {result : CommitEnd} {p' : ExecPhase} :
      p'.checkpoint? = none → p'.interrupted = false →
      Uploads runId filename r (.open documentId result) .opening
        (r.commit (uploadedRun documentId)) p'
  | input {run : WorkflowRun} :
      Uploads runId filename r .invoke (.entering run true)
        (r.put (.start (initialState runId run.documentId filename [])))
        (.invoking run (.start (initialState runId run.documentId filename [])))
  | node {run : WorkflowRun} {c : Checkpoint} {env : NodeEnv} {db : Database} {r' : RunRecord}
      {p' : ExecPhase} : executeNode env db run c none r = (r', p') →
      Uploads runId filename r (.node env db none) (.invoking run c) r' p'
  | wrote {p : ExecPhase} {w : RowWrite} {result : CommitEnd} {r' : RunRecord} :
      uploadWrite? p = some w → result ≠ .failed → r.writeRow w.loaded w.new = some r' →
      Uploads runId filename r (.commit result) p r' (w.next result)
  | quiet {a : ExecAction} {p p' : ExecPhase} : (∀ env db resume, a ≠ .node env db resume) →
      p'.checkpoint? = none → p'.interrupted = false → Uploads runId filename r a p r p'

theorem runWorkflow_uploads (h : runWorkflow runId filename r a p = some (r', p')) :
    Uploads runId filename r a p r' p' := by
  cases a with
  | «open» documentId result =>
      cases p <;> simp only [runWorkflow, reduceCtorEq] at h
      cases result <;> cases h
      · exact .inserted rfl rfl
      · exact .inserted rfl rfl
      · exact .quiet (fun _ _ _ h => by cases h) rfl rfl
  | invoke =>
      cases p with
      | entering run fresh =>
          cases fresh <;> cases h
          exact .input
      | _ => cases h
  | node env db resume =>
      cases p <;> cases resume <;> simp only [runWorkflow, reduceCtorEq, Option.some.injEq] at h
      exact .node h
  | commit result =>
      obtain ⟨w, hw, h⟩ := Option.bind_eq_some_iff.mp h
      cases result with
      | failed =>
          cases h
          refine .quiet (fun _ _ _ h => by cases h) ?_ ?_ <;> cases p <;> cases hw <;> rfl
      | answered =>
          obtain ⟨r₁, hr, h⟩ := Option.map_eq_some_iff.mp h
          cases h
          exact .wrote hw (by intro h; cases h) hr
      | lost =>
          obtain ⟨r₁, hr, h⟩ := Option.map_eq_some_iff.mp h
          cases h
          exact .wrote hw (by intro h; cases h) hr
  | fault => cases p <;> cases h <;> exact .quiet (fun _ _ _ h => by cases h) rfl rfl
  | crash =>
      simp only [runWorkflow] at h
      split at h
      · cases h
        exact .quiet (fun _ _ _ h => by cases h) rfl rfl
      · cases h
  | _ => cases p <;> cases h

theorem Uploads.grows (h : Uploads runId filename r a p r' p') : r.Grows r' := by
  cases h with
  | inserted => exact r.grows_commit _
  | input => exact r.grows_put _
  | @node run c env db _ _ hnode =>
      rcases executeNode_record env db run c none r with heq | ⟨c', db', -, heq⟩
      · rw [hnode] at heq
        cases heq
        exact .refl _
      · rw [hnode] at heq
        cases heq
        exact r.grows_put c'
  | wrote _ _ hr => exact RunRecord.writeRow_grows hr
  | quiet => exact .refl r

/-- The steps of the upload that run no node. -/
theorem ExecPhase.Backed.uploads (hp : p.Backed runId events r)
    (ha : ∀ env db resume, a ≠ .node env db resume)
    (h : Uploads runId filename r a p r' p') : p'.Backed runId events r' := by
  cases h with
  | @inserted documentId _ _ hc hi =>
      exact .plain (hp.record.commit (uploadedRun documentId) fun hs => by cases hs) hc hi
  | input =>
      refine ⟨hp.record.put ⟨.extract rfl, fun hn => by cases hn⟩ (.start rfl rfl),
        fun d hd => ?_, fun hi => by cases hi⟩
      cases hd
      exact List.mem_append_right _ List.mem_cons_self
  | node => exact absurd rfl (ha _ _ _)
  | @wrote _ w result _ hw hne hr =>
      have hrecord : r'.Backing runId events := by
        refine hp.record.writeRow hr fun hs => ?_
        cases p with
        | resulted run result =>
            cases hw
            exact hp.result rfl hs
        | _ => cases hw <;> cases hs
      refine .plain hrecord ?_ ?_ <;> cases p <;> cases hw <;> cases result <;> rfl
  | quiet _ hc hi => exact .plain hp.record hc hi

/-- One step of the upload. -/
theorem ExecPhase.Backed.uploaded (hp : p.Backed runId events r)
    (call : Nat → Option ReviewCall) (e : StepEnd)
    (h : FreightAP.runWorkflow runId filename r (e.action (a.withAudit runId events)) p =
      some (r', p')) :
    p'.Backed runId ((a.withAudit runId events).eventsAfter runId events call p) r' := by
  have hsub := ExecAction.subset_eventsAfter a call hp
  cases e with
  | whole =>
      cases a with
      | node env db resume =>
          cases p with
          | invoking run c =>
              cases resume with
              | some id => cases h
              | none =>
                  have hp' : (ExecPhase.invoking run c).Backed runId
                      ((db.withAudit runId events).auditOf runId) r := by
                    rw [Database.auditOf_withAudit]
                    exact hp
                  have hnode := hp'.executeNode env (.inl rfl)
                  rw [show _ = (r', p') from Option.some.inj h] at hnode
                  exact hnode
          | _ => cases resume <;> cases h
      | _ => exact hp.uploads (fun _ _ _ h => by cases h) (runWorkflow_uploads h)
  | faulted => exact (hp.mono hsub).uploads (fun _ _ _ h => by cases h) (runWorkflow_uploads h)
  | crashed => exact (hp.mono hsub).uploads (fun _ _ _ h => by cases h) (runWorkflow_uploads h)

/-! ## Calls -/

/-- A call that has the row locked works on an interrupted run, and resumes its
graph with a disposition. -/
structure ReviewPhase.Backed (φ : ReviewPhase) (events : List String) : Prop where
  raised : φ.holds = true → Raised events
  resume : φ.resume? = none ∨ isDisposition φ.resume? = true

variable {id : Nat} {requested : Disposition} {φ φ' : ReviewPhase}

omit [PyRuntime] in
theorem ReviewPhase.Backed.mono (h : φ.Backed events) (hsub : events ⊆ events') :
    φ.Backed events' := ⟨fun hh => (h.raised hh).mono hsub, h.resume⟩

omit [PyRuntime] in
theorem ReviewPhase.backed_of_inactive (hi : φ.active = false) : φ.Backed events where
  raised hh := by cases (holds_of_active hi).symm.trans hh
  resume := by
    left
    cases φ <;> first | rfl | cases hi

/-- One step of a call. -/
theorem RunRecord.Backing.reviews (hr : r.Backing runId events)
    (hknown : ∀ c, φ.checkpoint? = some c → c ∈ r.checkpoints) (hφ : φ.Backed events)
    (h : Reviews id requested r φ r' φ') :
    r'.Backing runId events ∧ φ'.Backed events ∧ φ' ≠ .waiting := by
  cases h with
  | lock _ hrow _ hs =>
      exact ⟨⟨hr.sound, hr.reached, hr.awaiting⟩,
        ⟨fun _ => hr.awaiting (hs ▸ committed_row hrow), .inl rfl⟩, by intro h; cases h⟩
  | refused _ hi _ =>
      exact ⟨hr, ReviewPhase.backed_of_inactive hi, by rintro rfl; cases hi⟩
  | failed _ hi _ =>
      exact ⟨⟨hr.sound, hr.reached, hr.awaiting⟩, ReviewPhase.backed_of_inactive hi,
        by rintro rfl; cases hi⟩
  | node hs =>
      have hmem := hknown _ rfl
      have hput := hr.put ⟨(hr.sound _ hmem).1.step hs, stepGraph_settles hs⟩
        ((hr.reached _ hmem).resumed (hφ.raised rfl) hφ.resume hs)
      exact ⟨hput, ⟨fun _ => hφ.raised rfl, .inl rfl⟩, by intro h; cases h⟩
  | @store run values _ =>
      have hcommit := hr.commit (run.decided requested) fun hs => by cases hs
      exact ⟨⟨hcommit.sound, hcommit.reached, hcommit.awaiting⟩,
        ReviewPhase.backed_of_inactive rfl, by intro h; cases h⟩
  | invoke =>
      exact ⟨hr, ⟨fun _ => hφ.raised rfl, .inr requested.isDisposition_text⟩, by intro h; cases h⟩
  | repeated => exact ⟨hr, ReviewPhase.backed_of_inactive rfl, by intro h; cases h⟩
  | crash => exact ⟨hr, ReviewPhase.backed_of_inactive rfl, by intro h; cases h⟩
  | _ => exact ⟨hr, ⟨fun _ => hφ.raised rfl, .inl rfl⟩, by intro h; cases h⟩

/-- The lock is the first step of a call. -/
theorem Reviews.waiting_of_locks (h : Reviews id requested r φ r' φ') (hl : φ'.locks = true) :
    φ = .waiting := by
  cases h with
  | lock => rfl
  | refused => rfl
  | failed _ hi _ =>
      cases φ' with
      | locked => cases hi
      | _ => cases hl
  | _ => cases hl

/-- The graph of a call inserts no row, unless it completes the run without a
decision. -/
theorem ReviewAction.eventsAfter_eq_iff (hr : r.Backing runId events)
    (hknown : ∀ c, φ.checkpoint? = some c → c ∈ r.checkpoints) (hφ : φ.Backed events)
    {a : ReviewAction} :
    (a.withAudit runId events).eventsAfter runId events φ = events ↔
      ∀ env db, a = .node env db → ∀ c, φ.checkpoint? = some c →
        c.next = some .completeNode →
          isDisposition c.values.humanDecision = true ∨ "completed" ∈ events := by
  cases a with
  | node env db =>
      cases φ with
      | invoking run c resume =>
          have hmem := hknown c rfl
          have hdb : (db.withAudit runId events).auditOf runId = events :=
            Database.auditOf_withAudit
          have hraised : Raised ((db.withAudit runId events).auditOf runId) :=
            hdb.symm ▸ hφ.raised rfl
          have hkeeps := hraised.keeps_iff env resume (hdb.symm ▸ hr.reached c hmem)
            (hr.sound c hmem).1
          rw [hdb] at hkeeps
          rw [withAudit, eventsAfter, hkeeps]
          constructor
          · intro h _ _ _ d hd
            cases hd
            exact h
          · intro h
            exact h env db rfl c rfl
      | _ => exact iff_of_true rfl fun _ _ _ c hc => by cases hc
  | _ => exact iff_of_true rfl fun _ _ h => by cases h

omit [PyRuntime] in
theorem ExecPhase.Backed.grow (h : p.Backed runId events r) (hg : r.Grows r')
    (hr : r'.Backing runId events') (hsub : events ⊆ events') : p.Backed runId events' r' where
  record := hr
  known c hc := hg.checkpoints c (h.known c hc)
  raised hi := (h.raised hi).mono hsub

end

end FreightAP
