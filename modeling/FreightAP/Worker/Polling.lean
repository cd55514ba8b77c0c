import FreightAP.Worker.Payload

/-!
# A client that polls a run

`workflow_status` and `workflow_detail` read the row of a run and its decision
with a statement each, and a call can commit in between.  `workflow_runs` reads
both with one.  So a page can show a decision on a row that does not have it yet
(`Torn`), a line of the list never does.

The row and the decision of an uploaded document go on and never back (`Moved`).
So do the answers, one after another, and what shows a decision is followed by
nothing else than the decided run.
-/

namespace FreightAP

open Transition

/-! ## What is read -/

/-- How the row and the decision of an uploaded document can have changed: not at
all, from nothing, from a row that says it runs, or by a decision. -/
inductive Moved (r r' : RunRecord) : Prop where
  | same : r'.row? = r.row? → r'.decision = r.decision → Moved r r'
  | created : r.row? = none → Moved r r'
  | ended {documentId : Nat} : r.row? = some (uploadedRun documentId) → r.decision = none →
      r'.row?.isSome = true → Moved r r'
  | decided {documentId : Nat} {d : Disposition} : r.row? = some (awaitingRow documentId) →
      r.decision = none → r'.row? = some ((awaitingRow documentId).decided d) →
      r'.decision = some d → Moved r r'

/-- What the row and the decision say together. -/
structure Legal (r : RunRecord) : Prop where
  consistent : ∀ run, r.row? = some run → ∀ rec, Consistent (statePayload run r.decision rec)
  decided : ∀ run d, r.row? = some run → r.decision = some d → run.Decided d

section

variable [PyRuntime] {runId filename : String} {d d' : Desk} {r : RunRecord} {p p' : ExecPhase}
  {l : DeskLabel}

omit [PyRuntime] in
theorem Standing.legal (h : Standing d p) : Legal d.record where
  consistent _ hrow rec := h.consistent hrow rec
  decided _ e hrow he := ((h.stored hrow).1 e he).1

/-- A call only decides. -/
theorem Standing.review_moved (h : Standing d p) (hs : d.step l = some d') :
    Moved d.record d'.record := by
  have hsame : d'.record = d.record → Moved d.record d'.record := fun e => e ▸ .same rfl rfl
  cases h with
  | absent h hrow _ =>
      exact hsame (h.step (fun run hrow' => by cases hrow.symm.trans hrow') hs).2
  | running h hrow _ => exact hsame (h.stay hrow (fun e => by cases e) hs).2
  | failed h hrow _ => exact hsame (h.stay hrow (fun e => by cases e) hs).2
  | complete h hrow _ hu hn _ =>
      exact hsame (h.stay hrow (fun e => by cases (hu.complete hn).2.1.symm.trans e) hs).2
  | @waiting documentId c₀ ha hkept _ _ _ =>
      have hkept' := hkept.step hs
      cases hdec : d.record.decision with
      | some e =>
          have hdec' := ha.kept hdec hs
          have hrow' := hkept'.decided e hdec'
          exact .same (hrow'.trans (hkept.decided e hdec).symm) (hdec'.trans hdec.symm)
      | none =>
          have hrow := hkept.waits hdec
          cases hdec' : d'.record.decision with
          | none => exact .same ((hkept'.waits hdec').trans hrow.symm) (hdec'.trans hdec.symm)
          | some e => exact .decided hrow hdec (hkept'.decided e hdec') hdec'

omit [PyRuntime] in
/-- A row stays in the table. -/
theorem RunRecord.isSome_writeRow {loaded new : WorkflowRun} {r' : RunRecord}
    (h : r.writeRow loaded new = some r') (hrow : r.row?.isSome = true) :
    r'.row?.isSome = true := by
  rcases writeRow_cases h with ⟨-, rfl⟩ | ⟨-, -, row, -, rfl⟩
  · exact hrow
  · rw [row?_commit]
    rfl

/-- The upload writes only while the row says that it runs. -/
theorem Standing.act_moved (h : Standing d p) (hs : UploadStep runId filename d.record p r p') :
    Moved d.record r := by
  have hended : ((∃ status, p = .returned status) ∨ p.Gone) → Moved d.record r := fun hp => by
    obtain ⟨rfl, -⟩ := hs.of_ended hp
    exact .same rfl rfl
  cases h with
  | absent _ hrow _ => exact .created hrow
  | failed _ _ hp => exact hended (.inr hp)
  | complete _ _ _ _ _ hp => exact hended (hp.imp_left fun e => ⟨_, e⟩)
  | waiting _ _ _ _ hp => exact hended (hp.imp_left fun e => ⟨_, e⟩)
  | running hidle hrow _ =>
      refine .ended hrow hidle.undecided ?_
      have hsome : d.record.row?.isSome = true := by
        rw [hrow]
        rfl
      cases hs with
      | created => rw [RunRecord.row?_commit]; rfl
      | createdLost => rw [RunRecord.row?_commit]; rfl
      | committed _ hr _ => exact RunRecord.isSome_writeRow hr hsome
      | _ => exact hsome

end

namespace AuditedRun

section

variable [PyRuntime] {uuid5 : String → String} {runId : String} {s s' : AuditedRun}
  {l : AuditedLabel}

/-- The run is that of a job. -/
def OfJob (s : AuditedRun) : Prop := s.upload = none ∧ s.begun ≠ []

omit [PyRuntime] in
theorem Tracked.legal (h : s.Tracked) : s.OfJob ∨ Legal s.record := by
  cases h with
  | job hu hbegun => exact .inl ⟨hu, hbegun⟩
  | new _ _ _ _ _ hrow =>
      refine .inr ⟨fun run e => ?_, fun run d e => ?_⟩
      · cases hrow.symm.trans e
      · cases hrow.symm.trans e
  | uploaded _ _ _ hstanding => exact .inr hstanding.legal

theorem OfJob.step (h : s.OfJob) (hs : s.step uuid5 runId l = some s') : s'.OfJob := by
  obtain ⟨hu, hbegun⟩ := h
  cases step_cases hs with
  | begun => exact ⟨hu, List.cons_ne_nil _ _⟩
  | received _ hnil _ => exact absurd hnil hbegun
  | uploaded hu' _ _ _ => cases hu.symm.trans hu'
  | _ => exact ⟨hu, hbegun⟩

/-- A step on a run that was uploaded, or that nothing is stored of. -/
theorem Tracked.moved (h : s.Tracked) (hsound : s.Sound uuid5 runId)
    (hs : s.step uuid5 runId l = some s') : s'.OfJob ∨ Moved s.record s'.record := by
  cases h with
  | job hu hbegun => exact .inl (OfJob.step ⟨hu, hbegun⟩ hs)
  | new _ _ _ _ _ hrow => exact .inr (.created hrow)
  | uploaded hu hnone _ hstanding =>
      refine .inr ?_
      cases (step_cases hs).moves hnone hu with
      | review hdesk => exact hstanding.review_moved hdesk
      | waits hx hne _ => exact absurd (standing_eventsAfter hsound hstanding hx _) hne
      | upload hstep hdesk =>
          rw [record, record, hdesk]
          exact hstanding.act_moved hstep

end

end AuditedRun

/-! ## A client -/

/-- The routes that answer the state of a run: with one statement for the row and
the decision, and with two. -/
inductive StateRoute where
  | workflowRuns
  | workflowStatus
deriving DecidableEq

/-- An answer. -/
structure Answer where
  route : StateRoute
  state : BusinessState

/-- A run, the row that the request under way has read, and the answers, newest
first. -/
structure Polling where
  run : AuditedRun
  loaded : Option WorkflowRun
  answers : List Answer

/-- A step on the run, a line of the list, the statements of a page, and a request
that is given up.  The reconciliation status is read last, whatever it is. -/
inductive PollLabel where
  | run (l : AuditedLabel)
  | workflowRuns (reconciliation : Option ReconciliationStatus)
  | load
  | answer (reconciliation : Option ReconciliationStatus)
  | leave

namespace Polling

section

variable [PyRuntime] (uuid5 : String → String) (runId : String)

/-- The client gets an answer. -/
def answered (st : Polling) (route : StateRoute) (run : WorkflowRun)
    (reconciliation : Option ReconciliationStatus) : Polling :=
  { st with
    loaded := none,
    answers := ⟨route, statePayload run st.run.record.decision reconciliation⟩ :: st.answers }

/-- One step.  What is answered of a run without a row is left out. -/
def step (st : Polling) : PollLabel → Option Polling
  | .run l => (st.run.step uuid5 runId l).map fun run => { st with run := run }
  | .workflowRuns reconciliation =>
      if st.loaded.isSome then none
      else st.run.record.row?.map fun run => st.answered .workflowRuns run reconciliation
  | .load =>
      if st.loaded.isSome then none
      else st.run.record.row?.map fun run => { st with loaded := some run }
  | .answer reconciliation =>
      st.loaded.map fun run => st.answered .workflowStatus run reconciliation
  | .leave => some { st with loaded := none }

end

/-- Nothing of the run yet, and no request. -/
structure Start (st : Polling) : Prop where
  run : st.run.Start
  loaded : st.loaded = none
  answers : st.answers = []

end Polling

/-! ## Answers -/

/-- A decision on a row that was read before it was stored. -/
inductive Torn : BusinessState → Prop where
  | intro {rec : Option ReconciliationStatus} {processing : ProcessingStatus} (d : Disposition) :
      processing = .running ∨ processing = .awaitingReview →
      Torn ⟨d.text, processing, rec, d.disposition, .notReady⟩

/-- The processing status of an uploaded document goes on. -/
def ProcessingStatus.Leads (earlier later : ProcessingStatus) : Prop :=
  later = earlier ∨ earlier = .running ∨ earlier = .awaitingReview ∧ later = .complete

theorem ProcessingStatus.Leads.trans {p q r : ProcessingStatus} (h : p.Leads q) (h' : q.Leads r) :
    p.Leads r := by
  rcases h with rfl | rfl | ⟨rfl, rfl⟩
  · exact h'
  · exact .inr (.inl rfl)
  · -- Nothing comes after a complete run.
    rcases h' with rfl | hcomplete | ⟨hcomplete, -⟩
    · exact .inr (.inr ⟨rfl, rfl⟩)
    · cases hcomplete
    · cases hcomplete

/-- How an answer goes on from an earlier one. -/
structure Onward (earlier later : BusinessState) : Prop where
  processing : earlier.processingStatus.Leads later.processingStatus
  posting : earlier.postingStatus ≠ .notReady → later.postingStatus = earlier.postingStatus
  decided : ∀ d : Disposition, earlier.reviewDisposition = d.disposition →
    later.status = d.text ∧ later.processingStatus = .complete ∧
      later.reviewDisposition = d.disposition ∧ later.postingStatus = d.postingStatus

/-- What a row that was read says of the record. -/
inductive Held (run : WorkflowRun) (r : RunRecord) : Prop where
  | current : r.row? = some run → Held run r
  | ran {documentId : Nat} : run = uploadedRun documentId → r.row?.isSome = true → Held run r
  | waited {documentId : Nat} {d : Disposition} : run = awaitingRow documentId →
      r.row? = some ((awaitingRow documentId).decided d) → r.decision = some d → Held run r

/-- An answer that was given before the row was read. -/
structure Before (state : BusinessState) (run : WorkflowRun) : Prop where
  processing : state.processingStatus.Leads run.processingStatus
  posting : state.postingStatus ≠ .notReady → run.postingStatus = state.postingStatus
  decided : ∀ d : Disposition, state.reviewDisposition = d.disposition → run.Decided d

/-- An answer of the past. -/
structure Behind (state : BusinessState) (r : RunRecord) : Prop where
  row : ∃ run, r.row? = some run ∧ Before state run
  decided : ∀ d : Disposition, state.reviewDisposition = d.disposition → r.decision = some d

section

variable {r r' : RunRecord} {run : WorkflowRun} {state : BusinessState}
  {rec : Option ReconciliationStatus} {decision : Option Disposition}

/-- A decision that is told is there. -/
theorem reviewDisposition_disposition {d : Disposition}
    (h : reviewDisposition run decision rec = d.disposition) : decision = some d := by
  cases decision with
  | some e => cases d <;> cases e <;> first | rfl | cases h
  | none =>
      simp only [reviewDisposition] at h
      split at h
      · cases d <;> cases h
      · split at h <;> cases d <;> cases h

theorem Held.moved (h : Held run r) (hmoved : Moved r r') : Held run r' := by
  cases hmoved with
  | same hrow hdec =>
      cases h with
      | current he => exact .current (hrow.trans he)
      | ran he hsome => exact .ran he (hrow ▸ hsome)
      | waited he hrow' hdec' => exact .waited he (hrow.trans hrow') (hdec.trans hdec')
  | created hnone =>
      cases h with
      | current he => cases hnone.symm.trans he
      | ran he hsome => rw [hnone] at hsome; cases hsome
      | waited he hrow' _ => cases hnone.symm.trans hrow'
  | ended hruns hdec hsome' =>
      cases h with
      | current he =>
          cases hruns.symm.trans he
          exact .ran rfl hsome'
      | ran he _ => exact .ran he hsome'
      | waited _ _ hdec' => cases hdec.symm.trans hdec'
  | decided hwaits hdec hrow' hdec' =>
      cases h with
      | current he =>
          cases hwaits.symm.trans he
          exact .waited rfl hrow' hdec'
      | ran he _ => exact .ran he (by rw [hrow']; rfl)
      | waited _ _ hdec'' => cases hdec.symm.trans hdec''

/-- A row on which nothing was decided or to be posted gives way to a later one. -/
theorem Before.replaced {run' : WorkflowRun} (h : Before state run)
    (hnot : run.postingStatus = .notReady)
    (hopen : ∀ d : Disposition, state.reviewDisposition ≠ d.disposition)
    (hrow' : r'.row? = some run') (hleads : run.processingStatus.Leads run'.processingStatus) :
    Behind state r' where
  row := ⟨run', hrow', h.processing.trans hleads,
    fun hne => absurd ((h.posting hne).symm.trans hnot) hne, fun d hd => absurd hd (hopen d)⟩
  decided d hd := absurd hd (hopen d)

theorem Behind.moved (h : Behind state r) (hmoved : Moved r r') : Behind state r' := by
  obtain ⟨⟨run, hrow, hbefore⟩, hdecided⟩ := h
  have hopen : r.decision = none → ∀ d : Disposition, state.reviewDisposition ≠ d.disposition :=
    fun hnone d hd => by cases hnone.symm.trans (hdecided d hd)
  cases hmoved with
  | same hrow' hdec =>
      exact ⟨⟨run, hrow'.trans hrow, hbefore⟩, fun d hd => hdec.trans (hdecided d hd)⟩
  | created hnone => cases hnone.symm.trans hrow
  | ended hruns hdec hsome =>
      cases hruns.symm.trans hrow
      obtain ⟨run', hrow'⟩ := Option.isSome_iff_exists.mp hsome
      exact hbefore.replaced rfl (hopen hdec) hrow' (.inr (.inl rfl))
  | decided hwaits hdec hrow' _ =>
      cases hwaits.symm.trans hrow
      exact hbefore.replaced rfl (hopen hdec) hrow' (.inr (.inr ⟨rfl, rfl⟩))

/-- An answer on a row that was read. -/
theorem Held.payload (h : Held run r) (hlegal : Legal r) (rec : Option ReconciliationStatus) :
    (Consistent (statePayload run r.decision rec) ∨ Torn (statePayload run r.decision rec)) ∧
      Behind (statePayload run r.decision rec) r := by
  have hdecision : ∀ d : Disposition,
      (statePayload run r.decision rec).reviewDisposition = d.disposition →
        r.decision = some d := fun d => reviewDisposition_disposition
  cases h with
  | current hrow =>
      refine ⟨.inl (hlegal.consistent run hrow rec), ⟨run, hrow, .inl rfl, fun _ => rfl, ?_⟩,
        hdecision⟩
      exact fun d hd => hlegal.decided run d hrow (hdecision d hd)
  | ran he hsome =>
      subst he
      obtain ⟨run', hrow'⟩ := Option.isSome_iff_exists.mp hsome
      refine ⟨?_, ⟨run', hrow', .inr (.inl rfl), fun hne => absurd rfl hne, ?_⟩, hdecision⟩
      · cases r.decision with
        | none => exact .inl .running
        | some d => exact .inr (.intro d (.inl rfl))
      · exact fun d hd => hlegal.decided run' d hrow' (hdecision d hd)
  | @waited documentId d he hrow' hdec =>
      subst he
      refine ⟨.inr ?_, ⟨_, hrow', .inr (.inr ⟨rfl, rfl⟩), fun hne => absurd rfl hne, ?_⟩,
        hdecision⟩
      · rw [hdec]
        exact .intro d (.inr rfl)
      · exact fun d' hd => hlegal.decided _ d' hrow' (hdecision d' hd)

/-- An answer on a row that was read after another answer. -/
theorem Before.onward (h : Before state run) (hbehind : Behind state r)
    (rec : Option ReconciliationStatus) : Onward state (statePayload run r.decision rec) := by
  refine ⟨h.processing, h.posting, fun d hd => ?_⟩
  obtain ⟨-, hprocessing, hposting⟩ := h.decided d hd
  have hdec := hbehind.decided d hd
  refine ⟨?_, hprocessing, ?_, hposting⟩
  · rw [hdec]
    rfl
  · rw [hdec]
    rfl

end

/-! ## In every run -/

namespace Polling

open AuditedRun

/-- What the client holds goes with the record, and its answers with each other. -/
structure Told (st : Polling) : Prop where
  answers : ∀ a ∈ st.answers, (Consistent a.state ∨ a.route = .workflowStatus ∧ Torn a.state) ∧
    Behind a.state st.run.record
  onward : st.answers.Pairwise fun later earlier => Onward earlier.state later.state
  loaded : ∀ run, st.loaded = some run → Held run st.run.record ∧
    ∀ a ∈ st.answers, Before a.state run

section

variable [PyRuntime] {uuid5 : String → String} {runId : String} {st st' t : Polling}
  {l : PollLabel} {ls : List PollLabel} {u : Upload}

omit [PyRuntime] in
theorem Told.moved (h : st.Told) {run : AuditedRun} (hmoved : Moved st.run.record run.record) :
    Told { st with run := run } where
  answers a ha := ⟨(h.answers a ha).1, (h.answers a ha).2.moved hmoved⟩
  onward := h.onward
  loaded run hrun := ⟨(h.loaded run hrun).1.moved hmoved, (h.loaded run hrun).2⟩

omit [PyRuntime] in
/-- The row of now is one that all answers came before. -/
theorem Told.before (h : st.Told) {run : WorkflowRun} (hrow : st.run.record.row? = some run) :
    ∀ a ∈ st.answers, Before a.state run := by
  intro a ha
  obtain ⟨run', hrow', hbefore⟩ := (h.answers a ha).2.row
  cases hrow.symm.trans hrow'
  exact hbefore

omit [PyRuntime] in
theorem Told.answered (h : st.Told) (hlegal : Legal st.run.record) {route : StateRoute}
    {run : WorkflowRun} {rec : Option ReconciliationStatus} (hheld : Held run st.run.record)
    (hbefore : ∀ a ∈ st.answers, Before a.state run)
    (hroute : route = .workflowRuns → st.run.record.row? = some run) :
    (st.answered route run rec).Told := by
  obtain ⟨hshape, hbehind⟩ := hheld.payload hlegal rec
  refine ⟨fun a ha => ?_, ?_, fun _ e => by cases e⟩
  · rcases List.mem_cons.mp ha with rfl | ha
    · refine ⟨?_, hbehind⟩
      cases route with
      | workflowRuns => exact .inl (hlegal.consistent run (hroute rfl) rec)
      | workflowStatus => exact hshape.imp_right fun htorn => ⟨rfl, htorn⟩
    · exact h.answers a ha
  · refine List.pairwise_cons.mpr ⟨fun a ha => ?_, h.onward⟩
    exact (hbefore a ha).onward (h.answers a ha).2 rec

theorem Told.step (h : st.Told) (hlegal : Legal st.run.record)
    (hrun : ∀ l run, st.run.step uuid5 runId l = some run →
      run.OfJob ∨ Moved st.run.record run.record)
    (hs : st.step uuid5 runId l = some st') : st'.run.OfJob ∨ st'.Told := by
  cases l with
  | run l =>
      obtain ⟨run, hstep, rfl⟩ := Option.map_eq_some_iff.mp hs
      exact (hrun l run hstep).imp_right h.moved
  | workflowRuns rec =>
      simp only [Polling.step] at hs
      split at hs
      · cases hs
      · obtain ⟨run, hrow, rfl⟩ := Option.map_eq_some_iff.mp hs
        exact .inr (h.answered hlegal (.current hrow) (h.before hrow) fun _ => hrow)
  | load =>
      simp only [Polling.step] at hs
      split at hs
      · cases hs
      · obtain ⟨run, hrow, rfl⟩ := Option.map_eq_some_iff.mp hs
        refine .inr ⟨h.answers, h.onward, ?_⟩
        rintro _ ⟨⟩
        exact ⟨.current hrow, h.before hrow⟩
  | answer rec =>
      obtain ⟨run, hloaded, rfl⟩ := Option.map_eq_some_iff.mp hs
      obtain ⟨hheld, hbefore⟩ := h.loaded run hloaded
      exact .inr (h.answered hlegal hheld hbefore fun e => by cases e)
  | leave =>
      cases hs
      exact .inr ⟨h.answers, h.onward, fun _ e => by cases e⟩

/-- A step on the run, or one that leaves it as it is. -/
theorem step_run (hs : st.step uuid5 runId l = some st') :
    (∃ l', st.run.step uuid5 runId l' = some st'.run) ∨ st'.run = st.run := by
  cases l with
  | run l =>
      obtain ⟨run, hstep, rfl⟩ := Option.map_eq_some_iff.mp hs
      exact .inl ⟨l, hstep⟩
  | workflowRuns rec =>
      simp only [step, Option.ite_none_left_eq_some] at hs
      obtain ⟨run, -, rfl⟩ := Option.map_eq_some_iff.mp hs.2
      exact .inr rfl
  | load =>
      simp only [step, Option.ite_none_left_eq_some] at hs
      obtain ⟨run, -, rfl⟩ := Option.map_eq_some_iff.mp hs.2
      exact .inr rfl
  | answer rec =>
      obtain ⟨run, -, rfl⟩ := Option.map_eq_some_iff.mp hs
      exact .inr rfl
  | leave =>
      cases hs
      exact .inr rfl

omit [PyRuntime] in
theorem Start.told (h : st.Start) : st.Told where
  answers a ha := by
    rw [h.answers] at ha
    cases ha
  onward := by
    rw [h.answers]
    exact .nil
  loaded run hrun := by cases h.loaded.symm.trans hrun

theorem Start.run_told (h₀ : st.Start) (h : Run (Fires (step uuid5 runId)) st ls t) :
    t.run.OfJob ∨ t.Told := by
  have hkeep := h.preserves
    (fun t => t.run.Sound uuid5 runId ∧ t.run.Tracked ∧ (t.run.OfJob ∨ t.Told))
    ⟨h₀.run.sound, h₀.run.tracked, .inr h₀.told⟩ ?_
  · exact hkeep.2.2
  · rintro s l s' ⟨hsound, htracked, htold⟩ hs
    have hjob : s.run.OfJob → s'.run.OfJob := by
      intro hjob
      rcases step_run hs with ⟨l, hstep⟩ | hsame
      · exact hjob.step hstep
      · rwa [hsame]
    have hnext : s'.run.Sound uuid5 runId ∧ s'.run.Tracked := by
      rcases step_run hs with ⟨l, hstep⟩ | hsame
      · exact ⟨hsound.step hstep, htracked.step hsound hstep⟩
      · rw [hsame]
        exact ⟨hsound, htracked⟩
    refine ⟨hnext.1, hnext.2, ?_⟩
    rcases htold with hj | htold
    · exact .inl (hjob hj)
    · rcases htracked.legal with hj | hlegal
      · exact .inl (hjob hj)
      · exact htold.step hlegal (fun l run hstep => htracked.moved hsound hstep) hs

/-- What a client is answered of the run of an uploaded document, whatever
commits between its requests and between their statements.  A line of the list is
always a state that the run can be in, and a page too or else it shows a decision
on a row that was read before it; then it has no buttons.  A decision that is
shown is stored, and each answer goes on from all the earlier ones. -/
theorem uploaded_polls_onward (h₀ : st.Start) (h : Run (Fires (step uuid5 runId)) st ls t)
    (hu : t.run.upload = some u) :
    (∀ a ∈ t.answers, (Consistent a.state ∨ a.route = .workflowStatus ∧ Torn a.state) ∧
      (showsDecision a.state = true → Consistent a.state) ∧
      ∀ d : Disposition, a.state.reviewDisposition = d.disposition →
        t.run.record.decision = some d) ∧
    t.answers.Pairwise fun later earlier => Onward earlier.state later.state := by
  rcases h₀.run_told h with ⟨hno, -⟩ | htold
  · cases hno.symm.trans hu
  refine ⟨fun ⟨route, state⟩ ha => ?_, htold.onward⟩
  obtain ⟨hshape, hbehind⟩ := htold.answers _ ha
  refine ⟨hshape, fun hshown => ?_, hbehind.decided⟩
  rcases hshape with hconsistent | ⟨-, htorn⟩
  · exact hconsistent
  · cases htorn with
    | intro d _ =>
        rw [showsDecision, Bool.and_eq_true, decide_eq_true_iff, decide_eq_true_iff] at hshown
        cases d <;> cases hshown.2

/-- An interrupted upload that is approved between the two statements of a page,
and is in the list next. -/
def tornPage : List PollLabel :=
  uploadedReview.map .run ++ .load :: (decisionRequest 0 ++
    [decisionNode 0, decisionNode 0, decisionNode 0, decisionNode 0, .review 0 .decide]).map .run ++
    [.answer none, .workflowRuns none]

omit [PyRuntime] in
/-- The page shows the approval on the row that waits, the list on the row that
has it. -/
theorem uploaded_polls_onward_torn :
    letI := asciiRuntime
    ∃ (t : Polling) (line page : Answer),
      Run (Fires (step id "run")) ⟨.empty, none, []⟩ tornPage t ∧ t.answers = [line, page] ∧
      t.run.record.decision = some .approved ∧ Consistent line.state ∧ Torn page.state ∧
      Onward page.state line.state := by
  let _ := asciiRuntime
  have hdata : (exec (step id "run") ⟨.empty, none, []⟩ tornPage).any (fun t =>
      t.run.upload.isSome && decide (t.answers.map (fun a =>
        (a.route, a.state.processingStatus, a.state.reviewDisposition)) =
          [(.workflowRuns, .complete, .approved),
            (.workflowStatus, .awaitingReview, .approved)])) = true := by
    decide +kernel
  obtain ⟨t, ht, hdata⟩ := (Option.any_eq_true _ _).mp hdata
  simp only [Bool.and_eq_true, decide_eq_true_eq, List.map_eq_cons_iff, List.map_eq_nil_iff,
    Prod.mk.injEq] at hdata
  obtain ⟨hupload, ⟨lroute, line⟩, rest, hanswers, ⟨rfl, -, -⟩, ⟨proute, page⟩, rest', hrest,
    ⟨rfl, hwaits, happroved⟩, rfl⟩ := hdata
  subst hrest
  obtain ⟨u, hu⟩ := Option.isSome_iff_exists.mp hupload
  obtain ⟨htold, honward⟩ :=
    uploaded_polls_onward ⟨AuditedRun.empty_start, rfl, rfl⟩ (run_of_exec ht) hu
  rw [hanswers] at htold honward
  obtain ⟨hline, -, -⟩ := htold ⟨.workflowRuns, line⟩ (List.mem_cons_self ..)
  obtain ⟨hpage, -, hstored⟩ :=
    htold ⟨.workflowStatus, page⟩ (List.mem_cons_of_mem _ (List.mem_cons_self ..))
  refine ⟨t, _, _, run_of_exec ht, hanswers, hstored .approved happroved, ?_, ?_, ?_⟩
  · exact hline.resolve_right fun htorn => by cases htorn.1
  · refine (hpage.resolve_left fun hconsistent => ?_).2
    dsimp only at hwaits happroved hconsistent
    cases hconsistent <;> cases hwaits
    cases happroved
  · exact (List.pairwise_cons.mp honward).1 _ (List.mem_cons_self ..)

end

end Polling

end FreightAP
