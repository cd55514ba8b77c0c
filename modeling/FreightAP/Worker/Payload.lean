import FreightAP.Worker.Uploads
import FreightAP.Worker.Summary

/-!
# What a client is told of a run

The state of a run as the routes answer it, and as the front end takes it.  An
older server answers the status alone, and the front end works out the rest from
it.

On the run of an uploaded document it works out what a newer server says, save
that nothing tells it of an exception or of a clean reconciliation.  The buttons
for a decision are there just when a call could store one.
-/

namespace FreightAP

open Transition

/-! ## The payload -/

/-- `ReviewDisposition`. -/
inductive ReviewDisposition where
  | notRequired
  | pending
  | approved
  | rejected
  | unknown
deriving DecidableEq, Repr

/-- The disposition of a stored decision. -/
def Disposition.disposition : Disposition → ReviewDisposition
  | .approved => .approved
  | .rejected => .rejected

/-- The state of a run in a response. -/
structure BusinessState where
  status : String
  processingStatus : ProcessingStatus
  reconciliationStatus : Option ReconciliationStatus
  reviewDisposition : ReviewDisposition
  postingStatus : PostingStatus
deriving DecidableEq

/-- `legacy_status`. -/
def legacyStatus (processing : ProcessingStatus) (decision : Option Disposition) : String :=
  decision.elim processing.text Disposition.text

/-- `review_disposition`. -/
def reviewDisposition (run : WorkflowRun) (decision : Option Disposition)
    (reconciliation : Option ReconciliationStatus) : ReviewDisposition :=
  match decision with
  | some d => d.disposition
  | none =>
      if run.processingStatus = .awaitingReview then .pending
      else if run.processingStatus = .complete ∧ reconciliation = some .exception then .unknown
      else .notRequired

/-- `state_payload`. -/
def statePayload (run : WorkflowRun) (decision : Option Disposition)
    (reconciliation : Option ReconciliationStatus) : BusinessState where
  status := legacyStatus run.processingStatus decision
  processingStatus := run.processingStatus
  reconciliationStatus := reconciliation
  reviewDisposition := reviewDisposition run decision reconciliation
  postingStatus := run.postingStatus

/-! ## The front end -/

/-- A response in which everything but the status can be missing. -/
structure RawState where
  status : String
  processingStatus : Option ProcessingStatus
  reconciliationStatus : Option ReconciliationStatus
  reviewDisposition : Option ReviewDisposition
  postingStatus : Option PostingStatus

/-- The processing status behind a status. -/
def legacyProcessing (status : String) : ProcessingStatus :=
  if status ∈ ["approved", "rejected", "partial", "reconciled", "complete"] then .complete
  else if status ∈ ["awaiting_review", "exception"] then .awaitingReview
  else if status = "running" then .running
  else if status = "retrying" then .retrying
  else if status = "failed" then .failed
  else .pending

/-- `normalizeBusinessState`. -/
def normalizeBusinessState (raw : RawState) : BusinessState :=
  let processingStatus := raw.processingStatus.getD (legacyProcessing raw.status)
  let reviewDisposition := raw.reviewDisposition.getD
    (if raw.status = "approved" then .approved
    else if raw.status = "rejected" then .rejected
    else if processingStatus = .awaitingReview then .pending
    else .notRequired)
  let postingStatus := raw.postingStatus.getD
    (if reviewDisposition = .approved ∨ raw.status = "reconciled" then .readyForPosting
    else if reviewDisposition = .rejected then .blocked
    else .notReady)
  ⟨raw.status, processingStatus, raw.reconciliationStatus, reviewDisposition, postingStatus⟩

/-- Whether the buttons for a decision are there. -/
def showsDecision (state : BusinessState) : Bool :=
  state.processingStatus = .awaitingReview && state.reviewDisposition = .pending

/-- The response of the server of today. -/
def BusinessState.full (state : BusinessState) : RawState :=
  ⟨state.status, some state.processingStatus, state.reconciliationStatus,
    some state.reviewDisposition, some state.postingStatus⟩

/-- The response of an older server. -/
def BusinessState.bare (state : BusinessState) : RawState :=
  ⟨state.status, none, none, none, none⟩

/-- What the server says is taken as it is. -/
@[simp] theorem normalizeBusinessState_full (state : BusinessState) :
    normalizeBusinessState state.full = state := rfl

@[simp] theorem legacyProcessing_text (processing : ProcessingStatus) :
    legacyProcessing processing.text = processing := by
  cases processing <;> decide

@[simp] theorem legacyProcessing_disposition (d : Disposition) :
    legacyProcessing d.text = .complete := by
  cases d <;> decide

theorem showsDecision_statePayload {run : WorkflowRun} {decision : Option Disposition}
    {rec : Option ReconciliationStatus} :
    showsDecision (statePayload run decision rec) = true ↔
      run.processingStatus = .awaitingReview ∧ decision = none := by
  rw [showsDecision, Bool.and_eq_true, decide_eq_true_iff, decide_eq_true_iff]
  refine and_congr_right fun hwaits => ?_
  cases decision with
  | none => exact iff_of_true (if_pos hwaits) rfl
  | some d => cases d <;> exact iff_of_false (fun e => by cases e) (fun e => by cases e)

/-! ## States that are told -/

/-- The state of a run that went its way without an intervention. -/
inductive Consistent : BusinessState → Prop where
  | running {rec : Option ReconciliationStatus} :
      Consistent ⟨"running", .running, rec, .notRequired, .notReady⟩
  | awaiting {rec : Option ReconciliationStatus} :
      Consistent ⟨"awaiting_review", .awaitingReview, rec, .pending, .notReady⟩
  | failed {rec : Option ReconciliationStatus} :
      Consistent ⟨"failed", .failed, rec, .notRequired, .notReady⟩
  | complete {rec : Option ReconciliationStatus} {p : PostingStatus} :
      p = .readyForPosting ∨ p = .notReady →
      Consistent ⟨"complete", .complete, rec,
        if rec = some .exception then .unknown else .notRequired, p⟩
  | decided {rec : Option ReconciliationStatus} (d : Disposition) :
      Consistent ⟨d.text, .complete, rec, d.disposition, d.postingStatus⟩

/-- What the status alone tells of such a state. -/
theorem Consistent.bare {state : BusinessState} (h : Consistent state) :
    (normalizeBusinessState state.bare).processingStatus = state.processingStatus ∧
    ((normalizeBusinessState state.bare).reviewDisposition = state.reviewDisposition ∨
      (normalizeBusinessState state.bare).reviewDisposition = .notRequired ∧
        state.reviewDisposition = .unknown) ∧
    ((normalizeBusinessState state.bare).postingStatus = state.postingStatus ∨
      (normalizeBusinessState state.bare).postingStatus = .notReady ∧
        state.postingStatus = .readyForPosting ∧ state.status = "complete") := by
  cases h with
  | running => exact ⟨rfl, .inl rfl, .inl rfl⟩
  | awaiting => exact ⟨rfl, .inl rfl, .inl rfl⟩
  | failed => exact ⟨rfl, .inl rfl, .inl rfl⟩
  | @complete rec p hp =>
      refine ⟨rfl, ?_, ?_⟩
      · by_cases hrec : rec = some .exception
        · exact .inr ⟨rfl, if_pos hrec⟩
        · exact .inl (if_neg hrec).symm
      · rcases hp with rfl | rfl
        · exact .inr ⟨rfl, rfl, rfl⟩
        · exact .inl rfl
  | decided d =>
      cases d with
      | approved => exact ⟨rfl, .inl rfl, .inl rfl⟩
      | rejected => exact ⟨rfl, .inl rfl, .inl rfl⟩

section

variable [PyRuntime] {d d' : Desk} {p : ExecPhase} {l : DeskLabel} {run : WorkflowRun}

omit [PyRuntime] in
theorem Standing.consistent (h : Standing d p) (hrow : d.record.row? = some run)
    (rec : Option ReconciliationStatus) :
    Consistent (statePayload run d.record.decision rec) := by
  cases h with
  | absent _ hnone _ => cases hnone.symm.trans hrow
  | running hi hrow' _ =>
      cases hrow.symm.trans hrow'
      rw [hi.undecided]
      exact .running
  | failed hi hrow' _ =>
      cases hrow.symm.trans hrow'
      rw [hi.undecided]
      exact .failed
  | @complete documentId c hi hrow' _ hu hend _ =>
      cases hrow.symm.trans hrow'
      obtain ⟨-, hcomplete, hposting⟩ := hu.complete hend
      have hprocessing : (completeRow documentId c).processingStatus = .complete := hcomplete
      have hpayload : statePayload (completeRow documentId c) none rec =
          ⟨"complete", .complete, rec, if rec = some .exception then .unknown else .notRequired,
            c.values.postingStatus⟩ := by
        simp only [statePayload, legacyStatus, reviewDisposition, hprocessing, Option.elim_none,
          ProcessingStatus.text, reduceCtorEq, if_false, true_and]
        rfl
      rw [hi.undecided, hpayload]
      exact .complete hposting
  | @waiting documentId c₀ ha hkept _ _ _ =>
      cases hdec : d.record.decision with
      | none =>
          cases hrow.symm.trans (hkept.waits hdec)
          exact .awaiting
      | some e =>
          cases hrow.symm.trans (hkept.decided e hdec)
          exact .decided e

/-- No call takes a decision back. -/
theorem Agreed.kept {c₀ : Checkpoint} {e : Disposition} (h : Agreed run c₀ d)
    (he : d.record.decision = some e) (hs : d.step l = some d') :
    d'.record.decision = some e := by
  rcases Desk.step_cases hs with ⟨id, q, -, rfl⟩ | ⟨id, ⟨requested, φ⟩, r, p, hx, hstep, rfl⟩
  · exact he
  · have hfacts := h.facts id _ hx
    cases hstep with
    | store => cases hfacts.1.symm.trans he
    | _ => exact he

/-- On a run that does not wait for review, a call stores no decision and the
run goes on not to wait. -/
theorem Standing.closed (h : Standing d p)
    (hrow : ∀ run, d.record.row? = some run → run.processingStatus ≠ .awaitingReview)
    (hs : d.step l = some d') : d'.record.decision = d.record.decision ∧
      ∀ run, d'.record.row? = some run → run.processingStatus ≠ .awaitingReview := by
  have hsame : d.Idle → d'.record.decision = d.record.decision ∧
      ∀ run, d'.record.row? = some run → run.processingStatus ≠ .awaitingReview := by
    intro hi
    obtain ⟨-, hr⟩ := hi.step hrow hs
    rw [hr]
    exact ⟨rfl, hrow⟩
  cases h with
  | absent hi _ _ => exact hsame hi
  | running hi _ _ => exact hsame hi
  | failed hi _ _ => exact hsame hi
  | complete hi _ _ _ _ _ => exact hsame hi
  | @waiting documentId c₀ ha hkept _ _ _ =>
      cases hdec : d.record.decision with
      | none => exact absurd rfl (hrow _ (hkept.waits hdec))
      | some e =>
          have hdec' := ha.kept hdec hs
          refine ⟨hdec', fun run hrun hwaits => ?_⟩
          cases hrun.symm.trans ((hkept.step hs).decided e hdec')
          cases hwaits

end

/-! ## In every run -/

/-- A step of a call, or a new call. -/
def AuditedLabel.isCall : AuditedLabel → Bool
  | .request _ _ => true
  | .review _ _ => true
  | _ => false

namespace AuditedRun

section

variable [PyRuntime] {uuid5 : String → String} {runId : String} {s s' t : AuditedRun}
  {l : AuditedLabel} {ls : List AuditedLabel} {u : Upload}

/-- A step of a call is one at the desk. -/
theorem Attended.desk (h : s.Attended uuid5 runId u) (hcall : l.isCall = true)
    (hs : s.step uuid5 runId l = some s') : s'.Attended uuid5 runId u ∧
      ∃ dl, s.desk.desk.step dl = some s'.desk.desk := by
  have hnext : s'.upload = some u → s'.Attended uuid5 runId u := fun hu =>
    ⟨h.sound.step hs, h.tracked.step h.sound hs, hu⟩
  cases step_cases hs with
  | @requested id requested hx =>
      refine ⟨hnext h.upload, .request id requested, ?_⟩
      exact if_neg (Option.not_isSome_iff_eq_none.mpr hx)
  | reviewed hx _ hr => exact ⟨hnext h.upload, _, Desk.step_act hx hr⟩
  | waits hx hne => exact absurd (h.eventsAfter hx _) hne
  | begun => cases hcall
  | executed => cases hcall
  | received => cases hcall
  | uploaded => cases hcall

/-- While the run does not wait for review, no calls store a decision. -/
theorem Attended.closed (h : t.Attended uuid5 runId u)
    (hrow : ∀ run, t.record.row? = some run → run.processingStatus ≠ .awaitingReview)
    (hcalls : ∀ l ∈ ls, l.isCall = true) (hrun : Run (Fires (step uuid5 runId)) t ls s) :
    s.record.decision = t.record.decision := by
  have hkeep := hrun.invariant
    (fun as s => (∀ l ∈ as, l.isCall = true) → s.Attended uuid5 runId u ∧
      s.record.decision = t.record.decision ∧
        ∀ run, s.record.row? = some run → run.processingStatus ≠ .awaitingReview)
    (fun _ => ⟨h, rfl, hrow⟩) fun as s l s' ih hs hcalls => by
      obtain ⟨hs₀, hdec, hrow⟩ := ih fun l hl => hcalls l (List.mem_append_left _ hl)
      obtain ⟨hs', dl, hdesk⟩ :=
        hs₀.desk (hcalls l (List.mem_append_right _ (List.mem_singleton.mpr rfl))) hs
      obtain ⟨hdec', hrow'⟩ := hs₀.standing.closed hrow hdesk
      exact ⟨hs', hdec'.trans hdec, hrow'⟩
  exact (hkeep hcalls).2.1

/-- What the API says of the run of an uploaded document, in every state.  The
front end takes it as it is, and works out most of it from the status alone: it
misses only the exception of a run without a review and the readiness of a run
without a decision. -/
theorem uploaded_payload_exact (h₀ : s.Start) (h : Run (Fires (step uuid5 runId)) s ls t)
    (hu : t.upload = some u) {run : WorkflowRun} (hrow : t.record.row? = some run)
    (rec : Option ReconciliationStatus) :
    let state := statePayload run t.record.decision rec
    let bare := normalizeBusinessState state.bare
    Consistent state ∧ normalizeBusinessState state.full = state ∧
    bare.processingStatus = state.processingStatus ∧
    (bare.reviewDisposition = state.reviewDisposition ∨
      bare.reviewDisposition = .notRequired ∧ state.reviewDisposition = .unknown) ∧
    (bare.postingStatus = state.postingStatus ∨ bare.postingStatus = .notReady ∧
      state.postingStatus = .readyForPosting ∧ state.status = "complete") := by
  intro state bare
  obtain ⟨hsound, htracked⟩ := h₀.run_tracked h
  have hstanding := Attended.standing ⟨hsound, htracked, hu⟩
  have hconsistent : Consistent state := hstanding.consistent hrow rec
  exact ⟨hconsistent, normalizeBusinessState_full state, hconsistent.bare⟩

omit [PyRuntime] in
/-- What it says of an interrupted upload. -/
theorem uploaded_payload_exact_awaiting :
    letI := asciiRuntime
    ∃ (s : AuditedRun) (run : WorkflowRun), Run (Fires (step id "run")) .empty uploadedReview s ∧
      s.record.row? = some run ∧
      Consistent (statePayload run s.record.decision (some .exception)) ∧
      BusinessState.processingStatus (normalizeBusinessState
        (statePayload run s.record.decision (some .exception)).bare) = run.processingStatus := by
  let _ := asciiRuntime
  have hdata : (exec (step id "run") .empty uploadedReview).any (fun s => s.upload.isSome &&
      s.record.row?.isSome) = true := by
    decide +kernel
  obtain ⟨s, hs, hdata⟩ := (Option.any_eq_true _ _).mp hdata
  obtain ⟨hupload, hrow⟩ := Bool.and_eq_true_iff.mp hdata
  obtain ⟨u, hu⟩ := Option.isSome_iff_exists.mp hupload
  obtain ⟨run, hrun⟩ := Option.isSome_iff_exists.mp hrow
  obtain ⟨hconsistent, -, hprocessing, -⟩ :=
    uploaded_payload_exact empty_start (run_of_exec hs) hu hrun (some .exception)
  exact ⟨s, run, run_of_exec hs, hrun, hconsistent, hprocessing⟩

/-- The buttons for a decision on an uploaded document are there just when a call
could store one.  With the buttons, any new call on a row that is not locked can
come to its decision: with every decision while the checkpoint carries none, and
with the one that it carries otherwise.  Without them, no calls store a decision. -/
theorem uploaded_buttons_exact (h₀ : s.Start) (h : Run (Fires (step uuid5 runId)) s ls t)
    (hu : t.upload = some u) {run : WorkflowRun} (hrow : t.record.row? = some run)
    (rec : Option ReconciliationStatus) :
    (showsDecision (statePayload run t.record.decision rec) = true → t.record.lock = none →
      ∃ c, t.record.checkpoint? = some c ∧
        (c.values.humanDecision = none ∨
          ∃ d : Disposition, c.values.humanDecision = some d.text) ∧
        ∀ (id : Nat) (q : Disposition), t.call id = none →
          (c.values.humanDecision = none ∨ c.values.humanDecision = some q.text) →
          ∃ (acts : List ReviewAction) (t' : AuditedRun), .crash ∉ acts ∧
            Run (Fires (step uuid5 runId)) t (.request id q :: acts.map (.review id)) t' ∧
            t'.call id = some ⟨q, .returned q false⟩ ∧ t'.record.decision = some q) ∧
    (showsDecision (statePayload run t.record.decision rec) = false → ∀ ls' t',
      (∀ l ∈ ls', l.isCall = true) → Run (Fires (step uuid5 runId)) t ls' t' →
        t'.record.decision = t.record.decision) := by
  obtain ⟨hsound, htracked⟩ := h₀.run_tracked h
  have hattended : t.Attended uuid5 runId u := ⟨hsound, htracked, hu⟩
  constructor
  · intro hshown hlock
    obtain ⟨hwaits, -⟩ := showsDecision_statePayload.mp hshown
    obtain ⟨-, c, hc, hopen⟩ := hattended.open_checkpoint hrow hwaits
    refine ⟨c, hc, hopen.imp (·.2) fun ⟨d, hd⟩ => ⟨d, hd.1⟩, fun id q hfree hq => ?_⟩
    obtain ⟨acts, hacts, t', hrun, hcall, hdec, -⟩ :=
      hattended.answers hrow hwaits hlock hc hq hfree
    exact ⟨acts, t', hacts, hrun, hcall, hdec⟩
  · intro hhidden ls' t' hcalls hrun
    have hnot : ¬(run.processingStatus = .awaitingReview ∧ t.record.decision = none) := fun hw =>
      absurd (showsDecision_statePayload.mpr hw) (Bool.eq_false_iff.mp hhidden)
    refine hattended.closed (fun run' hrow' hwaits => ?_) hcalls hrun
    cases hrow.symm.trans hrow'
    obtain ⟨hdec, -⟩ := hattended.standing.waits hrow hwaits
    exact hnot ⟨hwaits, hdec⟩

omit [PyRuntime] in
/-- An interrupted upload shows the buttons, and both of them work. -/
theorem uploaded_buttons_exact_awaiting :
    letI := asciiRuntime
    ∃ (s : AuditedRun) (run : WorkflowRun),
      Run (Fires (step id "run")) .empty uploadedReview s ∧ s.record.row? = some run ∧
      showsDecision (statePayload run s.record.decision none) = true ∧
      ∀ q : Disposition, ∃ (acts : List ReviewAction) (s' : AuditedRun),
        Run (Fires (step id "run")) s (.request 3 q :: acts.map (.review 3)) s' ∧
        s'.record.decision = some q := by
  let _ := asciiRuntime
  have hdata : (exec (step id "run") .empty uploadedReview).any (fun s => s.upload.isSome &&
      s.record.row?.any (fun run => showsDecision (statePayload run s.record.decision none)) &&
        s.record.lock.isNone && (s.call 3).isNone &&
          s.record.checkpoint?.any fun c => c.values.humanDecision.isNone) = true := by
    decide +kernel
  obtain ⟨s, hs, hdata⟩ := (Option.any_eq_true _ _).mp hdata
  simp only [Bool.and_eq_true, Option.isNone_iff_eq_none] at hdata
  obtain ⟨⟨⟨⟨hupload, hrow⟩, hlock⟩, hfree⟩, hcheckpoint⟩ := hdata
  obtain ⟨u, hu⟩ := Option.isSome_iff_exists.mp hupload
  obtain ⟨run, hrun, hshown⟩ := (Option.any_eq_true _ _).mp hrow
  obtain ⟨c, hc, hnone⟩ := (Option.any_eq_true _ _).mp hcheckpoint
  obtain ⟨c', hc', -, hanswer⟩ :=
    (uploaded_buttons_exact empty_start (run_of_exec hs) hu hrun none).1 hshown hlock
  cases hc.symm.trans hc'
  refine ⟨s, run, run_of_exec hs, hrun, hshown, fun q => ?_⟩
  obtain ⟨acts, s', -, hrun', -, hdec⟩ :=
    hanswer 3 q hfree (.inl (Option.isNone_iff_eq_none.mp hnone))
  exact ⟨acts, s', hrun', hdec⟩

end

end AuditedRun

end FreightAP
