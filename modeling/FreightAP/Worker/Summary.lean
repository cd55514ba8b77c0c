import FreightAP.Notifications.Dispatch
import FreightAP.Worker.RunSafety

/-!
# The summary of a batch

What the worker hands on of a delivery (`_summary_result`), and the mail and the
notification row that are made of a list of these.  A result is a dictionary of
texts, and its defaults are derived from the legacy status.

`DeliveryEnd` lists how a delivery ends, with the values its result is made of.
A run that was returned is settled, so an execution that returns has such an end
(`RunDesk.Sound.deliveryEnd`).  The processing status of a result is one of three
(`DeliveryEnd.settled`), and the three counts of a notification add up to its
total (`notificationCounts_balanced`).
-/

namespace FreightAP

/-! ## The texts of the statuses -/

/-- The text of a legacy status. -/
def RunStatus.text : RunStatus → String
  | .pending => "pending"
  | .running => "running"
  | .retrying => "retrying"
  | .extracted => "extracted"
  | .matched => "matched"
  | .exception => "exception"
  | .awaitingReview => "awaiting_review"
  | .approved => "approved"
  | .rejected => "rejected"
  | .failed => "failed"
  | .complete => "complete"

/-- The text of a posting status. -/
def PostingStatus.text : PostingStatus → String
  | .notReady => "not_ready"
  | .readyForPosting => "ready_for_posting"
  | .posting => "posting"
  | .posted => "posted"
  | .paymentScheduled => "payment_scheduled"
  | .paid => "paid"
  | .blocked => "blocked"
  | .failed => "failed"

/-- The text of a reconciliation status. -/
def ReconciliationStatus.text : ReconciliationStatus → String
  | .pending => "pending"
  | .partialSet => "partial"
  | .reconciled => "reconciled"
  | .exception => "exception"

/-! ## Results -/

/-- The result of a delivery. -/
structure SummaryResult where
  filename : String
  runId : String
  status : String
  processingStatus : String
  reconciliationStatus : Option String
  reviewDisposition : String
  postingStatus : String
  carrierName : Scalar
  totalAmount : Scalar
  exceptionReason : Option String
deriving DecidableEq

/-- The status is a review disposition. -/
def isReviewed (status : String) : Bool := status = "approved" || status = "rejected"

/-- `_summary_result`. -/
def summaryResult (filename runId status : String) (extraction : Option Extraction)
    (exceptionReason processingStatus reconciliationStatus reviewDisposition postingStatus :
      Option String) : SummaryResult :=
  let extraction := extraction.getD []
  let processing :=
    processingStatus.getD (if isReviewed status then "complete" else status)
  let disposition :=
    reviewDisposition.getD
      (if isReviewed status then status
      else if processing = "awaiting_review" then "pending" else "not_required")
  { filename
    runId
    status
    processingStatus := processing
    reconciliationStatus
    reviewDisposition := disposition
    postingStatus :=
      postingStatus.getD
        (if disposition = "approved" ∨ reconciliationStatus = some "reconciled" then
          "ready_for_posting"
        else if disposition = "rejected" then "blocked" else "not_ready")
    carrierName := extraction.get "carrier_name"
    totalAmount := extraction.get "total_amount"
    exceptionReason }

section

variable (uuid5 : String → String)

/-- How `_process_delivery` ends: by returning a result of one of five kinds or
none, by an exception of the queue, or by a cancellation. -/
inductive DeliveryEnd where
  /-- A payload that does not parse, dead-lettered. -/
  | malformed (reason : String)
  /-- A run that is settled already. -/
  | shortCircuited (runId : String) (document : SourceDocument) (extraction : Option Extraction)
      (row : WorkflowRun) (reason : Option String)
      (settled : row.processingStatus ∈ redeliveryShortCircuitProcessingStatuses)
  /-- A run that waits for a review. -/
  | interrupted (job : InvoiceJobEnvelope) (values : WorkflowState) (reason : Option String)
  /-- A run whose graph is at its end. -/
  | finished (job : InvoiceJobEnvelope) (values : WorkflowState)
      (settled : values.processingStatus.settled = true)
  /-- A job that failed for the last time, dead-lettered. -/
  | exhausted (job : InvoiceJobEnvelope) (reason : String)
  /-- A job that is to be tried again. -/
  | retried
  | raised
  | cancelled

/-- The reconciliation status in `match_result`. -/
def reconciliationText (values : WorkflowState) : Option String :=
  (values.matchResult.bind (·.reconciliationStatus)).map ReconciliationStatus.text

/-- `a or b`, of two optional texts. -/
def orText (a b : Option String) : Option String := if a.getD "" ≠ "" then a else b

/-- The result that a delivery returns. -/
def DeliveryEnd.result? : DeliveryEnd → Option SummaryResult
  | .malformed reason =>
      some (summaryResult "unknown" "" "failed" none (some reason) none none none none)
  | .shortCircuited runId document extraction row reason _ =>
      some (summaryResult document.filename runId row.status.text extraction reason
        (some row.processingStatus.text) none none (some row.postingStatus.text))
  | .interrupted job values reason =>
      some (summaryResult job.filename (deterministicRunId uuid5 job.idempotencyKey)
        "awaiting_review" values.extraction (orText values.exceptionReason reason)
        (some "awaiting_review") (reconciliationText values) none (some "not_ready"))
  | .finished job values _ =>
      some (summaryResult job.filename (deterministicRunId uuid5 job.idempotencyKey)
        values.status.text values.extraction (orText values.exceptionReason none)
        (some values.processingStatus.text) (reconciliationText values) none
        (some values.postingStatus.text))
  | .exhausted job reason =>
      some (summaryResult job.filename (deterministicRunId uuid5 job.idempotencyKey) "failed" none
        (some reason) none none none none)
  | .retried => none
  | .raised => none
  | .cancelled => none

/-- The processing status of a result is that of a settled run. -/
def SummaryResult.Settled (result : SummaryResult) : Prop :=
  result.processingStatus ∈ ["complete", "awaiting_review", "failed"]

theorem settled_text {processingStatus : ProcessingStatus} (h : processingStatus.settled = true) :
    processingStatus.text ∈ ["complete", "awaiting_review", "failed"] := by
  cases processingStatus with
  | complete => decide
  | awaitingReview => decide
  | failed => decide
  | _ => cases h

/-- A result is that of a settled run. -/
theorem DeliveryEnd.settled {e : DeliveryEnd} {result : SummaryResult}
    (h : e.result? uuid5 = some result) : result.Settled := by
  cases e with
  | malformed reason =>
      cases h
      exact settled_text (rfl : ProcessingStatus.failed.settled = true)
  | shortCircuited runId document extraction row reason hrow =>
      cases h
      exact settled_text (settled_shortCircuit hrow)
  | interrupted job values reason =>
      cases h
      exact settled_text (rfl : ProcessingStatus.awaitingReview.settled = true)
  | finished job values hvalues =>
      cases h
      exact settled_text hvalues
  | exhausted job reason =>
      cases h
      exact settled_text (rfl : ProcessingStatus.failed.settled = true)
  | retried => cases h
  | raised => cases h
  | cancelled => cases h

/-- The end of a delivery whose execution returns: from the row that it finds, or
from what its graph came to.  What else it has read is given: the document and its
extraction, the reason in the payload, and the values of an interrupted graph. -/
inductive EndsBy (job : InvoiceJobEnvelope) (runId : String) (document : SourceDocument)
    (extraction : Option Extraction) (reason : Option String) (values : WorkflowState)
    (r : RunRecord) : ExecPhase → DeliveryEnd → Prop where
  | shortCircuited {row : WorkflowRun}
      (settled : row.processingStatus ∈ redeliveryShortCircuitProcessingStatuses) :
      r.row? = some row → EndsBy job runId document extraction reason values r .opening
        (.shortCircuited runId document extraction row reason settled)
  | interrupted {run : WorkflowRun} :
      EndsBy job runId document extraction reason values r (.resulted run .interrupted)
        (.interrupted job values reason)
  | finished {run : WorkflowRun} {final : WorkflowState}
      (settled : final.processingStatus.settled = true) :
      EndsBy job runId document extraction reason values r (.resulted run (.finished final))
        (.finished job final settled)

section

variable [PyRuntime]

omit [PyRuntime] uuid5 in
/-- What an execution in a reached state has of a finished graph is settled. -/
theorem RunDesk.Sound.finished_settled {s : RunDesk} (h : s.Sound) {id : Nat} {x : Execution}
    (hx : s.execution id = some x) {run : WorkflowRun} {values : WorkflowState}
    (hphase : x.phase = .resulted run (.finished values)) :
    values.processingStatus.settled = true := by
  have hknown : (⟨values, none⟩ : Checkpoint) ∈ s.record.checkpoints :=
    (h.execs id x hx).known _ (by rw [hphase]; rfl)
  exact (h.checkpoints _ hknown).2 rfl

/-- When an execution in a reached state returns, its delivery has an end, and the
result says the processing status that was returned. -/
theorem RunDesk.Sound.deliveryEnd {s : RunDesk} (h : s.Sound) {id : Nat} {x : Execution}
    (hx : s.execution id = some x) {a : ExecAction} {r : RunRecord} {p : ExecPhase}
    (he : Executes uuid5 x.job x.operatorReplay s.record a x.phase r p)
    {processingStatus : ProcessingStatus} (hp : p = .returned processingStatus) (runId : String)
    (document : SourceDocument) (extraction : Option Extraction) (reason : Option String)
    (values : WorkflowState) :
    ∃ e result, EndsBy x.job runId document extraction reason values s.record x.phase e ∧
      e.result? uuid5 = some result ∧ result.processingStatus = processingStatus.text := by
  have hfinished : ∀ run final, x.phase = .resulted run (.finished final) →
      final.processingStatus.settled = true := fun _ _ hphase => h.finished_settled hx hphase
  generalize x.phase = q at he hfinished
  cases he with
  | created _ hbare =>
      rw [hp] at hbare
      cases hbare
  | shortCircuit hrow hsettled =>
      cases hp
      exact ⟨_, _, .shortCircuited hsettled hrow, rfl, rfl⟩
  | @wrote _ w result _ hw hanswer _ =>
      -- Only the commit of what the graph came to returns, and only with its answer.
      have hafter : result = .answered := by
        cases result with
        | answered => rfl
        | lost =>
            have hbare : w.broken.bare = true := bare_of_write hw
            rw [show w.broken = .returned processingStatus from hp] at hbare
            cases hbare
        | failed => exact absurd rfl hanswer
      subst hafter
      cases q with
      | resulted run result =>
          cases hw
          cases hp
          cases result with
          | interrupted => exact ⟨_, _, .interrupted, rfl, rfl⟩
          | finished final => exact ⟨_, _, .finished (hfinished run final rfl), rfl, rfl⟩
      | _ => cases hw <;> cases hp
  | quiet _ _ hbare =>
      rw [hp] at hbare
      cases hbare
  | _ => cases hp

end

/-- `_process_batch`: the results in the order of the deliveries, or `none` for
a cancellation, which takes the results of the others with it. -/
def processBatch (ends : List DeliveryEnd) : Option (List SummaryResult) :=
  if ends.any fun e => e matches .cancelled then none
  else some (ends.filterMap (DeliveryEnd.result? uuid5))

end

/-! ## The mail -/

/-- The results of each section of the mail, with its title. -/
structure SummarySections where
  ready : List SummaryResult
  rejected : List SummaryResult
  notReady : List SummaryResult
  needsReview : List SummaryResult
  failed : List SummaryResult

/-- The five selections of `_build_summary_body`. -/
def summarySections (results : List SummaryResult) : SummarySections where
  ready := results.filter (·.postingStatus = "ready_for_posting")
  rejected := results.filter (·.reviewDisposition = "rejected")
  notReady := results.filter fun r =>
    r.processingStatus = "complete" && r.postingStatus = "not_ready"
  needsReview := results.filter (·.processingStatus = "awaiting_review")
  failed := results.filter (·.processingStatus = "failed")

/-- The lines of a section. -/
def sectionLines (title : String) (line : SummaryResult → String) (results : List SummaryResult) :
    List String :=
  title :: if results.isEmpty then ["- None"] else results.map fun r => "- " ++ line r

section

variable [PyRuntime] (formatAmount : Scalar → String)

/-- `value or default`, as a text. -/
def textOr (value : Scalar) (default : String) : String := (value.or (.str default)).text

/-- `_build_summary_body`. -/
def buildSummaryBody (results : List SummaryResult) : String :=
  let sections := summarySections results
  let named (r : SummaryResult) := r.filename ++ " (" ++ r.runId ++ ")"
  "\n".intercalate
    (["AP Workflow batch summary", ""] ++
      sectionLines "✅ Ready for Posting"
        (fun r => r.filename ++ ": " ++ textOr r.carrierName "Unknown carrier" ++ ", " ++
          formatAmount r.totalAmount) sections.ready ++
      "" :: sectionLines "⛔ Rejected / Blocked" named sections.rejected ++
      "" :: sectionLines "⏳ Processed, Not Ready" named sections.notReady ++
      "" :: sectionLines "⚠️ Needs Review"
        (fun r => named r ++ ": " ++ (orText r.exceptionReason none).getD "No reason provided")
        sections.needsReview ++
      "" :: sectionLines "❌ Failed"
        (fun r => r.filename ++ ": " ++ (orText r.exceptionReason none).getD "Unknown error")
        sections.failed)

/-- The message that `_send_summary_email` sends. -/
def summaryEmail (results : List SummaryResult) : Mail where
  subject := "AP Workflow — " ++ toString results.length ++ " invoices processed, " ++
    toString (results.countP (·.processingStatus = "awaiting_review")) ++ " need review"
  body := buildSummaryBody formatAmount results

end

/-! ## The notification row -/

/-- A row of `notifications`, but for its key and its time. -/
structure Notification where
  totalCount : Nat
  completeCount : Nat
  awaitingReviewCount : Nat
  failedCount : Nat
  approvedCount : Nat
  rejectedCount : Nat
  readyForPostingCount : Nat
deriving DecidableEq

/-- `_notification_counts`. -/
def notificationCounts (results : List SummaryResult) : Notification where
  totalCount := results.length
  completeCount := results.countP (·.processingStatus = "complete")
  awaitingReviewCount := results.countP (·.processingStatus = "awaiting_review")
  failedCount := results.countP (·.processingStatus = "failed")
  approvedCount := results.countP (·.reviewDisposition = "approved")
  rejectedCount := results.countP (·.reviewDisposition = "rejected")
  readyForPostingCount := results.countP (·.postingStatus = "ready_for_posting")

/-- The counts of a row add up. -/
structure Notification.Balanced (n : Notification) : Prop where
  processing : n.completeCount + n.awaitingReviewCount + n.failedCount = n.totalCount
  decided : n.approvedCount + n.rejectedCount ≤ n.totalCount
  ready : n.readyForPostingCount ≤ n.totalCount

/-- Every result is counted under one processing status. -/
theorem notificationCounts_balanced {results : List SummaryResult}
    (h : ∀ r ∈ results, r.Settled) : (notificationCounts results).Balanced := by
  induction results with
  | nil => exact ⟨rfl, Nat.le_refl 0, Nat.le_refl 0⟩
  | cons r results ih =>
      obtain ⟨hprocessing, hdecided, hready⟩ := ih fun r hr => h r (List.mem_cons_of_mem _ hr)
      have hr := h r (List.mem_cons_self ..)
      simp only [SummaryResult.Settled, List.mem_cons, List.not_mem_nil, or_false] at hr
      simp only [notificationCounts] at hprocessing hdecided hready
      refine ⟨?_, ?_, ?_⟩
      · simp only [notificationCounts, List.countP_cons, List.length_cons]
        rcases hr with hr | hr | hr
        · simp [hr]
          omega
        · simp [hr]
          omega
        · simp [hr]
          omega
      · simp only [notificationCounts, List.countP_cons, List.length_cons]
        by_cases happroved : r.reviewDisposition = "approved"
        · simp [happroved]
          omega
        · simp only [happroved, decide_false, Bool.false_eq_true, if_false]
          split <;> omega
      · simp only [notificationCounts, List.countP_cons, List.length_cons]
        split <;> omega

end FreightAP
