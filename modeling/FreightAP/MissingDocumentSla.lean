import FreightAP.Models

/-!
# The missing-document SLA

`evaluateMissingDocumentPolicy` says which required documents a shipment lacks
and whether its deadline has passed.  `syncMissingDocumentException` brings the
shipment's exception row in line with the policy and logs an event when that
changed the row.
-/

namespace FreightAP

/-! ## Required documents -/

/-- The name of a required document, the keys of `REQUIRED_DOCUMENTS`. -/
def Slot.requiredName : Slot → String
  | .invoice => "invoice"
  | .rateCon => "rate_con"
  | .bol => "bol"
  | .pod => "pod"

/-- The reason code of a required document that is overdue. -/
def Slot.overdueReason : Slot → String
  | .invoice => "missing_required_invoice_sla_exceeded"
  | .rateCon => "missing_required_rate_con_sla_exceeded"
  | .bol => "missing_required_bol_sla_exceeded"
  | .pod => "missing_required_pod_sla_exceeded"

/-- `SLA_REASON_CODES`. -/
def slaReasonCodes : List String := Slot.all.map Slot.overdueReason

/-! ## The policy -/

/-- `MissingDocumentPolicyResult.state`. -/
inductive PolicyState where
  | overdue
  | withinGrace
  | complete
deriving DecidableEq, Repr

/-- What the policy finds. -/
structure MissingDocumentPolicyResult where
  state : PolicyState
  deadlineAt : Int
  missingDocs : List String
  reasonCodes : List String
  checks : List Check
deriving DecidableEq

/-- The slots whose presence flag is down. -/
def Shipment.missingSlots (s : Shipment) : List Slot := Slot.all.filter fun d => !s.has d

section

variable [PyRuntime]

/-- The check of one required document. -/
def requiredDocumentCheck (present overdue : Bool) (deadlineAt : Int) (d : Slot) : Check :=
  let deadline := PyRuntime.datetimeText deadlineAt
  if present then
    ⟨"required_" ++ d.requiredName ++ "_present", .passed,
      "Required " ++ d.requiredName ++ " is present", none⟩
  else if overdue then
    ⟨"required_" ++ d.requiredName ++ "_present", .failed,
      "Required " ++ d.requiredName ++ " was not received by " ++ deadline, some d.overdueReason⟩
  else
    ⟨"required_" ++ d.requiredName ++ "_present", .notEvaluated,
      "Required " ++ d.requiredName ++ " is pending until " ++ deadline, none⟩

/-- `evaluate_missing_document_policy`. -/
def evaluateMissingDocumentPolicy (s : Shipment) (now slaDuration : Int) :
    MissingDocumentPolicyResult :=
  let deadlineAt := s.createdAt + slaDuration
  let missing := s.missingSlots
  let overdue := !missing.isEmpty && decide (deadlineAt ≤ now)
  { state := if overdue then .overdue else if missing.isEmpty then .complete else .withinGrace
    deadlineAt := deadlineAt
    missingDocs := missing.map Slot.requiredName
    reasonCodes := if overdue then missing.map Slot.overdueReason else []
    checks := Slot.all.map fun d => requiredDocumentCheck (s.has d) overdue deadlineAt d }

end

/-! ## The exception row and its events -/

section

variable [PyRuntime]

/-- `_exception_state`. -/
def exceptionState (status : ExceptionStatus) (missingDocs reasonCodes : List String)
    (deadlineAt : Int) : ExceptionState :=
  ⟨status, missingDocs, reasonCodes, PyRuntime.datetimeText deadlineAt⟩

/-- `sync_missing_document_exception`: the rows it writes. -/
def syncMissingDocumentException (ses : Session) (s : Shipment)
    (policy : MissingDocumentPolicyResult) (resultId : Uuid) (now : Int) (db : Database) :
    List Write :=
  let desiredActive := policy.state = .overdue
  match db.exception? s.id with
  | none =>
      if desiredActive then
        [.exception
          { id := ses.exceptionUuid, shipmentId := s.id, status := .active,
            missingDocs := policy.missingDocs, reasonCodes := policy.reasonCodes,
            deadlineAt := policy.deadlineAt, version := 1, openedAt := now, resolvedAt := none },
         .event
          { id := ses.eventUuid, exceptionId := ses.exceptionUuid,
            reconciliationResultId := resultId, version := 1, transition := .opened,
            beforeState := none,
            afterState :=
              exceptionState .active policy.missingDocs policy.reasonCodes policy.deadlineAt,
            occurredAt := now }]
      else []
  | some existing =>
      let beforeState :=
        exceptionState existing.status existing.missingDocs existing.reasonCodes
          existing.deadlineAt
      let desiredStatus : ExceptionStatus := if desiredActive then .active else .resolved
      let desiredMissing := if desiredActive then policy.missingDocs else []
      let desiredReasons := if desiredActive then policy.reasonCodes else []
      if existing.status = desiredStatus ∧ existing.missingDocs = desiredMissing ∧
          existing.reasonCodes = desiredReasons ∧ existing.deadlineAt = policy.deadlineAt then []
      else
        let transition : ExceptionTransition :=
          if ¬desiredActive then .resolved
          else if existing.status = .resolved then .opened else .changed
        let row : ShipmentException :=
          { existing with
            version := existing.version + 1, status := desiredStatus,
            missingDocs := desiredMissing, reasonCodes := desiredReasons,
            deadlineAt := policy.deadlineAt,
            resolvedAt := if desiredActive then none else some now,
            openedAt := if transition = .opened then now else existing.openedAt }
        [.exception row,
         .event
          { id := ses.eventUuid, exceptionId := row.id, reconciliationResultId := resultId,
            version := row.version, transition := transition, beforeState := some beforeState,
            afterState :=
              exceptionState row.status row.missingDocs row.reasonCodes row.deadlineAt,
            occurredAt := now }]

end

/-! ## What the policy says -/

theorem mem_missingSlots (s : Shipment) (d : Slot) : d ∈ s.missingSlots ↔ s.has d = false := by
  cases d <;> simp [Shipment.missingSlots, Slot.all]

/-- No slot is missing exactly when the four flags are up. -/
theorem missingSlots_eq_nil (s : Shipment) : s.missingSlots = [] ↔ ∀ d, s.has d = true := by
  rw [List.eq_nil_iff_forall_not_mem]
  simp [mem_missingSlots]

theorem overdueReason_mem (d : Slot) : d.overdueReason ∈ slaReasonCodes := by
  cases d <;> decide

section

variable [PyRuntime]

/-- The policy only ever gives SLA reason codes. -/
theorem policy_reasonCodes_sla {s : Shipment} {now slaDuration : Int} {r : String}
    (h : r ∈ (evaluateMissingDocumentPolicy s now slaDuration).reasonCodes) :
    r ∈ slaReasonCodes := by
  simp only [evaluateMissingDocumentPolicy] at h
  split at h
  · obtain ⟨d, -, rfl⟩ := List.mem_map.mp h
    exact overdueReason_mem d
  · cases h

/-- Before the deadline the policy gives no reason. -/
theorem policy_reasonCodes_before {s : Shipment} {now slaDuration : Int}
    (h : now < s.createdAt + slaDuration) :
    (evaluateMissingDocumentPolicy s now slaDuration).reasonCodes = [] := by
  have hle : ¬s.createdAt + slaDuration ≤ now := by omega
  simp [evaluateMissingDocumentPolicy, hle]

end

end FreightAP
