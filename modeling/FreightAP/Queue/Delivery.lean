import Mathlib.Data.List.Basic
import FreightAP.Lib.Stream

/-!
# Deliveries and their payloads

The fields of a stream entry, the job in its payload, and the evidence that a
dead-letter entry keeps of the fields.  JSON and the validation of a job are a
parameter, `QueueRuntime`.
-/

namespace FreightAP

/-! ## JSON -/

/-- `InvoiceJobEnvelope`. -/
structure InvoiceJobEnvelope where
  idempotencyKey : String
  gmailAccount : String
  messageId : String
  gmailThreadId : String
  mimePartId : String
  filename : String
  fileBytes : String
  contentSha256 : String
  enqueuedAt : Int
deriving DecidableEq

/-- The fields of a stream entry, a dictionary of texts. -/
abbrev Fields := List (String × String)

/-- What `json.loads` makes of a text.  A member that is no text is `none`. -/
inductive Loaded where
  | invalid (msg : String)
  | other
  | object (members : List (String × Option String))
deriving DecidableEq

/-- JSON and the validation of a job. -/
class QueueRuntime where
  /-- `json.dumps` of fields, with sorted keys. -/
  dumps : Fields → String
  /-- `json.loads`. -/
  loads : String → Loaded
  /-- `InvoiceJobEnvelope.model_validate` of the object in a text, or its error. -/
  modelValidate : String → Except String InvoiceJobEnvelope
  /-- `model_dump_json`. -/
  modelDumpJson : InvoiceJobEnvelope → String

/-- The texts among the members of an object, when all of them are texts. -/
def textMembers? (members : List (String × Option String)) : Option Fields :=
  members.mapM fun (k, v) => v.map fun v => (k, v)

section

variable [QueueRuntime]

open QueueRuntime

/-- The encoder and the decoder are inverse: fields come back as they were, and
a validated job is what its dump validates to. -/
structure JsonInverse : Prop where
  fields : ∀ f : Fields, ∃ ms g, loads (dumps f) = .object ms ∧ textMembers? ms = some g ∧
    ∀ k, g.lookup k = f.lookup k
  job : ∀ raw job, modelValidate raw = .ok job →
    (∃ ms, loads (modelDumpJson job) = .object ms) ∧ modelValidate (modelDumpJson job) = .ok job

/-! ## Deliveries -/

/-- `StreamDelivery`. -/
structure StreamDelivery where
  streamId : StreamId
  fields : Fields
  attempt : Nat
deriving DecidableEq

/-- `replay_context`: the dead-letter entry and the request that a delivery
replays. -/
def replayContext (fields : Fields) : Option (String × String) :=
  match fields.lookup "replay_dlq_id", fields.lookup "replay_request_id" with
  | some dlqId, some requestId => if dlqId ≠ "" ∧ requestId ≠ "" then some (dlqId, requestId) else none
  | _, _ => none

/-- `parse_delivery`, of the fields: the job, or the message of the
`PermanentJobError`. -/
def parseDelivery (fields : Fields) : Except String InvoiceJobEnvelope :=
  match fields.lookup "payload" with
  | none => .error "missing payload field"
  | some raw =>
      match loads raw with
      | .invalid msg => .error ("payload is not valid JSON: " ++ msg)
      | .other => .error "payload must be a JSON object"
      | .object _ =>
          match modelValidate raw with
          | .ok job => .ok job
          | .error message => .error ("payload validation failed: " ++ message)

/-- The fields of a dead-letter entry. -/
structure DeadLetterFields where
  originalStreamId : Option StreamId
  attemptCount : Nat
  failedAt : Int
  failureReason : String
  originalFields : Option String
deriving DecidableEq

/-- `DecodedDLQEvidence`. -/
structure DecodedDLQEvidence where
  originalFieldsJson : String
  originalFields : Fields
  job : InvoiceJobEnvelope
deriving DecidableEq

/-- `decode_dlq_evidence`: the evidence, or the message of `DLQNotReplayable`. -/
def decodeDlqEvidence (fields : DeadLetterFields) : Except String DecodedDLQEvidence :=
  match fields.originalFields with
  | none => .error "missing original_fields"
  | some raw =>
      match loads raw with
      | .invalid _ => .error "original_fields is not valid JSON"
      | .other => .error "original_fields must be a string-to-string object"
      | .object ms =>
          match textMembers? ms with
          | none => .error "original_fields must be a string-to-string object"
          | some originalFields =>
              match parseDelivery originalFields with
              | .error message => .error message
              | .ok job => .ok ⟨raw, originalFields, job⟩

/-- Whether an entry's payload carries a job of a key. -/
def carries (key : String) (fields : Fields) : Bool :=
  match parseDelivery fields with
  | .ok job => job.idempotencyKey = key
  | .error _ => false

/-! ## What the payload decides -/

theorem parseDelivery_congr {f g : Fields} (h : f.lookup "payload" = g.lookup "payload") :
    parseDelivery f = parseDelivery g := by
  unfold parseDelivery
  rw [h]

/-- The evidence of fields is the job of the fields. -/
theorem decodeDlqEvidence_dumps (hjson : JsonInverse) {f : Fields} {dl : DeadLetterFields}
    (hdl : dl.originalFields = some (dumps f)) {evidence : DecodedDLQEvidence}
    (h : decodeDlqEvidence dl = .ok evidence) : parseDelivery f = .ok evidence.job := by
  obtain ⟨ms, g, hloads, hms, hg⟩ := hjson.fields f
  unfold decodeDlqEvidence at h
  rw [hdl] at h
  simp only [hloads, hms] at h
  rw [parseDelivery_congr (hg "payload").symm]
  cases hp : parseDelivery g with
  | error message =>
      rw [hp] at h
      cases h
  | ok job =>
      rw [hp] at h
      cases h
      rfl

/-- A job that was parsed is a job that was validated. -/
theorem parseDelivery_validate {f : Fields} {job : InvoiceJobEnvelope}
    (h : parseDelivery f = .ok job) : ∃ raw, modelValidate raw = .ok job := by
  unfold parseDelivery at h
  split at h
  · cases h
  next raw hraw =>
    split at h
    · cases h
    · cases h
    · split at h
      next job' hv =>
        cases h
        exact ⟨raw, hv⟩
      · cases h

/-- The payload of a validated job carries it. -/
theorem parseDelivery_dump (hjson : JsonInverse) {raw : String} {job : InvoiceJobEnvelope}
    (hv : modelValidate raw = .ok job) {f : Fields}
    (hf : f.lookup "payload" = some (modelDumpJson job)) : parseDelivery f = .ok job := by
  obtain ⟨⟨ms, hms⟩, hjob⟩ := hjson.job raw job hv
  unfold parseDelivery
  simp only [hf, hms, hjob]

end

/-- A key of sixty-four digits. -/
def sampleKey (digit : Char) : String := String.ofList (List.replicate 64 digit)

/-- A job of a key. -/
def sampleJob (digit : Char) : InvoiceJobEnvelope where
  idempotencyKey := sampleKey digit
  gmailAccount := "ap@example.com"
  messageId := "m1"
  gmailThreadId := "t1"
  mimePartId := "1"
  filename := "invoice.pdf"
  fileBytes := "AA=="
  contentSha256 := "6e340b9cffb37a989ca544e6bb780a2c78901d3fb33738768511a30617afa01d"
  enqueuedAt := 0

end FreightAP
