import FreightAP.Extraction.Schemas
import FreightAP.Lib.Base64
import FreightAP.Queue.Delivery

/-!
# Gmail attachments

The attachments of a message, `_download_supported_attachments`, and the job
of one of them.  A text that a part of a message lacks is `""`: the poller
makes no difference between the two.

A message is accepted, or unsupported when no attachment of it is returned, or
rejected: its download raises, or one of its jobs is no `InvoiceJobEnvelope`.
-/

namespace FreightAP

/-- What the poller uses of the runtime. -/
class PollerRuntime extends ExtractionRuntime where
  /-- `hashlib.sha256(data).hexdigest()`. -/
  sha256 : Octets → String
  /-- A digest has sixty-four hexadecimal digits. -/
  sha256_hex : ∀ data, (sha256 data).length = 64 ∧
    (sha256 data).toList.all (fun c => c.isDigit || ('a' ≤ c && c ≤ 'f')) = true

/-! ## Messages -/

/-- The body of a part.  `content` is the data that `attachments().get` answers
for its attachment id. -/
structure PartBody where
  attachmentId : Option String
  data : String
  content : Option String

/-- A MIME part. -/
inductive MessagePart where
  | mk (partId filename : String) (body : PartBody) (parts : List MessagePart)

namespace MessagePart

def partId : MessagePart → String
  | mk partId _ _ _ => partId

def filename : MessagePart → String
  | mk _ filename _ _ => filename

def body : MessagePart → PartBody
  | mk _ _ body _ => body

def parts : MessagePart → List MessagePart
  | mk _ _ _ parts => parts

end MessagePart

/-- A message. -/
structure GmailMessage where
  id : String
  threadId : String
  labelIds : List String
  payload : MessagePart

mutual

/-- Whether a part or a part inside it has a filename. -/
def MessagePart.hasAttachment : MessagePart → Bool
  | .mk _ filename _ parts => filename ≠ "" || anyAttachment parts

def anyAttachment : List MessagePart → Bool
  | [] => false
  | part :: parts => part.hasAttachment || anyAttachment parts

end

section

variable [PollerRuntime]

open PollerRuntime ExtractionRuntime

/-- `_supported_attachment`. -/
def supportedAttachment (filename : String) : Bool :=
  lower (pathSuffix filename) ∈ [".pdf", ".png", ".jpg", ".jpeg"]

/-- `_decode_gmail_attachment`, `none` for a `ValueError`. -/
def decodeGmailAttachment (data : String) : Option Octets :=
  let padded := data.toList ++ List.replicate ((4 - data.length % 4) % 4) '='
  if padded.all (·.toNat < 128) then
    Base64.decode false
      (padded.map fun c => if c = '-' then '+' else if c = '_' then '/' else c)
  else none

mutual

/-- `_iter_attachment_parts`. -/
def iterAttachmentParts : List MessagePart → List MessagePart
  | [] => []
  | part :: parts => attachmentParts part ++ iterAttachmentParts parts

/-- The turn of its loop for a part: the parts inside it come first. -/
def attachmentParts : MessagePart → List MessagePart
  | .mk partId filename body parts =>
      iterAttachmentParts parts ++
        if filename ≠ "" ∧ supportedAttachment filename ∧
            (body.attachmentId.getD "" ≠ "" ∨ body.data ≠ "") then
          [.mk partId filename body parts]
        else []

end

/-- A downloaded attachment. -/
structure AttachmentPayload where
  messageId : String
  mimePartId : Option String
  filename : String
  fileBytes : String
  gmailThreadId : String

/-- `base64.b64encode(data).decode("ascii")`. -/
def b64encode (data : Octets) : String := String.ofList (Base64.encode data)

/-- The octets of a part: in its body, or fetched by their id. -/
def partOctets (part : MessagePart) : Option Octets :=
  if part.body.data ≠ "" then decodeGmailAttachment part.body.data
  else part.body.content.bind decodeGmailAttachment

/-- The attachment of a part with octets. -/
def partPayload (message : GmailMessage) (part : MessagePart) (fileBytes : Octets) :
    AttachmentPayload where
  messageId := message.id
  mimePartId := if part.partId ≠ "" then some part.partId else part.body.attachmentId
  filename := part.filename
  fileBytes := b64encode fileBytes
  gmailThreadId := message.threadId

/-- The turn of the download for a part, `none` when it raises. -/
def downloadPart (message : GmailMessage) (part : MessagePart) : Option AttachmentPayload :=
  (partOctets part).map (partPayload message part)

/-- `_download_supported_attachments`, `none` when it raises. -/
def downloadSupportedAttachments (message : GmailMessage) : Option (List AttachmentPayload) :=
  (iterAttachmentParts message.payload.parts).mapM (downloadPart message)

/-! ## The envelope -/

/-- The path of a field, and the error of its check. -/
abbrev FieldError := String × String

/-- The arguments of an `InvoiceJobEnvelope`. -/
structure EnvelopeArguments where
  idempotencyKey : String
  gmailAccount : String
  messageId : String
  gmailThreadId : String
  mimePartId : Option String
  filename : String
  fileBytes : String
  contentSha256 : String
  enqueuedAt : Int

/-- A field with the pattern `^[0-9a-f]{64}$`. -/
def hexField (path value : String) : List FieldError :=
  if value.length = 64 ∧ value.toList.all (fun c => c.isDigit || ('a' ≤ c && c ≤ 'f')) then []
  else [(path, "string_pattern_mismatch")]

/-- A text with a `min_length` of 1, and a `max_length`. -/
def boundedField (path : String) (maxLength : Option Nat) (value : String) : List FieldError :=
  if value.length < 1 then [(path, "string_too_short")]
  else if maxLength.any (· < value.length) then [(path, "string_too_long")]
  else []

/-- The errors of the fields of an `InvoiceJobEnvelope`. -/
def EnvelopeArguments.fieldErrors (a : EnvelopeArguments) : List FieldError :=
  hexField "idempotency_key" a.idempotencyKey ++
  boundedField "gmail_account" none a.gmailAccount ++
  boundedField "message_id" none a.messageId ++
  (match a.mimePartId with
    | none => [("mime_part_id", "string_type")]
    | some mimePartId => boundedField "mime_part_id" none mimePartId) ++
  boundedField "filename" none a.filename ++
  boundedField "file_bytes" (some 35000000) a.fileBytes ++
  hexField "content_sha256" a.contentSha256

/-- `validate_content`.  The time has a timezone: the poller's clock is in UTC. -/
def validateContent (job : InvoiceJobEnvelope) : Except (List FieldError) InvoiceJobEnvelope :=
  if supportedAttachment job.filename then
    match Base64.decode true job.fileBytes.toList with
    | none => .error [("", "file_bytes must be valid base64")]
    | some decoded =>
        if sha256 decoded = job.contentSha256 then .ok job
        else .error [("", "content_sha256 does not match file_bytes")]
  else .error [("", "filename has an unsupported attachment extension")]

/-- The envelope of arguments that are texts. -/
def EnvelopeArguments.job (a : EnvelopeArguments) : InvoiceJobEnvelope where
  idempotencyKey := a.idempotencyKey
  gmailAccount := a.gmailAccount
  messageId := a.messageId
  gmailThreadId := a.gmailThreadId
  mimePartId := a.mimePartId.getD ""
  filename := a.filename
  fileBytes := a.fileBytes
  contentSha256 := a.contentSha256
  enqueuedAt := a.enqueuedAt

/-- `InvoiceJobEnvelope(...)`. -/
def EnvelopeArguments.envelope (a : EnvelopeArguments) :
    Except (List FieldError) InvoiceJobEnvelope :=
  if a.fieldErrors = [] then validateContent a.job else .error a.fieldErrors

omit [PollerRuntime] in
/-- `s.encode("utf-8")`. -/
def utf8 (s : String) : Octets := s.toList.flatMap String.utf8EncodeChar

/-- `_attachment_idempotency_key`. -/
def attachmentIdempotencyKey (gmailAccount messageId : String) (mimePartId : Option String) :
    String :=
  sha256 (utf8 (String.join ["gmail:v1\x00", lower (strip gmailAccount), "\x00", messageId,
    "\x00", mimePartId.getD "None"]))

/-- Why a poll raises. -/
inductive PollError where
  | download
  | fileBytes
  | envelope (errors : List FieldError)

/-- The arguments of the job of an attachment. -/
def AttachmentPayload.arguments (payload : AttachmentPayload) (gmailAccount : String)
    (fileBytes : Octets) (enqueuedAt : Int) : EnvelopeArguments where
  idempotencyKey := attachmentIdempotencyKey gmailAccount payload.messageId payload.mimePartId
  gmailAccount := gmailAccount
  messageId := payload.messageId
  gmailThreadId := payload.gmailThreadId
  mimePartId := payload.mimePartId
  filename := payload.filename
  fileBytes := payload.fileBytes
  contentSha256 := sha256 fileBytes
  enqueuedAt := enqueuedAt

/-- The job of an attachment. -/
def attachmentJob (gmailAccount : String) (payload : AttachmentPayload) (enqueuedAt : Int) :
    Except PollError InvoiceJobEnvelope :=
  match Base64.decode true payload.fileBytes.toList with
  | none => .error .fileBytes
  | some fileBytes =>
      match (payload.arguments gmailAccount fileBytes enqueuedAt).envelope with
      | .ok job => .ok job
      | .error errors => .error (.envelope errors)

/-! ## What is accepted -/

/-- Whether the job of an attachment is an `InvoiceJobEnvelope`. -/
def attachmentAccepted (gmailAccount : String) (payload : AttachmentPayload) : Bool :=
  match attachmentJob gmailAccount payload 0 with
  | .ok _ => true
  | .error _ => false

namespace GmailMessage

/-- A message with attachments, all of them accepted. -/
def Accepted (gmailAccount : String) (message : GmailMessage) : Prop :=
  ∃ attachments, downloadSupportedAttachments message = some attachments ∧ attachments ≠ [] ∧
    ∀ payload ∈ attachments, attachmentAccepted gmailAccount payload = true

/-- A message without a supported attachment. -/
def unsupported (message : GmailMessage) : Bool :=
  (iterAttachmentParts message.payload.parts).isEmpty

/-- A message whose download raises, or with an attachment that is not
accepted. -/
def Rejected (gmailAccount : String) (message : GmailMessage) : Prop :=
  ∀ attachments, downloadSupportedAttachments message = some attachments →
    ∃ payload ∈ attachments, attachmentAccepted gmailAccount payload = false

end GmailMessage

section

variable {gmailAccount : String} {payload : AttachmentPayload} {message : GmailMessage}
  {part : MessagePart}

/-- An envelope is made when no check fails. -/
theorem EnvelopeArguments.envelope_ok_iff {a : EnvelopeArguments} {job : InvoiceJobEnvelope} :
    a.envelope = .ok job ↔ a.fieldErrors = [] ∧ supportedAttachment a.filename = true ∧
      (∃ decoded, Base64.decode true a.fileBytes.toList = some decoded ∧
        sha256 decoded = a.contentSha256) ∧ job = a.job := by
  unfold envelope validateContent
  constructor
  · intro h
    split at h
    next herrors =>
      split at h
      next hsupported =>
        split at h
        · cases h
        next decoded hdecoded =>
          split at h
          next hsha =>
            cases h
            exact ⟨herrors, hsupported, ⟨decoded, hdecoded, hsha⟩, rfl⟩
          · cases h
      · cases h
    · cases h
  · rintro ⟨herrors, hsupported, ⟨decoded, hdecoded, hsha⟩, rfl⟩
    simp [herrors, job, hsupported, hdecoded, hsha]

/-- An attachment has a job when its octets are a file and its arguments are
those of an envelope. -/
theorem attachmentJob_ok_iff {enqueuedAt : Int} {job : InvoiceJobEnvelope} :
    attachmentJob gmailAccount payload enqueuedAt = .ok job ↔
      ∃ fileBytes, Base64.decode true payload.fileBytes.toList = some fileBytes ∧
        supportedAttachment payload.filename = true ∧
        (payload.arguments gmailAccount fileBytes 0).fieldErrors = [] ∧
        job = (payload.arguments gmailAccount fileBytes enqueuedAt).job := by
  unfold attachmentJob
  constructor
  · intro h
    split at h
    · cases h
    next fileBytes hbytes =>
      split at h
      next job' hjob =>
        cases h
        obtain ⟨herrors, hsupported, -, rfl⟩ := EnvelopeArguments.envelope_ok_iff.mp hjob
        exact ⟨fileBytes, hbytes, hsupported, herrors, rfl⟩
      · cases h
  · rintro ⟨fileBytes, hbytes, hsupported, herrors, rfl⟩
    have hjob : (payload.arguments gmailAccount fileBytes enqueuedAt).envelope =
        .ok (payload.arguments gmailAccount fileBytes enqueuedAt).job :=
      EnvelopeArguments.envelope_ok_iff.mpr ⟨herrors, hsupported, ⟨fileBytes, hbytes, rfl⟩, rfl⟩
    simp [hbytes, hjob]

/-- Whether an attachment is accepted does not depend on the time. -/
theorem attachmentAccepted_iff (enqueuedAt : Int) :
    attachmentAccepted gmailAccount payload = true ↔
      ∃ job, attachmentJob gmailAccount payload enqueuedAt = .ok job := by
  have hnow : attachmentAccepted gmailAccount payload = true ↔
      ∃ job, attachmentJob gmailAccount payload 0 = .ok job := by
    unfold attachmentAccepted
    cases attachmentJob gmailAccount payload 0 <;> simp
  rw [hnow]
  constructor
  · rintro ⟨job, h⟩
    obtain ⟨fileBytes, hbytes, hsupported, herrors, -⟩ := attachmentJob_ok_iff.mp h
    exact ⟨_, attachmentJob_ok_iff.mpr ⟨fileBytes, hbytes, hsupported, herrors, rfl⟩⟩
  · rintro ⟨job, h⟩
    obtain ⟨fileBytes, hbytes, hsupported, herrors, -⟩ := attachmentJob_ok_iff.mp h
    exact ⟨_, attachmentJob_ok_iff.mpr ⟨fileBytes, hbytes, hsupported, herrors, rfl⟩⟩

/-- The key of a job. -/
theorem attachmentJob_key {enqueuedAt : Int} {job : InvoiceJobEnvelope}
    (h : attachmentJob gmailAccount payload enqueuedAt = .ok job) :
    job.idempotencyKey =
      attachmentIdempotencyKey gmailAccount payload.messageId payload.mimePartId := by
  obtain ⟨fileBytes, -, -, -, rfl⟩ := attachmentJob_ok_iff.mp h
  rfl

/-! ## The bounds of a downloaded attachment -/

omit [PollerRuntime] in
theorem boundedField_eq_nil_iff {path value : String} {maxLength : Option Nat} :
    boundedField path maxLength value = [] ↔
      value ≠ "" ∧ ∀ n ∈ maxLength, value.length ≤ n := by
  have hempty : value.length < 1 ↔ value = "" := by simp
  unfold boundedField
  split
  next h => simp [hempty.mp h]
  next h =>
    rw [hempty] at h
    cases maxLength with
    | none => simp [h]
    | some n => simp [h]

theorem hexField_sha256 (path : String) (data : Octets) : hexField path (sha256 data) = [] :=
  if_pos (sha256_hex data)

omit [PollerRuntime] in
theorem b64encode_length (data : Octets) : (b64encode data).length = 4 * ((data.length + 2) / 3) := by
  rw [b64encode, String.length_ofList, Base64.encode_length]

omit [PollerRuntime] in
theorem b64encode_decode (data : Octets) :
    Base64.decode true (b64encode data).toList = some data := by
  rw [b64encode, String.toList_ofList, Base64.decode_encode]

/-- A downloaded attachment is accepted when it is neither empty nor larger than
26 250 000 octets, and the account, the message and the part have a name. -/
theorem partPayload_accepted_iff {fileBytes : Octets}
    (hsupported : supportedAttachment part.filename = true) (hfilename : part.filename ≠ "") :
    attachmentAccepted gmailAccount (partPayload message part fileBytes) = true ↔
      gmailAccount ≠ "" ∧ message.id ≠ "" ∧
        (part.partId ≠ "" ∨ ∃ id, part.body.attachmentId = some id ∧ id ≠ "") ∧
        1 ≤ fileBytes.length ∧ fileBytes.length ≤ 26250000 := by
  have haccepted : attachmentAccepted gmailAccount (partPayload message part fileBytes) = true ↔
      ((partPayload message part fileBytes).arguments gmailAccount fileBytes 0).fieldErrors = [] := by
    rw [attachmentAccepted_iff 0]
    constructor
    · rintro ⟨job, hjob⟩
      obtain ⟨decoded, hdecoded, -, herrors, -⟩ := attachmentJob_ok_iff.mp hjob
      cases (b64encode_decode fileBytes).symm.trans hdecoded
      exact herrors
    · intro herrors
      exact ⟨_, attachmentJob_ok_iff.mpr
        ⟨fileBytes, b64encode_decode fileBytes, hsupported, herrors, rfl⟩⟩
  have hpart : (match (partPayload message part fileBytes).mimePartId with
      | none => [("mime_part_id", "string_type")]
      | some mimePartId => boundedField "mime_part_id" none mimePartId) = [] ↔
      part.partId ≠ "" ∨ ∃ id, part.body.attachmentId = some id ∧ id ≠ "" := by
    by_cases hid : part.partId = ""
    · cases hattachment : part.body.attachmentId with
      | none => simp [partPayload, hid, hattachment]
      | some id => simp [partPayload, hid, hattachment, boundedField_eq_nil_iff]
    · simp [partPayload, hid, boundedField_eq_nil_iff]
  have hsize : b64encode fileBytes ≠ "" ∧ (b64encode fileBytes).length ≤ 35000000 ↔
      1 ≤ fileBytes.length ∧ fileBytes.length ≤ 26250000 := by
    have hempty : b64encode fileBytes = "" ↔ (b64encode fileBytes).length = 0 := by simp
    rw [ne_eq, hempty, b64encode_length]
    omega
  rw [haccepted, ← hpart, ← hsize]
  simp [EnvelopeArguments.fieldErrors, AttachmentPayload.arguments, partPayload,
    attachmentIdempotencyKey, hexField_sha256, boundedField_eq_nil_iff, hfilename]

/-! ## The parts of a message -/

mutual

/-- The returned parts have a supported filename, and with one there is an
attachment. -/
theorem mem_iterAttachmentParts {part : MessagePart} : ∀ {parts : List MessagePart},
    part ∈ iterAttachmentParts parts → part.filename ≠ "" ∧
      supportedAttachment part.filename = true ∧ anyAttachment parts = true
  | [], h => by simp [iterAttachmentParts] at h
  | first :: rest, h => by
      rw [iterAttachmentParts, List.mem_append] at h
      cases h with
      | inl h =>
          obtain ⟨hfilename, hsupported, hany⟩ := mem_attachmentParts h
          exact ⟨hfilename, hsupported, by simp [anyAttachment, hany]⟩
      | inr h =>
          obtain ⟨hfilename, hsupported, hany⟩ := mem_iterAttachmentParts h
          exact ⟨hfilename, hsupported, by simp [anyAttachment, hany]⟩

theorem mem_attachmentParts {part : MessagePart} : ∀ {whole : MessagePart},
    part ∈ attachmentParts whole → part.filename ≠ "" ∧
      supportedAttachment part.filename = true ∧ whole.hasAttachment = true
  | .mk partId filename body parts, h => by
      rw [attachmentParts, List.mem_append] at h
      cases h with
      | inl h =>
          obtain ⟨hfilename, hsupported, hany⟩ := mem_iterAttachmentParts h
          exact ⟨hfilename, hsupported, by simp [MessagePart.hasAttachment, hany]⟩
      | inr h =>
          split at h
          next hpart =>
            cases List.mem_singleton.mp h
            exact ⟨hpart.1, hpart.2.1, by simp [MessagePart.hasAttachment, hpart.1]⟩
          · cases h

end

omit [PollerRuntime] in
theorem mapM_eq_some_iff {α β : Type} {f : α → Option β} {xs : List α} {ys : List β} :
    xs.mapM f = some ys ↔ xs.map f = ys.map some := by
  induction xs generalizing ys with
  | nil => cases ys <;> simp
  | cons x xs ih =>
      cases hx : f x with
      | none => cases ys <;> simp [List.mapM_cons, hx]
      | some y =>
          cases ys with
          | nil => cases hxs : xs.mapM f <;> simp [List.mapM_cons, hx, hxs]
          | cons z zs =>
              rw [List.map_cons, List.map_cons, hx, List.cons.injEq, Option.some.injEq, ← ih]
              cases hxs : xs.mapM f <;> simp [List.mapM_cons, hx, hxs]

theorem unsupported_iff :
    message.unsupported = true ↔ downloadSupportedAttachments message = some [] := by
  rw [GmailMessage.unsupported, downloadSupportedAttachments, mapM_eq_some_iff, List.isEmpty_iff,
    List.map_nil, List.map_eq_nil_iff]

/-- An accepted message has an attachment. -/
theorem hasAttachment_of_accepted (h : message.Accepted gmailAccount) :
    message.payload.hasAttachment = true := by
  obtain ⟨attachments, hdownload, hne, -⟩ := h
  have hparts : iterAttachmentParts message.payload.parts ≠ [] := by
    intro hnil
    cases hdownload.symm.trans (unsupported_iff.mp (List.isEmpty_iff.mpr hnil))
    exact hne rfl
  obtain ⟨part, hpart⟩ := List.exists_mem_of_ne_nil _ hparts
  obtain ⟨-, -, hany⟩ := mem_iterAttachmentParts hpart
  cases hpayload : message.payload with
  | mk partId filename body parts =>
      have hparts : anyAttachment parts = true := by simpa [hpayload, MessagePart.parts] using hany
      simp [MessagePart.hasAttachment, hparts]

/-- A message is accepted when it has a supported part, and each supported part
has octets within the bounds. -/
theorem accepted_iff : message.Accepted gmailAccount ↔
    iterAttachmentParts message.payload.parts ≠ [] ∧
      ∀ part ∈ iterAttachmentParts message.payload.parts, ∃ fileBytes,
        partOctets part = some fileBytes ∧ gmailAccount ≠ "" ∧ message.id ≠ "" ∧
        (part.partId ≠ "" ∨ ∃ id, part.body.attachmentId = some id ∧ id ≠ "") ∧
        1 ≤ fileBytes.length ∧ fileBytes.length ≤ 26250000 := by
  constructor
  · rintro ⟨attachments, hdownload, hne, haccepted⟩
    have hmap := mapM_eq_some_iff.mp hdownload
    constructor
    · intro hnil
      rw [hnil, List.map_nil, eq_comm, List.map_eq_nil_iff] at hmap
      exact hne hmap
    · intro part hpart
      obtain ⟨hfilename, hsupported, -⟩ := mem_iterAttachmentParts hpart
      have hmem : downloadPart message part ∈ attachments.map some :=
        hmap ▸ List.mem_map_of_mem hpart
      obtain ⟨payload, hpayload, hsome⟩ := List.mem_map.mp hmem
      obtain ⟨fileBytes, hoctets, rfl⟩ := Option.map_eq_some_iff.mp hsome.symm
      exact ⟨fileBytes, hoctets,
        (partPayload_accepted_iff hsupported hfilename).mp (haccepted _ hpayload)⟩
  · rintro ⟨hne, hparts⟩
    have hdownload : downloadSupportedAttachments message =
        some ((iterAttachmentParts message.payload.parts).map fun part =>
          partPayload message part ((partOctets part).getD [])) := by
      rw [downloadSupportedAttachments, mapM_eq_some_iff, List.map_map]
      apply List.map_congr_left
      intro part hpart
      obtain ⟨fileBytes, hoctets, -⟩ := hparts part hpart
      simp [downloadPart, hoctets]
    refine ⟨_, hdownload, by simpa using hne, ?_⟩
    intro payload hpayload
    obtain ⟨part, hpart, rfl⟩ := List.mem_map.mp hpayload
    obtain ⟨hfilename, hsupported, -⟩ := mem_iterAttachmentParts hpart
    obtain ⟨fileBytes, hoctets, hbounds⟩ := hparts part hpart
    rw [hoctets, Option.getD_some]
    exact (partPayload_accepted_iff hsupported hfilename).mpr hbounds

end

end

end FreightAP
