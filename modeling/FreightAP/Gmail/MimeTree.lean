import FreightAP.Gmail.Drain

/-!
# The attachments of a MIME tree

The parts that the poller returns are the attachments among the nodes below the
root, each as often as it is there (`iterAttachmentParts_perm`), and what it
downloads of a part decodes to the octets that the part codes
(`partPayload_entryOf`).  The root is not looked at, so every attachment of a
message is found unless the root is one (`foundOnce_iff`).
-/

namespace FreightAP

/-! ## The nodes of a tree -/

mutual

/-- The nodes of a tree, from its root. -/
def MessagePart.nodes : MessagePart → List MessagePart
  | .mk partId filename body parts => .mk partId filename body parts :: nodesOf parts

/-- The nodes of some trees. -/
def nodesOf : List MessagePart → List MessagePart
  | [] => []
  | part :: parts => part.nodes ++ nodesOf parts

end

/-- A part codes octets: in its body, or in what is fetched for it. -/
def MessagePart.Codes (part : MessagePart) (octets : Octets) : Prop :=
  if part.body.data ≠ "" then Base64.UrlCodes part.body.data octets
  else ∃ content, part.body.content = some content ∧ Base64.UrlCodes content octets

/-- The entry of an attachment. -/
structure EntryOf (message : GmailMessage) (part : MessagePart) (entry : AttachmentPayload) :
    Prop where
  messageId : entry.messageId = message.id
  gmailThreadId : entry.gmailThreadId = message.threadId
  mimePartId : entry.mimePartId = if part.partId ≠ "" then some part.partId else
    part.body.attachmentId
  filename : entry.filename = part.filename
  fileBytes : ∀ octets, part.Codes octets →
    Base64.decode true entry.fileBytes.toList = some octets

/-! ## The download of a part -/

section

variable {part : MessagePart} {message : GmailMessage}

/-- Padded again, a coded text decodes to its octets. -/
theorem decodeGmailAttachment_of_codes {data : String} {octets : Octets}
    (h : Base64.UrlCodes data octets) : decodeGmailAttachment data = some octets := by
  have hascii : (Base64.urlEncode octets).all (·.toNat < 128) = true := by
    rw [List.all_eq_true]
    intro c hc
    exact decide_eq_true (Base64.mem_urlEncode hc)
  unfold decodeGmailAttachment
  rw [h.padded]
  simp only [hascii, if_true]
  exact (congrArg (Base64.decode false) Base64.standard_urlEncode).trans
    (Base64.decode_encode false octets)

theorem partOctets_of_codes {octets : Octets} (h : part.Codes octets) :
    partOctets part = some octets := by
  unfold MessagePart.Codes at h
  unfold partOctets
  split at h
  next hdata =>
    rw [if_pos hdata]
    exact decodeGmailAttachment_of_codes h
  next hdata =>
    obtain ⟨content, hcontent, hcodes⟩ := h
    rw [if_neg hdata, hcontent]
    exact decodeGmailAttachment_of_codes hcodes

/-- The entry of a part that codes octets. -/
theorem partPayload_entryOf {fileBytes : Octets} (h : part.Codes fileBytes) :
    EntryOf message part (partPayload message part fileBytes) where
  messageId := rfl
  gmailThreadId := rfl
  mimePartId := rfl
  filename := rfl
  fileBytes octets hoctets := by
    obtain rfl := Option.some.inj
      ((partOctets_of_codes h).symm.trans (partOctets_of_codes hoctets))
    exact b64encode_decode fileBytes

/-- The download of parts that code octets has an entry of each. -/
theorem download_entries {parts : List MessagePart}
    (h : ∀ part ∈ parts, ∃ octets, part.Codes octets) :
    ∃ entries, parts.mapM (downloadPart message) = some entries ∧
      List.Forall₂ (EntryOf message) parts entries := by
  induction parts with
  | nil => exact ⟨[], rfl, .nil⟩
  | cons part parts ih =>
      obtain ⟨⟨octets, hcodes⟩, hparts⟩ := List.forall_mem_cons.mp h
      obtain ⟨entries, hentries, hentriesOf⟩ := ih hparts
      refine ⟨partPayload message part octets :: entries, ?_,
        .cons (partPayload_entryOf hcodes) hentriesOf⟩
      rw [List.mapM_cons, hentries, downloadPart, partOctets_of_codes hcodes]
      rfl

end

/-! ## Attachments -/

section

variable [PollerRuntime]

/-- A part with a supported filename, and a body or an attachment id. -/
def MessagePart.isAttachment (part : MessagePart) : Bool :=
  part.filename ≠ "" ∧ supportedAttachment part.filename = true ∧
    (part.body.attachmentId.getD "" ≠ "" ∨ part.body.data ≠ "")

/-- The attachments of a message, its root included. -/
def GmailMessage.attachmentNodes (message : GmailMessage) : List MessagePart :=
  message.payload.nodes.filter MessagePart.isAttachment

/-- Every attachment of a message codes octets. -/
def GmailMessage.Coded (message : GmailMessage) : Prop :=
  ∀ part ∈ message.attachmentNodes, ∃ octets, part.Codes octets

/-- The download has one entry of each attachment of the message, and no other
entries. -/
def FoundOnce (message : GmailMessage) : Prop :=
  ∃ entries, downloadSupportedAttachments message = some entries ∧
    ∃ parts, parts.Perm message.attachmentNodes ∧ List.Forall₂ (EntryOf message) parts entries

/-! ## The walk -/

theorem attachmentParts_mk {partId filename : String} {body : PartBody}
    {parts : List MessagePart} :
    attachmentParts (.mk partId filename body parts) = iterAttachmentParts parts ++
      [MessagePart.mk partId filename body parts].filter MessagePart.isAttachment := by
  rw [attachmentParts, List.filter_singleton]
  congr 1
  cases h : (MessagePart.mk partId filename body parts).isAttachment with
  | true => exact if_pos (of_decide_eq_true h)
  | false => exact if_neg (of_decide_eq_false h)

mutual

/-- The walk returns the attachments below some parts, these included. -/
theorem iterAttachmentParts_perm : ∀ parts : List MessagePart,
    (iterAttachmentParts parts).Perm ((nodesOf parts).filter MessagePart.isAttachment)
  | [] => by simp [iterAttachmentParts, nodesOf]
  | part :: parts => by
      rw [iterAttachmentParts, nodesOf, List.filter_append]
      exact (attachmentParts_perm part).append (iterAttachmentParts_perm parts)

theorem attachmentParts_perm : ∀ part : MessagePart,
    (attachmentParts part).Perm (part.nodes.filter MessagePart.isAttachment)
  | .mk partId filename body parts => by
      -- The part itself comes last in the walk, and first among the nodes.
      have hnodes : ([MessagePart.mk partId filename body parts] ++ nodesOf parts).filter
          MessagePart.isAttachment = _ := List.filter_append ..
      rw [attachmentParts_mk, MessagePart.nodes]
      refine ((iterAttachmentParts_perm parts).append_right _).trans ?_
      exact List.perm_append_comm.trans (.of_eq hnodes.symm)

end

/-- What the walk returns for a message are the attachments below its root. -/
theorem attachmentNodes_eq (message : GmailMessage) :
    message.attachmentNodes = [message.payload].filter MessagePart.isAttachment ++
      (nodesOf message.payload.parts).filter MessagePart.isAttachment := by
  cases hpayload : message.payload with
  | mk partId filename body parts =>
      rw [GmailMessage.attachmentNodes, hpayload, MessagePart.nodes]
      exact List.filter_append [_] (nodesOf parts)

/-- Where attachments are in base64url, each attachment of a message is found
once exactly when the root is not an attachment itself. -/
theorem foundOnce_iff (message : GmailMessage) (hcoded : message.Coded) :
    FoundOnce message ↔ message.payload.isAttachment = false := by
  have hbelow := iterAttachmentParts_perm message.payload.parts
  have hwalked : ∀ part ∈ iterAttachmentParts message.payload.parts, ∃ octets,
      part.Codes octets := by
    intro part hpart
    apply hcoded
    rw [attachmentNodes_eq]
    exact List.mem_append_right _ (hbelow.subset hpart)
  obtain ⟨entries, hentries, hentriesOf⟩ := @download_entries message _ hwalked
  constructor
  · rintro ⟨found, hfound, parts, hparts, hfoundOf⟩
    -- One entry for each attachment below the root leaves none for the root.
    obtain rfl : entries = found := Option.some.inj (hentries.symm.trans hfound)
    have hlength := hparts.length_eq
    rw [hfoundOf.length_eq, ← hentriesOf.length_eq, hbelow.length_eq, attachmentNodes_eq,
      List.length_append] at hlength
    have hnone : ([message.payload].filter MessagePart.isAttachment).length = 0 := by omega
    simpa using hnone
  · intro hroot
    refine ⟨entries, hentries, _, ?_, hentriesOf⟩
    rw [attachmentNodes_eq, List.filter_singleton, hroot]
    simpa using hbelow

end

/-! ## Two messages -/

/-- A forwarded message: one attachment in a nested multipart, with its data in
the body, and one that is fetched, without its padding. -/
def forwardedMessage : GmailMessage where
  id := "m1"
  threadId := "t1"
  labelIds := ["INBOX", "UNREAD"]
  payload := .mk "" "" ⟨none, "", none⟩
    [.mk "0" "" ⟨none, "", none⟩ [.mk "0.1" "invoice.pdf" ⟨none, "JVBERi0=", none⟩ []],
     .mk "1" "scan.png" ⟨some "a1", "", some "JVBERi0"⟩ []]

/-- A message that is a PDF itself. -/
def singlePartMessage : GmailMessage where
  id := "m1"
  threadId := "t1"
  labelIds := ["INBOX", "UNREAD"]
  payload := .mk "" "invoice.pdf" ⟨some "a1", "", some "JVBERi0="⟩ []

theorem urlCodes_padded : Base64.UrlCodes "JVBERi0=" [37, 80, 68, 70, 45] :=
  .inl (by decide +kernel)

theorem urlCodes_unpadded : Base64.UrlCodes "JVBERi0" [37, 80, 68, 70, 45] :=
  .inr (by decide +kernel)

theorem forwardedMessage_found :
    letI := mailRuntime
    FoundOnce forwardedMessage := by
  let _ := mailRuntime
  refine (foundOnce_iff forwardedMessage ?_).mpr (by decide +kernel)
  intro part hpart
  obtain ⟨hnode, hattachment⟩ := List.mem_filter.mp hpart
  have hfilename := (of_decide_eq_true hattachment).1
  simp only [forwardedMessage, MessagePart.nodes, nodesOf, List.append_nil, List.cons_append,
    List.nil_append, List.mem_cons, List.not_mem_nil, or_false] at hnode
  rcases hnode with rfl | rfl | rfl | rfl
  · exact absurd rfl hfilename
  · exact absurd rfl hfilename
  · exact ⟨_, urlCodes_padded⟩
  · exact ⟨_, _, rfl, urlCodes_unpadded⟩

/-- The poller returns nothing of a message that is an attachment itself. -/
theorem rootAttachment_missed :
    letI := mailRuntime
    singlePartMessage.Coded ∧ downloadSupportedAttachments singlePartMessage = some [] ∧
      ¬FoundOnce singlePartMessage := by
  let _ := mailRuntime
  have hnodes : singlePartMessage.payload.nodes = [singlePartMessage.payload] := rfl
  have hdownload : downloadSupportedAttachments singlePartMessage = some [] := rfl
  refine ⟨?_, hdownload, ?_⟩
  · intro part hpart
    rw [GmailMessage.attachmentNodes, hnodes] at hpart
    obtain rfl := List.mem_singleton.mp (List.mem_filter.mp hpart).1
    exact ⟨_, _, rfl, urlCodes_padded⟩
  · rintro ⟨entries, hentries, parts, hparts, hentriesOf⟩
    obtain rfl : [] = entries := Option.some.inj (hdownload.symm.trans hentries)
    cases hentriesOf
    have hroot : singlePartMessage.payload ∈ singlePartMessage.attachmentNodes := by
      rw [GmailMessage.attachmentNodes, hnodes]
      exact List.mem_filter.mpr ⟨List.mem_singleton.mpr rfl, by decide +kernel⟩
    rw [← hparts.nil_eq] at hroot
    cases hroot

end FreightAP
