import FreightAP.Gmail.Poller
import FreightAP.Queue.FlatRuntime

/-!
# Draining the inbox

Polls are repeated until they change neither the mailbox nor Redis.  They come
to that, but an accepted message can be left unread: behind a rejected one,
which ends every poll, or behind 25 unsupported ones, which fill every page.
Those are the only ones that are left (`drains_iff`).
-/

namespace FreightAP

section

variable [QueueRuntime] [PollerRuntime]

/-- Polls one after the other. -/
def polls (clocks : Nat → PollClock) (s : Poller) : Nat → Poller
  | 0 => s
  | n + 1 => (pollInbox (clocks n) (polls clocks s n)).2

/-- A poll changes neither the mailbox nor Redis. -/
def Poller.Settled (clock : PollClock) (s : Poller) : Prop := (pollInbox clock s).2 = s

/-- In `t` every accepted message that is unread in `s` is marked read, and the
stream was given its attachments. -/
def Poller.Drains (s t : Poller) : Prop :=
  ∀ message ∈ s.gmail.messages, "INBOX" ∈ message.labelIds → "UNREAD" ∈ message.labelIds →
    message.Accepted s.gmail.account →
    message.read ∈ t.gmail.messages ∧ t.Delivered s.gmail.account message

/-- Nothing stands in the way of the messages after `before`. -/
structure Gmail.Unobstructed (gmail : Gmail) (before : List GmailMessage) : Prop where
  noneRejected : ∀ message ∈ before, ¬message.Rejected gmail.account
  fewUnsupported : before.countP GmailMessage.unsupported < 25

/-- Nothing stands in the way of an accepted message. -/
def Gmail.Clear (gmail : Gmail) : Prop :=
  ∀ before message after, gmail.unread = before ++ message :: after →
    message.Accepted gmail.account → gmail.Unobstructed before

/-! ## Polls in a row -/

section

variable {clocks : Nat → PollClock} {clock : PollClock} {message : GmailMessage} {s t : Poller}

/-- What polls leave of a mailbox. -/
structure Poller.Progressed (s t : Poller) : Prop where
  account : t.gmail.account = s.gmail.account
  messages : ∀ message ∈ s.gmail.messages,
    message ∈ t.gmail.messages ∨ message.read ∈ t.gmail.messages
  settled : Worklist.settled (messageOutcome s.gmail.account) 25 t.gmail.unread =
    Worklist.settled (messageOutcome s.gmail.account) 25 s.gmail.unread
  delivered : ∀ message ∈ s.gmail.unread, message ∉ t.gmail.unread →
    t.Delivered s.gmail.account message

/-- One more poll. -/
theorem Poller.Progressed.pollInbox (h : s.Progressed t) (clock : PollClock) :
    s.Progressed (pollInbox clock t).2 := by
  have hpoll := pollInbox_polled clock t
  rw [h.account] at hpoll
  refine ⟨?_, ?_, ?_, ?_⟩
  · rw [← h.account, Gmail.account, hpoll.account, Gmail.account]
  · intro message hmessage
    cases h.messages message hmessage with
    | inl hmem => exact hpoll.messages message hmem
    | inr hmem =>
        cases hpoll.messages message.read hmem with
        | inl hmem => exact .inr hmem
        | inr hmem => exact .inr (message.read_read ▸ hmem)
  · rw [unread_pollInbox, h.account, Worklist.settled_round (Nat.le_refl 25), h.settled]
  · intro message hmessage hread
    by_cases hunread : message ∈ t.gmail.unread
    · exact hpoll.delivered message hunread hread
    · exact (h.delivered message hmessage hunread).kept hpoll.kept

theorem polls_progressed (clocks : Nat → PollClock) (s : Poller) (n : Nat) :
    s.Progressed (polls clocks s n) := by
  induction n with
  | zero =>
      exact ⟨rfl, fun _ h => .inl h, rfl, fun _ h hread => absurd h hread⟩
  | succ n ih => exact ih.pollInbox (clocks n)

/-- A message that was unread is marked read when it is no longer unread. -/
theorem Poller.Progressed.read_iff (h : s.Progressed t) (hmessage : message ∈ s.gmail.unread) :
    message.read ∈ t.gmail.messages ↔ message ∉ t.gmail.unread := by
  obtain ⟨hmem, hlisted⟩ := List.mem_filter.mp hmessage
  constructor
  · intro hread hunread
    have hsame : message.read = message :=
      Table.eq_of_key t.gmail.ids_nodup hread (List.mem_filter.mp hunread).1 rfl
    rw [← hsame, message.read_listed] at hlisted
    cases hlisted
  · intro hunread
    cases h.messages message hmem with
    | inl hkept => exact absurd (List.mem_filter.mpr ⟨hkept, hlisted⟩) hunread
    | inr hread => exact hread

/-! ## The polls come to an end -/

theorem unread_polls (clocks : Nat → PollClock) (s : Poller) (n : Nat) :
    (polls clocks s n).gmail.unread =
      (Worklist.round (messageOutcome s.gmail.account) 25)^[n] s.gmail.unread := by
  induction n with
  | zero => rfl
  | succ n ih =>
      rw [polls, unread_pollInbox, (polls_progressed clocks s n).account, ih,
        Function.iterate_succ_apply']

/-- After a poll that reads no message, polls change nothing. -/
theorem pollInbox_settled
    (h : Worklist.round (messageOutcome s.gmail.account) 25 s.gmail.unread = s.gmail.unread)
    (clock clock' : PollClock) : (pollInbox clock s).2.Settled clock' := by
  obtain ⟨hgmail, hagain⟩ := pollMessages_still clock
    (Worklist.sweep_of_round_eq h) 0 s
  have hkept := hagain clock' 0 _ (Poller.Kept.refl _)
  have hsame : (pollInbox clock s).2.gmail = s.gmail := hgmail
  rw [Poller.Settled, pollInbox, hsame]
  exact hkept

theorem exists_settled (clocks : Nat → PollClock) (s : Poller) :
    ∃ n, ∀ clock, (polls clocks s n).Settled clock := by
  obtain ⟨n, hn⟩ :=
    Worklist.exists_round_eq (messageOutcome s.gmail.account) 25 s.gmail.unread
  refine ⟨n + 1, ?_⟩
  intro clock
  apply pollInbox_settled
  rw [(polls_progressed clocks s n).account, unread_polls, hn]

/-! ## What is left -/

/-- Settled polls leave what rounds leave in the end. -/
theorem unread_of_settled (hsettled : t.Settled clock) (h : s.Progressed t) :
    t.gmail.unread = Worklist.settled (messageOutcome s.gmail.account) 25 s.gmail.unread := by
  have hround := unread_pollInbox clock t
  rw [hsettled, h.account] at hround
  rw [← h.settled, Worklist.settled_of_round_eq hround.symm]

/-- An accepted message is read in the end when nothing stands in its way. -/
theorem read_iff_unobstructed (hsettled : t.Settled clock) (h : s.Progressed t)
    {before after : List GmailMessage} (hunread : s.gmail.unread = before ++ message :: after)
    (haccepted : message.Accepted s.gmail.account) :
    message.read ∈ t.gmail.messages ↔ s.gmail.Unobstructed before := by
  have hmem : message ∈ s.gmail.unread := by simp [hunread]
  have hnodup : (before ++ message :: after).Nodup := hunread ▸ s.gmail.unread_nodup.of_map
  have hcount : before.countP (messageOutcome s.gmail.account · = .kept) =
      before.countP GmailMessage.unsupported := by
    simp only [messageOutcome_kept_iff, Bool.decide_eq_true]
  rw [h.read_iff hmem, unread_of_settled hsettled h, hunread,
    Worklist.not_mem_settled_iff hnodup (messageOutcome_taken_iff.mpr haccepted), hcount]
  simp only [ne_eq, messageOutcome_halts_iff]
  constructor
  · rintro ⟨hrejected, hfew⟩
    exact ⟨hrejected, hfew⟩
  · rintro ⟨hrejected, hfew⟩
    exact ⟨hrejected, hfew⟩

end

/-- Repeated polls come to an end, and then they have drained the inbox just
when, before the first poll, every accepted message had no rejected message and
fewer than 25 unsupported ones before it. -/
theorem drains_iff (clocks : Nat → PollClock) (s : Poller) :
    (∃ n, ∀ clock, (polls clocks s n).Settled clock) ∧
      ∀ n, (polls clocks s n).Settled (clocks n) →
        (s.Drains (polls clocks s n) ↔ s.gmail.Clear) := by
  refine ⟨exists_settled clocks s, ?_⟩
  intro n hsettled
  have hprogressed := polls_progressed clocks s n
  constructor
  · intro hdrains before message after hunread haccepted
    have hmem : message ∈ s.gmail.unread := by simp [hunread]
    obtain ⟨hmessage, hlisted⟩ := List.mem_filter.mp hmem
    simp only [GmailMessage.listed, Bool.and_eq_true, decide_eq_true_eq] at hlisted
    obtain ⟨⟨hinbox, hlabel⟩, -⟩ := hlisted
    exact (read_iff_unobstructed hsettled hprogressed hunread haccepted).mp
      (hdrains message hmessage hinbox hlabel haccepted).1
  · intro hclear message hmessage hinbox hlabel haccepted
    have hlisted : message.listed = true := by
      simp [GmailMessage.listed, hinbox, hlabel, hasAttachment_of_accepted haccepted]
    have hmem : message ∈ s.gmail.unread := List.mem_filter.mpr ⟨hmessage, hlisted⟩
    obtain ⟨before, after, hunread⟩ := List.append_of_mem hmem
    have hread := (read_iff_unobstructed hsettled hprogressed hunread haccepted).mpr
      (hclear before message after hunread haccepted)
    exact ⟨hread, hprogressed.delivered message hmem ((hprogressed.read_iff hmem).mp hread)⟩

end

/-! ## A mailbox that is not drained -/

/-- A runtime for ASCII text, with the digests of the two files and of the two
keys below. -/
@[reducible] def mailRuntime : PollerRuntime where
  toPyRuntime := asciiRuntime
  lower s := String.ofList (s.toList.map Char.toLower)
  loads _ := none
  laxFloat _ := none
  laxInt _ := none
  lineItemsText _ := "[]"
  sha256 data :=
    if data = utf8 "gmail:v1\x00ap@example.com\x00m1\x001" then
      "35fe80ec997d1d483ab70ee3b4821e9f576eb669069925cad2a7dca3c48e31dd"
    else if data = utf8 "gmail:v1\x00ap@example.com\x00m2\x001" then
      "43c6a46070afb01173cecb755b909ab11bc4bb863b1d369b4dda2ae386ef222c"
    else if data = utf8 "%PDF-" then
      "38523c087796e5d5dd1cf9bad1fb026781a838dd9dd2cf8af58b9f6502a46778"
    else "e3b0c44298fc1c149afbf4c8996fb92427ae41e4649b934ca495991b7852b855"
  sha256_hex data := by
    split
    · decide
    · split
      · decide
      · split <;> decide

/-- A message with one attachment, of a text in base64. -/
def attachmentMessage (id filename content : String) : GmailMessage where
  id := id
  threadId := "t1"
  labelIds := ["INBOX", "UNREAD"]
  payload := .mk "" "" ⟨none, "", none⟩ [.mk "1" filename ⟨some "a1", "", some content⟩ []]

/-- An empty PDF, and then a PDF of five octets. -/
def blockedInbox : Gmail where
  emailAddress := "ap@example.com"
  messages := [attachmentMessage "m1" "empty.pdf" "", attachmentMessage "m2" "invoice.pdf" "JVBERi0="]
  ids_nodup := by decide

/-- The mailbox, with nothing in Redis. -/
def blockedPoller : @Poller flatRuntime :=
  @Poller.mk flatRuntime blockedInbox Queue.empty.redis fun _ h => absurd rfl h

/-- The message with an attachment of some octets downloads as that attachment. -/
theorem downloadSupportedAttachments_attachmentMessage {id filename content : String}
    {fileBytes : Octets} (hfilename : filename ≠ "") :
    letI := mailRuntime
    supportedAttachment filename = true → decodeGmailAttachment content = some fileBytes →
      downloadSupportedAttachments (attachmentMessage id filename content) =
        some [⟨id, some "1", filename, b64encode fileBytes, "t1"⟩] := by
  intro hsupported hcontent
  simp [downloadSupportedAttachments, attachmentMessage, MessagePart.parts, iterAttachmentParts,
    attachmentParts, hfilename, hsupported, downloadPart, partOctets, MessagePart.body, hcontent,
    partPayload, MessagePart.partId, MessagePart.filename]

/-- That attachment is accepted by its size alone. -/
theorem attachmentMessage_accepted_iff {id filename : String} {fileBytes : Octets}
    (hfilename : filename ≠ "") (hid : id ≠ "") :
    letI := mailRuntime
    supportedAttachment filename = true →
      (attachmentAccepted "ap@example.com" ⟨id, some "1", filename, b64encode fileBytes, "t1"⟩ =
        true ↔ 1 ≤ fileBytes.length ∧ fileBytes.length ≤ 26250000) := by
  intro hsupported
  have h := @partPayload_accepted_iff mailRuntime "ap@example.com"
    (attachmentMessage id filename "") (.mk "1" filename ⟨some "a1", "", some ""⟩ []) fileBytes
    hsupported hfilename
  simpa [attachmentMessage, partPayload, MessagePart.partId, MessagePart.filename, hid] using h

/-- The empty attachment ends every poll, so the message after it is never
read. -/
theorem blockedPoller_undrained (clocks : Nat → PollClock) :
    letI := mailRuntime
    letI := flatRuntime
    (∃ n, (polls clocks blockedPoller n).Settled (clocks n)) ∧
      ∀ n, (polls clocks blockedPoller n).Settled (clocks n) →
        ¬blockedPoller.Drains (polls clocks blockedPoller n) := by
  let _ := mailRuntime
  let _ := flatRuntime
  have hsupportedEmpty : supportedAttachment "empty.pdf" = true := by decide +kernel
  have hsupportedPdf : supportedAttachment "invoice.pdf" = true := by decide +kernel
  have hoctetsEmpty : decodeGmailAttachment "" = some [] := rfl
  have hoctetsPdf : decodeGmailAttachment "JVBERi0=" = some [37, 80, 68, 70, 45] := by decide +kernel
  have hempty := @downloadSupportedAttachments_attachmentMessage "m1" _ _ _ (by decide)
    hsupportedEmpty hoctetsEmpty
  have hpdf := @downloadSupportedAttachments_attachmentMessage "m2" _ _ _ (by decide)
    hsupportedPdf hoctetsPdf
  have haccount : blockedInbox.account = "ap@example.com" := by decide +kernel
  have hrejected : (attachmentMessage "m1" "empty.pdf" "").Rejected blockedInbox.account := by
    intro attachments hdownload
    cases hempty.symm.trans hdownload
    refine ⟨_, List.mem_singleton.mpr rfl, ?_⟩
    rw [haccount, Bool.eq_false_iff, ne_eq,
      attachmentMessage_accepted_iff (by decide) (by decide) hsupportedEmpty]
    simp
  have haccepted : (attachmentMessage "m2" "invoice.pdf" "JVBERi0=").Accepted blockedInbox.account := by
    refine ⟨_, hpdf, by simp, ?_⟩
    intro payload hpayload
    rw [List.mem_singleton.mp hpayload, haccount,
      attachmentMessage_accepted_iff (by decide) (by decide) hsupportedPdf]
    simp
  have hunread : blockedPoller.gmail.unread = [attachmentMessage "m1" "empty.pdf" ""] ++
      attachmentMessage "m2" "invoice.pdf" "JVBERi0=" :: [] := rfl
  obtain ⟨n, hn⟩ := exists_settled clocks blockedPoller
  refine ⟨⟨n, hn _⟩, ?_⟩
  intro n hsettled hdrains
  have hmem : attachmentMessage "m2" "invoice.pdf" "JVBERi0=" ∈ blockedInbox.messages := by
    simp [blockedInbox]
  have hread := (hdrains _ hmem (by decide) (by decide) haccepted).1
  have hfree := (read_iff_unobstructed hsettled (polls_progressed clocks blockedPoller n) hunread
    haccepted).mp hread
  exact hfree.noneRejected _ (List.mem_singleton.mpr rfl) hrejected

/-- A clock that stands still. -/
def stillClock : PollClock where
  now _ := 0
  enqueuedAt _ := 0

theorem emptyAttachment_blocksInbox :
    letI := mailRuntime
    letI := flatRuntime
    (∃ n, (polls (fun _ => stillClock) blockedPoller n).Settled stillClock) ∧
      ∀ n, (polls (fun _ => stillClock) blockedPoller n).Settled stillClock →
        ¬blockedPoller.Drains (polls (fun _ => stillClock) blockedPoller n) :=
  blockedPoller_undrained fun _ => stillClock

end FreightAP
