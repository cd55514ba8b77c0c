import FreightAP.Gmail.Attachments
import FreightAP.Lib.Worklist
import FreightAP.Queue.Effects

/-!
# The Gmail poller

`poll_inbox` on a mailbox and on Redis, both of them healthy.  The mailbox is
in the order of the list that Gmail answers, and no message comes in between
two polls.

A poll works off the unread messages as a round works off a work list
(`unread_pollInbox`): an accepted message is read, an unsupported one is kept,
and a rejected one ends the poll.
-/

namespace FreightAP

/-! ## The mailbox -/

/-- A mailbox: its address, and its messages with distinct ids. -/
structure Gmail where
  emailAddress : String
  messages : List GmailMessage
  ids_nodup : (messages.map GmailMessage.id).Nodup

namespace GmailMessage

/-- Whether a message matches `in:inbox is:unread has:attachment`. -/
def listed (message : GmailMessage) : Bool :=
  "INBOX" ∈ message.labelIds && "UNREAD" ∈ message.labelIds && message.payload.hasAttachment

/-- `messages().modify` of one message. -/
def read (message : GmailMessage) : GmailMessage :=
  { message with labelIds := message.labelIds.filter (· ≠ "UNREAD") }

theorem read_listed (message : GmailMessage) : message.read.listed = false := by
  simp [listed, read]

theorem read_read (message : GmailMessage) : message.read.read = message.read := by
  simp [read]

end GmailMessage

namespace Gmail

/-- The messages that the query matches. -/
def unread (gmail : Gmail) : List GmailMessage := gmail.messages.filter GmailMessage.listed

/-- `_list_unread_messages`. -/
def listUnreadMessages (gmail : Gmail) : List GmailMessage := gmail.unread.take 25

/-- A message after `_mark_message_read` of an id. -/
def readIf (messageId : String) (message : GmailMessage) : GmailMessage :=
  if message.id = messageId then message.read else message

theorem readIf_id (messageId : String) (message : GmailMessage) :
    (readIf messageId message).id = message.id := by
  unfold readIf
  split <;> rfl

/-- `_mark_message_read`. -/
def markMessageRead (gmail : Gmail) (messageId : String) : Gmail where
  emailAddress := gmail.emailAddress
  messages := gmail.messages.map (readIf messageId)
  ids_nodup := by
    rw [List.map_map]
    simpa [Function.comp_def, readIf_id] using gmail.ids_nodup

/-- A message stays as it is, or is read. -/
theorem mem_markMessageRead {gmail : Gmail} {message : GmailMessage}
    (h : message ∈ gmail.messages) (messageId : String) :
    message ∈ (gmail.markMessageRead messageId).messages ∨
      message.read ∈ (gmail.markMessageRead messageId).messages := by
  have hmem : readIf messageId message ∈ (gmail.markMessageRead messageId).messages :=
    List.mem_map_of_mem h
  unfold readIf at hmem
  split at hmem
  · exact .inr hmem
  · exact .inl hmem

/-- The unread messages without the one that is read. -/
theorem unread_markMessageRead (gmail : Gmail) (messageId : String) :
    (gmail.markMessageRead messageId).unread = gmail.unread.filter (·.id ≠ messageId) := by
  simp only [unread, markMessageRead]
  induction gmail.messages with
  | nil => rfl
  | cons message messages ih =>
      by_cases hid : message.id = messageId
      · cases h : message.listed <;>
          simp [readIf, hid, h, GmailMessage.read_listed, ih]
      · cases h : message.listed <;> simp [readIf, hid, h, ih]

theorem unread_nodup (gmail : Gmail) : (gmail.unread.map GmailMessage.id).Nodup :=
  gmail.ids_nodup.sublist (List.filter_sublist.map _)

/-- A message read takes its place off the unread ones. -/
theorem unread_markMessageRead_append {gmail : Gmail} {before after : List GmailMessage}
    {message : GmailMessage} (h : gmail.unread = before ++ message :: after) :
    (gmail.markMessageRead message.id).unread = before ++ after := by
  have hnodup := h ▸ gmail.unread_nodup
  rw [List.map_append, List.map_cons, List.nodup_append, List.nodup_cons] at hnodup
  obtain ⟨-, ⟨hafter, -⟩, hbefore⟩ := hnodup
  have hkeep : ∀ xs : List GmailMessage, message.id ∉ xs.map GmailMessage.id →
      xs.filter (·.id ≠ message.id) = xs := by
    intro xs hxs
    rw [List.filter_eq_self]
    intro x hx
    simp only [ne_eq, decide_not, Bool.not_eq_eq_eq_not, Bool.not_true, decide_eq_false_iff_not]
    exact fun he => hxs (he ▸ List.mem_map_of_mem hx)
  have hfront : message.id ∉ before.map GmailMessage.id := fun hmem =>
    hbefore _ hmem _ (List.mem_cons_self ..) rfl
  rw [unread_markMessageRead, h, List.filter_append, List.filter_cons_of_neg (by simp),
    hkeep before hfront, hkeep after hafter]

end Gmail

/-! ## Redis -/

section

variable [QueueRuntime]

open QueueRuntime

/-- The stream was given a job of a key. -/
def Redis.Enqueued (redis : Redis) (idempotencyKey : String) : Prop :=
  ∃ streamId job, (streamId, [("payload", modelDumpJson job)]) ∈ redis.live.log ∧
    job.idempotencyKey = idempotencyKey

/-- The job of every dedupe key was given to the stream. -/
def Redis.Deduplicated (redis : Redis) : Prop :=
  ∀ idempotencyKey, redis.dedupe idempotencyKey ≠ none → redis.Enqueued idempotencyKey

/-- `enqueue_job` with a key that has its entry. -/
theorem Redis.enqueueJob_of_dedupe {redis : Redis} {job : InvoiceJobEnvelope} (now : Nat)
    (h : redis.dedupe job.idempotencyKey ≠ none) : (redis.enqueueJob job now).2 = redis := by
  obtain ⟨streamId, hid⟩ := Option.ne_none_iff_exists'.mp h
  simp [enqueueJob, hid]

/-- `enqueue_job` with a new key. -/
theorem Redis.enqueueJob_of_new {redis : Redis} {job : InvoiceJobEnvelope} {now : Nat}
    (h : redis.dedupe job.idempotencyKey = none) :
    (redis.enqueueJob job now).2 =
      { redis with
        live := (redis.live.add now [("payload", modelDumpJson job)]).2
        dedupe := Function.update redis.dedupe job.idempotencyKey
          (some (redis.live.add now [("payload", modelDumpJson job)]).1) } := by
  simp [enqueueJob, h]

theorem Redis.enqueueJob_dedupe (redis : Redis) (job : InvoiceJobEnvelope) (now : Nat) :
    (redis.enqueueJob job now).2.dedupe job.idempotencyKey ≠ none := by
  cases h : redis.dedupe job.idempotencyKey with
  | none => simp [enqueueJob_of_new h]
  | some streamId => simp [enqueueJob, h]

theorem Redis.enqueueJob_keeps {redis : Redis} {job : InvoiceJobEnvelope} {now : Nat}
    {idempotencyKey : String} (h : redis.dedupe idempotencyKey ≠ none) :
    (redis.enqueueJob job now).2.dedupe idempotencyKey ≠ none := by
  cases hnew : redis.dedupe job.idempotencyKey with
  | none =>
      have hne : idempotencyKey ≠ job.idempotencyKey := by
        rintro rfl
        exact h hnew
      simpa [enqueueJob_of_new hnew, hne] using h
  | some streamId => simpa [enqueueJob, hnew] using h

/-- A job enqueued is in the stream, and so is all that was there. -/
theorem Redis.Enqueued.enqueueJob {redis : Redis} {job : InvoiceJobEnvelope} {now : Nat}
    {idempotencyKey : String} (h : redis.Enqueued idempotencyKey) :
    (redis.enqueueJob job now).2.Enqueued idempotencyKey := by
  obtain ⟨streamId, job', hmem, hkey⟩ := h
  cases hnew : redis.dedupe job.idempotencyKey with
  | none =>
      refine ⟨streamId, job', ?_, hkey⟩
      simp [enqueueJob_of_new hnew, EntryStream.add, hmem]
  | some existing => exact ⟨streamId, job', by simpa [Redis.enqueueJob, hnew] using hmem, hkey⟩

theorem Redis.Deduplicated.enqueueJob {redis : Redis} (h : redis.Deduplicated)
    (job : InvoiceJobEnvelope) (now : Nat) : (redis.enqueueJob job now).2.Deduplicated := by
  intro idempotencyKey hkey
  cases hnew : redis.dedupe job.idempotencyKey with
  | some existing =>
      rw [enqueueJob_of_dedupe now (by simp [hnew])] at hkey ⊢
      exact h idempotencyKey hkey
  | none =>
      by_cases hne : idempotencyKey = job.idempotencyKey
      · subst hne
        refine ⟨(redis.live.add now [("payload", modelDumpJson job)]).1, job, ?_, rfl⟩
        simp [enqueueJob_of_new hnew, EntryStream.add]
      · have hold : redis.dedupe idempotencyKey ≠ none := by
          simpa [enqueueJob_of_new hnew, hne] using hkey
        exact (h idempotencyKey hold).enqueueJob

/-- A change that keeps the stream, and brings no dedupe key. -/
theorem Redis.Deduplicated.of_log {redis redis' : Redis} (h : redis.Deduplicated)
    (hlog : ∀ x ∈ redis.live.log, x ∈ redis'.live.log)
    (hdedupe : ∀ key, redis'.dedupe key ≠ none → redis.dedupe key ≠ none) :
    redis'.Deduplicated := by
  intro key hkey
  obtain ⟨streamId, job, hmem, hjob⟩ := h key (hdedupe key hkey)
  exact ⟨streamId, job, hlog _ hmem, hjob⟩

theorem Queue.Effect.deduplicated {q : Queue} {r : Redis} (he : q.Effect r)
    (hlog : ∀ x ∈ q.redis.live.log, x ∈ r.live.log) (h : q.redis.Deduplicated) :
    r.Deduplicated := by
  cases he with
  | quiet _ _ _ hdedupe => exact h.of_log hlog fun key hkey => hdedupe ▸ hkey
  | enqueued => exact h.enqueueJob _ _
  | published => exact h.of_log hlog fun _ hkey => hkey
  | @expired expired =>
      apply h.of_log hlog
      intro key hkey
      have hne : key ≠ expired := by
        rintro rfl
        simp at hkey
      simpa [hne] using hkey
  | touched _ _ _ _ _ _ _ _ _ hdedupe => exact h.of_log hlog fun key hkey => hdedupe ▸ hkey
  | removed _ _ _ _ _ _ _ _ _ _ hdedupe => exact h.of_log hlog fun key hkey => hdedupe ▸ hkey
  | replayed => exact h.of_log hlog fun _ hkey => hkey
  | @purged cutoff limit =>
      obtain ⟨-, -, hdedupe⟩ := Redis.purgeBatch_live (r := q.redis) cutoff limit
      exact h.of_log hlog fun key hkey => hdedupe ▸ hkey

/-- So it is in every state of the queue, whatever its parties do. -/
theorem Queue.run_deduplicated {q q' : Queue} {actions : List QueueAction} (hstart : q.Start)
    (h : Transition.Run Queue.Stepped q actions q') : q'.redis.Deduplicated := by
  have hkeep : q'.redis.live.Valid ∧ q'.redis.dlq.Valid ∧ q'.redis.Deduplicated := by
    apply h.preserves (fun q => q.redis.live.Valid ∧ q.redis.dlq.Valid ∧ q.redis.Deduplicated)
    · refine ⟨hstart.live ▸ EntryStream.valid_empty, hstart.dlq, ?_⟩
      intro key hkey
      exact absurd (hstart.dedupe key) hkey
    · rintro q action q' ⟨hlive, hdlq, hdedupe⟩ hs
      obtain ⟨hlive', hdlq', hlog⟩ := hs.effect.streams hlive hdlq
      exact ⟨hlive', hdlq', hs.effect.deduplicated hlog hdedupe⟩
  exact hkeep.2.2

end

/-! ## A poll -/

/-- The mailbox and Redis. -/
structure Poller [QueueRuntime] where
  gmail : Gmail
  redis : Redis
  deduplicated : redis.Deduplicated

/-- The clock of Redis and the poller's own when a poll enqueues a key. -/
structure PollClock where
  now : String → Nat
  enqueuedAt : String → Int

section

variable [QueueRuntime]

/-- `enqueue_job`. -/
def Poller.enqueue (s : Poller) (clock : PollClock) (job : InvoiceJobEnvelope) : Poller where
  gmail := s.gmail
  redis := (s.redis.enqueueJob job (clock.now job.idempotencyKey)).2
  deduplicated := s.deduplicated.enqueueJob job _

/-- `_mark_message_read`. -/
def Poller.markMessageRead (s : Poller) (messageId : String) : Poller where
  gmail := s.gmail.markMessageRead messageId
  redis := s.redis
  deduplicated := s.deduplicated

variable [PollerRuntime]

open ExtractionRuntime

/-- `_gmail_account`. -/
def Gmail.account (gmail : Gmail) : String := lower (strip gmail.emailAddress)

/-- The key of an attachment. -/
def AttachmentPayload.idempotencyKey (gmailAccount : String) (payload : AttachmentPayload) :
    String :=
  attachmentIdempotencyKey gmailAccount payload.messageId payload.mimePartId

/-- The loop of `poll_inbox` over the attachments of a message. -/
def enqueueAttachments (gmailAccount : String) (clock : PollClock) :
    List AttachmentPayload → Poller → Except PollError Unit × Poller
  | [], s => (.ok (), s)
  | payload :: payloads, s =>
      match attachmentJob gmailAccount payload
          (clock.enqueuedAt (payload.idempotencyKey gmailAccount)) with
      | .error error => (.error error, s)
      | .ok job => enqueueAttachments gmailAccount clock payloads (s.enqueue clock job)

/-- The loop of `poll_inbox` over the messages, with the count of those that it
has processed. -/
def pollMessages (gmailAccount : String) (clock : PollClock) :
    List GmailMessage → Nat → Poller → Except PollError Nat × Poller
  | [], processed, s => (.ok processed, s)
  | message :: messages, processed, s =>
      match downloadSupportedAttachments message with
      | none => (.error .download, s)
      | some [] => pollMessages gmailAccount clock messages processed s
      | some attachments =>
          match enqueueAttachments gmailAccount clock attachments s with
          | (.error error, s) => (.error error, s)
          | (.ok (), s) =>
              pollMessages gmailAccount clock messages (processed + 1)
                (s.markMessageRead message.id)

/-- `poll_inbox`. -/
def pollInbox (clock : PollClock) (s : Poller) : Except PollError Nat × Poller :=
  pollMessages s.gmail.account clock s.gmail.listUnreadMessages 0 s

/-- What a poll does with a message. -/
def messageOutcome (gmailAccount : String) (message : GmailMessage) : Worklist.Outcome :=
  match downloadSupportedAttachments message with
  | none => .halts
  | some [] => .kept
  | some attachments =>
      if attachments.all (attachmentAccepted gmailAccount) then .taken else .halts

/-! ## The attachments of a message -/

section

variable {gmailAccount : String} {clock : PollClock} {payload : AttachmentPayload}
  {payloads : List AttachmentPayload} {s : Poller}

/-- An attachment that is not accepted ends the poll. -/
theorem enqueueAttachments_rejected (clock : PollClock) (payloads : List AttachmentPayload)
    (s : Poller) (h : attachmentAccepted gmailAccount payload = false) :
    ∃ error, enqueueAttachments gmailAccount clock (payload :: payloads) s = (.error error, s) := by
  unfold enqueueAttachments
  cases hjob : attachmentJob gmailAccount payload
      (clock.enqueuedAt (payload.idempotencyKey gmailAccount)) with
  | error error => exact ⟨error, rfl⟩
  | ok job =>
      rw [(attachmentAccepted_iff _).mpr ⟨job, hjob⟩] at h
      cases h

/-- An accepted attachment is enqueued under its key. -/
theorem enqueueAttachments_accepted (clock : PollClock)
    (h : attachmentAccepted gmailAccount payload = true) :
    ∃ job, job.idempotencyKey = payload.idempotencyKey gmailAccount ∧
      ∀ payloads s, enqueueAttachments gmailAccount clock (payload :: payloads) s =
        enqueueAttachments gmailAccount clock payloads (s.enqueue clock job) := by
  obtain ⟨job, hjob⟩ := (attachmentAccepted_iff
    (clock.enqueuedAt (payload.idempotencyKey gmailAccount))).mp h
  refine ⟨job, attachmentJob_key hjob, ?_⟩
  intro payloads s
  rw [enqueueAttachments, hjob]

/-- The dedupe keys and the jobs of the stream are kept. -/
structure Poller.Kept (s t : Poller) : Prop where
  dedupe : ∀ key, s.redis.dedupe key ≠ none → t.redis.dedupe key ≠ none
  enqueued : ∀ key, s.redis.Enqueued key → t.redis.Enqueued key

omit [PollerRuntime] in
theorem Poller.Kept.refl (s : Poller) : s.Kept s := ⟨fun _ h => h, fun _ h => h⟩

omit [PollerRuntime] in
theorem Poller.Kept.trans {s t u : Poller} (h : s.Kept t) (h' : t.Kept u) : s.Kept u :=
  ⟨fun key hk => h'.dedupe key (h.dedupe key hk), fun key hk => h'.enqueued key (h.enqueued key hk)⟩

omit [PollerRuntime] in
theorem Poller.kept_enqueue (s : Poller) (job : InvoiceJobEnvelope) : s.Kept (s.enqueue clock job) :=
  ⟨fun _ h => Redis.enqueueJob_keeps h, fun _ h => h.enqueueJob⟩

theorem enqueueAttachments_kept (payloads : List AttachmentPayload) (s : Poller) :
    s.Kept (enqueueAttachments gmailAccount clock payloads s).2 := by
  induction payloads generalizing s with
  | nil => exact .refl s
  | cons payload payloads ih =>
      cases h : attachmentAccepted gmailAccount payload with
      | false =>
          obtain ⟨error, he⟩ := enqueueAttachments_rejected clock payloads s h
          rw [he]
          exact .refl s
      | true =>
          obtain ⟨job, -, he⟩ := enqueueAttachments_accepted clock h
          rw [he]
          exact (s.kept_enqueue job).trans (ih _)

theorem enqueueAttachments_gmail (payloads : List AttachmentPayload) (s : Poller) :
    (enqueueAttachments gmailAccount clock payloads s).2.gmail = s.gmail := by
  induction payloads generalizing s with
  | nil => rfl
  | cons payload payloads ih =>
      cases h : attachmentAccepted gmailAccount payload with
      | false =>
          obtain ⟨error, he⟩ := enqueueAttachments_rejected clock payloads s h
          rw [he]
      | true =>
          obtain ⟨job, -, he⟩ := enqueueAttachments_accepted clock h
          rw [he]
          exact ih _

/-- The loop comes to its end when every attachment is accepted, and then each
of them has its dedupe key. -/
theorem enqueueAttachments_ok (clock : PollClock) (payloads : List AttachmentPayload) (s : Poller)
    (h : ∀ payload ∈ payloads, attachmentAccepted gmailAccount payload = true) :
    (enqueueAttachments gmailAccount clock payloads s).1 = .ok () ∧
      ∀ payload ∈ payloads, (enqueueAttachments gmailAccount clock payloads s).2.redis.dedupe
        (payload.idempotencyKey gmailAccount) ≠ none := by
  induction payloads generalizing s with
  | nil => exact ⟨rfl, fun _ hp => by cases hp⟩
  | cons payload payloads ih =>
      obtain ⟨job, hkey, he⟩ := enqueueAttachments_accepted clock
        (h payload (List.mem_cons_self ..))
      obtain ⟨hok, hdedupe⟩ := ih (s.enqueue clock job)
        fun payload hp => h payload (List.mem_cons_of_mem _ hp)
      rw [he]
      refine ⟨hok, ?_⟩
      intro payload' hp
      cases List.mem_cons.mp hp with
      | inl heq =>
          rw [heq, ← hkey]
          exact (enqueueAttachments_kept payloads _).dedupe _ (s.redis.enqueueJob_dedupe job _)
      | inr hp => exact hdedupe payload' hp

/-- The loop raises when an attachment is not accepted. -/
theorem enqueueAttachments_error (clock : PollClock) {payloads : List AttachmentPayload} (s : Poller)
    (h : ∃ payload ∈ payloads, attachmentAccepted gmailAccount payload = false) :
    ∃ error, (enqueueAttachments gmailAccount clock payloads s).1 = .error error := by
  induction payloads generalizing s with
  | nil =>
      obtain ⟨payload, hp, -⟩ := h
      cases hp
  | cons payload payloads ih =>
      cases hfirst : attachmentAccepted gmailAccount payload with
      | false =>
          obtain ⟨error, he⟩ := enqueueAttachments_rejected clock payloads s hfirst
          exact ⟨error, by rw [he]⟩
      | true =>
          obtain ⟨job, -, he⟩ := enqueueAttachments_accepted clock hfirst
          rw [he]
          obtain ⟨payload', hp, hrejected⟩ := h
          cases List.mem_cons.mp hp with
          | inl heq =>
              rw [heq, hfirst] at hrejected
              cases hrejected
          | inr hp => exact ih _ ⟨payload', hp, hrejected⟩

omit [PollerRuntime] in
/-- A job is enqueued once. -/
theorem Poller.enqueue_of_dedupe {job : InvoiceJobEnvelope}
    (h : s.redis.dedupe job.idempotencyKey ≠ none) : s.enqueue clock job = s := by
  have hredis := Redis.enqueueJob_of_dedupe (clock.now job.idempotencyKey) h
  cases s
  simp only [Poller.enqueue, hredis]

/-- A loop over the same attachments again changes nothing. -/
theorem enqueueAttachments_again (clock' : PollClock) (payloads : List AttachmentPayload)
    {s t : Poller} (h : (enqueueAttachments gmailAccount clock payloads s).2.Kept t) :
    (enqueueAttachments gmailAccount clock' payloads t).2 = t := by
  induction payloads generalizing s with
  | nil => rfl
  | cons payload payloads ih =>
      cases hfirst : attachmentAccepted gmailAccount payload with
      | false =>
          obtain ⟨error, he⟩ := enqueueAttachments_rejected clock' payloads t hfirst
          rw [he]
      | true =>
          obtain ⟨job, hkey, he⟩ := enqueueAttachments_accepted clock hfirst
          obtain ⟨job', hkey', he'⟩ := enqueueAttachments_accepted clock' hfirst
          rw [he] at h
          have hdedupe : t.redis.dedupe job'.idempotencyKey ≠ none := by
            rw [hkey', ← hkey]
            exact h.dedupe _ ((enqueueAttachments_kept payloads _).dedupe _
              (s.redis.enqueueJob_dedupe job _))
          rw [he', Poller.enqueue_of_dedupe hdedupe]
          exact ih h

end

/-! ## The messages of a page -/

section

variable {gmailAccount : String} {clock : PollClock} {message : GmailMessage}
  {messages : List GmailMessage} {processed : Nat} {s : Poller}

omit [QueueRuntime]

theorem messageOutcome_taken_iff :
    messageOutcome gmailAccount message = .taken ↔ message.Accepted gmailAccount := by
  unfold messageOutcome GmailMessage.Accepted
  split
  next h => simp [h]
  next h => simp [h]
  next attachments hne h =>
    simp only [h, Option.some.injEq, exists_eq_left']
    split
    next hall => simpa using ⟨hne, by simpa using hall⟩
    next hall => simpa using fun _ => by simpa using hall

theorem messageOutcome_kept_iff :
    messageOutcome gmailAccount message = .kept ↔ message.unsupported = true := by
  rw [unsupported_iff]
  unfold messageOutcome
  split
  next h => simp [h]
  next h => simp [h]
  next attachments hne h =>
    rw [h, Option.some.injEq]
    split <;> simpa using hne

theorem messageOutcome_halts_iff :
    messageOutcome gmailAccount message = .halts ↔ message.Rejected gmailAccount := by
  unfold messageOutcome GmailMessage.Rejected
  split
  next h => simp [h]
  next h => simp [h]
  next attachments hne h =>
    simp only [h, Option.some.injEq, forall_eq']
    split
    next hall => simpa using hall
    next hall => simpa using hall

end

/-! ## One poll -/

section

variable {gmailAccount : String} {clock : PollClock} {message : GmailMessage}
  {messages : List GmailMessage} {s t u : Poller}

/-- Every attachment of a message was given to the stream. -/
def Poller.Delivered (gmailAccount : String) (s : Poller) (message : GmailMessage) : Prop :=
  ∀ attachments, downloadSupportedAttachments message = some attachments →
    ∀ payload ∈ attachments, s.redis.Enqueued (payload.idempotencyKey gmailAccount)

theorem pollMessages_unsupported (h : message.unsupported = true) (processed : Nat) (s : Poller) :
    pollMessages gmailAccount clock (message :: messages) processed s =
      pollMessages gmailAccount clock messages processed s := by
  rw [pollMessages, unsupported_iff.mp h]

/-- The turn of an accepted message: its attachments are enqueued, and then it
is read. -/
theorem pollMessages_accepted (clock : PollClock) (h : message.Accepted gmailAccount) (s : Poller) :
    ∃ t : Poller, s.Kept t ∧ t.gmail = s.gmail ∧ t.Delivered gmailAccount message ∧
      ∀ messages processed, pollMessages gmailAccount clock (message :: messages) processed s =
        pollMessages gmailAccount clock messages (processed + 1)
          (t.markMessageRead message.id) := by
  obtain ⟨attachments, hdownload, hne, haccepted⟩ := h
  obtain ⟨hok, hdedupe⟩ := enqueueAttachments_ok clock attachments s haccepted
  refine ⟨(enqueueAttachments gmailAccount clock attachments s).2,
    enqueueAttachments_kept attachments s, enqueueAttachments_gmail attachments s, ?_, ?_⟩
  · intro attachments' hdownload' payload hpayload
    cases hdownload.symm.trans hdownload'
    exact Poller.deduplicated _ _ (hdedupe payload hpayload)
  · intro messages processed
    have hloop : enqueueAttachments gmailAccount clock attachments s =
        (.ok (), (enqueueAttachments gmailAccount clock attachments s).2) := by rw [← hok]
    cases attachments with
    | nil => exact absurd rfl hne
    | cons payload payloads =>
        simp only [pollMessages, hdownload]
        rw [hloop]

/-- The turn of a rejected message: the poll ends, with the mailbox as it was,
and a poll that comes to the message again changes nothing. -/
theorem pollMessages_rejected (clock : PollClock) (h : message.Rejected gmailAccount)
    (messages : List GmailMessage) (processed : Nat) (s : Poller) :
    ∃ t error, s.Kept t ∧ t.gmail = s.gmail ∧
      pollMessages gmailAccount clock (message :: messages) processed s = (.error error, t) ∧
      ∀ clock' processed' u, t.Kept u →
        (pollMessages gmailAccount clock' (message :: messages) processed' u).2 = u := by
  cases hdownload : downloadSupportedAttachments message with
  | none =>
      exact ⟨s, .download, .refl s, rfl, by rw [pollMessages, hdownload],
        fun clock' processed' u _ => by rw [pollMessages, hdownload]⟩
  | some attachments =>
      have hrejected := h attachments hdownload
      have hends : ∀ clock' processed' u, ∃ error,
          pollMessages gmailAccount clock' (message :: messages) processed' u =
            (.error error, (enqueueAttachments gmailAccount clock' attachments u).2) := by
        intro clock' processed' u
        obtain ⟨error, he⟩ := enqueueAttachments_error clock' u hrejected
        have hloop : enqueueAttachments gmailAccount clock' attachments u =
            (.error error, (enqueueAttachments gmailAccount clock' attachments u).2) := by rw [← he]
        cases attachments with
        | nil =>
            obtain ⟨payload, hp, -⟩ := hrejected
            cases hp
        | cons payload payloads =>
            refine ⟨error, ?_⟩
            simp only [pollMessages, hdownload]
            rw [hloop]
      obtain ⟨error, hpoll⟩ := hends clock processed s
      refine ⟨_, error, enqueueAttachments_kept attachments s,
        enqueueAttachments_gmail attachments s, hpoll, ?_⟩
      intro clock' processed' u hkept
      obtain ⟨error', hpoll'⟩ := hends clock' processed' u
      rw [hpoll']
      exact enqueueAttachments_again clock' attachments hkept

/-- What polling a page does.  The unread messages are `before`, the page and
`after`. -/
structure Poller.Polled (gmailAccount : String) (before page after : List GmailMessage)
    (s t : Poller) : Prop where
  kept : s.Kept t
  account : t.gmail.emailAddress = s.gmail.emailAddress
  messages : ∀ message ∈ s.gmail.messages,
    message ∈ t.gmail.messages ∨ message.read ∈ t.gmail.messages
  unread : t.gmail.unread =
    before ++ (Worklist.sweep (messageOutcome gmailAccount) page ++ after)
  delivered : ∀ message ∈ s.gmail.unread, message ∉ t.gmail.unread →
    t.Delivered gmailAccount message

omit [PollerRuntime] in
theorem Poller.Delivered.kept [PollerRuntime] (h : s.Delivered gmailAccount message)
    (hkept : s.Kept t) : t.Delivered gmailAccount message :=
  fun attachments hdownload payload hp => hkept.enqueued _ (h attachments hdownload payload hp)

/-- A page is polled message by message. -/
theorem pollMessages_polled (page before after : List GmailMessage) (processed : Nat)
    (s : Poller) (hunread : s.gmail.unread = before ++ (page ++ after)) :
    Poller.Polled gmailAccount before page after s
      (pollMessages gmailAccount clock page processed s).2 := by
  induction page generalizing before processed s with
  | nil =>
      exact ⟨.refl s, rfl, fun _ h => .inl h, hunread, fun _ h hnot => absurd h hnot⟩
  | cons message page ih =>
      cases houtcome : messageOutcome gmailAccount message with
      | taken =>
          obtain ⟨t, hkept, hgmail, hdelivered, hpoll⟩ :=
            pollMessages_accepted clock (messageOutcome_taken_iff.mp houtcome) s
          have hread : (t.markMessageRead message.id).gmail.unread = before ++ (page ++ after) :=
            Gmail.unread_markMessageRead_append (hgmail ▸ hunread)
          have hrest := ih before (processed + 1) _ hread
          rw [hpoll]
          refine ⟨hkept.trans ⟨hrest.kept.dedupe, hrest.kept.enqueued⟩,
            hrest.account.trans (congrArg (·.emailAddress) hgmail), ?_, ?_, ?_⟩
          · intro m hm
            cases Gmail.mem_markMessageRead (hgmail ▸ hm) message.id with
            | inl h => exact hrest.messages m h
            | inr h =>
                cases hrest.messages m.read h with
                | inl h => exact .inr h
                | inr h => exact .inr (m.read_read ▸ h)
          · rw [hrest.unread]
            simp [Worklist.sweep, houtcome]
          · intro m hm hnot
            by_cases hsame : m = message
            · subst hsame
              exact hdelivered.kept ⟨hrest.kept.dedupe, hrest.kept.enqueued⟩
            · apply hrest.delivered m _ hnot
              rw [hread]
              simpa [hunread, hsame] using hm
      | kept =>
          rw [pollMessages_unsupported (messageOutcome_kept_iff.mp houtcome)]
          have hrest := ih (before ++ [message]) processed s (by simpa using hunread)
          exact ⟨hrest.kept, hrest.account, hrest.messages,
            by simpa [Worklist.sweep, houtcome] using hrest.unread, hrest.delivered⟩
      | halts =>
          obtain ⟨t, error, hkept, hgmail, hpoll, -⟩ := pollMessages_rejected clock
            (messageOutcome_halts_iff.mp houtcome) page processed s
          rw [hpoll]
          refine ⟨hkept, by rw [hgmail], fun _ h => .inl (hgmail ▸ h), ?_, ?_⟩
          · rw [hgmail, hunread]
            simp [Worklist.sweep, houtcome]
          · intro m hm hnot
            exact absurd (hgmail ▸ hm) hnot

/-- A page without a message to read leaves the mailbox alone, and polled again
it changes nothing at all. -/
theorem pollMessages_still (clock : PollClock) {page : List GmailMessage}
    (h : Worklist.sweep (messageOutcome gmailAccount) page = page) (processed : Nat)
    (s : Poller) : (pollMessages gmailAccount clock page processed s).2.gmail = s.gmail ∧
      ∀ clock' processed' u, (pollMessages gmailAccount clock page processed s).2.Kept u →
        (pollMessages gmailAccount clock' page processed' u).2 = u := by
  induction page with
  | nil => exact ⟨rfl, fun _ _ _ _ => rfl⟩
  | cons message page ih =>
      cases Worklist.outcome_of_sweep_eq h with
      | inl hkept =>
          have hunsupported := messageOutcome_kept_iff.mp hkept.1
          simp only [pollMessages_unsupported hunsupported]
          exact ih hkept.2
      | inr hhalts =>
          obtain ⟨t, error, -, hgmail, hpoll, hagain⟩ := pollMessages_rejected clock
            (messageOutcome_halts_iff.mp hhalts) page processed s
          rw [hpoll]
          exact ⟨hgmail, hagain⟩

/-- A poll works off the unread messages as a round with a page of 25. -/
theorem pollInbox_polled (clock : PollClock) (s : Poller) :
    Poller.Polled s.gmail.account [] (s.gmail.unread.take 25) (s.gmail.unread.drop 25) s
      (pollInbox clock s).2 :=
  pollMessages_polled _ [] _ 0 s (by simp)

theorem unread_pollInbox (clock : PollClock) (s : Poller) :
    (pollInbox clock s).2.gmail.unread =
      Worklist.round (messageOutcome s.gmail.account) 25 s.gmail.unread :=
  (pollInbox_polled clock s).unread

end

end

end FreightAP
