import FreightAP.Gmail.Drain
import FreightAP.Worker.Accounts

/-!
# From the mailbox to the runs

Any number of calls of `poll_inbox`, by the scheduler and by `/gmail/poll`, on one
mailbox, together with the queue, its consumers and the runs.  A step of a call
is what it does between two of its `await`s.  A call can stop at every `await`,
and messages come in at any time.  Only the calls read messages: a message that
somebody else reads is not polled.

A message is marked read after the last of its attachments is enqueued, and an
enqueue either adds an entry or finds the dedupe key of an older one.  From then on
the job of the attachment is accounted for (`Pipeline.Accounted`), whatever the
consumers and the operators do.
-/

namespace FreightAP

open Transition

/-- Where a call of `poll_inbox` is: the messages left, the attachments of the
current one left, and the count of the messages it has processed.  It ends with
the count, or with `none` for an exception. -/
inductive PollPhase where
  | idle
  | listed (messages : List GmailMessage) (processed : Nat)
  | enqueuing (message : GmailMessage) (payloads : List AttachmentPayload)
      (messages : List GmailMessage) (processed : Nat)
  | ended (result : Option Nat)

/-- The messages a call still has to do with. -/
def PollPhase.messages : PollPhase → List GmailMessage
  | .idle => []
  | .listed messages _ => messages
  | .enqueuing message _ messages _ => message :: messages
  | .ended _ => []

/-- Whether a call is under way. -/
def PollPhase.active : PollPhase → Bool
  | .idle => false
  | .listed _ _ => true
  | .enqueuing _ _ _ _ => true
  | .ended _ => false

/-- The mailbox, the calls that poll it, and the pipeline behind them. -/
structure Intake where
  gmail : Gmail
  poll : Nat → PollPhase
  pipeline : Pipeline

/-- A step of a call, of the pipeline, or an unread message that comes in. -/
inductive IntakeAction where
  | arrive (message : GmailMessage)
  | list (c : Nat)
  | download (c : Nat)
  | enqueue (c : Nat) (enqueuedAt : Int) (now : Nat)
  | mark (c : Nat)
  | stop (c : Nat)
  | pipeline (a : PipelineAction)

/-- A message comes in. -/
def Gmail.arrive (gmail : Gmail) (message : GmailMessage)
    (h : message.id ∉ gmail.messages.map GmailMessage.id) : Gmail where
  emailAddress := gmail.emailAddress
  messages := message :: gmail.messages
  ids_nodup := List.nodup_cons.mpr ⟨h, gmail.ids_nodup⟩

namespace Intake

/-- A call goes on to another phase. -/
def turn (s : Intake) (c : Nat) (phase : PollPhase) : Intake :=
  { s with poll := Function.update s.poll c phase }

section

variable [PollerRuntime] [QueueRuntime] (uuid5 : String → String) (maxAttempts : Nat)

/-- One step. -/
def step (s : Intake) : IntakeAction → Option Intake
  | .arrive message =>
      if h : message.id ∉ s.gmail.messages.map GmailMessage.id then
        if "UNREAD" ∈ message.labelIds then some { s with gmail := s.gmail.arrive message h }
        else none
      else none
  | .list c =>
      match s.poll c with
      | .idle => some (s.turn c (.listed s.gmail.listUnreadMessages 0))
      | _ => none
  | .download c =>
      match s.poll c with
      | .listed [] processed => some (s.turn c (.ended (some processed)))
      | .listed (message :: messages) processed =>
          match downloadSupportedAttachments message with
          | none => some (s.turn c (.ended none))
          | some [] => some (s.turn c (.listed messages processed))
          | some (payload :: payloads) =>
              some (s.turn c (.enqueuing message (payload :: payloads) messages processed))
      | _ => none
  | .enqueue c enqueuedAt now =>
      match s.poll c with
      | .enqueuing message (payload :: payloads) messages processed =>
          match attachmentJob s.gmail.account payload enqueuedAt with
          | .error _ => some (s.turn c (.ended none))
          | .ok job =>
              (s.pipeline.step uuid5 maxAttempts (.queue (.enqueue job now))).map fun pipeline =>
                { s with pipeline }.turn c (.enqueuing message payloads messages processed)
      | _ => none
  | .mark c =>
      match s.poll c with
      | .enqueuing message [] messages processed =>
          some ({ s with gmail := s.gmail.markMessageRead message.id }.turn c
            (.listed messages (processed + 1)))
      | _ => none
  | .stop c => if (s.poll c).active then some (s.turn c (.ended none)) else none
  | .pipeline a =>
      (s.pipeline.step uuid5 maxAttempts a).map fun pipeline => { s with pipeline }

/-- No call yet, and a pipeline at its start.  The mailbox can be any. -/
structure Start (s : Intake) : Prop where
  poll : ∀ c, s.poll c = .idle
  pipeline : s.pipeline.Start

/-! ## What a step does -/

/-- The steps, one constructor for each way a step goes. -/
inductive Stepped (s : Intake) : IntakeAction → Intake → Prop where
  | arrived {message : GmailMessage} (h : message.id ∉ s.gmail.messages.map GmailMessage.id) :
      "UNREAD" ∈ message.labelIds →
      Stepped s (.arrive message) { s with gmail := s.gmail.arrive message h }
  | listed {c : Nat} : s.poll c = .idle →
      Stepped s (.list c) (s.turn c (.listed s.gmail.listUnreadMessages 0))
  | skipped {c : Nat} {message : GmailMessage} {messages : List GmailMessage} {processed : Nat} :
      s.poll c = .listed (message :: messages) processed →
      Stepped s (.download c) (s.turn c (.listed messages processed))
  | downloaded {c : Nat} {message : GmailMessage} {messages : List GmailMessage}
      {processed : Nat} {payloads : List AttachmentPayload} :
      s.poll c = .listed (message :: messages) processed →
      downloadSupportedAttachments message = some payloads → payloads ≠ [] →
      Stepped s (.download c) (s.turn c (.enqueuing message payloads messages processed))
  | enqueued {c : Nat} {enqueuedAt : Int} {now : Nat} {message : GmailMessage}
      {payload : AttachmentPayload} {payloads : List AttachmentPayload}
      {messages : List GmailMessage} {processed : Nat} {job : InvoiceJobEnvelope}
      {pipeline : Pipeline} :
      s.poll c = .enqueuing message (payload :: payloads) messages processed →
      attachmentJob s.gmail.account payload enqueuedAt = .ok job →
      Pipeline.Stepped uuid5 maxAttempts s.pipeline (.queue (.enqueue job now)) pipeline →
      Stepped s (.enqueue c enqueuedAt now)
        ({ s with pipeline }.turn c (.enqueuing message payloads messages processed))
  | marked {c : Nat} {message : GmailMessage} {messages : List GmailMessage} {processed : Nat} :
      s.poll c = .enqueuing message [] messages processed →
      Stepped s (.mark c) ({ s with gmail := s.gmail.markMessageRead message.id }.turn c
        (.listed messages (processed + 1)))
  | ended {a : IntakeAction} {c : Nat} {result : Option Nat} :
      Stepped s a (s.turn c (.ended result))
  | piped {a : PipelineAction} {pipeline : Pipeline} :
      Pipeline.Stepped uuid5 maxAttempts s.pipeline a pipeline →
      Stepped s (.pipeline a) { s with pipeline }

theorem step_cases {uuid5 : String → String} {maxAttempts : Nat} {s t : Intake}
    {a : IntakeAction} (h : s.step uuid5 maxAttempts a = some t) :
    Stepped uuid5 maxAttempts s a t := by
  cases a with
  | arrive message =>
      simp only [step] at h
      split at h
      next hnew =>
        split at h
        next hunread =>
          cases h
          exact .arrived hnew hunread
        · cases h
      · cases h
  | list c =>
      simp only [step] at h
      split at h
      next hidle =>
        cases h
        exact .listed hidle
      · cases h
  | download c =>
      simp only [step] at h
      split at h
      · cases h
        exact .ended
      next message messages processed hlisted =>
        split at h
        · cases h
          exact .ended
        · cases h
          exact .skipped hlisted
        next payload payloads hdownload =>
          cases h
          exact .downloaded hlisted hdownload (List.cons_ne_nil _ _)
      · cases h
  | enqueue c enqueuedAt now =>
      simp only [step] at h
      split at h
      next message payload payloads messages processed hphase =>
        split at h
        · cases h
          exact .ended
        next job hjob =>
          obtain ⟨pipeline, hpipeline, h⟩ := Option.map_eq_some_iff.mp h
          subst h
          exact .enqueued hphase hjob (Pipeline.step_cases hpipeline)
      · cases h
  | mark c =>
      simp only [step] at h
      split at h
      next message messages processed hphase =>
        cases h
        exact .marked hphase
      · cases h
  | stop c =>
      simp only [step] at h
      split at h
      · cases h
        exact .ended
      · cases h
  | pipeline a =>
      obtain ⟨pipeline, hpipeline, h⟩ := Option.map_eq_some_iff.mp h
      subst h
      exact .piped (Pipeline.step_cases hpipeline)

end

end Intake

/-! ## Messages and their labels -/

/-- The same message, whatever its labels. -/
structure GmailMessage.Same (m m' : GmailMessage) : Prop where
  id : m.id = m'.id
  threadId : m.threadId = m'.threadId
  payload : m.payload = m'.payload

theorem GmailMessage.Same.refl (m : GmailMessage) : m.Same m := ⟨rfl, rfl, rfl⟩

theorem GmailMessage.Same.trans {m m' m'' : GmailMessage} (h : m.Same m') (h' : m'.Same m'') :
    m.Same m'' :=
  ⟨h.id.trans h'.id, h.threadId.trans h'.threadId, h.payload.trans h'.payload⟩

/-- Reading a message changes its labels alone. -/
theorem Gmail.readIf_same (messageId : String) (m : GmailMessage) :
    (Gmail.readIf messageId m).Same m := by
  unfold Gmail.readIf
  split
  · exact ⟨rfl, rfl, rfl⟩
  · exact .refl m

theorem downloadSupportedAttachments_congr [PollerRuntime] {m m' : GmailMessage} (h : m.Same m') :
    downloadSupportedAttachments m = downloadSupportedAttachments m' := by
  obtain ⟨id, threadId, labelIds, payload⟩ := m
  obtain ⟨id', threadId', labelIds', payload'⟩ := m'
  obtain ⟨rfl, rfl, rfl⟩ := h
  rfl

namespace Intake

/-! ## What the calls know -/

variable [PollerRuntime] [QueueRuntime] {uuid5 : String → String} {maxAttempts : Nat}
  {s₀ s t : Intake} {a : IntakeAction} {c : Nat} {phase : PollPhase} {message : GmailMessage}

/-- The jobs of all attachments of a message were given to the live stream, and
there is one. -/
def Ingested (s : Intake) (message : GmailMessage) : Prop :=
  ∃ payloads, downloadSupportedAttachments message = some payloads ∧ payloads ≠ [] ∧
    ∀ payload ∈ payloads,
      s.pipeline.queue.redis.Given (payload.idempotencyKey s.gmail.account)

omit [PollerRuntime] [QueueRuntime] in
/-- A message was read in the mailbox that the calls started with. -/
def ReadBefore (s₀ : Intake) (message : GmailMessage) : Prop :=
  ∃ m ∈ s₀.gmail.messages, m.id = message.id ∧ "UNREAD" ∉ m.labelIds

/-- A call at the attachments of a message has given those it is past, and every
message that is read was read before or is ingested. -/
structure Sound (s₀ s : Intake) : Prop where
  booked : s.pipeline.Booked
  known : ∀ c, ∀ message ∈ (s.poll c).messages, ∃ m ∈ s.gmail.messages, m.Same message
  enqueuing : ∀ c message payloads messages processed,
    s.poll c = .enqueuing message payloads messages processed →
    ∃ past, downloadSupportedAttachments message = some (past ++ payloads) ∧
      past ++ payloads ≠ [] ∧
      ∀ payload ∈ past, s.pipeline.queue.redis.Given (payload.idempotencyKey s.gmail.account)
  read : ∀ m ∈ s.gmail.messages, "UNREAD" ∉ m.labelIds → s₀.ReadBefore m ∨ s.Ingested m

theorem Start.sound (h : s.Start) : Sound s s where
  booked := h.pipeline.booked
  known c message hmem := by
    rw [h.poll c] at hmem
    cases hmem
  enqueuing c message payloads messages processed hphase := by
    cases (h.poll c).symm.trans hphase
  read m hm hread := .inl ⟨m, hm, rfl, hread⟩

/-- A call goes on to a phase that has the same messages, or fewer. -/
theorem Sound.turn (h : Sound s₀ s)
    (hknown : ∀ message ∈ phase.messages, ∃ m ∈ s.gmail.messages, m.Same message)
    (henqueuing : ∀ message payloads messages processed,
      phase = .enqueuing message payloads messages processed →
      ∃ past, downloadSupportedAttachments message = some (past ++ payloads) ∧
        past ++ payloads ≠ [] ∧
        ∀ payload ∈ past, s.pipeline.queue.redis.Given (payload.idempotencyKey s.gmail.account)) :
    Sound s₀ (s.turn c phase) where
  booked := h.booked
  known e := by
    by_cases he : e = c
    · subst he
      rw [show (s.turn e phase).poll e = phase from Function.update_self ..]
      exact hknown
    · rw [show (s.turn c phase).poll e = s.poll e from Function.update_of_ne he ..]
      exact h.known e
  enqueuing e message payloads messages processed hphase := by
    by_cases he : e = c
    · subst he
      rw [show (s.turn e phase).poll e = phase from Function.update_self ..] at hphase
      exact henqueuing message payloads messages processed hphase
    · rw [show (s.turn c phase).poll e = s.poll e from Function.update_of_ne he ..] at hphase
      exact h.enqueuing e message payloads messages processed hphase
  read := h.read

/-- The pipeline moves on. -/
theorem Sound.piped (h : Sound s₀ s) (hjson : JsonInverse) {b : PipelineAction}
    {pipeline : Pipeline} (hs : Pipeline.Stepped uuid5 maxAttempts s.pipeline b pipeline) :
    Sound s₀ { s with pipeline } := by
  have hgiven : ∀ key, s.pipeline.queue.redis.Given key → pipeline.queue.redis.Given key := by
    rintro key ⟨y, hy, hc⟩
    obtain ⟨-, -, hlog⟩ :=
      hs.effect.streams h.booked.sound.regular.live h.booked.sound.regular.dlq
    exact ⟨y, hlog y hy, hc⟩
  refine ⟨h.booked.step hjson hs, h.known, ?_, ?_⟩
  · intro c message payloads messages processed hphase
    obtain ⟨past, hdownload, hne, hpast⟩ := h.enqueuing c message payloads messages processed hphase
    exact ⟨past, hdownload, hne, fun payload hp => hgiven _ (hpast payload hp)⟩
  · intro m hm hread
    rcases h.read m hm hread with hbefore | ⟨payloads, hdownload, hne, hall⟩
    · exact .inl hbefore
    · exact .inr ⟨payloads, hdownload, hne, fun payload hp => hgiven _ (hall payload hp)⟩

/-- A message comes in unread. -/
theorem Sound.arrived (h : Sound s₀ s) (hnew : message.id ∉ s.gmail.messages.map GmailMessage.id)
    (hunread : "UNREAD" ∈ message.labelIds) :
    Sound s₀ { s with gmail := s.gmail.arrive message hnew } where
  booked := h.booked
  known c m hm := by
    obtain ⟨m', hm', hsame⟩ := h.known c m hm
    exact ⟨m', List.mem_cons_of_mem _ hm', hsame⟩
  enqueuing := h.enqueuing
  read m hm hread := by
    rcases List.mem_cons.mp hm with rfl | hm
    · exact absurd hunread hread
    · exact h.read m hm hread

omit [PollerRuntime] [QueueRuntime] in
/-- Two copies of a message of the mailbox are the same message. -/
theorem same_of_id {m m' : GmailMessage} (hm : m ∈ s.gmail.messages)
    (hknown : ∃ m ∈ s.gmail.messages, m.Same m') (hid : m.id = m'.id) : m.Same m' := by
  obtain ⟨m'', hm'', hsame⟩ := hknown
  have heq : m = m'' := List.inj_on_of_nodup_map s.gmail.ids_nodup hm hm'' (hid.trans hsame.id.symm)
  exact heq ▸ hsame

/-- A message is marked read once all its attachments are given. -/
theorem Sound.marked (h : Sound s₀ s) {messages : List GmailMessage} {processed : Nat}
    (hphase : s.poll c = .enqueuing message [] messages processed) :
    Sound s₀ ({ s with gmail := s.gmail.markMessageRead message.id }.turn c
      (.listed messages (processed + 1))) := by
  have hmessages : (s.poll c).messages = message :: messages := by rw [hphase]; rfl
  obtain ⟨past, hdownload, hne, hpast⟩ := h.enqueuing c _ _ _ _ hphase
  rw [List.append_nil] at hdownload hne
  have hkept : ∀ m', (∃ m ∈ s.gmail.messages, m.Same m') →
      ∃ m ∈ (s.gmail.markMessageRead message.id).messages, m.Same m' := by
    rintro m' ⟨m, hm, hsame⟩
    exact ⟨_, List.mem_map_of_mem hm, (Gmail.readIf_same message.id m).trans hsame⟩
  have hmarked : Sound s₀ { s with gmail := s.gmail.markMessageRead message.id } := by
    refine ⟨h.booked, fun e m hm => hkept m (h.known e m hm), h.enqueuing, fun m' hm' hread => ?_⟩
    obtain ⟨m, hm, rfl⟩ := List.mem_map.mp hm'
    have hsame := Gmail.readIf_same message.id m
    by_cases hid : m.id = message.id
    · have hcopy : m.Same message := same_of_id hm
        (h.known c message (hmessages ▸ List.mem_cons_self ..)) hid
      exact .inr ⟨past, (downloadSupportedAttachments_congr (hsame.trans hcopy)).trans hdownload,
        hne, hpast⟩
    · rw [Gmail.readIf, if_neg hid] at hread ⊢
      exact h.read m hm hread
  refine hmarked.turn (fun m hm => ?_) fun _ _ _ _ he => by cases he
  apply hmarked.known c m
  show m ∈ (s.poll c).messages
  rw [hmessages]
  exact List.mem_cons_of_mem _ hm

theorem Sound.step (h : Sound s₀ s) (hjson : JsonInverse)
    (hs : Stepped uuid5 maxAttempts s a t) : Sound s₀ t := by
  cases hs with
  | arrived hnew hunread => exact h.arrived hnew hunread
  | listed =>
      refine h.turn (fun m hm => ?_) fun _ _ _ _ he => by cases he
      exact ⟨m, List.mem_of_mem_filter (List.mem_of_mem_take hm), .refl m⟩
  | @skipped c message messages processed hphase =>
      refine h.turn (fun m hm => h.known c m ?_) fun _ _ _ _ he => by cases he
      rw [hphase]
      exact List.mem_cons_of_mem _ hm
  | @downloaded c message messages processed payloads hphase hdownload hne =>
      refine h.turn (fun m hm => h.known c m (by rw [hphase]; exact hm)) ?_
      rintro _ _ _ _ ⟨⟩
      exact ⟨[], hdownload, hne, fun payload hp => by cases hp⟩
  | @enqueued c enqueuedAt now message payload payloads messages processed job pipeline hphase hjob
      hpipeline =>
      have hpiped := h.piped hjson hpipeline
      refine hpiped.turn (fun m hm => hpiped.known c m ?_) ?_
      · show m ∈ (s.poll c).messages
        rw [hphase]
        exact hm
      rintro _ _ _ _ ⟨⟩
      obtain ⟨past, hdownload, hne, hpast⟩ := hpiped.enqueuing c _ _ _ _ hphase
      refine ⟨past ++ [payload], by simpa using hdownload, by simp, fun p hp => ?_⟩
      rcases List.mem_append.mp hp with hp | hp
      · exact hpast p hp
      · -- the dedupe key of the job, new or old, has its entry
        rw [List.mem_singleton.mp hp]
        have hkey := hpiped.booked.keys _ hpipeline.queued_step.enqueue_dedupe
        rwa [attachmentJob_key hjob] at hkey
  | marked hphase => exact h.marked hphase
  | ended => exact h.turn (fun m hm => by cases hm) fun _ _ _ _ he => by cases he
  | piped hpipeline => exact h.piped hjson hpipeline

/-- In every run, whatever the calls, the consumers and the operators do and
wherever they stop: a message that is read in the mailbox was read before, or it
has attachments and the job of each of them has an entry in the live stream, or
was dead-lettered, or had a settled row of its run committed. -/
theorem read_message_accounted (hjson : JsonInverse) {as : List IntakeAction} (h₀ : s₀.Start)
    (h : Run (Fires (step uuid5 maxAttempts)) s₀ as t) (hmessage : message ∈ t.gmail.messages)
    (hread : "UNREAD" ∉ message.labelIds) :
    s₀.ReadBefore message ∨
      ∃ payloads, downloadSupportedAttachments message = some payloads ∧ payloads ≠ [] ∧
        ∀ payload ∈ payloads, t.pipeline.Accounted (payload.idempotencyKey t.gmail.account) := by
  have hsound : Sound s₀ t :=
    h.preserves (Sound s₀) h₀.sound fun _ _ _ ht hs => ht.step hjson (step_cases hs)
  rcases hsound.read message hmessage hread with hbefore | ⟨payloads, hdownload, hne, hall⟩
  · exact .inl hbefore
  · exact .inr ⟨payloads, hdownload, hne, fun payload hp => hsound.booked.accounted (hall payload hp)⟩

/-! ## A poll of one message -/

/-- The job of the attachment of the second message of `blockedInbox`. -/
def mailJob : InvoiceJobEnvelope where
  idempotencyKey := "43c6a46070afb01173cecb755b909ab11bc4bb863b1d369b4dda2ae386ef222c"
  gmailAccount := "ap@example.com"
  messageId := "m2"
  gmailThreadId := "t1"
  mimePartId := "1"
  filename := "invoice.pdf"
  fileBytes := "JVBERi0="
  contentSha256 := "38523c087796e5d5dd1cf9bad1fb026781a838dd9dd2cf8af58b9f6502a46778"
  enqueuedAt := 0

/-- The characters of its dump. -/
def mailChars : List Char :=
  '\x7b' :: "\"schema_version\":1,\"idempotency_key\":\"".toList ++
    "43c6a46070afb01173cecb755b909ab11bc4bb863b1d369b4dda2ae386ef222c".toList ++
    "\",\"gmail_account\":\"ap@example.com\",\"message_id\":\"m2\",".toList ++
    "\"gmail_thread_id\":\"t1\",\"mime_part_id\":\"1\",".toList ++
    "\"filename\":\"invoice.pdf\",\"file_bytes\":\"JVBERi0=\",".toList ++
    "\"content_sha256\":\"38523c087796e5d5dd1cf9bad1fb0267".toList ++
    "81a838dd9dd2cf8af58b9f6502a46778\",".toList ++
    "\"enqueued_at\":\"1970-01-01T00:00:00Z\"".toList ++ ['\x7d']

omit [PollerRuntime] [QueueRuntime] in
theorem decode_mailChars : (FlatJson.decode mailChars).isSome = true := by decide +kernel

/-- Flat JSON, with that job. -/
@[reducible] def mailQueue : QueueRuntime where
  dumps fields := String.ofList (FlatJson.encode (fieldChars fields))
  loads raw :=
    match FlatJson.decode raw.toList with
    | some ms => .object ms
    | none => .invalid "Expecting value: line 1 column 1 (char 0)"
  modelValidate raw :=
    if raw = textOf mailChars then .ok mailJob
    else .error "1 validation error for InvoiceJobEnvelope"
  modelDumpJson job := if job = mailJob then textOf mailChars else ""

omit [PollerRuntime] [QueueRuntime] in
theorem mailQueue_loads {chars : List Char} {ms : List (String × Option String)}
    (h : FlatJson.decode chars = some ms) :
    mailQueue.loads (String.ofList chars) = .object ms := by
  show (match FlatJson.decode (String.ofList chars).toList with
    | some ms => Loaded.object ms
    | none => .invalid _) = _
  rw [String.toList_ofList, h]

omit [PollerRuntime] [QueueRuntime] in
theorem mailQueue_inverse : @JsonInverse mailQueue := by
  refine @JsonInverse.mk mailQueue (fun f => ⟨f.map fun kv => (kv.1, some kv.2), f, ?_,
    textMembers?_map f, fun _ => rfl⟩) fun raw job h => ?_
  · apply mailQueue_loads
    rw [FlatJson.decode_encode, fieldChars, List.map_map]
    simp only [Function.comp_def, String.ofList_toList]
  · have hjob : mailJob = job := by
      by_cases hraw : raw = textOf mailChars
      · exact Except.ok.inj ((if_pos hraw).symm.trans h)
      · cases (if_neg hraw).symm.trans h
    subst hjob
    have hdump : mailQueue.modelDumpJson mailJob = textOf mailChars := if_pos rfl
    obtain ⟨ms, hms⟩ := Option.isSome_iff_exists.mp decode_mailChars
    rw [hdump]
    exact ⟨⟨ms, textOf_eq mailChars ▸ mailQueue_loads hms⟩, if_pos rfl⟩

/-- A mailbox of that message. -/
def oneMessage : Intake where
  gmail := ⟨"ap@example.com", [attachmentMessage "m2" "invoice.pdf" "JVBERi0="], by decide⟩
  poll _ := .idle
  pipeline := .empty

/-- One poll. -/
def onePoll : List IntakeAction := [.list 0, .download 0, .enqueue 0 0 1, .mark 0]

omit [PollerRuntime] [QueueRuntime] in
/-- The poll marks the message read, and its job is accounted for. -/
theorem read_message_accounted_polled :
    letI := mailRuntime
    letI := mailQueue
    ∃ t, Run (Fires (step id 1)) oneMessage onePoll t ∧
      ∃ message ∈ t.gmail.messages, "UNREAD" ∉ message.labelIds ∧
        ∃ payloads, downloadSupportedAttachments message = some payloads ∧ payloads ≠ [] ∧
          ∀ payload ∈ payloads, t.pipeline.Accounted (payload.idempotencyKey t.gmail.account) := by
  let _ := mailRuntime
  let _ := mailQueue
  have hdata : (exec (step id 1) oneMessage onePoll).any (fun t =>
      t.gmail.messages.any fun message => "UNREAD" ∉ message.labelIds && message.id = "m2") =
      true := by
    decide +kernel
  obtain ⟨t, ht, hdata⟩ := (Option.any_eq_true _ _).mp hdata
  obtain ⟨message, hmessage, hdata⟩ := List.any_eq_true.mp hdata
  simp only [Bool.and_eq_true, decide_eq_true_eq] at hdata
  refine ⟨t, run_of_exec ht, message, hmessage, hdata.1, ?_⟩
  have hstart : oneMessage.Start := ⟨fun _ => rfl, Pipeline.empty_start⟩
  refine (read_message_accounted mailQueue_inverse hstart (run_of_exec ht) hmessage
    hdata.1).resolve_left ?_
  rintro ⟨m, hm, -, hread⟩
  cases List.mem_singleton.mp hm
  exact hread (by decide)

end Intake

end FreightAP
