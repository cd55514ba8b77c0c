import FreightAP.Lib.StreamRange
import FreightAP.Queue.Effects
import FreightAP.Queue.FlatRuntime

/-!
# Paging through the dead-letter stream

`listDlqEntries` gives the newest entries below a cursor and the cursor of the
next page, if it saw one entry more than it may give.  `followCursor` asks for
page after page while other clients add and delete entries.

New entries have larger ids than any cursor, so below a cursor entries only go.
The number of entries below the cursor falls from page to page, and an entry
that stays is on a page or below its cursor (`followCursor_spec`).
-/

namespace FreightAP

/-! ## The operator's view of an entry -/

/-- `DLQSource`. -/
structure DLQSource where
  gmailAccount : Option String
  messageId : Option String
  mimePartId : Option String
  idempotencyKey : Option String
deriving DecidableEq

/-- `ReplaySummary`. -/
structure ReplaySummary where
  count : Nat
  lastRequestId : Option String
  lastRequestedAt : Option Int
  lastEnqueuedAt : Option Int
  lastLiveStreamId : Option String
  state : Option ReplayState
  workflowProcessingStatus : Option ProcessingStatus
deriving DecidableEq

/-- `DLQEntry`. -/
structure DLQEntry where
  dlqId : String
  originalStreamId : Option String
  failureReason : String
  attemptCount : Nat
  failedAt : Int
  filename : Option String
  source : DLQSource
  replayable : Bool
  replayBlockReason : Option String
  replay : ReplaySummary
deriving DecidableEq

/-- `DLQPage`. -/
structure DLQPage where
  items : List DLQEntry
  nextCursor : Option String
deriving DecidableEq

/-- `_replay_summary`. -/
def replaySummary (metadata : ReplayHash) : ReplaySummary :=
  let action := (metadata.lastRequestId.filter (· ≠ "")).map metadata.action
  { count := metadata.replayCount.getD 0
    lastRequestId := metadata.lastRequestId
    lastRequestedAt := metadata.lastReplayRequestedAt
    lastEnqueuedAt := metadata.lastReplayEnqueuedAt
    lastLiveStreamId := metadata.lastLiveStreamId.map StreamId.text
    state := action.bind ReplayAction.state
    workflowProcessingStatus := action.bind ReplayAction.workflowProcessingStatus }

section

variable [QueueRuntime]

open QueueRuntime

/-- The members of the payload that the evidence holds, if it can be read. -/
def payloadMembers? (fields : DeadLetterFields) : Option (List (String × Option String)) :=
  match loads (fields.originalFields.getD "") with
  | .object originalFields =>
      match (originalFields.lookup "payload").getD (some "") with
      | some raw =>
          match loads raw with
          | .object payload => some payload
          | _ => none
      | none => none
  | _ => none

/-- `_recover_payload_identity`, of one key. -/
def recoverPayloadIdentity (fields : DeadLetterFields) (key : String) : Option String :=
  (payloadMembers? fields).bind fun payload => (payload.lookup key).join

/-- `dlq_entry_from_fields`. -/
def dlqEntryFromFields (dlqId : String) (fields : DeadLetterFields) (metadata : ReplayHash) :
    DLQEntry :=
  let evidence := decodeDlqEvidence fields
  let identity (ofJob : InvoiceJobEnvelope → String) (key : String) : Option String :=
    match evidence with
    | .ok evidence => some (ofJob evidence.job)
    | .error _ => recoverPayloadIdentity fields key
  { dlqId := dlqId
    originalStreamId := fields.originalStreamId.map StreamId.text
    failureReason := fields.failureReason
    attemptCount := fields.attemptCount
    failedAt := fields.failedAt
    filename := identity InvoiceJobEnvelope.filename "filename"
    source :=
      { gmailAccount := identity InvoiceJobEnvelope.gmailAccount "gmail_account"
        messageId := identity InvoiceJobEnvelope.messageId "message_id"
        mimePartId := identity InvoiceJobEnvelope.mimePartId "mime_part_id"
        idempotencyKey := identity InvoiceJobEnvelope.idempotencyKey "idempotency_key" }
    replayable := evidence.isOk
    replayBlockReason :=
      match evidence with
      | .ok _ => none
      | .error message => some message
    replay := replaySummary metadata }

/-! ## Pages -/

omit [QueueRuntime] in
/-- The bound a cursor stands for, or the message of `validate_stream_id`. -/
def cursorBound : Option String → Except String (Option StreamId)
  | none => .ok none
  | some cursor =>
      if cursor = "" then .ok none
      else
        match StreamId.parse cursor with
        | some id => .ok (some id)
        | none => .error "cursor must be a Redis stream ID such as 1752940000000-0"

/-- `list_dlq_entries`. -/
def listDlqEntries (r : Redis) (limit : Nat) (cursor : Option String) : Except String DLQPage := do
  let maximum ← cursorBound cursor
  let rows := (r.dlq.newest maximum).take (limit + 1)
  let visibleRows := rows.take limit
  return {
    items := visibleRows.map fun (dlqId, fields) =>
      dlqEntryFromFields dlqId.text fields (r.replays dlqId.text)
    nextCursor :=
      if rows.length > limit then visibleRows.getLast?.map fun row => row.1.text else none }

/-- The pages from request `n` on, until there is no next cursor.  Request `n`
finds the keys `states n`. -/
def followCursor (states : Nat → Redis) (limits : Nat → Nat) :
    Nat → Nat → Option String → Option (List DLQPage)
  | 0, _, _ => none
  | fuel + 1, n, cursor =>
      match listDlqEntries (states n) (limits n) cursor with
      | .error _ => none
      | .ok page =>
          match page.nextCursor with
          | none => some [page]
          | some next => (followCursor states limits fuel (n + 1) (some next)).map (page :: ·)

/-- The ids on some pages. -/
def idsOf (pages : List DLQPage) : List String := pages.flatMap fun page => page.items.map DLQEntry.dlqId

/-! ## One page -/

omit [QueueRuntime] in
theorem cursorBound_text (id : StreamId) : cursorBound (some id.text) = .ok (some id) := by
  simp [cursorBound, id.text_ne_empty, StreamId.parse_text]

/-- A page is the newest entries below its cursor.  Without a next cursor they
are all of them, and the next cursor is the last of them. -/
theorem listDlqEntries_spec {r : Redis} {limit : Nat} {cursor : Option String}
    {bound : Option StreamId} (hcursor : cursorBound cursor = .ok bound) (hlimit : 1 ≤ limit) :
    ∃ page, listDlqEntries r limit cursor = .ok page ∧
      page.items.map DLQEntry.dlqId =
        ((r.dlq.newest bound).take limit).map (fun row => row.1.text) ∧
      (page.nextCursor = none ∧ (r.dlq.newest bound).take limit = r.dlq.newest bound ∨
        ∃ last, ((r.dlq.newest bound).take limit).getLast? = some last ∧
          page.nextCursor = some last.1.text) := by
  have hvisible : ((r.dlq.newest bound).take (limit + 1)).take limit =
      (r.dlq.newest bound).take limit := by
    rw [List.take_take, Nat.min_eq_left (Nat.le_succ limit)]
  refine ⟨_, by rw [listDlqEntries, hcursor]; rfl, ?_, ?_⟩
  · simp only [hvisible, List.map_map]
    rfl
  · simp only [hvisible, List.length_take]
    split
    next hlook =>
      right
      have hne : (r.dlq.newest bound).take limit ≠ [] := by
        intro hnil
        have hlen := congrArg List.length hnil
        simp only [List.length_take, List.length_nil] at hlen
        omega
      exact ⟨_, List.getLast?_eq_some_getLast hne, by rw [List.getLast?_eq_some_getLast hne]; rfl⟩
    next hlook =>
      left
      exact ⟨rfl, List.take_of_length_le (by omega)⟩

end

/-! ## The stream of the queue -/

namespace Queue

variable [QueueRuntime] {q q' : Queue} {r : Redis}

omit [QueueRuntime] in
theorem purgeBatch_changed (r : Redis) (cutoff : StreamId) (limit : Nat) :
    EntryStream.Changed r.dlq (r.purgeBatch cutoff limit).dlq := by
  unfold Redis.purgeBatch
  generalize hrows : (r.dlq.entries.filter _).take limit = rows
  clear hrows
  have hfold : ∀ s : Redis, EntryStream.Changed r.dlq s.dlq →
      EntryStream.Changed r.dlq (rows.foldl Redis.purgeRow s).dlq := by
    induction rows with
    | nil => exact fun _ hs => hs
    | cons row rows ih => exact fun s hs => ih (s.purgeRow row) (.del row.1 hs)
  exact hfold r (.refl _)

/-- A step of the queue adds dead-letter entries with larger ids, or deletes
some. -/
theorem Effect.dlq_changed (h : q.Effect r) : EntryStream.Changed q.redis.dlq r.dlq := by
  have hadd : ∀ (now : Nat) (x : DeadLetterFields),
      EntryStream.Changed q.redis.dlq (q.redis.dlq.add now x).2 := by
    intro now x
    rw [EntryStream.add_eq_append]
    exact .append _ _ (.refl _) (StreamId.lt_next ..)
  cases h with
  | quiet _ hdlq => exact hdlq ▸ .refl _
  | enqueued _ hnone =>
      simp only [Redis.enqueueJob, hnone]
      exact .refl _
  | published => exact .refl _
  | expired => exact .refl _
  | touched _ _ _ _ _ _ _ hdlq => exact hdlq ▸ .refl _
  | removed _ _ _ _ _ _ _ _ hdlq =>
      rcases hdlq with hdlq | ⟨now, reason, hdlq⟩
      · exact hdlq ▸ .refl _
      · exact hdlq ▸ hadd now _
  | replayed => exact .refl _
  | purged => exact purgeBatch_changed ..

/-- The dead-letter stream of every run is ordered. -/
theorem run_dlq_ordered {maxAttempts : Nat} {as : List QueueAction}
    (h : Transition.Run (Transition.Fires (step maxAttempts)) q as q')
    (hq : q.redis.dlq.Ordered) : q'.redis.dlq.Ordered :=
  h.preserves (fun q => q.redis.dlq.Ordered) hq
    fun _ _ _ hordered hs => (step_cases maxAttempts hs).effect.dlq_changed.ordered hordered

end Queue

/-! ## The walk -/

section

variable [QueueRuntime] {states : Nat → Redis} {limits : Nat → Nat}

/-- From a cursor on, the walk ends, its ids decrease below the cursor, and it
finds the entries below the cursor that stay. -/
theorem followCursor_spec (hlimits : ∀ n, 1 ≤ limits n)
    (hchanges : ∀ n, EntryStream.Changed (states n).dlq (states (n + 1)).dlq) {fuel n : Nat}
    {cursor : Option String} {bound : Option StreamId} (hcursor : cursorBound cursor = .ok bound)
    (hordered : (states n).dlq.Ordered)
    (hfuel : ((states n).dlq.newest bound).length < fuel) :
    ∃ pages, ∃ ids : List StreamId, followCursor states limits fuel n cursor = some pages ∧
      idsOf pages = ids.map StreamId.text ∧ ids.Pairwise (fun a b => b < a) ∧
      (∀ id ∈ ids, ∀ b ∈ bound, id < b) ∧
      ∀ e : StreamId × DeadLetterFields, (∀ b ∈ bound, e.1 < b) →
        (∀ m, m < pages.length → e ∈ (states (n + m)).dlq.entries) → e.1 ∈ ids := by
  induction fuel generalizing n cursor bound with
  | zero => omega
  | succ fuel ih =>
      obtain ⟨page, hpage, hitems, hnext⟩ :=
        listDlqEntries_spec (r := states n) hcursor (hlimits n)
      have hnewest := hordered.newest bound
      generalize hrows : ((states n).dlq.newest bound).take (limits n) = rows at *
      have hsorted : rows.Pairwise fun a b => b.1 < a.1 := by
        rw [← hrows]
        exact hnewest.sublist (List.take_sublist ..)
      have hrow : ∀ e ∈ rows, e ∈ (states n).dlq.newest bound := by
        intro e he
        rw [← hrows] at he
        exact List.mem_of_mem_take he
      have hids : page.items.map DLQEntry.dlqId = (rows.map Prod.fst).map StreamId.text := by
        rw [hitems, List.map_map]
        rfl
      rw [followCursor, hpage]
      rcases hnext with ⟨hnone, hall⟩ | ⟨last, hlast, hsome⟩
      · refine ⟨[page], rows.map Prod.fst, by simp only [hnone], ?_, ?_, ?_, ?_⟩
        · simp [idsOf, hids]
        · exact List.pairwise_map.mpr hsorted
        · intro id hid b hb
          obtain ⟨e, he, rfl⟩ := List.mem_map.mp hid
          exact (EntryStream.mem_newest.mp (hrow e he)).2 b hb
        · intro e hbelow hstays
          have he : e ∈ (states n).dlq.entries := hstays 0 (by simp)
          rw [hall]
          exact List.mem_map_of_mem (EntryStream.mem_newest.mpr ⟨he, hbelow⟩)
      · have hlastmem := hrow last (List.mem_of_getLast? hlast)
        obtain ⟨hlastentry, hlastbound⟩ := EntryStream.mem_newest.mp hlastmem
        have hshort := (hchanges n).newest_sublist (hordered.le last hlastentry)
        have hfuel' : ((states (n + 1)).dlq.newest (some last.1)).length < fuel := by
          have h₁ := hshort.length_le
          have h₂ := EntryStream.newest_length_lt hlastmem
          omega
        obtain ⟨pages, ids, hpages, hidsOf, hdecr, hbelow', hcomplete⟩ :=
          ih (cursorBound_text last.1) ((hchanges n).ordered hordered) hfuel'
        refine ⟨page :: pages, rows.map Prod.fst ++ ids, by simp only [hsome, hpages]; rfl,
          ?_, ?_, ?_, ?_⟩
        · rw [idsOf, List.flatMap_cons, hids, List.map_append, ← hidsOf]
          rfl
        · refine List.pairwise_append.mpr ⟨List.pairwise_map.mpr hsorted, hdecr, ?_⟩
          intro id hid id' hid'
          obtain ⟨e, he, rfl⟩ := List.mem_map.mp hid
          exact (hbelow' id' hid' last.1 rfl).trans_le (EntryStream.last_le hsorted hlast he)
        · intro id hid b hb
          rcases List.mem_append.mp hid with hid | hid
          · obtain ⟨e, he, rfl⟩ := List.mem_map.mp hid
            exact (EntryStream.mem_newest.mp (hrow e he)).2 b hb
          · exact (hbelow' id hid last.1 rfl).trans (hlastbound b hb)
        · intro e hbelow hstays
          have he : e ∈ (states n).dlq.newest bound :=
            EntryStream.mem_newest.mpr ⟨hstays 0 (by simp), hbelow⟩
          -- the entry is on this page, or below its cursor
          rw [← hrows] at hlast
          rcases EntryStream.mem_take_or_lt hnewest hlast he with hhere | hlt
          · rw [hrows] at hhere
            exact List.mem_append_left _ (List.mem_map_of_mem hhere)
          · refine List.mem_append_right _ (hcomplete e ?_ fun m hm => ?_)
            · intro b hb
              cases hb
              exact hlt
            · have h := hstays (m + 1) (by simpa using hm)
              rwa [show n + (m + 1) = n + 1 + m by omega] at h

/-- Following the cursor ends, gives no entry twice, in decreasing order, and
gives every entry that was there at the first request and stays. -/
theorem dlq_paging_complete (hlimits : ∀ n, 1 ≤ limits n) (hordered : (states 0).dlq.Ordered)
    (hchanges : ∀ n, EntryStream.Changed (states n).dlq (states (n + 1)).dlq) {fuel : Nat}
    (hfuel : (states 0).dlq.entries.length < fuel) :
    ∃ pages, ∃ ids : List StreamId, followCursor states limits fuel 0 none = some pages ∧
      idsOf pages = ids.map StreamId.text ∧ ids.Pairwise (fun a b => b < a) ∧
      (idsOf pages).Nodup ∧
      ∀ e ∈ (states 0).dlq.entries,
        (∀ m, m < pages.length → e ∈ (states m).dlq.entries) → e.1.text ∈ idsOf pages := by
  have hall : ((states 0).dlq.newest none).length = (states 0).dlq.entries.length := by
    simp [EntryStream.newest]
  have hfirst : cursorBound none = .ok none := rfl
  obtain ⟨pages, ids, hpages, hids, hdecr, -, hcomplete⟩ :=
    followCursor_spec hlimits hchanges hfirst hordered (hall ▸ hfuel)
  refine ⟨pages, ids, hpages, hids, hdecr, ?_, ?_⟩
  · rw [hids]
    exact List.Nodup.map StreamId.text_injective (hdecr.imp fun hlt => hlt.ne')
  · intro e _ hstays
    rw [hids]
    refine List.mem_map_of_mem (hcomplete e (fun b hb => by cases hb) fun m hm => ?_)
    rw [Nat.zero_add]
    exact hstays m hm

end

/-- A dead-letter stream of three entries. -/
def samplePages : Redis where
  live := EntryStream.empty
  group := ConsumerGroup.new
  dlq :=
    ⟨[(toLex (5, 0), ⟨none, 3, 5, "boom", none⟩), (toLex (8, 0), ⟨none, 3, 8, "boom", none⟩),
        (toLex (8, 1), ⟨none, 1, 8, "missing payload field", none⟩)],
      toLex (8, 1), []⟩
  dedupe _ := none
  replays _ := ReplayHash.empty
  failures _ := none

/-- The stream at each request: the cursor of the first page is deleted and an
entry is added before the second one. -/
def sampleStates : Nat → Redis
  | 0 => samplePages
  | _ + 1 =>
      { samplePages with
        dlq := ((samplePages.dlq.del (toLex (8, 0))).append (toLex (9, 0))
          ⟨none, 3, 9, "boom", none⟩) }

theorem dlq_paging_complete_sample :
    ∃ pages, ∃ ids : List StreamId,
      @followCursor flatRuntime sampleStates (fun _ => 2) 4 0 none = some pages ∧
      idsOf pages = ids.map StreamId.text ∧ ids.Pairwise (fun a b => b < a) ∧
      (idsOf pages).Nodup ∧
      ∀ e ∈ (sampleStates 0).dlq.entries,
        (∀ m, m < pages.length → e ∈ (sampleStates m).dlq.entries) → e.1.text ∈ idsOf pages := by
  refine @dlq_paging_complete flatRuntime sampleStates (fun _ => 2) (fun _ => by decide)
    ⟨by decide, by decide⟩ (fun n => ?_) 4 (by decide)
  cases n with
  | zero => exact .append _ _ (.del _ (.refl _)) (by decide)
  | succ n => exact .refl _

end FreightAP
