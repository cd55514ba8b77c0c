import FreightAP.Queue.Delivery
import FreightAP.Workflow.Nodes

/-!
# The queue in Redis

The two streams, the consumer group and the hashes of the invoice queue, and
what each script, pipeline and command of it does to them.  Scripts and
pipelines with `MULTI` are atomic, so each is one function here.

The fields of a replay hash are grouped: those of the last request, and those
of each action.  The keys have the types the scripts ask for, so no script
answers `wrong_type`.
-/

namespace FreightAP

/-! ## The hashes -/

/-- The state of a replay action. -/
inductive ReplayState where
  | enqueued
  | processing
  | retrying
  | acknowledged
  | deadLettered
deriving DecidableEq, Repr

/-- `NONTERMINAL_REPLAY_STATES`. -/
def ReplayState.nonterminal : ReplayState → Bool
  | .enqueued => true
  | .processing => true
  | .retrying => true
  | _ => false

/-- The fields `action:<request>:*` of a replay hash. -/
structure ReplayAction where
  requestedAt : Option Int
  enqueuedAt : Option Int
  liveStreamId : Option StreamId
  state : Option ReplayState
  processingUpdatedAt : Option Int
  workflowProcessingStatus : Option ProcessingStatus
deriving DecidableEq

/-- A replay hash.  A field that is not set is `none`. -/
structure ReplayHash where
  replayCount : Option Nat
  lastRequestId : Option String
  lastReplayRequestedAt : Option Int
  lastReplayEnqueuedAt : Option Int
  lastLiveStreamId : Option StreamId
  action : String → ReplayAction

/-- No field. -/
def ReplayAction.empty : ReplayAction := ⟨none, none, none, none, none, none⟩

/-- No field. -/
def ReplayHash.empty : ReplayHash := ⟨none, none, none, none, none, fun _ => .empty⟩

/-- The hash of an entry's last failure, in the state `retrying`. -/
structure FailureMetadata where
  attemptCount : Nat
  lastFailureReason : String
  updatedAt : Int
deriving DecidableEq

/-- The keys of the queue.  The hash of a dead-letter entry is named by the text
of its id as the caller spells it. -/
structure Redis where
  live : EntryStream Fields
  group : ConsumerGroup
  dlq : EntryStream DeadLetterFields
  dedupe : String → Option StreamId
  replays : String → ReplayHash
  failures : StreamId → Option FailureMetadata

/-- A text cut to 2000 characters. -/
def reasonText (reason : String) : String := String.ofList (reason.toList.take 2000)

namespace Redis

section

variable [QueueRuntime]

open QueueRuntime

/-- `enqueue_job`: the answer of `ENQUEUE_SCRIPT`, and the keys after it. -/
def enqueueJob (r : Redis) (job : InvoiceJobEnvelope) (now : Nat) : StreamId × Redis :=
  match r.dedupe job.idempotencyKey with
  | some existing => (existing, r)
  | none =>
      let (streamId, live) := r.live.add now [("payload", modelDumpJson job)]
      (streamId,
        { r with
          live := live,
          dedupe := Function.update r.dedupe job.idempotencyKey (some streamId) })

/-! ## The commands of a consumer -/

omit [QueueRuntime] in
/-- `HSET` of `_replay_action_fields`. -/
def hsetAction (r : Redis) (d : StreamDelivery) (state : ReplayState)
    (workflowProcessingStatus : Option ProcessingStatus) (clock : Int) : Redis :=
  match replayContext d.fields with
  | none => r
  | some (dlqId, requestId) =>
      let hash := r.replays dlqId
      let action : ReplayAction :=
        { hash.action requestId with
          state := some state,
          processingUpdatedAt := some clock,
          workflowProcessingStatus :=
            workflowProcessingStatus.or (hash.action requestId).workflowProcessingStatus }
      { r with
        replays := Function.update r.replays dlqId
          { hash with action := Function.update hash.action requestId action } }

omit [QueueRuntime] in
/-- `record_failure`. -/
def recordFailure (r : Redis) (d : StreamDelivery) (reason : String) (clock : Int) : Redis :=
  { r with
    failures := Function.update r.failures d.streamId
      (some ⟨d.attempt, reasonText reason, clock⟩) }.hsetAction d .retrying none clock

omit [QueueRuntime] in
/-- `record_replay_processing`. -/
def recordReplayProcessing (r : Redis) (d : StreamDelivery) (clock : Int) : Redis :=
  r.hsetAction d .processing none clock

omit [QueueRuntime] in
/-- `XACK` and `XDEL`. -/
def remove (r : Redis) (streamId : StreamId) : Redis :=
  { r with group := r.group.ack streamId, live := r.live.del streamId }

omit [QueueRuntime] in
/-- `acknowledge`. -/
def acknowledge (r : Redis) (d : StreamDelivery) (workflowProcessingStatus : ProcessingStatus)
    (clock : Int) : Redis :=
  (r.remove d.streamId).hsetAction d .acknowledged (some workflowProcessingStatus) clock

/-- The fields that `dead_letter` keeps of a delivery. -/
def deadLetterFields (d : StreamDelivery) (reason : String) (clock : Int) : DeadLetterFields where
  originalStreamId := some d.streamId
  attemptCount := d.attempt
  failedAt := clock
  failureReason := reasonText reason
  originalFields := some (dumps d.fields)

/-- `dead_letter`. -/
def deadLetter (r : Redis) (d : StreamDelivery) (reason : String) (clock : Int) (now : Nat) :
    Redis :=
  ({ r with dlq := (r.dlq.add now (deadLetterFields d reason clock)).2 }.remove
    d.streamId).hsetAction d .deadLettered (some .failed) clock

/-! ## The commands of an operator -/

/-- What `REPLAY_SCRIPT` answers about a live entry. -/
structure ReplayAnswer where
  created : Bool
  liveStreamId : StreamId
  replayCount : Nat
  requestedAt : Option Int
  enqueuedAt : Option Int
  state : ReplayState
deriving DecidableEq

/-- The other answers of `REPLAY_SCRIPT`. -/
inductive ReplayRefusal where
  | notFound
  | evidenceChanged
  | inProgress
deriving DecidableEq, Repr

omit [QueueRuntime] in
/-- The dead-letter entry a text names. -/
def deadLetterOf? (r : Redis) (dlqId : String) : Option DeadLetterFields :=
  (StreamId.parse dlqId).bind r.dlq.get?

omit [QueueRuntime] in
/-- Whether the last action of a hash, of another request, is under way. -/
def inProgress (hash : ReplayHash) (requestId : String) : Bool :=
  match hash.lastRequestId with
  | none => false
  | some last => last ≠ requestId && (hash.action last).state.any ReplayState.nonterminal

omit [QueueRuntime] in
/-- The fields of a replayed entry. -/
def replayFields (payload dlqId requestId : String) : Fields :=
  [("payload", payload), ("replay_dlq_id", dlqId), ("replay_request_id", requestId)]

omit [QueueRuntime] in
/-- The hash after a replay. -/
def replayedHash (hash : ReplayHash) (requestId : String) (streamId : StreamId) (requestedAt : Int) :
    ReplayHash where
  replayCount := some (hash.replayCount.getD 0 + 1)
  lastRequestId := some requestId
  lastReplayRequestedAt := some requestedAt
  lastReplayEnqueuedAt := some requestedAt
  lastLiveStreamId := some streamId
  action := Function.update hash.action requestId
    { hash.action requestId with
      requestedAt := some requestedAt,
      enqueuedAt := some requestedAt,
      liveStreamId := some streamId,
      state := some .enqueued }

omit [QueueRuntime] in
/-- The end of `REPLAY_SCRIPT`, which adds the entry. -/
def createReplay (r : Redis) (dlqId requestId payload : String) (requestedAt : Int) (now : Nat) :
    ReplayAnswer × Redis :=
  let (streamId, live) := r.live.add now (replayFields payload dlqId requestId)
  let hash := replayedHash (r.replays dlqId) requestId streamId requestedAt
  (⟨true, streamId, hash.replayCount.getD 0, some requestedAt, some requestedAt, .enqueued⟩,
    { r with live := live, replays := Function.update r.replays dlqId hash })

omit [QueueRuntime] in
/-- `REPLAY_SCRIPT`: its answer and the keys after it. -/
def replayScript (r : Redis) (dlqId requestId originalFields payload : String) (requestedAt : Int)
    (now : Nat) : Except ReplayRefusal ReplayAnswer × Redis :=
  match r.deadLetterOf? dlqId with
  | none => (.error .notFound, r)
  | some fields =>
      if fields.originalFields ≠ some originalFields then (.error .evidenceChanged, r)
      else
        let hash := r.replays dlqId
        let action := hash.action requestId
        match action.liveStreamId with
        | some existing =>
            (.ok ⟨false, existing, hash.replayCount.getD 0, action.requestedAt, action.enqueuedAt,
              action.state.getD .enqueued⟩, r)
        | none =>
            if inProgress hash requestId then (.error .inProgress, r)
            else
              let (answer, r) := r.createReplay dlqId requestId payload requestedAt now
              (.ok answer, r)

omit [QueueRuntime] in
/-- One row of `PURGE_BATCH_SCRIPT`. -/
def purgeRow (r : Redis) (row : StreamId × DeadLetterFields) : Redis :=
  { r with
    dlq := r.dlq.del row.1,
    replays := Function.update r.replays row.1.text .empty,
    failures :=
      match row.2.originalStreamId with
      | some streamId => Function.update r.failures streamId none
      | none => r.failures }

omit [QueueRuntime] in
/-- `PURGE_BATCH_SCRIPT`: the entries below a cutoff, at most `limit` of them.
Below `0-0`, the cutoff of the epoch itself, there are none, but Redis refuses
this end of a range with an error. -/
def purgeBatch (r : Redis) (cutoff : StreamId) (limit : Nat) : Redis :=
  ((r.dlq.entries.filter (·.1 < cutoff)).take limit).foldl purgeRow r

/-! ## What the commands leave alone -/

section

variable {r : Redis} {d : StreamDelivery} {state : ReplayState} {status : Option ProcessingStatus}
  {clock : Int}

omit [QueueRuntime] in
/-- A state is written to the replay hashes alone. -/
theorem hsetAction_eq : r.hsetAction d state status clock =
    { r with replays := (r.hsetAction d state status clock).replays } := by
  unfold hsetAction
  split <;> rfl

omit [QueueRuntime] in
@[simp] theorem hsetAction_live : (r.hsetAction d state status clock).live = r.live := by
  rw [hsetAction_eq]

omit [QueueRuntime] in
@[simp] theorem hsetAction_group : (r.hsetAction d state status clock).group = r.group := by
  rw [hsetAction_eq]

omit [QueueRuntime] in
@[simp] theorem hsetAction_dlq : (r.hsetAction d state status clock).dlq = r.dlq := by
  rw [hsetAction_eq]

omit [QueueRuntime] in
@[simp] theorem hsetAction_dedupe : (r.hsetAction d state status clock).dedupe = r.dedupe := by
  rw [hsetAction_eq]

omit [QueueRuntime] in
/-- What is written to a hash depends on the hashes alone. -/
theorem hsetAction_replays {s : Redis} (h : r.replays = s.replays) :
    (r.hsetAction d state status clock).replays = (s.hsetAction d state status clock).replays := by
  unfold hsetAction
  cases replayContext d.fields with
  | none => exact h
  | some context => simp only [h]

/-- A hash after the write of a state to an action. -/
structure StateWritten (old new : ReplayHash) (state : ReplayState) (written : String → Prop) :
    Prop where
  count : new.replayCount = old.replayCount
  lastRequest : new.lastRequestId = old.lastRequestId
  lastLive : new.lastLiveStreamId = old.lastLiveStreamId
  live : ∀ requestId, (new.action requestId).liveStreamId = (old.action requestId).liveStreamId
  here : ∀ requestId, written requestId → (new.action requestId).state = some state
  elsewhere : ∀ requestId, ¬written requestId →
    (new.action requestId).state = (old.action requestId).state

omit [QueueRuntime] in
/-- A worker writes the state of the action that it replays. -/
theorem hsetAction_written (state : ReplayState) (status : Option ProcessingStatus) (clock : Int)
    (dlqId : String) :
    StateWritten (r.replays dlqId) ((r.hsetAction d state status clock).replays dlqId) state
      fun requestId => replayContext d.fields = some (dlqId, requestId) := by
  unfold hsetAction
  cases hc : replayContext d.fields with
  | none => exact ⟨rfl, rfl, rfl, fun _ => rfl, fun _ h => (by cases h), fun _ _ => rfl⟩
  | some context =>
      obtain ⟨dlq, request⟩ := context
      by_cases hd : dlqId = dlq
      · subst hd
        simp only [Function.update_self]
        refine ⟨rfl, rfl, rfl, fun requestId => ?_, fun requestId h => ?_, fun requestId h => ?_⟩
        · by_cases hr : requestId = request
          · subst hr
            simp only [Function.update_self]
          · simp only [Function.update_of_ne hr]
        · cases h
          simp only [Function.update_self]
        · have hr : requestId ≠ request := by
            rintro rfl
            exact h rfl
          simp only [Function.update_of_ne hr]
      · simp only [Function.update_of_ne hd]
        exact ⟨rfl, rfl, rfl, fun _ => rfl, fun _ h => (by cases h; exact absurd rfl hd),
          fun _ _ => rfl⟩

omit [QueueRuntime] in
/-- A worker leaves the hashes that it does not replay alone. -/
theorem hsetAction_of_ne {dlqId : String}
    (h : ∀ requestId, replayContext d.fields ≠ some (dlqId, requestId)) :
    (r.hsetAction d state status clock).replays dlqId = r.replays dlqId := by
  unfold hsetAction
  cases hc : replayContext d.fields with
  | none => rfl
  | some context =>
      refine Function.update_of_ne ?_ ..
      rintro rfl
      exact h context.2 hc

omit [QueueRuntime] in
/-- A worker leaves the actions that it does not replay alone. -/
theorem hsetAction_action {dlqId requestId : String}
    (h : replayContext d.fields ≠ some (dlqId, requestId)) :
    ((r.hsetAction d state status clock).replays dlqId).action requestId =
      (r.replays dlqId).action requestId := by
  unfold hsetAction
  cases hc : replayContext d.fields with
  | none => rfl
  | some context =>
      obtain ⟨dlq, request⟩ := context
      by_cases hd : dlqId = dlq
      · subst hd
        have hr : requestId ≠ request := by
          rintro rfl
          exact h hc
        simp only [Function.update_self, Function.update_of_ne hr]
      · simp only [Function.update_of_ne hd]

omit [QueueRuntime] in
/-- A purge leaves the live stream and its group alone. -/
theorem purgeBatch_live (cutoff : StreamId) (limit : Nat) :
    (r.purgeBatch cutoff limit).live = r.live ∧ (r.purgeBatch cutoff limit).group = r.group ∧
      (r.purgeBatch cutoff limit).dedupe = r.dedupe := by
  unfold purgeBatch
  generalize (r.dlq.entries.filter _).take limit = rows
  induction rows generalizing r with
  | nil => exact ⟨rfl, rfl, rfl⟩
  | cons row rows ih => exact ih (r := r.purgeRow row)

end

/-! ## The replay script -/

section

variable {r : Redis} {dlqId requestId originalFields payload : String} {requestedAt : Int}
  {now : Nat}

/-- The script adds an entry: the dead-letter entry is retained with the same
evidence, the request is new, and the last action of another request is over. -/
structure Replayable (r : Redis) (dlqId requestId originalFields : String) : Prop where
  retained : ∃ fields, r.deadLetterOf? dlqId = some fields ∧
    fields.originalFields = some originalFields
  new : ((r.replays dlqId).action requestId).liveStreamId = none
  free : inProgress (r.replays dlqId) requestId = false

omit [QueueRuntime] in
theorem replayable_iff : r.Replayable dlqId requestId originalFields ↔
    ((r.deadLetterOf? dlqId).any fun fields => fields.originalFields = some originalFields) ∧
      ((r.replays dlqId).action requestId).liveStreamId = none ∧
      inProgress (r.replays dlqId) requestId = false := by
  rw [Option.any_eq_true]
  constructor
  · rintro ⟨⟨fields, hentry, hf⟩, hnew, hfree⟩
    exact ⟨⟨fields, hentry, decide_eq_true hf⟩, hnew, hfree⟩
  · rintro ⟨⟨fields, hentry, hf⟩, hnew, hfree⟩
    exact ⟨⟨fields, hentry, of_decide_eq_true hf⟩, hnew, hfree⟩

instance : Decidable (r.Replayable dlqId requestId originalFields) :=
  decidable_of_iff _ replayable_iff.symm

omit [QueueRuntime] in
/-- The answers of the script: a refusal or a known entry and no write, or a new
entry. -/
theorem replayScript_cases (r : Redis) (dlqId requestId originalFields payload : String)
    (requestedAt : Int) (now : Nat) :
    (∃ refusal, ¬r.Replayable dlqId requestId originalFields ∧
      r.replayScript dlqId requestId originalFields payload requestedAt now = (.error refusal, r)) ∨
    (∃ answer, answer.created = false ∧ (r.deadLetterOf? dlqId).isSome = true ∧
      ((r.replays dlqId).action requestId).liveStreamId = some answer.liveStreamId ∧
      r.replayScript dlqId requestId originalFields payload requestedAt now = (.ok answer, r)) ∨
    (r.Replayable dlqId requestId originalFields ∧
      r.replayScript dlqId requestId originalFields payload requestedAt now =
        (.ok (r.createReplay dlqId requestId payload requestedAt now).1,
          (r.createReplay dlqId requestId payload requestedAt now).2)) := by
  unfold replayScript
  cases he : r.deadLetterOf? dlqId with
  | none =>
      refine .inl ⟨_, fun h => ?_, rfl⟩
      obtain ⟨fields, hentry, -⟩ := h.retained
      cases he.symm.trans hentry
  | some fields =>
      simp only
      by_cases hf : fields.originalFields = some originalFields
      · rw [if_neg (not_not.mpr hf)]
        cases ha : ((r.replays dlqId).action requestId).liveStreamId with
        | some existing => exact .inr (.inl ⟨_, rfl, rfl, rfl, rfl⟩)
        | none =>
            simp only
            cases hp : inProgress (r.replays dlqId) requestId with
            | true =>
                refine .inl ⟨_, fun h => ?_, rfl⟩
                exact Bool.false_ne_true (h.free.symm.trans hp)
            | false => exact .inr (.inr ⟨⟨⟨fields, he, hf⟩, ha, hp⟩, rfl⟩)
      · rw [if_pos hf]
        refine .inl ⟨_, fun h => ?_, rfl⟩
        obtain ⟨fields', hentry, hfields⟩ := h.retained
        cases he.symm.trans hentry
        exact hf hfields

end

end

end Redis

end FreightAP
