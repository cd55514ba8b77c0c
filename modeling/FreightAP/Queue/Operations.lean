import FreightAP.Queue.Cycles
import FreightAP.Queue.Ghost

/-!
# The replay endpoint

A call of `replayDlqEntry` reads a dead-letter entry, decodes it, and hands its
evidence to the script.  Other clients come between the read and the script: they purge
the entry, replay it, or process its replay.

An entry never comes back under an id that was given out, so the evidence that a
call holds is that of the entry as long as there is one (`Vetted`).  So a call
answers as if all of it ran at its last command (`replay_atomic`).  And what
such a call answers can be read off the item that the list of dead letters
shows (`replay_as_listed`), because an action that has no entry has no field
(`Blank`).
-/

namespace FreightAP

open Transition

/-! ## The endpoint -/

/-- `ReplayResponse`. -/
structure ReplayResponse where
  dlqId : String
  requestId : String
  created : Bool
  replayCount : Nat
  state : ReplayState
  requestedAt : Int
  enqueuedAt : Int
  liveStreamId : String
deriving DecidableEq

/-- The `HTTPException` of an endpoint of the queue. -/
structure QueueProblem where
  statusCode : Nat
  code : String
  message : String
deriving DecidableEq

/-- What `replay_dlq_entry` returns.  A time that is not there is that of the
return. -/
def Redis.ReplayAnswer.response (answer : Redis.ReplayAnswer) (dlqId requestId : String)
    (later : Int) : ReplayResponse where
  dlqId := dlqId
  requestId := requestId
  created := answer.created
  replayCount := answer.replayCount
  state := answer.state
  requestedAt := answer.requestedAt.getD later
  enqueuedAt := answer.enqueuedAt.getD later
  liveStreamId := answer.liveStreamId.text

/-- The exceptions of `replay_dead_letter`. -/
def ReplayError.problem : ReplayError → QueueProblem
  | .refused .notFound => ⟨404, "dlq_not_found", "DLQ entry not found"⟩
  | .invalidId =>
      ⟨422, "invalid_dlq_id", "cursor must be a Redis stream ID such as 1752940000000-0"⟩
  | .notReplayable message => ⟨409, "not_replayable", message⟩
  | .refused .inProgress =>
      ⟨409, "replay_in_progress", "another replay action is still in progress"⟩
  | .refused .evidenceChanged =>
      ⟨409, "queue_operation_error", "DLQ evidence changed during replay validation"⟩

/-- How a call of `replay_dlq_entry` ends, once it has ended. -/
def ReplayPhase.reply? : ReplayPhase → Option (Except ReplayError Redis.ReplayAnswer)
  | .answered _ _ answer => some (.ok answer)
  | .failed error => some (.error error)
  | .idle => none
  | .validated _ _ _ => none
  | .stopped => none

section

variable [QueueRuntime]

open QueueRuntime

/-- `replay_dead_letter`: the status and the response, or the exception. -/
def replayDeadLetter (r : Redis) (dlqId requestId : String) (clock later : Int) (now : Nat) :
    Except QueueProblem (Nat × ReplayResponse) × Redis :=
  match replayDlqEntry r dlqId requestId clock now with
  | (.error error, r) => (.error error.problem, r)
  | (.ok (_, answer), r) =>
      (.ok (if answer.created then 201 else 200, answer.response dlqId requestId later), r)

section

variable {r r' : Redis} {dlqId requestId : String} {clock later : Int} {now : Nat}

theorem replayDeadLetter_error {error : ReplayError}
    (h : replayDlqEntry r dlqId requestId clock now = (.error error, r')) :
    replayDeadLetter r dlqId requestId clock later now = (.error error.problem, r') := by
  simp only [replayDeadLetter, h]

theorem replayDeadLetter_ok {evidence : DecodedDLQEvidence} {answer : Redis.ReplayAnswer}
    (h : replayDlqEntry r dlqId requestId clock now = (.ok (evidence, answer), r')) :
    replayDeadLetter r dlqId requestId clock later now =
      (.ok (if answer.created then 201 else 200, answer.response dlqId requestId later), r') := by
  simp only [replayDeadLetter, h]

end

/-- The evidence keeps the text that it was read from. -/
theorem decodeDlqEvidence_originalFields {fields : DeadLetterFields}
    {evidence : DecodedDLQEvidence} (h : decodeDlqEvidence fields = .ok evidence) :
    fields.originalFields = some evidence.originalFieldsJson := by
  unfold decodeDlqEvidence at h
  split at h
  · cases h
  next raw hraw =>
    split at h
    · cases h
    · cases h
    · split at h
      · cases h
      · split at h
        · cases h
        · cases h
          exact hraw

end

namespace Queue

/-! ## Evidence -/

section

variable [QueueRuntime] {q q' : Queue} {a : QueueAction} {r : Redis}

/-- A call that waits for the script holds the evidence of its entry, as long as
the entry is there. -/
def Vetted (q : Queue) : Prop :=
  ∀ c dlqId requestId evidence, q.replay c = .validated dlqId requestId evidence →
    ∃ id, StreamId.parse dlqId = some id ∧ id ≤ q.redis.dlq.lastId ∧
      ∀ fields, (id, fields) ∈ q.redis.dlq.entries → decodeDlqEvidence fields = .ok evidence

theorem Vetted.step (h : q.Vetted) (hreg : q.Regular) (hs : Stepped q a q') : q'.Vetted := by
  intro c dlqId requestId evidence hc
  have hchanged := hs.effect.dlq_changed
  have hkeep : ∀ {id : StreamId}, id ≤ q.redis.dlq.lastId →
      (∀ fields, (id, fields) ∈ q.redis.dlq.entries → decodeDlqEvidence fields = .ok evidence) →
      id ≤ q'.redis.dlq.lastId ∧ ∀ fields, (id, fields) ∈ q'.redis.dlq.entries →
        decodeDlqEvidence fields = .ok evidence := by
    intro id hid hev
    exact ⟨hid.trans hchanged.lastId, fun fields hm => hev fields (hchanged.mem_old hid hm)⟩
  rcases hs.validated_cases hc with hc | ⟨-, fields, hentry, hev⟩
  · obtain ⟨id, hparse, hid, hold⟩ := h c dlqId requestId evidence hc
    exact ⟨id, hparse, hkeep hid hold⟩
  · obtain ⟨id, hparse, hget⟩ := Option.bind_eq_some_iff.mp hentry
    have hmem := (EntryStream.get?_iff hreg.dlq).mp hget
    refine ⟨id, hparse, hkeep (hreg.dlq.le _ (hreg.dlq.mem_log hmem)) fun fields' hm => ?_⟩
    -- One entry has the id.
    cases hget.symm.trans ((EntryStream.get?_iff hreg.dlq).mpr hm)
    exact hev

omit [QueueRuntime] in
/-- What a call that waits finds. -/
theorem Regular.deadLetterOf?_eq_some (h : q.Regular) {dlqId : String} {id : StreamId}
    (hparse : StreamId.parse dlqId = some id) {fields : DeadLetterFields} :
    q.redis.deadLetterOf? dlqId = some fields ↔ (id, fields) ∈ q.redis.dlq.entries := by
  rw [Redis.deadLetterOf?, hparse, Option.bind_some, EntryStream.get?_iff h.dlq]

end

/-! ## Calls and other clients -/

section

variable [QueueRuntime] (maxAttempts : Nat) {q₀ q q' : Queue} {as : List QueueAction}

theorem Start.vetted (h : q.Start) : q.Vetted := fun c dlqId requestId evidence hc =>
  absurd hc (h.replay c dlqId requestId evidence)

/-- A run of the queue keeps the evidence of its calls. -/
theorem Start.run_vetted (h₀ : q₀.Start) (h : Run (Fires (step maxAttempts)) q₀ as q) :
    q.Regular ∧ q.Vetted := by
  refine h.preserves (fun q => q.Regular ∧ q.Vetted) ⟨h₀.regular, h₀.vetted⟩ ?_
  rintro t a u ⟨hreg, hvetted⟩ hs
  have hs' := step_cases maxAttempts hs
  exact ⟨hreg.step hs', hvetted.step hreg hs'⟩

/-- A call that ends before the script has written nothing. -/
theorem requestReplay_failed {c : Nat} {dlqId requestId : String} {error : ReplayError}
    (h : (q.requestReplay c dlqId requestId).replay c = .failed error) (clock : Int)
    (now : Nat) :
    replayDlqEntry q.redis dlqId requestId clock now = (.error error, q.redis) := by
  have hself : ∀ p : ReplayPhase, (q.respond c p).replay c = p := fun p => Function.update_self ..
  unfold requestReplay at h
  unfold replayDlqEntry
  cases hparse : (StreamId.parse dlqId).isNone with
  | true =>
      rw [hparse, if_pos rfl, hself] at h
      cases h
      rfl
  | false =>
      rw [hparse, if_neg Bool.false_ne_true] at h
      cases hentry : q.redis.deadLetterOf? dlqId with
      | none =>
          simp only [hentry, hself] at h
          cases h
          rfl
      | some fields =>
          cases hev : decodeDlqEvidence fields with
          | error message =>
              simp only [hentry, hev, hself] at h
              cases h
              simp only [hev]
              rfl
          | ok evidence =>
              simp only [hentry, hev, hself] at h
              cases h

/-- The script decides as the whole call would. -/
theorem replayDlqEntry_validated (hreg : q.Regular) (h : q.Vetted) {c : Nat}
    {dlqId requestId : String} {evidence : DecodedDLQEvidence}
    (hc : q.replay c = .validated dlqId requestId evidence) (clock : Int) (now : Nat) :
    replayDlqEntry q.redis dlqId requestId clock now =
      match q.redis.replayScript dlqId requestId evidence.originalFieldsJson
          (QueueRuntime.modelDumpJson evidence.job) clock now with
      | (.ok answer, r) => (.ok (evidence, answer), r)
      | (.error refusal, r) => (.error (.refused refusal), r) := by
  obtain ⟨id, hparse, -, hev⟩ := h c dlqId requestId evidence hc
  unfold replayDlqEntry
  rw [hparse, Option.isNone_some, if_neg Bool.false_ne_true]
  cases hentry : q.redis.deadLetterOf? dlqId with
  | none =>
      unfold Redis.replayScript
      rw [hentry]
  | some fields =>
      have hdecoded := hev fields ((hreg.deadLetterOf?_eq_some hparse).mp hentry)
      split
      next hnone => cases hnone
      next fields' hsome =>
        cases hsome
        split
        next message herror => cases herror.symm.trans hdecoded
        next evidence' hok =>
          cases hok.symm.trans hdecoded
          rfl

/-- The script never finds other evidence than it is given. -/
theorem replayDlqEntry_ne_evidenceChanged (r : Redis) (dlqId requestId : String)
    (clock : Int) (now : Nat) :
    (replayDlqEntry r dlqId requestId clock now).1 ≠ .error (.refused .evidenceChanged) := by
  unfold replayDlqEntry
  split
  · intro h
    cases h
  · split
    · intro h
      cases h
    next fields hentry =>
      split
      · intro h
        cases h
      next evidence hev =>
        have hfields := decodeDlqEvidence_originalFields hev
        simp only [Redis.replayScript, hentry, hfields, ne_eq, not_true_eq_false, if_false]
        split
        · intro h
          cases h
        next hsome =>
          split at hsome
          · cases hsome
          · split at hsome
            · cases hsome
              intro h
              cases h
            · cases hsome

/-- Whatever other clients do between the commands of a call, the call answers,
and leaves the keys, as if all of it ran at its last command.  So no call finds
that the evidence has changed. -/
theorem replay_atomic (h₀ : q₀.Start) (h : Run (Fires (step maxAttempts)) q₀ as q) (c : Nat)
    (dlqId requestId : String) (clock : Int) (now : Nat) :
    (∀ error, q.step maxAttempts (.request c dlqId requestId) = some q' →
      q'.replay c = .failed error →
      replayDlqEntry q.redis dlqId requestId clock now = (.error error, q'.redis)) ∧
    (∀ evidence, q.replay c = .validated dlqId requestId evidence →
      q.step maxAttempts (.evaluate c clock now) = some q' →
      (q'.replay c).reply? =
          some ((replayDlqEntry q.redis dlqId requestId clock now).1.map Prod.snd) ∧
        q'.redis = (replayDlqEntry q.redis dlqId requestId clock now).2 ∧
        q'.replay c ≠ .failed (.refused .evidenceChanged)) := by
  obtain ⟨hreg, hvetted⟩ := h₀.run_vetted maxAttempts h
  refine ⟨fun error hs hfailed => ?_, fun evidence hc hs => ?_⟩
  · simp only [step] at hs
    split at hs
    · split at hs
      · cases hs
      · cases hs
        rw [requestReplay_failed hfailed]
        unfold requestReplay
        split
        · rfl
        · split
          · rfl
          · split <;> rfl
    · cases hs
  · have hcall := replayDlqEntry_validated hreg hvetted hc clock now
    have hnever := replayDlqEntry_ne_evidenceChanged q.redis dlqId requestId clock now
    have hself : ∀ (s : Queue) (p : ReplayPhase), (s.respond c p).replay c = p := fun s p =>
      Function.update_self ..
    simp only [step, hc] at hs
    generalize q.redis.replayScript dlqId requestId evidence.originalFieldsJson
      (QueueRuntime.modelDumpJson evidence.job) clock now = script at hcall hs
    obtain ⟨result, r⟩ := script
    rw [hcall] at hnever ⊢
    cases result with
    | ok answer =>
        cases hs
        rw [hself]
        exact ⟨rfl, rfl, fun he => by cases he⟩
    | error refusal =>
        cases hs
        rw [hself]
        refine ⟨rfl, rfl, fun he => hnever ?_⟩
        cases he
        rfl

omit [QueueRuntime] in
/-- Two calls of one request.  The script of the other call comes between the
commands of the second one. -/
theorem replay_atomic_twice :
    letI := flatRuntime
    ∃ q q' evidence, Run (Fires (step 1)) .empty (replayedJob.take 9) q ∧
      q.replay 1 = .validated "2-0" sampleRequest evidence ∧
      q.step 1 (.evaluate 1 3 3) = some q' ∧
      (q'.replay 1).reply? =
        some ((replayDlqEntry q.redis "2-0" sampleRequest 3 3).1.map Prod.snd) := by
  rw [flatRuntime_eq]
  let _ := quickRuntime
  have hdata : (exec (step 1) .empty (replayedJob.take 9)).any (fun q =>
      ((q.replay 1).validated?.any fun call => call.1 = "2-0" && call.2.1 = sampleRequest) &&
        (q.step 1 (.evaluate 1 3 3)).isSome) = true := by
    decide +kernel
  obtain ⟨q, hq, hdata⟩ := (Option.any_eq_true _ _).mp hdata
  obtain ⟨hwaits, hs⟩ := (Bool.and_eq_true _ _).mp hdata
  obtain ⟨⟨dlqId, requestId, evidence⟩, hwaits, hcall⟩ := (Option.any_eq_true _ _).mp hwaits
  obtain ⟨q', hs⟩ := Option.isSome_iff_exists.mp hs
  simp only [Bool.and_eq_true, decide_eq_true_eq] at hcall
  obtain ⟨rfl, rfl⟩ := hcall
  have hvalidated : q.replay 1 = .validated "2-0" sampleRequest evidence := by
    cases hp : q.replay 1 with
    | validated d r e =>
        rw [hp] at hwaits
        cases hwaits
        rfl
    | idle =>
        rw [hp] at hwaits
        cases hwaits
    | answered d r answer =>
        rw [hp] at hwaits
        cases hwaits
    | failed error =>
        rw [hp] at hwaits
        cases hwaits
    | stopped =>
        rw [hp] at hwaits
        cases hwaits
  have hanswer := (replay_atomic 1 empty_start (run_of_exec hq) 1 "2-0" sampleRequest 3 3).2
    evidence hvalidated hs
  exact ⟨q, q', evidence, run_of_exec hq, hvalidated, hs, hanswer.1⟩

end

/-! ## Actions without an entry -/

section

variable [QueueRuntime] {q q' : Queue} {r : Redis}

/-- An action of a retained entry that added nothing has no field. -/
def Blank (r : Redis) : Prop :=
  ∀ dlqId, retained r.dlq dlqId = true → ∀ requestId,
    ((r.replays dlqId).action requestId).liveStreamId = none →
    (r.replays dlqId).action requestId = .empty

omit [QueueRuntime] in
/-- A worker writes to actions that have an entry. -/
theorem Blank.written (hsafe : q.ReplaySafe) (h : Blank q.redis) {c : Nat} {d : StreamDelivery}
    {state : ReplayState} {status : Option ProcessingStatus} {clock : Int}
    (hentry : (q.delivery c).held? = some (d.streamId, d.fields))
    (hr : r.replays = (q.redis.hsetAction d state status clock).replays) {dlqId : String}
    (hret : retained q.redis.dlq dlqId = true) (requestId : String)
    (hnone : ((r.replays dlqId).action requestId).liveStreamId = none) :
    (r.replays dlqId).action requestId = .empty := by
  rw [hr] at hnone ⊢
  rw [(Redis.hsetAction_written state status clock dlqId).live] at hnone
  rw [Redis.hsetAction_action fun hc => ?_]
  · exact h dlqId hret requestId hnone
  · cases hnone.symm.trans (hsafe.live_of_context hentry hret hc)

/-- Every effect keeps the actions right. -/
theorem Effect.blank (hsafe : q.ReplaySafe) (h : Blank q.redis) (he : q.Effect r) : Blank r := by
  intro dlqId hret requestId hnone
  rcases he.retained_cases hsafe hret with hold | ⟨hempty, -⟩
  swap
  · rw [hempty]
    rfl
  cases he with
  | quiet _ _ hr _ =>
      rw [hr] at hnone ⊢
      exact h dlqId hold requestId hnone
  | enqueued _ hfresh =>
      simp only [Redis.enqueueJob, hfresh] at hnone ⊢
      exact h dlqId hold requestId hnone
  | published => exact h dlqId hold requestId hnone
  | expired => exact h dlqId hold requestId hnone
  | touched _ _ _ _ hentry _ _ _ hr _ => exact h.written hsafe hentry hr hold requestId hnone
  | removed _ _ _ _ _ hentry _ _ _ hr _ => exact h.written hsafe hentry hr hold requestId hnone
  | @replayed c dlq request evidence clock now _ _ =>
      change ((Function.update q.redis.replays dlq _ dlqId).action requestId).liveStreamId = _
        at hnone
      show (Function.update q.redis.replays dlq _ dlqId).action requestId = _
      by_cases hd : dlqId = dlq
      · subst hd
        rw [Function.update_self] at hnone ⊢
        by_cases hr : requestId = request
        · subst hr
          simp only [Redis.replayedHash, Function.update_self] at hnone
          cases hnone
        · simp only [Redis.replayedHash, Function.update_of_ne hr] at hnone ⊢
          exact h dlqId hold requestId hnone
      · rw [Function.update_of_ne hd] at hnone ⊢
        exact h dlqId hold requestId hnone
  | @purged cutoff limit =>
      have hsame := ((purgeBatch_retained cutoff limit hsafe.regular.dlq).1 dlqId hret).2
      rw [hsame] at hnone ⊢
      exact h dlqId hold requestId hnone

/-- The hashes of the retained entries are right. -/
structure Hashes (q : Queue) : Prop where
  safe : q.ReplaySafe
  last : LastActions q.redis
  blank : Blank q.redis

theorem Hashes.step (h : q.Hashes) {a : QueueAction} (hs : Stepped q a q') : q'.Hashes where
  safe := h.safe.step hs
  last := hs.effect.lastActions h.safe h.last
  blank := hs.effect.blank h.safe h.blank

omit [QueueRuntime] in
theorem Start.hashes (h : q.Start) : q.Hashes where
  safe := h.replaySafe
  last dlqId _ := by
    rw [h.replays dlqId]
    exact .empty
  blank dlqId _ requestId _ := by
    rw [h.replays dlqId]
    rfl

omit [QueueRuntime] in
/-- The last request of a hash that is right is named. -/
theorem Hashes.last_ne_empty (h : q.Hashes) {dlqId : String}
    (hret : retained q.redis.dlq dlqId = true) :
    (q.redis.replays dlqId).lastRequestId.filter (· ≠ "") =
      (q.redis.replays dlqId).lastRequestId := by
  cases hlast : (q.redis.replays dlqId).lastRequestId with
  | none => rfl
  | some requestId =>
      refine Option.filter_some_pos (decide_eq_true ?_)
      obtain ⟨id, -, hid⟩ := (h.last dlqId hret).last requestId hlast
      obtain ⟨fields, -, hc⟩ := ((h.safe.replays.hash dlqId hret).action requestId id).mp hid
      exact (replayContext_ne_empty hc).2

omit [QueueRuntime] in
/-- An action has an entry exactly if an entry was added for it. -/
theorem Hashes.known_iff (h : q.Hashes) {dlqId requestId : String}
    (hret : retained q.redis.dlq dlqId = true) :
    (∃ x ∈ q.redis.live.log, replayContext x.2 = some (dlqId, requestId)) ↔
      ((q.redis.replays dlqId).action requestId).liveStreamId ≠ none := by
  rw [Option.ne_none_iff_exists']
  constructor
  · rintro ⟨x, hx, hc⟩
    exact ⟨x.1, ((h.safe.replays.hash dlqId hret).action requestId x.1).mpr ⟨x.2, hx, hc⟩⟩
  · rintro ⟨id, hid⟩
    obtain ⟨fields, hm, hc⟩ := ((h.safe.replays.hash dlqId hret).action requestId id).mp hid
    exact ⟨(id, fields), hm, hc⟩

omit [QueueRuntime] in
/-- For a request that added nothing, the script looks at the state that the
list shows. -/
theorem Hashes.inProgress_eq (h : q.Hashes) {dlqId requestId : String}
    (hret : retained q.redis.dlq dlqId = true)
    (hnew : ((q.redis.replays dlqId).action requestId).liveStreamId = none) :
    Redis.inProgress (q.redis.replays dlqId) requestId =
      (replaySummary (q.redis.replays dlqId)).state.any ReplayState.nonterminal := by
  unfold Redis.inProgress
  simp only [replaySummary, h.last_ne_empty hret]
  cases hlast : (q.redis.replays dlqId).lastRequestId with
  | none => rfl
  | some last =>
      have hne : last ≠ requestId := by
        rintro rfl
        obtain ⟨id, -, hid⟩ := (h.last dlqId hret).last last hlast
        cases hnew.symm.trans hid
      simp only [ne_eq, hne, not_false_eq_true, decide_true, Bool.true_and, Option.map_some,
        Option.bind_some]

end

/-! ## Items and replays -/

section

variable [QueueRuntime] {r : Redis}

/-- The item of an entry on a page. -/
def listedItem (r : Redis) (row : StreamId × DeadLetterFields) : DLQEntry :=
  dlqEntryFromFields row.1.text row.2 (r.replays row.1.text)

/-- The items of a page are those of entries, and another state of the hashes
changes the items alone. -/
theorem listDlqEntries_items {limit : Nat} {cursor : Option String} {page : DLQPage}
    (h : listDlqEntries r limit cursor = .ok page) :
    ∃ rows : List (StreamId × DeadLetterFields), (∀ row ∈ rows, row ∈ r.dlq.entries) ∧
      page.items = rows.map (listedItem r) ∧ ∀ s : Redis, s.dlq = r.dlq →
        listDlqEntries s limit cursor = .ok { page with items := rows.map (listedItem s) } := by
  unfold listDlqEntries at h ⊢
  cases hcursor : cursorBound cursor with
  | error message =>
      rw [hcursor] at h
      cases h
  | ok maximum =>
      rw [hcursor] at h
      cases h
      refine ⟨((r.dlq.newest maximum).take (limit + 1)).take limit, fun row hrow => ?_, rfl,
        fun s hs => ?_⟩
      · have hmem := List.mem_of_mem_take (List.mem_of_mem_take hrow)
        exact (EntryStream.mem_newest.mp hmem).1
      · rw [hs]
        rfl

omit [QueueRuntime] in
/-- The summary after a replay. -/
theorem replaySummary_replayedHash {hash : ReplayHash} {requestId : String} (id : StreamId)
    (clock : Int) (hne : requestId ≠ "") (hblank : hash.action requestId = .empty) :
    replaySummary (Redis.replayedHash hash requestId id clock) =
      ⟨(replaySummary hash).count + 1, some requestId, some clock, some clock, some id.text,
        some .enqueued, none⟩ := by
  have hnamed : (some requestId).filter (· ≠ "") = some requestId :=
    Option.filter_some_pos (decide_eq_true hne)
  unfold replaySummary
  simp only [Redis.replayedHash, hnamed, Option.map_some, Option.bind_some, Function.update_self,
    hblank, ReplayAction.empty, Option.getD_some]

omit [QueueRuntime] in
theorem parse_text_isNone (id : StreamId) : (StreamId.parse id.text).isNone = false := by
  rw [StreamId.parse_text]
  rfl

/-- A new hash of one entry changes the replays of its item. -/
theorem map_listedItem_update {s : Redis} {id : StreamId} {hash : ReplayHash}
    (hs : s.replays = Function.update r.replays id.text hash)
    (rows : List (StreamId × DeadLetterFields)) :
    rows.map (listedItem s) = (rows.map (listedItem r)).map fun other =>
      if other.dlqId = id.text then { other with replay := replaySummary hash } else other := by
  rw [List.map_map]
  refine List.map_congr_left fun row _ => ?_
  show listedItem s row = if row.1.text = id.text then
    { listedItem r row with replay := replaySummary hash } else listedItem r row
  unfold listedItem
  rw [hs]
  by_cases hrow : row.1.text = id.text
  · rw [if_pos hrow, hrow, Function.update_self]
    rfl
  · rw [if_neg hrow, Function.update_of_ne hrow]

/-- The call, of an entry that cannot be decoded. -/
theorem replayDlqEntry_undecoded {dlqId : String} {fields : DeadLetterFields} {message : String}
    (hparse : (StreamId.parse dlqId).isNone = false) (hentry : r.deadLetterOf? dlqId = some fields)
    (hev : decodeDlqEvidence fields = .error message) (requestId : String) (clock : Int)
    (now : Nat) :
    replayDlqEntry r dlqId requestId clock now = (.error (.notReplayable message), r) := by
  unfold replayDlqEntry
  simp only [hparse, hentry, hev, Bool.false_eq_true, if_false]

/-- The call, of an entry that is there and can be decoded. -/
theorem replayDlqEntry_decoded {dlqId : String} {fields : DeadLetterFields}
    {evidence : DecodedDLQEvidence} (hparse : (StreamId.parse dlqId).isNone = false)
    (hentry : r.deadLetterOf? dlqId = some fields) (hev : decodeDlqEvidence fields = .ok evidence)
    (requestId : String) (clock : Int) (now : Nat) :
    replayDlqEntry r dlqId requestId clock now =
      match ((r.replays dlqId).action requestId).liveStreamId with
      | some existing =>
          (.ok (evidence, ⟨false, existing, (r.replays dlqId).replayCount.getD 0,
            ((r.replays dlqId).action requestId).requestedAt,
            ((r.replays dlqId).action requestId).enqueuedAt,
            ((r.replays dlqId).action requestId).state.getD .enqueued⟩), r)
      | none =>
          if Redis.inProgress (r.replays dlqId) requestId then (.error (.refused .inProgress), r)
          else
            let created := r.createReplay dlqId requestId
              (QueueRuntime.modelDumpJson evidence.job) clock now
            (.ok (evidence, created.1), created.2) := by
  unfold replayDlqEntry Redis.replayScript
  simp only [hparse, hentry, hev, decodeDlqEvidence_originalFields hev, ne_eq, not_true_eq_false,
    if_false, Bool.false_eq_true]
  cases ((r.replays dlqId).action requestId).liveStreamId with
  | some existing => rfl
  | none =>
      cases Redis.inProgress (r.replays dlqId) requestId with
      | true => rfl
      | false => rfl

end

/-! ## Runs -/

section

variable [QueueRuntime] (maxAttempts : Nat) {q₀ q : Queue} {as : List QueueAction}

theorem Start.run_hashes (h₀ : q₀.Start) (h : Run (Fires (step maxAttempts)) q₀ as q) : q.Hashes :=
  h.preserves Hashes h₀.hashes fun _ _ _ ht hs => ht.step (step_cases maxAttempts hs)

/-- A page tells what a replay of an item of it answers.  An item that is said
not to be replayable is refused with the reason it shows; a request that added
an entry answers with the id of this entry; another one is refused while the state
of the item is that of an action under way.  Else one entry is added, and the page
then shows the item with one replay more, and all others as they were. -/
theorem replay_as_listed (h₀ : q₀.Start) (h : Run (Fires (step maxAttempts)) q₀ as q)
    {limit : Nat} {cursor : Option String} {page : DLQPage}
    (hpage : listDlqEntries q.redis limit cursor = .ok page) {item : DLQEntry}
    (hitem : item ∈ page.items) {requestId : String} (hne : requestId ≠ "") (clock later : Int)
    (now : Nat) :
    let call := replayDeadLetter q.redis item.dlqId requestId clock later now
    let known := ∃ x ∈ q.redis.live.log, replayContext x.2 = some (item.dlqId, requestId)
    let underWay := item.replay.state.any ReplayState.nonterminal = true
    (∀ message ∈ item.replayBlockReason,
      call = (.error ⟨409, "not_replayable", message⟩, q.redis)) ∧
    (item.replayBlockReason = none → ∀ x ∈ q.redis.live.log,
      replayContext x.2 = some (item.dlqId, requestId) → ∃ response,
        call = (.ok (200, response), q.redis) ∧ response.liveStreamId = x.1.text ∧
        response.created = false ∧ response.replayCount = item.replay.count) ∧
    (item.replayBlockReason = none → ¬known → underWay →
      call = (.error ⟨409, "replay_in_progress", "another replay action is still in progress"⟩,
        q.redis)) ∧
    (item.replayBlockReason = none → ¬known → ¬underWay → ∃ id fields r,
      call = (.ok (201, ⟨item.dlqId, requestId, true, item.replay.count + 1, .enqueued, clock,
        clock, id.text⟩), r) ∧
      r.live.log = q.redis.live.log ++ [(id, fields)] ∧
      replayContext fields = some (item.dlqId, requestId) ∧
      listDlqEntries r limit cursor = .ok { page with
        items := page.items.map fun other =>
          if other.dlqId = item.dlqId then
            { other with
              replay := ⟨item.replay.count + 1, some requestId, some clock, some clock,
                some id.text, some .enqueued, none⟩ }
          else other }) := by
  have hhashes := h₀.run_hashes maxAttempts h
  have hreg := hhashes.safe.regular
  obtain ⟨rows, hrows, hitems, hlisted⟩ := listDlqEntries_items hpage
  rw [hitems] at hitem
  obtain ⟨row, hrow, rfl⟩ := List.mem_map.mp hitem
  have hparse := StreamId.parse_text row.1
  have hentry : q.redis.deadLetterOf? row.1.text = some row.2 :=
    (hreg.deadLetterOf?_eq_some hparse).mpr (hrows row hrow)
  have hret : retained q.redis.dlq row.1.text = true := Option.isSome_iff_exists.mpr ⟨_, hentry⟩
  have hsome := parse_text_isNone row.1
  intro call known underWay
  have hknown : known ↔ ((q.redis.replays row.1.text).action requestId).liveStreamId ≠ none :=
    hhashes.known_iff hret
  cases hev : decodeDlqEvidence row.2 with
  | error message =>
      have hreason : (listedItem q.redis row).replayBlockReason = some message := by
        simp only [listedItem, dlqEntryFromFields, hev]
      have hcall : call = (.error ⟨409, "not_replayable", message⟩, q.redis) :=
        replayDeadLetter_error (replayDlqEntry_undecoded hsome hentry hev requestId clock now)
      rw [hreason]
      refine ⟨fun m hm => ?_, fun hnone => ?_, fun hnone => ?_, fun hnone => ?_⟩
      · cases hm
        exact hcall
      · cases hnone
      · cases hnone
      · cases hnone
  | ok evidence =>
      have hreason : (listedItem q.redis row).replayBlockReason = none := by
        simp only [listedItem, dlqEntryFromFields, hev]
      have hcall := replayDlqEntry_decoded hsome hentry hev requestId clock now
      rw [hreason]
      refine ⟨fun m hm => ?_, fun _ x hx hcontext => ?_, fun _ hk hbusy => ?_,
        fun _ hk hfree => ?_⟩
      · cases hm
      · have hid : ((q.redis.replays row.1.text).action requestId).liveStreamId = some x.1 :=
          ((hhashes.safe.replays.hash _ hret).action requestId x.1).mpr ⟨x.2, hx, hcontext⟩
        simp only [hid] at hcall
        exact ⟨_, replayDeadLetter_ok hcall, rfl, rfl, rfl⟩
      · have hnew := not_not.mp (mt hknown.mpr hk)
        have hprogress : Redis.inProgress (q.redis.replays row.1.text) requestId = true :=
          (hhashes.inProgress_eq hret hnew).trans hbusy
        simp only [hnew, hprogress, if_true] at hcall
        exact replayDeadLetter_error hcall
      · have hnew := not_not.mp (mt hknown.mpr hk)
        have hprogress : Redis.inProgress (q.redis.replays row.1.text) requestId = false :=
          (hhashes.inProgress_eq hret hnew).trans (Bool.eq_false_iff.mpr hfree)
        simp only [hnew, hprogress, Bool.false_eq_true, if_false] at hcall
        refine ⟨_, _, (q.redis.createReplay row.1.text requestId
          (QueueRuntime.modelDumpJson evidence.job) clock now).2, replayDeadLetter_ok hcall, rfl,
          ?_, ?_⟩
        · have hne' := row.1.text_ne_empty
          simp [replayContext, Redis.replayFields, List.lookup_cons, hne, hne', listedItem,
            dlqEntryFromFields]
        · refine (hlisted (q.redis.createReplay row.1.text requestId
            (QueueRuntime.modelDumpJson evidence.job) clock now).2 rfl).trans ?_
          rw [hitems, map_listedItem_update (r := q.redis) rfl,
            replaySummary_replayedHash _ _ hne (hhashes.blank _ hret _ hnew)]
          rfl

omit [QueueRuntime] in
/-- The dead-lettered job is on the page, and a replay of it adds an entry. -/
theorem replay_as_listed_created :
    letI := flatRuntime
    ∃ q page item id r, Run (Fires (step 1)) .empty (replayedJob.take 6) q ∧
      listDlqEntries q.redis 1 none = .ok page ∧ item ∈ page.items ∧
      replayDeadLetter q.redis item.dlqId sampleRequest 3 4 3 =
        (.ok (201, ⟨item.dlqId, sampleRequest, true, item.replay.count + 1, .enqueued, 3, 3,
          id⟩), r) := by
  rw [flatRuntime_eq]
  let _ := quickRuntime
  have hdata : (exec (step 1) .empty (replayedJob.take 6)).any (fun q =>
      (listDlqEntries q.redis 1 none).toOption.any fun page => page.items.any fun item =>
        item.replayBlockReason.isNone && item.replay.state.isNone &&
          q.redis.live.log.all fun x => (replayContext x.2).isNone) = true := by
    decide +kernel
  obtain ⟨q, hq, hdata⟩ := (Option.any_eq_true _ _).mp hdata
  obtain ⟨page, hpage, hdata⟩ := (Option.any_eq_true _ _).mp hdata
  obtain ⟨item, hitem, hdata⟩ := List.any_eq_true.mp hdata
  simp only [Bool.and_eq_true, Option.isNone_iff_eq_none, List.all_eq_true] at hdata
  obtain ⟨⟨hreason, hstate⟩, hlog⟩ := hdata
  have hok : listDlqEntries q.redis 1 none = .ok page := by
    cases hresult : listDlqEntries q.redis 1 none with
    | ok page' =>
        rw [hresult] at hpage
        cases hpage
        rfl
    | error message =>
        rw [hresult] at hpage
        cases hpage
  obtain ⟨-, -, -, hcreated⟩ := replay_as_listed 1 empty_start (run_of_exec hq) hok hitem
    (show sampleRequest ≠ "" by decide) 3 4 3
  obtain ⟨id, -, r, hcall, -⟩ := hcreated hreason
    (fun ⟨x, hx, hc⟩ => by cases (hlog x hx).symm.trans hc)
    (fun hbusy => by
      rw [hstate] at hbusy
      cases hbusy)
  exact ⟨q, page, item, id.text, r, run_of_exec hq, hok, hitem, hcall⟩

end

end Queue

end FreightAP
