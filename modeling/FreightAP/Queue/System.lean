import FreightAP.Lib.Transition
import FreightAP.Queue.Redis

/-!
# Consumers and operators of the queue

Any number of deliveries and of replay requests on the queue.  A delivery is
one hold of an entry by a consumer: from the read or the reclaim that hands it
out to the command that ends it, or to a crash at any point.  The run of the
workflow is one step that returns or raises; what it does is
modelled elsewhere.

A heartbeat belongs to a delivery that started its workflow.  Its last command
can arrive after the end of the delivery.
-/

namespace FreightAP

open Transition

/-! ## The parties -/

/-- How a run of the workflow ends. -/
inductive RunOutcome where
  | returned (processingStatus : ProcessingStatus)
  | raised (reason : String)
deriving DecidableEq

/-- Where a delivery is. -/
inductive DeliveryPhase where
  | idle
  | claimed (streamId : StreamId) (fields : Fields)
  | held (d : StreamDelivery)
  | rejected (d : StreamDelivery) (reason : String)
  | marking (d : StreamDelivery) (job : InvoiceJobEnvelope)
  | running (d : StreamDelivery) (job : InvoiceJobEnvelope)
  | returned (d : StreamDelivery) (job : InvoiceJobEnvelope) (processingStatus : ProcessingStatus)
  | raised (d : StreamDelivery) (job : InvoiceJobEnvelope) (reason : String)
  | condemned (d : StreamDelivery) (job : InvoiceJobEnvelope) (reason : String)
  | ended (former : Option StreamDelivery)
deriving DecidableEq

namespace DeliveryPhase

/-- The entry a delivery holds. -/
def held? : DeliveryPhase → Option (StreamId × Fields)
  | .claimed id fields => some (id, fields)
  | .held d => some (d.streamId, d.fields)
  | .rejected d _ => some (d.streamId, d.fields)
  | .marking d _ => some (d.streamId, d.fields)
  | .running d _ => some (d.streamId, d.fields)
  | .returned d _ _ => some (d.streamId, d.fields)
  | .raised d _ _ => some (d.streamId, d.fields)
  | .condemned d _ _ => some (d.streamId, d.fields)
  | _ => none

/-- The delivery whose heartbeat was started. -/
def heartbeat? : DeliveryPhase → Option StreamDelivery
  | .running d _ => some d
  | .returned d _ _ => some d
  | .raised d _ _ => some d
  | .condemned d _ _ => some d
  | .ended former => former
  | _ => none

/-- The delivery that waits for its workflow. -/
def waiting? : DeliveryPhase → Option StreamDelivery
  | .held d => some d
  | .marking d _ => some d
  | _ => none

/-- Whether the workflow can still be started. -/
def unstarted : DeliveryPhase → Bool
  | .idle => true
  | .claimed _ _ => true
  | .held _ => true
  | .marking _ _ => true
  | _ => false

/-- Whether the delivery is under way. -/
def active : DeliveryPhase → Bool
  | .idle => false
  | .ended _ => false
  | _ => true

end DeliveryPhase

/-- Why a call of `replay_dlq_entry` raises. -/
inductive ReplayError where
  | invalidId
  | notReplayable (message : String)
  | refused (refusal : Redis.ReplayRefusal)
deriving DecidableEq

/-- Where a call of `replay_dlq_entry` is. -/
inductive ReplayPhase where
  | idle
  | validated (dlqId requestId : String) (evidence : DecodedDLQEvidence)
  | answered (dlqId requestId : String) (answer : Redis.ReplayAnswer)
  | failed (error : ReplayError)
  | stopped

/-- The call that waits for the script: the entry, the request and the evidence. -/
def ReplayPhase.validated? : ReplayPhase → Option (String × String × DecodedDLQEvidence)
  | .validated dlqId requestId evidence => some (dlqId, requestId, evidence)
  | _ => none

/-- The queue and its parties.  The log of started runs is for the reader. -/
structure Queue where
  redis : Redis
  delivery : Nat → DeliveryPhase
  replay : Nat → ReplayPhase
  started : List (Nat × StreamDelivery)

/-- A step of the queue.  `now` is the clock of Redis, `clock` that of the
caller. -/
inductive QueueAction where
  | enqueue (job : InvoiceJobEnvelope) (now : Nat)
  | publish (fields : Fields) (now : Nat)
  | expire (idempotencyKey : String)
  | read (c : Nat)
  | reclaim (c : Nat) (streamId : StreamId)
  | count (c : Nat)
  | parse (c : Nat)
  | mark (c : Nat) (clock : Int)
  | finish (c : Nat) (outcome : RunOutcome)
  | heartbeat (c : Nat)
  | recordFailure (c : Nat) (clock : Int)
  | markFailed (c : Nat)
  | deadLetter (c : Nat) (clock : Int) (now : Nat)
  | acknowledge (c : Nat) (clock : Int)
  | abandon (c : Nat)
  | request (c : Nat) (dlqId requestId : String)
  | evaluate (c : Nat) (clock : Int) (now : Nat)
  | giveUp (c : Nat)
  | purge (cutoff : StreamId) (limit : Nat)

namespace Queue

/-- A delivery goes on to another phase. -/
def goto (q : Queue) (c : Nat) (p : DeliveryPhase) : Queue :=
  { q with delivery := Function.update q.delivery c p }

/-- A delivery starts the workflow. -/
def start (q : Queue) (c : Nat) (d : StreamDelivery) (job : InvoiceJobEnvelope) : Queue :=
  { q.goto c (.running d job) with started := q.started ++ [(c, d)] }

/-- A replay request goes on to another phase. -/
def respond (q : Queue) (c : Nat) (p : ReplayPhase) : Queue :=
  { q with replay := Function.update q.replay c p }

/-- The keys are written. -/
def write (q : Queue) (r : Redis) : Queue := { q with redis := r }

section

variable [QueueRuntime] (maxAttempts : Nat)

open QueueRuntime

/-- What a job of the model is: its dump validates to it. -/
def validJob (job : InvoiceJobEnvelope) : Bool :=
  match modelValidate (modelDumpJson job) with
  | .ok job' => job' = job
  | .error _ => false

/-- `_process_delivery` up to the start of the workflow. -/
def processDelivery (q : Queue) (c : Nat) (d : StreamDelivery) : Queue :=
  match parseDelivery d.fields with
  | .error message => q.goto c (.rejected d message)
  | .ok job =>
      if (replayContext d.fields).isSome then q.goto c (.marking d job) else q.start c d job

/-- `replay_dlq_entry` up to the script. -/
def requestReplay (q : Queue) (c : Nat) (dlqId requestId : String) : Queue :=
  if (StreamId.parse dlqId).isNone then q.respond c (.failed .invalidId)
  else
    match q.redis.deadLetterOf? dlqId with
    | none => q.respond c (.failed (.refused .notFound))
    | some fields =>
        match decodeDlqEvidence fields with
        | .error message => q.respond c (.failed (.notReplayable message))
        | .ok evidence => q.respond c (.validated dlqId requestId evidence)

/-- One step.  Entries are added by `enqueue_job` and by replays, or are
malformed. -/
def step (q : Queue) : QueueAction → Option Queue
  | .enqueue job now =>
      if validJob job then some (q.write (q.redis.enqueueJob job now).2) else none
  | .publish fields now =>
      match parseDelivery fields, fields.lookup "replay_dlq_id" with
      | .error _, none => some (q.write { q.redis with live := (q.redis.live.add now fields).2 })
      | _, _ => none
  | .expire key =>
      some (q.write { q.redis with dedupe := Function.update q.redis.dedupe key none })
  | .read c =>
      match q.delivery c with
      | .idle =>
          match q.redis.group.read q.redis.live with
          | (some (id, fields), group) =>
              some ((q.write { q.redis with group := group }).goto c (.held ⟨id, fields, 1⟩))
          | (none, _) => none
      | _ => none
  | .reclaim c id =>
      match q.delivery c with
      | .idle =>
          match q.redis.group.claim q.redis.live id with
          | (some (id, fields), group) =>
              some ((q.write { q.redis with group := group }).goto c (.claimed id fields))
          | (none, group) => some (q.write { q.redis with group := group })
      | _ => none
  | .count c =>
      match q.delivery c with
      | .claimed id fields =>
          some (q.goto c (.held ⟨id, fields, (q.redis.group.pending id).getD 1⟩))
      | _ => none
  | .parse c =>
      match q.delivery c with
      | .held d => some (q.processDelivery c d)
      | _ => none
  | .mark c clock =>
      match q.delivery c with
      | .marking d job => some ((q.write (q.redis.recordReplayProcessing d clock)).start c d job)
      | _ => none
  | .finish c outcome =>
      match q.delivery c with
      | .running d job =>
          match outcome with
          | .returned status => some (q.goto c (.returned d job status))
          | .raised reason => some (q.goto c (.raised d job reason))
      | _ => none
  | .heartbeat c =>
      (q.delivery c).heartbeat?.map fun d =>
        q.write { q.redis with group := q.redis.group.setCount d.streamId d.attempt }
  | .recordFailure c clock =>
      match q.delivery c with
      | .raised d _ reason =>
          if maxAttempts ≤ d.attempt then none
          else some ((q.write (q.redis.recordFailure d reason clock)).goto c (.ended (some d)))
      | _ => none
  | .markFailed c =>
      match q.delivery c with
      | .raised d job reason =>
          if maxAttempts ≤ d.attempt then some (q.goto c (.condemned d job reason)) else none
      | _ => none
  | .deadLetter c clock now =>
      match q.delivery c with
      | .rejected d reason =>
          some ((q.write (q.redis.deadLetter d reason clock now)).goto c (.ended none))
      | .condemned d _ reason =>
          some ((q.write (q.redis.deadLetter d reason clock now)).goto c (.ended (some d)))
      | _ => none
  | .acknowledge c clock =>
      match q.delivery c with
      | .returned d _ status =>
          some ((q.write (q.redis.acknowledge d status clock)).goto c (.ended (some d)))
      | _ => none
  | .abandon c =>
      if (q.delivery c).active then
        some (q.goto c (.ended (q.delivery c).heartbeat?))
      else none
  | .request c dlqId requestId =>
      match q.replay c with
      | .idle => if requestId = "" then none else some (q.requestReplay c dlqId requestId)
      | _ => none
  | .evaluate c clock now =>
      match q.replay c with
      | .validated dlqId requestId evidence =>
          match q.redis.replayScript dlqId requestId evidence.originalFieldsJson
              (modelDumpJson evidence.job) clock now with
          | (.ok answer, r) => some ((q.write r).respond c (.answered dlqId requestId answer))
          | (.error refusal, r) => some ((q.write r).respond c (.failed (.refused refusal)))
      | _ => none
  | .giveUp c =>
      match q.replay c with
      | .validated _ _ _ => some (q.respond c .stopped)
      | _ => none
  | .purge cutoff limit => some (q.write (q.redis.purgeBatch cutoff limit))

/-! ## What a step does -/

/-- The steps, one constructor for each way a step goes. -/
inductive Stepped (q : Queue) : QueueAction → Queue → Prop where
  | enqueued {job : InvoiceJobEnvelope} {now : Nat} : validJob job = true →
      q.redis.dedupe job.idempotencyKey = none →
      Stepped q (.enqueue job now) (q.write (q.redis.enqueueJob job now).2)
  | repeated {job : InvoiceJobEnvelope} {now : Nat} :
      q.redis.dedupe job.idempotencyKey ≠ none → Stepped q (.enqueue job now) q
  | published {fields : Fields} {now : Nat} {message : String} :
      parseDelivery fields = .error message → fields.lookup "replay_dlq_id" = none →
      Stepped q (.publish fields now)
        (q.write { q.redis with live := (q.redis.live.add now fields).2 })
  | expired {key : String} :
      Stepped q (.expire key)
        (q.write { q.redis with dedupe := Function.update q.redis.dedupe key none })
  | read {c : Nat} {id : StreamId} {fields : Fields} {group : ConsumerGroup} :
      q.delivery c = .idle → q.redis.group.read q.redis.live = (some (id, fields), group) →
      Stepped q (.read c) ((q.write { q.redis with group := group }).goto c (.held ⟨id, fields, 1⟩))
  | reclaimed {c : Nat} {i id : StreamId} {fields : Fields} {group : ConsumerGroup} :
      q.delivery c = .idle → q.redis.group.claim q.redis.live i = (some (id, fields), group) →
      Stepped q (.reclaim c i) ((q.write { q.redis with group := group }).goto c (.claimed id fields))
  | unclaimed {c : Nat} {i : StreamId} {group : ConsumerGroup} :
      q.redis.group.claim q.redis.live i = (none, group) →
      Stepped q (.reclaim c i) (q.write { q.redis with group := group })
  | counted {c : Nat} {id : StreamId} {fields : Fields} : q.delivery c = .claimed id fields →
      Stepped q (.count c) (q.goto c (.held ⟨id, fields, (q.redis.group.pending id).getD 1⟩))
  | rejected {c : Nat} {d : StreamDelivery} {message : String} : q.delivery c = .held d →
      parseDelivery d.fields = .error message → Stepped q (.parse c) (q.goto c (.rejected d message))
  | parsed {c : Nat} {d : StreamDelivery} {job : InvoiceJobEnvelope} : q.delivery c = .held d →
      parseDelivery d.fields = .ok job → Stepped q (.parse c) (q.goto c (.marking d job))
  | started {c : Nat} {d : StreamDelivery} {job : InvoiceJobEnvelope} : q.delivery c = .held d →
      parseDelivery d.fields = .ok job → replayContext d.fields = none →
      Stepped q (.parse c) (q.start c d job)
  | marked {c : Nat} {d : StreamDelivery} {job : InvoiceJobEnvelope} {clock : Int} :
      q.delivery c = .marking d job →
      Stepped q (.mark c clock) ((q.write (q.redis.recordReplayProcessing d clock)).start c d job)
  | returned {c : Nat} {d : StreamDelivery} {job : InvoiceJobEnvelope} {status : ProcessingStatus} :
      q.delivery c = .running d job →
      Stepped q (.finish c (.returned status)) (q.goto c (.returned d job status))
  | raised {c : Nat} {d : StreamDelivery} {job : InvoiceJobEnvelope} {reason : String} :
      q.delivery c = .running d job →
      Stepped q (.finish c (.raised reason)) (q.goto c (.raised d job reason))
  | heartbeat {c : Nat} {d : StreamDelivery} : (q.delivery c).heartbeat? = some d →
      Stepped q (.heartbeat c)
        (q.write { q.redis with group := q.redis.group.setCount d.streamId d.attempt })
  | recordFailure {c : Nat} {d : StreamDelivery} {job : InvoiceJobEnvelope} {reason : String}
      {clock : Int} : q.delivery c = .raised d job reason →
      Stepped q (.recordFailure c clock)
        ((q.write (q.redis.recordFailure d reason clock)).goto c (.ended (some d)))
  | markFailed {c : Nat} {d : StreamDelivery} {job : InvoiceJobEnvelope} {reason : String} :
      q.delivery c = .raised d job reason →
      Stepped q (.markFailed c) (q.goto c (.condemned d job reason))
  | deadLetter {c : Nat} {d : StreamDelivery} {reason : String} {former : Option StreamDelivery}
      {clock : Int} {now : Nat} :
      (q.delivery c).held? = some (d.streamId, d.fields) →
      (q.delivery c = .rejected d reason ∧ former = none ∨
        ∃ job, q.delivery c = .condemned d job reason ∧ former = some d) →
      Stepped q (.deadLetter c clock now)
        ((q.write (q.redis.deadLetter d reason clock now)).goto c (.ended former))
  | acknowledge {c : Nat} {d : StreamDelivery} {job : InvoiceJobEnvelope}
      {status : ProcessingStatus} {clock : Int} : q.delivery c = .returned d job status →
      Stepped q (.acknowledge c clock)
        ((q.write (q.redis.acknowledge d status clock)).goto c (.ended (some d)))
  | abandon {c : Nat} : (q.delivery c).active = true →
      Stepped q (.abandon c) (q.goto c (.ended (q.delivery c).heartbeat?))
  | failed {c : Nat} {dlqId requestId : String} {error : ReplayError} :
      Stepped q (.request c dlqId requestId) (q.respond c (.failed error))
  | validated {c : Nat} {dlqId requestId : String} {fields : DeadLetterFields}
      {evidence : DecodedDLQEvidence} : q.replay c = .idle → requestId ≠ "" →
      q.redis.deadLetterOf? dlqId = some fields → decodeDlqEvidence fields = .ok evidence →
      Stepped q (.request c dlqId requestId) (q.respond c (.validated dlqId requestId evidence))
  | created {c : Nat} {dlqId requestId : String} {evidence : DecodedDLQEvidence} {clock : Int}
      {now : Nat} : q.replay c = .validated dlqId requestId evidence →
      q.redis.Replayable dlqId requestId evidence.originalFieldsJson →
      Stepped q (.evaluate c clock now)
        ((q.write (q.redis.createReplay dlqId requestId (modelDumpJson evidence.job) clock now).2).respond
          c (.answered dlqId requestId
            (q.redis.createReplay dlqId requestId (modelDumpJson evidence.job) clock now).1))
  | existing {c : Nat} {dlqId requestId : String} {evidence : DecodedDLQEvidence} {clock : Int}
      {now : Nat} {answer : Redis.ReplayAnswer} :
      q.replay c = .validated dlqId requestId evidence → answer.created = false →
      (q.redis.deadLetterOf? dlqId).isSome = true →
      ((q.redis.replays dlqId).action requestId).liveStreamId = some answer.liveStreamId →
      Stepped q (.evaluate c clock now) (q.respond c (.answered dlqId requestId answer))
  | refused {c : Nat} {dlqId requestId : String} {evidence : DecodedDLQEvidence} {clock : Int}
      {now : Nat} {refusal : Redis.ReplayRefusal} :
      q.replay c = .validated dlqId requestId evidence →
      ¬q.redis.Replayable dlqId requestId evidence.originalFieldsJson →
      Stepped q (.evaluate c clock now) (q.respond c (.failed (.refused refusal)))
  | gaveUp {c : Nat} : Stepped q (.giveUp c) (q.respond c .stopped)
  | purged {cutoff : StreamId} {limit : Nat} :
      Stepped q (.purge cutoff limit) (q.write (q.redis.purgeBatch cutoff limit))

theorem step_cases {q q' : Queue} {a : QueueAction} (h : q.step maxAttempts a = some q') :
    Stepped q a q' := by
  cases a with
  | enqueue job now =>
      simp only [step] at h
      split at h
      next hv =>
        cases h
        cases hd : q.redis.dedupe job.idempotencyKey with
        | none => exact .enqueued hv hd
        | some existing =>
            have hsame : (q.redis.enqueueJob job now).2 = q.redis := by
              simp [Redis.enqueueJob, hd]
            rw [hsame]
            exact .repeated (by rw [hd]; exact Option.some_ne_none _)
      · cases h
  | publish fields now =>
      simp only [step] at h
      split at h
      next message hp hc =>
        cases h
        exact .published hp hc
      · cases h
  | expire key =>
      cases h
      exact .expired
  | read c =>
      simp only [step] at h
      split at h
      next hidle =>
        split at h
        next id fields group hread =>
          cases h
          exact .read hidle hread
        · cases h
      · cases h
  | reclaim c i =>
      simp only [step] at h
      split at h
      next hidle =>
        split at h
        next id fields group hclaim =>
          cases h
          exact .reclaimed hidle hclaim
        next group hclaim =>
          cases h
          exact .unclaimed hclaim
      · cases h
  | count c =>
      simp only [step] at h
      split at h
      next id fields hp =>
        cases h
        exact .counted hp
      · cases h
  | parse c =>
      simp only [step] at h
      split at h
      next d hp =>
        cases h
        unfold processDelivery
        cases hj : parseDelivery d.fields with
        | error message => exact .rejected hp hj
        | ok job =>
            cases hc : replayContext d.fields with
            | none => exact .started hp hj hc
            | some context => exact .parsed hp hj
      · cases h
  | mark c clock =>
      simp only [step] at h
      split at h
      next d job hp =>
        cases h
        exact .marked hp
      · cases h
  | finish c outcome =>
      simp only [step] at h
      split at h
      next d job hp =>
        cases outcome with
        | returned status =>
            cases h
            exact .returned hp
        | raised reason =>
            cases h
            exact .raised hp
      · cases h
  | heartbeat c =>
      obtain ⟨d, hd, h⟩ := Option.map_eq_some_iff.mp h
      subst h
      exact .heartbeat hd
  | recordFailure c clock =>
      simp only [step] at h
      split at h
      next d job reason hp =>
        split at h
        · cases h
        · cases h
          exact .recordFailure hp
      · cases h
  | markFailed c =>
      simp only [step] at h
      split at h
      next d job reason hp =>
        split at h
        · cases h
          exact .markFailed hp
        · cases h
      · cases h
  | deadLetter c clock now =>
      simp only [step] at h
      split at h
      next d reason hp =>
        cases h
        exact .deadLetter (by rw [hp]; rfl) (.inl ⟨hp, rfl⟩)
      next d job reason hp =>
        cases h
        exact .deadLetter (by rw [hp]; rfl) (.inr ⟨job, hp, rfl⟩)
      · cases h
  | acknowledge c clock =>
      simp only [step] at h
      split at h
      next d job status hp =>
        cases h
        exact .acknowledge hp
      · cases h
  | abandon c =>
      simp only [step] at h
      split at h
      next hactive =>
        cases h
        exact .abandon hactive
      · cases h
  | request c dlqId requestId =>
      simp only [step] at h
      split at h
      next hp =>
        split at h
        · cases h
        next hr =>
          cases h
          unfold requestReplay
          split
          · exact .failed
          · cases he : q.redis.deadLetterOf? dlqId with
            | none => exact .failed
            | some fields =>
                cases hev : decodeDlqEvidence fields with
                | error message =>
                    simp only [hev]
                    exact .failed
                | ok evidence =>
                    simp only [hev]
                    exact .validated hp hr he hev
      · cases h
  | evaluate c clock now =>
      simp only [step] at h
      split at h
      next dlqId requestId evidence hp =>
        rcases Redis.replayScript_cases q.redis dlqId requestId evidence.originalFieldsJson
            (modelDumpJson evidence.job) clock now with
          ⟨refusal, hr, hs⟩ | ⟨answer, hcreated, hretained, hid, hs⟩ | ⟨hr, hs⟩
        · rw [hs] at h
          cases h
          exact .refused hp hr
        · rw [hs] at h
          cases h
          exact .existing hp hcreated hretained hid
        · rw [hs] at h
          cases h
          exact .created hp hr
      · cases h
  | giveUp c =>
      simp only [step] at h
      split at h
      · cases h
        exact .gaveUp
      · cases h
  | purge cutoff limit =>
      cases h
      exact .purged

end

/-! ## The start -/

/-- An empty live stream and no party yet.  Dead-letter entries may be there. -/
structure Start (q : Queue) : Prop where
  live : q.redis.live = .empty
  group : q.redis.group = .new
  dlq : q.redis.dlq.Valid
  dedupe : ∀ key, q.redis.dedupe key = none
  replays : ∀ dlqId, q.redis.replays dlqId = .empty
  delivery : ∀ c, q.delivery c = .idle
  replay : ∀ c, ∀ dlqId requestId evidence, q.replay c ≠ .validated dlqId requestId evidence
  unanswered : ∀ c, ∀ dlqId requestId answer, q.replay c ≠ .answered dlqId requestId answer
  started : q.started = []

/-- Nothing at all. -/
def empty : Queue where
  redis := ⟨.empty, .new, .empty, fun _ => none, fun _ => .empty, fun _ => none⟩
  delivery _ := .idle
  replay _ := .idle
  started := []

theorem empty_start : empty.Start where
  live := rfl
  group := rfl
  dlq := EntryStream.valid_empty
  dedupe _ := rfl
  replays _ := rfl
  delivery _ := rfl
  replay _ _ _ _ h := by cases h
  unanswered _ _ _ _ h := by cases h
  started := rfl

section

variable {q : Queue} {c e : Nat}

@[simp] theorem goto_self (p : DeliveryPhase) : (q.goto c p).delivery c = p :=
  Function.update_self ..

theorem goto_of_ne (p : DeliveryPhase) (he : e ≠ c) : (q.goto c p).delivery e = q.delivery e :=
  Function.update_of_ne he ..

@[simp] theorem start_self (d : StreamDelivery) (job : InvoiceJobEnvelope) :
    (q.start c d job).delivery c = .running d job := Function.update_self ..

end

end Queue

end FreightAP
