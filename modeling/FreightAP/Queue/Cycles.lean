import FreightAP.Queue.Paging
import FreightAP.Queue.Replay

/-!
# Cycles of dead-lettering and replay

A delivery is dead-lettered, its entry is read back and replayed, and the new
entry is delivered.  `cycle` plays this on the keys, with the commands of the
worker and of the operator, and `cycles` plays it any number of times.

The evidence is JSON in JSON: the fields as a text, with the payload as a text
in it.  A replay writes the payload anew, from the decoded job.  `Ready` is what
the keys need for the next cycle, and the payload of the redelivery parses to
the same job (`cycle_spec`), so the two go through by induction on the cycles.
-/

namespace FreightAP

/-! ## The commands of a cycle -/

/-- The arguments of a cycle: those of `dead_letter` and those of the replay.
The route takes request ids of the type `UUID`, so none is empty. -/
structure DeadLetterCycle where
  attempt : Nat
  reason : String
  failedAt : Int
  deadLetteredAt : Nat
  requestId : String
  requestedAt : Int
  replayedAt : Nat
  redelivery : Nat
  named : requestId ≠ ""

/-- What a cycle leaves: the dead-letter entry as it is listed, its evidence and
the delivery of the replayed entry. -/
structure CycleRecord where
  dlqId : StreamId
  entry : DLQEntry
  evidence : DecodedDLQEvidence
  replayed : StreamDelivery

/-- Why a cycle stops. -/
inductive CycleError where
  | replay (error : ReplayError)
  | undelivered
deriving DecidableEq

section

variable [QueueRuntime]

open QueueRuntime

/-- `replay_dlq_entry`: the evidence and the answer, or the error. -/
def replayDlqEntry (r : Redis) (dlqId requestId : String) (clock : Int) (now : Nat) :
    Except ReplayError (DecodedDLQEvidence × Redis.ReplayAnswer) × Redis :=
  if (StreamId.parse dlqId).isNone then (.error .invalidId, r)
  else
    match r.deadLetterOf? dlqId with
    | none => (.error (.refused .notFound), r)
    | some fields =>
        match decodeDlqEvidence fields with
        | .error message => (.error (.notReplayable message), r)
        | .ok evidence =>
            match r.replayScript dlqId requestId evidence.originalFieldsJson
                (modelDumpJson evidence.job) clock now with
            | (.ok answer, r) => (.ok (evidence, answer), r)
            | (.error refusal, r) => (.error (.refused refusal), r)

/-- A cycle: `dead_letter`, the replay of the entry, and its redelivery. -/
def cycle (r : Redis) (d : StreamDelivery) (c : DeadLetterCycle) :
    Except CycleError (Redis × CycleRecord) :=
  let d := { d with attempt := c.attempt }
  let dlqId := (r.dlq.add c.deadLetteredAt (Redis.deadLetterFields d c.reason c.failedAt)).1
  let r := r.deadLetter d c.reason c.failedAt c.deadLetteredAt
  match replayDlqEntry r dlqId.text c.requestId c.requestedAt c.replayedAt with
  | (.error error, _) => .error (.replay error)
  | (.ok (evidence, answer), r') =>
      match r'.live.get? answer.liveStreamId with
      | none => .error .undelivered
      | some fields =>
          .ok (r', {
            dlqId := dlqId
            entry := dlqEntryFromFields dlqId.text (Redis.deadLetterFields d c.reason c.failedAt)
              (r.replays dlqId.text)
            evidence := evidence
            replayed := ⟨answer.liveStreamId, fields, c.redelivery⟩ })

/-- Any number of cycles, each with the delivery of the last one. -/
def cycles : Redis → StreamDelivery → List DeadLetterCycle →
    Except CycleError (List CycleRecord)
  | _, _, [] => .ok []
  | r, d, c :: cs =>
      match cycle r d c with
      | .error error => .error error
      | .ok (r', record) =>
          match cycles r' record.replayed cs with
          | .error error => .error error
          | .ok records => .ok (record :: records)

end

/-! ## Keys that are ready -/

/-- No replay was created from a hash. -/
structure ReplayHash.Unrequested (hash : ReplayHash) : Prop where
  last : hash.lastRequestId = none
  live : ∀ requestId, (hash.action requestId).liveStreamId = none

theorem unrequested_empty : ReplayHash.empty.Unrequested := ⟨rfl, fun _ => rfl⟩

/-- The streams are valid, and no replay was created from the hash of an entry
that is not there yet. -/
structure Redis.Ready (r : Redis) : Prop where
  live : r.live.Valid
  dlq : r.dlq.Valid
  fresh : ∀ id, r.dlq.lastId < id → (r.replays id.text).Unrequested

/-- The keys of every run of the queue are ready. -/
theorem Queue.run_ready [QueueRuntime] {maxAttempts : Nat} {q q' : Queue} {as : List QueueAction}
    (h : Transition.Run (Transition.Fires (Queue.step maxAttempts)) q as q') (hq : q.Start) :
    q'.redis.Ready := by
  have hsafe := h.preserves Queue.ReplaySafe hq.replaySafe
    fun _ _ _ hsafe hs => hsafe.step (Queue.step_cases maxAttempts hs)
  refine ⟨hsafe.regular.live, hsafe.regular.dlq, fun id hid => ?_⟩
  rw [hsafe.replays.untouched id.text id (StreamId.parse_text id) hid]
  exact unrequested_empty

section

variable {r : Redis} {d : StreamDelivery}

/-- A worker creates no replay. -/
theorem hsetAction_unrequested {state : ReplayState} {status : Option ProcessingStatus}
    {clock : Int} {dlqId : String} (h : (r.replays dlqId).Unrequested) :
    ((r.hsetAction d state status clock).replays dlqId).Unrequested := by
  have hwritten := r.hsetAction_written (d := d) state status clock dlqId
  exact ⟨hwritten.lastRequest.trans h.last, fun requestId => (hwritten.live requestId).trans
    (h.live requestId)⟩

section

variable [QueueRuntime]

open QueueRuntime

theorem deadLetter_dlq (reason : String) (clock : Int) (now : Nat) :
    (r.deadLetter d reason clock now).dlq =
      (r.dlq.add now (Redis.deadLetterFields d reason clock)).2 := Redis.hsetAction_dlq

theorem Redis.Ready.deadLetter (h : r.Ready) (d : StreamDelivery) (reason : String) (clock : Int)
    (now : Nat) : (r.deadLetter d reason clock now).Ready := by
  have hlive : (r.deadLetter d reason clock now).live = r.live.del d.streamId :=
    Redis.hsetAction_live
  refine ⟨hlive ▸ h.live.del _, deadLetter_dlq reason clock now ▸ h.dlq.add _ _,
    fun id hid => ?_⟩
  rw [deadLetter_dlq] at hid
  exact hsetAction_unrequested (h.fresh id ((StreamId.lt_next ..).trans hid))

omit [QueueRuntime] in
theorem Redis.Ready.createReplay (h : r.Ready) {i : StreamId} (hi : i ≤ r.dlq.lastId)
    (requestId payload : String) (clock : Int) (now : Nat) :
    (r.createReplay i.text requestId payload clock now).2.Ready := by
  refine ⟨h.live.add _ _, h.dlq, fun id hid => ?_⟩
  have hne : id.text ≠ i.text := by
    intro heq
    exact absurd (StreamId.text_injective heq) (hi.trans_lt hid).ne'
  have hsame : (r.createReplay i.text requestId payload clock now).2.replays id.text =
      r.replays id.text := Function.update_of_ne hne ..
  rw [hsame]
  exact h.fresh id hid

/-! ## One cycle -/

/-- A dead-letter entry of a delivery with a job is decoded to that job. -/
theorem decode_deadLetterFields (hjson : JsonInverse) {job : InvoiceJobEnvelope}
    (hd : parseDelivery d.fields = .ok job) (reason : String) (clock : Int) :
    ∃ evidence, decodeDlqEvidence (Redis.deadLetterFields d reason clock) = .ok evidence ∧
      evidence.originalFieldsJson = dumps d.fields ∧ evidence.job = job := by
  obtain ⟨ms, g, hloads, hms, hg⟩ := hjson.fields d.fields
  have hparse : parseDelivery g = .ok job := (parseDelivery_congr (hg "payload")).trans hd
  refine ⟨⟨dumps d.fields, g, job⟩, ?_, rfl, rfl⟩
  simp only [decodeDlqEvidence, Redis.deadLetterFields, hloads, hms, hparse]

/-- A dead-letter entry of a delivery without a job is not replayable, and keeps
the fields. -/
theorem decode_deadLetterFields_error (hjson : JsonInverse) {message : String}
    (hd : parseDelivery d.fields = .error message) (reason : String) (clock : Int) :
    decodeDlqEvidence (Redis.deadLetterFields d reason clock) = .error message ∧
      ∃ raw ms g, (Redis.deadLetterFields d reason clock).originalFields = some raw ∧
        loads raw = .object ms ∧ textMembers? ms = some g ∧
        ∀ k, g.lookup k = d.fields.lookup k := by
  obtain ⟨ms, g, hloads, hms, hg⟩ := hjson.fields d.fields
  have hparse : parseDelivery g = .error message := (parseDelivery_congr (hg "payload")).trans hd
  refine ⟨?_, dumps d.fields, ms, g, rfl, hloads, hms, hg⟩
  simp only [decodeDlqEvidence, Redis.deadLetterFields, hloads, hms, hparse]

/-- What a cycle shows of the job. -/
structure CycleRecord.Carries (record : CycleRecord) (job : InvoiceJobEnvelope)
    (requestId : String) : Prop where
  replayable : record.entry.replayable = true
  sameJob : record.evidence.job = job
  context : replayContext record.replayed.fields = some (record.dlqId.text, requestId)
  payload : parseDelivery record.replayed.fields = .ok job

omit [QueueRuntime] in
theorem replayContext_replayFields (payload : String) (id : StreamId) {requestId : String}
    (hr : requestId ≠ "") :
    replayContext (Redis.replayFields payload id.text requestId) = some (id.text, requestId) := by
  have hd : (Redis.replayFields payload id.text requestId).lookup "replay_dlq_id" =
      some id.text := rfl
  have hq : (Redis.replayFields payload id.text requestId).lookup "replay_request_id" =
      some requestId := rfl
  simp only [replayContext, hd, hq]
  exact if_pos ⟨id.text_ne_empty, hr⟩

theorem deadLetter_entry (hready : r.Ready) (d : StreamDelivery) (reason : String) (clock : Int)
    (now : Nat) :
    (r.deadLetter d reason clock now).deadLetterOf?
        (r.dlq.add now (Redis.deadLetterFields d reason clock)).1.text =
      some (Redis.deadLetterFields d reason clock) := by
  rw [Redis.deadLetterOf?, StreamId.parse_text, Option.bind_some, deadLetter_dlq]
  exact (EntryStream.get?_iff (hready.dlq.add _ _)).mpr
    (EntryStream.mem_entries_add.mpr (.inr ⟨rfl, rfl⟩))

/-- The entry that was just dead-lettered can be replayed by any request. -/
theorem deadLetter_replayable (hready : r.Ready) (d : StreamDelivery) (reason : String)
    (clock : Int) (now : Nat) (requestId : String) :
    (r.deadLetter d reason clock now).Replayable
      (r.dlq.add now (Redis.deadLetterFields d reason clock)).1.text requestId
      (dumps d.fields) := by
  have hhash : ((r.deadLetter d reason clock now).replays
      (r.dlq.add now (Redis.deadLetterFields d reason clock)).1.text).Unrequested :=
    hsetAction_unrequested (hready.fresh _ (StreamId.lt_next ..))
  refine ⟨⟨_, deadLetter_entry hready d reason clock now, rfl⟩, hhash.live requestId, ?_⟩
  simp only [Redis.inProgress, hhash.last]

/-- A cycle of a delivery with a job replays the entry, and the redelivery has
the job. -/
theorem cycle_spec (hjson : JsonInverse) (hready : r.Ready) {job : InvoiceJobEnvelope}
    (hd : parseDelivery d.fields = .ok job) (c : DeadLetterCycle) :
    ∃ r' record, cycle r d c = .ok (r', record) ∧ r'.Ready ∧ record.Carries job c.requestId := by
  have hentry := deadLetter_entry hready { d with attempt := c.attempt } c.reason c.failedAt
    c.deadLetteredAt
  have hreplayable := deadLetter_replayable hready { d with attempt := c.attempt } c.reason
    c.failedAt c.deadLetteredAt c.requestId
  obtain ⟨evidence, hdecode, horiginal, hjob⟩ :=
    decode_deadLetterFields (d := { d with attempt := c.attempt }) hjson hd c.reason c.failedAt
  have hready' := hready.deadLetter { d with attempt := c.attempt } c.reason c.failedAt
    c.deadLetteredAt
  generalize hid : (r.dlq.add c.deadLetteredAt (Redis.deadLetterFields
    { d with attempt := c.attempt } c.reason c.failedAt)).1 = dlqId at *
  have hle : dlqId ≤ (r.deadLetter { d with attempt := c.attempt } c.reason c.failedAt
      c.deadLetteredAt).dlq.lastId := by
    rw [← hid, deadLetter_dlq]
    exact le_refl _
  generalize hr : r.deadLetter { d with attempt := c.attempt } c.reason c.failedAt
    c.deadLetteredAt = r₁ at *
  -- the script creates a new entry
  have hscript : r₁.replayScript dlqId.text c.requestId evidence.originalFieldsJson
      (modelDumpJson evidence.job) c.requestedAt c.replayedAt =
      (.ok (r₁.createReplay dlqId.text c.requestId (modelDumpJson job) c.requestedAt
          c.replayedAt).1,
        (r₁.createReplay dlqId.text c.requestId (modelDumpJson job) c.requestedAt
          c.replayedAt).2) := by
    rw [horiginal, hjob]
    rcases Redis.replayScript_cases r₁ dlqId.text c.requestId (dumps d.fields)
        (modelDumpJson job) c.requestedAt c.replayedAt with
      ⟨_, hno, -⟩ | ⟨answer, -, -, hknown, -⟩ | ⟨-, hcreated⟩
    · exact absurd hreplayable hno
    · cases hreplayable.new.symm.trans hknown
    · exact hcreated
  have hreplay : replayDlqEntry r₁ dlqId.text c.requestId c.requestedAt c.replayedAt =
      (.ok (evidence, (r₁.createReplay dlqId.text c.requestId (modelDumpJson job) c.requestedAt
          c.replayedAt).1),
        (r₁.createReplay dlqId.text c.requestId (modelDumpJson job) c.requestedAt
          c.replayedAt).2) := by
    simp only [replayDlqEntry, StreamId.parse_text, Option.isNone_some, Bool.false_eq_true,
      if_false, hentry, hdecode, hscript]
  -- the entry is in the live stream
  have hget : (r₁.createReplay dlqId.text c.requestId (modelDumpJson job) c.requestedAt
      c.replayedAt).2.live.get? (r₁.createReplay dlqId.text c.requestId (modelDumpJson job)
        c.requestedAt c.replayedAt).1.liveStreamId =
      some (Redis.replayFields (modelDumpJson job) dlqId.text c.requestId) :=
    (EntryStream.get?_iff (hready'.live.add _ _)).mpr
      (EntryStream.mem_entries_add.mpr (.inr ⟨rfl, rfl⟩))
  refine ⟨_, _, by simp only [cycle, hid, hr, hreplay, hget]; rfl,
    hready'.createReplay hle c.requestId _ _ _, ?_⟩
  obtain ⟨raw, hvalid⟩ := parseDelivery_validate hd
  constructor
  case replayable => simp only [dlqEntryFromFields, hdecode]; rfl
  case sameJob => exact hjob
  case context => exact replayContext_replayFields _ dlqId c.named
  case payload => exact parseDelivery_dump hjson hvalid rfl

/-! ## Any number of cycles -/

/-- Records of the cycles, each with the request of its cycle. -/
def CarriedBy (job : InvoiceJobEnvelope) (cs : List DeadLetterCycle)
    (records : List CycleRecord) : Prop :=
  List.Forall₂ (fun c record => record.Carries job c.requestId) cs records

theorem cycles_spec (hjson : JsonInverse) {job : InvoiceJobEnvelope} (cs : List DeadLetterCycle)
    (hready : r.Ready) (hd : parseDelivery d.fields = .ok job) :
    ∃ records, cycles r d cs = .ok records ∧ CarriedBy job cs records := by
  induction cs generalizing r d with
  | nil => exact ⟨[], rfl, .nil⟩
  | cons c cs ih =>
      obtain ⟨r', record, hcycle, hready', hcarries⟩ := cycle_spec hjson hready hd c
      obtain ⟨records, hrecords, hall⟩ := ih hready' hcarries.payload
      exact ⟨record :: records, by simp only [cycles, hcycle, hrecords], .cons hcarries hall⟩

/-- The evidence of a job survives any number of cycles: every entry is
replayable with the same job, and every redelivery names its entry and its
request.  The entry of a delivery without a job is not replayable, and keeps
its fields. -/
theorem evidence_survives_cycles (hjson : JsonInverse) (hready : r.Ready) (d : StreamDelivery)
    (cs : List DeadLetterCycle) :
    (∀ job, parseDelivery d.fields = .ok job →
      ∃ records, cycles r d cs = .ok records ∧ CarriedBy job cs records) ∧
    ∀ message, parseDelivery d.fields = .error message →
      ∀ attempt reason clock now, ∃ dlqId entry,
        (r.deadLetter { d with attempt := attempt } reason clock now).dlq.entries =
          r.dlq.entries ++ [(dlqId, entry)] ∧
        decodeDlqEvidence entry = .error message ∧
        ∃ raw ms g, entry.originalFields = some raw ∧ loads raw = .object ms ∧
          textMembers? ms = some g ∧ ∀ k, g.lookup k = d.fields.lookup k := by
  constructor
  · intro job hd
    exact cycles_spec hjson cs hready hd
  · intro message hd attempt reason clock now
    refine ⟨(r.dlq.add now (Redis.deadLetterFields { d with attempt := attempt } reason clock)).1,
      Redis.deadLetterFields { d with attempt := attempt } reason clock, ?_,
      decode_deadLetterFields_error (d := { d with attempt := attempt }) hjson hd reason clock⟩
    rw [deadLetter_dlq]
    rfl

end

end

/-- A cycle at three attempts. -/
def sampleCycle : DeadLetterCycle where
  attempt := 3
  reason := "boom"
  failedAt := 0
  deadLetteredAt := 2
  requestId := sampleRequest
  requestedAt := 0
  replayedAt := 3
  redelivery := 1
  named := by decide

theorem evidence_survives_cycles_sample :
    (∃ records, @cycles flatRuntime Queue.empty.redis ⟨toLex (1, 0), sampleFields, 1⟩
        [sampleCycle, sampleCycle] = .ok records ∧
      @CarriedBy flatRuntime (sampleJob 'a') [sampleCycle, sampleCycle] records) ∧
    ∃ dlqId entry,
      (@Redis.deadLetter flatRuntime Queue.empty.redis ⟨toLex (1, 0), [], 1⟩
        "missing payload field" 0 2).dlq.entries = [(dlqId, entry)] ∧
      @decodeDlqEvidence flatRuntime entry = .error "missing payload field" := by
  have hready : Queue.empty.redis.Ready :=
    ⟨EntryStream.valid_empty, EntryStream.valid_empty, fun _ _ => unrequested_empty⟩
  rw [flatRuntime_eq, sampleFields_eq]
  constructor
  · exact (@evidence_survives_cycles Queue.empty.redis quickRuntime quickRuntime_inverse hready
      ⟨toLex (1, 0), quickFields, 1⟩ [sampleCycle, sampleCycle]).1 (sampleJob 'a')
        (by decide +kernel)
  · obtain ⟨dlqId, entry, hentries, hdecode, -⟩ := (@evidence_survives_cycles Queue.empty.redis
      quickRuntime quickRuntime_inverse hready ⟨toLex (1, 0), [], 1⟩ []).2
        "missing payload field" rfl 1 "missing payload field" 0 2
    exact ⟨dlqId, entry, hentries, hdecode⟩

end FreightAP
