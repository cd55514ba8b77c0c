import FreightAP.Queue.FlatRuntime
import FreightAP.Worker.Pipeline

/-!
# Removals from the live stream

`removal_justified`: an entry leaves the live stream when its delivery has
returned from the workflow and its run is committed, or together with the
dead-letter entry that keeps its fields.  A crash or an exception anywhere else
leaves it there.
-/

namespace FreightAP

open Transition

namespace Pipeline

section

variable [QueueRuntime]

open QueueRuntime

/-- What justifies that a step removes an entry. -/
inductive Justified (s t : Pipeline) (x : StreamId × Fields) : PipelineAction → Prop where
  | acknowledged {c : Nat} {clock : Int} {d : StreamDelivery} {job : InvoiceJobEnvelope}
      {processingStatus : ProcessingStatus} {execution : Execution} :
      s.queue.delivery c = .returned d job processingStatus → d.streamId = x.1 →
      parseDelivery x.2 = .ok job →
      (s.run job.idempotencyKey).execution c = some execution →
      execution.phase = .returned processingStatus →
      (s.run job.idempotencyKey).record.Committed processingStatus →
      processingStatus = .complete ∨ processingStatus = .awaitingReview ∨
        processingStatus = .failed →
      Justified s t x (.queue (.acknowledge c clock))
  | deadLettered {c : Nat} {clock : Int} {now : Nat} {y : StreamId × DeadLetterFields}
      {raw : String} {ms : List (String × Option String)} {g : Fields} :
      y ∈ t.queue.redis.dlq.entries → y ∉ s.queue.redis.dlq.entries →
      y.2.originalStreamId = some x.1 → y.2.originalFields = some raw →
      loads raw = .object ms → textMembers? ms = some g → (∀ k, g.lookup k = x.2.lookup k) →
      Justified s t x (.queue (.deadLetter c clock now))

end

variable [PyRuntime] [QueueRuntime] {uuid5 : String → String} {maxAttempts : Nat}
  {s t u : Pipeline} {a : PipelineAction}

open QueueRuntime

/-! ## The invariant -/

/-- Every part is sound, and a delivery that has returned has an execution that
has returned the same. -/
structure Sound (s : Pipeline) : Prop where
  regular : s.queue.Regular
  parsed : s.queue.Parsed
  runs : ∀ key, (s.run key).Sound
  returned : ∀ c d job processingStatus,
    s.queue.delivery c = .returned d job processingStatus →
    ∃ x, (s.run job.idempotencyKey).execution c = some x ∧ x.phase = .returned processingStatus

omit [PyRuntime] [QueueRuntime] in
/-- A property of every run, when one of them moves on. -/
theorem forall_setRun {P : String → RunDesk → Prop} {key : String} {desk : RunDesk}
    (h : ∀ k, P k (s.run k)) (hdesk : P key desk) (k : String) :
    P k ((s.setRun key desk).run k) := by
  by_cases hk : k = key
  · subst hk
    rw [show (s.setRun k desk).run k = desk from Function.update_self ..]
    exact hdesk
  · rw [show (s.setRun key desk).run k = s.run k from Function.update_of_ne hk ..]
    exact h k

omit [PyRuntime] in
theorem Start.sound (h : s.Start) : s.Sound where
  regular := h.queue.regular
  parsed c d job hp := by
    rw [h.queue.delivery c] at hp
    cases hp
  runs key := (h.run key).sound
  returned c d job processingStatus hp := by
    rw [h.queue.delivery c] at hp
    cases hp

omit [PyRuntime] in
/-- A delivery of the queue that has returned after a step has its execution. -/
theorem Sound.queued (h : s.Sound) {a : QueueAction} {q : Queue} (hperm : s.permits a = true)
    (hs : Queue.Stepped s.queue a q) {c : Nat} {d : StreamDelivery} {job : InvoiceJobEnvelope}
    {processingStatus : ProcessingStatus} (hc : q.delivery c = .returned d job processingStatus) :
    ∃ x, (s.run job.idempotencyKey).execution c = some x ∧
      x.phase = .returned processingStatus := by
  rcases hs.returned_cases hc with hc | ⟨rfl, hrun⟩
  · exact h.returned c d job processingStatus hc
  · have hphase : s.phase? c = some (.returned processingStatus) := of_decide_eq_true hperm
    unfold phase? at hphase
    rw [hrun] at hphase
    exact Option.map_eq_some_iff.mp hphase

theorem Sound.step (h : s.Sound) (hs : Stepped uuid5 maxAttempts s a t) : t.Sound := by
  cases hs with
  | queued hperm hq =>
      exact ⟨h.regular.step hq, h.parsed.step hq, h.runs, fun c d job status hc =>
        h.queued hperm hq hc⟩
  | @started a q c d job hq hrun hne =>
      refine ⟨h.regular.step hq, h.parsed.step hq,
        forall_setRun (s := { s with queue := q }) h.runs ((h.runs _).begin ..),
        fun e d' job' status he => ?_⟩
      have hec : e ≠ c := by
        rintro rfl
        cases hrun.symm.trans he
      rcases hq.returned_cases he with he | ⟨rfl, -⟩
      · obtain ⟨x, hx, hp⟩ := h.returned e d' job' status he
        refine ⟨x, ?_, hp⟩
        refine forall_setRun (s := { s with queue := q })
          (P := fun k desk => k = job'.idempotencyKey → desk.execution e = some x) ?_ ?_ _ rfl
        · rintro k rfl
          exact hx
        · intro hk
          rw [hk]
          exact (RunDesk.update_of_ne hec).trans hx
      · exact absurd rfl (hne _ _)
  | @stopped q c job desk hq hjob hdesk =>
      refine ⟨h.regular.step hq, h.parsed.step hq,
        forall_setRun (s := { s with queue := q }) h.runs ((h.runs _).step hdesk),
        fun e d' job' status he => ?_⟩
      obtain ⟨x, hx, hp⟩ := h.queued rfl hq he
      refine ⟨x, ?_, hp⟩
      refine forall_setRun (s := { s with queue := q })
        (P := fun k desk => k = job'.idempotencyKey → desk.execution e = some x) ?_ ?_ _ rfl
      · rintro k rfl
        exact hx
      · intro hk
        refine hdesk.returned_stays (fun _ _ _ e => by cases e) ?_ hp
        rw [hk]
        exact hx
  | @ran key l desk hperm hdesk =>
      refine ⟨h.regular, h.parsed, forall_setRun h.runs ((h.runs _).step hdesk),
        fun e d' job' status he => ?_⟩
      obtain ⟨x, hx, hp⟩ := h.returned e d' job' status he
      refine ⟨x, ?_, hp⟩
      refine forall_setRun
        (P := fun k desk => k = job'.idempotencyKey → desk.execution e = some x) ?_ ?_ _ rfl
      · rintro k rfl
        exact hx
      · rintro rfl
        refine hdesk.returned_stays ?_ hx hp
        rintro id job operatorReplay rfl
        cases hperm

/-! ## Removals -/

omit [PyRuntime] [QueueRuntime] in
/-- An entry of a stream is not there before it is added. -/
theorem new_deadLetter {dlq : EntryStream DeadLetterFields} (h : dlq.Valid) (now : Nat)
    (fields : DeadLetterFields) : ((dlq.add now fields).1, fields) ∉ dlq.entries :=
  fun hmem => h.new (y := fields) (h.mem_log hmem) rfl

/-- Every removal of an entry is justified. -/
theorem removal_justified (hjson : JsonInverse) {as : List PipelineAction} (h₀ : s.Start)
    (h : Run (Fires (step uuid5 maxAttempts)) s as t) (hs : t.step uuid5 maxAttempts a = some u)
    {x : StreamId × Fields} (hx : x ∈ t.queue.redis.live.entries)
    (hgone : x ∉ u.queue.redis.live.entries) : Justified t u x a := by
  have hsound : t.Sound := h.preserves Sound h₀.sound fun _ _ _ ht hs => ht.step (step_cases hs)
  have hlog := hsound.regular.live.mem_log hx
  have hentry : ∀ {c : Nat} {d : StreamDelivery},
      (t.queue.delivery c).held? = some (d.streamId, d.fields) → d.streamId = x.1 →
      d.fields = x.2 := fun hheld hid =>
    hsound.regular.live.eq_of_id (hid ▸ hsound.regular.held _ _ hheld) hlog
  have hqueue : ∀ {b : QueueAction} {q : Queue}, Queue.Stepped t.queue b q →
      x ∉ q.redis.live.entries → (u.queue = q) → Justified t u x (.queue b) := by
    rintro b q hq hgone rfl
    rcases hq.removes hx hgone with ⟨c, d, job, status, clock, rfl, hc, hid⟩ |
      ⟨c, d, reason, clock, now, rfl, hheld, hid, hdlq⟩
    · obtain ⟨y, hy, hp⟩ := hsound.returned c d job status hc
      have hfields := hentry (by rw [hc]; rfl) hid
      obtain ⟨hset, hcom⟩ := ((hsound.runs _).execs c y hy).returned status (by rw [hp]; rfl)
      refine .acknowledged hc hid (hfields ▸ hsound.parsed c d job (by rw [hc]; rfl)) hy hp hcom ?_
      cases status <;> first
        | decide
        | cases hset
    · have hfields := hentry hheld hid
      obtain ⟨ms, g, hloads, hms, hg⟩ := hjson.fields d.fields
      refine .deadLettered (y := (_, Redis.deadLetterFields d reason clock)) ?_
        (new_deadLetter hsound.regular.dlq now _) (congrArg some hid) rfl hloads hms
        fun k => hfields ▸ hg k
      rw [hdlq]
      exact EntryStream.mem_entries_add.mpr (.inr ⟨rfl, rfl⟩)
  cases step_cases hs with
  | queued _ hq => exact hqueue hq hgone rfl
  | started hq _ _ => exact hqueue hq hgone rfl
  | stopped hq _ _ => exact hqueue hq hgone rfl
  | ran => exact absurd hx hgone

/-- A job is enqueued and read, and its execution returns. -/
def returnedJob : List PipelineAction :=
  [.queue (.enqueue (sampleJob 'a') 1), .queue (.read 0), .queue (.parse 0)] ++
    (RunDesk.interruptedExecution 0).map (.run (sampleKey 'a')) ++
    [.queue (.finish 0 (.returned .awaitingReview))]

omit [PyRuntime] [QueueRuntime] in
/-- Its acknowledgement removes the entry. -/
theorem returnedJob_justified :
    letI := flatRuntime
    letI := asciiRuntime
    ∃ s t x, exec (step id 1) .empty returnedJob = some s ∧
      s.step id 1 (.queue (.acknowledge 0 2)) = some t ∧
      x ∈ s.queue.redis.live.entries ∧ x ∉ t.queue.redis.live.entries ∧
      Justified s t x (.queue (.acknowledge 0 2)) := by
  rw [flatRuntime_eq]
  let _ := quickRuntime
  let _ := asciiRuntime
  have hdata : (exec (step id 1) .empty returnedJob).any (fun s =>
      (s.step id 1 (.queue (.acknowledge 0 2))).any fun t =>
        s.queue.redis.live.entries = [(toLex (1, 0), quickFields)] &&
          t.queue.redis.live.entries.isEmpty) = true := by
    decide +kernel
  obtain ⟨s, hs, hdata⟩ := (Option.any_eq_true _ _).mp hdata
  obtain ⟨t, ht, hdata⟩ := (Option.any_eq_true _ _).mp hdata
  simp only [Bool.and_eq_true, decide_eq_true_eq, List.isEmpty_iff] at hdata
  have hx : (toLex (1, 0), quickFields) ∈ s.queue.redis.live.entries := by
    rw [hdata.1]
    exact List.mem_cons_self
  have hgone : (toLex (1, 0), quickFields) ∉ t.queue.redis.live.entries := by
    rw [hdata.2]
    exact List.not_mem_nil
  exact ⟨s, t, _, hs, ht, hx, hgone,
    removal_justified quickRuntime_inverse empty_start (run_of_exec hs) ht hx hgone⟩

end Pipeline

end FreightAP
