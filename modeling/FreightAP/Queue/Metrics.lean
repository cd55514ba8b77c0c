import FreightAP.Lib.StreamGroup
import FreightAP.Queue.Effects
import FreightAP.Queue.FlatRuntime
import Mathlib.Algebra.Order.Field.Rat
import Mathlib.Data.Rat.Cast.Order

/-!
# Metrics of the queue

`queue_metrics` reads the lengths of the two streams and the summary of
`XPENDING`, here in one state.  Its numbers are those of the entries: each entry
of the live stream is pending, and a reclaim hands it out, or it is still to be
read (`queue_metrics_exact`).  What the deliveries hold is pending, unless another
delivery has removed it.
-/

namespace FreightAP

open Transition

/-- `QueueMetrics`.  The time is in microseconds. -/
structure QueueMetrics where
  liveStreamLength : Nat
  pendingCount : Nat
  oldestPendingAgeSeconds : Option ℚ
  dlqCount : Nat
  observedAt : Int

/-- The age of an entry in seconds, no less than zero. -/
def ageSeconds (observedAt : Int) (id : StreamId) : ℚ :=
  max 0 ((observedAt : ℚ) / 1000000 - ((ofLex id).1 : ℚ) / 1000)

/-- `queue_metrics`, of one state.  The source waits for the two lengths, the
groups and the summary one after the other, so what is done between them can
show in some of the numbers and not in the others.  The group is missing until a
worker has made it. -/
def queueMetrics (r : Redis) (group : Option ConsumerGroup) (observedAt : Int) : QueueMetrics :=
  let pending := group.elim [] fun g => g.pendingIds r.live
  { liveStreamLength := r.live.entries.length
    pendingCount := pending.length
    oldestPendingAgeSeconds := pending.min?.map (ageSeconds observedAt)
    dlqCount := r.dlq.entries.length
    observedAt := observedAt }

namespace Queue

variable [QueueRuntime] {q q' q₀ : Queue} {a : QueueAction} {maxAttempts : Nat}

/-- Every step is at most one command on the live stream and its group. -/
theorem Stepped.commanded (h : Stepped q a q') :
    q.redis.group.Commanded q.redis.live q'.redis.group q'.redis.live := by
  cases h with
  | enqueued _ hnone =>
      simp only [write, Redis.enqueueJob, hnone]
      exact .added ..
  | published => exact .added ..
  | read _ hread => exact .read hread
  | reclaimed _ hclaim => exact .claimed hclaim
  | unclaimed hclaim => exact .claimed hclaim
  | heartbeat => exact .counted ..
  | @marked c d job clock _ =>
      have hlive : (q.redis.recordReplayProcessing d clock).live = q.redis.live :=
        Redis.hsetAction_live
      have hgroup : (q.redis.recordReplayProcessing d clock).group = q.redis.group :=
        Redis.hsetAction_group
      show q.redis.group.Commanded q.redis.live (q.redis.recordReplayProcessing d clock).group
        (q.redis.recordReplayProcessing d clock).live
      rw [hlive, hgroup]
      exact .quiet
  | @recordFailure c d job reason clock _ =>
      have hlive : (q.redis.recordFailure d reason clock).live = q.redis.live :=
        Redis.hsetAction_live
      have hgroup : (q.redis.recordFailure d reason clock).group = q.redis.group :=
        Redis.hsetAction_group
      show q.redis.group.Commanded q.redis.live (q.redis.recordFailure d reason clock).group
        (q.redis.recordFailure d reason clock).live
      rw [hlive, hgroup]
      exact .quiet
  | @deadLetter c d reason former clock now _ _ =>
      have hlive : (q.redis.deadLetter d reason clock now).live = q.redis.live.del d.streamId :=
        Redis.hsetAction_live
      have hgroup : (q.redis.deadLetter d reason clock now).group =
          q.redis.group.ack d.streamId := Redis.hsetAction_group
      show q.redis.group.Commanded q.redis.live (q.redis.deadLetter d reason clock now).group
        (q.redis.deadLetter d reason clock now).live
      rw [hlive, hgroup]
      exact .removed _
  | @acknowledge c d job status clock _ =>
      have hlive : (q.redis.acknowledge d status clock).live = q.redis.live.del d.streamId :=
        Redis.hsetAction_live
      have hgroup : (q.redis.acknowledge d status clock).group =
          q.redis.group.ack d.streamId := Redis.hsetAction_group
      show q.redis.group.Commanded q.redis.live (q.redis.acknowledge d status clock).group
        (q.redis.acknowledge d status clock).live
      rw [hlive, hgroup]
      exact .removed _
  | created => exact .added ..
  | @purged cutoff limit =>
      obtain ⟨hlive, hgroup, -⟩ := Redis.purgeBatch_live (r := q.redis) cutoff limit
      show q.redis.group.Commanded q.redis.live (q.redis.purgeBatch cutoff limit).group
        (q.redis.purgeBatch cutoff limit).live
      rw [hlive, hgroup]
      exact .quiet
  | _ => exact .quiet

/-- What the deliveries hold was handed out. -/
structure Held (q : Queue) : Prop where
  kept : q.redis.group.Kept q.redis.live
  delivered : ∀ c x, (q.delivery c).held? = some x → x.1 ≤ q.redis.group.delivered

omit [QueueRuntime] in
theorem Start.held (h : q.Start) : q.Held where
  kept := by
    rw [h.live, h.group]
    exact ConsumerGroup.kept_new
  delivered c x hx := by
    rw [h.delivery c] at hx
    cases hx

/-- A delivery holds what it held before, or an entry that was handed out. -/
theorem Stepped.handed (h : Stepped q a q') (hkept : q.redis.group.Kept q.redis.live) {e : Nat}
    {x : StreamId × Fields} (hx : (q'.delivery e).held? = some x) :
    (q.delivery e).held? = some x ∨ x.1 ≤ q'.redis.group.delivered := by
  cases h with
  | @read c id fields group hc hread =>
      obtain ⟨-, -, rfl⟩ := ConsumerGroup.read_some hread
      by_cases he : e = c
      · subst he
        rw [goto_self] at hx
        cases hx
        exact .inr (le_refl _)
      · rw [goto_of_ne _ he] at hx
        exact .inl hx
  | @reclaimed c i id fields group hc hclaim =>
      obtain ⟨-, -, n, hn, rfl⟩ := ConsumerGroup.claim_some hkept.valid hclaim
      by_cases he : e = c
      · subst he
        rw [goto_self] at hx
        cases hx
        exact .inr ((hkept.tracks.pending id).mp (by rw [hn]; rfl)).2
      · rw [goto_of_ne _ he] at hx
        exact .inl hx
  | counted hp => exact .inl (entry_goto hx fun h => by rw [hp]; exact h)
  | rejected hp _ => exact .inl (entry_goto hx fun h => by rw [hp]; exact h)
  | parsed hp _ => exact .inl (entry_goto hx fun h => by rw [hp]; exact h)
  | started hp _ _ => exact .inl (entry_goto hx fun h => by rw [hp]; exact h)
  | marked hp =>
      exact .inl (entry_goto hx fun h => by rw [show (q.delivery _) = _ from hp]; exact h)
  | returned hp => exact .inl (entry_goto hx fun h => by rw [hp]; exact h)
  | raised hp => exact .inl (entry_goto hx fun h => by rw [hp]; exact h)
  | recordFailure => exact .inl (entry_goto hx fun h => by cases h)
  | markFailed hp => exact .inl (entry_goto hx fun h => by rw [hp]; exact h)
  | deadLetter => exact .inl (entry_goto hx fun h => by cases h)
  | acknowledge => exact .inl (entry_goto hx fun h => by cases h)
  | abandon => exact .inl (entry_goto hx fun h => by cases h)
  | _ => exact .inl hx

theorem Held.step (h : q.Held) (hs : Stepped q a q') : q'.Held where
  kept := hs.commanded.kept h.kept
  delivered c x hx := by
    rcases hs.handed h.kept hx with hx | hle
    · exact (h.delivered c x hx).trans (hs.commanded.delivered_le h.kept.valid)
    · exact hle

/-! ## Runs -/

/-- In every state of every run: the live stream is as long as the pending
entries and those to be read together; a reclaim hands out any entry of the
former, a read the first of the latter; the age is that of the oldest entry, and
there is one exactly when an entry is pending.  What a delivery holds is pending
or was removed. -/
theorem queue_metrics_exact (h₀ : q₀.Start) {as : List QueueAction}
    (h : Run (Fires (step maxAttempts)) q₀ as q) (observedAt : Int) :
    let metrics := queueMetrics q.redis (some q.redis.group) observedAt
    let unread := q.redis.group.unread q.redis.live
    metrics.liveStreamLength = metrics.pendingCount + unread.length ∧
      (∀ x ∈ q.redis.live.entries,
        x ∈ unread ∨ (q.redis.group.claim q.redis.live x.1).1 = some x) ∧
      (q.redis.group.read q.redis.live).1 = unread.head? ∧
      (metrics.oldestPendingAgeSeconds = none ↔ metrics.pendingCount = 0) ∧
      (∀ age ∈ metrics.oldestPendingAgeSeconds,
        ∃ x ∈ q.redis.live.entries.head?, age = ageSeconds observedAt x.1) ∧
      ∀ c x, (q.delivery c).held? = some x →
        x.1 ∈ q.redis.group.pendingIds q.redis.live ∨ x ∉ q.redis.live.entries := by
  intro metrics unread
  have hheld : q.Held :=
    h.preserves Held h₀.held fun _ _ _ hq hs => hq.step (step_cases maxAttempts hs)
  obtain ⟨hvalid, hordered, htracks⟩ := hheld.kept
  refine ⟨htracks.length_entries hvalid, fun x hx => ?_, ConsumerGroup.read_eq .., ?_, ?_, ?_⟩
  · by_cases hlt : q.redis.group.delivered < x.1
    · exact .inl (List.mem_filter.mpr ⟨hx, decide_eq_true hlt⟩)
    · exact .inr (htracks.claimable hvalid hx (not_lt.mp hlt))
  · show Option.map _ _ = none ↔ List.length _ = 0
    rw [Option.map_eq_none_iff, List.min?_eq_none_iff, List.length_eq_zero_iff]
  · intro age hage
    obtain ⟨id, hmin, rfl⟩ := Option.map_eq_some_iff.mp hage
    obtain ⟨x, hx⟩ := htracks.min?_pendingIds hvalid hordered hmin
    exact ⟨_, hx, rfl⟩
  · intro c x hx
    by_cases hmem : x ∈ q.redis.live.entries
    · left
      rw [htracks.pendingIds_eq hvalid]
      exact List.mem_filter.mpr
        ⟨List.mem_map_of_mem hmem, decide_eq_true (hheld.delivered c x hx)⟩
    · exact .inr hmem

omit [QueueRuntime] in
/-- The entry that is read is pending, and the one behind it is to be read. -/
theorem queue_metrics_exact_read :
    letI := flatRuntime
    ∃ q, Run (Fires (step 1)) .empty
        [.enqueue (sampleJob 'a') 1, .publish [] 2, .read 0] q ∧
      (q.redis.group.unread q.redis.live).length = 1 ∧
      (queueMetrics q.redis (some q.redis.group) 0).liveStreamLength =
        (queueMetrics q.redis (some q.redis.group) 0).pendingCount + 1 := by
  rw [flatRuntime_eq]
  let _ := quickRuntime
  have hdata : (exec (step 1) .empty [.enqueue (sampleJob 'a') 1, .publish [] 2, .read 0]).any
      (fun q => (q.redis.group.unread q.redis.live).length = 1) = true := by
    decide +kernel
  obtain ⟨q, hq, hdata⟩ := (Option.any_eq_true _ _).mp hdata
  obtain ⟨hlength, -⟩ := queue_metrics_exact empty_start (run_of_exec hq) 0
  rw [of_decide_eq_true hdata] at hlength
  exact ⟨q, run_of_exec hq, of_decide_eq_true hdata, hlength⟩

end Queue

end FreightAP
