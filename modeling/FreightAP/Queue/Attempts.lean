import Mathlib.Data.Finset.Card
import Mathlib.Order.Interval.Finset.Nat
import FreightAP.Queue.FlatRuntime
import FreightAP.Queue.System

/-!
# Attempts

The limit on attempts is checked where a run of the workflow raises, on the
count that was read when the delivery was handed out.  A consumer that crashes
never gets there, so its entry is handed out and started once more, however
often it was started before; and the heartbeat of a former holder sets the
count back.

`bounded_of_withinLimit`: without these two every entry is started
`maxAttempts` times at most.  Every hand-out of an entry has a slot, the count
it brought about.  Slots of one entry differ, and a delivery never reads a count
below its slot.
-/

namespace FreightAP

open Transition

namespace Queue

variable [QueueRuntime] (maxAttempts : Nat)

/-- No entry of the live stream has been started more often than the limit
says. -/
def Bounded (q : Queue) : Prop :=
  ∀ id fields, (id, fields) ∈ q.redis.live.entries →
    (q.started.filter (·.2.streamId = id)).length ≤ maxAttempts

/-- A workflow is started on a delivery within the limit only, and a heartbeat
does not set back the count of a pending entry. -/
def WithinLimit (q : Queue) : QueueAction → Prop
  | .parse c => ∀ d ∈ (q.delivery c).waiting?, (parseDelivery d.fields).isOk →
      replayContext d.fields = none → d.attempt ≤ maxAttempts
  | .mark c _ => ∀ d ∈ (q.delivery c).waiting?, d.attempt ≤ maxAttempts
  | .heartbeat c => ∀ d ∈ (q.delivery c).heartbeat?,
      ∀ n ∈ q.redis.group.pending d.streamId, n ≤ d.attempt
  | _ => True

instance (q : Queue) : (a : QueueAction) → Decidable (q.WithinLimit maxAttempts a)
  | .parse c => inferInstanceAs (Decidable (∀ d ∈ (q.delivery c).waiting?, _ → _ → _))
  | .mark c _ => inferInstanceAs (Decidable (∀ d ∈ (q.delivery c).waiting?, _))
  | .heartbeat c => inferInstanceAs (Decidable (∀ d ∈ (q.delivery c).heartbeat?, ∀ n ∈ _, _))
  | .enqueue _ _ | .publish _ _ | .expire _ | .read _ | .reclaim _ _ | .count _ | .finish _ _
  | .recordFailure _ _ | .markFailed _ | .deadLetter _ _ _ | .acknowledge _ _ | .abandon _
  | .request _ _ _ | .evaluate _ _ _ | .giveUp _ | .purge _ _ => inferInstanceAs (Decidable True)

/-- Every delivery holds a slot of its entry. -/
structure Slotted (q : Queue) (slot : Nat → Option (StreamId × Nat)) : Prop where
  valid : q.redis.live.Valid
  handed : ∀ id n, q.redis.group.pending id = some n → id ≤ q.redis.group.delivered
  fresh : ∀ c, q.delivery c = .idle → slot c = none
  entry : ∀ c id fields, (q.delivery c).held? = some (id, fields) → ∃ s, slot c = some (id, s)
  known : ∀ c id s, slot c = some (id, s) →
    id ≤ q.redis.group.delivered ∧ (∃ fields, (id, fields) ∈ q.redis.live.log) ∧ 0 < s
  below : ∀ c id s fields, slot c = some (id, s) → (id, fields) ∈ q.redis.live.entries →
    ∃ n, q.redis.group.pending id = some n ∧ s ≤ n
  apart : ∀ c e id s, slot c = some (id, s) → slot e = some (id, s) → c = e
  attempt : ∀ c d s fields, (q.delivery c).waiting? = some d → slot c = some (d.streamId, s) →
    (d.streamId, fields) ∈ q.redis.live.entries → s ≤ d.attempt
  once : (q.started.map Prod.fst).Nodup
  begun : ∀ x ∈ q.started, (q.delivery x.1).unstarted = false ∧
    ∃ s, slot x.1 = some (x.2.streamId, s) ∧
      ∀ fields, (x.2.streamId, fields) ∈ q.redis.live.entries → s ≤ maxAttempts

section

variable {maxAttempts} {q q' : Queue} {slot : Nat → Option (StreamId × Nat)} {c : Nat}
  {d : StreamDelivery} {job : InvoiceJobEnvelope} {p : DeliveryPhase}

omit [QueueRuntime] in
/-- The slots of the starts of an entry are different numbers up to the limit. -/
theorem Slotted.bounded (h : q.Slotted maxAttempts slot) : q.Bounded maxAttempts := by
  intro id fields hlive
  let starts := q.started.filter (·.2.streamId = id)
  let number : Nat × StreamDelivery → Nat := fun x => ((slot x.1).map Prod.snd).getD 0
  have hstart : ∀ x ∈ starts, ∃ s, slot x.1 = some (id, s) ∧ 0 < s ∧ s ≤ maxAttempts := by
    intro x hx
    obtain ⟨hmem, hid⟩ := List.mem_filter.mp hx
    obtain ⟨-, s, hs, hle⟩ := h.begun x hmem
    rw [of_decide_eq_true hid] at hs hle
    exact ⟨s, hs, (h.known x.1 id s hs).2.2, hle fields hlive⟩
  have hnodup : (starts.map number).Nodup := by
    refine List.Nodup.map_on (fun x hx y hy hxy => ?_) ((List.Nodup.of_map _ h.once).filter _)
    obtain ⟨s, hs, -⟩ := hstart x hx
    obtain ⟨s', hs', -⟩ := hstart y hy
    simp only [number, hs, hs', Option.map_some, Option.getD_some] at hxy
    subst hxy
    exact List.inj_on_of_nodup_map h.once (List.mem_of_mem_filter hx) (List.mem_of_mem_filter hy)
      (h.apart x.1 y.1 id s hs hs')
  have hsub : (starts.map number).toFinset ⊆ Finset.Icc 1 maxAttempts := by
    intro n hn
    obtain ⟨x, hx, rfl⟩ := List.mem_map.mp (List.mem_toFinset.mp hn)
    obtain ⟨s, hs, hpos, hle⟩ := hstart x hx
    rw [Finset.mem_Icc]
    simp only [number, hs, Option.map_some, Option.getD_some]
    exact ⟨hpos, hle⟩
  have hcard := Finset.card_le_card hsub
  rw [List.toFinset_card_of_nodup hnodup, List.length_map, Nat.card_Icc] at hcard
  exact hcard.trans (by omega)

omit [QueueRuntime] in
/-- The keys are written: no entry comes back, and no count falls. -/
theorem Slotted.write (h : q.Slotted maxAttempts slot) {r : Redis} (hvalid : r.live.Valid)
    (hlog : ∀ e ∈ q.redis.live.log, e ∈ r.live.log)
    (hentries : ∀ id fields, (id, fields) ∈ r.live.entries →
      (id, fields) ∈ q.redis.live.entries ∨ ∀ fields', (id, fields') ∉ q.redis.live.log)
    (hdelivered : r.group.delivered = q.redis.group.delivered)
    (hhanded : ∀ id n, r.group.pending id = some n → ∃ n', q.redis.group.pending id = some n')
    (hpending : ∀ id fields n, (id, fields) ∈ r.live.entries →
      q.redis.group.pending id = some n → ∃ n', r.group.pending id = some n' ∧ n ≤ n') :
    (q.write r).Slotted maxAttempts slot := by
  -- An entry that was handed out was there before.
  have hold : ∀ e id s fields, slot e = some (id, s) → (id, fields) ∈ r.live.entries →
      (id, fields) ∈ q.redis.live.entries := by
    intro e id s fields hs he
    obtain ⟨-, ⟨fields', hf⟩, -⟩ := h.known e id s hs
    exact (hentries id fields he).resolve_right fun hn => hn fields' hf
  refine ⟨hvalid, fun id n hn => ?_, h.fresh, h.entry, fun e id s hs => ?_, fun e id s fields hs he => ?_,
    h.apart, fun e d s fields hw hs he => h.attempt e d s fields hw hs (hold e _ s fields hs he), h.once,
    fun x hx => ?_⟩
  · obtain ⟨n', hn'⟩ := hhanded id n hn
    exact hdelivered ▸ h.handed id n' hn'
  · obtain ⟨hle, ⟨fields, hf⟩, hpos⟩ := h.known e id s hs
    exact ⟨hdelivered ▸ hle, ⟨fields, hlog _ hf⟩, hpos⟩
  · obtain ⟨n, hn, hsn⟩ := h.below e id s fields hs (hold e id s fields hs he)
    obtain ⟨n', hn', hle⟩ := hpending id fields n he hn
    exact ⟨n', hn', hsn.trans hle⟩
  · obtain ⟨hun, s, hs, hle⟩ := h.begun x hx
    exact ⟨hun, s, hs, fun fields he => hle fields (hold x.1 _ s fields hs he)⟩

omit [QueueRuntime] in
/-- A delivery goes on with its entry. -/
theorem Slotted.goto (h : q.Slotted maxAttempts slot) (hidle : p ≠ .idle)
    (hentry : ∀ x, p.held? = some x → (q.delivery c).held? = some x)
    (hwait : ∀ d s fields, p.waiting? = some d → slot c = some (d.streamId, s) →
      (d.streamId, fields) ∈ q.redis.live.entries → s ≤ d.attempt)
    (hstart : p.unstarted = true → (q.delivery c).unstarted = true) :
    (q.goto c p).Slotted maxAttempts slot := by
  refine ⟨h.valid, h.handed, fun e he => ?_, fun e id fields he => ?_, h.known, h.below, h.apart,
    fun e d s fields hw hs hlive => ?_, h.once, fun x hx => ?_⟩
  · by_cases hec : e = c
    · subst hec
      rw [goto_self] at he
      exact absurd he hidle
    · rw [goto_of_ne p hec] at he
      exact h.fresh e he
  · by_cases hec : e = c
    · subst hec
      rw [goto_self] at he
      exact h.entry e id fields (hentry _ he)
    · rw [goto_of_ne p hec] at he
      exact h.entry e id fields he
  · by_cases hec : e = c
    · subst hec
      rw [goto_self] at hw
      exact hwait d s fields hw hs hlive
    · rw [goto_of_ne p hec] at hw
      exact h.attempt e d s fields hw hs hlive
  · obtain ⟨hun, hrest⟩ := h.begun x hx
    refine ⟨?_, hrest⟩
    by_cases hec : x.1 = c
    · rw [hec, goto_self]
      rw [hec] at hun
      cases hp : p.unstarted with
      | false => rfl
      | true => exact absurd (hstart hp) (by rw [hun]; exact Bool.false_ne_true)
    · rw [goto_of_ne p hec]
      exact hun

omit [QueueRuntime] in
/-- A delivery within the limit starts its workflow. -/
theorem Slotted.start (h : q.Slotted maxAttempts slot) (hw : (q.delivery c).waiting? = some d)
    (hlimit : d.attempt ≤ maxAttempts) : (q.start c d job).Slotted maxAttempts slot := by
  have hentry : (q.delivery c).held? = some (d.streamId, d.fields) := by
    cases h' : q.delivery c <;> rw [h'] at hw <;> cases hw <;> rfl
  have hun : (q.delivery c).unstarted = true := by
    cases hp : q.delivery c <;> rw [hp] at hw <;> cases hw <;> rfl
  obtain ⟨s, hs⟩ := h.entry c _ _ hentry
  have hgoto : (q.goto c (.running d job)).Slotted maxAttempts slot :=
    h.goto (fun e => by cases e) (fun x hx => by rw [hentry]; exact hx)
      (fun d' s' fields e => by cases e) (fun e => by cases e)
  refine ⟨h.valid, h.handed, hgoto.fresh, hgoto.entry, h.known, h.below, h.apart, hgoto.attempt, ?_,
    fun x hx => ?_⟩
  · show ((q.started ++ [(c, d)]).map Prod.fst).Nodup
    rw [List.map_append, List.map_singleton, List.nodup_append]
    refine ⟨h.once, List.nodup_singleton _, fun a ha b hb => ?_⟩
    obtain ⟨x, hx, rfl⟩ := List.mem_map.mp ha
    rw [List.mem_singleton.mp hb]
    rintro rfl
    have := (h.begun x hx).1
    rw [hun] at this
    cases this
  · rcases List.mem_append.mp hx with hx | hx
    · exact hgoto.begun x hx
    · rw [List.mem_singleton.mp hx]
      refine ⟨by rw [start_self]; rfl, s, hs, fun fields hlive => ?_⟩
      exact (h.attempt c d s fields hw hs hlive).trans hlimit

omit [QueueRuntime] in
/-- An entry is handed out with a slot above the slots it has. -/
theorem Slotted.handOut (h : q.Slotted maxAttempts slot) {group : ConsumerGroup} {id : StreamId}
    {fields : Fields} {n : Nat} (hc : q.delivery c = .idle)
    (hentry : p.held? = some (id, fields)) (hwait : ∀ d, p.waiting? = some d → n ≤ d.attempt)
    (hlive : (id, fields) ∈ q.redis.live.entries) (hn : 0 < n)
    (hdelivered : q.redis.group.delivered ≤ group.delivered) (hid : id ≤ group.delivered)
    (hself : group.pending id = some n)
    (hothers : ∀ j, j ≠ id → group.pending j = q.redis.group.pending j)
    (habove : ∀ e s, slot e = some (id, s) → s < n) :
    ((q.write { q.redis with group := group }).goto c p).Slotted maxAttempts
      (Function.update slot c (some (id, n))) := by
  have hnone := h.fresh c hc
  have hslot : ∀ e j s, Function.update slot c (some (id, n)) e = some (j, s) →
      e = c ∧ j = id ∧ s = n ∨ e ≠ c ∧ slot e = some (j, s) := by
    intro e j s hs
    by_cases he : e = c
    · subst he
      rw [Function.update_self] at hs
      cases hs
      exact .inl ⟨rfl, rfl, rfl⟩
    · rw [Function.update_of_ne he] at hs
      exact .inr ⟨he, hs⟩
  refine ⟨h.valid, fun j m hm => ?_, fun e he => ?_, fun e j f he => ?_, fun e j s hs => ?_,
    fun e j s f hs hl => ?_, fun e e' j s hs hs' => ?_, fun e d s f hw hs hl => ?_, h.once,
    fun x hx => ?_⟩
  · by_cases hj : j = id
    · exact hj ▸ hid
    · exact (h.handed j m ((hothers j hj).symm.trans hm)).trans hdelivered
  · by_cases hec : e = c
    · subst hec
      rw [goto_self] at he
      rw [he] at hentry
      cases hentry
    · rw [goto_of_ne p hec] at he
      rw [Function.update_of_ne hec]
      exact h.fresh e he
  · by_cases hec : e = c
    · subst hec
      rw [goto_self, hentry] at he
      cases he
      exact ⟨n, Function.update_self ..⟩
    · rw [goto_of_ne p hec] at he
      rw [Function.update_of_ne hec]
      exact h.entry e j f he
  · rcases hslot e j s hs with ⟨-, rfl, rfl⟩ | ⟨-, hold⟩
    · exact ⟨hid, ⟨fields, h.valid.mem_log hlive⟩, hn⟩
    · obtain ⟨hle, hrest⟩ := h.known e j s hold
      exact ⟨hle.trans hdelivered, hrest⟩
  · rcases hslot e j s hs with ⟨-, rfl, rfl⟩ | ⟨-, hold⟩
    · exact ⟨s, hself, Nat.le_refl s⟩
    · by_cases hj : j = id
      · subst hj
        exact ⟨n, hself, (habove e s hold).le⟩
      · obtain ⟨m, hm, hsm⟩ := h.below e j s f hold hl
        exact ⟨m, (hothers j hj).trans hm, hsm⟩
  · rcases hslot e j s hs with ⟨rfl, rfl, rfl⟩ | ⟨-, hold⟩
    · rcases hslot e' _ _ hs' with ⟨rfl, -, -⟩ | ⟨-, hold⟩
      · rfl
      · exact absurd (habove e' s hold) (Nat.lt_irrefl s)
    · rcases hslot e' j s hs' with ⟨-, rfl, rfl⟩ | ⟨-, hold'⟩
      · exact absurd (habove e s hold) (Nat.lt_irrefl s)
      · exact h.apart e e' j s hold hold'
  · by_cases hec : e = c
    · subst hec
      rw [goto_self] at hw
      rw [Function.update_self] at hs
      cases hs
      exact hwait d hw
    · rw [goto_of_ne p hec] at hw
      rw [Function.update_of_ne hec] at hs
      exact h.attempt e d s f hw hs hl
  · obtain ⟨hun, s, hs, hle⟩ := h.begun x hx
    have hec : x.1 ≠ c := by
      intro hec
      rw [hec, hnone] at hs
      cases hs
    refine ⟨?_, s, ?_, hle⟩
    · rw [goto_of_ne p hec]
      exact hun
    · rw [Function.update_of_ne hec]
      exact hs

omit [QueueRuntime] in
/-- An entry is added. -/
theorem Slotted.add (h : q.Slotted maxAttempts slot) {r : Redis} (now : Nat) (fields : Fields)
    (hlive : r.live = (q.redis.live.add now fields).2) (hgroup : r.group = q.redis.group) :
    (q.write r).Slotted maxAttempts slot := by
  refine h.write ?_ ?_ ?_ ?_ ?_ ?_
  · rw [hlive]
    exact h.valid.add now fields
  · rintro ⟨id, f⟩ he
    rw [hlive, EntryStream.mem_log_add]
    exact .inl he
  · intro id f he
    rw [hlive, EntryStream.mem_entries_add] at he
    rcases he with he | ⟨hid, -⟩
    · exact .inl he
    · exact .inr fun f' hf => h.valid.new hf hid
  · rw [hgroup]
  · rw [hgroup]
    exact fun id n hn => ⟨n, hn⟩
  · intro id f n _ hn
    rw [hgroup]
    exact ⟨n, hn, Nat.le_refl n⟩

omit [QueueRuntime] in
/-- An entry is acknowledged and deleted. -/
theorem Slotted.remove (h : q.Slotted maxAttempts slot) {r : Redis} {id : StreamId}
    (hlive : r.live = q.redis.live.del id) (hgroup : r.group = q.redis.group.ack id) :
    (q.write r).Slotted maxAttempts slot := by
  refine h.write ?_ ?_ ?_ ?_ ?_ ?_
  · rw [hlive]
    exact h.valid.del id
  · rw [hlive]
    exact fun e he => he
  · intro j f he
    rw [hlive, EntryStream.mem_entries_del] at he
    exact .inl he.1
  · rw [hgroup]
    rfl
  · intro j n hn
    rw [hgroup] at hn
    exact ConsumerGroup.ack_some hn
  · intro j f n he hn
    rw [hlive, EntryStream.mem_entries_del] at he
    rw [hgroup, ConsumerGroup.ack_pending he.2]
    exact ⟨n, hn, Nat.le_refl n⟩

omit [QueueRuntime] in
/-- The entries stay, and the counts of them do not fall. -/
theorem Slotted.regroup (h : q.Slotted maxAttempts slot) {r : Redis}
    (hlive : r.live = q.redis.live) (hdelivered : r.group.delivered = q.redis.group.delivered)
    (hhanded : ∀ id n, r.group.pending id = some n → ∃ n', q.redis.group.pending id = some n')
    (hpending : ∀ id fields n, (id, fields) ∈ q.redis.live.entries →
      q.redis.group.pending id = some n → ∃ n', r.group.pending id = some n' ∧ n ≤ n') :
    (q.write r).Slotted maxAttempts slot := by
  refine h.write ?_ ?_ ?_ hdelivered hhanded ?_
  · rw [hlive]
    exact h.valid
  · rw [hlive]
    exact fun e he => he
  · rw [hlive]
    exact fun id fields he => .inl he
  · rw [hlive]
    exact hpending

omit [QueueRuntime] in
/-- A replay request goes on. -/
theorem Slotted.respond {rp : ReplayPhase} (h : q.Slotted maxAttempts slot) :
    (q.respond c rp).Slotted maxAttempts slot :=
  ⟨h.valid, h.handed, h.fresh, h.entry, h.known, h.below, h.apart, h.attempt, h.once, h.begun⟩

omit [QueueRuntime] in
/-- A delivery goes on to a phase that waits for no workflow. -/
theorem Slotted.pass (h : q.Slotted maxAttempts slot) (hidle : p ≠ .idle)
    (hentry : ∀ x, p.held? = some x → (q.delivery c).held? = some x)
    (hwait : p.waiting? = none) (hstart : p.unstarted = false) :
    (q.goto c p).Slotted maxAttempts slot :=
  h.goto hidle hentry (fun d s fields hw => by rw [hwait] at hw; cases hw)
    fun hp => by rw [hstart] at hp; cases hp

/-- Every step keeps the slots, or gives out a new one. -/
theorem Slotted.step {a : QueueAction} (h : q.Slotted maxAttempts slot)
    (hg : q.WithinLimit maxAttempts a) (hs : Stepped q a q') :
    ∃ slot', q'.Slotted maxAttempts slot' := by
  -- The group stays as it is.
  have hstay : ∀ r : Redis, r.live = q.redis.live → r.group = q.redis.group →
      (q.write r).Slotted maxAttempts slot := by
    intro r hlive hgroup
    refine h.regroup hlive (by rw [hgroup]) ?_ ?_
    · rw [hgroup]
      exact fun id n hn => ⟨n, hn⟩
    · rw [hgroup]
      exact fun id fields n _ hn => ⟨n, hn, Nat.le_refl n⟩
  cases hs with
  | @enqueued job now hv hnone =>
      refine ⟨slot, h.add now [("payload", QueueRuntime.modelDumpJson job)] ?_ ?_⟩
      · simp only [Redis.enqueueJob, hnone]
      · simp only [Redis.enqueueJob, hnone]
  | repeated => exact ⟨slot, h⟩
  | published => exact ⟨slot, h.add _ _ rfl rfl⟩
  | expired => exact ⟨slot, hstay _ rfl rfl⟩
  | @read c id fields group hc hread =>
      obtain ⟨hlive, hlt, rfl⟩ := ConsumerGroup.read_some hread
      refine ⟨_, h.handOut hc rfl ?_ hlive Nat.one_pos hlt.le (le_refl id)
        (Function.update_self ..) (fun j hj => Function.update_of_ne hj ..) ?_⟩
      · rintro d ⟨⟩
        exact Nat.le_refl 1
      · intro e s hs
        exact absurd (h.known e id s hs).1 (not_le_of_gt hlt)
  | @reclaimed c i id fields group hc hclaim =>
      obtain ⟨rfl, hlive, n, hn, rfl⟩ := ConsumerGroup.claim_some h.valid hclaim
      refine ⟨_, h.handOut hc rfl (fun d hd => by cases hd) hlive (Nat.succ_pos n)
        (le_refl _) (h.handed i n hn) (Function.update_self ..)
        (fun j hj => Function.update_of_ne hj ..) ?_⟩
      intro e s hs
      obtain ⟨m, hm, hle⟩ := h.below e i s fields hs hlive
      cases hn.symm.trans hm
      exact Nat.lt_succ_of_le hle
  | unclaimed hclaim =>
      obtain ⟨hdelivered, hsome, hpending⟩ := ConsumerGroup.claim_none h.valid hclaim
      refine ⟨slot, h.regroup rfl hdelivered hsome fun id fields n he hn => ?_⟩
      exact ⟨n, (hpending id fields he).trans hn, Nat.le_refl n⟩
  | @counted c id fields hp =>
      refine ⟨slot, h.goto (fun e => by cases e) (fun x hx => by rw [hp]; exact hx) ?_
        fun _ => by rw [hp]; rfl⟩
      rintro d s fields' ⟨⟩ hs hlive
      obtain ⟨n, hn, hle⟩ := h.below c id s fields' hs hlive
      show s ≤ (q.redis.group.pending id).getD 1
      rw [hn]
      exact hle
  | rejected hp _ =>
      exact ⟨slot, h.pass (fun e => by cases e) (fun x hx => by rw [hp]; exact hx) rfl rfl⟩
  | @parsed c d job hp _ =>
      refine ⟨slot, h.goto (fun e => by cases e) (fun x hx => by rw [hp]; exact hx) ?_
        fun _ => by rw [hp]; rfl⟩
      rintro d' s fields ⟨⟩ hs hlive
      exact h.attempt c d s fields (by rw [hp]; rfl) hs hlive
  | @started c d job hp hj hr =>
      refine ⟨slot, h.start (by rw [hp]; rfl) (hg d ?_ ?_ hr)⟩
      · rw [hp]
        rfl
      · rw [hj]
        rfl
  | @marked c d job clock hp =>
      have hw : (q.delivery c).waiting? = some d := by
        rw [hp]
        rfl
      exact ⟨slot, (hstay _ Redis.hsetAction_live Redis.hsetAction_group).start hw (hg d hw)⟩
  | returned hp =>
      exact ⟨slot, h.pass (fun e => by cases e) (fun x hx => by rw [hp]; exact hx) rfl rfl⟩
  | raised hp =>
      exact ⟨slot, h.pass (fun e => by cases e) (fun x hx => by rw [hp]; exact hx) rfl rfl⟩
  | @heartbeat c d hd =>
      refine ⟨slot, h.regroup rfl (ConsumerGroup.setCount_delivered _)
        (fun id n => ConsumerGroup.setCount_some) fun id fields n _ hn => ?_⟩
      show ∃ n', (q.redis.group.setCount d.streamId d.attempt).pending id = some n' ∧ n ≤ n'
      rw [ConsumerGroup.setCount_pending]
      by_cases hid : id = d.streamId
      · subst hid
        rw [if_pos rfl, hn]
        exact ⟨d.attempt, rfl, hg d hd n hn⟩
      · rw [if_neg hid]
        exact ⟨n, hn, Nat.le_refl n⟩
  | recordFailure =>
      refine ⟨slot, (hstay _ ?_ ?_).pass (fun e => by cases e) (fun x hx => by cases hx) rfl rfl⟩
      · exact Redis.hsetAction_live
      · exact Redis.hsetAction_group
  | markFailed hp =>
      exact ⟨slot, h.pass (fun e => by cases e) (fun x hx => by rw [hp]; exact hx) rfl rfl⟩
  | deadLetter =>
      exact ⟨slot, (h.remove Redis.hsetAction_live Redis.hsetAction_group).pass
        (fun e => by cases e) (fun x hx => by cases hx) rfl rfl⟩
  | acknowledge =>
      exact ⟨slot, (h.remove Redis.hsetAction_live Redis.hsetAction_group).pass
        (fun e => by cases e) (fun x hx => by cases hx) rfl rfl⟩
  | abandon => exact ⟨slot, h.pass (fun e => by cases e) (fun x hx => by cases hx) rfl rfl⟩
  | failed => exact ⟨slot, h.respond⟩
  | validated => exact ⟨slot, h.respond⟩
  | @created c dlqId requestId evidence clock now =>
      have hadd := h.add (r := (q.redis.createReplay dlqId requestId
        (QueueRuntime.modelDumpJson evidence.job) clock now).2) now _ rfl rfl
      exact ⟨slot, hadd.respond⟩
  | existing => exact ⟨slot, h.respond⟩
  | refused => exact ⟨slot, h.respond⟩
  | gaveUp => exact ⟨slot, h.respond⟩
  | @purged cutoff limit =>
      obtain ⟨hlive, hgroup, -⟩ := Redis.purgeBatch_live (r := q.redis) cutoff limit
      exact ⟨slot, hstay _ hlive hgroup⟩

omit [QueueRuntime] in
/-- Nothing was handed out at the start. -/
theorem Start.slotted (h : q.Start) : q.Slotted maxAttempts fun _ => none where
  valid := by
    rw [h.live]
    exact EntryStream.valid_empty
  handed id n hn := by
    rw [h.group] at hn
    cases hn
  fresh _ _ := rfl
  entry c id fields he := by
    rw [h.delivery c] at he
    cases he
  known c id s hs := by cases hs
  below c id s fields hs := by cases hs
  apart c e id s hs := by cases hs
  attempt c d s fields _ hs := by cases hs
  once := by
    rw [h.started]
    exact List.nodup_nil
  begun x hx := by
    rw [h.started] at hx
    cases hx

/-- Every entry is started within the limit, when no count that a delivery was
handed out with is over the limit at the start, and no heartbeat sets a count
back. -/
theorem bounded_of_withinLimit {as : List QueueAction} (h₀ : q.Start)
    (h : Run (Guarded (WithinLimit maxAttempts) (Fires (step maxAttempts))) q as q') :
    q'.Bounded maxAttempts := by
  have hslotted : ∃ slot, q'.Slotted maxAttempts slot := by
    refine h.preserves (fun q => ∃ slot, q.Slotted maxAttempts slot) ⟨_, h₀.slotted⟩ ?_
    rintro t a u ⟨slot, ht⟩ ⟨hg, hs⟩
    exact ht.step hg (step_cases maxAttempts hs)
  obtain ⟨slot, hslot⟩ := hslotted
  exact hslot.bounded

end

/-- One consumer crashes in its run, and another takes the entry over. -/
def crashedAttempts : List QueueAction :=
  [.enqueue (sampleJob 'a') 1, .read 0, .parse 0, .abandon 0, .reclaim 1 (toLex (1, 0)), .count 1,
   .parse 1]

omit [QueueRuntime] in
/-- With a limit of one attempt the workflow is started twice. -/
theorem crashedAttempts_unbounded :
    letI := flatRuntime
    ∃ q, Run (Fires (step 1)) .empty crashedAttempts q ∧ ¬q.Bounded 1 := by
  rw [flatRuntime_eq]
  let _ := quickRuntime
  have hdata : (exec (step 1) .empty crashedAttempts).any (fun q =>
      q.redis.live.entries.any (fun e => e.1 = toLex (1, 0)) &&
        (q.started.filter (·.2.streamId = toLex (1, 0))).length = 2) = true := by
    decide +kernel
  obtain ⟨q, hq, hdata⟩ := (Option.any_eq_true _ _).mp hdata
  rw [Bool.and_eq_true] at hdata
  obtain ⟨⟨id, fields⟩, hlive, hid⟩ := List.any_eq_true.mp hdata.1
  obtain rfl := of_decide_eq_true hid
  refine ⟨q, run_of_exec hq, fun hbounded => ?_⟩
  have hle := hbounded (toLex (1, 0)) fields hlive
  rw [of_decide_eq_true hdata.2] at hle
  exact absurd hle (by decide)

/-- A handled failure and a second attempt. -/
def handledAttempts : List QueueAction :=
  [.enqueue (sampleJob 'a') 1, .read 0, .parse 0, .heartbeat 0, .finish 0 (.raised "timeout"),
   .recordFailure 0 2, .reclaim 1 (toLex (1, 0)), .count 1, .parse 1]

omit [QueueRuntime] in
/-- Two attempts are within a limit of two. -/
theorem handledAttempts_bounded :
    letI := flatRuntime
    ∃ q, Run (Guarded (WithinLimit 2) (Fires (step 2))) .empty handledAttempts q ∧ q.Bounded 2 := by
  rw [flatRuntime_eq]
  let _ := quickRuntime
  have hsome : (exec (fun q a => if WithinLimit 2 q a then step 2 q a else none) .empty
      handledAttempts).isSome = true := by
    decide +kernel
  obtain ⟨q, -, hguarded⟩ := guarded_of_exec hsome
  exact ⟨q, hguarded, bounded_of_withinLimit empty_start hguarded⟩

end Queue

end FreightAP
