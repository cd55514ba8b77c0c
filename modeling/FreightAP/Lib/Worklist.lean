import Mathlib.Data.List.Nodup
import Mathlib.Logic.Function.Iterate

/-!
# Work lists

A list of items that is worked off page by page: a round looks at the first
items in order, takes some of them off the list and keeps others, and an item
can halt it.  Rounds settle, and what is left then is `settled`: each kept item
holds a place of the page for good, and nothing after an item that halts is
ever seen.
-/

namespace Worklist

/-- What a round does with an item. -/
inductive Outcome where
  | taken
  | kept
  | halts
deriving DecidableEq

section

variable {α : Type} (outcome : α → Outcome)

/-- What a round leaves of its page. -/
def sweep : List α → List α
  | [] => []
  | x :: xs =>
      match outcome x with
      | .taken => sweep xs
      | .kept => x :: sweep xs
      | .halts => x :: xs

/-- A round with a page of `n` items. -/
def round (n : Nat) (items : List α) : List α := sweep outcome (items.take n) ++ items.drop n

/-- What rounds with a page of `n` items leave in the end. -/
def settled : Nat → List α → List α
  | 0, items => items
  | _ + 1, [] => []
  | n + 1, x :: xs =>
      match outcome x with
      | .taken => settled (n + 1) xs
      | .kept => x :: settled n xs
      | .halts => x :: xs

/-! ## One round -/

section

variable {outcome} {n : Nat} {x : α} {xs items : List α}

@[simp] theorem round_zero : round outcome 0 items = items := by simp [round, sweep]

@[simp] theorem round_nil : round outcome n [] = [] := by simp [round, sweep]

theorem round_taken (h : outcome x = .taken) :
    round outcome (n + 1) (x :: xs) = round outcome n xs := by simp [round, sweep, h]

theorem round_kept (h : outcome x = .kept) :
    round outcome (n + 1) (x :: xs) = x :: round outcome n xs := by simp [round, sweep, h]

theorem round_halts (h : outcome x = .halts) : round outcome (n + 1) (x :: xs) = x :: xs := by
  simp [round, sweep, h]

variable (outcome) in
/-- A sweep only takes items off. -/
theorem sweep_sublist (items : List α) : (sweep outcome items).Sublist items := by
  induction items with
  | nil => exact .refl _
  | cons x xs ih =>
      cases h : outcome x with
      | taken => simpa [sweep, h] using ih.cons x
      | kept => simpa [sweep, h] using ih
      | halts => simp [sweep, h]

variable (outcome) in
/-- A round only takes items off. -/
theorem round_sublist (n : Nat) (items : List α) : (round outcome n items).Sublist items := by
  have happend := (sweep_sublist outcome (items.take n)).append_right (items.drop n)
  rwa [List.take_append_drop] at happend

/-- A page that a sweep leaves as it is starts with no item that is taken. -/
theorem outcome_of_sweep_eq (h : sweep outcome (x :: xs) = x :: xs) :
    (outcome x = .kept ∧ sweep outcome xs = xs) ∨ outcome x = .halts := by
  cases hx : outcome x with
  | taken =>
      have hle := (sweep_sublist outcome xs).length_le
      have hsweep : sweep outcome xs = x :: xs := by simpa [sweep, hx] using h
      rw [hsweep, List.length_cons] at hle
      omega
  | kept => exact .inl ⟨rfl, by simpa [sweep, hx] using h⟩
  | halts => exact .inr rfl

/-- A round that changes nothing takes nothing off its page. -/
theorem sweep_of_round_eq (h : round outcome n items = items) :
    sweep outcome (items.take n) = items.take n := by
  have happend : sweep outcome (items.take n) ++ items.drop n =
      items.take n ++ items.drop n := by
    rw [List.take_append_drop]
    exact h
  exact List.append_cancel_right happend

/-! ## Many rounds -/

/-- A round leaves the same in the end. -/
theorem settled_round {k : Nat} (hk : k ≤ n) (items : List α) :
    settled outcome n (round outcome k items) = settled outcome n items := by
  induction items generalizing k n with
  | nil => simp
  | cons x xs ih =>
      cases k with
      | zero => simp
      | succ k =>
          obtain ⟨n, rfl⟩ : ∃ m, n = m + 1 := ⟨n - 1, by omega⟩
          cases h : outcome x with
          | taken => simp [round_taken h, settled, h, ih (by omega : k ≤ n + 1)]
          | kept => simp [round_kept h, settled, h, ih (by omega : k ≤ n)]
          | halts => rw [round_halts h]

/-- What a round does not change is left in the end. -/
theorem settled_of_round_eq (h : round outcome n items = items) :
    settled outcome n items = items := by
  induction items generalizing n with
  | nil => cases n <;> rfl
  | cons x xs ih =>
      cases n with
      | zero => rfl
      | succ n =>
          cases hx : outcome x with
          | taken =>
              have hle := (round_sublist outcome n xs).length_le
              rw [← round_taken hx, h, List.length_cons] at hle
              omega
          | kept =>
              rw [round_kept hx, List.cons.injEq] at h
              simp [settled, hx, ih h.2]
          | halts => simp [settled, hx]

variable (outcome) in
/-- Rounds come to an end. -/
theorem exists_round_eq (n : Nat) (items : List α) :
    ∃ k, round outcome n ((round outcome n)^[k] items) = (round outcome n)^[k] items := by
  induction hlength : items.length using Nat.strongRecOn generalizing items with
  | ind length ih =>
      by_cases h : round outcome n items = items
      · exact ⟨0, h⟩
      · have hsub := round_sublist outcome n items
        have hlt : (round outcome n items).length < length := by
          have hne : (round outcome n items).length ≠ items.length := fun he =>
            h (hsub.eq_of_length he)
          have hle := hsub.length_le
          omega
        obtain ⟨k, hk⟩ := ih _ hlt _ rfl
        exact ⟨k + 1, hk⟩

variable (outcome) in
/-- An item of the list in the end was there before. -/
theorem settled_sublist (n : Nat) (items : List α) : (settled outcome n items).Sublist items := by
  induction items generalizing n with
  | nil => cases n <;> exact .refl _
  | cons x xs ih =>
      cases n with
      | zero => exact .refl _
      | succ n =>
          cases h : outcome x with
          | taken => simpa [settled, h] using (ih (n + 1)).cons x
          | kept => simpa [settled, h] using ih n
          | halts => simp [settled, h]

/-- An item that is taken when a round comes to it is gone in the end, unless
an item before it halts or those before it that are kept fill the page. -/
theorem not_mem_settled_iff {before after : List α} (hnodup : (before ++ x :: after).Nodup)
    (hx : outcome x = .taken) :
    x ∉ settled outcome n (before ++ x :: after) ↔
      (∀ y ∈ before, outcome y ≠ .halts) ∧ before.countP (outcome · = .kept) < n := by
  induction before generalizing n with
  | nil =>
      cases n with
      | zero => simp [settled]
      | succ n =>
          have hafter : x ∉ after := by simpa using (List.nodup_cons.mp hnodup).1
          have hgone : x ∉ settled outcome (n + 1) after := fun hmem =>
            hafter ((settled_sublist _ _ _).subset hmem)
          simp [settled, hx, hgone]
  | cons y before ih =>
      rw [List.cons_append, List.nodup_cons] at hnodup
      have hne : x ≠ y := by
        rintro rfl
        exact hnodup.1 (by simp)
      cases n with
      | zero => simp [settled]
      | succ n =>
          cases hy : outcome y with
          | taken => simp [settled, hy, ih hnodup.2]
          | kept => simp [settled, hy, hne, ih hnodup.2]
          | halts => simp [settled, hy]

end

end

end Worklist
