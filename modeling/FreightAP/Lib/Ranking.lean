import Mathlib.Data.List.Sort

/-!
# Rows by rank

Rows in the order of a key, highest first (`ranked`), and the first `n` of them
(`Top`).  Which of two rows of one key comes first is left open, as a database
leaves it.

Lists that were cut to their first `n` rows can be merged and cut again:
nothing is missing (`Top.merge`).
-/

namespace Ranking

variable {ρ κ : Type} [LinearOrder κ] {key : ρ → κ} {rows : List ρ} {n : Nat}

/-- The rows, highest first, in their order where the key is the same. -/
def ranked (key : ρ → κ) (rows : List ρ) : List ρ :=
  rows.insertionSort fun a b => key b ≤ key a

/-- A list whose rows are by rank. -/
def Ranked (key : ρ → κ) (rows : List ρ) : Prop := rows.Pairwise fun a b => key b ≤ key a

theorem perm_ranked : (ranked key rows).Perm rows := List.perm_insertionSort _ _

@[simp] theorem mem_ranked {row : ρ} : row ∈ ranked key rows ↔ row ∈ rows := perm_ranked.mem_iff

@[simp] theorem length_ranked : (ranked key rows).length = rows.length := perm_ranked.length_eq

theorem ranked_ranked : Ranked key (ranked key rows) := by
  have : Std.Total fun a b : ρ => key b ≤ key a := ⟨fun a b => le_total (key b) (key a)⟩
  have : IsTrans ρ fun a b => key b ≤ key a := ⟨fun _ _ _ hab hbc => le_trans hbc hab⟩
  exact List.pairwise_insertionSort _ rows

/-- The first row with a property is the highest one with it. -/
theorem Ranked.find? (h : Ranked key rows) {p : ρ → Bool} {row : ρ}
    (hfind : rows.find? p = some row) : ∀ row' ∈ rows, p row' = true → key row' ≤ key row := by
  intro row' hmem hp
  obtain ⟨-, as, bs, rfl, has⟩ := List.find?_eq_some_iff_append.mp hfind
  rcases List.mem_append.mp hmem with hmem | hmem
  · have := has row' hmem
    rw [hp] at this
    cases this
  · rcases List.mem_cons.mp hmem with rfl | hmem
    · exact le_rfl
    · exact (List.pairwise_cons.mp (List.pairwise_append.mp h).2.1).1 row' hmem

/-! ## The first rows -/

/-- The `n` highest rows of `all`. -/
structure Top (n : Nat) (key : ρ → κ) (all shown : List ρ) : Prop where
  ranked : Ranked key shown
  length : shown.length = min n all.length
  rest : ∃ left, (shown ++ left).Perm all ∧ ∀ a ∈ shown, ∀ b ∈ left, key b ≤ key a

/-- A query in the order of the key with a limit. -/
theorem top_take : Top n key rows ((ranked key rows).take n) := by
  have hsplit : Ranked key ((ranked key rows).take n ++ (ranked key rows).drop n) := by
    rw [List.take_append_drop]
    exact ranked_ranked
  obtain ⟨hranked, -, hlower⟩ := List.pairwise_append.mp hsplit
  refine ⟨hranked, ?_, (ranked key rows).drop n, ?_, hlower⟩
  · rw [List.length_take, length_ranked]
  · rw [List.take_append_drop]
    exact perm_ranked

/-- With `n` rows above `a` there, `a` is not among the first `n`. -/
theorem le_of_mem_take {all high : List ρ} {left : List ρ} (hperm : (high ++ left).Perm all)
    (hlength : high.length = n) {a b : ρ} (ha : a ∈ (ranked key all).take n)
    (hb : ∀ c ∈ high, key b ≤ key c) : key b ≤ key a := by
  by_contra hlt
  rw [not_le] at hlt
  -- All of `high` is above `a`, so it is in front of `a`.
  have hhigh : n ≤ all.countP fun c => decide (key a < key c) := by
    rw [← hperm.countP_eq, List.countP_append, ← hlength]
    refine Nat.le_trans (Nat.le_of_eq (Eq.symm ?_)) (Nat.le_add_right _ _)
    exact List.countP_eq_length.mpr fun c hc => decide_eq_true (lt_of_lt_of_le hlt (hb c hc))
  have hsplit : Ranked key ((ranked key all).take n ++ (ranked key all).drop n) := by
    rw [List.take_append_drop]
    exact ranked_ranked
  have hdrop : ((ranked key all).drop n).countP (fun c => decide (key a < key c)) = 0 :=
    List.countP_eq_zero.mpr fun c hc h =>
      absurd ((List.pairwise_append.mp hsplit).2.2 a ha c hc) (not_le.mpr (of_decide_eq_true h))
  have htake : ((ranked key all).take n).countP (fun c => decide (key a < key c)) <
      ((ranked key all).take n).length := by
    refine lt_of_le_of_ne List.countP_le_length fun he => ?_
    exact absurd (of_decide_eq_true (List.countP_eq_length.mp he a ha)) (lt_irrefl _)
  have hcount : ((ranked key all).take n).countP (fun c => decide (key a < key c)) =
      all.countP fun c => decide (key a < key c) := by
    have hall : (ranked key all).Perm all := perm_ranked
    rw [← hall.countP_eq, ← List.take_append_drop n (ranked key all), List.countP_append,
      List.take_append_drop, hdrop, Nat.add_zero]
  have hle : ((ranked key all).take n).length ≤ n := List.length_take_le _ _
  omega

/-- The same rows in another form. -/
theorem Top.map {σ : Type} {f : σ → ρ} {all shown : List σ}
    (h : Top n (fun a => key (f a)) all shown) : Top n key (all.map f) (shown.map f) := by
  obtain ⟨left, hperm, hlower⟩ := h.rest
  refine ⟨List.pairwise_map.mpr h.ranked, ?_, left.map f, ?_, ?_⟩
  · rw [List.length_map, List.length_map, h.length]
  · rw [← List.map_append]
    exact hperm.map f
  · intro a ha b hb
    obtain ⟨a', ha', rfl⟩ := List.mem_map.mp ha
    obtain ⟨b', hb', rfl⟩ := List.mem_map.mp hb
    exact hlower a' ha' b' hb'

/-- What was cut off is below `n` rows. -/
theorem Top.below {all shown left high low : List ρ} (h : Top n key all shown)
    (hperm : (shown ++ left).Perm all) (hleft : ∀ a ∈ shown, ∀ b ∈ left, key b ≤ key a)
    (hhigh : (shown ++ low).Perm high) {a b : ρ} (ha : a ∈ (Ranking.ranked key high).take n)
    (hb : b ∈ left) : key b ≤ key a := by
  have hpos : 0 < left.length := List.length_pos_of_mem hb
  have hlength := h.length
  have hsum := hperm.length_eq
  rw [List.length_append] at hsum
  have hn : shown.length = n := by omega
  exact le_of_mem_take hhigh hn ha fun c hc => hleft c hc b hb

/-- Merging two lists that were cut to their first `n` rows. -/
theorem Top.merge {as bs as' bs' : List ρ} (ha : Top n key as as') (hb : Top n key bs bs') :
    Top n key (as ++ bs) ((Ranking.ranked key (as' ++ bs')).take n) := by
  obtain ⟨la, hpa, hla⟩ := ha.rest
  obtain ⟨lb, hpb, hlb⟩ := hb.rest
  have htop : Top n key (as' ++ bs') ((Ranking.ranked key (as' ++ bs')).take n) := top_take
  obtain ⟨dropped, hpd, hd⟩ := htop.rest
  refine ⟨htop.ranked, ?_, dropped ++ (la ++ lb), ?_, fun a hm b hmb => ?_⟩
  · rw [htop.length, List.length_append, List.length_append, ha.length, hb.length]
    omega
  · rw [← List.append_assoc]
    refine (hpd.append_right _).trans ?_
    have hswap : (as' ++ (bs' ++ (la ++ lb))).Perm (as' ++ (la ++ (bs' ++ lb))) :=
      (List.perm_append_comm_assoc bs' la lb).append_left as'
    rw [List.append_assoc]
    refine hswap.trans ?_
    rw [← List.append_assoc]
    exact hpa.append hpb
  · rcases List.mem_append.mp hmb with hmb | hmb
    · exact hd a hm b hmb
    · rcases List.mem_append.mp hmb with hmb | hmb
      · exact ha.below hpa hla (List.Perm.refl _) hm hmb
      · exact hb.below hpb hlb List.perm_append_comm hm hmb

end Ranking
