import Mathlib.Logic.Relation
import Mathlib.Data.List.Basic

/-!
# Labelled transition systems

Runs of a labelled step relation, with their labels, and the three rules that
runs are reasoned with: an invariant that every step keeps holds at the end
(`Run.preserves`), a measure that every step lowers bounds the length
(`Run.length_le`), and a run of a system is a run of every system that has its
steps (`Run.mono`).

A step *function* gives a step relation (`Fires`), and `exec` plays a list of
labels on it, so that a concrete run is found by evaluation.
-/

namespace Transition

variable {σ α : Type}

/-- Runs of a step relation.  The newest step is the last label. -/
inductive Run (step : σ → α → σ → Prop) (s : σ) : List α → σ → Prop where
  | nil : Run step s [] s
  | snoc {as : List α} {t u : σ} {a : α} : Run step s as t → step t a u → Run step s (as ++ [a]) u

/-- The steps of a step function. -/
def Fires (f : σ → α → Option σ) (s : σ) (a : α) (t : σ) : Prop := f s a = some t

/-- A step relation restricted to the steps that meet a condition on the state
before them. -/
def Guarded (guard : σ → α → Prop) (step : σ → α → σ → Prop) (s : σ) (a : α) (t : σ) : Prop :=
  guard s a ∧ step s a t

/-- Play a list of labels on a step function. -/
def exec (f : σ → α → Option σ) : σ → List α → Option σ
  | s, [] => some s
  | s, a :: as => (f s a).bind fun t => exec f t as

section

variable {step : σ → α → σ → Prop} {s t : σ} {as : List α}

/-- What holds at the start and is kept by every step holds at the end. -/
theorem Run.invariant (h : Run step s as t) (I : List α → σ → Prop) (h₀ : I [] s)
    (hstep : ∀ as t a u, I as t → step t a u → I (as ++ [a]) u) : I as t := by
  induction h with
  | nil => exact h₀
  | snoc _ hs ih => exact hstep _ _ _ _ ih hs

/-- The rule for an invariant of states alone. -/
theorem Run.preserves (h : Run step s as t) (I : σ → Prop) (h₀ : I s)
    (hstep : ∀ t a u, I t → step t a u → I u) : I t :=
  h.invariant (fun _ => I) h₀ fun _ => hstep

/-- A measure that every step from a good state lowers bounds the length. -/
theorem Run.length_le (h : Run step s as t) (I : σ → Prop) (measure : σ → Nat) (h₀ : I s)
    (hstep : ∀ t a u, I t → step t a u → I u ∧ measure u < measure t) :
    as.length + measure t ≤ measure s := by
  have key : I t ∧ as.length + measure t ≤ measure s := by
    induction h with
    | nil => exact ⟨h₀, by simp⟩
    | snoc _ hs ih =>
        obtain ⟨hI, hlt⟩ := hstep _ _ _ ih.1 hs
        refine ⟨hI, ?_⟩
        have := ih.2
        simp only [List.length_append, List.length_singleton]
        omega
  exact key.2

/-- Under such a measure there is no infinite run. -/
theorem no_infinite_run (step : σ → α → σ → Prop) (I : σ → Prop) (measure : σ → Nat) (h₀ : I s)
    (hstep : ∀ t a u, I t → step t a u → I u ∧ measure u < measure t) :
    ¬∃ f : Nat → σ, f 0 = s ∧ ∀ n, ∃ a, step (f n) a (f (n + 1)) := by
  rintro ⟨f, hf, hrun⟩
  have key : ∀ n, I (f n) ∧ n + measure (f n) ≤ measure s := by
    intro n
    induction n with
    | zero => exact ⟨hf ▸ h₀, by simp [hf]⟩
    | succ n ih =>
        obtain ⟨a, ha⟩ := hrun n
        obtain ⟨hI, hlt⟩ := hstep _ _ _ ih.1 ha
        exact ⟨hI, by have := ih.2; omega⟩
  have := (key (measure s + 1)).2
  omega

/-- A run of one step. -/
theorem Run.single {a : α} (h : step s a t) : Run step s [a] t := Run.nil.snoc h

/-- Runs compose. -/
theorem Run.append {u : σ} {bs : List α} (h : Run step s as t) (h' : Run step t bs u) :
    Run step s (as ++ bs) u := by
  induction h' with
  | nil => simpa using h
  | snoc _ hs ih =>
      rw [← List.append_assoc]
      exact ih.snoc hs

/-- A run of a system whose steps are steps of another. -/
theorem Run.mono {step' : σ → α → σ → Prop} (h : Run step s as t)
    (hstep : ∀ s a t, step s a t → step' s a t) : Run step' s as t := by
  induction h with
  | nil => exact .nil
  | snoc _ hs ih => exact ih.snoc (hstep _ _ _ hs)

end

theorem run_of_exec {f : σ → α → Option σ} {s t : σ} :
    ∀ {as : List α}, exec f s as = some t → Run (Fires f) s as t
  | [], h => by
      cases h
      exact .nil
  | a :: as, h => by
      obtain ⟨u, hu, hrest⟩ := Option.bind_eq_some_iff.mp h
      exact (Run.single hu).append (run_of_exec hrest)

/-! ## Step functions -/

section

variable {f : σ → α → Option σ} {s t u : σ} {as : List α} {a : α}

theorem exec_append {bs : List α} :
    exec f s (as ++ bs) = (exec f s as).bind fun t => exec f t bs := by
  induction as generalizing s with
  | nil => rfl
  | cons a as ih =>
      rw [List.cons_append, exec, exec, Option.bind_assoc]
      exact congrArg _ (funext fun t => ih)

theorem exec_of_run (h : Run (Fires f) s as t) : exec f s as = some t := by
  induction h with
  | nil => rfl
  | snoc _ hs ih => simp [exec_append, ih, exec, show f _ _ = some _ from hs]

/-- A run whose steps all meet the condition ends with one that does. -/
theorem guarded_snoc {guard : σ → α → Prop} (h : Run (Fires f) s as t) (hs : f t a = some u) :
    Run (Guarded guard (Fires f)) s (as ++ [a]) u ↔
      Run (Guarded guard (Fires f)) s as t ∧ guard t a := by
  constructor
  · intro hrun
    generalize hbs : as ++ [a] = bs at hrun
    cases hrun with
    | nil => simp at hbs
    | snoc hrun hg =>
        obtain ⟨rfl, hb⟩ := List.append_inj' hbs rfl
        cases hb
        have hrun' := exec_of_run (hrun.mono fun _ _ _ h => h.2)
        cases (exec_of_run h).symm.trans hrun'
        exact ⟨hrun, hg.1⟩
  · rintro ⟨hrun, hg⟩
    exact hrun.snoc ⟨hg, hs⟩

/-- Play a list of labels as long as they meet a condition. -/
theorem guarded_of_exec {guard : σ → α → Prop} [∀ s a, Decidable (guard s a)]
    (h : (exec (fun s a => if guard s a then f s a else none) s as).isSome = true) :
    ∃ t, Run (Fires f) s as t ∧ Run (Guarded guard (Fires f)) s as t := by
  obtain ⟨t, ht⟩ := Option.isSome_iff_exists.mp h
  have hguarded : Run (Guarded guard (Fires f)) s as t := by
    refine (run_of_exec ht).mono fun s a t hs => ?_
    simp only [Fires, Option.ite_none_right_eq_some] at hs
    exact hs
  exact ⟨t, hguarded.mono fun _ _ _ hs => hs.2, hguarded⟩

/-- A property of every state that a list of labels goes through. -/
def Always (f : σ → α → Option σ) (P : σ → Prop) (s : σ) (as : List α) : Prop :=
  ∀ bs, bs <+: as → ∀ u, exec f s bs = some u → P u

theorem always_snoc {P : σ → Prop} (h : Run (Fires f) s as t) (hs : f t a = some u) :
    Always f P s (as ++ [a]) ↔ Always f P s as ∧ P u := by
  have hlast : exec f s (as ++ [a]) = some u := exec_of_run (h.snoc hs)
  constructor
  · intro hall
    refine ⟨fun bs hbs v hv => hall bs (hbs.trans (List.prefix_append ..)) v hv, ?_⟩
    exact hall _ (List.prefix_refl _) u hlast
  · rintro ⟨hall, hu⟩ bs hbs v hv
    rcases List.prefix_concat_iff.mp hbs with rfl | hbs
    · cases hlast.symm.trans hv
      exact hu
    · exact hall bs hbs v hv

/-- What follows from an invariant that the guarded steps keep holds all along a
guarded run. -/
theorem always_of_guarded {guard : σ → α → Prop} {P : σ → Prop} (I : σ → Prop)
    (h : Run (Guarded guard (Fires f)) s as t) (h₀ : I s) (hP : ∀ t, I t → P t)
    (hstep : ∀ t a u, I t → guard t a → f t a = some u → I u) : Always f P s as := by
  have key : I t ∧ Always f P s as := by
    induction h with
    | nil =>
        refine ⟨h₀, fun bs hbs v hv => ?_⟩
        rw [List.prefix_nil.mp hbs] at hv
        cases hv
        exact hP _ h₀
    | @snoc as t u a hrun hs ih =>
        have hI := hstep t a u ih.1 hs.1 hs.2
        exact ⟨hI, (always_snoc (hrun.mono fun _ _ _ h => h.2) hs.2).mpr ⟨ih.2, hP _ hI⟩⟩
  exact key.2

/-- When a condition on the steps keeps what a property is proved from, and a step
after which the property holds meets it, the property holds all along a run
exactly if every step of the run meets the condition. -/
theorem always_iff_guarded_by {guard : σ → α → Prop} {P : σ → Prop} (I K : σ → Prop)
    (h : Run (Fires f) s as t) (h₀ : I s) (hK : K s) (hP : ∀ t, I t → K t → P t)
    (hstep : ∀ t a u, I t → f t a = some u →
      I u ∧ (K t → (P u → guard t a) ∧ (guard t a → K u))) :
    Always f P s as ↔ Run (Guarded guard (Fires f)) s as t := by
  have key : I t ∧ (Always f P s as → Run (Guarded guard (Fires f)) s as t) ∧
      (Run (Guarded guard (Fires f)) s as t → K t ∧ Always f P s as) := by
    induction h with
    | nil =>
        refine ⟨h₀, fun _ => .nil, fun _ => ⟨hK, fun bs hbs v hv => ?_⟩⟩
        rw [List.prefix_nil.mp hbs] at hv
        cases hv
        exact hP _ h₀ hK
    | @snoc as t u a hrun hs ih =>
        obtain ⟨hI, hguarded, hall⟩ := ih
        obtain ⟨hI', hnext⟩ := hstep t a u hI hs
        rw [always_snoc hrun hs, guarded_snoc hrun hs]
        refine ⟨hI', ?_, ?_⟩
        · rintro ⟨halways, hu⟩
          have hg := hguarded halways
          exact ⟨hg, (hnext (hall hg).1).1 hu⟩
        · rintro ⟨hg, ha⟩
          obtain ⟨hKt, halways⟩ := hall hg
          have hKu := (hnext hKt).2 ha
          exact ⟨hKu, halways, hP u hI' hKu⟩
  exact ⟨key.2.1, fun hg => (key.2.2 hg).2⟩

/-- When a step keeps a property exactly if it meets a condition, the property
holds all along a run exactly if every step of the run meets the condition. -/
theorem always_iff_guarded {guard : σ → α → Prop} {P : σ → Prop} (I : σ → Prop)
    (h : Run (Fires f) s as t) (h₀ : I s) (hP : P s)
    (hstep : ∀ t a u, I t → f t a = some u → I u ∧ (P t → (P u ↔ guard t a))) :
    Always f P s as ↔ Run (Guarded guard (Fires f)) s as t :=
  always_iff_guarded_by I P h h₀ hP (fun _ _ hPt => hPt) fun t a u hI hs => by
    obtain ⟨hI', hguard⟩ := hstep t a u hI hs
    exact ⟨hI', fun hPt => ⟨(hguard hPt).mp, (hguard hPt).mpr⟩⟩

end

end Transition
