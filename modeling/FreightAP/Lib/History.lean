import Mathlib.Data.List.Chain

/-!
# Logs that link up

A log whose entries say what there was before them and what there is after
them.  It is *linked* when every entry begins where the one before it ended.
Appending one entry is the only step such a log takes, so each notion here
comes with its rule for the last entry (`linked_snoc`, `isChain_snoc`).
-/

namespace History

variable {ε α : Type}

/-- Every entry begins where the one before it ended, and the first one where
`start` says. -/
def Linked (before : ε → Option α) (after : ε → α) : Option α → List ε → Prop
  | _, [] => True
  | start, e :: es => before e = start ∧ Linked before after (some (after e)) es

/-- Where a log ends. -/
def last (after : ε → α) (start : Option α) (es : List ε) : Option α :=
  (es.getLast?.map after).or start

variable {before : ε → Option α} {after : ε → α} {start : Option α} {es : List ε} {e : ε}

@[simp] theorem last_nil : last after start [] = start := rfl

@[simp] theorem last_snoc : last after start (es ++ [e]) = some (after e) := by
  simp [last]

theorem last_cons : last after start (e :: es) = last after (some (after e)) es := by
  cases h : es.getLast? <;> simp [last, List.getLast?_cons, h]

theorem linked_snoc : Linked before after start (es ++ [e]) ↔
    Linked before after start es ∧ before e = last after start es := by
  induction es generalizing start with
  | nil => simp [Linked]
  | cons e' es ih =>
      rw [List.cons_append, Linked, Linked, ih, last_cons, and_assoc]

/-- A chain goes on with an entry that may follow its last one. -/
theorem isChain_snoc {R : ε → ε → Prop} :
    (es ++ [e]).IsChain R ↔ es.IsChain R ∧ ∀ l, es.getLast? = some l → R l e := by
  rw [List.isChain_append]
  simp

end History
