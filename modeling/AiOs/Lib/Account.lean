import Mathlib.Algebra.Ring.Nat
import Mathlib.Tactic.Common

/-! Entries of a key in a family of append-only logs. An account says that all entries of a
key lie in one log and what they are; a batch appended to one log moves an account only by
its own entries. -/

namespace Account

class Keyed (ε : Type) (κ : outParam Type) where
  key : ε → Option κ

variable {ι ε κ : Type} [DecidableEq κ] [Keyed ε κ]

def entries (k : κ) (log : List ε) : List ε := log.filter (fun e => decide (Keyed.key e = some k))

@[simp] theorem entries_nil (k : κ) : entries k ([] : List ε) = [] := rfl

@[simp] theorem entries_append (k : κ) (xs ys : List ε) :
    entries k (xs ++ ys) = entries k xs ++ entries k ys :=
  List.filter_append _ _

@[simp] theorem entries_cons (k : κ) (e : ε) (rest : List ε) :
    entries k (e :: rest) =
      if Keyed.key e = some k then e :: entries k rest else entries k rest := by
  simp [entries, List.filter_cons]

theorem entries_eq_nil {k : κ} {log : List ε} (foreign : ∀ e ∈ log, Keyed.key e ≠ some k) :
    entries k log = [] :=
  List.filter_eq_nil_iff.mpr (fun e he => by simpa using foreign e he)

structure Grown (before after : ι → List ε) (owner : ι) (batch : List ε) : Prop where
  own : after owner = before owner ++ batch
  others : ∀ i, i ≠ owner → after i = before i

/-- All entries of `k` lie in the log of `home`, and they are `es`. -/
structure Settled (logs : ι → List ε) (k : κ) (home : ι) (es : List ε) : Prop where
  here : entries k (logs home) = es
  elsewhere : ∀ i, i ≠ home → entries k (logs i) = []

theorem Settled.fresh {logs : ι → List ε} {k : κ} (none : ∀ i, entries k (logs i) = [])
    (home : ι) : Settled logs k home [] :=
  ⟨none home, fun i _ => none i⟩

theorem Settled.move {before after : ι → List ε} {home : ι} {batch : List ε}
    (grown : Grown before after home batch) {k : κ} {es : List ε}
    (settled : Settled before k home es) :
    Settled after k home (es ++ entries k batch) := by
  constructor
  · rw [grown.own, entries_append, settled.here]
  · intro i distinct
    rw [grown.others i distinct]
    exact settled.elsewhere i distinct

theorem Settled.keep {before after : ι → List ε} {owner : ι} {batch : List ε}
    (grown : Grown before after owner batch) {k : κ} {home : ι} {es : List ε}
    (settled : Settled before k home es) (foreign : entries k batch = []) :
    Settled after k home es := by
  have same : ∀ i, entries k (after i) = entries k (before i) := by
    intro i
    by_cases isOwner : i = owner
    · rw [isOwner, grown.own, entries_append, foreign, List.append_nil]
    · rw [grown.others i isOwner]
  exact ⟨(same home).trans settled.here, fun i h => (same i).trans (settled.elsewhere i h)⟩

/-- A nonempty account has one home. -/
theorem Settled.home_unique {logs : ι → List ε} {k : κ} {a b : ι} {es fs : List ε}
    (first : Settled logs k a es) (second : Settled logs k b fs) (nonempty : es ≠ []) :
    a = b ∧ es = fs := by
  by_cases same : a = b
  · subst same
    exact ⟨rfl, first.here.symm.trans second.here⟩
  · exact absurd (first.here.symm.trans (second.elsewhere a same)) nonempty

end Account
