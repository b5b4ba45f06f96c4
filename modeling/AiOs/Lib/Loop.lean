import AiOs.Lib.Fallible

/-! Loops that go on until a round has an answer. A loop is run for a number of rounds: an
invariant of the rounds holds wherever it stops, and a measure that every round lowers says
how many of them are enough. -/
namespace Fallible
variable {σ ε α : Type}

def rounds (round : Fallible σ ε (Option α)) : Nat → Fallible σ ε (Option α)
  | 0 => pure none
  | n + 1 => do
    match ← round with
    | some a => pure (some a)
    | none => rounds round n

/-- Where a round leads: to the next one, or to the outcome of the loop. -/
def Comes (next : σ → Prop) (P : Except ε α × σ → Prop) : Except ε (Option α) × σ → Prop
  | (.ok none, s) => next s
  | (.ok (some a), s) => P (.ok a, s)
  | (.error e, s) => P (.error e, s)

def Answers (out : Except ε (Option α) × σ) : Prop := out.1 ≠ .ok none

variable {round : Fallible σ ε (Option α)} {I : σ → Prop}

theorem rounds_rule {P : Except ε α × σ → Prop}
    (step : ∀ s, I s → Comes I P (exec round s)) (n : Nat) {s : σ} (start : I s) :
    Comes I P (exec (rounds round n) s) := by
  induction n generalizing s with
  | zero => exact start
  | succ n ih =>
    have leads := step s start
    unfold rounds
    rcases ran : exec round s with ⟨e | (none | a), t⟩
    · rw [ran] at leads
      rw [exec_bind_error ran]
      exact leads
    · rw [ran] at leads
      rw [exec_bind_ok ran]
      exact ih leads
    · rw [ran] at leads
      rw [exec_bind_ok ran]
      exact leads

theorem rounds_enough {measure : σ → Nat}
    (step : ∀ s t, I s → exec round s = (.ok none, t) → I t ∧ measure t < measure s)
    {n : Nat} {s : σ} (start : I s) (enough : measure s < n) :
    Answers (exec (rounds round n) s) := by
  induction n generalizing s with
  | zero => exact absurd enough (Nat.not_lt_zero _)
  | succ n ih =>
    unfold rounds
    rcases ran : exec round s with ⟨e | (none | a), t⟩
    · rw [exec_bind_error ran]
      exact nofun
    · obtain ⟨next, less⟩ := step s t start ran
      rw [exec_bind_ok ran]
      exact ih next (by omega)
    · rw [exec_bind_ok ran]
      exact nofun

end Fallible
