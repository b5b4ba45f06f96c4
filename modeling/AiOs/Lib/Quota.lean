import AiOs.Lib.Checks
import Mathlib.Algebra.Ring.Nat

/-! Entries within a quota: each has to be admitted, and their sizes add up to at most a limit.
A loop adds the size of one entry after the other to a running total and stops at the first entry
that does not fit. -/
namespace Quota

open AiOs

variable {α ε : Type} (admits : α → Bool) (size : α → Nat) (most : Nat)

def step (total : Nat) (entry : α) : Option Nat :=
  if admits entry then
    match checkedAdd total (size entry) with
    | none => none
    | some sum => if most < sum then none else some sum
  else none

variable {admits size most}

theorem step_eq_some (small : most < 2 ^ 64) {total next : Nat} {entry : α} :
    step admits size most total entry = some next ↔
      admits entry = true ∧ total + size entry ≤ most ∧ next = total + size entry := by
  unfold step
  by_cases admitted : admits entry = true
  · by_cases fits : total + size entry < 2 ^ 64
    · simp only [admitted, if_true, checkedAdd_fits fits, true_and]
      split
      · rename_i exceeded
        simp [Nat.not_le.mpr exceeded]
      · rename_i within
        simp [Nat.le_of_not_lt within, eq_comm]
    · have exceeded : ¬ total + size entry ≤ most := by omega
      have overflow : checkedAdd total (size entry) = none := if_neg fits
      simp [admitted, overflow, exceeded]
  · simp [admitted]

/-- The loop accepts exactly the lists that fit, whatever the order of their entries. -/
theorem foldlM_step (small : most < 2 ^ 64) {entries : List α} {total final : Nat}
    (start : total ≤ most) :
    entries.foldlM (step admits size most) total = some final ↔
      (∀ entry ∈ entries, admits entry = true) ∧ total + (entries.map size).sum ≤ most ∧
        final = total + (entries.map size).sum := by
  induction entries generalizing total with
  | nil =>
    have same : some total = some final ↔ final = total := by rw [Option.some.injEq, eq_comm]
    simpa [start] using same
  | cons entry rest ih =>
    simp only [List.foldlM_cons, Option.bind_eq_bind, Option.bind_eq_some_iff,
      step_eq_some small, List.forall_mem_cons, List.map_cons, List.sum_cons]
    constructor
    · rintro ⟨next, ⟨admitted, within, rfl⟩, later⟩
      obtain ⟨others, sum, last⟩ := (ih within).mp later
      exact ⟨⟨admitted, others⟩, by omega, by omega⟩
    · rintro ⟨⟨admitted, others⟩, sum, last⟩
      have within : total + size entry ≤ most := by omega
      exact ⟨_, ⟨admitted, within, rfl⟩, (ih within).mpr ⟨others, by omega, by omega⟩⟩

/-- No addition that the loop comes to overflows. -/
theorem checkedAdd_reached (small : most < 2 ^ 64) {width : Nat} (room : most + width < 2 ^ 64)
    {before : List α} {total : Nat} (reached : before.foldlM (step admits size most) 0 = some total)
    {entry : α} (narrow : size entry ≤ width) :
    checkedAdd total (size entry) = some (total + size entry) := by
  obtain ⟨_, within, rfl⟩ := (foldlM_step small (Nat.zero_le _)).mp reached
  exact checkedAdd_fits (by omega)

theorem foldlM_orError (f : Nat → α → Option Nat) (error : ε) (entries : List α) (total : Nat) :
    entries.foldlM (fun total entry => orError (f total entry) error) total =
      orError (entries.foldlM f total) error := by
  induction entries generalizing total with
  | nil => rfl
  | cons entry rest ih =>
    rw [List.foldlM_cons, List.foldlM_cons]
    cases next : f total entry with
    | none => rfl
    | some sum => exact ih sum

end Quota
