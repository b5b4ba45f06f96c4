import AiOs.Agent.Decision
import AiOs.Lib.Quota
import AiOs.Process.Handler

/-! Three crates check an argument vector, each with its own loop and its own constants. All
three accept the same vectors, so arguments that were accepted from the model are not refused
later for their shape. -/
namespace AiOs.Agent

open Quota

/-- What all three loops decide. -/
def FitArguments (arguments : List String) : Prop :=
  arguments.length ≤ 64 ∧
    (∀ argument ∈ arguments, argument.utf8ByteSize ≤ 4096 ∧ '\x00' ∉ argument.toList) ∧
    (arguments.map String.utf8ByteSize).sum ≤ 65536

def isArgument (argument : String) : Bool :=
  decide (argument.utf8ByteSize ≤ 4096) && decide ('\x00' ∉ argument.toList)

/-- The round that the three loops share. -/
def argumentStep : Nat → String → Option Nat := step isArgument String.utf8ByteSize 65536

theorem argumentStep_refused {argument : String}
    (bad : 4096 < argument.utf8ByteSize ∨ '\x00' ∈ argument.toList) (total : Nat) :
    argumentStep total argument = none := by
  have refused : isArgument argument = false := by
    rcases bad with long | nul
    · simp [isArgument, Nat.not_le.mpr long]
    · simp [isArgument, nul]
  simp [argumentStep, step, refused]

theorem argumentStep_admitted {argument : String}
    (good : ¬ (4096 < argument.utf8ByteSize ∨ '\x00' ∈ argument.toList)) (total : Nat) :
    argumentStep total argument = (checkedAdd total argument.utf8ByteSize).bind
      (fun sum => if 65536 < sum then none else some sum) := by
  have admitted : isArgument argument = true := by
    rw [not_or, Nat.not_lt] at good
    simp [isArgument, good.1, good.2]
  rw [argumentStep, step, if_pos admitted]
  cases checkedAdd total argument.utf8ByteSize <;> rfl

theorem addArgument_eq (total : Nat) (argument : String) :
    addArgument total argument = argumentStep total argument := by
  unfold addArgument
  split
  · rename_i bad
    exact (argumentStep_refused bad total).symm
  · rename_i good
    rw [argumentStep_admitted good]
    cases checkedAdd total argument.utf8ByteSize <;> rfl

theorem countArgument_eq (total : Nat) (argument : String) :
    countArgument total argument = orError (argumentStep total argument) .invalidArguments := by
  unfold countArgument
  split
  · rename_i bad
    rw [argumentStep_refused bad]
    rfl
  · rename_i good
    rw [argumentStep_admitted good]
    cases checkedAdd total argument.utf8ByteSize with
    | none => rfl
    | some sum =>
      by_cases exceeded : 65536 < sum
      · simp [exceeded, maxTotalArgumentBytes, orError]
      · simp [exceeded, maxTotalArgumentBytes, orError]

theorem process_countArgument_eq (total : Nat) (argument : String) :
    ProcessAdapter.countArgument total argument =
      orError (argumentStep total argument) .invalidArguments := by
  unfold ProcessAdapter.countArgument
  split
  · rename_i bad
    rw [argumentStep_refused bad]
    rfl
  · rename_i good
    rw [argumentStep_admitted good]
    cases checkedAdd total argument.utf8ByteSize with
    | none => rfl
    | some sum =>
      by_cases exceeded : 65536 < sum
      · simp [exceeded, ProcessAdapter.maxTotalArgumentBytes, orError]
      · simp [exceeded, ProcessAdapter.maxTotalArgumentBytes, orError]

theorem fits_iff {arguments : List String} (few : arguments.length ≤ 64) :
    (arguments.foldlM argumentStep 0).isSome = true ↔ FitArguments arguments := by
  have each : (∀ argument ∈ arguments, isArgument argument = true) ↔
      ∀ argument ∈ arguments, argument.utf8ByteSize ≤ 4096 ∧ '\x00' ∉ argument.toList := by
    simp [isArgument]
  simp only [FitArguments, few, true_and, ← each, Option.isSome_iff_exists, argumentStep,
    foldlM_step (by decide : 65536 < 2 ^ 64) (Nat.zero_le 65536), Nat.zero_add]
  constructor
  · rintro ⟨_, all, sum, _⟩
    exact ⟨all, sum⟩
  · rintro ⟨all, sum⟩
    exact ⟨_, all, sum, rfl⟩

theorem orError_foldlM_isOk {ε : Type} {error : ε} {o : Option Nat} :
    (orError o error).map (fun _ => ()) = .ok () ↔ o.isSome = true := by
  cases o <;> simp [orError, Except.map]

theorem foldlM_addArgument (arguments : List String) (total : Nat) :
    arguments.foldlM addArgument total = arguments.foldlM argumentStep total := by
  have same : addArgument = argumentStep := funext fun total => funext (addArgument_eq total)
  rw [same]

theorem foldlM_countArgument (arguments : List String) (total : Nat) :
    arguments.foldlM countArgument total =
      orError (arguments.foldlM argumentStep total) .invalidArguments := by
  have same : countArgument = fun total argument =>
      orError (argumentStep total argument) .invalidArguments :=
    funext fun total => funext (countArgument_eq total)
  rw [same, foldlM_orError]

theorem process_foldlM_countArgument (arguments : List String) (total : Nat) :
    arguments.foldlM ProcessAdapter.countArgument total =
      orError (arguments.foldlM argumentStep total) .invalidArguments := by
  have same : ProcessAdapter.countArgument = fun total argument =>
      orError (argumentStep total argument) .invalidArguments :=
    funext fun total => funext (process_countArgument_eq total)
  rw [same, foldlM_orError]

theorem areValidArguments_iff (arguments : List String) :
    areValidArguments arguments = true ↔ FitArguments arguments := by
  unfold areValidArguments
  split
  · rename_i many
    have refused : ¬ FitArguments arguments := fun fit => Nat.not_lt.mpr fit.1 many
    simp [refused]
  · rename_i few
    rw [foldlM_addArgument]
    exact fits_iff (Nat.le_of_not_lt few)

theorem validateArguments_iff (arguments : List String) :
    validateArguments arguments = .ok () ↔ FitArguments arguments := by
  unfold validateArguments
  split
  · rename_i many
    have refused : ¬ FitArguments arguments := fun fit => Nat.not_lt.mpr fit.1 many
    simp [refused]
  · rename_i few
    rw [foldlM_countArgument, orError_foldlM_isOk]
    exact fits_iff (Nat.le_of_not_lt few)

theorem process_validateArguments_iff (fixed dynamic : List String) :
    ProcessAdapter.validateArguments fixed dynamic = .ok () ↔ FitArguments (fixed ++ dynamic) := by
  have refused : 64 < fixed.length + dynamic.length → ¬ FitArguments (fixed ++ dynamic) := by
    intro many fit
    have few := fit.1
    rw [List.length_append] at few
    omega
  unfold ProcessAdapter.validateArguments
  by_cases counted : fixed.length + dynamic.length < 2 ^ 64
  · rw [checkedAdd_fits counted]
    dsimp only
    split
    · rename_i many
      simp [refused many]
    · rename_i few
      rw [process_foldlM_countArgument, orError_foldlM_isOk]
      exact fits_iff (by rw [List.length_append]; exact Nat.le_of_not_lt few)
  · have overflow : checkedAdd fixed.length dynamic.length = none := if_neg counted
    simp [overflow, refused (by omega)]

/-- The three validators agree with the closed form, and no addition that a loop comes to fails:
neither that of a running total and the next argument nor that of the two lengths. -/
theorem argument_validators_agree :
    (∀ arguments, (areValidArguments arguments = true ↔ FitArguments arguments) ∧
      (validateArguments arguments = .ok () ↔ FitArguments arguments) ∧
      (ProcessAdapter.validateArguments [] arguments = .ok () ↔ FitArguments arguments)) ∧
    (∀ fixed dynamic, ProcessAdapter.validateArguments fixed dynamic = .ok () ↔
      FitArguments (fixed ++ dynamic)) ∧
    (∀ (before : List String) (total : Nat) (argument : String), argument.utf8ByteSize ≤ 4096 →
      before.foldlM addArgument 0 = some total ∨ before.foldlM countArgument 0 = .ok total ∨
        before.foldlM ProcessAdapter.countArgument 0 = .ok total →
      checkedAdd total argument.utf8ByteSize = some (total + argument.utf8ByteSize)) ∧
    (∀ fixed dynamic : List String, fixed.length < 2 ^ 63 → dynamic.length < 2 ^ 63 →
      checkedAdd fixed.length dynamic.length = some (fixed.length + dynamic.length)) := by
  refine ⟨fun arguments => ⟨areValidArguments_iff arguments, validateArguments_iff arguments,
    process_validateArguments_iff [] arguments⟩, process_validateArguments_iff, ?_, ?_⟩
  · intro before total argument narrow reached
    rw [foldlM_addArgument, foldlM_countArgument, process_foldlM_countArgument, orError_ok,
      orError_ok, or_self, or_self] at reached
    exact checkedAdd_reached (by decide) (by decide) reached narrow
  · intro fixed dynamic few others
    exact checkedAdd_fits (by omega)

end AiOs.Agent
