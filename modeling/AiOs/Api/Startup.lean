import AiOs.Api.Life
import AiOs.Api.Socket
import AiOs.Process.Cgroup

/-! The start of `aiosd`: its options, its socket, the recovery of the store, and the cgroups that a
daemon before it has left. They are looked at after the recovery, so that what is killed belongs to
a Task that has ended on record. -/
namespace AiOs.LocalApi

open Fallible OsString ProcessAdapter

structure Options where
  socket : OsString
  database : OsString
  cgroupRoot : Option OsString
  deriving DecidableEq, Repr

/-- The loop of `Options::parse`. -/
def parseOptions (socket database cgroupRoot : Option OsString) : List String → Option Options
  | [] => do
    let socket ← socket
    let database ← database
    some ⟨socket, database, cgroupRoot⟩
  | [_] => none
  | argument :: value :: rest =>
    if argument = "--socket" ∧ socket = none then
      parseOptions (some (osStr value)) database cgroupRoot rest
    else if argument = "--database" ∧ database = none then
      parseOptions socket (some (osStr value)) cgroupRoot rest
    else if argument = "--cgroup-root" ∧ cgroupRoot = none then
      parseOptions socket database (some (osStr value)) rest
    else none

def Options.parse (arguments : List String) : Option Options := parseOptions none none none arguments

section boot
variable {S δ : Type} [LawfulEventStore S] [LawfulRecoverableStore S] (uuidText : Nat → String)

end boot

section reconciled
variable {S δ : Type} [LawfulEventStore S] [LawfulRecoverableStore S] {uuidText : Nat → String}

/-- A Task whose log is complete and says that it has ended. -/
def Ended (store : S) (taskId : TaskId) : Prop :=
  ∃ state, Accepted store taskId state ∧ state.isTerminal = true

omit [LawfulEventStore S] [LawfulRecoverableStore S] in
theorem Cleared.earlier {m : Machine δ} {first events : List SystemEvent} {directory : OsString}
    (cleared : Cleared (m.after first) directory events) :
    Cleared m directory (first ++ events) := by
  obtain ⟨earlier, event, later, rfl, kind⟩ := cleared
  refine ⟨first ++ earlier, event, later, by simp, ?_⟩
  simpa [Machine.after] using kind

end reconciled

end AiOs.LocalApi
