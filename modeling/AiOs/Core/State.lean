import Mathlib.Algebra.Ring.Nat
import Mathlib.Tactic.Common

/-! The Task lifecycle of `aios-core`: the nine states, the transition table and
the stable error categories that audit events may carry. -/
namespace AiOs

inductive TaskState where
  | submitted
  | validating
  | rejected
  | queued
  | running
  | waitingApproval
  | succeeded
  | failed
  | cancelled
  deriving DecidableEq, Repr

inductive ErrorCode where
  | invalidTask
  | idempotencyConflict
  | capabilityDenied
  | approvalExpired
  | budgetExceeded
  | runtimeRestarted
  | runtimeUnavailable
  | internalError
  deriving DecidableEq, Repr

structure StateTransitionError where
  source : TaskState
  target : TaskState
  deriving DecidableEq, Repr

namespace TaskState

def isTerminal : TaskState → Bool
  | .rejected | .succeeded | .failed | .cancelled => true
  | _ => false

/-- The table proper, with the one edge that starts in every non-terminal state. -/
def canTransitionTo (current next : TaskState) : Bool :=
  (match current, next with
    | .submitted, .validating => true
    | .validating, .rejected | .validating, .queued => true
    | .queued, .running => true
    | .running, .waitingApproval | .running, .succeeded | .running, .failed => true
    | .waitingApproval, .running | .waitingApproval, .failed => true
    | _, _ => false)
  || (!current.isTerminal && decide (next = .cancelled))

/-- The new state, or the rejected pair. The caller keeps the old state on an error. -/
def transitionTo (current next : TaskState) : Except StateTransitionError TaskState :=
  if current.canTransitionTo next then .ok next else .error ⟨current, next⟩

theorem not_terminal_of_transition {current next : TaskState}
    (allowed : current.canTransitionTo next = true) : current.isTerminal = false := by
  cases current <;> cases next <;> simp_all [canTransitionTo, isTerminal]

theorem transition_to_waiting {current : TaskState} :
    current.canTransitionTo .waitingApproval = true ↔ current = .running := by
  cases current <;> decide

theorem transition_to_running {current : TaskState} :
    current.canTransitionTo .running = true ↔ current = .queued ∨ current = .waitingApproval := by
  cases current <;> decide

theorem transition_to_failed {current : TaskState} :
    current.canTransitionTo .failed = true ↔ current = .running ∨ current = .waitingApproval := by
  cases current <;> decide

theorem transition_to_cancelled {current : TaskState} :
    current.canTransitionTo .cancelled = true ↔ current.isTerminal = false := by
  cases current <;> decide

end TaskState

end AiOs
