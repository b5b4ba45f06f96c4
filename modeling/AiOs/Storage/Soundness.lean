import Mathlib.Data.List.Induction
import AiOs.Storage.Replay

/-! What an accepted log says. The replay keeps two variables; both are functions of the
events read so far: the state is the last target, the flag says that the last event is a
failure. -/
namespace AiOs

def TaskEventKind.target? : TaskEventKind → Option TaskState
  | .stateTransitioned _ target => some target
  | _ => none

def TaskEventKind.fails : TaskEventKind → Bool
  | .taskFailed _ => true
  | _ => false

/-- The states a log moves to, in order. -/
def targets (kinds : List TaskEventKind) : List TaskState :=
  kinds.filterMap TaskEventKind.target?

def lastTarget (kinds : List TaskEventKind) : TaskState :=
  (targets kinds).getLast?.getD .submitted

def endsFailing (kinds : List TaskEventKind) : Bool :=
  kinds.getLast?.any TaskEventKind.fails

@[simp] theorem targets_append (before after : List TaskEventKind) :
    targets (before ++ after) = targets before ++ targets after := by
  simp [targets]

theorem lastTarget_concat (before : List TaskEventKind) (kind : TaskEventKind) :
    lastTarget (before ++ [kind]) = kind.target?.getD (lastTarget before) := by
  cases kind <;> simp [lastTarget, targets, TaskEventKind.target?]

theorem endsFailing_concat (before : List TaskEventKind) (kind : TaskEventKind) :
    endsFailing (before ++ [kind]) = kind.fails := by
  simp [endsFailing]

theorem replayKind_opens {kind : TaskEventKind} {next : Option TaskState × Bool}
    (legal : replayKind none false kind = some next) :
    kind = .submitted ∧ next = (some .submitted, false) := by
  cases kind <;> simp_all [replayKind]

theorem replayKind_moves {current : TaskState} {pending : Bool} {kind : TaskEventKind}
    {next : Option TaskState × Bool} (legal : replayKind (some current) pending kind = some next) :
    kind ≠ .submitted ∧ next = (some (kind.target?.getD current), kind.fails) := by
  cases pending <;> cases kind <;>
    simp_all [replayKind, TaskEventKind.target?, TaskEventKind.fails]

theorem replayKind_transition {current source target : TaskState} {pending : Bool}
    {next : Option TaskState × Bool}
    (legal : replayKind (some current) pending (.stateTransitioned source target) = some next) :
    source = current ∧
      (source.canTransitionTo target = true ∨ pending = true ∧ target = .failed) := by
  cases pending <;> simp_all [replayKind]

theorem replayKind_failure {current : TaskState} {pending : Bool} {code : ErrorCode}
    {next : Option TaskState × Bool}
    (legal : replayKind (some current) pending (.taskFailed code) = some next) :
    current.isTerminal = false := by
  cases pending <;> simp_all [replayKind]

theorem replayKind_pending {current : TaskState} {kind : TaskEventKind}
    {next : Option TaskState × Bool} (legal : replayKind (some current) true kind = some next) :
    kind = .stateTransitioned current .failed := by
  cases kind <;> simp_all [replayKind]

theorem replayKind_terminal {current : TaskState} (terminal : current.isTerminal = true)
    (kind : TaskEventKind) : replayKind (some current) false kind = none := by
  cases kind with
  | stateTransitioned source target =>
    have kept : ¬ (some current = some source ∧ source.canTransitionTo target = true) := by
      rintro ⟨same, allowed⟩
      cases Option.some.inj same
      simp [TaskState.not_terminal_of_transition allowed] at terminal
    simp only [replayKind, Bool.false_eq_true, kept, ↓reduceIte]
  | _ => cases current <;> simp_all [replayKind, TaskState.isTerminal]

theorem replayKinds_split {start last : Option TaskState × Bool}
    (before : List TaskEventKind) {after : List TaskEventKind} {kind : TaskEventKind}
    (accepted : replayKinds start (before ++ kind :: after) = some last) :
    ∃ current next, replayKinds start before = some current ∧
      replayKind current.1 current.2 kind = some next ∧ replayKinds next after = some last := by
  simp only [replayKinds_append, replayKinds_cons, Option.bind_eq_some_iff] at accepted
  obtain ⟨current, reached, next, legal, rest⟩ := accepted
  exact ⟨current, next, reached, legal, rest⟩

theorem replayKinds_reaches {kinds : List TaskEventKind} {last : Option TaskState × Bool}
    (accepted : replayKinds (none, false) kinds = some last) :
    kinds = [] ∧ last = (none, false) ∨
      kinds ≠ [] ∧ last = (some (lastTarget kinds), endsFailing kinds) := by
  induction kinds using List.reverseRecOn generalizing last with
  | nil => exact .inl ⟨rfl, (Option.some.inj accepted).symm⟩
  | append_singleton before kind ih =>
    obtain ⟨current, next, reached, legal, rest⟩ := replayKinds_split before accepted
    cases Option.some.inj rest
    refine .inr ⟨by simp, ?_⟩
    rw [lastTarget_concat, endsFailing_concat]
    rcases ih reached with ⟨rfl, rfl⟩ | ⟨_, rfl⟩
    · obtain ⟨rfl, rfl⟩ := replayKind_opens legal
      rfl
    · exact (replayKind_moves legal).2

theorem replayKinds_announced {kinds : List TaskEventKind} {state : TaskState}
    (accepted : replayKinds (none, false) kinds = some (some state, true)) :
    state.isTerminal = false := by
  rcases List.eq_nil_or_concat kinds with rfl | ⟨before, kind, rfl⟩
  · cases Option.some.inj accepted
  rw [List.concat_eq_append] at accepted
  obtain ⟨current, next, reached, legal, rest⟩ := replayKinds_split before accepted
  cases Option.some.inj rest
  rcases replayKinds_reaches reached with ⟨rfl, rfl⟩ | ⟨_, rfl⟩
  · cases (replayKind_opens legal).2
  obtain ⟨_, moved⟩ := replayKind_moves legal
  obtain ⟨code, rfl⟩ : ∃ code, kind = .taskFailed code := by
    cases kind <;> simp_all [TaskEventKind.fails]
  cases Option.some.inj (Prod.mk.inj moved).1
  exact replayKind_failure legal

theorem replayKinds_submitted {kinds : List TaskEventKind} {last : Option TaskState × Bool}
    (accepted : replayKinds (none, false) kinds = some last) (some_event : kinds ≠ []) :
    ∃ rest, kinds = .submitted :: rest ∧ .submitted ∉ rest := by
  obtain ⟨first, rest, rfl⟩ := List.exists_cons_of_ne_nil some_event
  obtain ⟨current, next, reached, legal, _⟩ := replayKinds_split [] accepted
  cases Option.some.inj reached
  obtain ⟨rfl, rfl⟩ := replayKind_opens legal
  refine ⟨rest, rfl, fun again => ?_⟩
  obtain ⟨before, after, rfl⟩ := List.append_of_mem again
  obtain ⟨current, next, reached, legal, _⟩ :=
    replayKinds_split (.submitted :: before) accepted
  rcases replayKinds_reaches reached with ⟨empty, _⟩ | ⟨_, rfl⟩
  · cases empty
  · exact (replayKind_moves legal).1 rfl

/-- A state whose only predecessors lie on the way through validation, queue and run. -/
def TaskState.passed : TaskState → List TaskState
  | .validating => [.validating]
  | .queued => [.validating, .queued]
  | .running | .waitingApproval | .succeeded => [.validating, .queued, .running]
  | _ => []

theorem TaskState.passed_step {source target : TaskState}
    (allowed : source.canTransitionTo target = true) :
    target.passed.Sublist (source.passed ++ [target]) := by
  revert allowed
  cases source <;> cases target <;> decide

/-- The states on the way to the current one were all visited, in order. -/
theorem replayKinds_passed {kinds : List TaskEventKind} {last : Option TaskState × Bool}
    (accepted : replayKinds (none, false) kinds = some last) :
    (lastTarget kinds).passed.Sublist (targets kinds) := by
  induction kinds using List.reverseRecOn generalizing last with
  | nil => exact List.Sublist.refl _
  | append_singleton before kind ih =>
    obtain ⟨current, next, reached, legal, _⟩ := replayKinds_split before accepted
    have earlier := ih reached
    rw [lastTarget_concat, targets_append]
    cases moved : kind.target? with
    | none => exact earlier.trans (List.sublist_append_left _ _)
    | some target =>
      obtain ⟨source, rfl⟩ : ∃ source, kind = .stateTransitioned source target := by
        cases kind <;> simp_all [TaskEventKind.target?]
      rcases replayKinds_reaches reached with ⟨rfl, rfl⟩ | ⟨_, rfl⟩
      · cases (replayKind_opens legal).1
      obtain ⟨rfl, allowed | ⟨_, rfl⟩⟩ := replayKind_transition legal
      · exact (TaskState.passed_step allowed).trans (earlier.append_right [target])
      · exact List.nil_sublist _

/-- The shape of a log: one submission first, a chain of transitions from it, and each
failure answered by the transition to `failed`. -/
structure WellFormedLog (kinds : List TaskEventKind) : Prop where
  submitted : ∃ rest, kinds = .submitted :: rest ∧ .submitted ∉ rest
  chain : ∀ before after source target,
    kinds = before ++ .stateTransitioned source target :: after →
    source = lastTarget before ∧
      (source.canTransitionTo target = true ∨
        endsFailing before = true ∧ source.isTerminal = false ∧ target = .failed)
  answered : ∀ before after code, kinds = before ++ .taskFailed code :: after →
    (lastTarget before).isTerminal = false ∧
      ∃ rest, after = .stateTransitioned (lastTarget before) .failed :: rest

/-- Every accepted nonempty log that has no open failure is well formed. -/
theorem Replays.wellFormed {kinds : List TaskEventKind} {state : TaskState}
    (replays : Replays kinds state) : WellFormedLog kinds where
  submitted := by
    refine replayKinds_submitted replays ?_
    rintro rfl
    exact not_replays_nil state replays
  chain := by
    rintro before after source target rfl
    obtain ⟨current, next, reached, legal, _⟩ := replayKinds_split before replays
    rcases replayKinds_reaches reached with ⟨rfl, rfl⟩ | ⟨some_event, rfl⟩
    · cases (replayKind_opens legal).1
    obtain ⟨rfl, allowed | ⟨failing, rfl⟩⟩ := replayKind_transition legal
    · exact ⟨rfl, .inl allowed⟩
    · have failing : endsFailing before = true := failing
      have live := replayKinds_announced (failing ▸ reached)
      exact ⟨rfl, .inr ⟨failing, live, rfl⟩⟩
  answered := by
    rintro before after code rfl
    obtain ⟨current, next, reached, legal, rest⟩ := replayKinds_split before replays
    rcases replayKinds_reaches reached with ⟨rfl, rfl⟩ | ⟨_, rfl⟩
    · cases (replayKind_opens legal).1
    have live := replayKind_failure legal
    obtain ⟨_, rfl⟩ := replayKind_moves legal
    refine ⟨live, ?_⟩
    cases after with
    | nil => cases Option.some.inj rest
    | cons kind rest' =>
      obtain ⟨opened, moved, same, legal, _⟩ := replayKinds_split [] rest
      cases Option.some.inj same
      cases replayKind_pending legal
      exact ⟨rest', rfl⟩

theorem Replays.lastTarget {kinds : List TaskEventKind} {state : TaskState}
    (replays : Replays kinds state) : state = lastTarget kinds := by
  rcases replayKinds_reaches replays with ⟨_, opened⟩ | ⟨_, reached⟩
  · cases opened
  · exact Option.some.inj (Prod.mk.inj reached).1

theorem Replays.ended {kinds more : List TaskEventKind} {state after : TaskState}
    (replays : Replays kinds state) (terminal : state.isTerminal = true) (some_event : more ≠ []) :
    ¬ Replays (kinds ++ more) after := by
  obtain ⟨kind, rest, rfl⟩ := List.exists_cons_of_ne_nil some_event
  intro extended
  obtain ⟨current, next, reached, legal, _⟩ := replayKinds_split kinds extended
  cases Option.some.inj (replays.symm.trans reached)
  rw [replayKind_terminal terminal] at legal
  cases legal

/-- What a restart may rely on for every list of events, forged ones included, that the
replay accepts. -/
theorem recoverSnapshot_sound (taskId : TaskId) (events : List TaskEvent) (snapshot : TaskSnapshot)
    (accepted : recoverSnapshot taskId events = .ok snapshot) :
    (events ≠ [] ∧ events.map TaskEvent.sequence = List.range' 1 events.length) ∧
      WellFormedLog (kindsOf events) ∧
      snapshot.state = lastTarget (kindsOf events) ∧
      (snapshot.state = .succeeded →
        [.validating, .queued, .running].Sublist (targets (kindsOf events))) ∧
      (snapshot.state.isTerminal = true → ∀ other more, more ≠ [] → ∀ result,
        recoverSnapshot other (events ++ more) ≠ .ok result) := by
  obtain ⟨_, sequenced, _, replays⟩ := (recoverSnapshot_iff taskId events snapshot).mp accepted
  have last := replays.lastTarget
  refine ⟨⟨?_, sequenced⟩, replays.wellFormed, last, ?_, ?_⟩
  · rintro rfl
    exact not_replays_nil snapshot.state replays
  · intro succeeded
    have passed := replayKinds_passed replays
    rwa [← last, succeeded] at passed
  · intro terminal other more some_event result extended
    obtain ⟨_, _, _, longer⟩ := (recoverSnapshot_iff other _ result).mp extended
    have appended : kindsOf (events ++ more) = kindsOf events ++ kindsOf more := by
      simp [kindsOf]
    rw [appended] at longer
    exact replays.ended terminal (by simpa [kindsOf] using some_event) longer

def succeededLog (taskId : TaskId) : List TaskEvent :=
  [⟨taskId, 1, 0, .submitted⟩, ⟨taskId, 2, 0, .stateTransitioned .submitted .validating⟩,
    ⟨taskId, 3, 0, .stateTransitioned .validating .queued⟩,
    ⟨taskId, 4, 0, .stateTransitioned .queued .running⟩, ⟨taskId, 5, 0, .operationAllowed⟩,
    ⟨taskId, 6, 0, .stateTransitioned .running .succeeded⟩]

theorem recoverSnapshot_sound_succeeded :
    recoverSnapshot ⟨0⟩ (succeededLog ⟨0⟩) = .ok ⟨⟨0⟩, .succeeded⟩ ∧
      WellFormedLog (kindsOf (succeededLog ⟨0⟩)) ∧
      [.validating, .queued, .running].Sublist (targets (kindsOf (succeededLog ⟨0⟩))) := by
  have accepted : recoverSnapshot ⟨0⟩ (succeededLog ⟨0⟩) = .ok ⟨⟨0⟩, .succeeded⟩ := by decide
  obtain ⟨_, formed, _, passed, _⟩ := recoverSnapshot_sound ⟨0⟩ _ _ accepted
  exact ⟨accepted, formed, passed rfl⟩

end AiOs
