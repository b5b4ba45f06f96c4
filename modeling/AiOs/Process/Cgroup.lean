import AiOs.Lib.Guard
import AiOs.Process.Watch

/-! The delegated cgroup subtree: one child for each Task that runs Tools, made when the Task
starts, removed when it is done, and reconciled when the daemon starts again. -/
namespace AiOs.ProcessAdapter

open Fallible OsString

def cgroup2Mount : OsString := osStr "/sys/fs/cgroup"
def cleanupTimeout : Duration := Duration.fromSecs 5
def cleanupPollInterval : Duration := Duration.fromMillis 5

variable {δ : Type}

def containsWord (contents expected : String) : Bool :=
  ((contents.toList.splitOnP isAsciiWhitespace).filter (· != [])).any (· == expected.toList)

/-- `str::lines`: a carriage return in front of a line feed belongs to the line's end, and what
follows the last line feed is a line unless it is empty. -/
def lines (contents : String) : List (List Char) :=
  let pieces := contents.toList.splitOn '\n'
  pieces.dropLast.map (fun line => if line.getLast? = some '\r' then line.dropLast else line)
    ++ pieces.getLast?.toList.filter (· != [])

/-- `str::strip_prefix` -/
def stripText (line expected : List Char) : Option (List Char) :=
  if expected.isPrefixOf line then some (line.drop expected.length) else none

def currentCgroupDirectory (host : Host δ) : Except ProcessAdapterError OsString := do
  let membership ← orError (host.readToString (osStr "/proc/self/cgroup")) .invalidResourceControl
  let relative ← orError ((lines membership).findSome? (stripText · "0::".toList))
    .invalidResourceControl
  let relative ← orError (stripText relative ['/']) .invalidResourceControl
  orError (host.canonicalize (join cgroup2Mount (osStr (String.ofList relative))))
    .invalidResourceControl

def Delegated (path : OsString) : Prop :=
  startsWith path cgroup2Mount = true ∧ components path ≠ components cgroup2Mount

instance (path : OsString) : Decidable (Delegated path) := inferInstanceAs (Decidable (_ ∧ _))

def canonicalCgroupRoot (host : Host δ) (path : OsString) :
    Except ProcessAdapterError { path : OsString // Delegated path } := do
  check (isAbsolute path && decide (path.length ≤ maxSandboxPathBytes)) .invalidResourceControl
  let metadata ← orError (host.symlinkMetadata path) .invalidResourceControl
  check (!metadata.isSymlink && metadata.isDir) .invalidResourceControl
  let canonical ← orError (host.canonicalize path) .invalidResourceControl
  if delegated : Delegated canonical then pure ⟨canonical, delegated⟩
  else .error .invalidResourceControl

def validateCgroupRoot (host : Host δ) (path : OsString) : Except ProcessAdapterError Unit := do
  check (["cgroup.controllers", "cgroup.procs", "cgroup.subtree_control"].all fun name =>
    (host.metadata (join path (osStr name))).any FileMetadata.isFile) .invalidResourceControl
  let controllers ← orError (host.readToString (join path (osStr "cgroup.controllers")))
    .invalidResourceControl
  let enabled ← orError (host.readToString (join path (osStr "cgroup.subtree_control")))
    .invalidResourceControl
  check (containsWord controllers "cpu" && containsWord controllers "memory"
    && containsWord enabled "cpu" && containsWord enabled "memory") .invalidResourceControl
  let rootProcesses ← orError (host.readToString (join path (osStr "cgroup.procs")))
    .invalidResourceControl
  check (trim rootProcesses).isEmpty .invalidResourceControl
  let current ← currentCgroupDirectory host
  check (components current != components path && startsWith current path) .invalidResourceControl

/-- Trusted owner of an existing delegated subtree. -/
structure CgroupV2Manager where
  rootDirectory : OsString
  rootIdentity : FileIdentity
  delegated : Delegated rootDirectory

theorem ofPiece_ne_rootDir (piece : OsString) : PathComponent.ofPiece piece ≠ some .rootDir := by
  unfold PathComponent.ofPiece
  split
  · simp
  · split <;> simp

/-- Only an absolute path starts at the root. -/
theorem absolute_of_components {path : OsString} {rest : List PathComponent}
    (starts : components path = .rootDir :: rest) : isAbsolute path = true := by
  by_contra relative
  unfold components at starts
  rw [if_neg relative] at starts
  split at starts
  · cases starts
  · rw [List.nil_append] at starts
    have member : .rootDir ∈ (path.splitOn separator).filterMap PathComponent.ofPiece := by
      rw [starts]
      exact List.mem_cons_self
    obtain ⟨piece, _, found⟩ := List.mem_filterMap.mp member
    exact ofPiece_ne_rootDir piece found

theorem Delegated.absolute {path : OsString} (delegated : Delegated path) :
    isAbsolute path = true := by
  obtain ⟨rest, below⟩ := List.isPrefixOf_iff_prefix.mp delegated.1
  have mount : components cgroup2Mount = .rootDir :: (components cgroup2Mount).tail := by
    decide +kernel
  rw [mount, List.cons_append] at below
  exact absolute_of_components below.symm

/-- The identity of a directory of the hierarchy. -/
def cgroupIdentity (host : Host δ) (directory : OsString) :
    Except ProcessAdapterError FileIdentity :=
  (readDirectoryIdentity host directory).mapError fun _ => .invalidResourceControl

def CgroupV2Manager.new (host : Host δ) (rootDirectory : OsString) :
    Except ProcessAdapterError CgroupV2Manager := do
  let root ← canonicalCgroupRoot host rootDirectory
  validateCgroupRoot host root.val
  let rootIdentity ← cgroupIdentity host root.val
  pure ⟨root.val, rootIdentity, root.property⟩

/-- Not this process and nothing above it. -/
def validateCleanupTarget (host : Host δ) (directory : OsString) (expectedIdentity : FileIdentity) :
    Except ProcessAdapterError Unit := do
  validateTaskCgroupIdentity host directory expectedIdentity
  let current ← currentCgroupDirectory host
  check (components current != components directory && !startsWith current directory)
    .invalidResourceControl

def configureTaskCgroup (directory : OsString) (budget : CgroupResourceBudget) :
    MachineM δ Unit := do
  let present ← look fun host => cgroupFiles.all fun name =>
    (host.metadata (join directory (osStr name))).any FileMetadata.isFile
  ensure present .invalidResourceControl
  let limited ← writeFile (join directory (osStr "memory.max")) (toString budget.memoryBytes.toNat)
  ensure limited .invalidResourceControl
  let unswapped ← writeFile (join directory (osStr "memory.swap.max")) "0"
  ensure unswapped .invalidResourceControl
  let grouped ← writeFile (join directory (osStr "memory.oom.group")) "1"
  ensure grouped .invalidResourceControl

/-- The processes of a cgroup, counted as `cgroup.events` does. -/
def readPopulated (host : Host δ) (directory : OsString) (expectedIdentity : FileIdentity) :
    Except ProcessAdapterError Nat := do
  validateTaskCgroupIdentity host directory expectedIdentity
  readKeyedU64 host (join directory (osStr "cgroup.events")) "populated"

/-- One round of the loop in `wait_until_empty_until`. -/
def emptyRound (directory : OsString) (expectedIdentity : FileIdentity) (deadline : Instant) :
    MachineM δ (Option Unit) := do
  let now ← readClock
  ensure (decide (now < deadline)) .invalidResourceControl
  let answer ← look fun host => readPopulated host directory expectedIdentity
  let populated ← propagate answer
  if populated = 0 then pure (some ())
  else
    sleep cleanupPollInterval
    pure none

/-- With so many rounds. -/
def waitUntilEmptyUntil (fuel : Nat) (directory : OsString) (expectedIdentity : FileIdentity)
    (deadline : Instant) : MachineM δ (Option Unit) :=
  rounds (emptyRound directory expectedIdentity deadline) fuel

/-- `TaskCgroup::finish` -/
def TaskCgroupState.finish (fuel : Nat) (cgroup : TaskCgroupState) : MachineM δ (Option Unit) := do
  cgroup.terminate
  let now ← readClock
  match ← waitUntilEmptyUntil fuel cgroup.directory cgroup.directoryIdentity
      (now + cleanupTimeout) with
  | none => pure none
  | some () =>
    let removed ← removeDir cgroup.directory
    ensure removed .invalidResourceControl
    pure (some ())

namespace CgroupV2Manager
variable (uuidText : Nat → String) (manager : CgroupV2Manager)

def validateRoot (host : Host δ) : Except ProcessAdapterError Unit := do
  validateCgroupRoot host manager.rootDirectory
  let identity ← cgroupIdentity host manager.rootDirectory
  check (identity = manager.rootIdentity) .invalidResourceControl

def requireRoot : MachineM δ Unit := do
  let valid ← look manager.validateRoot
  propagate valid

/-- `root_directory.join(format!("task-{task_id}"))` -/
def taskDirectory (taskId : TaskId) : OsString :=
  join manager.rootDirectory (osStr ("task-" ++ uuidText taskId.uuid))

/-- `create`, behind the directory itself. -/
def configure (taskId : TaskId) (budget : CgroupResourceBudget) : MachineM δ TaskCgroupState := do
  configureTaskCgroup (manager.taskDirectory uuidText taskId) budget
  let answer ← look fun host => cgroupIdentity host (manager.taskDirectory uuidText taskId)
  let directoryIdentity ← propagate answer
  pure ⟨taskId, manager.taskDirectory uuidText taskId, directoryIdentity, budget,
    isAbsolute_join manager.delegated.absolute⟩

/-- A cgroup that cannot be configured is not left behind. -/
def create (taskId : TaskId) (budget : CgroupResourceBudget) : MachineM δ TaskCgroupState := do
  manager.requireRoot
  let directory := manager.taskDirectory uuidText taskId
  ensure (decide (directory.length ≤ maxSandboxPathBytes)) .invalidResourceControl
  let made ← createDir directory none
  ensure made .invalidResourceControl
  match ← attempt (manager.configure uuidText taskId budget) with
  | .ok cgroup => pure cgroup
  | .error error =>
    let _ ← removeDir directory
    throw error

/-- What is behind the name of a Task: nothing, a directory, or something that must not be
there. -/
def findStale (directory : OsString) : MachineM δ (Option FileIdentity) := do
  let found ← perform (fun outside trace =>
    ((outside.host trace).symlinkMetadata directory, outside.notFound trace directory))
    fun _ => .looked
  match found with
  | (none, true) => pure none
  | (none, false) => throw .invalidResourceControl
  | (some metadata, _) =>
    ensure (!metadata.isSymlink && metadata.isDir) .invalidResourceControl
    let answer ← look fun host => cgroupIdentity host directory
    let identity ← propagate answer
    pure (some identity)

def removeStale (fuel : Nat) (deadline : Instant) (directory : OsString) (identity : FileIdentity) :
    MachineM δ (Option Unit) := do
  let target ← look fun host => validateCleanupTarget host directory identity
  propagate target
  terminateTaskCgroup directory identity
  match ← waitUntilEmptyUntil fuel directory identity deadline with
  | none => pure none
  | some () =>
    let now ← readClock
    ensure (decide (now < deadline)) .invalidResourceControl
    manager.requireRoot
    let target ← look fun host => validateCleanupTarget host directory identity
    propagate target
    let gone ← removeDir directory
    ensure gone .invalidResourceControl
    pure (some ())

/-- The loop of `reconcile_stale_task_cgroups`. Without an answer it would still be waiting. -/
def reconcileEach (fuel : Nat) (deadline : Instant) : List TaskId → Nat → MachineM δ (Option Nat)
  | [], removed => do
    manager.requireRoot
    pure (some removed)
  | taskId :: taskIds, removed => do
    let now ← readClock
    ensure (decide (now < deadline)) .invalidResourceControl
    manager.requireRoot
    let directory := manager.taskDirectory uuidText taskId
    ensure (decide (directory.length ≤ maxSandboxPathBytes)) .invalidResourceControl
    match ← findStale directory with
    | none => reconcileEach fuel deadline taskIds removed
    | some identity =>
      match ← manager.removeStale fuel deadline directory identity with
      | none => pure none
      | some () =>
        let removed ← okOr (checkedAdd removed 1) .invalidResourceControl
        reconcileEach fuel deadline taskIds removed

def reconcileStaleTaskCgroups (fuel : Nat) (taskIds : List TaskId) : MachineM δ (Option Nat) := do
  manager.requireRoot
  let now ← readClock
  manager.reconcileEach uuidText fuel (now + cleanupTimeout) taskIds 0

end CgroupV2Manager

section reconcile

def SystemEvent.quiet : SystemEvent → Prop
  | .looked => True
  | .read _ => True
  | .slept _ => True
  | _ => False

def SystemEvent.isRemoval : SystemEvent → Bool
  | .removedDir _ true => true
  | _ => false

theorem SystemEvent.quiet.not_removal {event : SystemEvent} (quiet : event.quiet) :
    event.isRemoval = false := by
  cases event <;> first | rfl | exact quiet.elim

/-- All the processes of a cgroup were killed, and then none was left. -/
def Emptied (outside : Outside δ) (directory : OsString) (identity : FileIdentity)
    (trace : List SystemEvent) : Prop :=
  ∃ earlier waiting later,
    trace = earlier ++ .wrote (killFile directory) "1" true :: waiting ++ .looked :: later ∧
    (∀ event ∈ waiting ++ later, event.quiet) ∧
    readPopulated (outside.host (earlier ++ .wrote (killFile directory) "1" true :: waiting))
      directory identity = .ok 0

variable (uuidText : Nat → String) (manager : CgroupV2Manager)

/-- What a reconciliation may do, by all that was done before: it kills the cgroup of one of the
Tasks, which was just seen not to hold this process, and removes it when it is empty. -/
def ReconcileAllows (outside : Outside δ) (taskIds : List TaskId) (before : List SystemEvent) :
    SystemEvent → Prop
  | .looked => True
  | .read _ => True
  | .slept _ => True
  | .wrote path contents _ => ∃ taskId ∈ taskIds, ∃ identity found,
      path = killFile (manager.taskDirectory uuidText taskId) ∧ contents = "1" ∧
      before = found ++ [.looked, .looked] ∧
      validateCleanupTarget (outside.host found) (manager.taskDirectory uuidText taskId) identity =
        .ok ()
  | .removedDir path _ => ∃ taskId ∈ taskIds, ∃ identity found,
      path = manager.taskDirectory uuidText taskId ∧ before = found ++ [.looked, .looked] ∧
      Emptied outside path identity found ∧ manager.validateRoot (outside.host found) = .ok () ∧
      validateCleanupTarget (outside.host (found ++ [.looked])) path identity = .ok ()
  | _ => False

/-- A Task is dealt with: a look found that there is nothing behind its name, or its cgroup is
removed. -/
def Cleared (m₀ : Machine δ) (directory : OsString) (events : List SystemEvent) : Prop :=
  ∃ earlier event later, events = earlier ++ event :: later ∧
    (event = .removedDir directory true ∨ event = .looked ∧
      (m₀.outside.host (m₀.trace ++ earlier)).symlinkMetadata directory = none ∧
      m₀.outside.notFound (m₀.trace ++ earlier) directory = true)

theorem Cleared.append {m₀ : Machine δ} {directory : OsString} {events : List SystemEvent}
    (cleared : Cleared m₀ directory events) (more : List SystemEvent) :
    Cleared m₀ directory (events ++ more) := by
  obtain ⟨earlier, event, later, rfl, kind⟩ := cleared
  exact ⟨earlier, event, later ++ more, by simp, kind⟩

/-- Events of a reconciliation: allowed ones, with so many removals, and some Tasks are dealt
with. -/
structure TidyEvents (taskIds : List TaskId) (m₀ : Machine δ) (done : List TaskId) (removed : Nat)
    (events : List SystemEvent) : Prop where
  sanctioned : Sanctioned (ReconcileAllows uuidText manager m₀.outside taskIds) m₀.trace events
  count : events.countP SystemEvent.isRemoval = removed
  cleared : ∀ taskId ∈ done, Cleared m₀ (manager.taskDirectory uuidText taskId) events

/-- Where such events lead. -/
def Tidy (taskIds : List TaskId) (m₀ : Machine δ) (done : List TaskId) (removed : Nat)
    (m : Machine δ) : Prop :=
  ∃ events, m = m₀.after events ∧ TidyEvents uuidText manager taskIds m₀ done removed events

variable {uuidText : Nat → String} {manager : CgroupV2Manager} {taskIds done : List TaskId}
  {m₀ m : Machine δ} {removed : Nat}

theorem Tidy.start (uuidText : Nat → String) (manager : CgroupV2Manager) (taskIds : List TaskId)
    (m : Machine δ) : Tidy uuidText manager taskIds m [] 0 m :=
  ⟨[], m.after_nil.symm, .nil, rfl, by simp⟩

theorem Tidy.outside (tidy : Tidy uuidText manager taskIds m₀ done removed m) :
    m.outside = m₀.outside := by
  obtain ⟨_, rfl, _⟩ := tidy
  rfl

theorem Tidy.step (tidy : Tidy uuidText manager taskIds m₀ done removed m) (event : SystemEvent)
    (allowed : ReconcileAllows uuidText manager m₀.outside taskIds m.trace event) :
    Tidy uuidText manager taskIds m₀ done (removed + if event.isRemoval then 1 else 0)
      (m.after [event]) := by
  obtain ⟨events, rfl, tidy⟩ := tidy
  refine ⟨events ++ [event], m₀.after_after _ _, tidy.sanctioned.snoc allowed, ?_, ?_⟩
  · rw [List.countP_append, tidy.count, List.countP_singleton]
  · exact fun taskId member => (tidy.cleared taskId member).append _

theorem Tidy.quiet (tidy : Tidy uuidText manager taskIds m₀ done removed m)
    {more : List SystemEvent} (quiet : ∀ event ∈ more, event.quiet) :
    Tidy uuidText manager taskIds m₀ done removed (m.after more) := by
  obtain ⟨events, rfl, tidy⟩ := tidy
  refine ⟨events ++ more, m₀.after_after _ _, tidy.sanctioned.append ?_, ?_, ?_⟩
  · intro trace event member
    have still := quiet event member
    cases event <;> trivial
  · rw [List.countP_append, tidy.count, Nat.add_eq_left, List.countP_eq_zero]
    intro event member
    simp [(quiet event member).not_removal]
  · exact fun taskId member => (tidy.cleared taskId member).append _

theorem Tidy.looked (tidy : Tidy uuidText manager taskIds m₀ done removed m) :
    Tidy uuidText manager taskIds m₀ done removed (m.after [.looked]) :=
  tidy.quiet (by simp [SystemEvent.quiet])

theorem Tidy.read (tidy : Tidy uuidText manager taskIds m₀ done removed m) (now : Instant) :
    Tidy uuidText manager taskIds m₀ done removed (m.after [.read now]) :=
  tidy.quiet (by simp [SystemEvent.quiet])

theorem Tidy.deal (tidy : Tidy uuidText manager taskIds m₀ done removed m) {taskId : TaskId}
    {events : List SystemEvent} (same : m = m₀.after events)
    (cleared : Cleared m₀ (manager.taskDirectory uuidText taskId) events) :
    Tidy uuidText manager taskIds m₀ (done ++ [taskId]) removed m := by
  obtain ⟨_, rfl, tidy⟩ := tidy
  obtain rfl := m₀.after_inj same
  refine ⟨_, rfl, tidy.sanctioned, tidy.count, fun other member => ?_⟩
  rcases List.mem_append.mp member with before | here
  · exact tidy.cleared other before
  · rw [List.mem_singleton.mp here]
    exact cleared

variable {directory : OsString}

section wait
variable (m : Machine δ) (directory : OsString) (identity : FileIdentity) (deadline : Instant)

/-- What a round of the wait leaves. -/
inductive EmptyRound : Except ProcessAdapterError (Option Unit) → List SystemEvent → Prop where
  | late (past : deadline ≤ m.outside.now m.trace) :
      EmptyRound (.error .invalidResourceControl) [.read (m.outside.now m.trace)]
  | lost {e : ProcessAdapterError} (early : m.outside.now m.trace < deadline)
      (failed : readPopulated (m.outside.host (m.trace ++ [.read (m.outside.now m.trace)]))
        directory identity = .error e) :
      EmptyRound (.error e) [.read (m.outside.now m.trace), .looked]
  | empty (early : m.outside.now m.trace < deadline)
      (found : readPopulated (m.outside.host (m.trace ++ [.read (m.outside.now m.trace)]))
        directory identity = .ok 0) :
      EmptyRound (.ok (some ())) [.read (m.outside.now m.trace), .looked]
  | busy {populated : Nat} (early : m.outside.now m.trace < deadline)
      (found : readPopulated (m.outside.host (m.trace ++ [.read (m.outside.now m.trace)]))
        directory identity = .ok populated) (left : populated ≠ 0) :
      EmptyRound (.ok none)
        [.read (m.outside.now m.trace), .looked, .slept cleanupPollInterval]

theorem emptyRound_leaves : Leaves m (EmptyRound m directory identity deadline)
    (exec (emptyRound directory identity deadline) m) := by
  unfold emptyRound
  apply leaves_seen
  rintro now rfl
  apply ensure_rule (P := Leaves _ _)
  · intro past
    exact leaves_stop (.late (Nat.le_of_not_lt (of_decide_eq_false past)))
  intro early
  have early := of_decide_eq_true early
  apply leaves_seen
  intro answer seen
  apply propagate_rule (P := Leaves _ _)
  · rintro e rfl
    exact leaves_stop (.lost early seen)
  rintro populated rfl
  by_cases empty : populated = 0
  · subst empty
    exact leaves_stop (.empty early seen)
  · rw [if_neg empty]
    apply leaves_perform
    intro _
    exact leaves_stop (.busy early seen empty)

/-- Rounds of the wait: each is begun before the deadline and finds a process. -/
inductive Busy : List SystemEvent → Prop where
  | nil : Busy []
  | round {waiting : List SystemEvent} {populated : Nat} (before : Busy waiting)
      (early : m.outside.now (m.trace ++ waiting) < deadline)
      (found : readPopulated (m.outside.host (m.trace ++ (waiting ++
        [.read (m.outside.now (m.trace ++ waiting))]))) directory identity = .ok populated)
      (left : populated ≠ 0) : Busy (waiting ++
        [.read (m.outside.now (m.trace ++ waiting)), .looked, .slept cleanupPollInterval])

/-- What the whole wait leaves. After the busy rounds it is too late, or the directory cannot be
read, or no process is left in it. -/
inductive Waited : Except ProcessAdapterError (Option Unit) → List SystemEvent → Prop where
  | unfinished {waiting : List SystemEvent} (busy : Busy m directory identity deadline waiting) :
      Waited (.ok none) waiting
  | late {waiting : List SystemEvent} (busy : Busy m directory identity deadline waiting)
      (past : deadline ≤ m.outside.now (m.trace ++ waiting)) :
      Waited (.error .invalidResourceControl)
        (waiting ++ [.read (m.outside.now (m.trace ++ waiting))])
  | lost {waiting : List SystemEvent} {e : ProcessAdapterError}
      (busy : Busy m directory identity deadline waiting)
      (early : m.outside.now (m.trace ++ waiting) < deadline)
      (failed : readPopulated (m.outside.host (m.trace ++ (waiting ++
        [.read (m.outside.now (m.trace ++ waiting))]))) directory identity = .error e) :
      Waited (.error e) (waiting ++ [.read (m.outside.now (m.trace ++ waiting)), .looked])
  | empty {waiting : List SystemEvent} (busy : Busy m directory identity deadline waiting)
      (early : m.outside.now (m.trace ++ waiting) < deadline)
      (found : readPopulated (m.outside.host (m.trace ++ (waiting ++
        [.read (m.outside.now (m.trace ++ waiting))]))) directory identity = .ok 0) :
      Waited (.ok (some ())) (waiting ++ [.read (m.outside.now (m.trace ++ waiting)), .looked])

variable {m directory identity deadline}

theorem Busy.quiet {waiting : List SystemEvent} (busy : Busy m directory identity deadline waiting) :
    ∀ event ∈ waiting, event.quiet := by
  induction busy with
  | nil => simp
  | round before early found left ih =>
    intro event member
    rcases List.mem_append.mp member with earlier | last
    · exact ih event earlier
    · simp only [List.mem_cons, List.not_mem_nil, or_false] at last
      rcases last with rfl | rfl | rfl <;> trivial

theorem Waited.quiet {answer : Except ProcessAdapterError (Option Unit)}
    {events : List SystemEvent} (waited : Waited m directory identity deadline answer events) :
    ∀ event ∈ events, event.quiet := by
  have added : ∀ {waiting more : List SystemEvent}, Busy m directory identity deadline waiting →
      (∀ event ∈ more, event.quiet) → ∀ event ∈ waiting ++ more, event.quiet := by
    intro waiting more busy quiet event member
    rcases List.mem_append.mp member with earlier | last
    · exact busy.quiet event earlier
    · exact quiet event last
  cases waited with
  | unfinished busy => exact busy.quiet
  | late busy past => exact added busy (by simp [SystemEvent.quiet])
  | lost busy early failed => exact added busy (by simp [SystemEvent.quiet])
  | empty busy early found => exact added busy (by simp [SystemEvent.quiet])

theorem Waited.found {events : List SystemEvent}
    (waited : Waited m directory identity deadline (.ok (some ())) events) :
    ∃ waiting, events = waiting ++ [.looked] ∧
      readPopulated (m.outside.host (m.trace ++ waiting)) directory identity = .ok 0 := by
  cases waited with
  | empty busy early found => exact ⟨_, by simp, found⟩

/-- Where a round leads after busy ones. -/
def WaitedOut (m : Machine δ) (directory : OsString) (identity : FileIdentity) (deadline : Instant)
    (out : Except ProcessAdapterError Unit × Machine δ) : Prop :=
  Leaves m (Waited m directory identity deadline) (out.1.map some, out.2)

def Waiting (m : Machine δ) (directory : OsString) (identity : FileIdentity) (deadline : Instant)
    (s : Machine δ) : Prop :=
  ∃ waiting, s = m.after waiting ∧ Busy m directory identity deadline waiting

theorem emptyRound_comes (s : Machine δ) (waits : Waiting m directory identity deadline s) :
    Comes (Waiting m directory identity deadline) (WaitedOut m directory identity deadline)
      (exec (emptyRound directory identity deadline) s) := by
  obtain ⟨waiting, rfl, busy⟩ := waits
  obtain ⟨events, same, round⟩ := emptyRound_leaves (m.after waiting) directory identity deadline
  have along : ∀ more, (m.after waiting).after more = m.after (waiting ++ more) :=
    fun more => m.after_after waiting more
  have whole : ∀ now, m.trace ++ waiting ++ [.read now] = m.trace ++ (waiting ++ [.read now]) :=
    fun now => List.append_assoc _ _ _
  generalize exec (emptyRound directory identity deadline) (m.after waiting) = out at same round
  obtain ⟨answer, t⟩ := out
  obtain rfl : t = _ := same
  rw [along]
  cases round with
  | late past => exact ⟨_, rfl, .late busy past⟩
  | lost early failed => exact ⟨_, rfl, .lost busy early (whole _ ▸ failed)⟩
  | empty early found => exact ⟨_, rfl, .empty busy early (whole _ ▸ found)⟩
  | busy early found left => exact ⟨_, rfl, .round busy early (whole _ ▸ found) left⟩

theorem waitUntilEmptyUntil_leaves (m : Machine δ) (fuel : Nat) (directory : OsString)
    (identity : FileIdentity) (deadline : Instant) :
    Leaves m (Waited m directory identity deadline)
      (exec (waitUntilEmptyUntil fuel directory identity deadline) m) := by
  have start : Waiting m directory identity deadline m := ⟨[], m.after_nil.symm, .nil⟩
  have runs := rounds_rule emptyRound_comes fuel start
  unfold waitUntilEmptyUntil
  rcases ran : exec (rounds (emptyRound directory identity deadline) fuel) m with
    ⟨e | (_ | _), t⟩
  · rw [ran] at runs
    exact runs
  · rw [ran] at runs
    obtain ⟨waiting, same, busy⟩ := runs
    exact ⟨waiting, same, .unfinished busy⟩
  · rw [ran] at runs
    exact runs

end wait

theorem requireRoot_rule {α : Type} {f : Unit → MachineM δ α}
    {P : Except ProcessAdapterError α × Machine δ → Prop}
    (failed : ∀ e, P (.error e, m.after [.looked]))
    (valid : manager.validateRoot (m.outside.host m.trace) = .ok () →
      P (exec (f ()) (m.after [.looked]))) :
    P (exec (manager.requireRoot >>= f) m) := by
  unfold CgroupV2Manager.requireRoot
  rw [bind_assoc]
  apply perform_rule
  intro answer seen
  apply propagate_rule
  · exact fun e _ => failed e
  · rintro _ rfl
    exact valid seen

/-- Removing one stale cgroup: it counts only if the directory is gone. -/
structure Removing (uuidText : Nat → String) (manager : CgroupV2Manager) (taskIds : List TaskId)
    (m₀ : Machine δ) (done : List TaskId) (removed : Nat) (directory : OsString)
    (out : Except ProcessAdapterError (Option Unit) × Machine δ) : Prop where
  tidy : ∃ count, Tidy uuidText manager taskIds m₀ done count out.2 ∧
    (out.1 = .ok (some ()) → count = removed + 1)
  gone : out.1 = .ok (some ()) → ∃ events,
    out.2 = m₀.after (events ++ [.removedDir directory true])

theorem Removing.failed {e : ProcessAdapterError}
    (tidy : Tidy uuidText manager taskIds m₀ done removed m) :
    Removing uuidText manager taskIds m₀ done removed directory (.error e, m) :=
  ⟨⟨removed, tidy, nofun⟩, nofun⟩

theorem removeStale_removing (fuel : Nat) (deadline : Instant) (identity : FileIdentity)
    {taskId : TaskId} (listed : taskId ∈ taskIds) (tidy : Tidy uuidText manager taskIds m₀ done removed m) :
    Removing uuidText manager taskIds m₀ done removed (manager.taskDirectory uuidText taskId)
      (exec (manager.removeStale fuel deadline (manager.taskDirectory uuidText taskId) identity)
        m) := by
  have own := tidy.outside
  generalize place : manager.taskDirectory uuidText taskId = directory
  unfold CgroupV2Manager.removeStale terminateTaskCgroup
  apply perform_rule
  intro target seen
  apply propagate_rule
  · exact fun e _ => .failed tidy.looked
  rintro _ rfl
  simp only [bind_assoc]
  apply perform_rule
  intro valid _
  apply propagate_rule
  · exact fun e _ => .failed tidy.looked.looked
  intro _ _
  apply perform_rule
  intro written _
  have killed : Tidy uuidText manager taskIds m₀ done removed
      (((m.after [.looked]).after [.looked]).after [.wrote (killFile directory) "1" written]) := by
    refine tidy.looked.looked.step _ ⟨taskId, listed, identity, m.trace, ?_, rfl, ?_, ?_⟩
    · rw [place]
    · simp [Machine.after]
    · rw [place, ← own]
      exact seen
  apply ensure_rule
  · exact fun _ => .failed killed
  rintro rfl
  obtain ⟨events, same, waited⟩ := waitUntilEmptyUntil_leaves
    (((m.after [.looked]).after [.looked]).after [.wrote (killFile directory) "1" true])
    fuel directory identity deadline
  have rested := killed.quiet waited.quiet
  apply bind_rule
  · intro e t ran
    rw [ran] at same
    obtain rfl : t = _ := same
    exact .failed rested
  intro emptied t ran
  rw [ran] at same waited
  obtain rfl : t = _ := same
  cases emptied with
  | none =>
    refine ⟨⟨removed, rested, ?_⟩, ?_⟩
    · rintro ⟨⟩
    · rintro ⟨⟩
  | some _ =>
    have calm := waited.quiet
    obtain ⟨waiting, rfl, empty⟩ := waited.found
    apply perform_rule
    intro now _
    have read : Tidy uuidText manager taskIds m₀ done removed (((((m.after [.looked]).after
        [.looked]).after [.wrote (killFile directory) "1" true]).after
          (waiting ++ [.looked])).after [.read now]) := rested.read now
    apply ensure_rule
    · exact fun _ => .failed read
    intro _
    apply requireRoot_rule
    · exact fun e => .failed read.looked
    intro root
    apply perform_rule
    intro target seen
    apply propagate_rule
    · exact fun e _ => .failed read.looked.looked
    rintro _ rfl
    apply perform_rule
    intro gone _
    have checked := read.looked.looked
    have emptied : Emptied m₀.outside directory identity
        (m.trace ++ [.looked, .looked, .wrote (killFile directory) "1" true]
          ++ (waiting ++ [.looked]) ++ [.read now]) := by
      refine ⟨m.trace ++ [.looked, .looked], waiting, [.read now], by simp, ?_, ?_⟩
      · intro event member
        rcases List.mem_append.mp member with waits | last
        · exact calm event (List.mem_append_left _ waits)
        · rw [List.mem_singleton.mp last]
          trivial
      · rw [← own]
        simpa [Machine.after] using empty
    have removes := checked.step (.removedDir directory gone)
      ⟨taskId, listed, identity, _, place.symm, by simp [Machine.after], emptied,
        by simpa [Machine.after, own] using root, by simpa [Machine.after, own] using seen⟩
    apply ensure_rule
    · rintro rfl
      exact .failed removes
    rintro rfl
    obtain ⟨events, same, _⟩ := checked
    refine ⟨⟨removed + 1, removes, fun _ => rfl⟩, fun _ => ⟨events, ?_⟩⟩
    rw [same]
    exact m₀.after_after _ _

theorem findStale_rule {α : Type} {f : Option FileIdentity → MachineM δ α}
    {P : Except ProcessAdapterError α × Machine δ → Prop}
    (vacant : (m.outside.host m.trace).symlinkMetadata directory = none →
      m.outside.notFound m.trace directory = true → P (exec (f none) (m.after [.looked])))
    (failed : ∀ e events, (∀ event ∈ events, event.quiet) → P (.error e, m.after events))
    (found : ∀ identity, P (exec (f (some identity)) ((m.after [.looked]).after [.looked]))) :
    P (exec (CgroupV2Manager.findStale directory >>= f) m) := by
  unfold CgroupV2Manager.findStale
  rw [bind_assoc]
  apply perform_rule
  rintro ⟨_ | metadata, missing⟩ seen
  · cases missing with
    | true => exact vacant (congrArg Prod.fst seen) (congrArg Prod.snd seen)
    | false => exact failed _ _ (by simp [SystemEvent.quiet])
  · simp only [bind_assoc]
    apply ensure_rule
    · exact fun _ => failed _ _ (by simp [SystemEvent.quiet])
    intro _
    apply perform_rule
    intro answer _
    apply propagate_rule
    · intro e _
      rw [m.after_after]
      exact failed _ _ (by simp [SystemEvent.quiet])
    · exact fun identity _ => found identity

/-- The outcome of the loop, with the number it returns. -/
structure ReconcileOut (uuidText : Nat → String) (manager : CgroupV2Manager)
    (taskIds : List TaskId) (m₀ : Machine δ)
    (out : Except ProcessAdapterError (Option Nat) × Machine δ) : Prop where
  tidy : ∃ removed, Tidy uuidText manager taskIds m₀ [] removed out.2
  complete : ∀ removed, out.1 = .ok (some removed) →
    Tidy uuidText manager taskIds m₀ taskIds removed out.2

theorem Tidy.forget (tidy : Tidy uuidText manager taskIds m₀ done removed m) :
    ∃ removed, Tidy uuidText manager taskIds m₀ [] removed m := by
  obtain ⟨events, same, tidy⟩ := tidy
  exact ⟨removed, events, same, tidy.sanctioned, tidy.count, by simp⟩

theorem ReconcileOut.failed {e : ProcessAdapterError}
    (tidy : Tidy uuidText manager taskIds m₀ done removed m) :
    ReconcileOut uuidText manager taskIds m₀ (.error e, m) :=
  ⟨tidy.forget, nofun⟩

/-- The induction is over the Tasks that are left, from any state the loop comes to. -/
theorem reconcileEach_out (fuel : Nat) (deadline : Instant) (left : List TaskId)
    (all : taskIds = done ++ left)
    (tidy : Tidy uuidText manager taskIds m₀ done removed m) :
    ReconcileOut uuidText manager taskIds m₀
      (exec (manager.reconcileEach uuidText fuel deadline left removed) m) := by
  induction left generalizing done removed m with
  | nil =>
    rw [List.append_nil] at all
    subst all
    unfold CgroupV2Manager.reconcileEach
    apply requireRoot_rule
    · exact fun e => .failed tidy.looked
    · intro _
      refine ⟨tidy.looked.forget, fun count same => ?_⟩
      cases same
      exact tidy.looked
  | cons taskId left ih =>
    unfold CgroupV2Manager.reconcileEach
    apply perform_rule
    intro now _
    have tidy := tidy.read now
    apply ensure_rule
    · exact fun _ => .failed tidy
    intro _
    have tidy := tidy.looked
    apply requireRoot_rule
    · exact fun e => .failed tidy
    intro _
    apply ensure_rule
    · exact fun _ => .failed tidy
    intro _
    have again : taskIds = (done ++ [taskId]) ++ left := by simp [all]
    apply findStale_rule
    · intro vacant missing
      apply ih again
      obtain ⟨events, same, _⟩ := id tidy
      rw [same] at vacant missing
      refine tidy.looked.deal (same ▸ m₀.after_after _ _) ?_
      exact ⟨events, .looked, [], rfl, .inr ⟨rfl, vacant, missing⟩⟩
    · exact fun e events calm => .failed (tidy.quiet calm)
    · intro identity
      obtain ⟨⟨count, after, counted⟩, gone⟩ := removeStale_removing fuel deadline identity
        (by simp [all] : taskId ∈ taskIds) tidy.looked.looked
      apply bind_rule
      · intro e t ran
        rw [ran] at after
        exact .failed after
      · intro answer t ran
        rw [ran] at after counted gone
        rcases answer with _ | _
        · exact ⟨after.forget, nofun⟩
        · obtain rfl := counted rfl
          obtain ⟨events, same⟩ := gone rfl
          apply okOr_rule
          · exact fun _ => .failed after
          · intro next added
            obtain rfl := checkedAdd_some added
            apply ih again
            exact after.deal same ⟨events, _, [], rfl, .inl rfl⟩

structure Begun (start : Instant) (m : Machine δ) : Prop where
  punctual : m.outside.Punctual
  passed : start ≤ m.outside.now m.trace

theorem Begun.after {start : Instant} (begun : Begun start m) (events : List SystemEvent) :
    Begun start (m.after events) :=
  ⟨begun.punctual, begun.passed.trans (begun.punctual.after m.trace events)⟩

theorem emptyRound_nearer {identity : FileIdentity} {deadline : Instant} {s t : Machine δ}
    (punctual : s.outside.Punctual)
    (goes : exec (emptyRound directory identity deadline) s = (.ok none, t)) :
    t.outside.Punctual ∧
      (deadline - t.outside.now t.trace + (cleanupPollInterval - 1)) / cleanupPollInterval <
        (deadline - s.outside.now s.trace + (cleanupPollInterval - 1)) / cleanupPollInterval := by
  obtain ⟨events, same, round⟩ := emptyRound_leaves s directory identity deadline
  rw [goes] at same round
  obtain rfl : t = _ := same
  cases round with | busy early found left => ?_
  refine ⟨punctual, ?_⟩
  have woken : s.outside.now s.trace + cleanupPollInterval ≤ (s.after [.read
      (s.outside.now s.trace), .looked, .slept cleanupPollInterval]).outside.now (s.after [.read
        (s.outside.now s.trace), .looked, .slept cleanupPollInterval]).trace := by
    have later := punctual.after s.trace [.read (s.outside.now s.trace), .looked]
    have whole := punctual.slept (s.trace ++ [.read (s.outside.now s.trace), .looked])
      cleanupPollInterval
    rw [List.append_assoc] at whole
    exact (Nat.add_le_add_right later _).trans whole
  refine nap_nearer le_rfl early (le_trans ?_ woken) (by decide)
  exact Nat.add_le_add_left (min_le_left _ _) _

theorem waitUntilEmptyUntil_answers {identity : FileIdentity} {start : Instant} {fuel : Nat}
    (begun : Begun start m) (enough : cleanupTimeout / cleanupPollInterval + 2 ≤ fuel) :
    Answers (exec (waitUntilEmptyUntil fuel directory identity (start + cleanupTimeout)) m) := by
  apply rounds_enough (I := fun s => s.outside.Punctual)
    (fun s t punctual goes => emptyRound_nearer punctual goes) begun.punctual
  exact (naps_within begun.passed (by decide)).trans_le enough

theorem removeStale_answers {identity : FileIdentity} {start : Instant} {fuel : Nat}
    (begun : Begun start m) (enough : cleanupTimeout / cleanupPollInterval + 2 ≤ fuel) :
    Answers (exec (manager.removeStale fuel (start + cleanupTimeout) directory identity) m) := by
  unfold CgroupV2Manager.removeStale terminateTaskCgroup
  apply perform_rule (P := Answers)
  intro target _
  apply propagate_rule (P := Answers) (fun _ _ => nofun)
  intro _ _
  simp only [bind_assoc]
  apply perform_rule (P := Answers)
  intro valid _
  apply propagate_rule (P := Answers) (fun _ _ => nofun)
  intro _ _
  apply perform_rule (P := Answers)
  intro written _
  apply ensure_rule (P := Answers) (fun _ => nofun)
  intro _
  apply bind_rule (P := Answers) (fun _ _ _ => nofun)
  rintro (_ | _) t ran
  · have begun := ((begun.after [.looked]).after [.looked]).after
      [.wrote (killFile directory) "1" written]
    exact absurd (congrArg Prod.fst ran) (waitUntilEmptyUntil_answers begun enough)
  · apply perform_rule (P := Answers)
    intro now _
    apply ensure_rule (P := Answers) (fun _ => nofun)
    intro _
    apply requireRoot_rule (P := Answers) (fun _ => nofun)
    intro _
    apply perform_rule (P := Answers)
    intro target _
    apply propagate_rule (P := Answers) (fun _ _ => nofun)
    intro _ _
    apply perform_rule (P := Answers)
    intro gone _
    exact ensure_rule (P := Answers) (fun _ => nofun) fun _ => nofun

theorem removeStale_further {fuel : Nat} {deadline : Instant} {taskId : TaskId}
    {identity : FileIdentity} {t : Machine δ}
    (ran : exec (manager.removeStale fuel deadline (manager.taskDirectory uuidText taskId)
      identity) m = (.ok (some ()), t)) : ∃ events, t = m.after events := by
  have removing := removeStale_removing fuel deadline identity (List.mem_singleton_self taskId)
    (Tidy.start uuidText manager [taskId] m)
  obtain ⟨events, same⟩ := removing.gone (congrArg Prod.fst ran)
  rw [ran] at same
  exact ⟨_, same⟩

theorem reconcileEach_answers {start : Instant} {fuel : Nat}
    (enough : cleanupTimeout / cleanupPollInterval + 2 ≤ fuel) (left : List TaskId) (removed : Nat)
    (begun : Begun start m) :
    Answers (exec (manager.reconcileEach uuidText fuel (start + cleanupTimeout) left removed)
      m) := by
  induction left generalizing removed m with
  | nil => exact requireRoot_rule (P := Answers) (fun _ => nofun) fun _ => nofun
  | cons taskId left ih =>
    unfold CgroupV2Manager.reconcileEach
    apply perform_rule (P := Answers)
    intro now _
    apply ensure_rule (P := Answers) (fun _ => nofun)
    intro _
    apply requireRoot_rule (P := Answers) (fun _ => nofun)
    intro _
    apply ensure_rule (P := Answers) (fun _ => nofun)
    intro _
    have begun := (begun.after [.read now]).after [.looked]
    apply findStale_rule (P := Answers)
    · exact fun _ _ => ih removed (begun.after _)
    · exact fun _ _ _ => nofun
    · intro identity
      have begun := (begun.after [.looked]).after [.looked]
      apply bind_rule (P := Answers) (fun _ _ _ => nofun)
      rintro (_ | _) t ran
      · exact absurd (congrArg Prod.fst ran) (removeStale_answers begun enough)
      · apply okOr_rule (P := Answers) (fun _ => nofun)
        intro next _
        obtain ⟨events, rfl⟩ := removeStale_further ran
        exact ih next (begun.after events)

theorem reconcileStaleTaskCgroups_out (uuidText : Nat → String) (manager : CgroupV2Manager)
    (fuel : Nat) (taskIds : List TaskId) (m : Machine δ) :
    ReconcileOut uuidText manager taskIds m
      (exec (manager.reconcileStaleTaskCgroups uuidText fuel taskIds) m) := by
  unfold CgroupV2Manager.reconcileStaleTaskCgroups
  have tidy := (Tidy.start uuidText manager taskIds m).looked
  apply requireRoot_rule
  · exact fun e => .failed tidy
  intro _
  apply perform_rule
  intro now _
  exact reconcileEach_out fuel _ taskIds rfl (tidy.read now)

/-- Only the cgroups of the given Tasks are touched. Each of them is killed when it was just seen
not to hold this process, and removed when no process is left in it. A run that succeeds has
dealt with every Task, and the number it returns is that of the removals. With a clock that goes
on there is an answer. -/
theorem reconcile_confined (uuidText : Nat → String) (manager : CgroupV2Manager) (fuel : Nat)
    (taskIds : List TaskId) (m : Machine δ) :
    ReconcileOut uuidText manager taskIds m
        (exec (manager.reconcileStaleTaskCgroups uuidText fuel taskIds) m) ∧
      (m.outside.Punctual → cleanupTimeout / cleanupPollInterval + 2 ≤ fuel →
        (exec (manager.reconcileStaleTaskCgroups uuidText fuel taskIds) m).1 ≠ .ok none) := by
  refine ⟨reconcileStaleTaskCgroups_out uuidText manager fuel taskIds m, ?_⟩
  intro punctual enough
  unfold CgroupV2Manager.reconcileStaleTaskCgroups
  apply requireRoot_rule (P := Answers) (fun _ => nofun)
  intro _
  apply perform_rule (P := Answers)
  rintro now rfl
  exact reconcileEach_answers enough taskIds 0
    (Begun.after (m := m.after [.looked]) ⟨punctual, le_rfl⟩ _)

namespace Sample

def rootFile (mode : UInt32) : FileMetadata := ⟨false, true, false, mode, 1, 20⟩

def cgroupMetadata (path : OsString) : Option FileMetadata :=
  if path = osStr "/sys/fs/cgroup/aios" then some ⟨true, false, false, 0o755, 1, 21⟩
  else if path = osStr "/sys/fs/cgroup/aios/task-0" then some ⟨true, false, false, 0o755, 1, 22⟩
  else if path = osStr "/sys/fs/cgroup/aios/task-1" then none
  else if (osStr "/sys/fs/cgroup/aios/").isPrefixOf path then some (rootFile 0o644)
  else none

def cgroupContents : List (String × String) :=
  [("/sys/fs/cgroup/aios/cgroup.controllers", "cpu io memory\n"),
    ("/sys/fs/cgroup/aios/cgroup.subtree_control", "cpu memory\n"),
    ("/sys/fs/cgroup/aios/cgroup.procs", "\n"), ("/proc/self/cgroup", "0::/aios/daemon\n"),
    ("/sys/fs/cgroup/aios/task-0/cgroup.events", "populated 0\nfrozen 0\n")]

def search {α : Type} (table : List (String × α)) (path : OsString) : Option α :=
  (table.find? (fun entry => osStr entry.1 == path)).map Prod.snd

def cgroupHost : Host Unit where
  metadata := cgroupMetadata
  symlinkMetadata := cgroupMetadata
  canonicalize path := if isAbsolute path then some path else none
  readToString := search cgroupContents
  openDirectory _ := none
  measureTree _ := none

def cgroupMachine : Machine Unit where
  outside :=
    { slow.outside with
      now := ticking (Duration.fromMillis 1)
      host := fun _ => cgroupHost
      write := fun _ _ _ => true
      removeDir := fun _ _ => true }
  trace := []

def cgroupManager : CgroupV2Manager := ⟨osStr "/sys/fs/cgroup/aios", ⟨1, 21⟩, by decide +kernel⟩

/-- One stale cgroup is removed, and the name of another Task is found to be free. -/
theorem reconcile_confined_one :
    let out := exec (cgroupManager.reconcileStaleTaskCgroups (fun id => toString id) 1002
      [⟨0⟩, ⟨1⟩]) cgroupMachine
    out.1 = .ok (some 1) ∧ out.1 ≠ .ok none ∧
      Tidy (fun id => toString id) cgroupManager [⟨0⟩, ⟨1⟩] cgroupMachine [⟨0⟩, ⟨1⟩] 1 out.2 := by
  have answered : (exec (cgroupManager.reconcileStaleTaskCgroups (fun id => toString id) 1002
      [⟨0⟩, ⟨1⟩]) cgroupMachine).1 = .ok (some 1) := by decide +kernel
  obtain ⟨out, answers⟩ := reconcile_confined (fun id => toString id) cgroupManager 1002 [⟨0⟩, ⟨1⟩]
    cgroupMachine
  exact ⟨answered, answers (punctual_of_ticking rfl) (by decide), out.complete 1 answered⟩

end Sample

end reconcile

end AiOs.ProcessAdapter
