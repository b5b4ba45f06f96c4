import AiOs.Process.Cgroup

/-! The directories that are made for one Task: its scratch space, where its Tools write, and its
cgroup. A directory is new when it is handed out, and what cannot be set up is taken away again. -/
namespace AiOs.ProcessAdapter

open Fallible OsString

variable {δ : Type}

/-- `path.parent() == Some(directory)` -/
def isChildOf (path directory : OsString) : Bool :=
  match (components path).getLast? with
  | none | some .rootDir => false
  | some _ => (components path).dropLast == components directory

def canonicalTaskScratchRoot (host : Host δ) (path : OsString) :
    Except ProcessAdapterError OsString := do
  check (isAbsolute path && decide (path.length ≤ maxSandboxPathBytes)) .invalidSandbox
  let metadata ← orError (host.symlinkMetadata path) .invalidSandbox
  check (!metadata.isSymlink && metadata.isDir) .invalidSandbox
  validateOwnerOnlyDirectory host path
  let canonical ← orError (host.canonicalize path) .invalidSandbox
  check (components canonical != [.rootDir]) .invalidSandbox
  pure canonical

def canonicalTaskScratchDirectory (host : Host δ) (path rootDirectory : OsString) :
    Except ProcessAdapterError OsString := do
  validateOwnerOnlyDirectory host path
  let canonical ← orError (host.canonicalize path) .invalidSandbox
  check (isChildOf canonical rootDirectory) .invalidSandbox
  pure canonical

def createOwnerOnlyDirectory (path : OsString) : MachineM δ Unit := do
  let made ← createDir path (some 0o700)
  ensure made .invalidSandbox
  let set ← setMode path 0o700
  if !set then
    let _ ← removeDir path
    throw .invalidSandbox

/-- Trusted owner of the host directory that the scratch directories lie in. -/
structure TaskScratchManager where
  rootDirectory : OsString
  rootIdentity : FileIdentity

/-- A scratch directory, by its canonical path and its identity when it was new. -/
structure TaskScratch where
  taskId : TaskId
  directory : OsString
  directoryIdentity : FileIdentity
  deriving DecidableEq

namespace TaskScratchManager

def new (host : Host δ) (rootDirectory : OsString) :
    Except ProcessAdapterError TaskScratchManager := do
  let rootDirectory ← canonicalTaskScratchRoot host rootDirectory
  let rootIdentity ← readDirectoryIdentity host rootDirectory
  pure ⟨rootDirectory, rootIdentity⟩

variable (uuidText : Nat → String) (manager : TaskScratchManager)

def validateRoot (host : Host δ) : Except ProcessAdapterError Unit := do
  validateOwnerOnlyDirectory host manager.rootDirectory
  let identity ← readDirectoryIdentity host manager.rootDirectory
  check (identity = manager.rootIdentity) .invalidSandbox

def requireRoot : MachineM δ Unit := do
  let valid ← look manager.validateRoot
  propagate valid

/-- `root_directory.join(task_id.to_string())` -/
def scratchDirectory (taskId : TaskId) : OsString :=
  join manager.rootDirectory (osStr (uuidText taskId.uuid))

def adopt (taskId : TaskId) : MachineM δ TaskScratch := do
  manager.requireRoot
  let answer ← look fun host => canonicalTaskScratchDirectory host
    (manager.scratchDirectory uuidText taskId) manager.rootDirectory
  let directory ← propagate answer
  let answer ← look fun host => readDirectoryIdentity host directory
  let directoryIdentity ← propagate answer
  pure ⟨taskId, directory, directoryIdentity⟩

def create (taskId : TaskId) : MachineM δ TaskScratch := do
  manager.requireRoot
  let directory := manager.scratchDirectory uuidText taskId
  ensure (decide (directory.length ≤ maxSandboxPathBytes)) .invalidSandbox
  createOwnerOnlyDirectory directory
  match ← attempt (manager.adopt uuidText taskId) with
  | .ok scratch => pure scratch
  | .error error =>
    let _ ← removeDir directory
    throw error

end TaskScratchManager

/-- What may be done to a directory before it is handed out. -/
def SystemEvent.prepares (directory : OsString) : SystemEvent → Prop
  | .looked => True
  | .setMode path _ _ => path = directory
  | .wrote path _ _ => ∃ name, path = join directory name
  | _ => False

/-- The ways to make a directory: nothing is touched, it was there already, it is taken away again
because it could not be set up, or it is handed out. -/
inductive Provision {α : Type} (m : Machine δ) (directory : OsString) (mode : Option UInt32)
    (Made : List SystemEvent → List SystemEvent → α → Prop) :
    Except ProcessAdapterError α → List SystemEvent → Prop where
  | refused (e : ProcessAdapterError) : Provision m directory mode Made (.error e) [.looked]
  | taken (e : ProcessAdapterError) :
      Provision m directory mode Made (.error e) [.looked, .createdDir directory mode false]
  | undone (e : ProcessAdapterError) (work : List SystemEvent) (gone : Bool)
      (new : m.outside.createDir (m.trace ++ [.looked]) directory = true)
      (prepared : ∀ event ∈ work, event.prepares directory) :
      Provision m directory mode Made (.error e)
        (.looked :: .createdDir directory mode true :: (work ++ [.removedDir directory gone]))
  | made (a : α) (work : List SystemEvent)
      (new : m.outside.createDir (m.trace ++ [.looked]) directory = true)
      (prepared : ∀ event ∈ work, event.prepares directory)
      (holds : Made (m.trace ++ [.looked, .createdDir directory mode true]) work a) :
      Provision m directory mode Made (.ok a) (.looked :: .createdDir directory mode true :: work)

/-- The new scratch directory is owner-only and a child of the root that was configured. `before`
is all that was done until it was made. -/
structure ScratchMade (uuidText : Nat → String) (manager : TaskScratchManager) (outside : Outside δ)
    (taskId : TaskId) (before work : List SystemEvent) (scratch : TaskScratch) : Prop where
  task : scratch.taskId = taskId
  owned : work =
    [.setMode (manager.scratchDirectory uuidText taskId) 0o700 true, .looked, .looked, .looked]
  root : manager.validateRoot (outside.host (before ++ work.take 1)) = .ok ()
  place : canonicalTaskScratchDirectory (outside.host (before ++ work.take 2))
    (manager.scratchDirectory uuidText taskId) manager.rootDirectory = .ok scratch.directory
  identity : readDirectoryIdentity (outside.host (before ++ work.take 3)) scratch.directory =
    .ok scratch.directoryIdentity

def limitWrites (directory : OsString) (budget : CgroupResourceBudget) : List SystemEvent :=
  [.wrote (join directory (osStr "memory.max")) (toString budget.memoryBytes.toNat) true,
    .wrote (join directory (osStr "memory.swap.max")) "0" true,
    .wrote (join directory (osStr "memory.oom.group")) "1" true]

/-- The new cgroup has all its control files, and the limits of the Budget were written. -/
structure CgroupMade (uuidText : Nat → String) (manager : CgroupV2Manager) (outside : Outside δ)
    (taskId : TaskId) (budget : CgroupResourceBudget) (before work : List SystemEvent)
    (cgroup : TaskCgroupState) : Prop where
  task : cgroup.taskId = taskId
  place : cgroup.directory = manager.taskDirectory uuidText taskId
  budgeted : cgroup.budget = budget
  complete : (cgroupFiles.all fun name => ((outside.host before).metadata
    (join cgroup.directory (osStr name))).any FileMetadata.isFile) = true
  limited : work = .looked :: limitWrites cgroup.directory budget ++ [.looked]
  identity : cgroupIdentity (outside.host (before ++ .looked :: limitWrites cgroup.directory budget))
    cgroup.directory = .ok cgroup.directoryIdentity

section provision
variable {uuidText : Nat → String} {m : Machine δ} {taskId : TaskId}

/-- What has been done with a new directory when `adopt` or `configure` comes to its end. -/
structure Prepared {α : Type} (directory : OsString) (Made : List SystemEvent → α → Prop)
    (answer : Except ProcessAdapterError α) (work : List SystemEvent) : Prop where
  within : ∀ event ∈ work, event.prepares directory
  made : ∀ a, answer = .ok a → Made work a

theorem adopt_leaves (manager : TaskScratchManager) (before : List SystemEvent)
    (trace : m.trace = before ++ [.setMode (manager.scratchDirectory uuidText taskId) 0o700 true]) :
    Leaves m (fun answer events => Prepared (manager.scratchDirectory uuidText taskId)
        (ScratchMade uuidText manager m.outside taskId before) answer
          (.setMode (manager.scratchDirectory uuidText taskId) 0o700 true :: events))
      (exec (manager.adopt uuidText taskId) m) := by
  unfold TaskScratchManager.adopt TaskScratchManager.requireRoot
  simp only [bind_assoc]
  apply leaves_seen
  intro valid rooted
  apply propagate_rule (P := Leaves _ _)
  · exact fun e _ => leaves_stop ⟨by simp [SystemEvent.prepares], nofun⟩
  rintro _ rfl
  apply leaves_seen
  intro answer found
  apply propagate_rule (P := Leaves _ _)
  · exact fun e _ => leaves_stop ⟨by simp [SystemEvent.prepares], nofun⟩
  rintro canonical rfl
  apply leaves_seen
  intro answer read
  apply propagate_rule (P := Leaves _ _)
  · exact fun e _ => leaves_stop ⟨by simp [SystemEvent.prepares], nofun⟩
  rintro identity rfl
  refine leaves_stop ⟨by simp [SystemEvent.prepares], ?_⟩
  rintro scratch ⟨⟩
  exact ⟨rfl, rfl, by simpa [trace] using rooted, by simpa [trace, Machine.after] using found,
    by simpa [trace, Machine.after] using read⟩

theorem configure_leaves (manager : CgroupV2Manager) (budget : CgroupResourceBudget) :
    Leaves m (Prepared (manager.taskDirectory uuidText taskId)
        (CgroupMade uuidText manager m.outside taskId budget m.trace))
      (exec (manager.configure uuidText taskId budget) m) := by
  unfold CgroupV2Manager.configure configureTaskCgroup
  simp only [bind_assoc]
  apply leaves_seen
  intro present complete
  apply ensure_rule (P := Leaves _ _)
  · exact fun _ => leaves_stop ⟨by simp [SystemEvent.prepares], nofun⟩
  rintro rfl
  apply leaves_perform
  intro limited
  apply ensure_rule (P := Leaves _ _)
  · exact fun _ => leaves_stop ⟨by simp [SystemEvent.prepares], nofun⟩
  rintro rfl
  apply leaves_perform
  intro unswapped
  apply ensure_rule (P := Leaves _ _)
  · exact fun _ => leaves_stop ⟨by simp [SystemEvent.prepares], nofun⟩
  rintro rfl
  apply leaves_perform
  intro grouped
  apply ensure_rule (P := Leaves _ _)
  · exact fun _ => leaves_stop ⟨by simp [SystemEvent.prepares], nofun⟩
  rintro rfl
  apply leaves_seen
  intro answer read
  apply propagate_rule (P := Leaves _ _)
  · exact fun e _ => leaves_stop ⟨by simp [SystemEvent.prepares], nofun⟩
  rintro identity rfl
  refine leaves_stop ⟨by simp [SystemEvent.prepares], ?_⟩
  rintro cgroup ⟨⟩
  exact ⟨rfl, rfl, rfl, complete, rfl, by simpa [limitWrites, Machine.after] using read⟩

theorem scratch_provision (uuidText : Nat → String) (manager : TaskScratchManager) (taskId : TaskId)
    (m : Machine δ) :
    Leaves m (Provision m (manager.scratchDirectory uuidText taskId) (some 0o700)
        (ScratchMade uuidText manager m.outside taskId))
      (exec (manager.create uuidText taskId) m) := by
  unfold TaskScratchManager.create TaskScratchManager.requireRoot createOwnerOnlyDirectory
  simp only [bind_assoc]
  apply leaves_perform
  intro valid
  apply propagate_rule (P := Leaves _ _)
  · exact fun e _ => leaves_stop (.refused e)
  intro _ _
  apply ensure_rule (P := Leaves _ _)
  · exact fun _ => leaves_stop (.refused _)
  intro _
  apply leaves_seen
  intro made new
  apply ensure_rule (P := Leaves _ _)
  · rintro rfl
    exact leaves_stop (.taken _)
  rintro rfl
  apply leaves_perform
  rintro (_ | _)
  · simp only [Bool.not_false, if_true, bind_assoc]
    apply leaves_perform
    intro gone
    refine leaves_stop (.undone _ [.setMode (manager.scratchDirectory uuidText taskId) 0o700 false]
      gone new ?_)
    simp [SystemEvent.prepares]
  · simp only [Bool.not_true, Bool.false_eq_true, if_false, pure_bind]
    apply leaves_attempt (adopt_leaves manager (m.trace ++ [.looked,
      .createdDir (manager.scratchDirectory uuidText taskId) (some 0o700) true])
        (by simp [Machine.after]))
    rintro (e | scratch) events prepared
    · apply leaves_perform
      intro gone
      exact leaves_stop (.undone e _ gone new prepared.within)
    · apply leaves_stop
      rw [List.append_nil]
      exact .made scratch _ new prepared.within (prepared.made scratch rfl)

theorem cgroup_provision (uuidText : Nat → String) (manager : CgroupV2Manager) (taskId : TaskId)
    (budget : CgroupResourceBudget) (m : Machine δ) :
    Leaves m (Provision m (manager.taskDirectory uuidText taskId) none
        (CgroupMade uuidText manager m.outside taskId budget))
      (exec (manager.create uuidText taskId budget) m) := by
  unfold CgroupV2Manager.create CgroupV2Manager.requireRoot
  simp only [bind_assoc]
  apply leaves_perform
  intro valid
  apply propagate_rule (P := Leaves _ _)
  · exact fun e _ => leaves_stop (.refused e)
  intro _ _
  apply ensure_rule (P := Leaves _ _)
  · exact fun _ => leaves_stop (.refused _)
  intro _
  apply leaves_seen
  intro made new
  apply ensure_rule (P := Leaves _ _)
  · rintro rfl
    exact leaves_stop (.taken _)
  rintro rfl
  apply leaves_attempt (configure_leaves manager budget)
  rintro (e | cgroup) events prepared
  · apply leaves_perform
    intro gone
    exact leaves_stop (.undone e _ gone new prepared.within)
  · apply leaves_stop
    rw [List.append_nil]
    refine .made cgroup _ new prepared.within ?_
    simpa [Machine.after] using prepared.made cgroup rfl

end provision

/-- A new directory is set up as it has to be, or nothing of it is left that could be removed: a
failure before it was made touches nothing, and a failure behind that removes it. -/
theorem directories_provisioned (uuidText : Nat → String) (scratch : TaskScratchManager)
    (cgroups : CgroupV2Manager) (taskId : TaskId) (budget : CgroupResourceBudget) (m : Machine δ) :
    Leaves m (Provision m (scratch.scratchDirectory uuidText taskId) (some 0o700)
        (ScratchMade uuidText scratch m.outside taskId))
      (exec (scratch.create uuidText taskId) m) ∧
    Leaves m (Provision m (cgroups.taskDirectory uuidText taskId) none
        (CgroupMade uuidText cgroups m.outside taskId budget))
      (exec (cgroups.create uuidText taskId budget) m) :=
  ⟨scratch_provision uuidText scratch taskId m,
    cgroup_provision uuidText cgroups taskId budget m⟩

/-- After a cgroup was asked to kill its processes. -/
def TaskCgroupState.killed (cgroup : TaskCgroupState) (m : Machine δ) : Machine δ :=
  m.after [.looked, .wrote (killFile cgroup.directory) "1" true]

/-- The wait of `finish`: its deadline is counted from a reading right after the kill. -/
def TaskCgroupState.WaitedFor (cgroup : TaskCgroupState) (m : Machine δ) :
    Except ProcessAdapterError (Option Unit) → List SystemEvent → Prop :=
  Waited ((cgroup.killed m).after [.read ((cgroup.killed m).outside.now (cgroup.killed m).trace)])
    cgroup.directory cgroup.directoryIdentity
    ((cgroup.killed m).outside.now (cgroup.killed m).trace + cleanupTimeout)

/-- How a cgroup is given back: if it is the one that was made, it is killed, and it is removed
when no process is left in it before the deadline. -/
inductive Finishes (m : Machine δ) (cgroup : TaskCgroupState) :
    Except ProcessAdapterError (Option Unit) → List SystemEvent → Prop where
  | refused (e : ProcessAdapterError)
      (changed : validateTaskCgroupIdentity (m.outside.host m.trace) cgroup.directory
        cgroup.directoryIdentity = .error e) : Finishes m cgroup (.error e) [.looked]
  | unkilled (own : validateTaskCgroupIdentity (m.outside.host m.trace) cgroup.directory
      cgroup.directoryIdentity = .ok ()) :
      Finishes m cgroup (.error .invalidResourceControl)
        [.looked, .wrote (killFile cgroup.directory) "1" false]
  | occupied {answer : Except ProcessAdapterError (Option Unit)} {waiting : List SystemEvent}
      (own : validateTaskCgroupIdentity (m.outside.host m.trace) cgroup.directory
        cgroup.directoryIdentity = .ok ())
      (waited : cgroup.WaitedFor m answer waiting) (unfinished : answer ≠ .ok (some ())) :
      Finishes m cgroup answer (.looked :: .wrote (killFile cgroup.directory) "1" true ::
        .read ((cgroup.killed m).outside.now (cgroup.killed m).trace) :: waiting)
  | emptied {waiting : List SystemEvent} (gone : Bool)
      (own : validateTaskCgroupIdentity (m.outside.host m.trace) cgroup.directory
        cgroup.directoryIdentity = .ok ())
      (waited : cgroup.WaitedFor m (.ok (some ())) waiting) :
      Finishes m cgroup (if gone then .ok (some ()) else .error .invalidResourceControl)
        (.looked :: .wrote (killFile cgroup.directory) "1" true ::
          .read ((cgroup.killed m).outside.now (cgroup.killed m).trace) ::
          (waiting ++ [.removedDir cgroup.directory gone]))

section finish
variable {m : Machine δ}

theorem finish_leaves (m : Machine δ) (cgroup : TaskCgroupState) (fuel : Nat) :
    Leaves m (Finishes m cgroup) (exec (cgroup.finish fuel) m) := by
  unfold TaskCgroupState.finish TaskCgroupState.terminate terminateTaskCgroup
  simp only [bind_assoc]
  apply leaves_seen
  intro valid own
  apply propagate_rule (P := Leaves _ _)
  · rintro e rfl
    exact leaves_stop (.refused e own)
  rintro _ rfl
  apply leaves_perform
  intro written
  apply ensure_rule (P := Leaves _ _)
  · rintro rfl
    exact leaves_stop (.unkilled own)
  rintro rfl
  rw [m.after_after]
  change Leaves (cgroup.killed m) _ (exec _ (cgroup.killed m))
  apply leaves_seen
  rintro now rfl
  apply leaves_bind (waitUntilEmptyUntil_leaves _ fuel cgroup.directory cgroup.directoryIdentity _)
  · intro e waiting waited
    refine .occupied own waited ?_
    rintro ⟨⟩
  rintro (_ | _) waiting waited
  · apply leaves_stop
    rw [List.append_nil]
    refine .occupied own waited ?_
    rintro ⟨⟩
  · apply leaves_perform
    intro gone
    apply ensure_rule (P := Leaves _ _)
    · rintro rfl
      exact leaves_stop (.emptied false own waited)
    · rintro rfl
      exact leaves_stop (.emptied true own waited)

theorem finish_answers (punctual : m.outside.Punctual) (cgroup : TaskCgroupState) {fuel : Nat}
    (enough : cleanupTimeout / cleanupPollInterval + 2 ≤ fuel) :
    Answers (exec (cgroup.finish fuel) m) := by
  unfold TaskCgroupState.finish TaskCgroupState.terminate terminateTaskCgroup
  simp only [bind_assoc]
  apply perform_rule (P := Answers)
  intro valid _
  apply propagate_rule (P := Answers) (fun _ _ => nofun)
  intro _ _
  apply perform_rule (P := Answers)
  intro written _
  apply ensure_rule (P := Answers) (fun _ => nofun)
  intro _
  apply perform_rule (P := Answers)
  rintro now rfl
  apply bind_rule (P := Answers) (fun _ _ _ => nofun)
  rintro (_ | _) t ran
  · have begun : Begun _ ((m.after [.looked]).after [.wrote (killFile cgroup.directory) "1" written]) :=
      ⟨punctual, le_rfl⟩
    exact absurd (congrArg Prod.fst ran) (waitUntilEmptyUntil_answers (begun.after _) enough)
  · apply perform_rule (P := Answers)
    intro gone _
    exact ensure_rule (P := Answers) (fun _ => nofun) fun _ => nofun

end finish

/-- A cgroup is given back in time or with an error. Only the directory that was made for the Task
is killed, and it is removed only when a look before the deadline found no process in it. -/
theorem finish_empties (cgroup : TaskCgroupState) (fuel : Nat) (m : Machine δ) :
    Leaves m (Finishes m cgroup) (exec (cgroup.finish fuel) m) ∧
      (m.outside.Punctual → cleanupTimeout / cleanupPollInterval + 2 ≤ fuel →
        (exec (cgroup.finish fuel) m).1 ≠ .ok none) :=
  ⟨finish_leaves m cgroup fuel, fun punctual enough => finish_answers punctual cgroup enough⟩

namespace Sample

theorem idle_absolute : isAbsolute (osStr "/sys/fs/cgroup/aios/task-0") = true := by decide +kernel

def idleCgroup : TaskCgroupState where
  taskId := ⟨0⟩
  directory := osStr "/sys/fs/cgroup/aios/task-0"
  directoryIdentity := ⟨1, 22⟩
  budget := ⟨1000000, 4096⟩
  absolute := idle_absolute

theorem finish_empties_idle :
    (exec (idleCgroup.finish 1002) cgroupMachine).1 = .ok (some ()) ∧
      Leaves cgroupMachine (Finishes cgroupMachine idleCgroup)
        (exec (idleCgroup.finish 1002) cgroupMachine) ∧
      (exec (idleCgroup.finish 1002) cgroupMachine).1 ≠ .ok none := by
  obtain ⟨leaves, answers⟩ := finish_empties idleCgroup 1002 cgroupMachine
  exact ⟨by decide +kernel, leaves, answers (punctual_of_ticking rfl) (by decide)⟩

end Sample

/-! ### Over a run -/

/-- A directory that was made and set up, and not removed since. -/
def Held {α : Type} (directory : OsString) (mode : Option UInt32)
    (Made : List SystemEvent → List SystemEvent → α → Prop) (a : α) (trace : List SystemEvent) :
    Prop :=
  ∃ before work later, trace = before ++ .createdDir directory mode true :: (work ++ later) ∧
    Made (before ++ [.createdDir directory mode true]) work a ∧
    .removedDir directory true ∉ work ++ later

def Live (directory : OsString) (trace : List SystemEvent) : Prop :=
  ∃ before mode later, trace = before ++ .createdDir directory mode true :: later ∧
    .removedDir directory true ∉ later

/-- No directory is made where one is. -/
def Exclusive (outside : Outside δ) : Prop :=
  ∀ trace directory, Live directory trace → outside.createDir trace directory = false

section held
variable {α : Type} {directory : OsString} {mode : Option UInt32}
  {Made : List SystemEvent → List SystemEvent → α → Prop} {a : α} {trace : List SystemEvent}

theorem Held.live (held : Held directory mode Made a trace) : Live directory trace := by
  obtain ⟨before, work, later, same, _, kept⟩ := held
  exact ⟨before, mode, work ++ later, same, kept⟩

theorem Held.append (held : Held directory mode Made a trace) {events : List SystemEvent}
    (spared : .removedDir directory true ∉ events) :
    Held directory mode Made a (trace ++ events) := by
  obtain ⟨before, work, later, rfl, made, kept⟩ := held
  refine ⟨before, work, later ++ events, by simp, made, ?_⟩
  rw [← List.append_assoc]
  exact fun member => (List.mem_append.mp member).elim kept spared

theorem Live.append (live : Live directory trace) (events : List SystemEvent)
    (spared : .removedDir directory true ∉ events) : Live directory (trace ++ events) := by
  obtain ⟨before, mode, later, rfl, kept⟩ := live
  refine ⟨before, mode, later ++ events, by simp, ?_⟩
  exact fun member => (List.mem_append.mp member).elim kept spared

end held

structure Holdings where
  scratches : List TaskScratch
  cgroups : List TaskCgroupState

section run
variable (uuidText : Nat → String) (scratch : TaskScratchManager) (cgroups : CgroupV2Manager)

def Holdings.directories (holdings : Holdings) : List OsString :=
  holdings.scratches.map (fun s => scratch.scratchDirectory uuidText s.taskId)
    ++ holdings.cgroups.map TaskCgroupState.directory

/-- A process makes directories for its Tasks and gives cgroups back, in any order. In between
anything may be done but to remove a directory that is handed out. -/
inductive Manages : Machine δ → Holdings → Prop where
  | start (m : Machine δ) : Manages m ⟨[], []⟩
  | other {m : Machine δ} {holdings : Holdings} (manages : Manages m holdings)
      (events : List SystemEvent)
      (spared : ∀ directory ∈ holdings.directories uuidText scratch,
        .removedDir directory true ∉ events) :
      Manages (m.after events) holdings
  | createdScratch {m m' : Machine δ} {holdings : Holdings} (manages : Manages m holdings)
      (taskId : TaskId) (made : TaskScratch)
      (ran : exec (scratch.create uuidText taskId) m = (.ok made, m')) :
      Manages m' { holdings with scratches := made :: holdings.scratches }
  | failedScratch {m m' : Machine δ} {holdings : Holdings} (manages : Manages m holdings)
      (taskId : TaskId) (error : ProcessAdapterError)
      (ran : exec (scratch.create uuidText taskId) m = (.error error, m')) : Manages m' holdings
  | createdCgroup {m m' : Machine δ} {holdings : Holdings} (manages : Manages m holdings)
      (taskId : TaskId) (budget : CgroupResourceBudget) (made : TaskCgroupState)
      (ran : exec (cgroups.create uuidText taskId budget) m = (.ok made, m')) :
      Manages m' { holdings with cgroups := made :: holdings.cgroups }
  | failedCgroup {m m' : Machine δ} {holdings : Holdings} (manages : Manages m holdings)
      (taskId : TaskId) (budget : CgroupResourceBudget) (error : ProcessAdapterError)
      (ran : exec (cgroups.create uuidText taskId budget) m = (.error error, m')) :
      Manages m' holdings
  | finished {m m' : Machine δ} {scratches : List TaskScratch}
      {before after : List TaskCgroupState} {cgroup : TaskCgroupState}
      (manages : Manages m ⟨scratches, before ++ cgroup :: after⟩) (fuel : Nat)
      (answer : Except ProcessAdapterError (Option Unit))
      (ran : exec (cgroup.finish fuel) m = (answer, m')) : Manages m' ⟨scratches, before ++ after⟩

/-- Everything that is handed out is there, as it was set up, and no directory is handed out
twice. -/
structure Managed (outside : Outside δ) (trace : List SystemEvent) (holdings : Holdings) : Prop where
  scratches : ∀ s ∈ holdings.scratches, Held (scratch.scratchDirectory uuidText s.taskId)
    (some 0o700) (ScratchMade uuidText scratch outside s.taskId) s trace
  cgroups : ∀ c ∈ holdings.cgroups, Held c.directory none
    (CgroupMade uuidText cgroups outside c.taskId c.budget) c trace
  apart : (holdings.directories uuidText scratch).Nodup

end run

section steps
variable {α : Type} {m : Machine δ} {directory other : OsString} {mode : Option UInt32}
  {Made : List SystemEvent → List SystemEvent → α → Prop}
  {answer : Except ProcessAdapterError α} {events : List SystemEvent}

theorem prepares_spares {work : List SystemEvent}
    (prepared : ∀ event ∈ work, event.prepares directory) : .removedDir other true ∉ work :=
  fun member => prepared _ member

theorem Provision.fresh (exclusive : Exclusive m.outside)
    (new : m.outside.createDir (m.trace ++ [.looked]) directory = true) :
    ¬ Live directory m.trace := by
  intro live
  have still := exclusive _ _ (live.append [.looked] (by simp))
  rw [new] at still
  cases still

/-- Only a directory that was made just before is taken away. -/
theorem Provision.spares (exclusive : Exclusive m.outside)
    (provision : Provision m directory mode Made answer events) (live : Live other m.trace) :
    .removedDir other true ∉ events := by
  cases provision with
  | refused => simp
  | taken => simp
  | made a work new prepared _ => simpa using prepares_spares prepared
  | undone e work gone new prepared =>
    intro member
    simp only [List.mem_cons, reduceCtorEq, false_or] at member
    rcases List.mem_append.mp member with inside | last
    · exact prepares_spares prepared inside
    · obtain ⟨rfl, _⟩ : other = directory ∧ true = gone := by simpa using last
      exact Provision.fresh exclusive new live

theorem Provision.held {a : α} (provision : Provision m directory mode Made (.ok a) events) :
    Held directory mode Made a (m.trace ++ events) := by
  cases provision with
  | made _ work new prepared holds =>
    refine ⟨m.trace ++ [.looked], work, [], by simp, by simpa using holds, ?_⟩
    rw [List.append_nil]
    exact prepares_spares prepared

theorem Provision.new {a : α} (exclusive : Exclusive m.outside)
    (provision : Provision m directory mode Made (.ok a) events) : ¬ Live directory m.trace := by
  cases provision with
  | made _ _ new _ _ => exact Provision.fresh exclusive new

theorem Finishes.spares {cgroup : TaskCgroupState}
    {answer : Except ProcessAdapterError (Option Unit)} (finishes : Finishes m cgroup answer events)
    (elsewhere : other ≠ cgroup.directory) : .removedDir other true ∉ events := by
  have quiet_spares : ∀ {waiting : List SystemEvent}, (∀ event ∈ waiting, event.quiet) →
      .removedDir other true ∉ waiting := fun quiet member => quiet _ member
  cases finishes with
  | refused => simp
  | unkilled => simp
  | occupied _ waited _ => simpa using quiet_spares waited.quiet
  | emptied gone _ waited => simpa [elsewhere] using quiet_spares waited.quiet

end steps

section run
variable {uuidText : Nat → String} {scratch : TaskScratchManager} {cgroups : CgroupV2Manager}
  {m : Machine δ} {holdings : Holdings} {outside : Outside δ} {trace events : List SystemEvent}

theorem Managed.live (managed : Managed uuidText scratch cgroups outside trace holdings)
    {directory : OsString} (member : directory ∈ holdings.directories uuidText scratch) :
    Live directory trace := by
  rcases List.mem_append.mp member with inside | inside
  · obtain ⟨s, held, rfl⟩ := List.mem_map.mp inside
    exact (managed.scratches s held).live
  · obtain ⟨c, held, rfl⟩ := List.mem_map.mp inside
    exact (managed.cgroups c held).live

theorem Managed.append (managed : Managed uuidText scratch cgroups outside trace holdings)
    (spared : ∀ directory ∈ holdings.directories uuidText scratch,
      .removedDir directory true ∉ events) :
    Managed uuidText scratch cgroups outside (trace ++ events) holdings where
  scratches s member := (managed.scratches s member).append
    (spared _ (List.mem_append_left _ (List.mem_map_of_mem member)))
  cgroups c member := (managed.cgroups c member).append
    (spared _ (List.mem_append_right _ (List.mem_map_of_mem member)))
  apart := managed.apart

theorem Managed.provision {α : Type} {directory : OsString} {mode : Option UInt32}
    {Made : List SystemEvent → List SystemEvent → α → Prop}
    {answer : Except ProcessAdapterError α} (exclusive : Exclusive m.outside)
    (managed : Managed uuidText scratch cgroups m.outside m.trace holdings)
    (provision : Provision m directory mode Made answer events) :
    Managed uuidText scratch cgroups m.outside (m.trace ++ events) holdings :=
  managed.append fun _ member => provision.spares exclusive (managed.live member)

/-- By the steps of the run. A new directory was not there, so it is none of those handed out. -/
theorem Manages.managed (exclusive : Exclusive m.outside)
    (manages : Manages uuidText scratch cgroups m holdings) :
    Managed uuidText scratch cgroups m.outside m.trace holdings := by
  induction manages with
  | start m => exact ⟨nofun, nofun, List.nodup_nil⟩
  | other _ events spared ih => exact (ih exclusive).append spared
  | @createdScratch m m' holdings _ taskId made ran ih =>
    obtain ⟨events, same, provision⟩ := scratch_provision uuidText scratch taskId m
    rw [ran] at same provision
    obtain rfl : m' = _ := same
    have exclusive : Exclusive m.outside := exclusive
    have before := ih exclusive
    have after := before.provision exclusive provision
    have held := provision.held
    obtain ⟨_, _, _, _, madeHere, _⟩ := id held
    obtain rfl := madeHere.task
    refine ⟨?_, after.cgroups, ?_⟩
    · intro s member
      rcases List.mem_cons.mp member with rfl | member
      · exact held
      · exact after.scratches s member
    · refine List.nodup_cons.mpr ⟨fun member => ?_, after.apart⟩
      exact provision.new exclusive (before.live member)
  | @failedScratch m m' holdings _ taskId error ran ih =>
    obtain ⟨events, same, provision⟩ := scratch_provision uuidText scratch taskId m
    rw [ran] at same provision
    obtain rfl : m' = _ := same
    have exclusive : Exclusive m.outside := exclusive
    exact (ih exclusive).provision exclusive provision
  | @createdCgroup m m' holdings _ taskId budget made ran ih =>
    obtain ⟨events, same, provision⟩ := cgroup_provision uuidText cgroups taskId budget m
    rw [ran] at same provision
    obtain rfl : m' = _ := same
    have exclusive : Exclusive m.outside := exclusive
    have before := ih exclusive
    have after := before.provision exclusive provision
    have held := provision.held
    obtain ⟨_, _, _, _, madeHere, _⟩ := id held
    obtain rfl := madeHere.task
    obtain rfl := madeHere.budgeted
    rw [← madeHere.place] at held
    have new := provision.new exclusive
    rw [← madeHere.place] at new
    refine ⟨after.scratches, ?_, ?_⟩
    · intro c member
      rcases List.mem_cons.mp member with rfl | member
      · exact held
      · exact after.cgroups c member
    · refine List.nodup_middle.mpr (List.nodup_cons.mpr ⟨fun member => ?_, after.apart⟩)
      exact new (before.live member)
  | @failedCgroup m m' holdings _ taskId budget error ran ih =>
    obtain ⟨events, same, provision⟩ := cgroup_provision uuidText cgroups taskId budget m
    rw [ran] at same provision
    obtain rfl : m' = _ := same
    have exclusive : Exclusive m.outside := exclusive
    exact (ih exclusive).provision exclusive provision
  | @finished m m' scratches before after cgroup _ fuel answer ran ih =>
    obtain ⟨events, same, finishes⟩ := finish_leaves m cgroup fuel
    rw [ran] at same finishes
    obtain rfl : m' = _ := same
    have managed := ih exclusive
    have split : (Holdings.mk scratches (before ++ cgroup :: after)).directories uuidText scratch =
        (scratches.map (fun s => scratch.scratchDirectory uuidText s.taskId)
          ++ before.map TaskCgroupState.directory) ++
            cgroup.directory :: after.map TaskCgroupState.directory := by
      simp [Holdings.directories]
    have rest : (Holdings.mk scratches (before ++ after)).directories uuidText scratch =
        (scratches.map (fun s => scratch.scratchDirectory uuidText s.taskId)
          ++ before.map TaskCgroupState.directory) ++ after.map TaskCgroupState.directory := by
      simp [Holdings.directories]
    have apart := managed.apart
    rw [split, List.nodup_middle, List.nodup_cons, ← rest] at apart
    have fewer : Managed uuidText scratch cgroups m.outside m.trace
        ⟨scratches, before ++ after⟩ := by
      refine ⟨managed.scratches, fun c member => managed.cgroups c ?_, apart.2⟩
      exact (List.mem_append.mp member).elim (List.mem_append_left _)
        (fun later => List.mem_append_right _ (List.mem_cons_of_mem _ later))
    refine fewer.append fun directory member => finishes.spares ?_
    rintro rfl
    exact apart.1 member

/-- No Task has two scratch directories or two cgroups at a time, no two Tasks share one, and each
that is handed out is still the one that was set up for its Task and its Budget. -/
theorem holdings_apart (exclusive : Exclusive m.outside)
    (manages : Manages uuidText scratch cgroups m holdings) :
    Managed uuidText scratch cgroups m.outside m.trace holdings ∧
      (holdings.scratches.map TaskScratch.taskId).Nodup ∧
      (holdings.cgroups.map TaskCgroupState.taskId).Nodup := by
  have managed := manages.managed exclusive
  obtain ⟨scratches, others, _⟩ := List.nodup_append.mp managed.apart
  refine ⟨managed, ?_, ?_⟩
  · rw [← Function.comp_def (scratch.scratchDirectory uuidText), ← List.map_map] at scratches
    exact scratches.of_map
  · have named : holdings.cgroups.map TaskCgroupState.directory =
        (holdings.cgroups.map TaskCgroupState.taskId).map (cgroups.taskDirectory uuidText) := by
      rw [List.map_map]
      apply List.map_congr_left
      intro c member
      obtain ⟨_, _, _, _, made, _⟩ := managed.cgroups c member
      exact made.place
    rw [named] at others
    exact others.of_map

end run

namespace Sample

def makesDirectory : SystemEvent → Bool
  | .createdDir _ _ true => true
  | _ => false

def scratchFiles : List (String × FileMetadata) :=
  [("/srv/scratch", ⟨true, false, false, 0o700, 1, 30⟩),
    ("/srv/scratch/0", ⟨true, false, false, 0o700, 1, 31⟩)]

def scratchMachine : Machine Unit where
  outside :=
    { slow.outside with
      host := fun _ => { cgroupHost with
        metadata := search scratchFiles
        symlinkMetadata := search scratchFiles }
      createDir := fun trace _ => !trace.any makesDirectory
      setMode := fun _ _ _ => true }
  trace := []

theorem scratchMachine_exclusive : Exclusive scratchMachine.outside := by
  rintro _ directory ⟨before, mode, later, rfl, _⟩
  simp [scratchMachine, makesDirectory]

def scratchManager : TaskScratchManager := ⟨osStr "/srv/scratch", ⟨1, 30⟩⟩

def firstScratch : Except ProcessAdapterError TaskScratch × Machine Unit :=
  exec (scratchManager.create (fun _ => "0") ⟨0⟩) scratchMachine

def secondScratch : Except ProcessAdapterError TaskScratch × Machine Unit :=
  exec (scratchManager.create (fun _ => "0") ⟨0⟩) firstScratch.2

theorem holdings_apart_one :
    Managed (fun _ => "0") scratchManager cgroupManager secondScratch.2.outside
      secondScratch.2.trace ⟨[⟨⟨0⟩, osStr "/srv/scratch/0", ⟨1, 31⟩⟩], []⟩ := by
  have first : firstScratch.1 = .ok ⟨⟨0⟩, osStr "/srv/scratch/0", ⟨1, 31⟩⟩ := by decide +kernel
  have second : secondScratch.1 = .error .invalidSandbox := by decide +kernel
  have kept : secondScratch.2.outside = scratchMachine.outside := rfl
  refine (holdings_apart (kept ▸ scratchMachine_exclusive)
    ((Manages.start scratchMachine |>.createdScratch ⟨0⟩ _ (Prod.ext first rfl)).failedScratch ⟨0⟩ _
      (Prod.ext second rfl))).1

end Sample

end AiOs.ProcessAdapter
