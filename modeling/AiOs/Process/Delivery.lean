import AiOs.Process.Handover

/-! What reaches the sandbox: the arguments, the environment and the mounts, for every handler
the builders accept and every run that reaches its spawn. -/
namespace AiOs.ProcessAdapter

open OsString

variable {δ : Type}

/-- A run that starts Bubblewrap, directly or through the launcher, and the vector it starts
with. The part in front of the first delimiter is the plan's, the part behind it the Tool's. -/
structure Reaches (handler : ProcessToolHandler δ) (sandbox : Bubblewrap δ)
    (seccomp : SeccompFilterFile δ) (dynamicArguments : List String) (launch : Launch δ) :
    Prop where
  delimiter : ∀ received, osStr "--" ∉ finalOptions handler sandbox seccomp received
  direct : sandbox.cgroupLaunch = none → launch.command.program = sandbox.bubblewrap ∧
    launch.command.arguments = finalOptions handler sandbox seccomp []
      ++ toolArguments handler sandbox dynamicArguments
  launcher : ∀ cgroup, sandbox.cgroupLaunch = some cgroup →
    launch.command.program = cgroup.launcher ∧
      ∃ plan, plan = meantPlan cgroup sandbox
          (sandboxArguments handler sandbox (sandbox.seccompFd seccomp) dynamicArguments) ∧
        readArguments (launch.command.program :: launch.command.arguments) = some plan ∧
        ∀ site received, Ready site plan received →
          runLauncher site (launch.command.program :: launch.command.arguments) =
            some (execCleared sandbox.bubblewrap (finalOptions handler sandbox seccomp received
              ++ toolArguments handler sandbox dynamicArguments))

theorem Launches.reaches {builder : BubblewrapProcessToolBuilder} {host : Host δ}
    {handler : ProcessToolHandler δ} {sandbox : Bubblewrap δ}
    (sandboxes : Sandboxes builder host handler sandbox) {dynamicArguments : List String}
    (accepted : validateArguments handler.fixedArguments dynamicArguments = .ok ())
    {seccomp : SeccompFilterFile δ} {authorized : Bool} {launch : Launch δ}
    (launches : Launches handler sandbox dynamicArguments seccomp authorized launch) :
    Reaches handler sandbox seccomp dynamicArguments launch := by
  obtain ⟨short, mountable⟩ := buildMounts_ok sandboxes.mounts
  refine ⟨?_, ?_, ?_⟩
  · exact fun received => delimiter_not_mem_finalOptions sandboxes.root sandboxes.scratch mountable
      seccomp received
  · intro absent
    have empty := launches.bound absent
    refine ⟨?_, ?_⟩
    · rw [launches.program, handover, absent]
    · rw [launches.arguments, handover, absent]
      simp [finalOptions, sandboxArguments, toolArguments, Bubblewrap.seccompFd, empty]
  · intro cgroup present
    have program : launch.command.program = cgroup.launcher := by
      rw [launches.program, handover, present]
    have vector : launch.command.arguments = launcherArguments cgroup.taskCgroup sandbox.bubblewrap
        sandbox.filesystemCapabilityMounts ++ sandboxArguments handler sandbox
          (sandbox.seccompFd seccomp) dynamicArguments := by
      rw [launches.arguments, handover, present]
    -- The limit leaves room: 89 arguments without mounts, at most 473 with 128 of them.
    have room : (sandboxArguments handler sandbox (sandbox.seccompFd seccomp)
        dynamicArguments).length + (sandbox.filesystemCapabilityMounts.length * 3 + 2) ≤
        maxLaunchArguments := by
      have length := length_sandboxArguments accepted sandbox (sandbox.seccompFd seccomp)
      have fd : (sandbox.seccompFd seccomp).toList.length ≤ 1 := by
        cases sandbox.seccompFd seccomp <;> simp
      simp only [maxLaunchArguments, maxArguments, maxFilesystemCapabilityMounts] at length short ⊢
      omega
    refine ⟨program, _, rfl, ?_, ?_⟩
    · rw [vector]
      exact readArguments_meant cgroup _ short mountable room
    · intro site received ready
      rw [vector, runLauncher, readArguments_meant cgroup _ short mountable room, Option.bind_some]
      exact runPlan_meant sandboxes.root sandboxes.scratch cgroup seccomp dynamicArguments site
        received ready

theorem prepare_sandboxed {builder : BubblewrapProcessToolBuilder} {host : Host δ}
    (lawful : host.Lawful) {handler : ProcessToolHandler δ}
    (built : builder.build host = .ok handler) {site : Site δ} {dynamicArguments : List String}
    {timeout : Duration} {authorized : Bool} {launch : Launch δ}
    (prepared : handler.prepare site dynamicArguments timeout authorized = .ok launch) :
    ∃ sandbox seccomp, Sandboxes builder host handler sandbox ∧
      site.seccompFilter = .ok seccomp ∧
      validateArguments handler.fixedArguments dynamicArguments = .ok () ∧
      Launches handler sandbox dynamicArguments seccomp authorized launch := by
  obtain ⟨sandbox, sandboxes⟩ := build_sandboxes lawful built
  obtain ⟨accepted, ⟨direct, _⟩ | ⟨sandbox', launcher, found⟩⟩ := prepare_ok prepared
  · cases sandboxes.launcher.symm.trans direct
  obtain rfl : sandbox = sandbox' :=
    ProcessLauncher.bubblewrap.inj (sandboxes.launcher.symm.trans launcher)
  obtain ⟨seccomp, created, launches⟩ := sandboxLaunch_ok found
  exact ⟨sandbox, seccomp, sandboxes, created, accepted, launches⟩

/-- The launcher decodes exactly what the handler encodes, in both of its modes. -/
theorem launcher_follows_handler (builder : BubblewrapProcessToolBuilder) (host : Host δ)
    (lawful : host.Lawful) (handler : ProcessToolHandler δ)
    (built : builder.build host = .ok handler) (site : Site δ) (dynamicArguments : List String)
    (timeout : Duration) (authorized : Bool) (launch : Launch δ)
    (prepared : handler.prepare site dynamicArguments timeout authorized = .ok launch) :
    ∃ sandbox seccomp, handler.launcher = .bubblewrap sandbox ∧
      site.seccompFilter = .ok seccomp ∧
      Reaches handler sandbox seccomp dynamicArguments launch := by
  obtain ⟨sandbox, seccomp, sandboxes, created, accepted, launches⟩ :=
    prepare_sandboxed lawful built prepared
  exact ⟨sandbox, seccomp, sandboxes.launcher, created, launches.reaches sandboxes accepted⟩

namespace Sample

def directory (mode : UInt32) (inode : UInt64) : FileMetadata :=
  ⟨true, false, false, mode, 1, inode⟩

def file (mode : UInt32) (inode : UInt64) : FileMetadata := ⟨false, true, false, mode, 1, inode⟩

def files : List (String × FileMetadata) :=
  [("/usr/bin/bwrap", file 0o755 2), ("/usr/lib/aios-cgroup-launch", file 0o755 3),
    ("/srv/root", directory 0o555 4), ("/srv/root/proc", directory 0o555 5),
    ("/srv/root/dev", directory 0o555 6), ("/srv/root/tmp", directory 0o555 7),
    ("/srv/root/workspace", directory 0o555 8), ("/srv/root/bin/tool", file 0o555 9),
    ("/srv/scratch/0", directory 0o700 10), ("/srv/data", directory 0o755 11),
    ("/sys/fs/cgroup/aios/task-0", directory 0o755 12)]
    ++ cgroupFiles.map (fun name => ("/sys/fs/cgroup/aios/task-0/" ++ name, file 0o644 13))

def contents : List (String × String) :=
  [("memory.max", "1024\n"), ("memory.swap.max", "0\n"), ("memory.oom.group", "1\n"),
    ("cpu.stat", "usage_usec 5\nuser_usec 4\n"), ("memory.events", "max 0\noom_kill 0\n")].map
    (fun (name, text) => ("/sys/fs/cgroup/aios/task-0/" ++ name, text))

def lookup {α : Type} (table : List (String × α)) (path : OsString) : Option α :=
  (table.find? (fun entry => osStr entry.1 == path)).map Prod.snd

def host : Host String where
  metadata := lookup files
  symlinkMetadata := lookup files
  canonicalize path := if isAbsolute path && (lookup files path).isSome then some path else none
  readToString := lookup contents
  openDirectory path := if path = osStr "/srv/data" then
      some (fun relative => if relative = [.normal (osStr "opt")] then some "opt" else none)
    else none
  measureTree _ := none

theorem host_lawful : host.Lawful := by
  intro path canonical found
  unfold host at found
  dsimp only at found
  split at found
  · rename_i known
    cases Option.some.inj found
    exact (Bool.and_eq_true_iff.mp known).1
  · cases found

def taskCgroup : TaskCgroupState where
  taskId := ⟨0⟩
  directory := osStr "/sys/fs/cgroup/aios/task-0"
  directoryIdentity := ⟨1, 12⟩
  budget := ⟨1000000, 1024⟩
  absolute := by decide

def builder (capabilities : List FileCapability) (environment : List (String × String)) :
    BubblewrapProcessToolBuilder where
  bubblewrap := osStr "/usr/bin/bwrap"
  rootFilesystem := osStr "/srv/root"
  sandboxExecutable := osStr "/bin/tool"
  scratchDirectory := osStr "/srv/scratch/0"
  taskScratchIdentity := some ⟨1, 10⟩
  taskId := some ⟨0⟩
  verifiedRootState := none
  taskCgroupState := some taskCgroup
  cgroupLauncher := some (osStr "/usr/lib/aios-cgroup-launch")
  filesystemCapabilitySourceRoot :=
    if capabilities.isEmpty then none else some (osStr "/srv/data")
  filesystemCapabilities := capabilities
  fixedArguments := ["--", "fixed"]
  environment := environment
  timeout := Duration.fromSecs 30
  argumentPolicy := fun _ => true

def site : Site String := ⟨host, .ok ⟨"policy", 7⟩, .ok (), 0⟩

def launcherSite : LauncherSite String :=
  ⟨host, fun _ => true, true, some [⟨5, "policy"⟩, ⟨6, "opt"⟩], true⟩

def attempt (capabilities : List FileCapability) (environment : List (String × String))
    (dynamicArguments : List String) : Except ProcessAdapterError (Launch String) := do
  let handler ← (builder capabilities environment).build host
  handler.prepare site dynamicArguments (Duration.fromSecs 1) true

end Sample

open AiOs.ProcessAdapter.Sample in
/-- A run with one mount, and a launcher in broker mode that is ready for it. -/
theorem launcher_follows_mount : ∃ handler launch sandbox seccomp plan received,
    (builder [⟨"/opt", .read⟩] []).build host = .ok handler ∧
      handler.prepare site ["--ro-bind", "--"] (Duration.fromSecs 1) true = .ok launch ∧
      Reaches handler sandbox seccomp ["--ro-bind", "--"] launch ∧
      readArguments (launch.command.program :: launch.command.arguments) = some plan ∧
      plan.mode = .descriptorBroker ∧ Ready launcherSite plan received := by
  have accepted : (attempt [⟨"/opt", .read⟩] [] ["--ro-bind", "--"]).isOk = true := by
    decide +kernel
  have meant : (attempt [⟨"/opt", .read⟩] [] ["--ro-bind", "--"]).toOption.any (fun launch =>
      (readArguments (launch.command.program :: launch.command.arguments)).any fun plan =>
        openCgroupProcs launcherSite plan && validateExecutable launcherSite plan.executable &&
          plan.mode == .descriptorBroker && plan.mounts.length == 1) = true := by
    decide +kernel
  cases ran : attempt [⟨"/opt", .read⟩] [] ["--ro-bind", "--"] with
  | error e => simp [ran, Except.isOk, Except.toBool] at accepted
  | ok launch =>
    rw [ran] at meant
    simp only [attempt, bind_ok] at ran
    obtain ⟨handler, built, prepared⟩ := ran
    obtain ⟨sandbox, seccomp, _, _, reaches⟩ := launcher_follows_handler _ host host_lawful handler
      built site _ _ true launch prepared
    obtain ⟨_, same, checks⟩ := (Option.any_eq_true _ _).mp meant
    cases Option.some.inj same
    obtain ⟨plan, read, checks⟩ := (Option.any_eq_true _ _).mp checks
    simp only [Bool.and_eq_true, beq_iff_eq] at checks
    obtain ⟨⟨⟨opened, executable⟩, mode⟩, one⟩ := checks
    refine ⟨handler, launch, sandbox, seccomp, plan, [⟨5, "policy"⟩, ⟨6, "opt"⟩], built, prepared,
      reaches, read, mode, opened, executable, rfl, fun _ => ⟨rfl, ?_, by simp, rfl⟩⟩
    rw [one]
    rfl

/-- Either builder made the handler from the given environment entries. -/
inductive Configures (host : Host δ) : List (String × String) → ProcessToolHandler δ → Prop
  | direct (builder : ProcessToolBuilder) (handler : ProcessToolHandler δ)
      (built : builder.build host = .ok handler) : Configures host builder.environment handler
  | sandboxed (builder : BubblewrapProcessToolBuilder) (handler : ProcessToolHandler δ)
      (built : builder.build host = .ok handler) : Configures host builder.environment handler

/-- The process that finally runs the Tool: the spawned one, or the one the launcher becomes. -/
def ProcessToolHandler.image (handler : ProcessToolHandler δ) (site : LauncherSite δ)
    (command : Command) : Option Image :=
  if handler.taskCgroup.isSome then runLauncher site (command.program :: command.arguments)
  else some ⟨command.program, command.arguments, command.environment, command.stdin⟩

theorem insertEntries_ok {entries : List (String × String)} {start environment : Environment}
    {totalBytes : Nat} (accepted : insertEntries start totalBytes entries = .ok environment)
    (name value : String) :
    environment[name]? = some value ↔ start[name]? = some value ∨ (name, value) ∈ entries := by
  induction entries generalizing start totalBytes with
  | nil =>
    cases Except.ok.inj accepted
    simp
  | cons entry rest ih =>
    obtain ⟨key, setting⟩ := entry
    unfold insertEntries at accepted
    split at accepted
    · cases accepted
    · dsimp only at accepted
      split at accepted
      · cases accepted
      · rename_i fresh
        obtain ⟨_, absent⟩ := not_or.mp fresh
        have new : start[key]? = none := by simpa using absent
        rw [ih accepted, OrdMap.get_insert]
        by_cases same : key = name
        · subst same
          simp [new, eq_comm]
        · simp [same, Ne.symm same]

theorem validateEnvironment_ok {entries : List (String × String)} {environment : Environment}
    (accepted : validateEnvironment entries = .ok environment) (name value : String) :
    environment[name]? = some value ↔ (name, value) ∈ entries := by
  unfold validateEnvironment at accepted
  split at accepted
  · cases accepted
  · simpa using insertEntries_ok accepted name value

theorem runLauncher_environment {site : LauncherSite δ} {arguments : List OsString} {image : Image}
    (started : runLauncher site arguments = some image) : image.environment = ∅ := by
  simp only [runLauncher, Option.bind_eq_some_iff] at started
  obtain ⟨plan, _, run⟩ := started
  unfold runPlan at run
  split at run
  · unfold runLegacy at run
    split at run
    · cases Option.some.inj run
      rfl
    · cases run
  · unfold runDescriptorBroker at run
    split at run
    · simp only [Option.bind_eq_bind, Option.bind_eq_some_iff] at run
      obtain ⟨descriptors, _, run⟩ := run
      split at run
      · cases run
      split at run
      · cases run
      split at run
      · cases run
      simp only [Option.bind_eq_some_iff] at run
      obtain ⟨delimiter, _, run⟩ := run
      split at run
      · cases run
      · cases Option.some.inj run
        rfl
    · cases run

/-- The configured entries reach the Tool exactly when there are none, or no launcher stands
between the handler and the Tool. -/
theorem environment_delivered_iff (host : Host δ) (entries : List (String × String))
    (handler : ProcessToolHandler δ) (configured : Configures host entries handler) (site : Site δ)
    (dynamicArguments : List String) (timeout : Duration) (authorized : Bool) (launch : Launch δ)
    (prepared : handler.prepare site dynamicArguments timeout authorized = .ok launch)
    (launcherSite : LauncherSite δ) (image : Image)
    (started : handler.image launcherSite launch.command = some image) :
    (∀ name value, image.environment[name]? = some value ↔ (name, value) ∈ entries) ↔
      entries = [] ∨ handler.taskCgroup = none := by
  have validated : validateEnvironment entries = .ok handler.environment := by
    cases configured with
    | direct builder handler built => exact (buildDirect_direct built).2
    | sandboxed builder handler built =>
      obtain ⟨_, _, _, _, environment, _⟩ := build_ok built
      exact environment
  have own : launch.command.environment = handler.environment := by
    obtain ⟨_, ⟨_, rfl⟩ | ⟨sandbox, _, found⟩⟩ := prepare_ok prepared
    · rfl
    · obtain ⟨seccomp, _, launches⟩ := sandboxLaunch_ok found
      exact launches.environment
  unfold ProcessToolHandler.image at started
  cases cgroup : handler.taskCgroup with
  | none =>
    rw [cgroup] at started
    cases Option.some.inj started
    simp only [own, or_true, iff_true]
    exact validateEnvironment_ok validated
  | some taskCgroup =>
    rw [cgroup] at started
    have cleared := runLauncher_environment started
    simp only [cleared, reduceCtorEq, or_false]
    constructor
    · intro delivered
      rw [List.eq_nil_iff_forall_not_mem]
      rintro ⟨name, value⟩ member
      have found := (delivered name value).mpr member
      simp at found
    · rintro rfl
      simp

namespace Sample

def directBuilder (environment : List (String × String)) : ProcessToolBuilder where
  executable := osStr "/srv/root/bin/tool"
  workingDirectory := osStr "/srv/scratch/0"
  fixedArguments := []
  environment := environment
  timeout := Duration.fromSecs 30
  argumentPolicy := fun _ => true

def follow (build : Except ProcessAdapterError (ProcessToolHandler String)) : Option Image := do
  let handler ← build.toOption
  let launch ← (handler.prepare site [] (Duration.fromSecs 1) true).toOption
  handler.image launcherSite launch.command

theorem follow_some {build : Except ProcessAdapterError (ProcessToolHandler String)} {image : Image}
    (followed : follow build = some image) : ∃ handler launch, build = .ok handler ∧
      handler.prepare site [] (Duration.fromSecs 1) true = .ok launch ∧
      handler.image launcherSite launch.command = some image := by
  simp only [follow, Option.bind_eq_bind, Option.bind_eq_some_iff] at followed
  obtain ⟨handler, built, launch, prepared, started⟩ := followed
  refine ⟨handler, launch, ?_, ?_, started⟩
  · cases build <;> simp_all [Except.toOption]
  · cases ran : handler.prepare site [] (Duration.fromSecs 1) true <;>
      simp_all [Except.toOption]

end Sample

open AiOs.ProcessAdapter.Sample in
theorem environment_delivered_direct : ∃ image : Image,
    follow ((directBuilder [("LANG", "C")]).build host) = some image ∧
      ∀ name value, image.environment[name]? = some value ↔ (name, value) ∈ [("LANG", "C")] := by
  have reached : (follow ((directBuilder [("LANG", "C")]).build host)).isSome = true := by
    decide +kernel
  obtain ⟨image, followed⟩ := Option.isSome_iff_exists.mp reached
  obtain ⟨handler, launch, built, prepared, started⟩ := follow_some followed
  have direct : handler.taskCgroup = none := by
    simp [ProcessToolHandler.taskCgroup, (buildDirect_direct built).1]
  exact ⟨image, followed, (environment_delivered_iff host _ handler (.direct _ handler built) site
    [] _ true launch prepared launcherSite image started).mpr (.inr direct)⟩

open AiOs.ProcessAdapter.Sample in
/-- Through the cgroup launcher the configured entry is lost. -/
theorem environment_lost_by_launcher : ∃ image : Image,
    follow ((builder [] [("LANG", "C")]).build host) = some image ∧
      ¬ ∀ name value, image.environment[name]? = some value ↔ (name, value) ∈ [("LANG", "C")] := by
  have reached : (follow ((builder [] [("LANG", "C")]).build host)).any
      (fun image => image.environment["LANG"]?.isNone) = true := by decide +kernel
  cases followed : follow ((builder [] [("LANG", "C")]).build host) with
  | none => simp [followed] at reached
  | some image =>
    refine ⟨image, rfl, fun delivered => ?_⟩
    have kept := (delivered "LANG" "C").mpr (by simp)
    simp [followed, kept] at reached

end AiOs.ProcessAdapter
