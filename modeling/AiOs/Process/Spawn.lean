import AiOs.Process.Handler

/-! One run of a handler up to its spawn: the checks in their order, the argument vector and the
environment of the child, and the descriptors that go to it over the private channel. -/
namespace AiOs.ProcessAdapter

open OsString

/-- The sealed policy file, an opened object with its number in this process. -/
structure SeccompFilterFile (δ : Type) where
  descriptor : δ
  rawFd : Nat
  deriving DecidableEq, Repr

structure Site (δ : Type) where
  host : Host δ
  seccompFilter : Except ProcessAdapterError (SeccompFilterFile δ)
  descriptorChannel : Except ProcessAdapterError Unit
  now : Instant

inductive Stdin where
  | null
  | channel
  deriving DecidableEq, Repr

structure Command where
  program : OsString
  arguments : List OsString
  environment : Environment
  currentDir : OsString
  stdin : Stdin

structure Launch (δ : Type) where
  command : Command
  descriptors : Option (List δ)

variable {δ : Type}

def bubblewrapOptions (rootFilesystem scratchDirectory : OsString) (seccompFd : Option Nat) :
    List OsString :=
  ["--unshare-all", "--unshare-user", "--disable-userns", "--die-with-parent",
      "--new-session"].map osStr
    ++ (match seccompFd with
      | some fd => [osStr "--seccomp", osStr (toString fd)]
      | none => [])
    ++ [osStr "--cap-drop", osStr "ALL", osStr "--ro-bind", rootFilesystem, osStr "/",
      osStr "--proc", osStr "/proc", osStr "--dev", osStr "/dev", osStr "--tmpfs", osStr "/tmp",
      osStr "--bind", scratchDirectory, osStr "/workspace", osStr "--chdir", osStr "/workspace"]

def bubblewrapArguments (rootFilesystem scratchDirectory sandboxExecutable : OsString)
    (seccompFd : Option Nat) : List OsString :=
  bubblewrapOptions rootFilesystem scratchDirectory seccompFd ++ [osStr "--", sandboxExecutable]

/-- `DescriptorSender::send`: the policy first, then the mounts in their order. -/
def sentDescriptors (seccomp : SeccompFilterFile δ) (mounts : List (FilesystemCapabilityMount δ)) :
    List δ :=
  seccomp.descriptor :: mounts.map FilesystemCapabilityMount.descriptor

/-- The arguments the cgroup launcher reads itself, in front of Bubblewrap's. -/
def launcherArguments (taskCgroup : TaskCgroupState) (bubblewrap : OsString)
    (mounts : List (FilesystemCapabilityMount δ)) : List OsString :=
  let (processFile, device, inode) := taskCgroup.launchIdentity
  let common := [processFile, osStr (toString device.toNat), osStr (toString inode.toNat),
    bubblewrap]
  if mounts.isEmpty then common
  else osStr "--descriptor-broker" :: common ++ osStr (toString mounts.length)
    :: mounts.flatMap (fun mount => [osStr "read", osStr mount.capability.path])

/-- With the broker, the launcher adds the policy's number itself. -/
def Bubblewrap.seccompFd (sandbox : Bubblewrap δ) (seccomp : SeccompFilterFile δ) : Option Nat :=
  if sandbox.filesystemCapabilityMounts.isEmpty then some seccomp.rawFd else none

namespace ProcessToolHandler
variable (handler : ProcessToolHandler δ)

/-- Program, first arguments and descriptors of the sandboxed child. -/
def sandboxCommand (sandbox : Bubblewrap δ) (seccomp : SeccompFilterFile δ) (site : Site δ) :
    Except ProcessAdapterError (OsString × List OsString × Option (List δ)) := do
  let identity ← readExecutableIdentity site.host sandbox.bubblewrap
  check (identity = sandbox.bubblewrapIdentity) .executableChanged
  checkSome sandbox.verifiedRootState
    (validateVerifiedRootFilesystem site.host sandbox.rootFilesystem)
  checkSome sandbox.cgroupLaunch fun launch => do
    let identity ← readExecutableIdentity site.host launch.launcher
    check (identity = launch.launcherIdentity) .executableChanged
  let mounts := sandbox.filesystemCapabilityMounts
  match sandbox.cgroupLaunch with
  | some launch =>
    let arguments := launcherArguments launch.taskCgroup sandbox.bubblewrap mounts
    if mounts.isEmpty then pure (launch.launcher, arguments, none)
    else do
      site.descriptorChannel
      pure (launch.launcher, arguments, some (sentDescriptors seccomp mounts))
  | none => do
    check mounts.isEmpty .invalidResourceControl
    pure (sandbox.bubblewrap, [], none)

def sandboxLaunch (sandbox : Bubblewrap δ) (site : Site δ) (dynamicArguments : List String)
    (authorized : Bool) : Except ProcessAdapterError (Launch δ) := do
  check (sandbox.filesystemCapabilityMounts.isEmpty || authorized) .invalidSandbox
  let seccomp ← site.seccompFilter
  let (program, arguments, descriptors) ← sandboxCommand sandbox seccomp site
  pure
    { command :=
        { program
          arguments := arguments
            ++ bubblewrapArguments sandbox.rootFilesystem handler.workingDirectory
              sandbox.sandboxExecutable (sandbox.seccompFd seccomp)
            ++ (handler.fixedArguments ++ dynamicArguments).map osStr
          environment := handler.environment
          currentDir := osStr "/"
          stdin := if descriptors.isSome then .channel else .null }
      descriptors }

def directLaunch (dynamicArguments : List String) : Launch δ where
  command :=
    { program := handler.executable
      arguments := (handler.fixedArguments ++ dynamicArguments).map osStr
      environment := handler.environment
      currentDir := handler.workingDirectory
      stdin := .null }
  descriptors := none

def taskCgroup : Option TaskCgroupState :=
  match handler.launcher with
  | .direct => none
  | .bubblewrap sandbox => sandbox.cgroupLaunch.map CgroupLaunch.taskCgroup

def launchFor (site : Site δ) (dynamicArguments : List String) (authorized : Bool) :
    Except ProcessAdapterError (Launch δ) :=
  match handler.launcher with
  | .direct => .ok (handler.directLaunch dynamicArguments)
  | .bubblewrap sandbox => handler.sandboxLaunch sandbox site dynamicArguments authorized

/-- `run_checked_with_timeout`, up to the spawn. -/
def prepare (site : Site δ) (dynamicArguments : List String) (timeout : Duration)
    (filesystemCapabilitiesAuthorized : Bool) : Except ProcessAdapterError (Launch δ) := do
  check (validTimeout timeout) .invalidConfig
  validateArguments handler.fixedArguments dynamicArguments
  check (handler.argumentPolicy dynamicArguments) .argumentsDenied
  let identity ← readExecutableIdentity site.host handler.executable
  check (identity = handler.executableIdentity) .executableChanged
  checkSome handler.workingDirectoryIdentity
    (validateTaskScratchIdentity site.host handler.workingDirectory)
  let launch ← handler.launchFor site dynamicArguments filesystemCapabilitiesAuthorized
  checkSome handler.taskCgroup fun taskCgroup => do
    let reached ← taskCgroup.limitReached site.host
    check (!reached) .resourceLimitExceeded
  check (site.now.checkedAdd timeout).isSome .invalidConfig
  pure launch

end ProcessToolHandler

def filesystemCapabilitiesMatch (expected : List FileCapability)
    (mounted : List (FilesystemCapabilityMount δ)) : Bool :=
  if expected.length != mounted.length then false
  else sortBy compareKeys (expected.map capabilityKey)
    == sortBy compareKeys (mounted.map fun mount => capabilityKey mount.capability)

/-- Why a Tool call failed, as the gate sees it. -/
inductive ToolFailure where
  | failed
  | budgetExceeded
  deriving DecidableEq, Repr

/-- The timeout of a run for a Task, and whether it is the Task's own. A sandboxed handler runs
only for the Task its cgroup was made for, with the Task's own limits and mounts. -/
def ProcessToolHandler.taskTimeout (handler : ProcessToolHandler δ)
    (context : TaskExecutionContext) (remaining : Duration) : Except ToolFailure (Duration × Bool) :=
  match handler.launcher with
  | .direct => .ok (min handler.timeout remaining, decide (remaining ≤ handler.timeout))
  | .bubblewrap sandbox =>
    match sandbox.cgroupLaunch with
    | none => .error .failed
    | some launch => do
      let derived ← (CgroupResourceBudget.fromTaskBudget context.budget).mapError
        fun _ => ToolFailure.failed
      check (decide (launch.taskCgroup.taskId = context.taskId)
        && decide (launch.taskCgroup.budget = derived)
        && filesystemCapabilitiesMatch context.filesystemCapabilities
          sandbox.filesystemCapabilityMounts) ToolFailure.failed
      pure (remaining, true)

/-- `execute_for_task`, up to the spawn. -/
def ProcessToolHandler.executeForTask (handler : ProcessToolHandler δ) (site : Site δ)
    (context : TaskExecutionContext) (arguments : List String) : Except ToolFailure (Launch δ) := do
  let remaining := context.remainingWallTime site.now
  check (remaining != 0) .budgetExceeded
  let (timeout, timeoutIsTaskBudget) ← handler.taskTimeout context remaining
  (handler.prepare site arguments timeout true).mapError fun error =>
    if error = .resourceLimitExceeded ∨ error = .timedOut ∧ timeoutIsTaskBudget then
      .budgetExceeded
    else .failed

end AiOs.ProcessAdapter
