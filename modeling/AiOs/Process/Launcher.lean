import AiOs.Process.Spawn

/-! The helper program `aios-cgroup-launch`. It reads its argument vector, checks the files it
names, joins the Task cgroup and replaces itself with Bubblewrap. With the descriptor broker it
receives opened objects on its standard input and names them in options it adds in front of the
first delimiter. -/
namespace AiOs.ProcessAdapter

open OsString

def maxLaunchArguments : Nat := 512
def maxDescriptorMounts : Nat := 128
def maxLauncherPathBytes : Nat := 4096

inductive LaunchMode where
  | legacy
  | descriptorBroker
  deriving DecidableEq, Repr

structure LaunchPlan where
  mode : LaunchMode
  cgroupProcs : OsString
  expectedDevice : Nat
  expectedInode : Nat
  executable : OsString
  mounts : List OsString
  childArguments : List OsString
  deriving DecidableEq, Repr

/-- `parse_u64` and `parse_usize` on a 64-bit target. -/
def parseWord (value : OsString) : Option Nat :=
  (intoString value).bind (parseUnsigned (2 ^ 64))

def validateSandboxPath (path : OsString) : Bool :=
  isAbsolute path && decide (path.length ≤ maxLauncherPathBytes)
    && (match components path with
      | .rootDir :: rest => rest.all isNormal
      | _ => false)

/-- The loop that reads pairs of access and destination. -/
def readMounts : Nat → List OsString → Option (List OsString × List OsString)
  | 0, arguments => some ([], arguments)
  | count + 1, access :: destination :: arguments =>
    if access = osStr "read" ∧ validateSandboxPath destination = true then
      (readMounts count arguments).map fun (mounts, rest) => (destination :: mounts, rest)
    else none
  | _ + 1, _ => none

def readLegacy (cgroupProcs : OsString) : List OsString → Option LaunchPlan
  | device :: inode :: executable :: childArguments => do
    let expectedDevice ← parseWord device
    let expectedInode ← parseWord inode
    if maxLaunchArguments < childArguments.length then none
    else some ⟨.legacy, cgroupProcs, expectedDevice, expectedInode, executable, [], childArguments⟩
  | _ => none

def readDescriptorBroker : List OsString → Option LaunchPlan
  | cgroupProcs :: device :: inode :: executable :: count :: arguments => do
    let expectedDevice ← parseWord device
    let expectedInode ← parseWord inode
    let mountCount ← parseWord count
    if maxDescriptorMounts < mountCount then none
    else
      let (mounts, childArguments) ← readMounts mountCount arguments
      if maxLaunchArguments < childArguments.length + (mountCount * 3 + 2) then none
      else some ⟨.descriptorBroker, cgroupProcs, expectedDevice, expectedInode, executable, mounts,
        childArguments⟩
  | _ => none

/-- The arguments of `main`, the program's own name first. -/
def readArguments : List OsString → Option LaunchPlan
  | _program :: first :: arguments =>
    if first = osStr "--descriptor-broker" then readDescriptorBroker arguments
    else readLegacy first arguments
  | _ => none

/-- A received object under its number in the launcher. -/
structure ReceivedDescriptor (δ : Type) where
  rawFd : Nat
  object : δ
  deriving DecidableEq, Repr

structure LauncherSite (δ : Type) where
  host : Host δ
  openForWriting : OsString → Bool
  joinCgroup : Bool
  receive : Option (List (ReceivedDescriptor δ))
  clearCloseOnExec : Bool

variable {δ : Type}

/-- `Path::parent`: the path without its last component. -/
def parentDirectory (path : OsString) : Option OsString :=
  match components path with
  | [] | [.rootDir] => none
  | .rootDir :: rest =>
    some (separator :: [separator].intercalate (rest.dropLast.map PathComponent.bytes))
  | rest => some ([separator].intercalate (rest.dropLast.map PathComponent.bytes))

def openCgroupProcs (site : LauncherSite δ) (plan : LaunchPlan) : Bool :=
  isAbsolute plan.cgroupProcs && decide (plan.cgroupProcs.length ≤ maxLauncherPathBytes)
    && fileName plan.cgroupProcs == some (osStr "cgroup.procs")
    && (site.host.symlinkMetadata plan.cgroupProcs).any (fun m => !m.isSymlink && m.isFile)
    && site.openForWriting plan.cgroupProcs
    && ((parentDirectory plan.cgroupProcs).bind site.host.metadata).any (fun m => m.isDir
      && m.device.toNat == plan.expectedDevice && m.inode.toNat == plan.expectedInode)

def validateExecutable (site : LauncherSite δ) (path : OsString) : Bool :=
  isAbsolute path && decide (path.length ≤ maxLauncherPathBytes)
    && (site.host.metadata path).any FileMetadata.isFile

/-- The process image a launch ends in. -/
structure Image where
  program : OsString
  arguments : List OsString
  environment : Environment
  stdin : Stdin

/-- One read-only bind: the number of the object, then its destination. -/
def bindArguments (bind : OsString × ReceivedDescriptor δ) : List OsString :=
  [osStr "--ro-bind-fd", osStr (toString bind.2.rawFd), bind.1]

/-- The options for the received objects: the policy, then one read-only bind for each mount. -/
def descriptorArguments (mounts : List OsString) : List (ReceivedDescriptor δ) → List OsString
  | [] => []
  | policy :: objects =>
    [osStr "--seccomp", osStr (toString policy.rawFd)]
      ++ (mounts.zip objects).flatMap bindArguments

/-- `exec`: the environment is cleared, and nothing is put in its place. -/
def execCleared (executable : OsString) (arguments : List OsString) : Image :=
  ⟨executable, arguments, ∅, .null⟩

def runLegacy (site : LauncherSite δ) (plan : LaunchPlan) : Option Image :=
  if openCgroupProcs site plan && validateExecutable site plan.executable && site.joinCgroup then
    some (execCleared plan.executable plan.childArguments)
  else none

def runDescriptorBroker (site : LauncherSite δ) (plan : LaunchPlan) : Option Image :=
  if openCgroupProcs site plan && validateExecutable site plan.executable then do
    let descriptors ← site.receive
    if descriptors.length ≠ plan.mounts.length + 1 then none
    else if descriptors.any (fun descriptor => decide (descriptor.rawFd ≤ 2)) then none
    else if !site.joinCgroup then none
    else
      let delimiter ← plan.childArguments.findIdx? (· == osStr "--")
      if !site.clearCloseOnExec then none
      else some (execCleared plan.executable
        (plan.childArguments.take delimiter ++ descriptorArguments plan.mounts descriptors
          ++ plan.childArguments.drop delimiter))
  else none

def runPlan (site : LauncherSite δ) (plan : LaunchPlan) : Option Image :=
  match plan.mode with
  | .legacy => runLegacy site plan
  | .descriptorBroker => runDescriptorBroker site plan

/-- `run`: the image of Bubblewrap, unless a check fails. -/
def runLauncher (site : LauncherSite δ) (arguments : List OsString) : Option Image :=
  (readArguments arguments).bind (runPlan site)

end AiOs.ProcessAdapter
