import AiOs.Process.Host
import AiOs.Process.Mounts
import AiOs.Lib.Fallible
import AiOs.Lib.Checks

/-! Handlers of `aios-adapter-process`: the two builders and a run up to the moment the child
is spawned. A run ends with an error or with the command to spawn and the descriptors to send. -/
namespace AiOs.ProcessAdapter

open OsString

def maxArguments : Nat := 64
def maxArgumentBytes : Nat := 4096
def maxTotalArgumentBytes : Nat := 64 * 1024
def maxEnvironmentVariables : Nat := 64
def maxEnvironmentNameBytes : Nat := 128
def maxEnvironmentValueBytes : Nat := 4096
def maxTotalEnvironmentBytes : Nat := 64 * 1024

/-- One round of the loop over the arguments. -/
def countArgument (totalBytes : Nat) (argument : String) : Except ProcessAdapterError Nat :=
  if maxArgumentBytes < argument.utf8ByteSize ∨ '\x00' ∈ argument.toList then
    .error .invalidArguments
  else match checkedAdd totalBytes argument.utf8ByteSize with
    | none => .error .invalidArguments
    | some totalBytes =>
      if maxTotalArgumentBytes < totalBytes then .error .invalidArguments else .ok totalBytes

def validateArguments (fixed dynamic : List String) : Except ProcessAdapterError Unit :=
  match checkedAdd fixed.length dynamic.length with
  | none => .error .invalidArguments
  | some count =>
    if maxArguments < count then .error .invalidArguments
    else ((fixed ++ dynamic).foldlM countArgument 0).map (fun _ => ())

def isValidEnvironmentName (name : String) : Bool :=
  match name.toList with
  | [] => false
  | first :: rest =>
    decide (name.utf8ByteSize ≤ maxEnvironmentNameBytes) && (first.isAlpha || first == '_')
      && rest.all (fun c => c.isAlphanum || c == '_')

abbrev Environment := OrdMap String String

/-- The loop over the entries, with the map and the bytes so far. -/
def insertEntries (environment : Environment) (totalBytes : Nat) :
    List (String × String) → Except ProcessAdapterError Environment
  | [] => .ok environment
  | (name, value) :: rest =>
    if isValidEnvironmentName name = false ∨ maxEnvironmentValueBytes < value.utf8ByteSize
        ∨ '\x00' ∈ value.toList then .error .invalidConfig
    else
      let totalBytes := totalBytes + name.utf8ByteSize + value.utf8ByteSize
      if maxTotalEnvironmentBytes < totalBytes ∨ environment[name]?.isSome then
        .error .invalidConfig
      else insertEntries (environment.insert name value) totalBytes rest

def validateEnvironment (entries : List (String × String)) :
    Except ProcessAdapterError Environment :=
  if maxEnvironmentVariables < entries.length then .error .invalidConfig
  else insertEntries ∅ 0 entries

/-- An opened object under the capability it was opened for. -/
structure FilesystemCapabilityMount (δ : Type) where
  capability : FileCapability
  descriptor : δ
  deriving DecidableEq, Repr

variable {δ : Type}

def pathDepth (path : String) : Nat := (components (osStr path)).length

def compareDepth (left right : FileCapability) : Ordering :=
  (compare (pathDepth left.path) (pathDepth right.path)).then (compare left.path right.path)

def openCapability (root : List PathComponent → Option δ) (capability : FileCapability) :
    Except ProcessAdapterError (FilesystemCapabilityMount δ) :=
  match components (osStr capability.path) with
  | .rootDir :: relative => do
    let descriptor ← orError (root relative) .invalidSandbox
    pure ⟨capability, descriptor⟩
  | _ => .error .invalidSandbox

def openCapabilities (host : Host δ) (sourceRoot : OsString) (capabilities : List FileCapability) :
    Except ProcessAdapterError (List (FilesystemCapabilityMount δ)) := do
  let root ← orError (host.openDirectory sourceRoot) .invalidSandbox
  (sortBy compareDepth capabilities).mapM (openCapability root)

def openFilesystemCapabilities (host : Host δ) (sourceRoot : OsString)
    (capabilities : List FileCapability) :
    Except ProcessAdapterError (List (FilesystemCapabilityMount δ)) :=
  if capabilities = [] then .ok []
  else do
    let sourceRoot ← canonicalDirectory host sourceRoot
    validateCapabilities capabilities
    openCapabilities host sourceRoot capabilities

structure CgroupLaunch where
  launcher : OsString
  launcherIdentity : FileIdentity
  taskCgroup : TaskCgroupState

structure Bubblewrap (δ : Type) where
  bubblewrap : OsString
  bubblewrapIdentity : FileIdentity
  rootFilesystem : OsString
  verifiedRootState : Option VerifiedRootFilesystemState
  sandboxExecutable : OsString
  cgroupLaunch : Option CgroupLaunch
  filesystemCapabilityMounts : List (FilesystemCapabilityMount δ)

inductive ProcessLauncher (δ : Type) where
  | direct
  | bubblewrap (sandbox : Bubblewrap δ)

structure ProcessToolHandler (δ : Type) where
  executable : OsString
  executableIdentity : FileIdentity
  workingDirectory : OsString
  workingDirectoryIdentity : Option FileIdentity
  fixedArguments : List String
  environment : Environment
  timeout : Duration
  argumentPolicy : List String → Bool
  launcher : ProcessLauncher δ

structure ProcessToolBuilder where
  executable : OsString
  workingDirectory : OsString
  fixedArguments : List String
  environment : List (String × String)
  timeout : Duration
  argumentPolicy : List String → Bool

structure BubblewrapProcessToolBuilder where
  bubblewrap : OsString
  rootFilesystem : OsString
  sandboxExecutable : OsString
  scratchDirectory : OsString
  taskScratchIdentity : Option FileIdentity
  taskId : Option TaskId
  verifiedRootState : Option VerifiedRootFilesystemState
  taskCgroupState : Option TaskCgroupState
  cgroupLauncher : Option OsString
  filesystemCapabilitySourceRoot : Option OsString
  filesystemCapabilities : List FileCapability
  fixedArguments : List String
  environment : List (String × String)
  timeout : Duration
  argumentPolicy : List String → Bool

def validTimeout (timeout : Duration) : Bool := timeout != 0 && decide (timeout ≤ maxTimeout)

def ProcessToolBuilder.build (builder : ProcessToolBuilder) (host : Host δ) :
    Except ProcessAdapterError (ProcessToolHandler δ) := do
  check (validTimeout builder.timeout) .invalidConfig
  validateArguments builder.fixedArguments []
  let executable ← canonicalExecutable host builder.executable
  let executableIdentity ← readExecutableIdentity host executable
  let workingDirectory ← canonicalDirectory host builder.workingDirectory
  let environment ← validateEnvironment builder.environment
  pure ⟨executable, executableIdentity, workingDirectory, none, builder.fixedArguments,
    environment, builder.timeout, builder.argumentPolicy, .direct⟩

/-- `Some(state)` is checked, `None` is not. -/
def checkSome {α : Type} (o : Option α) (f : α → Except ProcessAdapterError Unit) :
    Except ProcessAdapterError Unit :=
  match o with
  | some a => f a
  | none => .ok ()

namespace BubblewrapProcessToolBuilder
variable (builder : BubblewrapProcessToolBuilder) (host : Host δ)

def buildCgroupLaunch : Except ProcessAdapterError (Option CgroupLaunch) :=
  match builder.taskCgroupState, builder.cgroupLauncher with
  | some taskCgroup, some launcher => do
    let launcher ← (canonicalExecutable host launcher).mapError fun _ => .invalidResourceControl
    let identity ← (readExecutableIdentity host launcher).mapError fun _ => .invalidResourceControl
    pure (some ⟨launcher, identity, taskCgroup⟩)
  | none, none => .ok none
  | _, _ => .error .invalidResourceControl

def buildMounts : Except ProcessAdapterError (List (FilesystemCapabilityMount δ)) :=
  match builder.filesystemCapabilitySourceRoot with
  | some sourceRoot => openFilesystemCapabilities host sourceRoot builder.filesystemCapabilities
  | none => .ok []

def build : Except ProcessAdapterError (ProcessToolHandler δ) := do
  check (validTimeout builder.timeout) .invalidConfig
  checkSome builder.taskCgroupState fun taskCgroup => do
    check (builder.taskId = some taskCgroup.taskId) .invalidResourceControl
    taskCgroup.validate host
  check (builder.taskCgroupState.isSome == builder.cgroupLauncher.isSome) .invalidResourceControl
  check (builder.filesystemCapabilities.isEmpty
    || builder.taskId.isSome && builder.taskCgroupState.isSome) .invalidSandbox
  check (builder.filesystemCapabilitySourceRoot.isSome
    == !builder.filesystemCapabilities.isEmpty) .invalidSandbox
  validateArguments builder.fixedArguments []
  let bubblewrap ← canonicalExecutable host builder.bubblewrap
  let bubblewrapIdentity ← readExecutableIdentity host bubblewrap
  let rootFilesystem ← canonicalSandboxRoot host builder.rootFilesystem
  validateSandboxMountPoints host rootFilesystem
  checkSome builder.verifiedRootState (validateVerifiedRootFilesystem host rootFilesystem)
  let scratchDirectory ← canonicalScratchDirectory host builder.scratchDirectory rootFilesystem
  checkSome builder.taskScratchIdentity (validateTaskScratchIdentity host scratchDirectory)
  let (executable, executableIdentity, sandboxExecutable) ←
    canonicalSandboxExecutable host rootFilesystem builder.sandboxExecutable
  let environment ← validateEnvironment builder.environment
  let mounts ← builder.buildMounts host
  let cgroupLaunch ← builder.buildCgroupLaunch host
  pure ⟨executable, executableIdentity, scratchDirectory, builder.taskScratchIdentity,
    builder.fixedArguments, environment, builder.timeout, builder.argumentPolicy,
    .bubblewrap ⟨bubblewrap, bubblewrapIdentity, rootFilesystem, builder.verifiedRootState,
      sandboxExecutable, cgroupLaunch, mounts⟩⟩

end BubblewrapProcessToolBuilder

theorem openCapability_capability {root : List PathComponent → Option δ}
    {capability : FileCapability} {mount : FilesystemCapabilityMount δ}
    (opened : openCapability root capability = .ok mount) : mount.capability = capability := by
  unfold openCapability at opened
  split at opened
  · simp only [bind_ok, orError_ok, pure_ok] at opened
    obtain ⟨descriptor, _, rfl⟩ := opened
    rfl
  · cases opened

theorem openCapabilities_ok {host : Host δ} {sourceRoot : OsString}
    {capabilities : List FileCapability} {mounts : List (FilesystemCapabilityMount δ)}
    (opened : openCapabilities host sourceRoot capabilities = .ok mounts) :
    mounts.map FilesystemCapabilityMount.capability = sortBy compareDepth capabilities ∧
      ∃ root, host.openDirectory sourceRoot = some root ∧
        ∀ mount ∈ mounts, openCapability root mount.capability = .ok mount := by
  simp only [openCapabilities, bind_ok, orError_ok, Fallible.except_mapM_ok] at opened
  obtain ⟨root, found, pairs⟩ := opened
  refine ⟨?_, root, found, ?_⟩
  · refine List.Forall₂.rec rfl ?_ pairs
    intro capability mount rest mounts first _ ih
    rw [List.map_cons, ih, openCapability_capability first]
  · intro mount member
    obtain ⟨capability, first⟩ : ∃ capability, openCapability root capability = .ok mount := by
      generalize sortBy compareDepth capabilities = ordered at pairs
      induction pairs with
      | nil => cases member
      | cons first _ ih =>
        rcases List.mem_cons.mp member with rfl | later
        · exact ⟨_, first⟩
        · exact ih later
    rw [openCapability_capability first]
    exact first

theorem buildMounts_ok {builder : BubblewrapProcessToolBuilder} {host : Host δ}
    {mounts : List (FilesystemCapabilityMount δ)} (built : builder.buildMounts host = .ok mounts) :
    mounts.length ≤ maxFilesystemCapabilityMounts ∧
      ∀ mount ∈ mounts, Mountable mount.capability := by
  have none_opened : ([] : List (FilesystemCapabilityMount δ)).length ≤ maxFilesystemCapabilityMounts ∧
      ∀ mount ∈ ([] : List (FilesystemCapabilityMount δ)), Mountable mount.capability := by simp
  unfold BubblewrapProcessToolBuilder.buildMounts at built
  split at built
  · unfold openFilesystemCapabilities at built
    split at built
    · cases Except.ok.inj built
      exact none_opened
    · simp only [bind_ok] at built
      obtain ⟨sourceRoot, _, _, accepted, opened⟩ := built
      obtain ⟨short, mountable, _⟩ := (validateCapabilities_iff _).mp accepted
      have sorted := (openCapabilities_ok opened).1
      have perm : (mounts.map FilesystemCapabilityMount.capability).Perm
          builder.filesystemCapabilities := sorted ▸ sortBy_perm _ _
      refine ⟨?_, fun mount member => mountable _ (perm.subset (List.mem_map_of_mem member))⟩
      rw [← List.length_map FilesystemCapabilityMount.capability, perm.length_eq]
      exact short
  · cases Except.ok.inj built
    exact none_opened

end AiOs.ProcessAdapter
