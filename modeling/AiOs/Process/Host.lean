import AiOs.Lib.Checks
import AiOs.Lib.Decimal
import AiOs.Process.Digest
import AiOs.Runtime.Supervisor

/-! What the Process Adapter reads of the host: file metadata, canonical paths, control files
of a Task cgroup and opened descriptors. A host is a snapshot; a builder and a later run may see
different ones. -/
namespace AiOs.ProcessAdapter

open OsString

structure FileMetadata where
  isDir : Bool
  isFile : Bool
  isSymlink : Bool
  mode : UInt32
  device : UInt64
  inode : UInt64
  deriving DecidableEq, Repr

/-- Device and inode, of an executable or of a directory. -/
structure FileIdentity where
  device : UInt64
  inode : UInt64
  deriving DecidableEq, Repr

def FileMetadata.identity (metadata : FileMetadata) : FileIdentity :=
  ⟨metadata.device, metadata.inode⟩

/-- One view of the host. `δ` is the type of opened objects. An opened directory answers
`openat2` calls for paths below it. -/
structure Host (δ : Type) where
  metadata : OsString → Option FileMetadata
  symlinkMetadata : OsString → Option FileMetadata
  canonicalize : OsString → Option OsString
  readToString : OsString → Option String
  openDirectory : OsString → Option (List PathComponent → Option δ)
  measureTree : OsString → Option RootFilesystemDigest

/-- `std::fs::canonicalize` returns an absolute path. -/
def Host.Lawful {δ : Type} (host : Host δ) : Prop :=
  ∀ path canonical, host.canonicalize path = some canonical → isAbsolute canonical = true

variable {δ : Type} (host : Host δ)

def startsWith (path base : OsString) : Bool := (components base).isPrefixOf (components path)

def PathComponent.bytes : PathComponent → OsString
  | .rootDir => [separator]
  | .curDir => osStr "."
  | .parentDir => osStr ".."
  | .normal name => name

/-- `Path::strip_prefix`: the components behind the base. -/
def stripPrefix (path base : OsString) : Option OsString :=
  if startsWith path base then
    some ([separator].intercalate
      (((components path).drop (components base).length).map PathComponent.bytes))
  else none

def readExecutableIdentity (path : OsString) : Except ProcessAdapterError FileIdentity := do
  let metadata ← orError (host.metadata path) .executableChanged
  check (metadata.isFile && metadata.mode &&& 0o111 != 0) .executableChanged
  pure metadata.identity

def readDirectoryIdentity (path : OsString) : Except ProcessAdapterError FileIdentity := do
  let metadata ← orError (host.metadata path) .invalidSandbox
  check metadata.isDir .invalidSandbox
  pure metadata.identity

def canonicalExecutable (path : OsString) : Except ProcessAdapterError OsString := do
  check (isAbsolute path) .invalidConfig
  let canonical ← orError (host.canonicalize path) .invalidConfig
  let _ ← (readExecutableIdentity host canonical).mapError fun _ => .invalidConfig
  pure canonical

def canonicalDirectory (path : OsString) : Except ProcessAdapterError OsString := do
  check (isAbsolute path) .invalidConfig
  let canonical ← orError (host.canonicalize path) .invalidConfig
  check ((host.metadata canonical).any FileMetadata.isDir) .invalidConfig
  pure canonical

def canonicalSandboxRoot (path : OsString) : Except ProcessAdapterError OsString := do
  let canonical ← (canonicalDirectory host path).mapError fun _ => .invalidSandbox
  check (components canonical != [.rootDir]) .invalidSandbox
  pure canonical

def canonicalScratchDirectory (path rootFilesystem : OsString) :
    Except ProcessAdapterError OsString := do
  let canonical ← (canonicalDirectory host path).mapError fun _ => .invalidSandbox
  check (components canonical != [.rootDir] && !startsWith canonical rootFilesystem
    && !startsWith rootFilesystem canonical) .invalidSandbox
  pure canonical

/-- The executable on the host, its identity, and its path inside the sandbox. -/
def canonicalSandboxExecutable (rootFilesystem sandboxExecutable : OsString) :
    Except ProcessAdapterError (OsString × FileIdentity × OsString) := do
  validateSandboxAbsolutePath sandboxExecutable
  let relative ← orError (stripPrefix sandboxExecutable (osStr "/")) .invalidSandbox
  let executable ← orError (host.canonicalize (join rootFilesystem relative)) .invalidSandbox
  check (startsWith executable rootFilesystem) .invalidSandbox
  let identity ← (readExecutableIdentity host executable).mapError fun _ => .invalidSandbox
  let resolved ← orError (stripPrefix executable rootFilesystem) .invalidSandbox
  pure (executable, identity, join (osStr "/") resolved)

def validateSandboxMountPoints (rootFilesystem : OsString) : Except ProcessAdapterError Unit :=
  check (["proc", "dev", "tmp", "workspace"].all fun relative =>
    (host.symlinkMetadata (join rootFilesystem (osStr relative))).any FileMetadata.isDir)
    .invalidSandbox

/-- A real directory without any of the given mode bits. -/
def validateDirectoryMode (mask : UInt32) (path : OsString) : Except ProcessAdapterError Unit := do
  let metadata ← orError (host.symlinkMetadata path) .invalidSandbox
  check (!metadata.isSymlink && metadata.isDir && metadata.mode &&& mask == 0) .invalidSandbox

def validateOwnerOnlyDirectory (path : OsString) : Except ProcessAdapterError Unit :=
  validateDirectoryMode host 0o077 path

def validateReadOnlyDirectory (path : OsString) : Except ProcessAdapterError Unit :=
  validateDirectoryMode host 0o222 path

def validateTaskScratchIdentity (path : OsString) (expected : FileIdentity) :
    Except ProcessAdapterError Unit := do
  validateOwnerOnlyDirectory host path
  let identity ← readDirectoryIdentity host path
  check (identity = expected) .invalidSandbox

structure VerifiedRootFilesystemState where
  digest : RootFilesystemDigest
  identity : FileIdentity
  deriving DecidableEq, Repr

def validateVerifiedRootFilesystem (directory : OsString) (state : VerifiedRootFilesystemState) :
    Except ProcessAdapterError Unit := do
  validateReadOnlyDirectory host directory
  let identity ← readDirectoryIdentity host directory
  check (identity = state.identity) .invalidSandbox
  let digest ← orError (host.measureTree directory) .invalidSandbox
  check (digest = state.digest) .invalidSandbox

def maxTimeout : Duration := Duration.fromSecs (60 * 60)

structure CgroupResourceBudget where
  cpuTimeMicros : UInt64
  memoryBytes : UInt64
  deriving DecidableEq, Repr

/-- Limits derived from the Task Budget: the wall time is also the CPU-time ceiling. -/
def CgroupResourceBudget.fromTaskBudget (budget : Budget) :
    Except ProcessAdapterError CgroupResourceBudget := do
  let micros := budget.wallTimeSeconds.toNat * 10 ^ 6
  check (decide (micros < 2 ^ 64)) .invalidConfig
  check (micros != 0 && decide (budget.wallTime ≤ maxTimeout) && budget.memoryBytes != 0)
    .invalidConfig
  pure ⟨UInt64.ofNat micros, budget.memoryBytes⟩

/-- Task-scoped cgroup authority. Its directory is a child of a canonical delegated root. -/
structure TaskCgroupState where
  taskId : TaskId
  directory : OsString
  directoryIdentity : FileIdentity
  budget : CgroupResourceBudget
  absolute : isAbsolute directory = true

def cgroupFiles : List String :=
  ["cgroup.procs", "cgroup.kill", "cgroup.events", "cpu.stat", "memory.current", "memory.events",
    "memory.max", "memory.swap.max", "memory.oom.group"]

/-- `str::trim` -/
def trim (text : String) : List Char :=
  ((text.toList.dropWhile isWhitespace).reverse.dropWhile isWhitespace).reverse

def isAsciiWhitespace (c : Char) : Bool :=
  c == ' ' || c == '\t' || c == '\n' || c == '\x0C' || c == '\r'

def readKeyedU64 (path : OsString) (key : String) : Except ProcessAdapterError Nat := do
  let contents ← orError (host.readToString path) .invalidResourceControl
  let value ← orError ((contents.toList.splitOn '\n').findSome? fun line =>
    match (line.splitOnP isAsciiWhitespace).filter (· != []) with
    | [name, value] => if name = key.toList then some value else none
    | _ => none) .invalidResourceControl
  orError (parseUnsigned (2 ^ 64) (String.ofList value)) .invalidResourceControl

namespace TaskCgroupState
variable (cgroup : TaskCgroupState)

def file (name : String) : OsString := join cgroup.directory (osStr name)

def validateIdentity : Except ProcessAdapterError Unit := do
  let metadata ← orError (host.symlinkMetadata cgroup.directory) .invalidResourceControl
  check (!metadata.isSymlink && metadata.isDir) .invalidResourceControl
  let identity ← (readDirectoryIdentity host cgroup.directory).mapError
    fun _ => .invalidResourceControl
  check (identity = cgroup.directoryIdentity) .invalidResourceControl
  check (cgroupFiles.all fun name => (host.metadata (cgroup.file name)).any FileMetadata.isFile)
    .invalidResourceControl

def validate : Except ProcessAdapterError Unit := do
  cgroup.validateIdentity host
  let memoryMax ← orError (host.readToString (cgroup.file "memory.max")) .invalidResourceControl
  let swapMax ← orError (host.readToString (cgroup.file "memory.swap.max")) .invalidResourceControl
  let oomGroup ← orError (host.readToString (cgroup.file "memory.oom.group"))
    .invalidResourceControl
  check (trim memoryMax == (toString cgroup.budget.memoryBytes.toNat).toList
    && trim swapMax == ['0'] && trim oomGroup == ['1']) .invalidResourceControl

def launchIdentity : OsString × UInt64 × UInt64 :=
  (cgroup.file "cgroup.procs", cgroup.directoryIdentity.device, cgroup.directoryIdentity.inode)

def limitReached : Except ProcessAdapterError Bool := do
  cgroup.validate host
  let cpuUsage ← readKeyedU64 host (cgroup.file "cpu.stat") "usage_usec"
  let memoryMaxEvents ← readKeyedU64 host (cgroup.file "memory.events") "max"
  let oomKills ← readKeyedU64 host (cgroup.file "memory.events") "oom_kill"
  pure (decide (cgroup.budget.cpuTimeMicros.toNat ≤ cpuUsage) || decide (0 < memoryMaxEvents)
    || decide (0 < oomKills))

end TaskCgroupState

theorem isAbsolute_join {path name : OsString} (absolute : isAbsolute path = true) :
    isAbsolute (join path name) = true := by
  unfold isAbsolute at *
  cases path with
  | nil => simp at absolute
  | cons first rest =>
    unfold join
    split
    · rename_i own
      exact own
    · split
      · simpa using absolute
      · simpa using absolute

theorem launchIdentity_absolute (cgroup : TaskCgroupState) :
    isAbsolute cgroup.launchIdentity.1 = true := by
  change isAbsolute (join cgroup.directory (osStr "cgroup.procs")) = true
  exact isAbsolute_join cgroup.absolute

theorem canonicalDirectory_absolute {host : Host δ} (lawful : host.Lawful) {path canonical : OsString}
    (found : canonicalDirectory host path = .ok canonical) : isAbsolute canonical = true := by
  simp only [canonicalDirectory, bind_ok, check_ok, orError_ok, pure_ok] at found
  obtain ⟨_, _, _, resolved, _, _, rfl⟩ := found
  exact lawful path _ resolved

end AiOs.ProcessAdapter
