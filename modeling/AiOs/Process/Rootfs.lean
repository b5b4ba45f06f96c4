import AiOs.Lib.Checks
import AiOs.Lib.Coding
import AiOs.Process.Descriptor
import AiOs.Runtime.Event
import Mathlib.Data.List.AList

/-! The measurement of a root filesystem (`rootfs.rs`): every entry below the root is collected,
the paths are sorted by their bytes, and one byte string over the whole tree is fed to SHA-256. -/
namespace AiOs.ProcessAdapter.Rootfs

open OsString Coding

def maxRootFilesystemEntries : Nat := 4096
def maxRootFilesystemFileBytes : Nat := 256 * 1024 * 1024
def maxRootFilesystemTotalBytes : Nat := 512 * 1024 * 1024

def digestDomain : List UInt8 := osStr "AIOS_ROOTFS_TREE_SHA256_V1" ++ [0]

inductive FileType where
  | directory
  | file
  | symlink
  | other
  deriving DecidableEq, Repr

structure Metadata where
  fileType : FileType
  mode : UInt32
  nlink : Nat
  len : Nat
  dev : Nat
  ino : Nat
  deriving DecidableEq, Repr

/-- An opened file: its metadata and what successive `read` calls deliver. The last one is
followed by the end of the file. -/
structure OpenedFile where
  metadata : Option Metadata
  reads : List (Option (List UInt8))

/-- What the file system answers below the measured root. Paths are relative to that root, and
`none` is an I/O error; a listing may fail at any of its entries. -/
structure Files where
  readDir : OsString → Option (List (Option OsString))
  symlinkMetadata : OsString → Option Metadata
  openFile : OsString → Option OpenedFile

def permissionBits (mode : UInt32) : UInt32 := mode &&& 0o777

def writable (mode : UInt32) : Bool := mode &&& 0o222 != 0

/-- `u32::to_be_bytes`. -/
def toBeBytes (n : UInt32) : List UInt8 := Bytes.bigEndian 4 n.toNat

variable (files : Files)

/-- The two vectors of `collect_relative_paths`; the head of `directories` is its last element. -/
structure Collection where
  directories : List OsString
  paths : List OsString

def collectEntry (directory : OsString) (collection : Collection) (entry : Option OsString) :
    Except ProcessAdapterError Collection := do
  let name ← orError entry .invalidSandbox
  let relative := join directory name
  check (decide (relative.length ≤ maxSandboxPathBytes)) .invalidSandbox
  let metadata ← orError (files.symlinkMetadata relative) .invalidSandbox
  check (metadata.fileType == .directory || metadata.fileType == .file) .invalidSandbox
  let paths := collection.paths ++ [relative]
  check (decide (paths.length ≤ maxRootFilesystemEntries)) .invalidSandbox
  pure {
    directories := if metadata.fileType = .directory then relative :: collection.directories
      else collection.directories
    paths }

/-- One round of the loop: list a directory that was taken off the stack. -/
def collectDirectory (directory : OsString) (collection : Collection) :
    Except ProcessAdapterError Collection := do
  let listing ← orError (files.readDir directory) .invalidSandbox
  listing.foldlM (collectEntry files directory) collection

theorem collectEntry_ok {directory : OsString} {collection next : Collection}
    {entry : Option OsString} :
    collectEntry files directory collection entry = .ok next ↔
      ∃ name, entry = some name ∧ (join directory name).length ≤ maxSandboxPathBytes ∧
      ∃ metadata, files.symlinkMetadata (join directory name) = some metadata ∧
      (metadata.fileType = .directory ∨ metadata.fileType = .file) ∧
      collection.paths.length + 1 ≤ maxRootFilesystemEntries ∧
      next = ⟨if metadata.fileType = .directory then join directory name :: collection.directories
        else collection.directories, collection.paths ++ [join directory name]⟩ := by
  simp only [collectEntry, bind_ok, orError_ok, check_ok, pure_ok, decide_eq_true_eq,
    Bool.or_eq_true, beq_iff_eq, exists_const, List.length_append, List.length_cons,
    List.length_nil, Nat.zero_add]
  constructor
  · rintro ⟨name, rfl, short, metadata, stat, kind, room, rfl⟩
    exact ⟨name, rfl, short, metadata, stat, kind, room, rfl⟩
  · rintro ⟨name, rfl, short, metadata, stat, kind, room, rfl⟩
    exact ⟨name, rfl, short, metadata, stat, kind, room, rfl⟩

/-- A directory is pushed only with its path, and there is room for finitely many paths. -/
def Collection.remaining (collection : Collection) : Nat :=
  collection.directories.length + (maxRootFilesystemEntries - collection.paths.length)

theorem collectEntries_remaining {directory : OsString} {listing : List (Option OsString)}
    {collection next : Collection}
    (ran : listing.foldlM (collectEntry files directory) collection = .ok next) :
    next.remaining ≤ collection.remaining := by
  induction listing generalizing collection with
  | nil =>
    rw [List.foldlM_nil, pure_ok] at ran
    rw [ran]
  | cons entry listing ih =>
    rw [List.foldlM_cons, bind_ok] at ran
    obtain ⟨middle, step, ran⟩ := ran
    obtain ⟨name, -, -, metadata, -, -, room, rfl⟩ := (collectEntry_ok files).mp step
    have rest := ih ran
    simp only [Collection.remaining, List.length_append, List.length_cons, List.length_nil] at rest ⊢
    split at rest
    · rw [List.length_cons] at rest
      omega
    · omega

/-- The `while let Some(..) = directories.pop()` loop of `collect_relative_paths`. -/
def collectFrom (collection : Collection) : Except ProcessAdapterError (List OsString) :=
  match _pending : collection.directories with
  | [] => .ok collection.paths
  | directory :: directories =>
    match _round : collectDirectory files directory ⟨directories, collection.paths⟩ with
    | .error error => .error error
    | .ok next => collectFrom next
termination_by collection.remaining
decreasing_by
  simp only [collectDirectory, bind_ok] at _round
  obtain ⟨listing, -, ran⟩ := _round
  have rest := collectEntries_remaining files ran
  simp only [Collection.remaining, _pending, List.length_cons] at rest ⊢
  omega

def collectRelativePaths : Except ProcessAdapterError (List OsString) :=
  collectFrom files ⟨[[]], []⟩

/-- The loop that reads an opened file into the hash. -/
def readContent (len : Nat) : Nat → List (Option (List UInt8)) →
    Except ProcessAdapterError (List UInt8)
  | readBytes, [] => do
    check (decide (readBytes = len)) .invalidSandbox
    pure []
  | _, none :: _ => .error .invalidSandbox
  | readBytes, some [] :: _ => do
    check (decide (readBytes = len)) .invalidSandbox
    pure []
  | readBytes, some (byte :: bytes) :: reads => do
    let readBytes ← orError (checkedAdd readBytes (byte :: bytes).length) .invalidSandbox
    check (decide (readBytes ≤ len)) .invalidSandbox
    let content ← readContent len readBytes reads
    pure (byte :: bytes ++ content)

def hashFile (relative : OsString) (metadata : Metadata) :
    Except ProcessAdapterError (List UInt8) := do
  let file ← orError (files.openFile relative) .invalidSandbox
  let opened ← orError file.metadata .invalidSandbox
  check (opened.dev == metadata.dev && opened.ino == metadata.ino && opened.len == metadata.len
    && opened.nlink == 1 && !writable opened.mode) .invalidSandbox
  readContent metadata.len 0 file.reads

/-- The bytes hashed for one entry, and the file bytes counted so far. -/
def hashEntry (totalBytes : Nat) (relative : OsString) :
    Except ProcessAdapterError (List UInt8 × Nat) := do
  let metadata ← orError (files.symlinkMetadata relative) .invalidSandbox
  check (decide (relative.length < 2 ^ 32)) .invalidSandbox
  let header := Bytes.bigEndian 4 relative.length ++ relative
    ++ toBeBytes (permissionBits metadata.mode)
  if metadata.fileType = .directory then
    check (!writable metadata.mode) .invalidSandbox
    pure (header ++ osStr "D", totalBytes)
  else
    check (metadata.fileType == .file && metadata.nlink == 1 && !writable metadata.mode
      && decide (metadata.len ≤ maxRootFilesystemFileBytes)) .invalidSandbox
    let totalBytes ← orError ((checkedAdd totalBytes metadata.len).filter
      (fun total => decide (total ≤ maxRootFilesystemTotalBytes))) .invalidSandbox
    let content ← hashFile files relative metadata
    pure (header ++ osStr "F" ++ Bytes.bigEndian 8 metadata.len ++ content, totalBytes)

def hashEntries (totalBytes : Nat) : List OsString → Except ProcessAdapterError (List UInt8)
  | [] => .ok []
  | relative :: paths => do
    let hashed ← hashEntry files totalBytes relative
    let rest ← hashEntries hashed.2 paths
    pure (hashed.1 ++ rest)

/-- Everything `measure_tree` feeds to the hash, in order. -/
def hashedBytes : Except ProcessAdapterError (List UInt8) := do
  let relativePaths ← collectRelativePaths files
  let root ← orError (files.symlinkMetadata []) .invalidSandbox
  check (root.fileType == .directory && !writable root.mode) .invalidSandbox
  let entries ← hashEntries files 0 (sortBy compare relativePaths)
  pure (digestDomain ++ osStr "R" ++ toBeBytes (permissionBits root.mode) ++ entries)

def measureTree (sha256 : List UInt8 → List UInt8) : Except ProcessAdapterError (List UInt8) :=
  (hashedBytes files).map sha256

end AiOs.ProcessAdapter.Rootfs
