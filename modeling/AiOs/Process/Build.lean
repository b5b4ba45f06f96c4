import AiOs.Lib.Fallible
import AiOs.Process.Measurement

/-! The builder of a minimal root filesystem: one executable and the mount points of a sandbox, in
a directory that was not there, sealed and measured. What stands at the output path is the state of
a build, and a build that fails keeps what it has made. -/
namespace AiOs.ProcessAdapter.Rootfs

open Fallible OsString

inductive BuildStep where
  | createDirectory (path : OsString)
  | createFile (path : OsString)
  | write (chunk : Nat)
  | setPermissions (path : OsString)
  deriving DecidableEq

/-- What a build finds: the host around the executable that it copies, which steps succeed, the
metadata of a new entry, and the answers of the file system below the output. -/
structure Workshop where
  symlinkMetadata : OsString → Option Metadata
  canonicalize : OsString → Option OsString
  metadata : OsString → Option Metadata
  openFile : OsString → Option OpenedFile
  permits : BuildStep → Bool
  born : OsString → UInt32 → Metadata
  files : Nat → Layout → Files

abbrev BuildM := Fallible (Option Layout) ProcessAdapterError

def Layout.isDirectory (layout : Layout) (path : OsString) : Bool :=
  (layout.lookup path).any fun inode => inode.metadata.fileType == .directory

def Layout.update (layout : Layout) (path : OsString) (f : Inode → Inode) : Layout :=
  match layout.entries.lookup path with
  | none => layout
  | some inode => { layout with entries := layout.entries.insert path (f inode) }

def Inode.extend (content : List UInt8) (inode : Inode) : Inode :=
  ⟨{ inode.metadata with len := (inode.content ++ content).length }, inode.content ++ content⟩

/-- `Permissions::from_mode(0o555)` replaces the last twelve bits. -/
def Inode.close (inode : Inode) : Inode :=
  ⟨{ inode.metadata with mode := (inode.metadata.mode &&& 0o170000) ||| 0o555 }, inode.content⟩

def directoryNames : List OsString :=
  [osStr "bin", osStr "proc", osStr "dev", osStr "tmp", osStr "workspace"]

def busyboxPath : OsString := osStr "bin/busybox"

section steps
variable (w : Workshop)

def createRoot : BuildM Unit := do
  let disk ← get
  ensure (disk.isNone && w.permits (.createDirectory [])) .invalidSandbox
  modify fun _ => some ⟨⟨{ w.born [] 0o700 with fileType := .directory }, []⟩, ∅⟩

/-- A new entry, in a directory that is there. -/
def createEntry (step : BuildStep) (parent path : OsString) (metadata : Metadata) :
    BuildM Unit := do
  let disk ← get
  let layout ← okOr disk .invalidSandbox
  ensure (w.permits step && decide (path ∉ layout.entries) && layout.isDirectory parent)
    .invalidSandbox
  modify fun _ => some { layout with entries := layout.entries.insert path ⟨metadata, []⟩ }

def createDirectory (relative : OsString) : BuildM Unit :=
  createEntry w (.createDirectory relative) [] relative
    { w.born relative 0o700 with fileType := .directory }

def createDirectories : List OsString → BuildM Unit
  | [] => pure ()
  | relative :: rest => do
    createDirectory w relative
    createDirectories rest

/-- `create_new(true).mode(0o500)` -/
def createFile : BuildM Unit :=
  createEntry w (.createFile busyboxPath) (osStr "bin") busyboxPath
    { w.born busyboxPath 0o500 with fileType := .file, nlink := 1, len := 0 }

/-- The bytes that `io::copy` has written, and their number unless a read or a write fails. -/
def copyChunks : Nat → List (Option (List UInt8)) → List UInt8 × Option Nat
  | _, [] => ([], some 0)
  | _, none :: _ => ([], none)
  | _, some [] :: _ => ([], some 0)
  | i, some (byte :: bytes) :: rest =>
    if w.permits (.write i) then
      let copied := copyChunks (i + 1) rest
      (byte :: bytes ++ copied.1, copied.2.map ((byte :: bytes).length + ·))
    else ([], none)

def copyContents (reads : List (Option (List UInt8))) : BuildM Nat := do
  modify fun disk => disk.map fun layout =>
    layout.update busyboxPath (Inode.extend (copyChunks w 0 reads).1)
  okOr (copyChunks w 0 reads).2 .invalidSandbox

def setPermissions (path : OsString) : BuildM Unit := do
  let disk ← get
  let layout ← okOr disk .invalidSandbox
  ensure (w.permits (.setPermissions path) && (layout.lookup path).isSome) .invalidSandbox
  modify fun _ => some (if path = [] then { layout with root := layout.root.close }
    else layout.update path Inode.close)

def setEach : List OsString → BuildM Unit
  | [] => pure ()
  | relative :: rest => do
    setPermissions w relative
    setEach rest

end steps

section measuring
variable (sha256 : List UInt8 → List UInt8) (canonicalize : OsString → Option OsString)
  (files : Files)

/-- The root is asked for as a path and then through its canonical one. -/
def canonicalReadOnlyRoot (path : OsString) : Except ProcessAdapterError OsString := do
  check (isAbsolute path && decide (path.length ≤ maxSandboxPathBytes)) .invalidSandbox
  let metadata ← orError (files.symlinkMetadata []) .invalidSandbox
  check (metadata.fileType == .directory) .invalidSandbox
  check (!writable metadata.mode) .invalidSandbox
  let canonical ← orError (canonicalize path) .invalidSandbox
  check (components canonical != [.rootDir]) .invalidSandbox
  pure canonical

/-- `RootFilesystemDigest::measure` -/
def measure (path : OsString) : Except ProcessAdapterError (List UInt8) := do
  let _ ← canonicalReadOnlyRoot canonicalize files path
  measureTree files sha256

structure VerifiedRootFilesystem where
  directory : OsString
  digest : List UInt8
  identity : Nat × Nat

def readIdentity : Except ProcessAdapterError (Nat × Nat) := do
  let metadata ← orError (files.symlinkMetadata []) .invalidSandbox
  check (metadata.fileType == .directory) .invalidSandbox
  pure (metadata.dev, metadata.ino)

def validateTree (identity : Nat × Nat) (expectedDigest : List UInt8) :
    Except ProcessAdapterError Unit := do
  let metadata ← orError (files.symlinkMetadata []) .invalidSandbox
  check (metadata.fileType == .directory && !writable metadata.mode) .invalidSandbox
  let found ← readIdentity files
  check (found == identity) .invalidSandbox
  let digest ← measureTree files sha256
  check (digest == expectedDigest) .invalidSandbox

/-- `VerifiedRootFilesystem::open` -/
def openVerified (path : OsString) (expectedDigest : List UInt8) :
    Except ProcessAdapterError VerifiedRootFilesystem := do
  let directory ← canonicalReadOnlyRoot canonicalize files path
  check (["proc", "dev", "tmp", "workspace"].all fun relative =>
    (files.symlinkMetadata (osStr relative)).any fun metadata => metadata.fileType == .directory)
    .invalidSandbox
  let identity ← readIdentity files
  validateTree sha256 files identity expectedDigest
  pure ⟨directory, expectedDigest, identity⟩

end measuring

section build
variable (sha256 : List UInt8 → List UInt8) (w : Workshop)

/-- The checks of the executable, before anything is made: its canonical path and metadata. -/
def findSource (busybox output : OsString) : Except ProcessAdapterError (OsString × Metadata) := do
  check (isAbsolute busybox && components output != [.rootDir]) .invalidSandbox
  validateSandboxAbsolutePath output
  let link ← orError (w.symlinkMetadata busybox) .invalidSandbox
  check (link.fileType == .file) .invalidSandbox
  let source ← orError (w.canonicalize busybox) .invalidSandbox
  let metadata ← orError (w.metadata source) .invalidSandbox
  check (metadata.fileType == .file && metadata.mode &&& 0o111 != 0
    && decide (metadata.len ≤ maxRootFilesystemFileBytes)) .invalidSandbox
  pure (source, metadata)

/-- The opened executable, as long as it is still the one that was looked at. -/
def openSource (source : OsString) (metadata : Metadata) :
    Except ProcessAdapterError OpenedFile := do
  let file ← orError (w.openFile source) .invalidSandbox
  let opened ← orError file.metadata .invalidSandbox
  check (opened.dev == metadata.dev && opened.ino == metadata.ino && opened.len == metadata.len)
    .invalidSandbox
  pure file

def buildMinimalRootFilesystem (busybox output : OsString) : BuildM (List UInt8) := do
  let source ← propagate (findSource w busybox output)
  createRoot w
  createDirectories w directoryNames
  let file ← propagate (openSource w source.1 source.2)
  createFile w
  let copied ← copyContents w file.reads
  ensure (decide (copied = source.2.len)) .invalidSandbox
  setPermissions w busyboxPath
  setEach w directoryNames
  setPermissions w []
  let disk ← get
  let layout ← okOr disk .invalidSandbox
  let digest ← propagate (measure sha256 w.canonicalize (w.files 0 layout) output)
  let _ ← propagate (openVerified sha256 w.canonicalize (w.files 1 layout) output digest)
  pure digest

end build

section rules
variable {w : Workshop} {disk : Option Layout} {layout : Layout} {α : Type}
  {P : Except ProcessAdapterError α × Option Layout → Prop}

def newDirectory (w : Workshop) (path : OsString) : Inode :=
  ⟨{ w.born path 0o700 with fileType := .directory }, []⟩

def newFile (w : Workshop) : Inode :=
  ⟨{ w.born busyboxPath 0o500 with fileType := .file, nlink := 1, len := 0 }, []⟩

theorem createRoot_rule {f : Unit → BuildM α} (failed : P (.error .invalidSandbox, disk))
    (made : disk = none → P (exec (f ()) (some ⟨newDirectory w [], ∅⟩))) :
    P (exec (createRoot w >>= f) disk) := by
  unfold createRoot
  simp only [bind_assoc]
  rw [exec_bind_ok (exec_get _)]
  apply ensure_rule (P := P)
  · exact fun _ => failed
  intro free
  have vacant : disk = none := by
    simp only [Bool.and_eq_true, Option.isNone_iff_eq_none] at free
    exact free.1
  exact made vacant

theorem createEntry_rule {step : BuildStep} {parent path : OsString} {metadata : Metadata}
    {f : Unit → BuildM α} (failed : P (.error .invalidSandbox, some layout))
    (made : P (exec (f ()) (some { layout with
      entries := layout.entries.insert path ⟨metadata, []⟩ }))) :
    P (exec (createEntry w step parent path metadata >>= f) (some layout)) := by
  unfold createEntry
  simp only [bind_assoc]
  rw [exec_bind_ok (exec_get _), exec_bind_ok (exec_okOr_some layout _ _)]
  apply ensure_rule (P := P)
  · exact fun _ => failed
  · exact fun _ => made

theorem createDirectories_rule {f : Unit → BuildM α} {names : List OsString}
    (failed : ∀ after, P (.error .invalidSandbox, after))
    (made : ∀ entries : AList (fun _ : OsString => Inode),
      (∀ path, entries.lookup path =
        if path ∈ names then some (newDirectory w path) else layout.entries.lookup path) →
      P (exec (f ()) (some ⟨layout.root, entries⟩))) :
    P (exec (createDirectories w names >>= f) (some layout)) := by
  induction names generalizing layout with
  | nil => exact made layout.entries (by simp)
  | cons name rest ih =>
    unfold createDirectories createDirectory
    rw [bind_assoc]
    apply createEntry_rule (P := P)
    · exact failed _
    apply ih
    intro entries same
    apply made
    intro path
    rw [same]
    by_cases later : path ∈ rest
    · simp [later]
    · by_cases here : path = name
      · subst here
        simp [later, newDirectory]
      · simp [later, here, AList.lookup_insert_ne here]

theorem lookup_update {path other : OsString} {f : Inode → Inode} :
    (layout.update path f).entries.lookup other =
      if other = path then (layout.entries.lookup path).map f else layout.entries.lookup other := by
  by_cases same : other = path
  · subst same
    unfold Layout.update
    split
    · rename_i missing
      simp [missing]
    · rename_i inode found
      simp [found]
  · rw [if_neg same]
    unfold Layout.update
    split
    · rfl
    · exact AList.lookup_insert_ne same

theorem root_update {path : OsString} {f : Inode → Inode} :
    (layout.update path f).root = layout.root := by
  unfold Layout.update
  split <;> rfl

theorem setPermissions_rule {path : OsString} {f : Unit → BuildM α}
    (failed : P (.error .invalidSandbox, some layout))
    (set : P (exec (f ()) (some (if path = [] then { layout with root := layout.root.close }
      else layout.update path Inode.close)))) :
    P (exec (setPermissions w path >>= f) (some layout)) := by
  unfold setPermissions
  simp only [bind_assoc]
  rw [exec_bind_ok (exec_get _), exec_bind_ok (exec_okOr_some layout _ _)]
  apply ensure_rule (P := P)
  · exact fun _ => failed
  · exact fun _ => set

theorem setEach_rule {f : Unit → BuildM α} {names : List OsString} (once : names.Nodup)
    (inner : [] ∉ names) (failed : ∀ after, P (.error .invalidSandbox, after))
    (set : ∀ after : Layout, after.root = layout.root →
      (∀ path, after.entries.lookup path =
        if path ∈ names then (layout.entries.lookup path).map Inode.close
        else layout.entries.lookup path) → P (exec (f ()) (some after))) :
    P (exec (setEach w names >>= f) (some layout)) := by
  induction names generalizing layout with
  | nil => exact set layout rfl (by simp)
  | cons name rest ih =>
    obtain ⟨fresh, once⟩ := List.nodup_cons.mp once
    obtain ⟨named, inner⟩ : [] ≠ name ∧ [] ∉ rest := by simpa using inner
    unfold setEach
    rw [bind_assoc]
    apply setPermissions_rule (P := P)
    · exact failed _
    rw [if_neg (Ne.symm named)]
    apply ih once inner
    intro after root same
    apply set after (root.trans root_update)
    intro path
    rw [same, lookup_update]
    by_cases here : path = name
    · subst here
      simp [fresh]
    · simp [here]

theorem copyContents_rule {reads : List (Option (List UInt8))} {f : Nat → BuildM α}
    (failed : ∀ after, P (.error .invalidSandbox, after))
    (copied : ∀ content count, copyChunks w 0 reads = (content, some count) →
      P (exec (f count) (some (layout.update busyboxPath (Inode.extend content))))) :
    P (exec (copyContents w reads >>= f) (some layout)) := by
  unfold copyContents
  simp only [bind_assoc]
  rw [exec_bind_ok (exec_modify _ _)]
  apply okOr_rule (P := P)
  · exact fun _ => failed _
  · intro count found
    exact copied _ count (Prod.ext rfl found)

end rules

theorem permissionBits_close (inode : Inode) :
    permissionBits inode.close.metadata.mode = 0o555 := by
  have apart : (0o170000 : UInt32).toBitVec &&& (0o777 : UInt32).toBitVec = 0#32 := by decide
  have within : (0o555 : UInt32).toBitVec &&& (0o777 : UInt32).toBitVec = (0o555 : UInt32).toBitVec := by
    decide
  apply UInt32.toBitVec_inj.mp
  rw [Inode.close, permissionBits, UInt32.toBitVec_and, UInt32.toBitVec_or, UInt32.toBitVec_and,
    BitVec.and_or_distrib_right, BitVec.and_assoc, apart, within, BitVec.and_zero, BitVec.zero_or]

/-- A sealed tree with the executable and the mount points, and nothing else. -/
structure Minimal (layout : Layout) (content : List UInt8) : Prop where
  root : layout.root.metadata.fileType = .directory ∧
    permissionBits layout.root.metadata.mode = 0o555
  directories : ∀ path ∈ directoryNames, ∃ inode, layout.entries.lookup path = some inode ∧
    inode.metadata.fileType = .directory ∧ permissionBits inode.metadata.mode = 0o555
  busybox : ∃ inode, layout.entries.lookup busyboxPath = some inode ∧
    inode.metadata.fileType = .file ∧ permissionBits inode.metadata.mode = 0o555 ∧
    inode.content = content ∧ inode.metadata.len = content.length
  only : ∀ path ∈ layout.entries, path ∈ directoryNames ∨ path = busyboxPath

namespace Minimal
variable {layout layout' : Layout} {content content' : List UInt8}

theorem mem_iff (minimal : Minimal layout content) (path : OsString) :
    path ∈ layout.entries ↔ path ∈ directoryNames ∨ path = busyboxPath := by
  refine ⟨minimal.only path, ?_⟩
  rintro (named | rfl)
  · obtain ⟨inode, found, _⟩ := minimal.directories path named
    exact AList.lookup_isSome.mp (found ▸ rfl)
  · obtain ⟨inode, found, _⟩ := minimal.busybox
    exact AList.lookup_isSome.mp (found ▸ rfl)

def tree (minimal : Minimal layout content) : Tree where
  toLayout := layout
  placed path member := by
    have root : layout.IsDirectory [] := ⟨layout.root, rfl, minimal.root.1⟩
    rcases minimal.only path member with named | rfl
    · have plain : ∀ name ∈ directoryNames, FileName name := by decide
      have whole : join [] path = path := (join_eq (by simp) (plain path named)).trans (if_pos rfl)
      exact ⟨[], path, root, plain path named, whole.symm⟩
    · obtain ⟨bin, found, inner, _⟩ := minimal.directories (osStr "bin") (by decide)
      exact ⟨osStr "bin", osStr "busybox", ⟨bin, found, inner⟩, by decide, by decide⟩
  sized path inode found regular := by
    by_cases root : path = []
    · rw [Layout.lookup, if_pos root, Option.some.injEq] at found
      rw [← found, minimal.root.1] at regular
      cases regular
    · rw [Layout.lookup, if_neg root] at found
      rcases minimal.only path (AList.lookup_isSome.mp (found ▸ rfl)) with named | rfl
      · obtain ⟨own, lookup, inner, _⟩ := minimal.directories path named
        rw [lookup, Option.some.injEq] at found
        rw [← found, inner] at regular
        cases regular
      · obtain ⟨own, lookup, _, _, rfl, len⟩ := minimal.busybox
        rw [lookup, Option.some.injEq] at found
        rw [← found]
        exact len

theorem sameTree_iff (minimal : Minimal layout content) (minimal' : Minimal layout' content') :
    SameTree minimal.tree minimal'.tree ↔ content = content' := by
  constructor
  · intro same
    obtain ⟨inode, found, regular, _, rfl, _⟩ := minimal.busybox
    obtain ⟨inode', found', _, _, rfl, _⟩ := minimal'.busybox
    exact (same.entries busyboxPath inode inode' found found').2.2 regular
  · rintro rfl
    refine ⟨minimal.root.2.trans minimal'.root.2.symm, ?_, ?_⟩
    · intro path
      exact (minimal.mem_iff path).trans (minimal'.mem_iff path).symm
    · intro path inode inode' found found'
      rcases minimal.only path (AList.lookup_isSome.mp (found ▸ rfl)) with named | rfl
      · obtain ⟨own, lookup, inner, mode⟩ := minimal.directories path named
        obtain ⟨own', lookup', inner', mode'⟩ := minimal'.directories path named
        obtain rfl := Option.some.inj (lookup.symm.trans found)
        obtain rfl := Option.some.inj (lookup'.symm.trans found')
        refine ⟨inner.trans inner'.symm, mode.trans mode'.symm, ?_⟩
        rw [inner]
        exact nofun
      · obtain ⟨own, lookup, regular, mode, same, _⟩ := minimal.busybox
        obtain ⟨own', lookup', regular', mode', same', _⟩ := minimal'.busybox
        obtain rfl := Option.some.inj (lookup.symm.trans found)
        obtain rfl := Option.some.inj (lookup'.symm.trans found')
        exact ⟨regular.trans regular'.symm, mode.trans mode'.symm, fun _ => same.trans same'.symm⟩

end Minimal

theorem copyChunks_ok {w : Workshop} {i count : Nat} {reads : List (Option (List UInt8))}
    {content : List UInt8} (copied : copyChunks w i reads = (content, some count)) :
    count = content.length ∧ ∃ (chunks : List (List UInt8)) (rest : List (Option (List UInt8))),
      reads = chunks.map some ++ rest ∧ content = chunks.flatten := by
  fun_induction copyChunks w i reads generalizing content count with
  | case1 i =>
    cases copied
    exact ⟨rfl, [], [], rfl, rfl⟩
  | case2 i rest => cases copied
  | case3 i rest =>
    cases copied
    exact ⟨rfl, [], some [] :: rest, rfl, rfl⟩
  | case4 i byte bytes rest permitted later =>
    rename_i ih
    obtain ⟨rfl, found⟩ := Prod.mk.inj copied
    obtain ⟨more, some_more, rfl⟩ := Option.map_eq_some_iff.mp found
    obtain ⟨rfl, chunks, after, rfl, flat⟩ := ih (Prod.ext rfl some_more)
    refine ⟨?_, (byte :: bytes) :: chunks, after, rfl, ?_⟩
    · rw [List.length_append]
    · rw [List.flatten_cons, ← flat]
  | case5 i byte bytes rest refused => cases copied

structure Built (sha256 : List UInt8 → List UInt8) (w : Workshop) (busybox output : OsString)
    (digest : List UInt8) (layout : Layout) (content : List UInt8) : Prop where
  minimal : Minimal layout content
  source : ∃ source metadata file, findSource w busybox output = .ok (source, metadata) ∧
    openSource w source metadata = .ok file ∧
      copyChunks w 0 file.reads = (content, some metadata.len)
  measured : measure sha256 w.canonicalize (w.files 0 layout) output = .ok digest

section built
variable {sha256 : List UInt8 → List UInt8} {w : Workshop} {busybox output : OsString}

/-- What a build comes to: without a digest, or from nothing to a minimal tree. -/
def BuildComes (sha256 : List UInt8 → List UInt8) (w : Workshop) (busybox output : OsString)
    (disk : Option Layout) (out : Except ProcessAdapterError (List UInt8) × Option Layout) : Prop :=
  ∀ digest, out.1 = .ok digest → disk = none ∧ ∃ layout content, out.2 = some layout ∧
    Built sha256 w busybox output digest layout content

theorem closed_minimal {entries : AList (fun _ : OsString => Inode)} {closed : Layout}
    {content : List UInt8}
    (made : ∀ path, entries.lookup path = if path ∈ directoryNames then some (newDirectory w path)
      else (∅ : AList (fun _ : OsString => Inode)).lookup path)
    (root : closed.root = newDirectory w [])
    (each : ∀ path, closed.entries.lookup path =
      if path ∈ directoryNames then
        (((Layout.mk (newDirectory w []) (entries.insert busyboxPath (newFile w))).update busyboxPath
          (Inode.extend content)).update busyboxPath Inode.close).entries.lookup path |>.map Inode.close
      else (((Layout.mk (newDirectory w []) (entries.insert busyboxPath (newFile w))).update
        busyboxPath (Inode.extend content)).update busyboxPath Inode.close).entries.lookup path) :
    Minimal { closed with root := closed.root.close } content := by
  have apart : busyboxPath ∉ directoryNames := by decide
  refine ⟨⟨?_, permissionBits_close _⟩, ?_, ?_, ?_⟩
  · rw [root]
    rfl
  · intro path named
    have other : path ≠ busyboxPath := fun same => apart (same ▸ named)
    refine ⟨(newDirectory w path).close, ?_, rfl, permissionBits_close _⟩
    rw [each, if_pos named, lookup_update, if_neg other, lookup_update, if_neg other,
      AList.lookup_insert_ne other, made, if_pos named]
    rfl
  · refine ⟨((newFile w).extend content).close, ?_, rfl, permissionBits_close _, rfl, rfl⟩
    rw [each, if_neg apart, lookup_update, if_pos rfl, lookup_update, if_pos rfl,
      AList.lookup_insert]
    rfl
  · intro path member
    by_contra outside
    obtain ⟨unnamed, other⟩ := not_or.mp outside
    have none : closed.entries.lookup path = none := by
      rw [each, if_neg unnamed, lookup_update, if_neg other, lookup_update, if_neg other,
        AList.lookup_insert_ne other, made, if_neg unnamed, AList.lookup_empty]
    exact AList.lookup_eq_none.mp none member

theorem build_comes (disk : Option Layout) : BuildComes sha256 w busybox output disk
    (exec (buildMinimalRootFilesystem sha256 w busybox output) disk) := by
  unfold buildMinimalRootFilesystem
  apply propagate_rule (P := BuildComes _ _ _ _ _) (fun _ _ => nofun)
  rintro ⟨source, metadata⟩ searched
  apply createRoot_rule (P := BuildComes _ _ _ _ _) nofun
  rintro rfl
  apply createDirectories_rule (P := BuildComes _ _ _ _ _) (fun _ => nofun)
  intro entries made
  apply propagate_rule (P := BuildComes _ _ _ _ _) (fun _ _ => nofun)
  intro file opened
  apply createEntry_rule (P := BuildComes _ _ _ _ _) nofun
  apply copyContents_rule (P := BuildComes _ _ _ _ _) (fun _ => nofun)
  intro content count copied
  apply ensure_rule (P := BuildComes _ _ _ _ _) (fun _ => nofun)
  intro whole
  obtain rfl := of_decide_eq_true whole
  apply setPermissions_rule (P := BuildComes _ _ _ _ _) nofun
  apply setEach_rule (P := BuildComes _ _ _ _ _) (by decide) (by decide) (fun _ => nofun)
  intro closed root each
  apply setPermissions_rule (P := BuildComes _ _ _ _ _) nofun
  rw [exec_bind_ok (exec_get _), exec_bind_ok (exec_okOr_some _ _ _)]
  apply propagate_rule (P := BuildComes _ _ _ _ _) (fun _ _ => nofun)
  intro digest measured
  apply propagate_rule (P := BuildComes _ _ _ _ _) (fun _ _ => nofun)
  rintro _ _ _ ⟨⟩
  have root' : closed.root = newDirectory w [] := by
    rw [root, if_neg (by decide), root_update, root_update]
  exact ⟨rfl, _, content, rfl, closed_minimal made root' each,
    ⟨source, metadata, file, searched, opened, copied⟩, measured⟩

theorem build_occupied (layout : Layout) :
    (exec (buildMinimalRootFilesystem sha256 w busybox output) (some layout)).2 = some layout ∧
      ∀ digest, (exec (buildMinimalRootFilesystem sha256 w busybox output) (some layout)).1 ≠
        .ok digest := by
  unfold buildMinimalRootFilesystem
  apply propagate_rule (P := fun out => out.2 = some layout ∧ ∀ digest, out.1 ≠ .ok digest)
  · exact fun _ _ => ⟨rfl, nofun⟩
  rintro ⟨source, metadata⟩ _
  apply createRoot_rule (P := fun out => out.2 = some layout ∧ ∀ digest, out.1 ≠ .ok digest)
  · exact ⟨rfl, nofun⟩
  · exact nofun

/-- An opened file with these bytes: its length is theirs, and what it delivers is a part of them. -/
structure OpenedFile.Holds (file : OpenedFile) (bytes : List UInt8) : Prop where
  len : ∀ metadata, file.metadata = some metadata → metadata.len = bytes.length
  delivered : ∀ (chunks : List (List UInt8)) rest, file.reads = chunks.map some ++ rest →
    chunks.flatten <+: bytes

/-- What is asked below the output is answered from what stands there. -/
def Workshop.Consistent (w : Workshop) : Prop :=
  ∀ i (tree : Tree), Shows (w.files i tree.toLayout) tree

/-- The content of the executable, whatever bytes it has. -/
def Workshop.Copied (w : Workshop) (busybox : OsString) (content : List UInt8) : Prop :=
  ∃ source file, w.canonicalize busybox = some source ∧ w.openFile source = some file ∧
    ∀ bytes, file.Holds bytes → content = bytes

theorem Built.copied {digest content : List UInt8} {layout : Layout}
    (built : Built sha256 w busybox output digest layout content) : w.Copied busybox content := by
  obtain ⟨source, metadata, file, searched, opened, copied⟩ := built.source
  simp only [findSource, bind_ok, orError_ok, check_ok, pure_ok] at searched
  obtain ⟨_, _, _, _, link, _, _, _, _, found, _, _, _, _, same⟩ := searched
  simp only [openSource, bind_ok, orError_ok, check_ok, pure_ok] at opened
  obtain ⟨_, open_eq, own, stat, _, unchanged, rfl⟩ := opened
  cases same
  refine ⟨source, _, found, open_eq, ?_⟩
  intro bytes holds
  obtain ⟨count, chunks, rest, reads, rfl⟩ := copyChunks_ok copied
  have long : own.len = metadata.len := by
    simp only [Bool.and_eq_true, beq_iff_eq] at unchanged
    exact unchanged.2
  apply (holds.delivered chunks rest reads).eq_of_length
  rw [← count, ← long, holds.len own stat]

theorem measureTree_ok {files : Files} {tree : Tree} {digest : List UInt8} (shows : Shows files tree)
    (measured : measureTree files sha256 = .ok digest) :
    digest = sha256 tree.bytes ∧ Accepted tree := by
  unfold measureTree at measured
  cases hashed : hashedBytes files with
  | error e =>
    rw [hashed] at measured
    cases measured
  | ok bytes =>
    rw [hashed] at measured
    obtain ⟨rfl, accepted⟩ := hashedBytes_ok shows hashed
    cases measured
    exact ⟨rfl, accepted⟩

theorem Built.measured_tree {digest content : List UInt8} {layout : Layout}
    (built : Built sha256 w busybox output digest layout content) (consistent : w.Consistent) :
    digest = sha256 built.minimal.tree.bytes ∧ Accepted built.minimal.tree := by
  have measured := built.measured
  simp only [measure, bind_ok] at measured
  obtain ⟨_, _, hashed⟩ := measured
  exact measureTree_ok (consistent 0 built.minimal.tree) hashed

theorem openVerified_ok {canonicalize : OsString → Option OsString} {files : Files} {tree : Tree}
    {path : OsString} {digest : List UInt8} {verified : VerifiedRootFilesystem}
    (shows : Shows files tree)
    (opened : openVerified sha256 canonicalize files path digest = .ok verified) :
    digest = sha256 tree.bytes ∧ Accepted tree := by
  simp only [openVerified, validateTree, bind_ok, check_ok, beq_iff_eq] at opened
  obtain ⟨_, _, _, _, _, _, _, valid, _⟩ := opened
  obtain ⟨_, _, _, _, _, _, _, _, own, measured, rfl⟩ := valid
  exact measureTree_ok shows measured

end built

/-- Builds into one place, one after another, each with its own host and executable. -/
def buildEach (sha256 : List UInt8 → List UInt8) (output : OsString) :
    List (Workshop × OsString) → Option Layout →
      List (Except ProcessAdapterError (List UInt8)) × Option Layout
  | [], disk => ([], disk)
  | (w, busybox) :: rest, disk =>
    let out := exec (buildMinimalRootFilesystem sha256 w busybox output) disk
    let later := buildEach sha256 output rest out.2
    (out.1 :: later.1, later.2)

section builds
variable {sha256 : List UInt8 → List UInt8} {output : OsString}

theorem buildEach_occupied {builds : List (Workshop × OsString)} (layout : Layout) :
    (buildEach sha256 output builds (some layout)).2 = some layout ∧
      ∀ digest, .ok digest ∉ (buildEach sha256 output builds (some layout)).1 := by
  induction builds with
  | nil => exact ⟨rfl, fun _ => List.not_mem_nil⟩
  | cons build rest ih =>
    obtain ⟨w, busybox⟩ := build
    obtain ⟨kept, refused⟩ := @build_occupied sha256 w busybox output layout
    simp only [buildEach, kept]
    refine ⟨ih.1, ?_⟩
    intro digest member
    rcases List.mem_cons.mp member with same | member
    · exact refused digest same.symm
    · exact ih.2 digest member

/-- At most one of the builds succeeds, and what it built is there in the end: the executable and
the mount points, sealed, under the hash of the whole tree. -/
theorem builds_once (builds : List (Workshop × OsString))
    (consistent : ∀ build ∈ builds, build.1.Consistent) (i : Nat) (digest : List UInt8)
    (success : (buildEach sha256 output builds none).1[i]? = some (.ok digest)) :
    (∀ j digest', (buildEach sha256 output builds none).1[j]? = some (.ok digest') → j = i) ∧
      ∃ w busybox content, builds[i]? = some (w, busybox) ∧ w.Copied busybox content ∧
        ∃ tree : Tree, (buildEach sha256 output builds none).2 = some tree.toLayout ∧
          Minimal tree.toLayout content ∧ digest = sha256 tree.bytes := by
  induction builds generalizing i with
  | nil => cases success
  | cons build rest ih =>
    obtain ⟨w, busybox⟩ := build
    have comes := @build_comes sha256 w busybox output none
    simp only [buildEach] at success ⊢
    cases disk : (exec (buildMinimalRootFilesystem sha256 w busybox output) none).2 with
    | none =>
      -- Nothing was made, so this build has failed.
      have failed : ∀ digest, (exec (buildMinimalRootFilesystem sha256 w busybox output) none).1 ≠
          .ok digest := by
        intro digest ok
        obtain ⟨_, layout, _, left, _⟩ := comes digest ok
        rw [disk] at left
        cases left
      rw [disk] at success
      rcases i with _ | i
      · exact absurd (Option.some.inj success) (failed digest)
      · obtain ⟨single, product⟩ := ih (fun build member =>
          consistent build (List.mem_cons_of_mem _ member)) i success
        refine ⟨?_, product⟩
        intro j digest' other
        rcases j with _ | j
        · exact absurd (Option.some.inj other) (failed digest')
        · rw [single j digest' other]
    | some layout =>
      obtain ⟨kept, refused⟩ := @buildEach_occupied sha256 output rest layout
      have first : ∀ j digest', ((exec (buildMinimalRootFilesystem sha256 w busybox output) none).1 ::
          (buildEach sha256 output rest (some layout)).1)[j]? = some (.ok digest') → j = 0 := by
        intro j digest' ok
        rcases j with _ | j
        · rfl
        · rw [List.getElem?_cons_succ] at ok
          exact absurd (List.mem_of_getElem? ok) (refused digest')
      rw [disk] at success
      obtain rfl := first i digest success
      obtain ⟨_, left, content, left_eq, built⟩ := comes digest (Option.some.inj success)
      obtain rfl := Option.some.inj (disk.symm.trans left_eq)
      refine ⟨first, w, busybox, content, rfl, built.copied, built.minimal.tree, kept,
        built.minimal, ?_⟩
      exact (built.measured_tree (consistent _ List.mem_cons_self)).1

/-- The digest of a build pins its tree, and between builds it speaks of the executable alone. -/
theorem build_reproducible {w w' : Workshop} (consistent : w.Consistent)
    (consistent' : w'.Consistent) {busybox busybox' output output' : OsString}
    {disk disk' : Option Layout} {digest digest' : List UInt8}
    (success : (exec (buildMinimalRootFilesystem sha256 w busybox output) disk).1 = .ok digest)
    (success' : (exec (buildMinimalRootFilesystem sha256 w' busybox' output') disk').1 = .ok digest') :
    ∃ (tree tree' : Tree) (content content' : List UInt8),
      (exec (buildMinimalRootFilesystem sha256 w busybox output) disk).2 = some tree.toLayout ∧
      (exec (buildMinimalRootFilesystem sha256 w' busybox' output') disk').2 = some tree'.toLayout ∧
      digest = sha256 tree.bytes ∧ digest' = sha256 tree'.bytes ∧
      w.Copied busybox content ∧ w'.Copied busybox' content' ∧
      (tree.bytes = tree'.bytes ↔ content = content') ∧
      ∀ (canonicalize : OsString → Option OsString) files (opened : Tree) path verified,
        Shows files opened → openVerified sha256 canonicalize files path digest = .ok verified →
        sha256 opened.bytes = sha256 tree.bytes ∧
          (opened.bytes = tree.bytes ↔ SameTree opened tree) := by
  obtain ⟨_, layout, content, left, built⟩ := build_comes disk digest success
  obtain ⟨_, layout', content', left', built'⟩ := build_comes disk' digest' success'
  obtain ⟨hash, accepted⟩ := built.measured_tree consistent
  obtain ⟨hash', accepted'⟩ := built'.measured_tree consistent'
  refine ⟨built.minimal.tree, built'.minimal.tree, content, content', left, left', hash, hash',
    built.copied, built'.copied, ?_, ?_⟩
  · exact (bytes_eq_iff accepted accepted').trans (built.minimal.sameTree_iff built'.minimal)
  · intro canonicalize files opened path verified shows ok
    obtain ⟨same, whole⟩ := openVerified_ok shows ok
    exact ⟨same.symm.trans hash, bytes_eq_iff whole accepted⟩

end builds

namespace Sample

def answers (layout : Layout) : Files where
  readDir directory := (layout.lookup directory).bind fun inode =>
    if inode.metadata.fileType = .directory then
      some ((layout.entries.keys.filterMap (nameIn directory)).map some)
    else none
  symlinkMetadata path := (layout.lookup path).map Inode.metadata
  openFile path := (layout.lookup path).map fun inode =>
    ⟨some inode.metadata, [some inode.content]⟩

def workshop (mode : UInt32) (bytes : UInt8 × UInt8) : Workshop where
  symlinkMetadata _ := some ⟨.file, mode, 1, 2, 1, 7⟩
  canonicalize path := some path
  metadata _ := some ⟨.file, mode, 1, 2, 1, 7⟩
  openFile _ := some ⟨some ⟨.file, mode, 1, 2, 1, 7⟩, [some [bytes.1], some [bytes.2], some []]⟩
  permits _ := true
  born path mode := ⟨.directory, (if path = busyboxPath then 0o100000 else 0o40000) ||| mode, 2, 4096,
    1, path.length⟩
  files _ := answers

theorem workshop_consistent (mode : UInt32) (bytes : UInt8 × UInt8) :
    (workshop mode bytes).Consistent :=
  fun _ tree => tree.shows_files fun _ => .refl _

def stream (bytes : UInt8 × UInt8) : List UInt8 :=
  digestDomain ++ osStr "R" ++ toBeBytes 0o555 ++
    [⟨osStr "bin", 0o555, .directory⟩, ⟨busyboxPath, 0o555, .file [bytes.1, bytes.2]⟩,
      ⟨osStr "dev", 0o555, .directory⟩, ⟨osStr "proc", 0o555, .directory⟩,
      ⟨osStr "tmp", 0o555, .directory⟩, ⟨osStr "workspace", 0o555, .directory⟩].flatMap Record.bytes

def builds : List (Workshop × OsString) :=
  [(workshop 0o100644 (1, 2), osStr "/bin/plain"), (workshop 0o100755 (1, 2), osStr "/bin/busybox"),
    (workshop 0o100755 (3, 4), osStr "/bin/other")]

theorem builds_once_second :
    (buildEach id (osStr "/srv/root") builds none).1 =
      [.error .invalidSandbox, .ok (stream (1, 2)), .error .invalidSandbox] ∧
    ∃ w busybox content, builds[1]? = some (w, busybox) ∧ w.Copied busybox content ∧
      ∃ tree : Tree, (buildEach id (osStr "/srv/root") builds none).2 = some tree.toLayout ∧
        Minimal tree.toLayout content ∧ stream (1, 2) = tree.bytes := by
  have results : (buildEach id (osStr "/srv/root") builds none).1 =
      [.error .invalidSandbox, .ok (stream (1, 2)), .error .invalidSandbox] := by decide +kernel
  have consistent : ∀ build ∈ builds, build.1.Consistent := by
    simp [builds, workshop_consistent]
  exact ⟨results, (builds_once builds consistent 1 (stream (1, 2)) (by rw [results]; rfl)).2⟩

theorem build_reproducible_twice :
    ∃ (tree tree' : Tree) (content content' : List UInt8),
      stream (1, 2) = tree.bytes ∧ stream (3, 4) = tree'.bytes ∧
      (workshop 0o100755 (1, 2)).Copied (osStr "/bin/busybox") content ∧
      (workshop 0o100755 (3, 4)).Copied (osStr "/bin/other") content' ∧
      (tree.bytes = tree'.bytes ↔ content = content') := by
  have success : (exec (buildMinimalRootFilesystem id (workshop 0o100755 (1, 2))
      (osStr "/bin/busybox") (osStr "/srv/root")) none).1 = .ok (stream (1, 2)) := by decide +kernel
  have success' : (exec (buildMinimalRootFilesystem id (workshop 0o100755 (3, 4))
      (osStr "/bin/other") (osStr "/srv/other")) none).1 = .ok (stream (3, 4)) := by decide +kernel
  obtain ⟨tree, tree', content, content', _, _, hash, hash', copied, copied', same, _⟩ :=
    build_reproducible (workshop_consistent _ _) (workshop_consistent _ _) success success'
  exact ⟨tree, tree', content, content', hash, hash', copied, copied', same⟩

end Sample

end AiOs.ProcessAdapter.Rootfs
