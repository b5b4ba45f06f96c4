import AiOs.Process.Rootfs

/-! What the measured bytes say about the tree. A tree is a map from relative paths to inodes;
the file system may list its directories in any order and may fail at any call, but it answers
from one tree during the measurement. -/
namespace AiOs.ProcessAdapter.Rootfs

open OsString Coding

structure Inode where
  metadata : Metadata
  content : List UInt8
  deriving DecidableEq

structure Layout where
  root : Inode
  entries : AList (fun _ : OsString => Inode)

namespace Layout

def lookup (layout : Layout) (path : OsString) : Option Inode :=
  if path = [] then some layout.root else layout.entries.lookup path

def IsDirectory (layout : Layout) (path : OsString) : Prop :=
  ∃ inode, layout.lookup path = some inode ∧ inode.metadata.fileType = .directory

end Layout

def FileName (name : OsString) : Prop := name ≠ [] ∧ separator ∉ name

instance (name : OsString) : Decidable (FileName name) := inferInstanceAs (Decidable (_ ∧ _))

/-- Every entry lies in a directory, and the length of a regular file is that of its bytes. -/
structure Tree extends Layout where
  placed : ∀ path ∈ entries, ∃ parent name, toLayout.IsDirectory parent ∧ FileName name ∧
    path = join parent name
  sized : ∀ path inode, toLayout.lookup path = some inode → inode.metadata.fileType = .file →
    inode.metadata.len = inode.content.length

/-- The answers come from one tree. An answer may be missing; listed names come in any order. -/
structure Shows (files : Files) (tree : Tree) : Prop where
  listed : ∀ directory (names : List OsString), files.readDir directory = some (names.map some) →
    tree.IsDirectory directory ∧ names.Nodup ∧
    ∀ name, name ∈ names ↔ FileName name ∧ join directory name ∈ tree.entries
  stat : ∀ path metadata, files.symlinkMetadata path = some metadata →
    ∃ inode, tree.lookup path = some inode ∧ inode.metadata = metadata
  delivered : ∀ path inode file, tree.lookup path = some inode →
    inode.metadata.fileType = .file → files.openFile path = some file →
    ∀ (chunks : List (List UInt8)) rest, file.reads = chunks.map some ++ rest → chunks.flatten <+: inode.content

/-! ### Paths -/

theorem join_eq {parent name : OsString} (plain : parent.getLast? ≠ some separator)
    (file : FileName name) :
    join parent name = if parent = [] then name else parent ++ separator :: name := by
  have relative : name.isAbsolute = false := by
    obtain ⟨byte, rest, rfl⟩ := List.exists_cons_of_ne_nil file.1
    have other : byte ≠ separator := fun same => file.2 (same ▸ List.mem_cons_self)
    simpa [OsString.isAbsolute] using other
  simp only [join, relative, Bool.false_eq_true, if_false, plain, or_false]
  split
  · rename_i empty
    rw [empty, List.nil_append]
  · rfl

theorem join_ne_nil {parent name : OsString} (file : FileName name) : join parent name ≠ [] := by
  unfold join
  split
  · exact file.1
  · split <;> simp [file.1]

theorem join_plain {parent name : OsString} (file : FileName name) :
    (join parent name).getLast? ≠ some separator := by
  have last : (join parent name).getLast? = name.getLast? := by
    have ends := List.getLast?_eq_some_getLast file.1
    unfold join
    split
    · rfl
    · split <;> simp [List.getLast?_append, List.getLast?_cons, ends]
  rw [last]
  exact fun same => file.2 (List.mem_of_getLast? same)

theorem join_longer {parent name : OsString} (plain : parent.getLast? ≠ some separator)
    (file : FileName name) : parent.length < (join parent name).length := by
  have some_byte : 0 < name.length := List.length_pos_iff.mpr file.1
  rw [join_eq plain file]
  split
  · rename_i empty
    rwa [empty, List.length_nil]
  · rw [List.length_append, List.length_cons]
    omega

theorem append_separator_inj {parent parent' name name' : OsString} (file : separator ∉ name)
    (file' : separator ∉ name')
    (same : parent ++ separator :: name = parent' ++ separator :: name') :
    parent = parent' ∧ name = name' := by
  rcases List.append_eq_append_iff.mp same with ⟨between, rfl, rest⟩ | ⟨between, rfl, rest⟩
  · rcases between with _ | ⟨byte, between⟩
    · rw [List.append_nil]
      exact ⟨rfl, (List.cons.inj rest).2⟩
    · rw [List.cons_append] at rest
      exact absurd ((List.cons.inj rest).2 ▸ List.mem_append_right _ List.mem_cons_self) file
  · rcases between with _ | ⟨byte, between⟩
    · rw [List.append_nil]
      exact ⟨rfl, (List.cons.inj rest).2.symm⟩
    · rw [List.cons_append] at rest
      exact absurd ((List.cons.inj rest).2 ▸ List.mem_append_right _ List.mem_cons_self) file'

theorem join_inj {parent parent' name name' : OsString}
    (plain : parent.getLast? ≠ some separator) (plain' : parent'.getLast? ≠ some separator)
    (file : FileName name) (file' : FileName name')
    (same : join parent name = join parent' name') : parent = parent' ∧ name = name' := by
  rw [join_eq plain file, join_eq plain' file'] at same
  split at same
  · rename_i root
    split at same
    · rename_i root'
      exact ⟨root.trans root'.symm, same⟩
    · exact absurd (same ▸ List.mem_append_right _ List.mem_cons_self) file.2
  · split at same
    · exact absurd (same ▸ List.mem_append_right _ List.mem_cons_self) file'.2
    · exact append_separator_inj file.2 file'.2 same

namespace Tree
variable (tree : Tree)

theorem mem_entries_iff {path : OsString} (inner : path ≠ []) :
    path ∈ tree.entries ↔ ∃ inode, tree.lookup path = some inode := by
  rw [Layout.lookup, if_neg inner, ← AList.lookup_isSome, Option.isSome_iff_exists]

theorem entry_ne_nil {path : OsString} (member : path ∈ tree.entries) : path ≠ [] := by
  obtain ⟨parent, name, -, file, rfl⟩ := tree.placed path member
  exact join_ne_nil file

theorem mem_of_lookup {path : OsString} {inode : Inode} (found : tree.lookup path = some inode) :
    path = [] ∨ path ∈ tree.entries := by
  by_cases root : path = []
  · exact .inl root
  · exact .inr ((tree.mem_entries_iff root).mpr ⟨inode, found⟩)

theorem plain_of_directory {path : OsString} (directory : tree.IsDirectory path) :
    path.getLast? ≠ some separator := by
  obtain ⟨inode, found, -⟩ := directory
  rcases tree.mem_of_lookup found with rfl | member
  · simp
  · obtain ⟨parent, name, -, file, rfl⟩ := tree.placed path member
    exact join_plain file

end Tree

/-! ### The traversal -/

def Files.isDirectory (files : Files) (path : OsString) : Bool :=
  (files.symlinkMetadata path).any (fun metadata => metadata.fileType == .directory)

/-- An entry that may be part of an accepted tree. -/
def Files.Admits (files : Files) (path : OsString) : Prop :=
  path.length ≤ maxSandboxPathBytes ∧ ∃ metadata, files.symlinkMetadata path = some metadata ∧
    (metadata.fileType = .directory ∨ metadata.fileType = .file)

theorem collectEntries_ok {files : Files} {directory : OsString}
    {listing : List (Option OsString)} {collection next : Collection}
    (ran : listing.foldlM (collectEntry files directory) collection = .ok next) :
    ∃ names : List OsString, listing = names.map some ∧
      next.paths = collection.paths ++ names.map (join directory) ∧
      next.directories = ((names.map (join directory)).filter files.isDirectory).reverse
        ++ collection.directories ∧
      (∀ name ∈ names, files.Admits (join directory name)) ∧
      (collection.paths.length ≤ maxRootFilesystemEntries →
        next.paths.length ≤ maxRootFilesystemEntries) := by
  induction listing generalizing collection with
  | nil =>
    rw [List.foldlM_nil, pure_ok] at ran
    subst ran
    exact ⟨[], rfl, by simp, by simp, by simp, id⟩
  | cons entry listing ih =>
    rw [List.foldlM_cons, bind_ok] at ran
    obtain ⟨middle, step, ran⟩ := ran
    obtain ⟨name, rfl, short, metadata, stat, kind, room, rfl⟩ := (collectEntry_ok files).mp step
    obtain ⟨names, rfl, paths, directories, admitted, fits⟩ := ih ran
    have own : files.isDirectory (join directory name) = true ↔
        metadata.fileType = .directory := by
      simp [Files.isDirectory, stat]
    refine ⟨name :: names, rfl, ?_, ?_, ?_, fun _ => fits ?_⟩
    · simpa using paths
    · rw [directories]
      by_cases inner : metadata.fileType = .directory
      · simp [own, inner]
      · simp [own, inner]
    · intro other member
      rcases List.mem_cons.mp member with rfl | member
      · exact ⟨short, metadata, stat, kind⟩
      · exact admitted other member
    · simpa using room

/-- What is known between two rounds: an entry has been collected exactly when its directory has
been listed, that is, when it was met and is no longer on the stack. -/
structure Traversed (files : Files) (tree : Tree) (collection : Collection) : Prop where
  fits : collection.paths.length ≤ maxRootFilesystemEntries
  nodup : collection.paths.Nodup
  found : ∀ path ∈ collection.paths, path ∈ tree.entries ∧ files.Admits path
  stack_nodup : collection.directories.Nodup
  met : ∀ directory ∈ collection.directories, directory = [] ∨ directory ∈ collection.paths
  listed_iff : ∀ parent name, tree.IsDirectory parent → FileName name →
    join parent name ∈ tree.entries → (join parent name ∈ collection.paths ↔
      parent ∉ collection.directories ∧ (parent = [] ∨ parent ∈ collection.paths))

theorem traversed_initial (files : Files) (tree : Tree) : Traversed files tree ⟨[[]], []⟩ where
  fits := Nat.zero_le _
  nodup := List.nodup_nil
  found := by simp
  stack_nodup := List.nodup_singleton _
  met := by simp
  listed_iff parent name _ _ _ := by simp

section Round
variable {files : Files} {tree : Tree} (shows : Shows files tree)
include shows

theorem isDirectory_iff {path : OsString} (admitted : files.Admits path) :
    files.isDirectory path = true ↔ tree.IsDirectory path := by
  obtain ⟨-, metadata, stat, -⟩ := admitted
  obtain ⟨inode, found, rfl⟩ := shows.stat path metadata stat
  simp [Files.isDirectory, stat, Layout.IsDirectory, found]

theorem mem_children {directory : OsString} {names : List OsString}
    (listing : files.readDir directory = some (names.map some)) {path : OsString} :
    path ∈ names.map (join directory) ↔
      ∃ name, FileName name ∧ path = join directory name ∧ path ∈ tree.entries := by
  obtain ⟨-, -, complete⟩ := shows.listed directory names listing
  rw [List.mem_map]
  constructor
  · rintro ⟨name, member, rfl⟩
    obtain ⟨file, entry⟩ := (complete name).mp member
    exact ⟨name, file, rfl, entry⟩
  · rintro ⟨name, file, rfl, entry⟩
    exact ⟨name, (complete name).mpr ⟨file, entry⟩, rfl⟩

theorem nodup_children {directory : OsString} {names : List OsString}
    (listing : files.readDir directory = some (names.map some)) :
    (names.map (join directory)).Nodup := by
  obtain ⟨inner, once, complete⟩ := shows.listed directory names listing
  have plain := tree.plain_of_directory inner
  refine once.map_on ?_
  intro name member name' member' same
  exact (join_inj plain plain ((complete name).mp member).1 ((complete name').mp member').1 same).2

/-- One round keeps the invariant. -/
theorem traversed_round {directory : OsString} {directories paths : List OsString}
    {next : Collection} (before : Traversed files tree ⟨directory :: directories, paths⟩)
    (round : collectDirectory files directory ⟨directories, paths⟩ = .ok next) :
    Traversed files tree next := by
  simp only [collectDirectory, bind_ok, orError_ok] at round
  obtain ⟨listing, listing_eq, ran⟩ := round
  obtain ⟨names, rfl, paths_eq, directories_eq, admitted, fits⟩ := collectEntries_ok ran
  obtain ⟨nextDirectories, nextPaths⟩ := next
  simp only at paths_eq directories_eq fits
  subst paths_eq directories_eq
  have inner := (shows.listed directory names listing_eq).1
  have plain := tree.plain_of_directory inner
  have children : ∀ {path : OsString}, path ∈ names.map (join directory) ↔
      ∃ name, FileName name ∧ path = join directory name ∧ path ∈ tree.entries :=
    mem_children shows listing_eq
  have admits : ∀ path ∈ names.map (join directory), files.Admits path := by
    intro path member
    obtain ⟨name, listed, rfl⟩ := List.mem_map.mp member
    exact admitted name listed
  -- The directory was still on the stack, so none of its entries is there yet.
  have fresh : ∀ path ∈ names.map (join directory), path ∉ paths := by
    intro path member again
    obtain ⟨name, file, rfl, entry⟩ := children.mp member
    have listed := (before.listed_iff directory name inner file entry).mp again
    exact listed.1 List.mem_cons_self
  obtain ⟨popped, stack_nodup⟩ := List.nodup_cons.mp before.stack_nodup
  refine ⟨fits before.fits, ?_, ?_, ?_, ?_, ?_⟩
  · refine List.nodup_append.mpr ⟨before.nodup, nodup_children shows listing_eq, ?_⟩
    rintro path old _ new rfl
    exact fresh path new old
  · intro path member
    rcases List.mem_append.mp member with old | new
    · exact before.found path old
    · obtain ⟨name, -, -, entry⟩ := children.mp new
      exact ⟨entry, admits path new⟩
  · refine List.nodup_append.mpr ⟨List.nodup_reverse.mpr ((nodup_children shows listing_eq).filter _),
      stack_nodup, ?_⟩
    rintro path stacked _ old rfl
    have new := (List.mem_filter.mp (List.mem_reverse.mp stacked)).1
    rcases before.met path (List.mem_cons_of_mem _ old) with root | met
    · obtain ⟨name, -, -, entry⟩ := children.mp new
      exact tree.entry_ne_nil entry root
    · exact fresh path new met
  · intro path member
    rcases List.mem_append.mp member with new | old
    · have new := (List.mem_filter.mp (List.mem_reverse.mp new)).1
      exact .inr (List.mem_append_right _ new)
    · rcases before.met path (List.mem_cons_of_mem _ old) with root | met
      · exact .inl root
      · exact .inr (List.mem_append_left _ met)
  · intro parent name parentInner file entry
    have parentPlain := tree.plain_of_directory parentInner
    have old := before.listed_iff parent name parentInner file entry
    have stacked : parent ∈ names.map (join directory) →
        parent ∈ ((names.map (join directory)).filter files.isDirectory).reverse := by
      intro new
      refine List.mem_reverse.mpr (List.mem_filter.mpr ⟨new, ?_⟩)
      exact (isDirectory_iff shows (admits parent new)).mpr parentInner
    simp only [List.mem_append, List.mem_reverse, List.mem_filter] at stacked ⊢
    by_cases same : parent = directory
    · subst same
      have new : join parent name ∈ names.map (join parent) := children.mpr ⟨name, file, rfl, entry⟩
      have outside : parent ∉ names.map (join parent) := by
        intro member
        obtain ⟨name', file', path, -⟩ := children.mp member
        have longer := join_longer plain file'
        rw [← path] at longer
        exact Nat.lt_irrefl _ longer
      have met := before.met parent List.mem_cons_self
      simp only [new, or_true, true_iff]
      exact ⟨fun member => member.elim (fun new => outside new.1) popped,
        met.imp_right Or.inl⟩
    · have elsewhere : join parent name ∉ names.map (join directory) := by
        intro member
        obtain ⟨name', file', path, -⟩ := children.mp member
        exact same (join_inj parentPlain plain file file' path).1
      simp only [elsewhere, or_false, old, List.mem_cons, same, false_or]
      by_cases new : parent ∈ names.map (join directory)
      · have root : parent ≠ [] := by
          obtain ⟨-, -, -, entry⟩ := children.mp new
          exact tree.entry_ne_nil entry
        have unmet : parent ∉ paths := fresh parent new
        simp [root, unmet, stacked new]
      · simp [new]

theorem traversed_collectFrom {collection : Collection} {paths : List OsString}
    (before : Traversed files tree collection) (ran : collectFrom files collection = .ok paths) :
    Traversed files tree ⟨[], paths⟩ := by
  fun_induction collectFrom files collection with
  | case1 collection empty =>
    cases ran
    exact empty ▸ before
  | case2 collection directory directories pending error failed => cases ran
  | case3 collection directory directories pending next round ih =>
    have rest : Traversed files tree ⟨directory :: directories, collection.paths⟩ :=
      pending ▸ before
    exact ih (traversed_round shows rest round) ran

/-- Every entry of the tree is collected, and none twice. -/
theorem collectRelativePaths_perm {paths : List OsString}
    (ran : collectRelativePaths files = .ok paths) : paths.Perm tree.entries.keys := by
  have done := traversed_collectFrom shows (traversed_initial files tree) ran
  have complete : ∀ path ∈ tree.entries, path ∈ paths := by
    intro path
    induction path using (measure List.length).wf.induction with
    | _ path ih =>
      intro entry
      obtain ⟨parent, name, inner, file, rfl⟩ := tree.placed path entry
      have longer := join_longer (tree.plain_of_directory inner) file
      refine (done.listed_iff parent name inner file entry).mpr ⟨List.not_mem_nil, ?_⟩
      obtain ⟨inode, found, -⟩ := inner
      rcases tree.mem_of_lookup found with root | member
      · exact .inl root
      · exact .inr (ih parent longer member)
  refine (List.perm_ext_iff_of_nodup done.nodup tree.entries.keys_nodup).mpr ?_
  intro path
  exact ⟨fun member => AList.mem_keys.mp (done.found path member).1,
    fun member => complete path (AList.mem_keys.mpr member)⟩

end Round

/-! ### The hashed bytes -/

inductive Kind where
  | directory
  | file (content : List UInt8)
  deriving DecidableEq

structure Record where
  path : OsString
  permissions : UInt32
  kind : Kind
  deriving DecidableEq

def Kind.bytes : Kind → List UInt8
  | .directory => osStr "D"
  | .file content => osStr "F" ++ lengthPrefixed 8 content

def Record.bytes (record : Record) : List UInt8 :=
  lengthPrefixed 4 record.path ++ toBeBytes record.permissions ++ record.kind.bytes

def Inode.kind (inode : Inode) : Kind :=
  if inode.metadata.fileType = .directory then .directory else .file inode.content

def Inode.fileBytes (inode : Inode) : Nat :=
  if inode.metadata.fileType = .directory then 0 else inode.content.length

/-- A directory or regular file that the measurement accepts. -/
structure Inode.Sealed (inode : Inode) : Prop where
  kind : inode.metadata.fileType = .directory ∨ inode.metadata.fileType = .file
  readOnly : writable inode.metadata.mode = false
  alone : inode.metadata.fileType = .file → inode.metadata.nlink = 1
  small : inode.metadata.fileType = .file → inode.content.length ≤ maxRootFilesystemFileBytes

namespace Tree

def record (tree : Tree) (path : OsString) : Option Record :=
  (tree.lookup path).map
    (fun inode => ⟨path, permissionBits inode.metadata.mode, inode.kind⟩)

def fileBytes (tree : Tree) (path : OsString) : Nat :=
  ((tree.lookup path).map Inode.fileBytes).getD 0

def records (tree : Tree) (paths : List OsString) : List Record :=
  paths.filterMap tree.record

def bytes (tree : Tree) : List UInt8 :=
  digestDomain ++ osStr "R" ++ toBeBytes (permissionBits tree.root.metadata.mode)
    ++ (tree.records (sortBy compare tree.entries.keys)).flatMap Record.bytes

end Tree

theorem readContent_ok {len readBytes : Nat} {reads : List (Option (List UInt8))}
    {content : List UInt8} (ran : readContent len readBytes reads = .ok content) :
    readBytes + content.length = len ∧
      ∃ (chunks : List (List UInt8)) (rest : List (Option (List UInt8))),
        reads = chunks.map some ++ rest ∧ content = chunks.flatten := by
  fun_induction readContent len readBytes reads generalizing content with
  | case1 readBytes =>
    simp only [bind_ok, check_ok, pure_ok, decide_eq_true_eq, exists_const] at ran
    obtain ⟨full, rfl⟩ := ran
    exact ⟨full, [], [], rfl, rfl⟩
  | case2 readBytes rest => cases ran
  | case3 readBytes rest =>
    simp only [bind_ok, check_ok, pure_ok, decide_eq_true_eq, exists_const] at ran
    obtain ⟨full, rfl⟩ := ran
    exact ⟨full, [], some [] :: rest, rfl, rfl⟩
  | case4 readBytes byte bytes reads ih =>
    simp only [bind_ok, orError_ok, check_ok, pure_ok, decide_eq_true_eq, exists_const] at ran
    obtain ⟨sum, added, -, content, ran, rfl⟩ := ran
    obtain ⟨full, chunks, rest, rfl, rfl⟩ := ih sum ran
    have total := checkedAdd_some added
    refine ⟨?_, (byte :: bytes) :: chunks, rest, rfl, rfl⟩
    rw [List.length_append]
    omega

section Hash
variable {files : Files} {tree : Tree} (shows : Shows files tree)
include shows

theorem hashFile_ok {relative : OsString} {inode : Inode} {content : List UInt8}
    (found : tree.lookup relative = some inode) (regular : inode.metadata.fileType = .file)
    (ran : hashFile files relative inode.metadata = .ok content) : content = inode.content := by
  simp only [hashFile, bind_ok, orError_ok, check_ok] at ran
  obtain ⟨file, opened, metadata, -, -, -, ran⟩ := ran
  obtain ⟨full, chunks, rest, reads, rfl⟩ := readContent_ok ran
  have front := shows.delivered relative inode file found regular opened chunks rest reads
  rw [tree.sized relative inode found regular] at full
  exact front.eq_of_length (by omega)

theorem hashEntry_ok {totalBytes : Nat} {relative : OsString} {hashed : List UInt8 × Nat}
    (ran : hashEntry files totalBytes relative = .ok hashed) :
    ∃ inode, tree.lookup relative = some inode ∧ inode.Sealed ∧
      hashed.1 = (⟨relative, permissionBits inode.metadata.mode, inode.kind⟩ : Record).bytes ∧
      hashed.2 = totalBytes + inode.fileBytes ∧
      (totalBytes ≤ maxRootFilesystemTotalBytes → hashed.2 ≤ maxRootFilesystemTotalBytes) := by
  simp only [hashEntry, bind_ok, orError_ok, check_ok, decide_eq_true_eq, exists_const] at ran
  obtain ⟨metadata, stat, -, ran⟩ := ran
  obtain ⟨inode, found, rfl⟩ := shows.stat relative metadata stat
  refine ⟨inode, found, ?_⟩
  split at ran
  · rename_i inner
    simp only [bind_ok, check_ok, pure_ok, Bool.not_eq_true', exists_const] at ran
    obtain ⟨readOnly, rfl⟩ := ran
    refine ⟨⟨.inl inner, readOnly, ?_, ?_⟩, ?_, ?_, id⟩
    · simp [inner]
    · simp [inner]
    · simp [Record.bytes, lengthPrefixed, Inode.kind, inner, Kind.bytes]
    · simp [Inode.fileBytes, inner]
  · rename_i outer
    simp only [bind_ok, check_ok, orError_ok, pure_ok, Bool.and_eq_true, beq_iff_eq,
      Bool.not_eq_true', decide_eq_true_eq, Option.filter_eq_some_iff, exists_const] at ran
    obtain ⟨⟨⟨⟨regular, alone⟩, readOnly⟩, small⟩, total, ⟨added, fits⟩, content, read, rfl⟩ := ran
    have whole := hashFile_ok shows found regular read
    have size := tree.sized relative inode found regular
    have sum := checkedAdd_some added
    refine ⟨⟨.inr regular, readOnly, fun _ => alone, fun _ => size ▸ small⟩, ?_, ?_, fun _ => fits⟩
    · simp [Record.bytes, lengthPrefixed, Inode.kind, outer, Kind.bytes, whole, size]
    · simp only [Inode.fileBytes, if_neg outer]
      omega

theorem hashEntries_ok {totalBytes : Nat} {paths : List OsString} {bytes : List UInt8}
    (ran : hashEntries files totalBytes paths = .ok bytes)
    (fits : totalBytes ≤ maxRootFilesystemTotalBytes) :
    bytes = (tree.records paths).flatMap Record.bytes ∧
      (∀ path ∈ paths, ∃ inode, tree.lookup path = some inode ∧ inode.Sealed) ∧
      totalBytes + (paths.map tree.fileBytes).sum ≤ maxRootFilesystemTotalBytes := by
  induction paths generalizing totalBytes bytes with
  | nil =>
    cases ran
    exact ⟨rfl, by simp, by simpa using fits⟩
  | cons path paths ih =>
    simp only [hashEntries, bind_ok, pure_ok] at ran
    obtain ⟨hashed, first, rest, ran, rfl⟩ := ran
    obtain ⟨inode, found, closed, own, counted, bounded⟩ := hashEntry_ok shows first
    obtain ⟨others, all, total⟩ := ih ran (bounded fits)
    have record : tree.record path =
        some ⟨path, permissionBits inode.metadata.mode, inode.kind⟩ := by
      simp [Tree.record, found]
    have size : tree.fileBytes path = inode.fileBytes := by
      simp [Tree.fileBytes, found]
    refine ⟨?_, ?_, ?_⟩
    · rw [Tree.records, List.filterMap_cons_some record, List.flatMap_cons, own, others]
      rfl
    · intro other member
      rcases List.mem_cons.mp member with rfl | member
      · exact ⟨inode, found, closed⟩
      · exact all other member
    · rw [List.map_cons, List.sum_cons, size]
      omega

/-- What an accepted tree keeps to. -/
structure Accepted (tree : Tree) : Prop where
  root : tree.root.metadata.fileType = .directory ∧ writable tree.root.metadata.mode = false
  few : tree.entries.keys.length ≤ maxRootFilesystemEntries
  short : ∀ path ∈ tree.entries, path.length ≤ maxSandboxPathBytes
  closed : ∀ path ∈ tree.entries, ∃ inode, tree.lookup path = some inode ∧ inode.Sealed
  total : (tree.entries.keys.map tree.fileBytes).sum ≤ maxRootFilesystemTotalBytes

/-- A successful measurement hashes the bytes of the tree, whatever the listing order was. -/
theorem hashedBytes_ok {bytes : List UInt8} (ran : hashedBytes files = .ok bytes) :
    bytes = tree.bytes ∧ Accepted tree := by
  simp only [hashedBytes, bind_ok, orError_ok, check_ok, pure_ok, Bool.and_eq_true, beq_iff_eq,
    Bool.not_eq_true', exists_const] at ran
  obtain ⟨paths, collected, metadata, stat, sound, entries, ran, rfl⟩ := ran
  have perm := collectRelativePaths_perm shows collected
  have done := traversed_collectFrom shows (traversed_initial files tree) collected
  obtain ⟨hashed, all, total⟩ := hashEntries_ok shows ran (Nat.zero_le _)
  obtain ⟨root, found, rfl⟩ := shows.stat [] metadata stat
  have root_eq : tree.root = root := by simpa [Layout.lookup] using found
  subst root_eq
  have sorted : sortBy compare paths = sortBy compare tree.entries.keys :=
    (sortBy_eq_iff_perm compare).mpr perm
  have met : ∀ path ∈ tree.entries, path ∈ paths :=
    fun path member => perm.mem_iff.mpr (AList.mem_keys.mp member)
  refine ⟨?_, sound, ?_, ?_, ?_, ?_⟩
  · rw [Tree.bytes, hashed, sorted]
  · rw [← perm.length_eq]
    exact done.fits
  · intro path member
    exact (done.found path (met path member)).2.1
  · intro path member
    exact all path (mem_sortBy.mpr (met path member))
  · have same := ((sortBy_perm compare paths).trans perm).map tree.fileBytes
    rw [← same.sum_nat]
    omega

end Hash

/-! ### Reading the tree back -/

def Record.Fits (record : Record) : Prop :=
  record.path.length < 256 ^ 4 ∧ ∀ content, record.kind = .file content → content.length < 256 ^ 8

theorem delimited_kind :
    Delimited (fun kind : Kind => ∀ content, kind = .file content → content.length < 256 ^ 8)
      Kind.bytes := by
  have letters : osStr "D" = [68] ∧ osStr "F" = [70] := by decide
  intro a b ha hb rest rest' same
  cases a with
  | directory =>
    cases b with
    | directory => exact ⟨rfl, List.append_cancel_left same⟩
    | file content => simp [Kind.bytes, letters] at same
  | file content =>
    cases b with
    | directory => simp [Kind.bytes, letters] at same
    | file content' =>
      simp only [Kind.bytes, List.append_assoc, List.append_cancel_left_eq] at same
      obtain ⟨rfl, rests⟩ := delimited_lengthPrefixed 8 (ha content rfl) (hb content' rfl) same
      exact ⟨rfl, rests⟩

theorem toBeBytes_delimited : Delimited (fun _ => True) toBeBytes :=
  .of_length (fun n _ => Bytes.length_bigEndian 4 n.toNat) (fun a b _ _ same =>
    UInt32.toNat_inj.mp (Bytes.bigEndian_inj a.toNat_lt b.toNat_lt same))

theorem delimited_record : Delimited Record.Fits Record.bytes := by
  rintro ⟨path, permissions, kind⟩ ⟨path', permissions', kind'⟩ ⟨short, small⟩ ⟨short', small'⟩
    rest rest' same
  simp only [Record.bytes, List.append_assoc] at same
  obtain ⟨rfl, behindPath⟩ := delimited_lengthPrefixed 4 short short' same
  obtain ⟨rfl, behindMode⟩ := toBeBytes_delimited trivial trivial behindPath
  obtain ⟨rfl, rests⟩ := delimited_kind small small' behindMode
  exact ⟨rfl, rests⟩

/-- Two trees agree in everything the measurement is meant to cover. -/
structure SameTree (tree tree' : Tree) : Prop where
  root : permissionBits tree.root.metadata.mode = permissionBits tree'.root.metadata.mode
  paths : ∀ path, path ∈ tree.entries ↔ path ∈ tree'.entries
  entries : ∀ path inode inode', tree.entries.lookup path = some inode →
    tree'.entries.lookup path = some inode' →
    inode.metadata.fileType = inode'.metadata.fileType ∧
    permissionBits inode.metadata.mode = permissionBits inode'.metadata.mode ∧
    (inode.metadata.fileType = .file → inode.content = inode'.content)

section Reading
variable {tree tree' : Tree}

theorem Tree.lookup_entry (tree : Tree) {path : OsString} (member : path ∈ tree.entries) :
    tree.lookup path = tree.entries.lookup path := if_neg (tree.entry_ne_nil member)

/-- For accepted inodes, the record's kind is the file type with the content. -/
theorem kind_eq_iff {inode inode' : Inode} (closed : inode.Sealed) (closed' : inode'.Sealed) :
    inode.kind = inode'.kind ↔ inode.metadata.fileType = inode'.metadata.fileType ∧
      (inode.metadata.fileType = .file → inode.content = inode'.content) := by
  rcases closed.kind with inner | regular
  · rcases closed'.kind with inner' | regular'
    · simp [Inode.kind, inner, inner']
    · simp [Inode.kind, inner, regular']
  · rcases closed'.kind with inner' | regular'
    · simp [Inode.kind, regular, inner']
    · simp [Inode.kind, regular, regular']

theorem mem_records {tree : Tree} {paths : List OsString} {record : Record} :
    record ∈ tree.records paths ↔
      record.path ∈ paths ∧ tree.record record.path = some record := by
  have own : ∀ path, tree.record path = some record → record.path = path := by
    intro path found
    obtain ⟨inode, -, rfl⟩ := Option.map_eq_some_iff.mp found
    rfl
  rw [Tree.records, List.mem_filterMap]
  constructor
  · rintro ⟨path, listed, found⟩
    obtain rfl := own path found
    exact ⟨listed, found⟩
  · rintro ⟨listed, found⟩
    exact ⟨record.path, listed, found⟩

theorem record_fits (accepted : Accepted tree) {record : Record}
    (member : record ∈ tree.records (sortBy compare tree.entries.keys)) : record.Fits := by
  obtain ⟨listed, found⟩ := mem_records.mp member
  have entry : record.path ∈ tree.entries := AList.mem_keys.mpr (mem_sortBy.mp listed)
  have short := accepted.short record.path entry
  obtain ⟨inode, lookup, closed⟩ := accepted.closed record.path entry
  have kind_eq : record.kind = inode.kind := by
    simp only [Tree.record, lookup, Option.map_some, Option.some.injEq] at found
    rw [← found]
  simp only [maxSandboxPathBytes] at short
  refine ⟨by omega, ?_⟩
  intro content kind
  rw [kind_eq] at kind
  rcases closed.kind with inner | regular
  · simp [Inode.kind, inner] at kind
  · have small := closed.small regular
    simp only [Inode.kind, regular, reduceCtorEq, if_false, Kind.file.injEq] at kind
    simp only [maxRootFilesystemFileBytes] at small
    rw [← kind]
    omega

theorem map_path_records (accepted : Accepted tree) {paths : List OsString}
    (inside : ∀ path ∈ paths, path ∈ tree.entries) :
    (tree.records paths).map Record.path = paths := by
  induction paths with
  | nil => rfl
  | cons path paths ih =>
    obtain ⟨inode, lookup, -⟩ := accepted.closed path (inside path List.mem_cons_self)
    have record : tree.record path =
        some ⟨path, permissionBits inode.metadata.mode, inode.kind⟩ := by
      simp [Tree.record, lookup]
    rw [Tree.records, List.filterMap_cons_some record, List.map_cons]
    exact congrArg _ (ih (fun other member => inside other (List.mem_cons_of_mem _ member)))

theorem records_inj (accepted : Accepted tree) (accepted' : Accepted tree')
    (same : (tree.records (sortBy compare tree.entries.keys)).flatMap Record.bytes =
      (tree'.records (sortBy compare tree'.entries.keys)).flatMap Record.bytes) :
    tree.records (sortBy compare tree.entries.keys) =
      tree'.records (sortBy compare tree'.entries.keys) := by
  refine delimited_record.flatMap_inj ?_ (fun _ => record_fits accepted)
    (fun _ => record_fits accepted') same
  intro record empty
  have length := congrArg List.length empty
  simp [Record.bytes, toBeBytes] at length

theorem record_eq_iff (accepted : Accepted tree) (accepted' : Accepted tree') {path : OsString}
    (entry : path ∈ tree.entries) (entry' : path ∈ tree'.entries) :
    tree.record path = tree'.record path ↔
      ∀ inode inode', tree.entries.lookup path = some inode →
        tree'.entries.lookup path = some inode' →
        inode.metadata.fileType = inode'.metadata.fileType ∧
        permissionBits inode.metadata.mode = permissionBits inode'.metadata.mode ∧
        (inode.metadata.fileType = .file → inode.content = inode'.content) := by
  obtain ⟨inode, found, closed⟩ := accepted.closed path entry
  obtain ⟨inode', found', closed'⟩ := accepted'.closed path entry'
  simp only [Tree.record, ← tree.lookup_entry entry, ← tree'.lookup_entry entry', found, found',
    Option.map_some, Option.some.injEq, Record.mk.injEq, true_and, kind_eq_iff closed closed']
  constructor
  · rintro ⟨mode, kind, content⟩ _ _ rfl rfl
    exact ⟨kind, mode, content⟩
  · intro same
    obtain ⟨kind, mode, content⟩ := same inode inode' rfl rfl
    exact ⟨mode, kind, content⟩

theorem records_eq_iff (accepted : Accepted tree) (accepted' : Accepted tree') :
    tree.records (sortBy compare tree.entries.keys) =
        tree'.records (sortBy compare tree'.entries.keys) ↔
      (∀ path, path ∈ tree.entries ↔ path ∈ tree'.entries) ∧
      ∀ path ∈ tree.entries, tree.record path = tree'.record path := by
  have inside : ∀ (t : Tree) (path : OsString),
      path ∈ sortBy compare t.entries.keys ↔ path ∈ t.entries :=
    fun t path => mem_sortBy.trans AList.mem_keys.symm
  constructor
  · intro same
    have sorted := congrArg (List.map Record.path) same
    rw [map_path_records accepted (fun path => (inside tree path).mp),
      map_path_records accepted' (fun path => (inside tree' path).mp)] at sorted
    refine ⟨fun path => by rw [← inside tree, sorted, inside tree'], ?_⟩
    intro path entry
    obtain ⟨inode, found, -⟩ := accepted.closed path entry
    let record : Record := ⟨path, permissionBits inode.metadata.mode, inode.kind⟩
    have own : tree.record record.path = some record := by
      simp [Tree.record, record, found]
    have member : record ∈ tree.records (sortBy compare tree.entries.keys) :=
      mem_records.mpr ⟨(inside tree path).mpr entry, own⟩
    rw [same] at member
    exact own.trans (mem_records.mp member).2.symm
  · rintro ⟨paths, records⟩
    have perm : tree.entries.keys.Perm tree'.entries.keys := by
      refine (List.perm_ext_iff_of_nodup tree.entries.keys_nodup tree'.entries.keys_nodup).mpr ?_
      intro path
      rw [← AList.mem_keys, ← AList.mem_keys, paths]
    rw [Tree.records, Tree.records, ← (sortBy_eq_iff_perm compare).mpr perm]
    exact List.filterMap_congr (fun path listed => records path ((inside tree path).mp listed))

/-- The bytes of an accepted tree determine it, and only the covered parts matter. -/
theorem bytes_eq_iff (accepted : Accepted tree) (accepted' : Accepted tree') :
    tree.bytes = tree'.bytes ↔ SameTree tree tree' := by
  constructor
  · intro same
    simp only [Tree.bytes, List.append_assoc, List.append_cancel_left_eq] at same
    obtain ⟨root, entries⟩ := toBeBytes_delimited trivial trivial same
    have records := records_inj accepted accepted' entries
    obtain ⟨paths, each⟩ := (records_eq_iff accepted accepted').mp records
    refine ⟨root, paths, ?_⟩
    intro path inode inode' found found'
    have entry : path ∈ tree.entries := AList.lookup_isSome.mp (found ▸ rfl)
    exact (record_eq_iff accepted accepted' entry ((paths path).mp entry)).mp (each path entry)
      inode inode' found found'
  · rintro ⟨root, paths, entries⟩
    have each : ∀ path ∈ tree.entries, tree.record path = tree'.record path :=
      fun path entry => (record_eq_iff accepted accepted' entry ((paths path).mp entry)).mpr
        (entries path)
    rw [Tree.bytes, Tree.bytes, root, (records_eq_iff accepted accepted').mpr ⟨paths, each⟩]

end Reading

theorem hashedBytes_canonical :
    (∀ files tree, Shows files tree → ∀ paths, collectRelativePaths files = .ok paths →
      paths.Nodup ∧ ∀ path, path ∈ paths ↔ path ∈ tree.entries) ∧
    (∀ files tree, Shows files tree → ∀ bytes, hashedBytes files = .ok bytes →
      tree.entries.keys.length ≤ maxRootFilesystemEntries ∧
      (∀ path inode, tree.entries.lookup path = some inode → inode.metadata.fileType = .file →
        inode.content.length ≤ maxRootFilesystemFileBytes) ∧
      (tree.entries.keys.map tree.fileBytes).sum ≤ maxRootFilesystemTotalBytes) ∧
    (∀ files files' tree, Shows files tree → Shows files' tree → ∀ bytes bytes',
      hashedBytes files = .ok bytes → hashedBytes files' = .ok bytes' → bytes = bytes') ∧
    (∀ files files' tree tree', Shows files tree → Shows files' tree' → ∀ bytes bytes',
      hashedBytes files = .ok bytes → hashedBytes files' = .ok bytes' →
      (bytes = bytes' ↔ SameTree tree tree')) := by
  refine ⟨?_, ?_, ?_, ?_⟩
  · intro files tree shows paths collected
    have perm := collectRelativePaths_perm shows collected
    exact ⟨perm.nodup_iff.mpr tree.entries.keys_nodup,
      fun path => perm.mem_iff.trans AList.mem_keys.symm⟩
  · intro files tree shows bytes ran
    have accepted := (hashedBytes_ok shows ran).2
    refine ⟨accepted.few, ?_, accepted.total⟩
    intro path inode found regular
    have entry : path ∈ tree.entries := AList.lookup_isSome.mp (found ▸ rfl)
    obtain ⟨own, lookup, closed⟩ := accepted.closed path entry
    rw [tree.lookup_entry entry, found] at lookup
    obtain rfl := Option.some.inj lookup
    exact closed.small regular
  · intro files files' tree shows shows' bytes bytes' ran ran'
    rw [(hashedBytes_ok shows ran).1, (hashedBytes_ok shows' ran').1]
  · intro files files' tree tree' shows shows' bytes bytes' ran ran'
    obtain ⟨rfl, accepted⟩ := hashedBytes_ok shows ran
    obtain ⟨rfl, accepted'⟩ := hashedBytes_ok shows' ran'
    exact bytes_eq_iff accepted accepted'

/-! ### A file system for every tree -/

def nameIn (directory path : OsString) : Option OsString :=
  let name := if directory = [] then path else path.drop (directory.length + 1)
  if name ≠ [] ∧ separator ∉ name ∧ join directory name = path then some name else none

theorem nameIn_eq_some {directory path name : OsString}
    (plain : directory.getLast? ≠ some separator) :
    nameIn directory path = some name ↔ FileName name ∧ path = join directory name := by
  simp only [nameIn, Option.ite_none_right_eq_some, Option.some.injEq]
  constructor
  · rintro ⟨⟨some_byte, one_piece, path_eq⟩, rfl⟩
    exact ⟨⟨some_byte, one_piece⟩, path_eq.symm⟩
  · rintro ⟨file, rfl⟩
    have cut : (if directory = [] then join directory name
        else (join directory name).drop (directory.length + 1)) = name := by
      rw [join_eq plain file]
      split
      · rfl
      · rw [List.drop_append]
        simp
    rw [cut]
    exact ⟨⟨file.1, file.2, rfl⟩, rfl⟩

/-- Answers every call from the tree; `order` is the order of the listings. -/
def Tree.files (tree : Tree) (order : List OsString → List OsString) : Files where
  readDir directory := (tree.lookup directory).bind (fun inode =>
    if inode.metadata.fileType = .directory then
      some ((order (tree.entries.keys.filterMap (nameIn directory))).map some)
    else none)
  symlinkMetadata path := (tree.lookup path).map Inode.metadata
  openFile path := (tree.lookup path).map (fun inode => ⟨some inode.metadata, [some inode.content]⟩)

theorem Tree.shows_files (tree : Tree) {order : List OsString → List OsString}
    (perm : ∀ names, (order names).Perm names) : Shows (tree.files order) tree where
  listed := by
    intro directory names listing
    obtain ⟨inode, found, listing⟩ := Option.bind_eq_some_iff.mp listing
    split at listing
    · rename_i inner
      have directory_ok : tree.IsDirectory directory := ⟨inode, found, inner⟩
      have plain := tree.plain_of_directory directory_ok
      have names_eq : order (tree.entries.keys.filterMap (nameIn directory)) = names :=
        List.map_injective_iff.mpr (Option.some_injective _) (Option.some.inj listing)
      have same := names_eq ▸ perm (tree.entries.keys.filterMap (nameIn directory))
      refine ⟨directory_ok, same.nodup_iff.mpr ?_, ?_⟩
      · refine tree.entries.keys_nodup.filterMap ?_
        intro path path' name named named'
        rw [((nameIn_eq_some plain).mp named).2, ((nameIn_eq_some plain).mp named').2]
      · intro name
        rw [same.mem_iff, List.mem_filterMap]
        constructor
        · rintro ⟨path, listed, named⟩
          obtain ⟨file, rfl⟩ := (nameIn_eq_some plain).mp named
          exact ⟨file, AList.mem_keys.mpr listed⟩
        · rintro ⟨file, entry⟩
          exact ⟨_, AList.mem_keys.mp entry, (nameIn_eq_some plain).mpr ⟨file, rfl⟩⟩
    · cases listing
  stat := by
    intro path metadata answer
    exact Option.map_eq_some_iff.mp answer
  delivered := by
    intro path inode file found _ opened chunks rest reads
    obtain ⟨own, lookup, rfl⟩ := Option.map_eq_some_iff.mp opened
    obtain rfl := Option.some.inj (found.symm.trans lookup)
    simp only at reads
    rcases chunks with _ | ⟨chunk, chunks⟩
    · exact List.nil_prefix
    · rw [List.map_cons, List.cons_append] at reads
      obtain ⟨first, empty⟩ := List.cons.inj reads
      obtain ⟨none_left, -⟩ := List.append_eq_nil_iff.mp empty.symm
      rw [← Option.some.inj first, List.map_eq_nil_iff.mp none_left]
      simp

def directoryInode (mode : UInt32) : Inode := ⟨⟨.directory, mode, 2, 4096, 1, 1⟩, []⟩

def emptyRoot (mode : UInt32) : Tree where
  root := directoryInode mode
  entries := ∅
  placed path member := absurd member (AList.notMem_empty path)
  sized path inode found regular := by
    simp only [Layout.lookup, AList.lookup_empty] at found
    split at found
    · obtain rfl := Option.some.inj found
      cases regular
    · cases found

/-- Only nine bits of the root's mode are hashed: a sticky bit leaves the bytes as they are. -/
theorem hashedBytes_sticky_root :
    (emptyRoot 0o40555).root.metadata.mode ≠ (emptyRoot 0o41555).root.metadata.mode ∧
    Shows ((emptyRoot 0o40555).files id) (emptyRoot 0o40555) ∧
    Shows ((emptyRoot 0o41555).files id) (emptyRoot 0o41555) ∧
    hashedBytes ((emptyRoot 0o40555).files id) = .ok (emptyRoot 0o40555).bytes ∧
    hashedBytes ((emptyRoot 0o41555).files id) = .ok (emptyRoot 0o40555).bytes := by
  refine ⟨by decide, Tree.shows_files _ (fun _ => .refl _), Tree.shows_files _ (fun _ => .refl _),
    ?_, ?_⟩
  · decide +kernel
  · decide +kernel

def toolInode (content : List UInt8) : Inode :=
  ⟨⟨.file, 0o100555, 1, content.length, 1, 7⟩, content⟩

def toolLayout (content : List UInt8) : Layout where
  root := directoryInode 0o40555
  entries := ⟨[⟨osStr "bin", directoryInode 0o40555⟩, ⟨osStr "bin/tool", toolInode content⟩,
    ⟨osStr "dev", directoryInode 0o40555⟩],
    (by decide : [osStr "bin", osStr "bin/tool", osStr "dev"].Nodup)⟩

def toolRoot (content : List UInt8) : Tree where
  toLayout := toolLayout content
  placed path member := by
    have root : (toolLayout content).IsDirectory [] := ⟨directoryInode 0o40555, rfl, rfl⟩
    have listed : path = osStr "bin" ∨ path = osStr "bin/tool" ∨ path = osStr "dev" := by
      simpa [toolLayout, AList.mem_keys, AList.keys, List.keys] using member
    rcases listed with rfl | rfl | rfl
    · exact ⟨[], osStr "bin", root, by decide, by decide⟩
    · exact ⟨osStr "bin", osStr "tool", ⟨directoryInode 0o40555, rfl, rfl⟩, by decide, by decide⟩
    · exact ⟨[], osStr "dev", root, by decide, by decide⟩
  sized path inode found regular := by
    have sizes : inode = directoryInode 0o40555 ∨ inode = toolInode content := by
      by_cases root : path = []
      · rw [Layout.lookup, if_pos root] at found
        exact .inl (Option.some.inj found).symm
      · rw [Layout.lookup, if_neg root] at found
        have member := AList.mem_lookup_iff.mp (Option.mem_def.mpr found)
        simp only [toolLayout, List.mem_cons, Sigma.mk.injEq, heq_eq_eq, List.not_mem_nil,
          or_false] at member
        rcases member with ⟨-, same⟩ | ⟨-, same⟩ | ⟨-, same⟩
        · exact .inl same
        · exact .inr same
        · exact .inl same
    rcases sizes with rfl | rfl
    · cases regular
    · rfl

theorem hashedBytes_canonical_tool :
    hashedBytes ((toolRoot [1, 2]).files id) = .ok (toolRoot [1, 2]).bytes ∧
    hashedBytes ((toolRoot [1, 2]).files List.reverse) = .ok (toolRoot [1, 2]).bytes ∧
    hashedBytes ((toolRoot [1, 3]).files id) = .ok (toolRoot [1, 3]).bytes ∧
    (toolRoot [1, 2]).bytes ≠ (toolRoot [1, 3]).bytes := by
  have listed : hashedBytes ((toolRoot [1, 2]).files id) = .ok (toolRoot [1, 2]).bytes := by
    decide +kernel
  have changed : hashedBytes ((toolRoot [1, 3]).files id) = .ok (toolRoot [1, 3]).bytes := by
    decide +kernel
  refine ⟨listed, by decide +kernel, changed, ?_⟩
  intro same
  have iff := hashedBytes_canonical.2.2.2 _ _ _ _ ((toolRoot [1, 2]).shows_files (fun _ => .refl _))
    ((toolRoot [1, 3]).shows_files (fun _ => .refl _)) _ _ listed changed
  have content := ((iff.mp same).entries (osStr "bin/tool") (toolInode [1, 2]) (toolInode [1, 3])
    rfl rfl).2.2 rfl
  exact absurd content (by decide)

end AiOs.ProcessAdapter.Rootfs
