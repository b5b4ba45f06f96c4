import AiOs.Process.Descriptor

/-! Which locations an accepted capability list names. The validator reads paths through
`Path::components`, which drops empty and `.` components, and looks for duplicates among the
strings; the Task contract splits the string. The two agree exactly on paths that spell no
dropped component. -/
namespace AiOs.ProcessAdapter

open OsString

/-- A path that spells a component which `Path::components` drops: an empty one or a `.`,
between two separators or at the end. -/
def Redundant (path : String) : Prop :=
  ['/', '/'] <:+: path.toList ∨ ['/', '.', '/'] <:+: path.toList ∨
    ['/'] <:+ path.toList ∨ ['/', '.'] <:+ path.toList

instance (path : String) : Decidable (Redundant path) :=
  inferInstanceAs (Decidable (_ ∨ _))

theorem validateSandboxAbsolutePath_osStr (path : String) :
    validateSandboxAbsolutePath (osStr path) = .ok () ↔
      path.toList.head? = some '/' ∧ path.utf8ByteSize ≤ maxSandboxPathBytes ∧
        '\x00' ∉ path.toList ∧ ['.', '.'] ∉ path.toList.splitOn '/' := by
  have nul : (0 : UInt8) ∈ osStr path ↔ '\x00' ∈ path.toList :=
    mem_osStr (by decide : '\x00'.val.toNat < 128)
  have parent : osStr ".." ∈ (osStr path).splitOn separator ↔
      ['.', '.'] ∈ path.toList.splitOn '/' := by
    rw [splitOn_osStr, List.mem_map]
    constructor
    · rintro ⟨piece, member, same⟩
      have dots : piece = ['.', '.'] := encoding_inj same
      exact dots ▸ member
    · exact fun member => ⟨_, member, rfl⟩
  rw [validateSandboxAbsolutePath_iff, isAbsolute_osStr, length_osStr, nul, parent]

theorem splitOn_of_absolute {path : String} (absolute : path.toList.head? = some '/') :
    ∃ rest, path.toList = '/' :: rest ∧
      path.toList.splitOn '/' = [] :: rest.splitOn '/' := by
  obtain ⟨rest, text⟩ : ∃ rest, path.toList = '/' :: rest := by
    cases shape : path.toList <;> simp_all
  refine ⟨rest, text, ?_⟩
  have cut := List.splitOn_append_cons_self [] rest (a := '/')
  simpa [text] using cut

/-- For a mountable entry, normalization is the absence of dropped components. -/
theorem normalized_iff {capability : FileCapability} (mountable : Mountable capability) :
    isNormalizedAbsolutePath capability.path = true ↔ ¬ Redundant capability.path := by
  obtain ⟨absolute, short, noNul, noParent⟩ :=
    (validateSandboxAbsolutePath_osStr _).mp mountable.path
  obtain ⟨rest, text, pieces⟩ := splitOn_of_absolute absolute
  have dropped : Redundant capability.path ↔
      [] ∈ rest.splitOn '/' ∨ ['.'] ∈ rest.splitOn '/' := by
    rw [mem_splitOn_iff (by simp), mem_splitOn_iff (by decide)]
    simp only [Redundant, text, List.cons_append, List.nil_append]
    tauto
  have parent : ['.', '.'] ∉ rest.splitOn '/' := fun member =>
    noParent (pieces ▸ List.mem_cons_of_mem _ member)
  rw [dropped]
  simp only [isNormalizedAbsolutePath, absolute, mountable.below, pieces, noNul,
    List.contains_eq_mem, List.drop_succ_cons, List.drop_zero, List.all_eq_true,
    isNormalComponent_iff, bne_iff_ne, beq_self_eq_true, decide_false, Bool.not_false,
    Bool.and_true, Bool.true_and, Bool.and_eq_true, decide_eq_true_eq, ne_eq]
  constructor
  · rintro ⟨_, normal⟩ (empty | dot)
    · exact (normal _ empty).1 rfl
    · exact (normal _ dot).2.1 rfl
  · intro kept
    refine ⟨?_, ?_⟩
    · exact ⟨by simp, short⟩
    · intro piece member
      refine ⟨?_, ?_, ?_⟩
      · rintro rfl
        exact kept (.inl member)
      · rintro rfl
        exact kept (.inr member)
      · rintro rfl
        exact parent member

theorem components_normalized {path : String} (normalized : isNormalizedAbsolutePath path = true) :
    ∃ rest, path.toList = '/' :: rest ∧ components (osStr path) =
      .rootDir :: (rest.splitOn '/').map (fun piece =>
        .normal (piece.flatMap String.utf8EncodeChar)) := by
  obtain ⟨_, _, pieces, some_piece, shape, normal⟩ := (isNormalizedAbsolutePath_iff path).mp normalized
  have absolute := (pathComponents_absolute path).mpr ⟨pieces, some_piece, shape⟩
  obtain ⟨rest, text, cut⟩ := splitOn_of_absolute absolute
  obtain rfl : rest.splitOn '/' = pieces := (List.cons.inj (cut.symm.trans shape)).2
  refine ⟨rest, text, ?_⟩
  have root : isAbsolute (osStr path) = true := (isAbsolute_osStr path).mpr absolute
  have first : PathComponent.ofPiece [] = none := by decide
  rw [components, root, splitOn_osStr, cut, List.map_cons, List.flatMap_nil,
    List.filterMap_cons_none first, List.filterMap_map]
  simp only [↓reduceIte, List.singleton_append, List.cons.injEq, true_and]
  rw [← List.filterMap_eq_map]
  refine List.filterMap_congr ?_
  intro piece member
  obtain ⟨empty, dot, dots⟩ := normal piece member
  have noEmpty : ¬ (piece.flatMap String.utf8EncodeChar = []) := fun same =>
    empty (encoding_inj same)
  have noDot : ¬ (piece.flatMap String.utf8EncodeChar = osStr ".") := fun same =>
    dot (encoding_inj same)
  have noDots : ¬ (piece.flatMap String.utf8EncodeChar = osStr "..") := fun same =>
    dots (encoding_inj same)
  simp [PathComponent.ofPiece, noEmpty, noDot, noDots]

theorem components_inj {path other : String} (normalized : isNormalizedAbsolutePath path = true)
    (normalized' : isNormalizedAbsolutePath other = true)
    (same : components (osStr path) = components (osStr other)) : path = other := by
  obtain ⟨rest, text, shape⟩ := components_normalized normalized
  obtain ⟨rest', text', shape'⟩ := components_normalized normalized'
  have pieces := (List.cons.inj (shape.symm.trans (same.trans shape'))).2
  have inj : Function.Injective (fun piece : List Char =>
      PathComponent.normal (piece.flatMap String.utf8EncodeChar)) := by
    intro piece piece' coded
    exact encoding_inj (PathComponent.normal.inj coded)
  have cut : rest.splitOn '/' = rest'.splitOn '/' := (List.map_injective_iff.mpr inj) pieces
  refine String.toList_inj.mp ?_
  rw [text, text', splitOn_inj cut]

/-- The paths of a list are normalized and name pairwise different locations. -/
structure Located (capabilities : List FileCapability) : Prop where
  normalized : ∀ capability ∈ capabilities, isNormalizedAbsolutePath capability.path = true
  distinct : (capabilities.map (fun capability => components (osStr capability.path))).Nodup

/-- An accepted list names normalized, pairwise different locations exactly when none of its
paths spells a component that is dropped. -/
theorem validateCapabilities_located (capabilities : List FileCapability)
    (accepted : validateCapabilities capabilities = .ok ()) :
    Located capabilities ↔ ∀ capability ∈ capabilities, ¬ Redundant capability.path := by
  obtain ⟨_, mountable, nodup⟩ := (validateCapabilities_iff capabilities).mp accepted
  have normal : ∀ capability ∈ capabilities,
      (isNormalizedAbsolutePath capability.path = true ↔ ¬ Redundant capability.path) :=
    fun capability member => normalized_iff (mountable capability member)
  constructor
  · exact fun located capability member =>
      (normal capability member).mp (located.normalized capability member)
  · intro kept
    have normalized : ∀ capability ∈ capabilities,
        isNormalizedAbsolutePath capability.path = true := fun capability member =>
      (normal capability member).mpr (kept capability member)
    refine ⟨normalized, ?_⟩
    refine List.Nodup.map_on ?_ nodup
    intro left hl right hr same
    have path : left.path = right.path := components_inj (normalized left hl) (normalized right hr) same
    have access : left.access = right.access := (mountable left hl).read.trans (mountable right hr).read.symm
    exact capabilityKey_inj (Prod.ext path access)

theorem validateCapabilities_located_two :
    validateCapabilities [⟨"/opt/b", .read⟩, ⟨"/opt/a", .read⟩] = .ok () ∧
      Located [⟨"/opt/b", .read⟩, ⟨"/opt/a", .read⟩] := by
  have accepted : validateCapabilities [⟨"/opt/b", .read⟩, ⟨"/opt/a", .read⟩] = .ok () := by
    decide +kernel
  refine ⟨accepted, (validateCapabilities_located _ accepted).mpr ?_⟩
  decide +kernel

/-- The same directory in two spellings, and the root with a doubled separator, are accepted. -/
theorem redundant_locations_accepted :
    validateCapabilities [⟨"/a", .read⟩, ⟨"/a/", .read⟩] = .ok () ∧
      ¬ Located [⟨"/a", .read⟩, ⟨"/a/", .read⟩] ∧
      validateCapabilities [⟨"//", .read⟩] = .ok () ∧ ¬ Located [⟨"//", .read⟩] := by
  refine ⟨by decide +kernel, ?_, by decide +kernel, ?_⟩
  · intro located
    exact absurd located.distinct (by decide +kernel)
  · intro located
    exact absurd (located.normalized _ (List.mem_singleton_self _)) (by decide +kernel)

end AiOs.ProcessAdapter
