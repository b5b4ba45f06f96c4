import AiOs.Core.Reference
import AiOs.Lib.Sort
import AiOs.Lib.UnixPath

/-! Filesystem Capability mounts of `aios-adapter-process`: the check of a capability list and
the order in which its objects are opened. -/
namespace AiOs.ProcessAdapter

open OsString

/-- Stable, redacted child-process failure categories. -/
inductive ProcessAdapterError where
  | invalidConfig
  | invalidSandbox
  | unsupportedPlatform
  | invalidArguments
  | argumentsDenied
  | executableChanged
  | spawnFailed
  | waitFailed
  | timedOut
  | exitFailed
  | outputFailed
  | invalidResourceControl
  | resourceLimitExceeded
  | seccompUnavailable
  | unsupportedFilesystemCapability
  | descriptorTransferFailed
  deriving DecidableEq, Repr

def maxSandboxPathBytes : Nat := 4096
def maxFilesystemCapabilityMounts : Nat := 128

def isNormal : PathComponent → Bool
  | .normal _ => true
  | _ => false

def validateSandboxAbsolutePath (path : OsString) : Except ProcessAdapterError Unit :=
  if !isAbsolute path || decide (maxSandboxPathBytes < path.length) || path.contains 0 then
    .error .invalidSandbox
  else
    match components path with
    | .rootDir :: rest => if rest.all isNormal then .ok () else .error .invalidSandbox
    | _ => .error .invalidSandbox

def accessRank : FileAccess → Nat
  | .read => 0
  | .write => 1

/-- The key a capability is compared by. -/
def capabilityKey (capability : FileCapability) : String × FileAccess :=
  (capability.path, capability.access)

def compareKeys (left right : String × FileAccess) : Ordering :=
  (compare left.1 right.1).then (compare (accessRank left.2) (accessRank right.2))

def compareCapabilities (left right : FileCapability) : Ordering :=
  compareKeys (capabilityKey left) (capabilityKey right)

def validateOrdered (previous : Option (String × FileAccess)) :
    List FileCapability → Except ProcessAdapterError Unit
  | [] => .ok ()
  | capability :: rest =>
    match validateSandboxAbsolutePath (osStr capability.path) with
    | .error e => .error e
    | .ok () =>
      if capability.path = "/" then .error .invalidSandbox
      else if capability.access ≠ .read then .error .unsupportedFilesystemCapability
      else
        let current := capabilityKey capability
        if previous = some current then .error .invalidSandbox
        else validateOrdered (some current) rest

def validateCapabilities (capabilities : List FileCapability) : Except ProcessAdapterError Unit :=
  if maxFilesystemCapabilityMounts < capabilities.length then .error .invalidSandbox
  else validateOrdered none (sortBy compareCapabilities capabilities)

instance : Std.TransCmp compareKeys :=
  inferInstanceAs (Std.TransCmp (compareLex (compareOn Prod.fst)
    (compareOn (fun key : String × FileAccess => accessRank key.2))))

instance : Std.TransCmp compareCapabilities :=
  inferInstanceAs (Std.TransCmp (compareLex (compareOn FileCapability.path)
    (compareOn (fun capability : FileCapability => accessRank capability.access))))

instance : Std.LawfulEqCmp compareKeys where
  compare_self := by
    intro key
    simp [compareKeys]
  eq_of_compare := by
    rintro ⟨path, access⟩ ⟨other, access'⟩ equal
    obtain ⟨paths, ranks⟩ : compare path other = .eq ∧
        compare (accessRank access) (accessRank access') = .eq := by
      simpa [compareKeys, Ordering.then_eq_eq] using equal
    have same : accessRank access = accessRank access' := Std.LawfulEqCmp.eq_of_compare ranks
    rw [Std.LawfulEqCmp.eq_of_compare paths]
    cases access <;> cases access' <;> first | rfl | cases same

theorem capabilityKey_inj {left right : FileCapability}
    (same : capabilityKey left = capabilityKey right) : left = right := by
  obtain ⟨path, access⟩ := left
  obtain ⟨path', access'⟩ := right
  cases same
  rfl

/-- The components the path check looks at. -/
theorem validateSandboxAbsolutePath_iff (path : OsString) :
    validateSandboxAbsolutePath path = .ok () ↔
      isAbsolute path = true ∧ path.length ≤ maxSandboxPathBytes ∧ 0 ∉ path ∧
        osStr ".." ∉ path.splitOn separator := by
  have pieces : ((path.splitOn separator).filterMap PathComponent.ofPiece).all isNormal = true ↔
      osStr ".." ∉ path.splitOn separator := by
    simp only [List.all_eq_true, List.mem_filterMap]
    constructor
    · intro normal parent
      have found := normal .parentDir ⟨_, parent, by decide⟩
      cases found
    · rintro absent component ⟨piece, member, shape⟩
      unfold PathComponent.ofPiece at shape
      split at shape
      · cases shape
      · split at shape
        · rename_i same
          exact absurd (same ▸ member) absent
        · cases Option.some.inj shape
          rfl
  unfold validateSandboxAbsolutePath
  by_cases absolute : isAbsolute path = true
  · have shape : components path =
        .rootDir :: (path.splitOn separator).filterMap PathComponent.ofPiece := by
      simp [components, absolute]
    rw [shape]
    by_cases short : path.length ≤ maxSandboxPathBytes
    · by_cases nul : (0 : UInt8) ∈ path
      · simp [nul]
      · simp only [absolute, Nat.not_lt.mpr short, List.contains_eq_mem, nul, decide_false,
          Bool.not_true, Bool.or_self, Bool.false_eq_true, ↓reduceIte, short, not_false_eq_true,
          true_and, ← pieces]
        split <;> simp_all
    · simp [short, Nat.lt_of_not_le short]
  · simp [absolute]

/-- What each entry of an accepted list satisfies. -/
structure Mountable (capability : FileCapability) : Prop where
  path : validateSandboxAbsolutePath (osStr capability.path) = .ok ()
  below : capability.path ≠ "/"
  read : capability.access = .read

theorem validateOrdered_iff (previous : Option (String × FileAccess))
    (capabilities : List FileCapability) :
    validateOrdered previous capabilities = .ok () ↔
      (∀ capability ∈ capabilities, Mountable capability) ∧
        (previous.toList ++ capabilities.map capabilityKey).IsChain (fun a b => a ≠ b) := by
  induction capabilities generalizing previous with
  | nil => cases previous <;> simp [validateOrdered]
  | cons capability rest ih =>
    have neighbours : (previous.toList ++ (capability :: rest).map capabilityKey).IsChain
        (fun a b => a ≠ b) ↔ previous ≠ some (capabilityKey capability) ∧
          ((some (capabilityKey capability)).toList ++ rest.map capabilityKey).IsChain
            (fun a b => a ≠ b) := by
      cases previous <;> simp
    rw [neighbours, List.forall_mem_cons, validateOrdered]
    split
    · rename_i error rejected
      constructor
      · intro accepted
        cases accepted
      · rintro ⟨⟨mountable, _⟩, _⟩
        cases rejected.symm.trans mountable.path
    · rename_i path
      by_cases root : capability.path = "/"
      · simp only [root, ↓reduceIte, reduceCtorEq, false_iff]
        exact fun all => all.1.1.below root
      · by_cases access : capability.access = .read
        · by_cases repeated : previous = some (capabilityKey capability)
          · simp [root, access, repeated]
          · simp only [root, access, repeated, ne_eq, not_true_eq_false, ↓reduceIte, ih,
              not_false_eq_true, true_and]
            have mountable : Mountable capability := ⟨path, root, access⟩
            simp [mountable]
        · simp only [root, access, ne_eq, not_false_eq_true, ↓reduceIte, reduceCtorEq, false_iff]
          exact fun all => access all.1.1.read

/-- A list is accepted when it is short, its entries are mountable and no entry is repeated. -/
theorem validateCapabilities_iff (capabilities : List FileCapability) :
    validateCapabilities capabilities = .ok () ↔
      capabilities.length ≤ maxFilesystemCapabilityMounts ∧
        (∀ capability ∈ capabilities, Mountable capability) ∧ capabilities.Nodup := by
  unfold validateCapabilities
  by_cases long : maxFilesystemCapabilityMounts < capabilities.length
  · simp [long, Nat.not_le.mpr long]
  rw [if_neg long, validateOrdered_iff]
  simp only [Nat.not_lt.mp long, true_and, mem_sortBy, Option.toList_none, List.nil_append]
  refine and_congr_right fun _ => ?_
  have keys : ((sortBy compareCapabilities capabilities).map capabilityKey).Nodup ↔
      capabilities.Nodup := by
    rw [List.nodup_map_iff (fun _ _ => capabilityKey_inj), (sortBy_perm _ _).nodup_iff]
  rw [← keys]
  constructor
  · intro neighbours
    have sorted := sortBy_pairwise compareCapabilities capabilities
    exact nodup_of_neighbours compareKeys (List.pairwise_map.mpr sorted) neighbours
  · exact fun distinct => List.Pairwise.isChain distinct

end AiOs.ProcessAdapter
