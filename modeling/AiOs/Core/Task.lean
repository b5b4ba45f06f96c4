import AiOs.Core.Address

/-! The Task contract of `aios-core` and its validator. Validation never stops at the
first problem: it collects one entry for each violated rule, in field order. -/
namespace AiOs

def maxGoalChars : Nat := 8192
def maxIdempotencyKeyBytes : Nat := 128
def maxFilesystemCapabilities : Nat := 128
def maxTools : Nat := 64
def maxApprovalActions : Nat := 64
def maxNetworkDestinations : Nat := 64
def maxPathBytes : Nat := 4096
def maxIdentifierBytes : Nat := 64

inductive FileAccess where
  | read
  | write
  deriving DecidableEq, Repr

structure FileCapability where
  path : String
  access : FileAccess
  deriving DecidableEq, Repr

inductive NetworkTransport where
  | tcp
  deriving DecidableEq, Repr

structure NetworkDestination where
  host : String
  transport : NetworkTransport
  port : UInt16
  deriving DecidableEq, Repr

inductive NetworkPolicy where
  | deny
  | allow (destinations : List NetworkDestination)
  deriving DecidableEq, Repr

structure CapabilitySet where
  filesystem : List FileCapability
  network : NetworkPolicy
  tools : List String
  deriving DecidableEq, Repr

structure Budget where
  wallTimeSeconds : UInt64
  memoryBytes : UInt64
  maxParallelAgents : UInt8
  deriving DecidableEq, Repr

structure ApprovalPolicy where
  requiredFor : List String
  deriving DecidableEq, Repr

structure TaskSpec where
  idempotencyKey : String
  goal : String
  capabilities : CapabilitySet
  budget : Budget
  approval : ApprovalPolicy
  deriving DecidableEq, Repr

/-- A validation failure names the field and explains the rule, never the value. -/
structure ValidationError where
  field : String
  message : String
  deriving DecidableEq, Repr

/-- All failures of one specification. An empty collection is not a failure. -/
structure ValidationErrors where
  errors : List ValidationError
  nonempty : errors ≠ []
  deriving DecidableEq, Repr

def ValidationErrors.new (errors : List ValidationError) : Option ValidationErrors :=
  if h : errors = [] then none else some ⟨errors, h⟩

/- Identifier, path and host syntax. The Rust checks on bytes and characters agree
here, since every accepted character is ASCII. -/

def isIdentifierChar (c : Char) : Bool :=
  c.isAlphanum || c == '.' || c == '_' || c == ':' || c == '-'

def isValidIdentifier (value : String) (maxBytes : Nat) : Bool :=
  !value.isEmpty && decide (value.utf8ByteSize ≤ maxBytes) && value.toList.all isIdentifierChar

def isNormalComponent (component : List Char) : Bool :=
  !component.isEmpty && component != ['.'] && component != ['.', '.']

def isNormalizedAbsolutePath (path : String) : Bool :=
  path.toList.head? == some '/' && path != "/" && decide (path.utf8ByteSize ≤ maxPathBytes)
    && !path.toList.contains '\x00'
    && ((path.toList.splitOn '/').drop 1).all isNormalComponent

def isHostLabel (label : List Char) : Bool :=
  !label.isEmpty && decide ((label.map Char.utf8Size).sum ≤ 63)
    && label.head?.any Char.isAlphanum && label.getLast?.any Char.isAlphanum
    && label.all (fun c => c.isAlphanum || c == '-')

def isValidNetworkHost (host : String) : Bool :=
  if host.isEmpty || decide (253 < host.utf8ByteSize) || host.toList.any Char.isUpper then false
  else if (IpAddr.parse host).isSome then true
  else (host.toList.splitOn '.').all isHostLabel

/-- Unicode `White_Space`, the class `str::trim` removes. -/
def isWhitespace (c : Char) : Bool :=
  (decide (0x09 ≤ c.toNat) && decide (c.toNat ≤ 0x0D)) || c.toNat == 0x20 || c.toNat == 0x85
    || c.toNat == 0xA0 || c.toNat == 0x1680
    || (decide (0x2000 ≤ c.toNat) && decide (c.toNat ≤ 0x200A))
    || c.toNat == 0x2028 || c.toNat == 0x2029 || c.toNat == 0x202F || c.toNat == 0x205F
    || c.toNat == 0x3000

/-- The errors pushed when one condition is violated. -/
def reject (violated : Bool) (field message : String) : List ValidationError :=
  if violated then [⟨field, message⟩] else []

def validateGoal (goal : String) : List ValidationError :=
  reject (goal.toList.all isWhitespace || decide (maxGoalChars < goal.toList.length)) "goal"
    "must contain between 1 and 8192 non-blank characters"

def validateIdentifier (field value : String) (maxBytes : Nat) : List ValidationError :=
  reject (!isValidIdentifier value maxBytes) field
    ("must be 1 to " ++ toString maxBytes ++ " ASCII letters, digits, '.', '_', ':', or '-'")

def validateAbsoluteNormalizedPath (path : String) : List ValidationError :=
  reject (!isNormalizedAbsolutePath path) "capabilities.filesystem.path"
    "must be a normalized absolute path below the filesystem root"

/-- The loop that four validators share: the entry's own check, then the duplicate check
against the keys seen so far. -/
def validateEntries {α κ : Type} [DecidableEq κ] (check : α → List ValidationError) (key : α → κ)
    (duplicate : ValidationError) : List κ → List α → List ValidationError
  | _, [] => []
  | seen, entry :: rest =>
    check entry ++ reject (key entry ∈ seen) duplicate.field duplicate.message
      ++ validateEntries check key duplicate (key entry :: seen) rest

def NetworkDestination.validate (destination : NetworkDestination) : List ValidationError :=
  reject (!isValidNetworkHost destination.host) "capabilities.network.destinations.host"
      "must contain lowercase host names or IP addresses without schemes or paths"
    ++ reject (destination.port == 0) "capabilities.network.destinations.port"
      "must be between 1 and 65535"

def NetworkPolicy.validate : NetworkPolicy → List ValidationError
  | .deny => []
  | .allow destinations =>
    reject (destinations.isEmpty || decide (maxNetworkDestinations < destinations.length))
        "capabilities.network.destinations" "must contain between 1 and 64 entries"
      ++ validateEntries NetworkDestination.validate (fun d => (d.host, d.transport, d.port))
        ⟨"capabilities.network.destinations", "must not contain duplicate entries"⟩ [] destinations

def CapabilitySet.validate (capabilities : CapabilitySet) : List ValidationError :=
  reject (decide (maxFilesystemCapabilities < capabilities.filesystem.length))
      "capabilities.filesystem" "must contain at most 128 entries"
    ++ validateEntries (fun c : FileCapability => validateAbsoluteNormalizedPath c.path)
      (fun c => (c.path, c.access))
      ⟨"capabilities.filesystem", "must not contain duplicate path and access entries"⟩ []
      capabilities.filesystem
    ++ capabilities.network.validate
    ++ reject (decide (maxTools < capabilities.tools.length))
      "capabilities.tools" "must contain at most 64 entries"
    ++ validateEntries (fun tool => validateIdentifier "capabilities.tools" tool maxIdentifierBytes)
      id ⟨"capabilities.tools", "must not contain duplicate entries"⟩ [] capabilities.tools

def Budget.validate (budget : Budget) : List ValidationError :=
  reject (budget.wallTimeSeconds == 0) "budget.wall_time_seconds" "must be greater than zero"
    ++ reject (budget.memoryBytes == 0) "budget.memory_bytes" "must be greater than zero"
    ++ reject (!(decide (1 ≤ budget.maxParallelAgents) && decide (budget.maxParallelAgents ≤ 8)))
      "budget.max_parallel_agents" "must be between 1 and 8"

def ApprovalPolicy.validate (approval : ApprovalPolicy) : List ValidationError :=
  reject (decide (maxApprovalActions < approval.requiredFor.length))
      "approval.required_for" "must contain at most 64 entries"
    ++ validateEntries
      (fun action => validateIdentifier "approval.required_for" action maxIdentifierBytes)
      id ⟨"approval.required_for", "must not contain duplicate entries"⟩ [] approval.requiredFor

/-- Validates all fields, in the order goal, key, capabilities, budget, approval. -/
def TaskSpec.validate (spec : TaskSpec) : Except ValidationErrors Unit :=
  match ValidationErrors.new
      (validateGoal spec.goal
        ++ validateIdentifier "idempotency_key" spec.idempotencyKey maxIdempotencyKeyBytes
        ++ spec.capabilities.validate ++ spec.budget.validate ++ spec.approval.validate) with
  | some errors => .error errors
  | none => .ok ()

def TaskSpec.Valid (spec : TaskSpec) : Prop := spec.validate = .ok ()

instance (spec : TaskSpec) : Decidable spec.Valid :=
  match h : spec.validate with
  | .ok () => isTrue h
  | .error _ => isFalse (fun valid => by rw [TaskSpec.Valid, h] at valid; cases valid)

theorem ValidationErrors.new_eq_none {errors : List ValidationError} :
    ValidationErrors.new errors = none ↔ errors = [] := by
  unfold ValidationErrors.new
  split <;> simp_all

/-- A specification is valid exactly when none of its five parts reports anything. -/
theorem TaskSpec.valid_iff (spec : TaskSpec) :
    spec.Valid ↔ validateGoal spec.goal = [] ∧
      validateIdentifier "idempotency_key" spec.idempotencyKey maxIdempotencyKeyBytes = [] ∧
      spec.capabilities.validate = [] ∧ spec.budget.validate = [] ∧ spec.approval.validate = [] := by
  unfold TaskSpec.Valid TaskSpec.validate
  split
  · rename_i errors h
    have failed := mt ValidationErrors.new_eq_none.mpr (h ▸ Option.some_ne_none errors)
    simp only [List.append_eq_nil_iff, and_assoc] at failed
    simp [failed]
  · rename_i h
    rw [ValidationErrors.new_eq_none] at h
    simpa only [List.append_eq_nil_iff, and_assoc, true_iff] using h

theorem validateEntries_nil {α κ : Type} [DecidableEq κ] {check : α → List ValidationError}
    {key : α → κ} {duplicate : ValidationError} {seen : List κ} {entries : List α}
    (passed : validateEntries check key duplicate seen entries = []) :
    ∀ entry ∈ entries, check entry = [] := by
  induction entries generalizing seen with
  | nil => simp
  | cons first rest ih =>
    simp only [validateEntries, List.append_eq_nil_iff] at passed
    intro entry member
    rcases List.mem_cons.mp member with rfl | later
    · exact passed.1.1
    · exact ih passed.2 entry later

theorem validateEntries_length {α κ : Type} [DecidableEq κ] {check : α → List ValidationError}
    {key : α → κ} {duplicate : ValidationError} {seen : List κ} {entries : List α}
    (failing : ∀ entry ∈ entries, check entry ≠ []) :
    entries.length ≤ (validateEntries check key duplicate seen entries).length := by
  induction entries generalizing seen with
  | nil => simp
  | cons first rest ih =>
    have one := List.length_pos_iff.mpr (failing first List.mem_cons_self)
    have others : rest.length ≤
        (validateEntries check key duplicate (key first :: seen) rest).length :=
      ih fun entry member => failing entry (List.mem_cons_of_mem first member)
    simp only [validateEntries, List.length_append, List.length_cons]
    omega

theorem TaskSpec.errors_of_validate {spec : TaskSpec} {errors : ValidationErrors}
    (invalid : spec.validate = .error errors) :
    errors.errors = validateGoal spec.goal
      ++ validateIdentifier "idempotency_key" spec.idempotencyKey maxIdempotencyKeyBytes
      ++ spec.capabilities.validate ++ spec.budget.validate ++ spec.approval.validate := by
  unfold TaskSpec.validate ValidationErrors.new at invalid
  split at invalid
  · rename_i found collected
    cases Except.error.inj invalid
    split at collected
    · cases collected
    · cases Option.some.inj collected
      rfl
  · cases invalid

theorem TaskSpec.Valid.destination {spec : TaskSpec} (valid : spec.Valid)
    {destinations : List NetworkDestination}
    (allows : spec.capabilities.network = .allow destinations) :
    ∀ destination ∈ destinations, isValidNetworkHost destination.host = true ∧
      destination.port ≠ 0 := by
  have capabilities := (spec.valid_iff.mp valid).2.2.1
  simp only [CapabilitySet.validate, allows, NetworkPolicy.validate, List.append_eq_nil_iff]
    at capabilities
  intro destination member
  have passed := validateEntries_nil capabilities.1.1.2.2 destination member
  simp only [NetworkDestination.validate, reject, List.append_eq_nil_iff] at passed
  constructor
  · by_contra wrong
    simp [wrong] at passed
  · intro zero
    simp [zero] at passed

end AiOs
