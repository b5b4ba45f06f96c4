import AiOs.Core.Policy
import AiOs.Lib.Split

/-! The capability policy against its specification. The specification speaks about lists of
path components and about sets of grants; it knows neither string prefixes nor the order in
which the policy looks. -/
namespace AiOs

def pathComponents (path : String) : List (List Char) := path.toList.splitOn '/'

/-- A normalized absolute path: nothing stands before the first separator, and some ordinary
components follow. -/
def NormalizedPath (path : String) : Prop :=
  path.utf8ByteSize ≤ maxPathBytes ∧ '\x00' ∉ path.toList ∧
    ∃ components ≠ [], pathComponents path = [] :: components ∧
      ∀ component ∈ components, component ≠ [] ∧ component ≠ ['.'] ∧ component ≠ ['.', '.']

/-- A request whose strings have the form their kind needs. -/
def CapabilityRequest.WellFormed : CapabilityRequest → Prop
  | .file path _ => NormalizedPath path
  | .network host _ port => isValidNetworkHost host = true ∧ port ≠ 0
  | .tool name action =>
    isValidIdentifier name maxToolNameBytes = true ∧ isValidIdentifier action maxActionBytes = true

def NetworkPolicy.destinations : NetworkPolicy → List NetworkDestination
  | .deny => []
  | .allow destinations => destinations

/-- Some capability covers the request. A file capability covers every path whose components
begin with its own. -/
def CapabilitySet.Grants (capabilities : CapabilitySet) : CapabilityRequest → Prop
  | .file path access => ∃ capability ∈ capabilities.filesystem,
      capability.access = access ∧ pathComponents capability.path <+: pathComponents path
  | .network host transport port =>
    (⟨host, transport, port⟩ : NetworkDestination) ∈ capabilities.network.destinations
  | .tool tool _ => tool ∈ capabilities.tools

structure CapabilitySet.Extends (more capabilities : CapabilitySet) : Prop where
  filesystem : capabilities.filesystem ⊆ more.filesystem
  network : capabilities.network.destinations ⊆ more.network.destinations
  tools : capabilities.tools ⊆ more.tools

theorem CapabilitySet.Extends.grants {more capabilities : CapabilitySet}
    (extends_ : more.Extends capabilities) {request : CapabilityRequest}
    (granted : capabilities.Grants request) : more.Grants request := by
  cases request with
  | file path access =>
    obtain ⟨capability, member, covers⟩ := granted
    exact ⟨capability, extends_.filesystem member, covers⟩
  | network host transport port => exact extends_.network granted
  | tool tool action => exact extends_.tools granted

theorem isNormalComponent_iff (component : List Char) :
    isNormalComponent component = true ↔
      component ≠ [] ∧ component ≠ ['.'] ∧ component ≠ ['.', '.'] := by
  simp [isNormalComponent, and_assoc]

theorem pathComponents_absolute (path : String) :
    path.toList.head? = some '/' ↔
      ∃ components ≠ [], pathComponents path = [] :: components := by
  unfold pathComponents
  cases path.toList with
  | nil => simp
  | cons c rest =>
    rw [List.splitOn_cons_eq_if_modifyHead, List.head?_cons, Option.some.injEq]
    by_cases slash : c = '/'
    · simp [slash, List.splitOn_ne_nil]
    · obtain ⟨first, pieces, shape⟩ := List.exists_cons_of_ne_nil (List.splitOn_ne_nil '/' rest)
      simp [slash, shape]

theorem isNormalizedAbsolutePath_iff (path : String) :
    isNormalizedAbsolutePath path = true ↔ NormalizedPath path := by
  simp only [isNormalizedAbsolutePath, Bool.and_eq_true, beq_iff_eq, bne_iff_ne, ne_eq,
    decide_eq_true_eq, Bool.not_eq_true', List.all_eq_true, isNormalComponent_iff,
    pathComponents_absolute, NormalizedPath]
  constructor
  · rintro ⟨⟨⟨⟨⟨components, some_component, shape⟩, _⟩, short⟩, noNul⟩, normal⟩
    refine ⟨short, by simpa using noNul, components, some_component, shape, ?_⟩
    rwa [← pathComponents, shape] at normal
  · rintro ⟨short, noNul, components, some_component, shape, normal⟩
    refine ⟨⟨⟨⟨⟨components, some_component, shape⟩, ?_⟩, short⟩, by simpa using noNul⟩, ?_⟩
    -- The root itself has one empty component behind its separator.
    · rintro rfl
      have root : pathComponents "/" = [[], []] := by decide
      cases List.cons.inj (root.symm.trans shape) |>.2
      exact (normal [] (by simp)).1 rfl
    · rwa [← pathComponents, shape]

/-- The string test is the component test. -/
theorem pathIsWithin_iff (path capabilityPath : String) :
    CapabilityPolicy.pathIsWithin path capabilityPath = true ↔
      pathComponents capabilityPath <+: pathComponents path := by
  unfold pathComponents
  rw [splitOn_prefix_iff]
  simp only [CapabilityPolicy.pathIsWithin, Bool.or_eq_true, Bool.and_eq_true, beq_iff_eq,
    List.isPrefixOf_iff_prefix, String.ext_iff]
  refine or_congr_right ⟨?_, ?_⟩
  · rintro ⟨⟨rest, joined⟩, slash⟩
    rw [← joined, List.drop_left] at slash
    obtain ⟨tail, rfl⟩ : ∃ tail, rest = '/' :: tail := by
      cases rest <;> simp_all
    exact ⟨tail, joined.symm⟩
  · rintro ⟨rest, joined⟩
    rw [joined]
    exact ⟨List.prefix_append _ _, by rw [List.drop_left]; rfl⟩

namespace CapabilityPolicy

/-- The shape the three evaluations share: the form, the grant, then the approval. -/
theorem finish_iff (policy : CapabilityPolicy) {malformed granted : Bool} {action : String}
    {formed grants : Prop} (form : malformed = false ↔ formed) (found : granted = true ↔ grants)
    (decision : PolicyDecision) :
    (if malformed then .deny .invalidRequest else policy.finish granted action) = decision ↔
      ¬ formed ∧ decision = .deny .invalidRequest ∨
      formed ∧ (¬ grants ∧ decision = .deny .capabilityNotGranted ∨
        grants ∧ action ∈ policy.task.approval.requiredFor ∧ decision = .approvalRequired ∨
        grants ∧ action ∉ policy.task.approval.requiredFor ∧ decision = .allow) := by
  rw [← form, ← found]
  cases malformed with
  | true => simp [eq_comm]
  | false =>
    cases granted with
    | false => simp [finish, eq_comm]
    | true =>
      by_cases required : action ∈ policy.task.approval.requiredFor
      · have answer : policy.finish true action = .approvalRequired := by simp [finish, required]
        simp [answer, required, eq_comm]
      · have answer : policy.finish true action = .allow := by simp [finish, required]
        simp [answer, required, eq_comm]

/-- The whole evaluation as its specification has it. -/
theorem evaluate_iff (policy : CapabilityPolicy) (request : CapabilityRequest)
    (decision : PolicyDecision) :
    policy.evaluate request = decision ↔
      ¬ request.WellFormed ∧ decision = .deny .invalidRequest ∨
      request.WellFormed ∧
        (¬ policy.task.capabilities.Grants request ∧ decision = .deny .capabilityNotGranted ∨
        policy.task.capabilities.Grants request ∧
          request.action ∈ policy.task.approval.requiredFor ∧ decision = .approvalRequired ∨
        policy.task.capabilities.Grants request ∧
          request.action ∉ policy.task.approval.requiredFor ∧ decision = .allow) := by
  cases request with
  | file path access =>
    refine policy.finish_iff ?_ ?_ decision
    · rw [CapabilityRequest.WellFormed, ← isNormalizedAbsolutePath_iff, Bool.not_eq_false']
    · simp [CapabilitySet.Grants, pathIsWithin_iff]
  | network host transport port =>
    refine policy.finish_iff ?_ ?_ decision
    · simp [CapabilityRequest.WellFormed]
    · unfold CapabilitySet.Grants NetworkPolicy.destinations
      cases policy.task.capabilities.network with
      | deny => simp
      | allow destinations =>
        rw [List.any_eq_true]
        constructor
        · rintro ⟨⟨_, ⟨⟩, _⟩, member, same⟩
          obtain ⟨rfl, rfl⟩ : _ = host ∧ _ = port := by simpa using same
          exact member
        · exact fun member => ⟨_, member, by simp⟩
  | tool name action =>
    refine policy.finish_iff ?_ ?_ decision
    · simp [CapabilityRequest.WellFormed]
    · simp [CapabilitySet.Grants]

/-- The decision of a policy is that of the specification; approvals decide nothing about
access, and further capabilities take none away. -/
theorem evaluate_reference (policy : CapabilityPolicy) (request : CapabilityRequest) :
    (policy.evaluate request = .deny .invalidRequest ↔ ¬ request.WellFormed) ∧
      (policy.evaluate request = .deny .capabilityNotGranted ↔
        request.WellFormed ∧ ¬ policy.task.capabilities.Grants request) ∧
      (policy.evaluate request = .approvalRequired ↔
        request.WellFormed ∧ policy.task.capabilities.Grants request ∧
          request.action ∈ policy.task.approval.requiredFor) ∧
      (policy.evaluate request = .allow ↔
        request.WellFormed ∧ policy.task.capabilities.Grants request ∧
          request.action ∉ policy.task.approval.requiredFor) ∧
      (∀ other : CapabilityPolicy, other.task.capabilities = policy.task.capabilities →
        ∀ reason, other.evaluate request = .deny reason ↔ policy.evaluate request = .deny reason) ∧
      (∀ other : CapabilityPolicy, other.task.capabilities.Extends policy.task.capabilities →
        (∀ reason, policy.evaluate request ≠ .deny reason) →
        (∀ reason, other.evaluate request ≠ .deny reason) ∧
          (other.task.approval = policy.task.approval →
            other.evaluate request = policy.evaluate request)) := by
  refine ⟨?_, ?_, ?_, ?_, ?_, ?_⟩
  · simp [evaluate_iff]
  · simp [evaluate_iff]
  · simp [evaluate_iff]
  · simp [evaluate_iff]
  · intro other same reason
    simp [evaluate_iff, same]
  · intro other more allowed
    have formed : request.WellFormed := by
      by_contra malformed
      exact allowed _ ((policy.evaluate_iff request _).mpr (.inl ⟨malformed, rfl⟩))
    have granted : policy.task.capabilities.Grants request := by
      by_contra missing
      exact allowed _ ((policy.evaluate_iff request _).mpr (.inr ⟨formed, .inl ⟨missing, rfl⟩⟩))
    have still := more.grants granted
    refine ⟨?_, ?_⟩
    · intro reason
      simp [evaluate_iff, formed, still]
    · intro approval
      rw [evaluate_iff]
      by_cases required : request.action ∈ policy.task.approval.requiredFor
      · have answer : policy.evaluate request = .approvalRequired := by
          simp [evaluate_iff, formed, granted, required]
        simp [formed, still, approval, required, answer]
      · have answer : policy.evaluate request = .allow := by
          simp [evaluate_iff, formed, granted, required]
        simp [formed, still, approval, required, answer]

end CapabilityPolicy

end AiOs
