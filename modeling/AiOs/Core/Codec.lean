import AiOs.Lib.Serde
import AiOs.Core.Task

/-! Tasks as JSON documents, as the derived encoders and decoders of `aios-core` write and read
them. Every record denies unknown fields. The network policy is buffered while its tag is
looked for, and what is read out of the buffer accepts an empty object as a unit. -/
namespace AiOs

open Serde

def FileAccess.name : FileAccess → String
  | .read => "read"
  | .write => "write"

def FileAccess.serialize (access : FileAccess) : Json := .string access.name

def FileAccess.deserialize : Json → Option FileAccess :=
  variant isNull [("read", .read), ("write", .write)]

namespace FileCapability

def fields : List String := ["path", "access"]

def serialize (capability : FileCapability) : Json :=
  .object [("path", .string capability.path), ("access", capability.access.serialize)]

def deserialize (json : Json) : Option FileCapability :=
  if isRecord fields json then do
    let path ← required text (entry fields "path" json)
    let access ← required FileAccess.deserialize (entry fields "access" json)
    some ⟨path, access⟩
  else none

end FileCapability

def NetworkTransport.name : NetworkTransport → String
  | .tcp => "tcp"

def NetworkTransport.serialize (transport : NetworkTransport) : Json := .string transport.name

def NetworkTransport.deserialize : Json → Option NetworkTransport := variant isUnit [("tcp", .tcp)]

namespace NetworkDestination

def fields : List String := ["host", "transport", "port"]

def serialize (destination : NetworkDestination) : Json :=
  .object [("host", .string destination.host), ("transport", destination.transport.serialize),
    ("port", .number destination.port.toNat)]

def deserialize (json : Json) : Option NetworkDestination :=
  if isRecord fields json then do
    let host ← required text (entry fields "host" json)
    let transport ← required NetworkTransport.deserialize (entry fields "transport" json)
    let port ← required (fun json => (unsigned (2 ^ 16) json).map UInt16.ofNat)
      (entry fields "port" json)
    some ⟨host, transport, port⟩
  else none

end NetworkDestination

namespace NetworkPolicy

/-- The fields beside the tag of the policy that allows something. -/
def allowFields : List String := ["destinations"]

def serialize : NetworkPolicy → Json
  | .deny => .object [("mode", .string "deny")]
  | .allow destinations => .object [("mode", .string "allow"),
      ("destinations", .array (destinations.map NetworkDestination.serialize))]

def deserialize (json : Json) : Option NetworkPolicy :=
  match untag "mode" json with
  | none => none
  | some (name, content) =>
    if name = "deny" then
      if isSkipped content then some .deny else none
    else if name = "allow" then
      if isRecord allowFields content then
        (required (array NetworkDestination.deserialize)
          (entry allowFields "destinations" content)).map .allow
      else none
    else none

end NetworkPolicy

namespace CapabilitySet

def fields : List String := ["filesystem", "network", "tools"]

def serialize (capabilities : CapabilitySet) : Json :=
  .object [("filesystem", .array (capabilities.filesystem.map FileCapability.serialize)),
    ("network", capabilities.network.serialize), ("tools", .array (capabilities.tools.map .string))]

def deserialize (json : Json) : Option CapabilitySet :=
  if isRecord fields json then do
    let filesystem ← defaulted (array FileCapability.deserialize) []
      (entry fields "filesystem" json)
    let network ← defaulted NetworkPolicy.deserialize .deny (entry fields "network" json)
    let tools ← defaulted (array text) [] (entry fields "tools" json)
    some ⟨filesystem, network, tools⟩
  else none

end CapabilitySet

namespace Budget

def fields : List String := ["wall_time_seconds", "memory_bytes", "max_parallel_agents"]

def serialize (budget : Budget) : Json :=
  .object [("wall_time_seconds", .number budget.wallTimeSeconds.toNat),
    ("memory_bytes", .number budget.memoryBytes.toNat),
    ("max_parallel_agents", .number budget.maxParallelAgents.toNat)]

def deserialize (json : Json) : Option Budget :=
  if isRecord fields json then do
    let wallTimeSeconds ← required (fun json => (unsigned (2 ^ 64) json).map UInt64.ofNat)
      (entry fields "wall_time_seconds" json)
    let memoryBytes ← required (fun json => (unsigned (2 ^ 64) json).map UInt64.ofNat)
      (entry fields "memory_bytes" json)
    let maxParallelAgents ← required (fun json => (unsigned (2 ^ 8) json).map UInt8.ofNat)
      (entry fields "max_parallel_agents" json)
    some ⟨wallTimeSeconds, memoryBytes, maxParallelAgents⟩
  else none

end Budget

namespace ApprovalPolicy

def fields : List String := ["required_for"]

def serialize (approval : ApprovalPolicy) : Json :=
  .object [("required_for", .array (approval.requiredFor.map .string))]

def deserialize (json : Json) : Option ApprovalPolicy :=
  if isRecord fields json then do
    let requiredFor ← defaulted (array text) [] (entry fields "required_for" json)
    some ⟨requiredFor⟩
  else none

end ApprovalPolicy

namespace TaskSpec

def fields : List String := ["idempotency_key", "goal", "capabilities", "budget", "approval"]

def serialize (spec : TaskSpec) : Json :=
  .object [("idempotency_key", .string spec.idempotencyKey), ("goal", .string spec.goal),
    ("capabilities", spec.capabilities.serialize), ("budget", spec.budget.serialize),
    ("approval", spec.approval.serialize)]

def deserialize (json : Json) : Option TaskSpec :=
  if isRecord fields json then do
    let idempotencyKey ← required text (entry fields "idempotency_key" json)
    let goal ← required text (entry fields "goal" json)
    let capabilities ← required CapabilitySet.deserialize (entry fields "capabilities" json)
    let budget ← required Budget.deserialize (entry fields "budget" json)
    let approval ← required ApprovalPolicy.deserialize (entry fields "approval" json)
    some ⟨idempotencyKey, goal, capabilities, budget, approval⟩
  else none

end TaskSpec

/-! Nothing is lost. -/

theorem FileCapability.deserialize_serialize (capability : FileCapability) :
    deserialize capability.serialize = some capability := by
  obtain ⟨path, access⟩ := capability
  cases access <;> rfl

theorem NetworkDestination.deserialize_serialize (destination : NetworkDestination) :
    deserialize destination.serialize = some destination := by
  have record : isRecord fields destination.serialize = true := rfl
  have host : entry fields "host" destination.serialize = some (.string destination.host) := rfl
  have transport : entry fields "transport" destination.serialize =
      some destination.transport.serialize := rfl
  have port : entry fields "port" destination.serialize =
      some (.number destination.port.toNat) := rfl
  have known : NetworkTransport.deserialize destination.transport.serialize =
      some destination.transport := by
    cases destination.transport
    rfl
  simp [deserialize, record, host, transport, port, known, unsigned_number destination.port.toNat_lt]

theorem NetworkPolicy.deserialize_serialize (policy : NetworkPolicy) :
    deserialize policy.serialize = some policy := by
  cases policy with
  | deny => rfl
  | allow destinations =>
    have read : array NetworkDestination.deserialize
        (.array (destinations.map NetworkDestination.serialize)) = some destinations :=
      array_map (fun destination _ => destination.deserialize_serialize)
    have whole : deserialize (serialize (.allow destinations)) =
        (array NetworkDestination.deserialize
          (.array (destinations.map NetworkDestination.serialize))).map .allow := rfl
    rw [whole, read]
    rfl

theorem array_text (values : List String) : array text (.array (values.map .string)) = some values :=
  array_map (fun value _ => text_string value)

theorem CapabilitySet.deserialize_serialize (capabilities : CapabilitySet) :
    deserialize capabilities.serialize = some capabilities := by
  have record : isRecord fields capabilities.serialize = true := rfl
  have filesystem : entry fields "filesystem" capabilities.serialize =
      some (.array (capabilities.filesystem.map FileCapability.serialize)) := rfl
  have network : entry fields "network" capabilities.serialize =
      some capabilities.network.serialize := rfl
  have tools : entry fields "tools" capabilities.serialize =
      some (.array (capabilities.tools.map .string)) := rfl
  have files : array FileCapability.deserialize
      (.array (capabilities.filesystem.map FileCapability.serialize)) =
      some capabilities.filesystem :=
    array_map (fun capability _ => capability.deserialize_serialize)
  simp [deserialize, record, filesystem, network, tools, files, array_text,
    NetworkPolicy.deserialize_serialize]

theorem Budget.deserialize_serialize (budget : Budget) :
    deserialize budget.serialize = some budget := by
  have record : isRecord fields budget.serialize = true := rfl
  have wallTime : entry fields "wall_time_seconds" budget.serialize =
      some (.number budget.wallTimeSeconds.toNat) := rfl
  have memory : entry fields "memory_bytes" budget.serialize =
      some (.number budget.memoryBytes.toNat) := rfl
  have agents : entry fields "max_parallel_agents" budget.serialize =
      some (.number budget.maxParallelAgents.toNat) := rfl
  simp [deserialize, record, wallTime, memory, agents,
    unsigned_number budget.wallTimeSeconds.toNat_lt, unsigned_number budget.memoryBytes.toNat_lt,
    unsigned_number budget.maxParallelAgents.toNat_lt]

theorem ApprovalPolicy.deserialize_serialize (approval : ApprovalPolicy) :
    deserialize approval.serialize = some approval := by
  have record : isRecord fields approval.serialize = true := rfl
  have actions : entry fields "required_for" approval.serialize =
      some (.array (approval.requiredFor.map .string)) := rfl
  simp [deserialize, record, actions, array_text]

theorem TaskSpec.deserialize_serialize (spec : TaskSpec) :
    deserialize spec.serialize = some spec := by
  have record : isRecord fields spec.serialize = true := rfl
  have key : entry fields "idempotency_key" spec.serialize =
      some (.string spec.idempotencyKey) := rfl
  have goal : entry fields "goal" spec.serialize = some (.string spec.goal) := rfl
  have capabilities : entry fields "capabilities" spec.serialize =
      some spec.capabilities.serialize := rfl
  have budget : entry fields "budget" spec.serialize = some spec.budget.serialize := rfl
  have approval : entry fields "approval" spec.serialize = some spec.approval.serialize := rfl
  simp [deserialize, record, key, goal, capabilities, budget, approval,
    CapabilitySet.deserialize_serialize, Budget.deserialize_serialize,
    ApprovalPolicy.deserialize_serialize]

/-! Nothing is ignored, with one exception. -/

/-- The document denies the network and has another field beside. -/
def DeniesBeside : Json → Prop
  | .object fields => ("mode", Json.string "deny") ∈ fields ∧ ∃ field ∈ fields, field.1 ≠ "mode"
  | _ => False

def networkEntry (json : Json) : Option Json :=
  (entry TaskSpec.fields "capabilities" json).bind (entry CapabilitySet.fields "network")

theorem FileAccess.strict : Strict deserialize serialize := by
  apply strict_variant
  · intro json unit
    cases json with
    | null => rfl
    | _ => cases unit
  · decide

theorem NetworkTransport.strict : Strict deserialize serialize :=
  strict_variant (fun _ unit => unit) (by decide)

theorem FileCapability.strict : Strict deserialize serialize := by
  intro json capability read
  unfold deserialize at read
  split at read
  · rename_i record
    simp only [Option.bind_eq_bind, Option.bind_eq_some_iff, Option.some.injEq] at read
    obtain ⟨path, readPath, access, readAccess, rfl⟩ := read
    refine (within_record_iff record rfl (by decide)).mpr ?_
    simp only [List.forall_mem_cons]
    exact ⟨strict_text.required readPath, FileAccess.strict.required readAccess, by simp⟩
  · cases read

theorem NetworkDestination.strict : Strict deserialize serialize := by
  intro json destination read
  unfold deserialize at read
  split at read
  · rename_i record
    simp only [Option.bind_eq_bind, Option.bind_eq_some_iff, Option.some.injEq] at read
    obtain ⟨host, readHost, transport, readTransport, port, readPort, rfl⟩ := read
    refine (within_record_iff record rfl (by decide)).mpr ?_
    simp only [List.forall_mem_cons]
    exact ⟨strict_text.required readHost, NetworkTransport.strict.required readTransport,
      (strict_unsigned _ _ (fun port => .number port.toNat)).required readPort, by simp⟩
  · cases read

theorem Budget.strict : Strict deserialize serialize := by
  intro json budget read
  unfold deserialize at read
  split at read
  · rename_i record
    simp only [Option.bind_eq_bind, Option.bind_eq_some_iff, Option.some.injEq] at read
    obtain ⟨wallTime, readWallTime, memory, readMemory, agents, readAgents, rfl⟩ := read
    refine (within_record_iff record rfl (by decide)).mpr ?_
    simp only [List.forall_mem_cons]
    exact ⟨(strict_unsigned _ _ (fun seconds => .number seconds.toNat)).required readWallTime,
      (strict_unsigned _ _ (fun bytes => .number bytes.toNat)).required readMemory,
      (strict_unsigned _ _ (fun agents => .number agents.toNat)).required readAgents, by simp⟩
  · cases read

theorem ApprovalPolicy.strict : Strict deserialize serialize := by
  intro json approval read
  unfold deserialize at read
  split at read
  · rename_i record
    simp only [Option.bind_eq_bind, Option.bind_eq_some_iff, Option.some.injEq] at read
    obtain ⟨actions, readActions, rfl⟩ := read
    refine (within_record_iff record rfl (by decide)).mpr ?_
    simp only [List.forall_mem_cons]
    exact ⟨(strict_array strict_text).defaulted readActions, by simp⟩
  · cases read

theorem NetworkPolicy.within_deny {json content : Json}
    (read : untag "mode" json = some ("deny", content)) (skipped : isSkipped content = true) :
    Within json (serialize .deny) ↔ ¬ DeniesBeside json := by
  rcases untag_some read with ⟨rest, rfl, rfl⟩ | ⟨fields, rfl, tags, rfl⟩
  · cases List.isEmpty_iff.mp skipped
    exact iff_of_true (within_tagged read (.positional (Nat.zero_le _) (by simp))) id
  · have own : ("mode", Json.string "deny") ∈ fields := by
      have tagged : ("mode", Json.string "deny") ∈
          fields.filter (fun field => field.1 == "mode") := by
        rw [tags]
        exact List.mem_cons_self
      exact (List.mem_filter.mp tagged).1
    constructor
    · rintro within ⟨_, field, member, other⟩
      cases within with
      | object keys _ => exact other (by simpa using keys field member)
    · intro alone
      have none : fields.filter (fun field => field.1 != "mode") = [] := by
        rw [List.filter_eq_nil_iff]
        intro field member other
        exact alone ⟨own, field, member, by simpa using other⟩
      have empty : Within (.object (fields.filter (fun field => field.1 != "mode"))) (.object []) := by
        rw [none]
        exact .object (by simp) (by simp)
      exact within_tagged read empty

theorem NetworkPolicy.within_iff {json : Json} {policy : NetworkPolicy}
    (read : deserialize json = some policy) :
    Within json policy.serialize ↔ ¬ DeniesBeside json := by
  unfold deserialize at read
  split at read
  · cases read
  rename_i name content tagged
  split at read
  · rename_i deny
    subst deny
    split at read
    · rename_i skipped
      cases read
      exact within_deny tagged skipped
    · cases read
  split at read
  · rename_i allow
    subst allow
    split at read
    · rename_i record
      obtain ⟨destinations, found, rfl⟩ := Option.map_eq_some_iff.mp read
      refine iff_of_true (within_tagged tagged ?_) ?_
      · refine (within_record_iff record rfl (by decide)).mpr ?_
        simp only [List.forall_mem_cons]
        exact ⟨(strict_array NetworkDestination.strict).required found, by simp⟩
      · rcases untag_some tagged with ⟨rest, rfl, _⟩ | ⟨fields, rfl, tags, _⟩
        · exact id
        · rintro ⟨denied, _⟩
          have only : ("mode", Json.string "deny") ∈
              fields.filter (fun field => field.1 == "mode") :=
            List.mem_filter.mpr ⟨denied, rfl⟩
          rw [tags] at only
          simp at only
    · cases read
  · cases read

theorem CapabilitySet.within_iff {json : Json} {capabilities : CapabilitySet}
    (read : deserialize json = some capabilities) :
    Within json capabilities.serialize ↔
      ∀ found, entry fields "network" json = some found → ¬ DeniesBeside found := by
  unfold deserialize at read
  split at read
  · rename_i record
    simp only [Option.bind_eq_bind, Option.bind_eq_some_iff, Option.some.injEq] at read
    obtain ⟨filesystem, readFiles, network, readNetwork, tools, readTools, rfl⟩ := read
    have files := (strict_array FileCapability.strict).defaulted readFiles
    have names := (strict_array strict_text).defaulted readTools
    have policy : ∀ found, entry fields "network" json = some found →
        (Within found network.serialize ↔ ¬ DeniesBeside found) := by
      intro found present
      rw [present] at readNetwork
      exact NetworkPolicy.within_iff readNetwork
    refine (within_record_iff record rfl (by decide)).trans ?_
    simp only [List.forall_mem_cons]
    constructor
    · intro each found present
      exact (policy found present).mp (each.2.1 found present)
    · intro each
      exact ⟨files, fun found present => (policy found present).mpr (each found present), names,
        by simp⟩
  · cases read

theorem TaskSpec.within_iff {json : Json} {spec : TaskSpec} (read : deserialize json = some spec) :
    Within json spec.serialize ↔ ∀ found, networkEntry json = some found → ¬ DeniesBeside found := by
  unfold deserialize at read
  split at read
  · rename_i record
    simp only [Option.bind_eq_bind, Option.bind_eq_some_iff, Option.some.injEq] at read
    obtain ⟨key, readKey, goal, readGoal, capabilities, readCapabilities, budget, readBudget,
      approval, readApproval, rfl⟩ := read
    obtain ⟨held, present, own⟩ := Option.bind_eq_some_iff.mp readCapabilities
    have inner := CapabilitySet.within_iff own
    have network : networkEntry json = entry CapabilitySet.fields "network" held := by
      rw [networkEntry, present]
      rfl
    rw [network, ← inner]
    refine (within_record_iff record rfl (by decide)).trans ?_
    simp only [List.forall_mem_cons]
    constructor
    · intro each
      exact each.2.2.1 held present
    · intro within
      refine ⟨strict_text.required readKey, strict_text.required readGoal, ?_,
        Budget.strict.required readBudget, ApprovalPolicy.strict.required readApproval, by simp⟩
      intro found there
      cases Option.some.inj (present.symm.trans there)
      exact within
  · cases read

/-- Encoding loses nothing. A document that is read as a Task has only fields that the Task
uses, exactly when it does not deny the network with further fields beside the mode. -/
theorem task_codec_strict_iff (written : TaskSpec) {json : Json} {spec : TaskSpec}
    (read : TaskSpec.deserialize json = some spec) :
    TaskSpec.deserialize written.serialize = some written ∧
      (Within json spec.serialize ↔
        ∀ found, networkEntry json = some found → ¬ DeniesBeside found) :=
  ⟨TaskSpec.deserialize_serialize written, TaskSpec.within_iff read⟩

namespace Sample

def taskDocument (network : Json) : Json :=
  .object [("idempotency_key", .string "task-001"), ("goal", .string "Inspect source files"),
    ("capabilities", .object [("network", network)]),
    ("budget", .object [("wall_time_seconds", .number 60), ("memory_bytes", .number 1048576),
      ("max_parallel_agents", .number 1)]),
    ("approval", .object [])]

def deniedTask : TaskSpec :=
  ⟨"task-001", "Inspect source files", ⟨[], .deny, []⟩, ⟨60, 1048576, 1⟩, ⟨[]⟩⟩

def deniedDestination : Json :=
  .object [("mode", .string "deny"), ("destinations", .array [.object [("host",
    .string "example.com"), ("transport", .string "tcp"), ("port", .number 443)]])]

end Sample

/-- The destination beside the denial is ignored. -/
theorem denied_destination_ignored :
    TaskSpec.deserialize (Sample.taskDocument Sample.deniedDestination) = some Sample.deniedTask ∧
      ¬ Within (Sample.taskDocument Sample.deniedDestination) Sample.deniedTask.serialize := by
  have read : TaskSpec.deserialize (Sample.taskDocument Sample.deniedDestination) =
      some Sample.deniedTask := rfl
  refine ⟨read, ?_⟩
  rw [TaskSpec.within_iff read]
  intro alone
  have second : ∀ {first field : String × Json}, field ∈ [first, field] :=
    List.mem_cons_of_mem _ List.mem_cons_self
  exact alone Sample.deniedDestination rfl ⟨List.mem_cons_self, _, second, by decide⟩

/-- A denial alone. -/
theorem task_codec_denied :
    Within (Sample.taskDocument (.object [("mode", .string "deny")]))
      Sample.deniedTask.serialize := by
  have read : TaskSpec.deserialize (Sample.taskDocument (.object [("mode", .string "deny")])) =
      some Sample.deniedTask := rfl
  refine (task_codec_strict_iff Sample.deniedTask read).2.mpr ?_
  intro found present
  cases present
  rintro ⟨_, field, member, other⟩
  rw [List.mem_singleton] at member
  exact other (by rw [member])

end AiOs
