import AiOs.Adapter.Tool
import AiOs.Adapter.Filesystem
import AiOs.Adapter.Network

/-! The wall-time Budget over whole runs, for the three adapters. Gates of other adapters on the
same supervisor are direct calls and readings of the clock, so each adapter is looked at alone. -/
namespace AiOs

/-- However many approvals were requested and however long they took, a handler is only called,
a connection only started and a file only opened before the start of the Task and its wall
time, and later operations have no effect. -/
theorem wall_time_enforced {S H : Type} [LawfulEventStore S] [ToolHandler H] {env : Env}
    (fresh : Function.Injective env.uuid) :
    (∀ (origin : ToolSite H) (σ : System S (ToolSite H) ToolOperation), origin.trace = [] →
      System.Served env origin σ →
        WallTimeEnforced env (fun _ => 0) ToolAdapterError.budgetExceeded σ) ∧
    (∀ (origin : NetworkSite) (σ : System S NetworkSite TcpExchangeOperation),
      origin.trace = [] → System.Served env origin σ →
        WallTimeEnforced env NetworkAdapter.timeout NetworkAdapterError.budgetExceeded σ) ∧
    (∀ (origin : FilesystemSite) (σ : System S FilesystemSite FilesystemWriteOperation),
      origin.trace = [] → System.Served env origin σ →
        WallTimeEnforced env (fun _ => 0) FilesystemAdapterError.budgetExceeded σ) := by
  refine ⟨?_, ?_, ?_⟩
  · intro origin σ blank served
    exact enforces_wall_time tool_respects_wall_time fresh blank served
  · intro origin σ blank served
    exact enforces_wall_time network_respects_wall_time fresh blank served
  · intro origin σ blank served
    exact enforces_wall_time filesystem_respects_wall_time fresh blank served

namespace Sample

section
variable {A O Output Err : Type} [ContextualOperation O] [ExecutionAdapter A O Output Err]

def served (origin : A) (acts : List (Act O)) : System InMemoryEventStore A O :=
  (System.start ⟨Daemon.start, .new (store 20)⟩ origin).serveAll Sample.env acts

theorem served_reached {origin : A} {acts : List (Act O)}
    (serves : System.Serves Sample.env
      (System.start ⟨Daemon.start, .new (store 20)⟩ origin : System InMemoryEventStore A O) acts) :
    System.Served Sample.env origin (served origin acts) :=
  (System.Served.start (Daemon.reached_new _ _ (store_empty 20)) rfl).serveAll serves

end

inductive Silent where
  | silent
  deriving DecidableEq, Repr

instance : ToolHandler Silent where
  execute _ handler _ reads := (.ok ⟨[], by decide⟩, handler, reads)

def toolSite : ToolSite Silent :=
  ⟨⟨(∅ : OrdMap String RouteDefinition).insert "push" ⟨"git", "push"⟩,
    (∅ : OrdMap String Silent).insert "push" .silent⟩, (), []⟩

def toolActs : List (Act ToolOperation) :=
  [.direct (.submit spec), .direct (.start ⟨0⟩),
    .request ⟨0⟩ ⟨"push", "git", "push", ["main"], none, by decide⟩ (10 ^ 9), .elapse,
    .approveAndExecute ⟨2⟩]

def networkSite : NetworkSite :=
  ⟨⟨10 ^ 9, by decide, by decide⟩,
    ⟨fun _ => none, fun _ => none, fun _ => none, fun _ _ => none, fun _ => none,
      fun _ _ => none⟩, []⟩

def networkActs : List (Act TcpExchangeOperation) :=
  [.direct (.submit { spec with capabilities := ⟨[], .allow [⟨"127.0.0.1", .tcp, 80⟩], []⟩ }),
    .direct (.start ⟨0⟩), .request ⟨0⟩ ⟨"127.0.0.1", 80, [1, 2], none, by decide⟩ (10 ^ 9)]

def filesystemSite : FilesystemSite := ⟨⟨3⟩, ⟨fun _ => some 4, fun _ => true, fun _ => true⟩, []⟩

def filesystemActs : List (Act FilesystemWriteOperation) :=
  [.direct (.submit { spec with capabilities := ⟨[⟨"/out", .write⟩], .deny, []⟩ }),
    .direct (.start ⟨0⟩), .request ⟨0⟩ ⟨"/out/file", [1, 2], none, by decide⟩ (10 ^ 9)]

end Sample

set_option maxRecDepth 4000 in
/-- A Tool call after its approval, a connection that fails and a file that is written: each
deed that needs a check comes right after one. -/
theorem wall_time_enforced_samples :
    (WallTimeEnforced Sample.env (fun _ => 0) ToolAdapterError.budgetExceeded
        (Sample.served Sample.toolSite Sample.toolActs) ∧
      (Sample.served Sample.toolSite Sample.toolActs).gate.adapter.trace =
        [.reading 7000000, .deed ⟨⟨0⟩, Sample.spec.budget, [], 0⟩ (.invoke "push" ["main"])]) ∧
    (WallTimeEnforced Sample.env NetworkAdapter.timeout NetworkAdapterError.budgetExceeded
        (Sample.served Sample.networkSite Sample.networkActs) ∧
      (Sample.served Sample.networkSite Sample.networkActs).gate.adapter.trace =
        [.reading 2000000, .deed ⟨⟨0⟩, Sample.spec.budget, [], 0⟩
          (.connect ⟨.v4 0x7F000001, 80⟩ (10 ^ 9)), .reading 3000000]) ∧
    (WallTimeEnforced Sample.env (fun _ => 0) FilesystemAdapterError.budgetExceeded
        (Sample.served Sample.filesystemSite Sample.filesystemActs) ∧
      (Sample.served Sample.filesystemSite Sample.filesystemActs).executed.length = 1) := by
  obtain ⟨tool, network, filesystem⟩ :=
    wall_time_enforced (S := InMemoryEventStore) (H := Sample.Silent) Sample.uuid_injective
  refine ⟨⟨tool _ _ rfl (Sample.served_reached ?_), ?_⟩,
    ⟨network _ _ rfl (Sample.served_reached ?_), ?_⟩,
    ⟨filesystem _ _ rfl (Sample.served_reached ?_), ?_⟩⟩ <;> decide +kernel

end AiOs
