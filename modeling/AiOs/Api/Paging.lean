import AiOs.Api.Service
import AiOs.Lib.Paging
import AiOs.Runtime.Growth
import AiOs.Storage.Sqlite

/-! A client that reads the audit log of a Task through the Local API, one page after another,
while other clients use the same service. -/
namespace AiOs.LocalApi

open Paging

/-- A store that lists events of the log only, and what lies behind any position of a numbered
one. -/
class PagedEventStore (S : Type) extends LawfulEventStore S where
  list_sublist : ∀ {store : S} {taskId : TaskId} {after : Nat} {events : List TaskEvent},
    EventStore.list store taskId after = .ok events → events.Sublist (log store taskId)
  list_behind : ∀ {store : S} {taskId : TaskId} {after : Nat}, Sequenced (log store taskId) →
    after ≤ (log store taskId).length →
    EventStore.list store taskId after = .ok ((log store taskId).drop after)

theorem sequenced_filter {log : List TaskEvent} (sequenced : Sequenced log) (after : Nat) :
    log.filter (fun e => decide (after < e.sequence)) = log.drop after := by
  have numbered : Numbered TaskEvent.sequence log := sequenced
  exact numbered.filter_behind after

instance : PagedEventStore InMemoryEventStore where
  list_sublist := by
    intro store taskId after events listed
    cases Except.ok.inj listed
    exact List.filter_sublist
  list_behind := by
    intro store taskId after sequenced _
    exact congrArg Except.ok (sequenced_filter sequenced after)

instance : PagedEventStore SqliteEventStore where
  list_sublist := by
    intro store taskId after events listed
    change store.list taskId after = .ok events at listed
    unfold SqliteEventStore.list at listed
    split at listed
    · cases listed
    · cases Except.ok.inj listed
      exact List.filter_sublist
  list_behind := by
    intro store taskId after sequenced inside
    -- The table holds no sequence that the conversion of the cursor could refuse.
    have small : ¬ 2 ^ 63 ≤ after := by
      have short := SqliteEventStore.sequenced_length sequenced
      change after ≤ (store.rowsOf taskId).length at inside
      omega
    change store.list taskId after = _
    rw [SqliteEventStore.list, if_neg small]
    exact congrArg Except.ok (sequenced_filter sequenced after)

def ApiResponse.page : ApiResponse → Option (Page TaskEvent)
  | ⟨_, .ok (.events events hasMore)⟩ => some ⟨events, hasMore⟩
  | _ => none

variable {S : Type} [PagedEventStore S] (env : Env)

/-- The page that a service answers an `Events` request with. -/
def readPage (taskId : TaskId) (limit : Nat) (p : Process S) (after : Nat) :
    Option (Page TaskEvent) :=
  match (handle env (.new (.events taskId after limit)) p).1 with
  | .ok response => response.page
  | .error _ => none

/-- All pages of a client that starts at zero; `services turn` is the service that its request of
that turn meets. -/
def readEvents (taskId : TaskId) (limit : Nat) (services : Nat → Process S) (turns : Nat) :
    Option (List (Page TaskEvent)) :=
  follow TaskEvent.sequence (fun turn after => readPage env taskId limit (services turn) after)
    turns 0 0

variable {env}

theorem readPage_known {taskId : TaskId} {limit after : Nat} {p : Process S}
    (positive : 1 ≤ limit) (small : limit ≤ maxEventPageSize)
    (known : p.supervisor.taskState taskId ≠ none)
    (sequenced : Sequenced (LawfulEventStore.log p.supervisor.eventStore taskId))
    (inside : after ≤ (LawfulEventStore.log p.supervisor.eventStore taskId).length) :
    readPage env taskId limit p after =
      some (pageOf limit ((LawfulEventStore.log p.supervisor.eventStore taskId).drop after)) := by
  obtain ⟨state, found⟩ := Option.ne_none_iff_exists'.mp known
  have version : isSupportedProtocolVersion protocolVersion = true := by decide
  have accepted : ¬ (limit = 0 ∨ maxEventPageSize < limit) := by omega
  have listed := PagedEventStore.list_behind sequenced inside
  simp only [readPage, handle, ApiRequest.new, version, if_true, handleMethod, if_neg accepted,
    TaskSupervisor.events, found, listed, eventsResponse, ok, ApiResponse.page, pageOf]

theorem serves_services (fresh : Function.Injective env.uuid) {taskId : TaskId} {limit : Nat}
    (positive : 1 ≤ limit) (small : limit ≤ maxEventPageSize) {services : Nat → Process S}
    (orderly : Orderly env (services 0))
    (sequenced : Sequenced (LawfulEventStore.log (services 0).supervisor.eventStore taskId))
    (known : (services 0).supervisor.taskState taskId ≠ none)
    (between : ∀ turn, Relation.ReflTransGen (Disturbs env) (services turn) (services (turn + 1))) :
    Serves TaskEvent.sequence limit
      (fun turn => LawfulEventStore.log (services turn).supervisor.eventStore taskId)
      (fun turn after => readPage env taskId limit (services turn) after) := by
  have all : ∀ turn, Orderly env (services turn) ∧
      Sequenced (LawfulEventStore.log (services turn).supervisor.eventStore taskId) ∧
      (services turn).supervisor.taskState taskId ≠ none := by
    intro turn
    induction turn with
    | zero => exact ⟨orderly, sequenced, known⟩
    | succ turn ih =>
      obtain ⟨orderly, sequenced, known⟩ := ih
      obtain ⟨later, onward⟩ := Disturbs.steps fresh (between turn) orderly
      exact ⟨later, onward.sequenced taskId sequenced, onward.known taskId known⟩
  refine ⟨fun turn => (all turn).2.1, fun turn => ?_, fun turn after inside => ?_⟩
  · exact (Disturbs.steps fresh (between turn) (all turn).1).2.logs taskId
  · exact readPage_known positive small (all turn).2.2 (all turn).2.1 inside

/-- Paging is complete and exact, whatever happens to the service between two pages. -/
theorem event_paging (fresh : Function.Injective env.uuid) {services : Nat → Process S}
    (reached : Daemon.Reached env Daemon.Anything (.up (services 0)))
    (between : ∀ turn, Relation.ReflTransGen (Disturbs env) (services turn) (services (turn + 1)))
    {taskId : TaskId} (known : (services 0).supervisor.taskState taskId ≠ none) {limit : Nat}
    (positive : 1 ≤ limit) (small : limit ≤ maxEventPageSize) {M : Nat}
    (bounded : ∀ turn,
      (LawfulEventStore.log (services turn).supervisor.eventStore taskId).length ≤ M) :
    ∃ pages, readEvents env taskId limit services (M / limit + 1) = some pages ∧
      pages.length ≤ M / limit + 1 ∧
      (pages.flatMap Page.items).map TaskEvent.sequence =
        List.range' 1 (pages.flatMap Page.items).length ∧
      pages.flatMap Page.items =
        LawfulEventStore.log (services (pages.length - 1)).supervisor.eventStore taskId ∧
      ∀ page ∈ pages, page.hasMore = true → page.items ≠ [] := by
  have coherent : Coherent env (services 0) := reached.sound fresh
  have orderly : Orderly env (services 0) := ⟨coherent.registry, coherent.records⟩
  have serves := serves_services fresh positive small orderly (coherent.logs.sequenced taskId)
    known between
  obtain ⟨pages, followed, _, few, whole, advances⟩ := serves.follow_all positive bounded
  refine ⟨pages, followed, few, ?_, whole, advances⟩
  rw [whole]
  exact serves.numbered (pages.length - 1)

def startedMeanwhile : Nat → Process InMemoryEventStore
  | 0 => Sample.process 20 [.submit Sample.spec]
  | _ + 1 => Sample.process 20 [.submit Sample.spec, .start ⟨0⟩]

set_option maxRecDepth 4000 in
theorem event_paging_started :
    (∃ pages, readEvents Sample.env ⟨0⟩ 2 startedMeanwhile (4 / 2 + 1) = some pages ∧
      pages.length ≤ 4 / 2 + 1 ∧
      (pages.flatMap Page.items).map TaskEvent.sequence =
        List.range' 1 (pages.flatMap Page.items).length ∧
      pages.flatMap Page.items = LawfulEventStore.log
        (startedMeanwhile (pages.length - 1)).supervisor.eventStore ⟨0⟩ ∧
      ∀ page ∈ pages, page.hasMore = true → page.items ≠ []) ∧
    (LawfulEventStore.log (startedMeanwhile 0).supervisor.eventStore ⟨0⟩).length = 3 ∧
    (LawfulEventStore.log (startedMeanwhile 1).supervisor.eventStore ⟨0⟩).length = 4 := by
  have first : (LawfulEventStore.log (startedMeanwhile 0).supervisor.eventStore ⟨0⟩).length = 3 := by
    decide +kernel
  have later : (LawfulEventStore.log (startedMeanwhile 1).supervisor.eventStore ⟨0⟩).length = 4 := by
    decide +kernel
  refine ⟨event_paging Sample.uuid_injective (Sample.process_reached (by decide +kernel)) ?_
    (by decide +kernel) (by decide) (by decide) ?_, first, later⟩
  · intro turn
    cases turn with
    | zero => exact .single (.call (.start ⟨0⟩))
    | succ turn => exact .refl
  · intro turn
    cases turn with
    | zero => exact first ▸ (by decide)
    | succ turn => exact later ▸ Nat.le_refl _

end AiOs.LocalApi
