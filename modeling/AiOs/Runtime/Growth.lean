import AiOs.Runtime.Submission

/-! Logs only grow and Tasks stay known, whatever is called on a supervisor and whatever else is
appended to its store. -/
namespace AiOs

variable {S : Type} [LawfulEventStore S]

/-- What a later process keeps of an earlier one. -/
structure Onward (before after : Process S) : Prop where
  logs : ∀ taskId, LawfulEventStore.log before.supervisor.eventStore taskId <+:
    LawfulEventStore.log after.supervisor.eventStore taskId
  sequenced : ∀ taskId, Sequenced (LawfulEventStore.log before.supervisor.eventStore taskId) →
    Sequenced (LawfulEventStore.log after.supervisor.eventStore taskId)
  known : ∀ taskId, before.supervisor.taskState taskId ≠ none →
    after.supervisor.taskState taskId ≠ none

theorem Onward.refl (p : Process S) : Onward p p :=
  ⟨fun _ => List.prefix_refl _, fun _ => id, fun _ => id⟩

theorem Onward.trans {p q r : Process S} (first : Onward p q) (second : Onward q r) :
    Onward p r where
  logs taskId := (first.logs taskId).trans (second.logs taskId)
  sequenced taskId numbered := second.sequenced taskId (first.sequenced taskId numbered)
  known taskId known := second.known taskId (first.known taskId known)

section stores
variable {before after : TaskId → List TaskEvent} {owner : TaskId} {kinds : List TaskEventKind}

theorem LogGrows.prefix_all (grows : LogGrows before after owner kinds) (taskId : TaskId) :
    before taskId <+: after taskId := by
  by_cases same : taskId = owner
  · exact same ▸ grows.grown
  · simp [grows.others taskId same]

theorem LogGrows.sequenced_all (grows : LogGrows before after owner kinds) (taskId : TaskId)
    (numbered : Sequenced (before taskId)) : Sequenced (after taskId) := by
  by_cases same : taskId = owner
  · subst same
    exact grows.sequenced numbered
  · rwa [grows.others taskId same]

end stores

section effects
variable {env : Env} {p after : Process S}

omit [LawfulEventStore S] in
theorem Enrols.known {s later : TaskSupervisor S} (enrols : Enrols s later) (taskId : TaskId)
    (known : s.taskState taskId ≠ none) : later.taskState taskId ≠ none := by
  have inserted : ∀ (other : TaskId) (record : TaskRecord),
      later.tasks = s.tasks.insert other record → later.recoveredTasks = s.recoveredTasks →
      later.taskState taskId ≠ none := by
    intro other record tasks recovered
    unfold TaskSupervisor.taskState at known ⊢
    rw [tasks, recovered, OrdMap.get_insert]
    by_cases same : other = taskId
    · simp [same]
    · simpa [same] using known
  cases enrols with
  | same tasks index recovered limit =>
    unfold TaskSupervisor.taskState at known ⊢
    rwa [tasks, recovered]
  | revised found tasks spec index recovered limit => exact inserted _ _ tasks recovered
  | admitted tasks unused new room index recovered limit => exact inserted _ _ tasks recovered

theorem Onward.of_appended {owner : TaskId} {kinds : List TaskEventKind}
    (appended : Appended p.supervisor.eventStore after.supervisor.eventStore owner kinds)
    (enrols : Enrols p.supervisor after.supervisor) : Onward p after :=
  ⟨appended.grows.prefix_all, appended.grows.sequenced_all, enrols.known⟩

theorem Onward.of_same (store : after.supervisor.eventStore = p.supervisor.eventStore)
    (enrols : Enrols p.supervisor after.supervisor) : Onward p after := by
  refine ⟨fun taskId => ?_, fun taskId numbered => ?_, enrols.known⟩
  · simp [store]
  · rwa [store]

theorem Closes.onward {id : ApprovalId} {closing : PendingOperation → TaskEventKind}
    (closes : Closes p id closing after) : Onward p after := by
  have enrols := closes.enrols
  obtain ⟨store, pending, record, waiting, found, failable, appended⟩ := closes
  exact .of_appended appended enrols

theorem Effect.onward {call : Call} (orderly : Orderly env p) (effect : Effect env p call after) :
    Onward p after := by
  have enrols := effect.enrols orderly
  cases effect with
  | idle quiet => exact .of_same (by rw [quiet.same]) enrols
  | admits admits =>
    obtain ⟨store, unused, room, appended⟩ := admits
    exact .of_appended appended enrols
  | launches _ launches =>
    obtain ⟨store, record, found, startable, appended⟩ := launches
    exact .of_appended appended enrols
  | allows notes | refuses notes =>
    obtain ⟨store, record, found, running, valid, decided, appended⟩ := notes
    exact .of_appended appended enrols
  | asks asks =>
    obtain ⟨store, record, found, running, valid, decided, single, unindexed, room, appended⟩ :=
      asks
    exact .of_appended appended enrols
  | grants grants =>
    obtain ⟨store, pending, record, entry, waiting, found, resumable, registered, early,
      appended⟩ := grants
    exact .of_appended appended enrols
  | denies denies => exact denies.onward
  | forgets forgets => exact .of_same (by rw [forgets.same]) enrols
  | consumes consumes =>
    obtain ⟨store, record, approved, found, running, held, owner, exact_request, valid, decided,
      early, scope, issued, appended⟩ := consumes
    exact .of_appended appended enrols
  | finishes _ finishes =>
    obtain ⟨store, record, found, allowed, terminal, appended⟩ := finishes
    exact .of_appended appended enrols

theorem Orderly.call_onward (orderly : Orderly env p) (call : Call) :
    Onward p (call.run env p).2 := by
  have step : ∀ a b : Process S, Onward a b → Onward p a → Onward p b :=
    fun a b next far => far.trans next
  refine orderly_rule orderly call (I := fun q => Onward p q) (J := fun q => Onward p q)
    ?_ ?_ ?_ (Onward.refl p)
  · intro a b far quiet
    exact step a b (.of_same (by rw [quiet.same]) (.same (by rw [quiet.same]) (by rw [quiet.same])
      (by rw [quiet.same]) (by rw [quiet.same]))) far
  · intro a b id _ _ far closes
    exact step a b closes.onward far
  · intro a b there far effect
    exact step a b (effect.onward there) far

end effects

/-- What may happen to a served supervisor from outside one conversation: any call, or any batch
on any Task that somebody else appends to the store. -/
inductive Disturbs (env : Env) : Process S → Process S → Prop where
  | call {p : Process S} (call : Call) : Disturbs env p (call.run env p).2
  | append {p : Process S} (io : AppendIo) (taskId : TaskId) (kinds : List TaskEventKind) :
      Disturbs env p ⟨p.world, { p.supervisor with
        eventStore := (EventStore.appendBatch p.supervisor.eventStore io taskId kinds).2 }⟩

section disturbed
variable {env : Env} {p after : Process S}

theorem Disturbs.orderly (fresh : Function.Injective env.uuid) (disturbs : Disturbs env p after)
    (orderly : Orderly env p) : Orderly env after := by
  cases disturbs with
  | call call => exact orderly.call fresh call
  | append io taskId kinds => exact ⟨orderly.registry, orderly.records⟩

theorem Disturbs.onward (disturbs : Disturbs env p after) (orderly : Orderly env p) :
    Onward p after := by
  cases disturbs with
  | call call => exact orderly.call_onward call
  | append io taskId kinds =>
    rcases appended : EventStore.appendBatch p.supervisor.eventStore io taskId kinds with
      ⟨result, store⟩
    cases result with
    | ok events =>
      have grows := (LawfulEventStore.append_ok appended).1
      exact ⟨grows.prefix_all, grows.sequenced_all, fun _ => id⟩
    | error e =>
      have same := LawfulEventStore.append_error appended
      rw [same]
      exact .of_same rfl (.same rfl rfl rfl rfl)

theorem Disturbs.steps (fresh : Function.Injective env.uuid)
    (disturbed : Relation.ReflTransGen (Disturbs env) p after) (orderly : Orderly env p) :
    Orderly env after ∧ Onward p after := by
  induction disturbed with
  | refl => exact ⟨orderly, .refl p⟩
  | tail _ step ih => exact ⟨step.orderly fresh ih.1, ih.2.trans (step.onward ih.1)⟩

end disturbed

end AiOs
