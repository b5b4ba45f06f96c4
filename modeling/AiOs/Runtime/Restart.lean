import AiOs.Runtime.Recovery

/-! The whole of a recovery: the snapshots it starts from, the ways it ends, and what a
store looks like afterwards. -/
namespace AiOs

open Fallible

variable {S : Type}

theorem collectRecovered_ok (snapshots : List TaskSnapshot) (start : OrdMap TaskId TaskState)
    (distinct : (snapshots.map TaskSnapshot.taskId).Nodup)
    (new : ∀ snapshot ∈ snapshots, start[snapshot.taskId]? = none) :
    ∃ recovered, collectRecovered start snapshots = .ok recovered ∧
      ∀ (taskId : TaskId) (state : TaskState), recovered[taskId]? = some state ↔
        start[taskId]? = some state ∨ (⟨taskId, state⟩ : TaskSnapshot) ∈ snapshots := by
  induction snapshots generalizing start with
  | nil => exact ⟨start, rfl, fun _ _ => by simp⟩
  | cons snapshot rest ih =>
    simp only [List.map_cons, List.nodup_cons] at distinct
    have unused := new snapshot List.mem_cons_self
    have free : ¬ start.contains snapshot.taskId = true := by
      rw [← Std.ExtTreeMap.isSome_getElem?_eq_contains, unused]
      exact nofun
    obtain ⟨recovered, collected, members⟩ := ih
      (start.insert snapshot.taskId snapshot.state) distinct.2 (by
        intro other member
        rw [OrdMap.get_insert, if_neg]
        · exact new other (List.mem_cons_of_mem _ member)
        · intro same
          exact distinct.1 (same ▸ List.mem_map_of_mem member))
    refine ⟨recovered, by rw [collectRecovered, if_neg free, collected], ?_⟩
    intro taskId state
    rw [members, OrdMap.get_insert, List.mem_cons]
    obtain ⟨owner, last⟩ := snapshot
    by_cases same : owner = taskId
    · subst same
      simp only [↓reduceIte, Option.some.injEq, TaskSnapshot.mk.injEq, true_and, unused,
        reduceCtorEq, false_or]
      exact or_congr_left eq_comm
    · simp only [same, ↓reduceIte, TaskSnapshot.mk.injEq, Ne.symm same, false_and, false_or]

theorem mem_interruptedTasks {recovered : OrdMap TaskId TaskState} {taskId : TaskId}
    {state : TaskState} :
    (taskId, state) ∈ interruptedTasks recovered ↔
      recovered[taskId]? = some state ∧ state.isTerminal = false := by
  simp only [interruptedTasks, List.mem_filter, OrdMap.mem_toList, Bool.not_eq_eq_eq_not,
    Bool.not_true]

theorem interruptedTasks_nodup (recovered : OrdMap TaskId TaskState) :
    ((interruptedTasks recovered).map Prod.fst).Nodup :=
  (OrdMap.keys_nodup recovered).sublist (List.filter_sublist.map _)

variable [LawfulEventStore S]

/-- The log of the Task is complete and ends in `state`. -/
def Accepted (store : S) (taskId : TaskId) (state : TaskState) : Prop :=
  recoverSnapshot taskId (LawfulEventStore.log store taskId) = .ok ⟨taskId, state⟩

def AllAccepted (store : S) : Prop :=
  ∀ taskId, LawfulEventStore.log store taskId ≠ [] → ∃ state, Accepted store taskId state

theorem Accepted.stored {store : S} {taskId : TaskId} {state : TaskState}
    (accepted : Accepted store taskId state) : LawfulEventStore.log store taskId ≠ [] := by
  intro empty
  rw [Accepted, empty] at accepted
  cases accepted

/-- The recovered states are those of the accepted logs. -/
def Collected (store : S) (recovered : OrdMap TaskId TaskState) : Prop :=
  ∀ (taskId : TaskId) (state : TaskState),
    recovered[taskId]? = some state ↔ Accepted store taskId state

def recovering (world : World) (store : S) (maxTasks : Nat)
    (recovered : OrdMap TaskId TaskState) : Process S :=
  ⟨world, { TaskSupervisor.empty store maxTasks with recoveredTasks := recovered }⟩

/-- What a loop over some of the interrupted Tasks has made of each log. -/
theorem fails_log {world : World} {store : S} {maxTasks : Nat}
    {recovered : OrdMap TaskId TaskState} (collected : Collected store recovered)
    {done rest : List (TaskId × TaskState)} (order : interruptedTasks recovered = done ++ rest)
    {after : Process S} (fails : FailsAll (recovering world store maxTasks recovered) done after)
    (taskId : TaskId) :
    (taskId ∉ done.map Prod.fst ∧ LawfulEventStore.log after.supervisor.eventStore taskId =
      LawfulEventStore.log store taskId) ∨
    ∃ state, (taskId, state) ∈ done ∧ Accepted store taskId state ∧ state.isTerminal = false ∧
      RestartedLog (LawfulEventStore.log store taskId)
        (LawfulEventStore.log after.supervisor.eventStore taskId) state ∧
      (LawfulEventStore.log store taskId).length + 2 ≤ LawfulEventStore.capacity store := by
  by_cases processed : taskId ∈ done.map Prod.fst
  · obtain ⟨⟨owner, state⟩, member, rfl⟩ := List.mem_map.mp processed
    have interrupted : (owner, state) ∈ interruptedTasks recovered := by
      rw [order]
      exact List.mem_append_left _ member
    obtain ⟨present, live⟩ := mem_interruptedTasks.mp interrupted
    have distinct : (done.map Prod.fst).Nodup := by
      have all := interruptedTasks_nodup recovered
      rw [order, List.map_append] at all
      exact (List.nodup_append.mp all).1
    obtain ⟨restarted, room⟩ := fails.own distinct member
    exact .inr ⟨state, member, (collected owner state).mp present, live, restarted, room⟩
  · exact .inl ⟨processed, fails.others processed⟩

/-- One store is another with some of its interrupted Tasks failed. -/
def Advances (store after : S) : Prop :=
  ∀ taskId, LawfulEventStore.log after taskId = LawfulEventStore.log store taskId ∨
    ∃ state, Accepted store taskId state ∧ state.isTerminal = false ∧
      RestartedLog (LawfulEventStore.log store taskId) (LawfulEventStore.log after taskId) state

/-- One store is another with all of its interrupted Tasks failed. -/
def Completes (store after : S) : Prop :=
  ∀ taskId state, Accepted store taskId state →
    if state.isTerminal then
      LawfulEventStore.log after taskId = LawfulEventStore.log store taskId
    else RestartedLog (LawfulEventStore.log store taskId) (LawfulEventStore.log after taskId) state

theorem Advances.stored {store after : S} (advances : Advances store after) (taskId : TaskId) :
    LawfulEventStore.log after taskId ≠ [] ↔ LawfulEventStore.log store taskId ≠ [] := by
  rcases advances taskId with same | ⟨state, accepted, _, restarted⟩
  · rw [same]
  · refine ⟨fun _ => accepted.stored, fun logged empty => ?_⟩
    have grown := restarted.grown
    rw [empty] at grown
    exact logged (List.prefix_nil.mp grown)

variable [LawfulRecoverableStore S]

theorem accepted_iff {store : S} {taskId : TaskId} {state : TaskState} :
    Accepted store taskId state ↔ Sequenced (LawfulEventStore.log store taskId) ∧
      Replays (kindsOf (LawfulEventStore.log store taskId)) state := by
  unfold Accepted
  rw [recoverSnapshot_iff]
  constructor
  · rintro ⟨_, sequenced, _, replays⟩
    exact ⟨sequenced, replays⟩
  · rintro ⟨sequenced, replays⟩
    exact ⟨rfl, sequenced, LawfulRecoverableStore.short sequenced, replays⟩

theorem Accepted.unique {store : S} {taskId : TaskId} {a b : TaskState}
    (first : Accepted store taskId a) (second : Accepted store taskId b) : a = b :=
  (accepted_iff.mp first).2.unique (accepted_iff.mp second).2

/-- The snapshots of a store are its accepted logs, and there are none unless all are. -/
theorem recoverTaskSnapshots_ok {store : S} {snapshots : List TaskSnapshot}
    (found : RecoverableEventStore.recoverTaskSnapshots store = .ok snapshots) :
    AllAccepted store ∧ snapshots.map TaskSnapshot.taskId = LawfulRecoverableStore.stored store ∧
      ∀ (taskId : TaskId) (state : TaskState),
        (⟨taskId, state⟩ : TaskSnapshot) ∈ snapshots ↔ Accepted store taskId state := by
  rw [LawfulRecoverableStore.recovers, except_mapM_ok] at found
  have owners : snapshots.map TaskSnapshot.taskId = LawfulRecoverableStore.stored store := by
    generalize LawfulRecoverableStore.stored store = ids at found
    induction found with
    | nil => rfl
    | cons first _ ih => rw [List.map_cons, ih, ((recoverSnapshot_iff _ _ _).mp first).1]
  have forward : ∀ snapshot ∈ snapshots,
      recoverSnapshot snapshot.taskId (LawfulEventStore.log store snapshot.taskId) =
        .ok snapshot := by
    clear owners
    generalize LawfulRecoverableStore.stored store = ids at found
    induction found with
    | nil => exact nofun
    | cons first _ ih =>
      intro snapshot member
      rcases List.mem_cons.mp member with rfl | later
      · rw [((recoverSnapshot_iff _ _ _).mp first).1]
        exact first
      · exact ih snapshot later
  have backward : ∀ taskId, LawfulEventStore.log store taskId ≠ [] →
      ∃ state, (⟨taskId, state⟩ : TaskSnapshot) ∈ snapshots := by
    intro taskId logged
    have member := LawfulRecoverableStore.mem_stored.mpr logged
    rw [← owners, List.mem_map] at member
    obtain ⟨⟨owner, state⟩, member, rfl⟩ := member
    exact ⟨state, member⟩
  refine ⟨?_, owners, ?_⟩
  · intro taskId logged
    obtain ⟨state, member⟩ := backward taskId logged
    exact ⟨state, forward _ member⟩
  · intro taskId state
    constructor
    · intro member
      exact forward _ member
    · intro accepted
      obtain ⟨other, member⟩ := backward taskId accepted.stored
      rw [accepted.unique (forward _ member)]
      exact member

theorem recoverTaskSnapshots_complete {store : S} (all : AllAccepted store) :
    ∃ snapshots, RecoverableEventStore.recoverTaskSnapshots store = .ok snapshots := by
  rw [LawfulRecoverableStore.recovers]
  have each : ∀ taskId ∈ LawfulRecoverableStore.stored store, ∃ snapshot,
      recoverSnapshot taskId (LawfulEventStore.log store taskId) = .ok snapshot := by
    intro taskId member
    obtain ⟨state, accepted⟩ := all taskId (LawfulRecoverableStore.mem_stored.mp member)
    exact ⟨_, accepted⟩
  generalize LawfulRecoverableStore.stored store = ids at each
  induction ids with
  | nil => exact ⟨[], rfl⟩
  | cons taskId rest ih =>
    obtain ⟨snapshot, first⟩ := each taskId List.mem_cons_self
    obtain ⟨others, tail⟩ := ih (fun other member => each other (List.mem_cons_of_mem _ member))
    exact ⟨snapshot :: others, except_mapM_ok.mpr (.cons first (except_mapM_ok.mp tail))⟩

/-- How a recovery ends. Before the loop nothing has happened; the loop starts exactly when
the limit allows it and every log is accepted. -/
inductive RecoverEnds (env : Env) (world : World) (store : S) (maxTasks : Nat) :
    Except Stop (TaskSupervisor S) × World × S → Prop where
  | refused (stop : Stop)
      (reason : maxTasks = 0 ∨ ¬ AllAccepted store ∨
        maxTasks < (LawfulRecoverableStore.stored store).length) :
      RecoverEnds env world store maxTasks (.error stop, world, store)
  | interrupted (recovered : OrdMap TaskId TaskState) (positive : 0 < maxTasks)
      (all : AllAccepted store) (limit : (LawfulRecoverableStore.stored store).length ≤ maxTasks)
      (collected : Collected store recovered) (done rest : List (TaskId × TaskState))
      (taskId : TaskId) (state : TaskState) (mid after : Process S) (e : EventStoreError)
      (order : interruptedTasks recovered = done ++ (taskId, state) :: rest)
      (fails : FailsAll (recovering world store maxTasks recovered) done mid)
      (rejected : exec (tryAppend env taskId (restartEvents state)) mid =
        (.ok (.error e), after))
      (left : after = ⟨mid.world.record taskId (restartEvents state) false, mid.supervisor⟩) :
      RecoverEnds env world store maxTasks
        (.error (.err (.eventStore e)), after.world, after.supervisor.eventStore)
  | finished (recovered : OrdMap TaskId TaskState) (positive : 0 < maxTasks)
      (all : AllAccepted store) (limit : (LawfulRecoverableStore.stored store).length ≤ maxTasks)
      (collected : Collected store recovered) (after : Process S)
      (fails : FailsAll (recovering world store maxTasks recovered)
        (interruptedTasks recovered) after) :
      RecoverEnds env world store maxTasks
        (.ok after.supervisor, after.world, after.supervisor.eventStore)

theorem recover_cases (env : Env) (world : World) (store : S) (maxTasks : Nat) :
    RecoverEnds env world store maxTasks (recover env world store maxTasks) := by
  unfold recover
  split
  · rename_i zero
    exact .refused _ (.inl zero)
  rename_i positive
  split
  · rename_i e failed
    refine .refused _ (.inr (.inl ?_))
    intro all
    obtain ⟨snapshots, found⟩ := recoverTaskSnapshots_complete all
    rw [found] at failed
    cases failed
  rename_i snapshots found
  obtain ⟨all, owners, members⟩ := recoverTaskSnapshots_ok found
  have length : snapshots.length = (LawfulRecoverableStore.stored store).length := by
    rw [← owners, List.length_map]
  split
  · rename_i tooMany
    exact .refused _ (.inr (.inr (length ▸ tooMany)))
  rename_i fits
  obtain ⟨recovered, gathered, states⟩ := collectRecovered_ok snapshots ∅
    (owners ▸ LawfulRecoverableStore.stored_nodup store) (by simp)
  have collected : Collected store recovered := by
    intro taskId state
    rw [states, ← members]
    simp
  have limit : (LawfulRecoverableStore.stored store).length ≤ maxTasks :=
    length ▸ Nat.le_of_not_lt fits
  simp only [gathered, TaskSupervisor.withMaxTasks, if_neg positive]
  have ends := failInterrupted_cases env (recovering world store maxTasks recovered)
    (interruptedTasks recovered)
  unfold recovering at ends
  generalize exec (failInterrupted env (interruptedTasks recovered)) (_ : Process S) = out
    at ends ⊢
  obtain ⟨result, after⟩ := out
  have nonzero : 0 < maxTasks := Nat.pos_of_ne_zero positive
  cases result with
  | ok _ => exact .finished recovered nonzero all limit collected after ends
  | error stop =>
    obtain ⟨done, taskId, state, rest, mid, e, order, fails, rfl, rejected, left⟩ := ends
    exact .interrupted recovered nonzero all limit collected done rest taskId state mid after e
      order fails rejected left

theorem RestartedLog.accepted {store after : S} {taskId : TaskId} {state : TaskState}
    (accepted : Accepted store taskId state) (interrupted : state.isTerminal = false)
    (restarted : RestartedLog (LawfulEventStore.log store taskId)
      (LawfulEventStore.log after taskId) state) : Accepted after taskId .failed := by
  obtain ⟨sequenced, replays⟩ := accepted_iff.mp accepted
  refine accepted_iff.mpr ⟨restarted.sequenced sequenced, ?_⟩
  rw [restarted.kinds]
  exact replays.append (restartEvents_continue interrupted)

/-- An advance keeps every log accepted and leads to the same closed log. -/
theorem Advances.accepted {store after : S} (advances : Advances store after) {taskId : TaskId}
    {state : TaskState} (accepted : Accepted store taskId state) :
    ∃ next, Accepted after taskId next ∧ closedState next = closedState state ∧
      closedKinds (kindsOf (LawfulEventStore.log after taskId)) =
        closedKinds (kindsOf (LawfulEventStore.log store taskId)) := by
  rcases advances taskId with same | ⟨found, foundAccepted, interrupted, restarted⟩
  · refine ⟨state, ?_, rfl, by rw [same]⟩
    rw [Accepted, same]
    exact accepted
  · cases accepted.unique foundAccepted
    have failed := restarted.accepted accepted interrupted
    refine ⟨.failed, failed, by rw [closedState, closedState, interrupted]; rfl, ?_⟩
    rw [closedKinds_eq (accepted_iff.mp failed).2, closedKinds_eq (accepted_iff.mp accepted).2,
      restarted.kinds, interrupted]
    rfl

theorem Advances.stored_perm {store after : S} (advances : Advances store after) :
    (LawfulRecoverableStore.stored after).Perm (LawfulRecoverableStore.stored store) := by
  refine (List.perm_ext_iff_of_nodup (LawfulRecoverableStore.stored_nodup _)
    (LawfulRecoverableStore.stored_nodup _)).mpr ?_
  intro taskId
  rw [LawfulRecoverableStore.mem_stored, LawfulRecoverableStore.mem_stored]
  exact advances.stored taskId

theorem Advances.all {store after : S} (advances : Advances store after)
    (all : AllAccepted store) : AllAccepted after := by
  intro taskId logged
  obtain ⟨state, accepted⟩ := all taskId ((advances.stored taskId).mp logged)
  obtain ⟨next, acceptedAfter, _⟩ := advances.accepted accepted
  exact ⟨next, acceptedAfter⟩

theorem recover_advances {env : Env} {world : World} {store : S} {maxTasks : Nat}
    {out : Except Stop (TaskSupervisor S) × World × S}
    (ends : RecoverEnds env world store maxTasks out) : Advances store out.2.2 := by
  intro taskId
  cases ends with
  | refused stop reason => exact .inl rfl
  | interrupted recovered _ _ _ collected done rest _ _ mid after _ order fails _ left =>
    have kept : after.supervisor = mid.supervisor := by rw [left]
    rw [kept]
    rcases fails_log collected order fails taskId with ⟨_, same⟩ | ⟨state, _, accepted, live, log, _⟩
    · exact .inl same
    · exact .inr ⟨state, accepted, live, log⟩
  | finished recovered _ _ _ collected after fails =>
    rcases fails_log collected (List.append_nil _).symm fails taskId with
      ⟨_, same⟩ | ⟨state, _, accepted, live, log, _⟩
    · exact .inl same
    · exact .inr ⟨state, accepted, live, log⟩

theorem recover_ids {env : Env} {world : World} {store : S} {maxTasks : Nat}
    {out : Except Stop (TaskSupervisor S) × World × S}
    (ends : RecoverEnds env world store maxTasks out) : world.ids ≤ out.2.1.ids := by
  cases ends with
  | refused stop reason => exact Nat.le_refl _
  | interrupted recovered _ _ _ _ done rest _ _ mid after _ order fails _ left =>
    rw [left]
    exact fails.frame.2.1.ids
  | finished recovered _ _ _ _ after fails => exact fails.frame.2.1.ids

/-- What a successful recovery has checked and what it returns. -/
structure RecoverOk (world : World) (store : S) (maxTasks : Nat) (supervisor : TaskSupervisor S)
    (after : S) : Prop where
  positive : 0 < maxTasks
  all : AllAccepted store
  limit : (LawfulRecoverableStore.stored store).length ≤ maxTasks
  room : ∀ taskId state, Accepted store taskId state → state.isTerminal = false →
    (LawfulEventStore.log store taskId).length + 2 ≤ LawfulEventStore.capacity store
  completes : Completes store after
  fields : supervisor = { TaskSupervisor.empty after maxTasks with
    recoveredTasks := supervisor.recoveredTasks }
  states : ∀ (taskId : TaskId) (state : TaskState),
    supervisor.recoveredTasks[taskId]? = some state ↔
      ∃ old, Accepted store taskId old ∧ state = closedState old

theorem recover_ok {env : Env} {world later : World} {store after : S} {maxTasks : Nat}
    {supervisor : TaskSupervisor S}
    (ends : RecoverEnds env world store maxTasks (.ok supervisor, later, after)) :
    RecoverOk world store maxTasks supervisor after := by
  cases ends with
  | finished recovered positive all limit collected left fails =>
    have logs := fails_log collected (List.append_nil _).symm fails
    obtain ⟨frame, _, _⟩ := fails.frame
    have listed : ∀ taskId state, Accepted store taskId state → state.isTerminal = false →
        (taskId, state) ∈ interruptedTasks recovered := by
      intro taskId state accepted live
      exact mem_interruptedTasks.mpr ⟨(collected taskId state).mpr accepted, live⟩
    refine ⟨positive, all, limit, ?_, ?_, ?_, ?_⟩
    · intro taskId state accepted live
      exact (fails.own (interruptedTasks_nodup recovered) (listed taskId state accepted live)).2
    · intro taskId state accepted
      split
      · rename_i terminal
        rcases logs taskId with ⟨_, same⟩ | ⟨other, _, acceptedOther, live, _⟩
        · exact same
        · rw [accepted.unique acceptedOther, live] at terminal
          cases terminal
      · rename_i live
        have live : state.isTerminal = false := Bool.eq_false_iff.mpr live
        exact (fails.own (interruptedTasks_nodup recovered)
          (listed taskId state accepted live)).1
    · rw [frame]
      rfl
    · intro taskId state
      rw [frame]
      simp only [OrdMap.get_foldl_insert]
      split
      · rename_i member
        obtain ⟨⟨owner, old⟩, entry, rfl⟩ := List.mem_map.mp member
        obtain ⟨present, live⟩ := mem_interruptedTasks.mp entry
        have accepted := (collected owner old).mp present
        constructor
        · intro h
          refine ⟨old, accepted, ?_⟩
          rw [← Option.some.inj h, closedState, live]
          rfl
        · rintro ⟨other, acceptedOther, rfl⟩
          rw [← accepted.unique acceptedOther, closedState, live]
          rfl
      · rename_i absent
        have terminal : ∀ old, Accepted store taskId old → old.isTerminal = true := by
          intro old accepted
          by_contra live
          exact absent (List.mem_map_of_mem
            (listed taskId old accepted (Bool.eq_false_iff.mpr live)))
        change recovered[taskId]? = some state ↔ _
        rw [collected]
        constructor
        · intro accepted
          exact ⟨state, accepted, by rw [closedState, terminal state accepted]; rfl⟩
        · rintro ⟨old, accepted, rfl⟩
          rw [closedState, terminal old accepted]
          exact accepted

theorem Completes.closed {store after : S} (completes : Completes store after)
    {taskId : TaskId} {state : TaskState} (accepted : Accepted store taskId state) :
    kindsOf (LawfulEventStore.log after taskId) =
      closedKinds (kindsOf (LawfulEventStore.log store taskId)) ∧
    Accepted after taskId (closedState state) := by
  have result := completes taskId state accepted
  rw [closedKinds_eq (accepted_iff.mp accepted).2, closedState]
  cases terminal : state.isTerminal with
  | true =>
    rw [terminal] at result
    have same : LawfulEventStore.log after taskId = LawfulEventStore.log store taskId := result
    refine ⟨by rw [same]; rfl, ?_⟩
    rw [Accepted, same]
    exact accepted
  | false =>
    rw [terminal] at result
    have restarted : RestartedLog (LawfulEventStore.log store taskId)
      (LawfulEventStore.log after taskId) state := result
    exact ⟨restarted.kinds, restarted.accepted accepted terminal⟩

/-- In calm conditions room for two more events is all a recovery needs. -/
theorem recover_calm {env : Env} (calm : ∀ i, (env.io i).Calm) (world : World) {store : S}
    (bounded : LawfulEventStore.capacity store < 2 ^ 63) {maxTasks : Nat}
    (positive : 0 < maxTasks) (all : AllAccepted store)
    (limit : (LawfulRecoverableStore.stored store).length ≤ maxTasks)
    (room : ∀ taskId state, Accepted store taskId state → state.isTerminal = false →
      (LawfulEventStore.log store taskId).length + 2 ≤ LawfulEventStore.capacity store) :
    ∃ supervisor later after,
      recover env world store maxTasks = (.ok supervisor, later, after) := by
  have ends := recover_cases env world store maxTasks
  generalize recover env world store maxTasks = out at ends ⊢
  cases ends with
  | finished _ _ _ _ _ after _ => exact ⟨_, _, _, rfl⟩
  | refused stop reason =>
    rcases reason with zero | unread | many
    · omega
    · exact absurd all unread
    · exact absurd limit (Nat.not_le.mpr many)
  | interrupted recovered _ _ _ collected done rest taskId state mid after e order fails
      rejected left =>
    exfalso
    have listed : (taskId, state) ∈ interruptedTasks recovered := by simp [order]
    obtain ⟨present, live⟩ := mem_interruptedTasks.mp listed
    have accepted := (collected taskId state).mp present
    have absent : taskId ∉ done.map Prod.fst := by
      have distinct := interruptedTasks_nodup recovered
      rw [order, List.map_append, List.map_cons] at distinct
      intro early
      exact (List.nodup_append.mp distinct).2.2 taskId early taskId List.mem_cons_self rfl
    have same : LawfulEventStore.log mid.supervisor.eventStore taskId =
        LawfulEventStore.log store taskId := fails.others absent
    have capacity : LawfulEventStore.capacity mid.supervisor.eventStore =
        LawfulEventStore.capacity store := fails.frame.2.2
    have full := rejected_full env calm (capacity ▸ bounded)
      (same ▸ (accepted_iff.mp accepted).1) rejected
    rw [same, capacity] at full
    exact absurd (room taskId state accepted live) (Nat.not_le.mpr full)

end AiOs
