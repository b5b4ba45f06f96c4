import AiOs.Runtime.Coherence

/-! Calls and runs. A call is an expiry pass, for the methods that have one, followed by at
most one effect of its own; an invariant of the effects is an invariant of every run. -/
namespace AiOs

open Fallible

variable {S : Type} [LawfulEventStore S]

/-- What a call does after its pass. An idle call only lets time pass. -/
inductive Effect (env : Env) (p : Process S) : Call → Process S → Prop where
  | idle {call : Call} {after : Process S} (quiet : Quiet p after) : Effect env p call after
  | admits {spec : TaskSpec} {after : Process S} (admits : Admits env p spec after) :
      Effect env p (.submit spec) after
  | launches {taskId : TaskId} {after : Process S} {call : Call}
      (start : call = .start taskId ∨ call = .startExecution taskId)
      (launches : Launches env p taskId after) : Effect env p call after
  | allows {taskId : TaskId} {request : CapabilityRequest} {ttl : Duration} {after : Process S}
      (notes : Notes p taskId request .allow .operationAllowed after) :
      Effect env p (.requestOperation taskId request ttl) after
  | refuses {taskId : TaskId} {request : CapabilityRequest} {ttl : Duration}
      {reason : DenialReason} {after : Process S}
      (notes : Notes p taskId request (.deny reason) (.operationDenied reason) after) :
      Effect env p (.requestOperation taskId request ttl) after
  | asks {taskId : TaskId} {request : CapabilityRequest} {ttl : Duration} {after : Process S}
      (asks : Asks env p taskId request ttl after) :
      Effect env p (.requestOperation taskId request ttl) after
  | grants {id : ApprovalId} {after : Process S} (grants : Grants env p id after) :
      Effect env p (.approveOperation id) after
  | denies {id : ApprovalId} {after : Process S} (denies : Closes p id (denying id) after) :
      Effect env p (.denyOperation id) after
  | forgets {taskId : TaskId} {operationId : OperationId} {request : CapabilityRequest}
      {after : Process S} (forgets : Forgets p operationId after) :
      Effect env p (.authorizeOperation taskId operationId request) after
  | consumes {taskId : TaskId} {operationId : OperationId} {request : CapabilityRequest}
      {receipt : ApprovalReceipt} {after : Process S}
      (consumes : Consumes env p taskId operationId request receipt after) :
      Effect env p (.authorizeOperation taskId operationId request) after
  | finishes {taskId : TaskId} {next : TaskState} {failure : Option ErrorCode} {call : Call}
      {after : Process S}
      (ends : call = .succeed taskId ∧ next = .succeeded ∧ failure = none ∨
        call = .fail taskId ∧ next = .failed ∧ failure = none ∨
        call = .failBudgetExceeded taskId ∧ next = .failed ∧ failure = some .budgetExceeded ∨
        call = .cancel taskId ∧ next = .cancelled ∧ failure = none)
      (finishes : Finishes p taskId next failure after) : Effect env p call after

/-- The requests that the pass of a call may close: those expired at its first reading. -/
def Call.expired (env : Env) (p : Process S) : Call → List ApprovalId
  | .requestOperation .. | .approveOperation _ | .denyOperation _ | .expireApprovals =>
    p.supervisor.approvalAuthority.expiredIds (env.clock p.world.reads)
  | _ => []

theorem Orderly.effect {env : Env} {p after : Process S} (fresh : Function.Injective env.uuid)
    (orderly : Orderly env p) {call : Call} (effect : Effect env p call after) :
    Orderly env after := by
  cases effect with
  | idle quiet => exact orderly.quiet quiet
  | admits admits => exact orderly.admits fresh admits
  | launches _ launches => exact orderly.launches launches
  | allows notes => exact orderly.notes notes
  | refuses notes => exact orderly.notes notes
  | asks asks => exact orderly.asks fresh asks
  | grants grants => exact orderly.grants grants
  | denies denies => exact orderly.closes denies
  | forgets forgets => exact orderly.forgets forgets
  | consumes consumes => exact orderly.consumes consumes
  | finishes _ finishes => exact orderly.finishes finishes

theorem Coherent.effect {env : Env} {p after : Process S} (fresh : Function.Injective env.uuid)
    (coherent : Coherent env p) {call : Call} (effect : Effect env p call after) :
    Coherent env after := by
  cases effect with
  | idle quiet => exact coherent.quiet quiet
  | admits admits => exact coherent.admits fresh admits
  | launches _ launches => exact coherent.launches launches
  | allows notes => exact coherent.notes rfl notes
  | refuses notes => exact coherent.notes rfl notes
  | asks asks => exact coherent.asks fresh asks
  | grants grants => exact coherent.grants grants
  | denies denies => exact coherent.denies denies
  | forgets forgets => exact coherent.forgets forgets
  | consumes consumes => exact coherent.consumes consumes
  | finishes _ finishes => exact coherent.finishes finishes

theorem Orderly.closesAll {env : Env} {p mid : Process S} (orderly : Orderly env p)
    {ids : List ApprovalId} (closes : ClosesAll p ids mid) : Orderly env mid := by
  induction closes with
  | nil => exact orderly
  | cons first _ ih => exact ih (orderly.closes first)

theorem Coherent.closesAll {env : Env} {p mid : Process S} (coherent : Coherent env p)
    {ids : List ApprovalId} (closes : ClosesAll p ids mid) : Coherent env mid := by
  induction closes with
  | nil => exact coherent
  | cons first _ ih => exact ih (coherent.expires first)

variable (env : Env) (p : Process S)

/-- The pass itself: it closes expired requests in order, and all of them unless it fails. -/
theorem expireApprovals_cases :
    PassEnds p.ticked (p.supervisor.approvalAuthority.expiredIds (env.clock p.world.reads)) 0
      (exec (expireApprovals env) p) := by
  unfold expireApprovals
  rw [exec_bind_ok (exec_now env p), exec_bind_ok (exec_current _)]
  exact expireLoop_cases env p.ticked _ 0

/-- Where a pass leads, whether it fails or not. -/
def PassLeads (p mid : Process S) (closed : List ApprovalId) : Prop :=
  closed.Sublist (p.supervisor.approvalAuthority.expiredIds (env.clock p.world.reads)) ∧
    ClosesAll p.ticked closed mid

theorem expireApprovals_ok {count : Nat} {mid : Process S}
    (passed : exec (expireApprovals env) p = (.ok count, mid)) :
    ∃ closed, PassLeads env p mid closed ∧ count = closed.length ∧
      ∀ id ∈ p.supervisor.approvalAuthority.expiredIds (env.clock p.world.reads),
        mid.supervisor.pendingOperations[id]? = none := by
  have pass := expireApprovals_cases env p
  rw [passed] at pass
  obtain ⟨closed, among, closes, total, gone⟩ := pass
  exact ⟨closed, ⟨among, closes⟩, by omega, gone⟩

theorem expireApprovals_error {stop : Stop} {after : Process S}
    (passed : exec (expireApprovals env) p = (.error stop, after)) :
    ∃ closed mid, PassLeads env p mid closed ∧ Quiet mid after := by
  have pass := expireApprovals_cases env p
  rw [passed] at pass
  obtain ⟨closed, mid, among, closes, quiet⟩ := pass
  exact ⟨closed, mid, ⟨among, closes⟩, quiet⟩

theorem Orderly.passed {count : Nat} {mid : Process S} (orderly : Orderly env p)
    (passed : exec (expireApprovals env) p = (.ok count, mid)) : Orderly env mid := by
  obtain ⟨closed, ⟨_, closes⟩, _⟩ := expireApprovals_ok env p passed
  exact (orderly.quiet (quiet_ticked p)).closesAll closes

theorem Coherent.passed {count : Nat} {mid : Process S} (coherent : Coherent env p)
    (passed : exec (expireApprovals env) p = (.ok count, mid)) : Coherent env mid := by
  obtain ⟨closed, ⟨_, closes⟩, _⟩ := expireApprovals_ok env p passed
  exact (coherent.quiet (quiet_ticked p)).closesAll closes

/-- A method with a pass: the part after the pass decides the effect. -/
theorem pass_then {α : Type} {body : SupervisorM S α} {call : Call}
    (expired : call.expired env p =
      p.supervisor.approvalAuthority.expiredIds (env.clock p.world.reads))
    (after : ∀ count mid, exec (expireApprovals env) p = (.ok count, mid) →
      Effect env mid call (exec body mid).2) :
    ∃ start closed mid, Quiet p start ∧ closed.Sublist (call.expired env p) ∧
      ClosesAll start closed mid ∧
      Effect env mid call (exec (expireApprovals env >>= fun _ => body) p).2 := by
  rw [expired]
  rcases passed : exec (expireApprovals env) p with ⟨result, mid⟩
  cases result with
  | error stop =>
    rw [exec_bind_error passed]
    obtain ⟨closed, last, ⟨among, closes⟩, quiet⟩ := expireApprovals_error env p passed
    exact ⟨p.ticked, closed, last, quiet_ticked p, among, closes, .idle quiet⟩
  | ok count =>
    rw [exec_bind_ok passed]
    obtain ⟨closed, ⟨among, closes⟩, _⟩ := expireApprovals_ok env p passed
    exact ⟨p.ticked, closed, mid, quiet_ticked p, among, closes, after count mid passed⟩

theorem StopsOr.effect {α : Type} {call : Call} {effect : α → Process S → Prop}
    {out : Except Stop α × Process S} (cases : StopsOr p effect out)
    (done : ∀ value after, effect value after → Effect env p call after) :
    Effect env p call out.2 := by
  obtain ⟨result, after⟩ := out
  cases result with
  | error stop => exact .idle cases
  | ok value => exact done value after cases

/-- Every call is a pass and one effect. -/
theorem call_effects (orderly : Orderly env p) (call : Call) :
    ∃ start closed mid, Quiet p start ∧ closed.Sublist (call.expired env p) ∧
      ClosesAll start closed mid ∧ Effect env mid call (call.run env p).2 := by
  -- a call without a pass
  have direct : Effect env p call (call.run env p).2 →
      ∃ start closed mid, Quiet p start ∧ closed.Sublist (call.expired env p) ∧
        ClosesAll start closed mid ∧ Effect env mid call (call.run env p).2 :=
    fun effect => ⟨p, [], p, Quiet.refl p, List.nil_sublist _, .nil p, effect⟩
  have recovered := orderly.recoveredTerminal
  have ready : ∀ count mid, exec (expireApprovals env) p = (.ok count, mid) →
      AuthorityReady env mid :=
    fun count mid passed => (orderly.passed env p passed).authorityReady
  cases call with
  | submit spec =>
    apply direct
    rw [Call.run, Call.perform, exec_discard]
    refine (submit_cases env p spec).effect env p ?_
    rintro result after (⟨_, rfl⟩ | ⟨_, admits⟩)
    · exact .idle (Quiet.refl _)
    · exact .admits admits
  | start taskId =>
    apply direct
    exact (start_cases env p recovered taskId).effect env p
      (fun _ _ launches => .launches (.inl rfl) launches)
  | startExecution taskId =>
    apply direct
    rw [Call.run, Call.perform, exec_discard]
    exact (startExecution_cases env p recovered taskId).effect env p
      (fun _ _ launches => .launches (.inr rfl) launches)
  | requestOperation taskId request ttl =>
    rw [Call.run, Call.perform, exec_discard]
    refine pass_then env p rfl ?_
    intro count mid passed
    refine (requestAfterPass_cases env mid (ready count mid passed) taskId request ttl).effect
      env mid ?_
    intro result after decides
    cases decides with
    | allowed notes => exact .allows notes
    | denied notes => exact .refuses notes
    | asked _ asks => exact .asks asks
  | approveOperation id =>
    rw [Call.run, Call.perform, exec_discard]
    refine pass_then env p rfl ?_
    intro count mid passed
    exact (approveAfterPass_cases env mid (ready count mid passed) id).effect env mid
      (fun _ _ grants => .grants grants.2)
  | denyOperation id =>
    rw [Call.run, Call.perform, exec_discard]
    refine pass_then env p rfl ?_
    intro count mid passed
    exact (denyAfterPass_cases env mid id).effect env mid (fun _ _ denies => .denies denies.2)
  | authorizeOperation taskId operationId request =>
    apply direct
    rw [Call.run, Call.perform, exec_discard]
    have cases := authorizeOperation_cases env p taskId operationId request
    generalize exec (authorizeOperation env taskId operationId request) p = out at cases ⊢
    obtain ⟨result, after⟩ := out
    cases result with
    | error stop =>
      rcases cases with quiet | forgets
      · exact .idle quiet
      · exact .forgets forgets
    | ok receipt => exact .consumes cases
  | expireApprovals =>
    rw [Call.run, Call.perform, exec_discard]
    rcases passed : exec (expireApprovals env) p with ⟨result, mid⟩
    cases result with
    | error stop =>
      obtain ⟨closed, last, ⟨among, closes⟩, quiet⟩ := expireApprovals_error env p passed
      exact ⟨p.ticked, closed, last, quiet_ticked p, among, closes, .idle quiet⟩
    | ok count =>
      obtain ⟨closed, ⟨among, closes⟩, _⟩ := expireApprovals_ok env p passed
      exact ⟨p.ticked, closed, mid, quiet_ticked p, among, closes, .idle (Quiet.refl _)⟩
  | succeed taskId =>
    apply direct
    exact (succeed_cases env p recovered taskId).effect env p
      (fun _ _ finishes => .finishes (.inl ⟨rfl, rfl, rfl⟩) finishes)
  | fail taskId =>
    apply direct
    exact (failTask_cases env p recovered taskId).effect env p
      (fun _ _ finishes => .finishes (.inr (.inl ⟨rfl, rfl, rfl⟩)) finishes)
  | failBudgetExceeded taskId =>
    apply direct
    exact (failBudgetExceeded_cases env p recovered taskId).effect env p
      (fun _ _ finishes => .finishes (.inr (.inr (.inl ⟨rfl, rfl, rfl⟩))) finishes)
  | cancel taskId =>
    apply direct
    rw [Call.run, Call.perform, exec_discard]
    refine (cancel_cases env p recovered taskId).effect env p ?_
    rintro changed after (⟨_, rfl⟩ | ⟨_, finishes⟩)
    · exact .idle (Quiet.refl _)
    · exact .finishes (.inr (.inr (.inr ⟨rfl, rfl, rfl⟩))) finishes

variable {env p}

/-- The rule for one call: what holds before it is kept by time and by the expiry of one
request, and the effect of the call itself leads from there to what holds after it. -/
theorem orderly_rule {I J : Process S → Prop} (orderly : Orderly env p) (call : Call)
    (quiet : ∀ a b, I a → Quiet a b → I b)
    (expires : ∀ a b id, id ∈ call.expired env p → Orderly env a → I a →
      Closes a id (expiring id) b → I b)
    (effect : ∀ a b, Orderly env a → I a → Effect env a call b → J b) (holds : I p) :
    J (call.run env p).2 := by
  obtain ⟨start, closed, mid, began, among, closes, last⟩ := call_effects env p orderly call
  have members : ∀ id ∈ closed, id ∈ call.expired env p := fun id member => among.subset member
  clear among
  have there : Orderly env mid ∧ I mid := by
    have first : Orderly env start ∧ I start :=
      ⟨orderly.quiet began, quiet p start holds began⟩
    clear began last
    induction closes with
    | nil => exact first
    | @cons a b c id rest closed _ ih =>
      have next : Orderly env b ∧ I b :=
        ⟨first.1.closes closed,
          expires a b id (members id List.mem_cons_self) first.1 first.2 closed⟩
      exact ih (fun other member => members other (List.mem_cons_of_mem _ member)) next
  exact effect mid _ there.1 there.2 last

theorem call_rule {I J : Process S → Prop} (coherent : Coherent env p) (call : Call)
    (quiet : ∀ a b, I a → Quiet a b → I b)
    (expires : ∀ a b id, id ∈ call.expired env p → Coherent env a → I a →
      Closes a id (expiring id) b → I b)
    (effect : ∀ a b, Coherent env a → I a → Effect env a call b → J b) (holds : I p) :
    J (call.run env p).2 := by
  apply orderly_rule (I := fun a => Coherent env a ∧ I a) coherent.orderly call
  · rintro a b ⟨there, kept⟩ began
    exact ⟨there.quiet began, quiet a b kept began⟩
  · rintro a b id member _ ⟨there, kept⟩ closed
    exact ⟨there.expires closed, expires a b id member there kept closed⟩
  · rintro a b _ ⟨there, kept⟩ last
    exact effect a b there kept last
  · exact ⟨coherent, holds⟩

theorem Orderly.call (fresh : Function.Injective env.uuid) (orderly : Orderly env p)
    (call : Call) : Orderly env (call.run env p).2 :=
  orderly_rule orderly call (fun _ _ orderly quiet => orderly.quiet quiet)
    (fun _ _ _ _ _ orderly closes => orderly.closes closes)
    (fun _ _ _ orderly effect => orderly.effect fresh effect) orderly

theorem Coherent.call (fresh : Function.Injective env.uuid) (coherent : Coherent env p)
    (call : Call) : Coherent env (call.run env p).2 :=
  call_rule coherent call (fun _ _ coherent quiet => coherent.quiet quiet)
    (fun _ _ _ _ _ coherent closes => coherent.expires closes)
    (fun _ _ _ coherent effect => coherent.effect fresh effect) coherent

end AiOs
