import AiOs.Adapter.Site

/-! The Filesystem Adapter on Linux: it creates one new file beneath an opened root directory
and writes bounded bytes to it. The kernel's answers are the outside. -/
namespace AiOs

open Fallible

def maxFilesystemPathBytes : Nat := 4096
def maxCreateBytes : Nat := 1024 * 1024

inductive FilesystemAdapterError where
  | invalidConfig
  | invalidOperation
  | unsupportedPlatform
  | scopeMismatch
  | budgetExceeded
  | createFailed
  | writeFailed
  deriving DecidableEq, Repr

structure FilesystemWriteReceipt where
  bytesWritten : Nat
  deriving DecidableEq, Repr

structure FilesystemAdapter where
  root : Nat
  deriving DecidableEq, Repr

inductive OFlag where
  | wronly
  | create
  | excl
  | cloexec
  deriving DecidableEq, Repr

inductive ResolveFlag where
  | beneath
  | noMagiclinks
  | noSymlinks
  | noXdev
  deriving DecidableEq, Repr

/-- The last three arguments of `openat2`. -/
structure OpenHow where
  flags : List OFlag
  mode : Nat
  resolve : List ResolveFlag
  deriving DecidableEq, Repr

/-- A new file for its owner, beneath the root and on its mount, by no link. -/
def createHow : OpenHow :=
  ⟨[.wronly, .create, .excl, .cloexec], 0o600, [.beneath, .noMagiclinks, .noSymlinks, .noXdev]⟩

inductive FilesystemDeed where
  | openat2 (root : Nat) (relative : String) (how : OpenHow)
  | writeAll (descriptor : Nat) (contents : List UInt8)
  | syncData (descriptor : Nat)
  deriving DecidableEq, Repr

/-- The destination is opened only after a check; what follows is done to the open file. -/
instance : Checked FilesystemDeed where
  guarded
    | .openat2 .. => true
    | .writeAll .. | .syncData _ => false
  timeout _ := none

/-- How the kernel answers, after all that has happened: with a descriptor, or with success. -/
structure FilesystemOutside where
  openat2 : List (AdapterEvent FilesystemDeed) → Option Nat
  writeAll : List (AdapterEvent FilesystemDeed) → Bool
  syncData : List (AdapterEvent FilesystemDeed) → Bool

abbrev FilesystemSite := Site FilesystemAdapter FilesystemOutside FilesystemDeed

abbrev FilesystemM := AdapterM FilesystemAdapter FilesystemOutside FilesystemDeed
  FilesystemAdapterError

namespace FilesystemAdapter

def validateOperation (path : String) (contents : List UInt8) :
    Except FilesystemAdapterError Unit :=
  if maxCreateBytes < contents.length ∨ path.toList.head? ≠ some '/' ∨ path = "/"
      ∨ maxFilesystemPathBytes < path.utf8ByteSize ∨ '\x00' ∈ path.toList
      ∨ ((path.toList.splitOn '/').drop 1).all isNormalComponent = false then
    .error .invalidOperation
  else .ok ()

end FilesystemAdapter

/-- A prepared write. Only the catalog builds one, from a path and contents it has validated. -/
structure FilesystemWriteOperation where
  path : String
  contents : List UInt8
  executionContext : Option TaskExecutionContext
  valid : FilesystemAdapter.validateOperation path contents = .ok ()
  deriving DecidableEq

instance : ContextualOperation FilesystemWriteOperation where
  capabilityRequest operation := .file operation.path .write
  executionContext := FilesystemWriteOperation.executionContext
  attach context operation := { operation with executionContext := some context }
  executionContext_attach _ _ := rfl
  capabilityRequest_attach _ _ := rfl

/-- `FilesystemCatalog::prepare_create` -/
def prepareCreate (path : String) (contents : List UInt8) :
    Except FilesystemAdapterError FilesystemWriteOperation :=
  match valid : FilesystemAdapter.validateOperation path contents with
  | .error e => .error e
  | .ok () => .ok ⟨path, contents, none, valid⟩

namespace FilesystemAdapter
variable (clock : Nat → Instant)

def requireRemainingBudget (context : TaskExecutionContext) : FilesystemM Unit := do
  let remaining ← remainingWallTime clock context
  ensure (decide (remaining ≠ 0)) .budgetExceeded

/-- `Path::strip_prefix("/")` on a normalized path. -/
def stripRoot (path : String) : Option String :=
  if path.toList.head? = some '/' then some (String.ofList (path.toList.drop 1)) else none

def createNew (operation : FilesystemWriteOperation) : FilesystemM FilesystemWriteReceipt := do
  let context ← okOr operation.executionContext .scopeMismatch
  requireRemainingBudget clock context
  let relative ← okOr (stripRoot operation.path) .invalidOperation
  let s ← get
  let opened ← acts context (.openat2 s.adapter.root relative createHow) FilesystemOutside.openat2
  let descriptor ← okOr opened .createFailed
  requireRemainingBudget clock context
  let written ← acts context (.writeAll descriptor operation.contents) FilesystemOutside.writeAll
  ensure written .writeFailed
  let synced ← acts context (.syncData descriptor) FilesystemOutside.syncData
  ensure synced .writeFailed
  requireRemainingBudget clock context
  pure ⟨operation.contents.length⟩

def execute (operation : FilesystemWriteOperation) : FilesystemM FilesystemWriteReceipt := do
  propagate (validateOperation operation.path operation.contents)
  createNew clock operation

end FilesystemAdapter

instance : ExecutionAdapter FilesystemSite FilesystemWriteOperation FilesystemWriteReceipt
    FilesystemAdapterError :=
  ⟨fun clock site operation reads => site.run (FilesystemAdapter.execute clock operation) reads⟩

section
variable {clock : Nat → Instant} {context : TaskExecutionContext}
  {s : Session FilesystemAdapter FilesystemOutside FilesystemDeed}

theorem requireRemainingBudget_rule {β : Type} {f : Unit → FilesystemM β}
    {P : Except FilesystemAdapterError β ×
      Session FilesystemAdapter FilesystemOutside FilesystemDeed → Prop}
    (spent : P (.error .budgetExceeded, s.read clock))
    (early : clock s.reads < context.deadline → P (exec (f ()) (s.read clock))) :
    P (exec (FilesystemAdapter.requireRemainingBudget clock context >>= f) s) := by
  unfold FilesystemAdapter.requireRemainingBudget
  rw [bind_assoc, exec_bind_ok (exec_remainingWallTime clock context s)]
  apply ensure_rule
  · exact fun _ => spent
  · intro left
    exact early (TaskExecutionContext.before_deadline (of_decide_eq_true left))

variable (clock s) in
theorem createNew_timely (operation : FilesystemWriteOperation)
    (attached : operation.executionContext = some context)
    {admits : TaskExecutionContext → FilesystemDeed → Instant → Prop}
    (within : ∀ deed now, WithinBudget 0 context deed now → admits context deed now)
    (timely : s.Timely admits) :
    LeavesTimely admits (exec (FilesystemAdapter.createNew clock operation) s) := by
  unfold FilesystemAdapter.createNew
  rw [exec_bind_ok (exec_okOr_found attached _ _)]
  have first := Session.timely_read timely clock
  apply requireRemainingBudget_rule (P := LeavesTimely admits)
  · exact first
  intro early
  apply okOr_rule (P := LeavesTimely admits)
  · exact fun _ => first
  intro relative _
  rw [exec_bind_ok (exec_get _), exec_bind_ok (exec_acts _ _ _ _)]
  have opened := Session.timely_checked first
    (within (.openat2 s.adapter.root relative createHow) _ ⟨early, nofun⟩)
  apply okOr_rule (P := LeavesTimely admits)
  · exact fun _ => opened
  intro descriptor _
  have second := Session.timely_read opened clock
  apply requireRemainingBudget_rule (P := LeavesTimely admits)
  · exact second
  intro _
  rw [exec_bind_ok (exec_acts _ _ _ _)]
  have written := Session.timely_free second context (.writeAll descriptor operation.contents) rfl
  apply ensure_rule (P := LeavesTimely admits)
  · exact fun _ => written
  intro _
  rw [exec_bind_ok (exec_acts _ _ _ _)]
  have synced := Session.timely_free written context (.syncData descriptor) rfl
  apply ensure_rule (P := LeavesTimely admits)
  · exact fun _ => synced
  intro _
  have third := Session.timely_read synced clock
  apply requireRemainingBudget_rule (P := LeavesTimely admits)
  · exact third
  · exact fun _ => third

variable (s) in
theorem createNew_spent (operation : FilesystemWriteOperation)
    (attached : operation.executionContext = some context)
    (late : context.deadline ≤ clock s.reads) :
    exec (FilesystemAdapter.createNew clock operation) s =
      (.error .budgetExceeded, s.read clock) := by
  unfold FilesystemAdapter.createNew
  rw [exec_bind_ok (exec_okOr_found attached _ _)]
  apply requireRemainingBudget_rule (P := fun out => out = (.error .budgetExceeded, s.read clock))
  · rfl
  · intro early
    exact absurd early (Nat.not_lt.mpr late)

end

theorem filesystem_respects_wall_time :
    RespectsWallTime FilesystemOutside FilesystemDeed FilesystemWriteOperation
      (fun _ : FilesystemAdapter => 0) FilesystemAdapterError.budgetExceeded where
  timely clock site operation reads context admits attached within timely := by
    have created := createNew_timely clock ⟨site, reads⟩ operation attached within timely
    refine ⟨?_, rfl⟩
    change LeavesTimely admits (exec (FilesystemAdapter.execute clock operation) ⟨site, reads⟩)
    rw [FilesystemAdapter.execute, operation.valid]
    exact created
  spent clock site operation reads context attached late := by
    change Site.run site (FilesystemAdapter.execute clock operation) reads = _
    rw [Site.run, FilesystemAdapter.execute, operation.valid, propagate]
    rw [exec_bind_ok (exec_pure _ _), createNew_spent ⟨site, reads⟩ operation attached late]
    rfl

end AiOs
