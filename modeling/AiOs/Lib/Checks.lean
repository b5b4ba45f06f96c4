import Mathlib.Algebra.Ring.Nat
import Mathlib.Tactic.Common

/-! Sequences of checks that stop at the first error. Each step of such a sequence has one
equation for its success, so that a successful run is read back with `simp only`. -/
namespace AiOs

variable {ε ε' α β : Type}

/-- `if !holds { return Err(error); }` -/
def check (holds : Bool) (error : ε) : Except ε Unit :=
  if holds then .ok () else .error error

/-- `option.ok_or(error)?` -/
def orError (o : Option α) (error : ε) : Except ε α :=
  match o with
  | some a => .ok a
  | none => .error error

/-- `checked_add` on `u64` and on a 64-bit `usize`. -/
def checkedAdd (a b : Nat) : Option Nat := if a + b < 2 ^ 64 then some (a + b) else none

theorem checkedAdd_some {a b c : Nat} (h : checkedAdd a b = some c) : a + b = c := by
  unfold checkedAdd at h
  split at h
  · exact Option.some.inj h
  · cases h

theorem checkedAdd_fits {a b : Nat} (fits : a + b < 2 ^ 64) : checkedAdd a b = some (a + b) :=
  if_pos fits

@[simp] theorem check_ok {holds : Bool} {error : ε} {u : Unit} :
    check holds error = .ok u ↔ holds = true := by
  cases holds <;> simp [check]

@[simp] theorem orError_ok {o : Option α} {error : ε} {a : α} :
    orError o error = .ok a ↔ o = some a := by
  cases o <;> simp [orError]

@[simp] theorem bind_ok {x : Except ε α} {f : α → Except ε β} {b : β} :
    (x >>= f) = .ok b ↔ ∃ a, x = .ok a ∧ f a = .ok b := by
  cases x <;> simp [bind, Except.bind]

@[simp] theorem pure_ok {a b : α} : (pure a : Except ε α) = .ok b ↔ a = b := by
  simp [pure, Except.pure]

@[simp] theorem mapError_ok {x : Except ε α} {f : ε → ε'} {a : α} :
    x.mapError f = .ok a ↔ x = .ok a := by
  cases x <;> simp [Except.mapError]

def FailsIn (x : Except ε α) (allowed : ε → Prop) : Prop := ∀ e, x = .error e → allowed e

section failsIn
variable {allowed : ε → Prop}

theorem failsIn_ok (a : α) : FailsIn (.ok a : Except ε α) allowed := nofun

theorem failsIn_error {e : ε} (known : allowed e) : FailsIn (.error e : Except ε α) allowed := by
  rintro _ ⟨⟩
  exact known

theorem failsIn_check (holds : Bool) {error : ε} (known : allowed error) :
    FailsIn (check holds error) allowed := by
  cases holds with
  | true => exact failsIn_ok ()
  | false => exact failsIn_error known

theorem failsIn_orError (o : Option α) {error : ε} (known : allowed error) :
    FailsIn (orError o error) allowed := by
  cases o with
  | none => exact failsIn_error known
  | some a => exact failsIn_ok a

theorem FailsIn.bind {x : Except ε α} {f : α → Except ε β} (first : FailsIn x allowed)
    (rest : ∀ a, x = .ok a → FailsIn (f a) allowed) : FailsIn (x >>= f) allowed := by
  cases x with
  | error e => exact failsIn_error (first e rfl)
  | ok a => exact rest a rfl

theorem failsIn_mapError {x : Except ε' α} {f : ε' → ε} (known : ∀ e, x = .error e → allowed (f e)) :
    FailsIn (x.mapError f) allowed := by
  cases x with
  | error e => exact failsIn_error (known e rfl)
  | ok a => exact failsIn_ok a

theorem FailsIn.map {x : Except ε α} (fails : FailsIn x allowed) (f : α → β) :
    FailsIn (x.map f) allowed := by
  cases x with
  | error e => exact failsIn_error (fails e rfl)
  | ok a => exact failsIn_ok _

theorem failsIn_foldlM {f : β → α → Except ε β} (step : ∀ b a, FailsIn (f b a) allowed)
    (items : List α) (b : β) : FailsIn (items.foldlM f b) allowed := by
  induction items generalizing b with
  | nil => exact failsIn_ok b
  | cons a items ih =>
    rw [List.foldlM_cons]
    exact (step b a).bind fun next _ => ih next

theorem FailsIn.mono {x : Except ε α} {wider : ε → Prop} (fails : FailsIn x allowed)
    (within : ∀ e, allowed e → wider e) : FailsIn x wider :=
  fun e failed => within e (fails e failed)

end failsIn

end AiOs
