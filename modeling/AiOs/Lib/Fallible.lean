import Mathlib.Algebra.Ring.Nat
import Mathlib.Tactic.Common

/-! Computations that may fail and that keep the changes made before the failure, as a
method on `&mut self` that returns a `Result` does. The library gives their runs: one
equation for each way to build a computation, and the case rules that proofs about
sequences of them use. -/

/-- State changes survive a failure: the state lies below the exception. -/
abbrev Fallible (σ ε : Type) := ExceptT ε (StateM σ)

namespace Fallible
variable {σ ε α β : Type}

def exec (x : Fallible σ ε α) (s : σ) : Except ε α × σ := StateT.run (ExceptT.run x) s

/-- `option.ok_or(error)?` -/
def okOr (o : Option α) (e : ε) : Fallible σ ε α :=
  match o with
  | some a => pure a
  | none => throw e

/-- `if !condition { return Err(error); }` -/
def ensure (condition : Bool) (e : ε) : Fallible σ ε Unit :=
  if condition then pure () else throw e

/-- `result?` -/
def propagate (result : Except ε α) : Fallible σ ε α :=
  match result with
  | .ok a => pure a
  | .error e => throw e

/-- The result of a run is looked at, not propagated. -/
def attempt (x : Fallible σ ε α) : Fallible σ ε (Except ε α) := modifyGet (exec x)

@[simp] theorem exec_pure (a : α) (s : σ) : exec (pure a : Fallible σ ε α) s = (.ok a, s) := rfl

@[simp] theorem exec_throw (e : ε) (s : σ) :
    exec (throw e : Fallible σ ε α) s = (.error e, s) := rfl

@[simp] theorem exec_get (s : σ) : exec (get : Fallible σ ε σ) s = (.ok s, s) := rfl

@[simp] theorem exec_modify (f : σ → σ) (s : σ) :
    exec (modify f : Fallible σ ε PUnit) s = (.ok ⟨⟩, f s) := rfl

@[simp] theorem exec_modifyGet (f : σ → α × σ) (s : σ) :
    exec (modifyGet f : Fallible σ ε α) s = (.ok (f s).1, (f s).2) := rfl

theorem exec_bind (x : Fallible σ ε α) (f : α → Fallible σ ε β) (s : σ) :
    exec (x >>= f) s =
      match exec x s with
      | (.ok a, t) => exec (f a) t
      | (.error e, t) => (.error e, t) := by
  simp only [exec, ExceptT.run_bind, StateT.run_bind]
  rcases StateT.run (ExceptT.run x) s with ⟨result, t⟩
  cases result <;> rfl

theorem exec_bind_ok {x : Fallible σ ε α} {f : α → Fallible σ ε β} {s t : σ} {a : α}
    (h : exec x s = (.ok a, t)) : exec (x >>= f) s = exec (f a) t := by
  simp only [exec_bind, h]

theorem exec_bind_error {x : Fallible σ ε α} {f : α → Fallible σ ε β} {s t : σ} {e : ε}
    (h : exec x s = (.error e, t)) : exec (x >>= f) s = (.error e, t) := by
  simp only [exec_bind, h]

@[simp] theorem exec_okOr_some (a : α) (e : ε) (s : σ) :
    exec (okOr (some a) e) s = (.ok a, s) := rfl

@[simp] theorem exec_okOr_none (e : ε) (s : σ) :
    exec (okOr (none : Option α) e) s = (.error e, s) := rfl

theorem exec_okOr_found {o : Option α} {a : α} (found : o = some a) (e : ε) (s : σ) :
    exec (okOr o e) s = (.ok a, s) := by
  rw [found, exec_okOr_some]

@[simp] theorem exec_discard (x : Fallible σ ε α) (s : σ) :
    exec (discard x) s = ((exec x s).1.map (fun _ => ⟨⟩), (exec x s).2) := by
  have sequence : exec (discard x) s = exec (x >>= fun _ => pure ⟨⟩) s := by
    simp only [discard, LawfulFunctor.map_const, Function.comp_apply, map_eq_pure_bind,
      Function.const_apply]
  rw [sequence, exec_bind]
  rcases exec x s with ⟨result, t⟩
  cases result <;> rfl

theorem exec_discard_error {x : Fallible σ ε α} {s : σ} {e : ε} :
    (exec (discard x) s).1 = .error e ↔ (exec x s).1 = .error e := by
  rw [exec_discard]
  cases (exec x s).1 <;> simp [Except.map]

def andThen (f : α → Fallible σ ε β) : Except ε α × σ → Except ε β × σ
  | (.ok a, t) => exec (f a) t
  | (.error e, t) => (.error e, t)

theorem exec_andThen (x : Fallible σ ε α) (f : α → Fallible σ ε β) (s : σ) :
    exec (x >>= f) s = andThen f (exec x s) := by
  rw [exec_bind]
  rcases exec x s with ⟨e | a, t⟩ <;> rfl

/-- To prove a property of the outcome of a sequence, prove it for a failing first part
and for every continuation of a first part that succeeded. -/
theorem bind_rule {x : Fallible σ ε α} {f : α → Fallible σ ε β} {s : σ}
    {P : Except ε β × σ → Prop}
    (failed : ∀ e t, exec x s = (.error e, t) → P (.error e, t))
    (continued : ∀ a t, exec x s = (.ok a, t) → P (exec (f a) t)) : P (exec (x >>= f) s) := by
  rcases h : exec x s with ⟨result, t⟩
  cases result with
  | error e => exact exec_bind_error h ▸ failed e t h
  | ok a => exact exec_bind_ok h ▸ continued a t h

theorem okOr_rule {o : Option α} {e : ε} {f : α → Fallible σ ε β} {s : σ}
    {P : Except ε β × σ → Prop}
    (missing : o = none → P (.error e, s))
    (found : ∀ a, o = some a → P (exec (f a) s)) : P (exec (okOr o e >>= f) s) := by
  cases o with
  | none => exact missing rfl
  | some a => exact found a rfl

theorem propagate_rule {result : Except ε α} {f : α → Fallible σ ε β} {s : σ}
    {P : Except ε β × σ → Prop}
    (failed : ∀ e, result = .error e → P (.error e, s))
    (continued : ∀ a, result = .ok a → P (exec (f a) s)) :
    P (exec (propagate result >>= f) s) := by
  cases result with
  | error e => exact failed e rfl
  | ok a => exact continued a rfl

theorem ensure_rule {condition : Bool} {e : ε} {f : Unit → Fallible σ ε β} {s : σ}
    {P : Except ε β × σ → Prop}
    (violated : condition = false → P (.error e, s))
    (satisfied : condition = true → P (exec (f ()) s)) :
    P (exec (ensure condition e >>= f) s) := by
  cases condition with
  | false => exact violated rfl
  | true => exact satisfied rfl

/-- A first part that only reads or updates the state never fails. -/
theorem modifyGet_rule {g : σ → α × σ} {f : α → Fallible σ ε β} {s : σ}
    {P : Except ε β × σ → Prop}
    (continued : P (exec (f (g s).1) (g s).2)) : P (exec (modifyGet g >>= f) s) := by
  rw [exec_bind_ok (exec_modifyGet g s)]
  exact continued

/-! Which errors a computation can end with, from any state. -/

def Raises (allowed : ε → Prop) (x : Fallible σ ε α) : Prop :=
  ∀ s e, (exec x s).1 = .error e → allowed e

section raises
variable {allowed : ε → Prop}

theorem raises_pure (a : α) : Raises allowed (pure a : Fallible σ ε α) := fun _ _ => nofun

theorem raises_modifyGet (f : σ → α × σ) :
    Raises allowed (modifyGet f : Fallible σ ε α) := fun _ _ => nofun

theorem raises_throw {e : ε} (ok : allowed e) : Raises allowed (throw e : Fallible σ ε α) := by
  intro s other raised
  cases raised
  exact ok

theorem Raises.bind {x : Fallible σ ε α} {f : α → Fallible σ ε β} (first : Raises allowed x)
    (second : ∀ a, Raises allowed (f a)) : Raises allowed (x >>= f) := by
  intro s e
  apply bind_rule (P := fun out => out.1 = .error e → allowed e)
  · intro stop t ran raised
    cases raised
    exact first s _ (congrArg Prod.fst ran)
  · intro a t ran raised
    exact second a t e raised

theorem Raises.discard {x : Fallible σ ε α} (raises : Raises allowed x) :
    Raises allowed (discard x) :=
  fun s e raised => raises s e (exec_discard_error.mp raised)

theorem raises_okOr {o : Option α} {e : ε} (ok : allowed e) :
    Raises allowed (okOr o e : Fallible σ ε α) := by
  cases o with
  | none => exact raises_throw ok
  | some a => exact raises_pure a

theorem raises_ensure {condition : Bool} {e : ε} (ok : allowed e) :
    Raises allowed (ensure condition e : Fallible σ ε Unit) := by
  cases condition with
  | false => exact raises_throw ok
  | true => exact raises_pure ()

end raises

/-! What a computation leaves as it was, however it ends. -/

def Keeps (I : σ → Prop) (x : Fallible σ ε α) : Prop := ∀ s, I s → I (exec x s).2

section keeps
variable {I : σ → Prop}

theorem keeps_pure (a : α) : Keeps I (pure a : Fallible σ ε α) := fun _ holds => holds

theorem keeps_throw (e : ε) : Keeps I (throw e : Fallible σ ε α) := fun _ holds => holds

theorem keeps_modifyGet {f : σ → α × σ} (kept : ∀ s, I s → I (f s).2) :
    Keeps I (modifyGet f : Fallible σ ε α) := kept

theorem Keeps.bind {x : Fallible σ ε α} {f : α → Fallible σ ε β} (first : Keeps I x)
    (second : ∀ a, Keeps I (f a)) : Keeps I (x >>= f) := by
  intro s holds
  have after := first s holds
  apply bind_rule (P := fun out => I out.2)
  · intro e t ran
    rw [ran] at after
    exact after
  · intro a t ran
    rw [ran] at after
    exact second a t after

theorem keeps_okOr (o : Option α) (e : ε) : Keeps I (okOr o e : Fallible σ ε α) := by
  cases o with
  | none => exact keeps_throw e
  | some a => exact keeps_pure a

theorem keeps_ensure (condition : Bool) (e : ε) :
    Keeps I (ensure condition e : Fallible σ ε Unit) := by
  cases condition with
  | false => exact keeps_throw e
  | true => exact keeps_pure ()

theorem Keeps.discard {x : Fallible σ ε α} (keeps : Keeps I x) : Keeps I (discard x) := by
  intro s holds
  rw [exec_discard]
  exact keeps s holds

end keeps

/-- A loop that collects results succeeds when every element does. -/
theorem except_mapM_ok {f : α → Except ε β} {xs : List α} {ys : List β} :
    xs.mapM f = .ok ys ↔ List.Forall₂ (fun x y => f x = .ok y) xs ys := by
  induction xs generalizing ys with
  | nil =>
    rw [List.mapM_nil]
    constructor
    · intro h
      cases Except.ok.inj h
      exact .nil
    · intro h
      cases h
      rfl
  | cons x xs ih =>
    rw [List.mapM_cons]
    constructor
    · intro h
      cases first : f x with
      | error e => simp [first, bind, Except.bind] at h
      | ok y =>
        cases rest : xs.mapM f with
        | error e => simp [first, rest, bind, Except.bind] at h
        | ok zs =>
          simp only [first, rest, bind, Except.bind] at h
          cases Except.ok.inj h
          exact .cons first (ih.mp rest)
    · intro h
      cases h with
      | cons first rest =>
        rw [first, ih.mpr rest]
        rfl

end Fallible
