import Mathlib.Tactic.Common

/-! Traces in which every event is allowed by all that came before it. -/

variable {E : Type}

def Sanctioned (allows : List E → E → Prop) (before events : List E) : Prop :=
  ∀ earlier event later, events = earlier ++ event :: later → allows (before ++ earlier) event

namespace Sanctioned
variable {allows : List E → E → Prop} {before events : List E}

theorem nil : Sanctioned allows before [] := by
  intro earlier event later split
  simp at split

theorem snoc (sanctioned : Sanctioned allows before events) {event : E}
    (allowed : allows (before ++ events) event) : Sanctioned allows before (events ++ [event]) := by
  intro earlier found later split
  rcases List.eq_nil_or_concat later with rfl | ⟨rest, last, rfl⟩
  · obtain ⟨rfl, same⟩ := List.append_inj' split rfl
    cases same
    exact allowed
  · have inside : events ++ [event] = (earlier ++ found :: rest) ++ [last] := by
      rw [split]
      simp
    exact sanctioned earlier found rest (List.append_inj' inside rfl).1

theorem append (sanctioned : Sanctioned allows before events) {more : List E}
    (free : ∀ trace, ∀ event ∈ more, allows trace event) :
    Sanctioned allows before (events ++ more) := by
  induction more generalizing events with
  | nil => simpa using sanctioned
  | cons event more ih =>
    have next := ih (sanctioned.snoc (free _ event List.mem_cons_self))
      fun trace later member => free trace later (List.mem_cons_of_mem _ member)
    simpa using next

end Sanctioned
