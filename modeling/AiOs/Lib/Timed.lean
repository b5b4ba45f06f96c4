import AiOs.Lib.Fallible

/-! Traces of programs that read a clock and act on the outside. A deed that needs one is
directly preceded by the reading that admits it. -/
namespace Timed

/-- Something a program did that an observer can see. A deed is done in a context. -/
inductive Event (T C D : Type) where
  | reading (time : T)
  | deed (context : C) (deed : D)
  deriving DecidableEq, Repr

variable {T C D : Type} {guarded : D → Prop} {admits : C → D → T → Prop}
  {trace : List (Event T C D)}

/-- Every guarded deed comes right after a reading that admits it. -/
def Timely (guarded : D → Prop) (admits : C → D → T → Prop) (trace : List (Event T C D)) : Prop :=
  ∀ earlier context deed later, trace = earlier ++ .deed context deed :: later → guarded deed →
    ∃ before time, earlier = before ++ [.reading time] ∧ admits context deed time

theorem timely_nil : Timely guarded admits ([] : List (Event T C D)) := by
  intro earlier context deed later split
  simp at split

theorem Timely.snoc (timely : Timely guarded admits trace) {event : Event T C D}
    (last : ∀ context deed, event = .deed context deed → guarded deed →
      ∃ before time, trace = before ++ [.reading time] ∧ admits context deed time) :
    Timely guarded admits (trace ++ [event]) := by
  intro earlier context deed later split needed
  rcases List.eq_nil_or_concat later with rfl | ⟨rest, final, rfl⟩
  · obtain ⟨same, here⟩ := List.append_inj' split rfl
    cases here
    rw [← same]
    exact last context deed rfl needed
  · have split : trace ++ [event] = (earlier ++ .deed context deed :: rest) ++ [final] := by
      rw [split]
      simp
    exact timely earlier context deed rest (List.append_inj' split rfl).1 needed

theorem Timely.reading (timely : Timely guarded admits trace) (time : T) :
    Timely guarded admits (trace ++ [.reading time]) :=
  timely.snoc nofun

theorem Timely.free (timely : Timely guarded admits trace) (context : C) {deed : D}
    (free : ¬ guarded deed) : Timely guarded admits (trace ++ [.deed context deed]) := by
  apply timely.snoc
  intro _ _ same needed
  cases same
  exact absurd needed free

theorem Timely.deed {time : T} (timely : Timely guarded admits (trace ++ [.reading time]))
    {context : C} {deed : D} (admitted : admits context deed time) :
    Timely guarded admits (trace ++ [.reading time] ++ [.deed context deed]) := by
  apply timely.snoc
  intro _ _ same _
  cases same
  exact ⟨trace, time, rfl, admitted⟩

theorem Timely.mono {weaker : C → D → T → Prop} (timely : Timely guarded admits trace)
    (weakens : ∀ context deed time, admits context deed time → weaker context deed time) :
    Timely guarded weaker trace := by
  intro earlier context deed later split needed
  obtain ⟨before, time, last, admitted⟩ := timely earlier context deed later split needed
  exact ⟨before, time, last, weakens context deed time admitted⟩

end Timed
