import Mathlib.Data.List.Basic
import Mathlib.Tactic.Common

/-! Reading a numbered log page by page while it grows. The reader starts before the first item
and, as long as a page says that there is more, asks again behind the last position it has
received. -/
namespace Paging

variable {α : Type}

structure Page (α : Type) where
  items : List α
  hasMore : Bool
  deriving DecidableEq

/-- The pages a reader receives. `serve turn after` answers the request of one turn; there is no
result if a request fails, if a page leaves the reader where it was, or if the turns run out. -/
def follow (position : α → Nat) (serve : Nat → Nat → Option (Page α)) :
    Nat → Nat → Nat → Option (List (Page α))
  | 0, _, _ => none
  | turns + 1, turn, after =>
    match serve turn after with
    | none => none
    | some page =>
      if page.hasMore then
        match page.items.getLast? with
        | none => none
        | some last => (follow position serve turns (turn + 1) (position last)).map (page :: ·)
      else some [page]

/-- Positions are counted from one. -/
def Numbered (position : α → Nat) (log : List α) : Prop :=
  log.map position = List.range' 1 log.length

def pageOf (limit : Nat) (rest : List α) : Page α := ⟨rest.take limit, decide (limit < rest.length)⟩

theorem filter_numbered {position : α → Nat} {log : List α} {start after : Nat}
    (numbered : log.map position = List.range' (start + 1) log.length) :
    log.filter (fun a => decide (start + after < position a)) = log.drop after := by
  induction log generalizing start after with
  | nil => simp
  | cons a rest ih =>
    simp only [List.map_cons, List.length_cons, List.range'_succ, List.cons.injEq] at numbered
    obtain ⟨first, others⟩ := numbered
    cases after with
    | zero =>
      refine List.filter_eq_self.mpr ?_
      intro b member
      have listed : position b ∈ (a :: rest).map position := List.mem_map_of_mem member
      rw [List.map_cons, first, others, ← List.range'_succ, List.mem_range'_1] at listed
      exact decide_eq_true (by omega)
    | succ after =>
      have behind : rest.filter (fun b => decide (start + 1 + after < position b)) =
          rest.drop after := ih others
      rw [List.filter_cons_of_neg (by simp; omega), List.drop_succ_cons, ← behind]
      refine List.filter_congr (fun b _ => ?_)
      rw [Nat.add_right_comm start 1 after, Nat.add_assoc]

theorem Numbered.filter_behind {position : α → Nat} {log : List α}
    (numbered : Numbered position log) (after : Nat) :
    log.filter (fun a => decide (after < position a)) = log.drop after := by
  have behind : log.filter (fun a => decide (0 + after < position a)) = log.drop after :=
    filter_numbered numbered
  rwa [Nat.zero_add] at behind

theorem Numbered.getElem {position : α → Nat} {log : List α} (numbered : Numbered position log)
    {i : Nat} (inside : i < log.length) : position log[i] = i + 1 := by
  have entry : (log.map position)[i]? = (List.range' 1 log.length)[i]? := by rw [numbered]
  simp only [List.getElem?_map, List.getElem?_eq_getElem inside, Option.map_some,
    List.getElem?_range' inside, Option.some.injEq] at entry
  omega

/-- A log that may grow between two turns, and a server that cuts pages from it. -/
structure Serves (position : α → Nat) (limit : Nat) (logs : Nat → List α)
    (serve : Nat → Nat → Option (Page α)) : Prop where
  numbered : ∀ turn, Numbered position (logs turn)
  grows : ∀ turn, logs turn <+: logs (turn + 1)
  page : ∀ turn after, after ≤ (logs turn).length →
    serve turn after = some (pageOf limit ((logs turn).drop after))

variable {position : α → Nat} {limit : Nat} {logs : Nat → List α}
  {serve : Nat → Nat → Option (Page α)}

theorem getLast_pageOf {log : List α} (numbered : Numbered position log) {after : Nat}
    (positive : 0 < limit) (more : limit < (log.drop after).length) :
    ∃ last, (pageOf limit (log.drop after)).items.getLast? = some last ∧
      position last = after + limit := by
  rw [List.length_drop] at more
  have inside : after + (limit - 1) < log.length := by omega
  refine ⟨log[after + (limit - 1)], ?_, ?_⟩
  · rw [pageOf, List.getLast?_eq_getElem?, List.length_take, List.length_drop,
      Nat.min_eq_left (by omega), List.getElem?_take_of_lt (by omega), List.getElem?_drop,
      List.getElem?_eq_getElem inside]
  · rw [numbered.getElem inside]
    omega

theorem Serves.grows_far (serves : Serves position limit logs serve) (turn later : Nat) :
    logs turn <+: logs (turn + later) := by
  induction later with
  | zero => exact List.prefix_refl _
  | succ later ih => exact ih.trans (serves.grows (turn + later))

/-- From any turn on: the reader ends within the turns that a bound on the log allows, has
received everything behind its position, and no page left it where it was. -/
theorem Serves.follow_from (serves : Serves position limit logs serve) (positive : 0 < limit)
    {bound : Nat} (bounded : ∀ turn, (logs turn).length ≤ bound) {turns turn after : Nat}
    (some_turn : 0 < turns) (enough : bound ≤ after + turns * limit)
    (inside : after ≤ (logs turn).length) :
    ∃ pages, follow position serve turns turn after = some pages ∧ pages ≠ [] ∧
      pages.length ≤ turns ∧
      pages.flatMap Page.items = (logs (turn + pages.length - 1)).drop after ∧
      ∀ page ∈ pages, page.hasMore = true → page.items ≠ [] := by
  induction turns generalizing turn after with
  | zero => omega
  | succ turns ih =>
    rw [follow, serves.page turn after inside]
    by_cases more : limit < ((logs turn).drop after).length
    · obtain ⟨last, found, stands⟩ := getLast_pageOf (serves.numbered turn) positive more
      have longer : after + limit < (logs turn).length := by
        rw [List.length_drop] at more
        omega
      have room : 0 < turns := by
        rcases Nat.eq_zero_or_pos turns with zero | room
        · have := bounded turn
          rw [zero] at enough
          omega
        · exact room
      have grown := serves.grows turn
      obtain ⟨pages, followed, some_page, few, rest, advances⟩ :=
        @ih (turn + 1) (after + limit) room (by rw [Nat.succ_mul] at enough; omega)
          (by have := grown.length_le; omega)
      have flag : (pageOf limit ((logs turn).drop after)).hasMore = true := decide_eq_true more
      simp only [flag, if_true, found, stands, followed, Option.map_some]
      refine ⟨_, rfl, List.cons_ne_nil _ _, Nat.succ_le_succ few, ?_, ?_⟩
      · have final : turn + 1 + pages.length - 1 = turn + pages.length := by omega
        have finish : turn + (pages.length + 1) - 1 = turn + pages.length := by omega
        rw [List.flatMap_cons, rest, List.length_cons, final, finish, ← List.drop_drop]
        -- What was received is also the beginning of the rest of the longer log.
        have same : ((logs turn).drop after).take limit =
            ((logs (turn + pages.length)).drop after).take limit := by
          obtain ⟨tail, whole⟩ := serves.grows_far turn pages.length
          rw [← whole, List.drop_append_of_le_length inside,
            List.take_append_of_le_length (Nat.le_of_lt more)]
        change ((logs turn).drop after).take limit ++ _ = _
        rw [same]
        exact List.take_append_drop limit _
      · intro page member
        rcases List.mem_cons.mp member with rfl | member
        · intro _ empty
          rw [empty] at found
          cases found
        · exact advances page member
    · have flag : (pageOf limit ((logs turn).drop after)).hasMore = false := decide_eq_false more
      have all : ((logs turn).drop after).take limit = (logs turn).drop after :=
        List.take_of_length_le (Nat.le_of_not_lt more)
      simp only [flag, Bool.false_eq_true, if_false]
      refine ⟨_, rfl, List.cons_ne_nil _ _, Nat.succ_le_succ (Nat.zero_le _), ?_, ?_⟩
      · simpa [pageOf] using all
      · intro page member again
        rw [List.mem_singleton.mp member, flag] at again
        cases again

/-- A reader that starts at the beginning ends with the log of its last turn. -/
theorem Serves.follow_all (serves : Serves position limit logs serve) (positive : 0 < limit)
    {bound : Nat} (bounded : ∀ turn, (logs turn).length ≤ bound) :
    ∃ pages, follow position serve (bound / limit + 1) 0 0 = some pages ∧ pages ≠ [] ∧
      pages.length ≤ bound / limit + 1 ∧
      pages.flatMap Page.items = logs (pages.length - 1) ∧
      ∀ page ∈ pages, page.hasMore = true → page.items ≠ [] := by
  have enough : bound ≤ 0 + (bound / limit + 1) * limit := by
    have division := Nat.div_add_mod bound limit
    have small := Nat.mod_lt bound positive
    rw [Nat.add_mul, Nat.mul_comm (bound / limit)]
    omega
  obtain ⟨pages, followed, some_page, few, whole, advances⟩ :=
    serves.follow_from positive bounded (Nat.succ_pos _) enough (Nat.zero_le (logs 0).length)
  refine ⟨pages, followed, some_page, few, ?_, advances⟩
  rwa [Nat.zero_add, List.drop_zero] at whole

end Paging
