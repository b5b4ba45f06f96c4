import Mathlib.Data.List.Basic
import Mathlib.Tactic.Common

/-! Lists cut at a separator. A list is determined by its pieces, and one list of pieces is a
prefix of another exactly when the text continues behind a separator. -/
namespace AiOs

variable {α : Type}

theorem intercalate_append (sep : List α) {xs ys : List (List α)} (hx : xs ≠ []) (hy : ys ≠ []) :
    sep.intercalate (xs ++ ys) = sep.intercalate xs ++ sep ++ sep.intercalate ys := by
  induction xs with
  | nil => contradiction
  | cons x rest ih =>
    cases rest with
    | nil =>
      obtain ⟨y, rest, rfl⟩ := List.exists_cons_of_ne_nil hy
      simp
    | cons x' rest =>
      have tail := ih (List.cons_ne_nil _ _)
      simp only [List.cons_append, List.intercalate_cons_cons] at tail ⊢
      rw [tail]
      simp only [List.append_assoc]

variable [DecidableEq α]

theorem splitOn_inj {a : α} {xs ys : List α} (same : xs.splitOn a = ys.splitOn a) : xs = ys := by
  have joined : [a].intercalate (xs.splitOn a) = [a].intercalate (ys.splitOn a) := by rw [same]
  simpa only [List.intercalate_splitOn] using joined

theorem splitOn_prefix_iff {a : α} {xs ys : List α} :
    xs.splitOn a <+: ys.splitOn a ↔ ys = xs ∨ ∃ rest, ys = xs ++ a :: rest := by
  constructor
  · rintro ⟨pieces, joined⟩
    rcases pieces with _ | ⟨piece, pieces⟩
    · rw [List.append_nil] at joined
      exact .inl (splitOn_inj joined.symm)
    · refine .inr ⟨[a].intercalate (piece :: pieces), ?_⟩
      have text := intercalate_append [a] (List.splitOn_ne_nil a xs)
        (List.cons_ne_nil piece pieces)
      rw [joined, List.intercalate_splitOn, List.intercalate_splitOn] at text
      simpa using text
  · rintro (rfl | ⟨rest, rfl⟩)
    · exact List.prefix_rfl
    · rw [List.splitOn_append_cons_self]
      exact List.prefix_append _ _

theorem cons_eq_flatMap_splitOn (a : α) (xs : List α) :
    a :: xs = (xs.splitOn a).flatMap (a :: ·) := by
  have joined : ∀ pieces : List (List α), pieces ≠ [] →
      a :: [a].intercalate pieces = pieces.flatMap (a :: ·) := by
    intro pieces some_piece
    induction pieces with
    | nil => contradiction
    | cons piece rest ih =>
      cases rest with
      | nil => simp
      | cons next rest =>
        have tail := ih (List.cons_ne_nil _ _)
        rw [List.intercalate_cons_cons, List.flatMap_cons, ← tail]
        simp
  have text := joined _ (List.splitOn_ne_nil a xs)
  rwa [List.intercalate_splitOn] at text

/-- A piece stands between two separators, or behind the last one. -/
theorem mem_splitOn_iff {a : α} {piece xs : List α} (free : a ∉ piece) :
    piece ∈ xs.splitOn a ↔ a :: piece <:+ a :: xs ∨ a :: piece ++ [a] <:+: a :: xs := by
  constructor
  · intro cut
    obtain ⟨before, after, shape⟩ := List.append_of_mem cut
    rw [cons_eq_flatMap_splitOn a xs, shape, List.flatMap_append, List.flatMap_cons]
    cases after with
    | nil => exact .inl ⟨before.flatMap (a :: ·), by simp⟩
    | cons next after => exact .inr ⟨before.flatMap (a :: ·), next ++ after.flatMap (a :: ·), by simp⟩
  · have last : piece.splitOn a = [piece] := List.splitOn_eq_singleton free
    have inner : ∀ rest, (piece ++ a :: rest).splitOn a = piece :: rest.splitOn a := fun rest =>
      List.splitOn_append_cons_self_of_not_mem free rest
    rintro (⟨before, text⟩ | ⟨before, after, text⟩)
    · cases before with
      | nil =>
        obtain rfl : piece = xs := by simpa using text
        simp [last]
      | cons first before =>
        obtain ⟨rfl, rfl⟩ : first = a ∧ before ++ a :: piece = xs := by simpa using text
        rw [List.splitOn_append_cons_self, last]
        simp
    · cases before with
      | nil =>
        obtain rfl : piece ++ a :: after = xs := by simpa using text
        rw [inner]
        exact List.mem_cons_self
      | cons first before =>
        obtain ⟨rfl, rfl⟩ : first = a ∧ before ++ a :: (piece ++ a :: after) = xs := by
          simpa using text
        rw [List.splitOn_append_cons_self, inner]
        simp

theorem splitOn_append_of_free {a : α} {xs ys first : List α} {pieces : List (List α)}
    (free : a ∉ xs) (cut : ys.splitOn a = first :: pieces) :
    (xs ++ ys).splitOn a = (xs ++ first) :: pieces := by
  induction xs with
  | nil => exact cut
  | cons x rest ih =>
    obtain ⟨other, free⟩ : a ≠ x ∧ a ∉ rest := by simpa using free
    rw [List.cons_append, List.splitOn_cons_eq_if_modifyHead, ih free]
    simp [Ne.symm other]

/-- Cutting commutes with an encoding in which only the separator's code holds its code. -/
theorem splitOn_flatMap {β : Type} [DecidableEq β] {a : α} {b : β} (encode : α → List β)
    (separator : encode a = [b]) (free : ∀ x, x ≠ a → b ∉ encode x) (xs : List α) :
    (xs.flatMap encode).splitOn b = (xs.splitOn a).map (·.flatMap encode) := by
  induction xs with
  | nil => rfl
  | cons x rest ih =>
    by_cases same : x = a
    · subst same
      have cut := List.splitOn_append_cons_self [] rest (a := x)
      rw [List.flatMap_cons, separator, List.singleton_append]
      have cut' := List.splitOn_append_cons_self [] (rest.flatMap encode) (a := b)
      simp only [List.nil_append] at cut cut'
      rw [cut, cut', ih]
      rfl
    · obtain ⟨first, pieces, shape⟩ := List.exists_cons_of_ne_nil (List.splitOn_ne_nil a rest)
      have cut : (x :: rest).splitOn a = (x :: first) :: pieces := by
        rw [List.splitOn_cons_eq_if_modifyHead, shape]
        simp [same]
      rw [cut, List.flatMap_cons]
      rw [shape] at ih
      exact splitOn_append_of_free (free x same) ih

end AiOs
