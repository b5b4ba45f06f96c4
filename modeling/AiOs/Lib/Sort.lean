import Mathlib.Data.List.Chain
import Mathlib.Data.List.Sort
import Mathlib.Tactic.Common

/-! Sorting by a comparison function. The sort is stable, so for a comparison that is a total
preorder its result is the one every stable sort has; where the comparison tells all elements
apart, it is the one every sort has. -/
namespace AiOs

variable {α : Type}

/-- `slice::sort_by`. -/
def sortBy (cmp : α → α → Ordering) (xs : List α) : List α :=
  xs.insertionSort (fun a b => (cmp a b).isLE = true)

theorem sortBy_perm (cmp : α → α → Ordering) (xs : List α) : (sortBy cmp xs).Perm xs :=
  List.perm_insertionSort _ xs

@[simp] theorem mem_sortBy {cmp : α → α → Ordering} {xs : List α} {x : α} :
    x ∈ sortBy cmp xs ↔ x ∈ xs := (sortBy_perm cmp xs).mem_iff

variable (cmp : α → α → Ordering) [Std.TransCmp cmp]

theorem sortBy_pairwise (xs : List α) :
    (sortBy cmp xs).Pairwise (fun a b => (cmp a b).isLE = true) := by
  have total : Std.Total (fun a b => (cmp a b).isLE = true) := by
    refine ⟨fun a b => ?_⟩
    have swap : cmp b a = (cmp a b).swap := Std.OrientedCmp.eq_swap
    rw [swap]
    cases cmp a b <;> simp
  have trans : IsTrans α (fun a b => (cmp a b).isLE = true) :=
    ⟨fun _ _ _ => Std.TransCmp.isLE_trans⟩
  exact List.pairwise_insertionSort _ xs

omit [Std.TransCmp cmp] in
theorem eq_of_isLE [Std.OrientedCmp cmp] [Std.LawfulEqCmp cmp] {a b : α}
    (le : (cmp a b).isLE = true) (ge : (cmp b a).isLE = true) : a = b := by
  have swap : cmp b a = (cmp a b).swap := Std.OrientedCmp.eq_swap
  have equal : cmp a b = .eq := by
    cases found : cmp a b <;> simp_all
  exact Std.LawfulEqCmp.eq_of_compare equal

/-- Two lists sort to the same one exactly when they hold the same elements. -/
theorem sortBy_eq_iff_perm [Std.LawfulEqCmp cmp] {xs ys : List α} :
    sortBy cmp xs = sortBy cmp ys ↔ xs.Perm ys := by
  constructor
  · intro same
    exact (sortBy_perm cmp xs).symm.trans (same ▸ sortBy_perm cmp ys)
  · intro perm
    refine List.Perm.eq_of_pairwise ?_ (sortBy_pairwise cmp xs) (sortBy_pairwise cmp ys)
      ((sortBy_perm cmp xs).trans (perm.trans (sortBy_perm cmp ys).symm))
    exact fun a b _ _ le ge => eq_of_isLE cmp le ge

/-- In a sorted list, comparing neighbours is enough to find equal elements. -/
theorem nodup_of_neighbours [Std.LawfulEqCmp cmp] {xs : List α}
    (sorted : xs.Pairwise (fun a b => (cmp a b).isLE = true))
    (distinct : xs.IsChain (fun a b => a ≠ b)) : xs.Nodup := by
  induction xs with
  | nil => exact List.nodup_nil
  | cons a rest ih =>
    obtain ⟨least, sorted⟩ := List.pairwise_cons.mp sorted
    refine List.nodup_cons.mpr ⟨?_, ih sorted distinct.tail⟩
    cases rest with
    | nil => exact List.not_mem_nil
    | cons b rest =>
      -- A later copy of the head would lie above the neighbour and below it.
      intro again
      have other : a ≠ b := (List.isChain_cons_cons.mp distinct).1
      have below : (cmp a b).isLE = true := least b List.mem_cons_self
      rcases List.mem_cons.mp again with same | later
      · exact other same
      · have above : (cmp b a).isLE = true := (List.pairwise_cons.mp sorted).1 a later
        exact other (eq_of_isLE cmp below above)

end AiOs
