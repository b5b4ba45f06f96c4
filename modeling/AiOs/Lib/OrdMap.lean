import Mathlib.Algebra.Ring.Nat
import Mathlib.Data.List.Nodup
import Mathlib.Data.List.Perm.Subperm
import Mathlib.Tactic.Common

/-! Ordered finite maps with extensional equality, on Std's ordered trees. Std states its
laws for an arbitrary comparison; here every comparison decides equality, so the laws are
restated once with equality of keys, and only in the form that proofs about map-based
state use. -/

/-- A map that is traversed in key order. -/
abbrev OrdMap (κ ν : Type) [Ord κ] := Std.ExtTreeMap κ ν compare

/-- A pair of keys, ordered by the first component and then by the second. -/
structure LexPair (α β : Type) where
  first : α
  second : β
  deriving DecidableEq, Repr

namespace LexPair
variable {α β : Type} [Ord α] [Ord β]

instance : Ord (LexPair α β) where
  compare := compareLex (compareOn LexPair.first) (compareOn LexPair.second)

theorem compare_def (a b : LexPair α β) :
    compare a b = (compare a.first b.first).then (compare a.second b.second) := rfl

instance [Std.TransOrd α] [Std.TransOrd β] : Std.TransOrd (LexPair α β) :=
  inferInstanceAs
    (Std.TransCmp (compareLex (compareOn LexPair.first) (compareOn LexPair.second)))

instance [Std.LawfulEqOrd α] [Std.LawfulEqOrd β] : Std.LawfulEqOrd (LexPair α β) where
  compare_self := by
    intro a
    simp [compare_def]
  eq_of_compare := by
    intro a b h
    obtain ⟨x, y⟩ := a
    obtain ⟨z, w⟩ := b
    simpa [compare_def] using h

end LexPair

namespace OrdMap
variable {κ ν : Type} [Ord κ] [Std.TransOrd κ] [Std.LawfulEqOrd κ]

theorem get_insert [DecidableEq κ] (m : OrdMap κ ν) (k a : κ) (v : ν) :
    (m.insert k v)[a]? = if k = a then some v else m[a]? := by
  rw [Std.ExtTreeMap.getElem?_insert]
  simp only [Std.compare_eq_iff_eq]

theorem get_erase [DecidableEq κ] (m : OrdMap κ ν) (k a : κ) :
    (m.erase k)[a]? = if k = a then none else m[a]? := by
  rw [Std.ExtTreeMap.getElem?_erase]
  simp only [Std.compare_eq_iff_eq]

theorem get_filter (m : OrdMap κ ν) (keep : κ → ν → Bool) (k : κ) :
    (m.filter keep)[k]? = m[k]?.filter (keep k) := Std.ExtTreeMap.getElem?_filter'

omit [Std.LawfulEqOrd κ] in
theorem mem_iff {m : OrdMap κ ν} {k : κ} : k ∈ m ↔ ∃ v, m[k]? = some v := by
  rw [Std.ExtTreeMap.mem_iff_isSome_getElem?, Option.isSome_iff_exists]

theorem ext {m n : OrdMap κ ν} (same : ∀ k : κ, m[k]? = n[k]?) : m = n :=
  Std.ExtTreeMap.ext_getElem? (fun {k} => same k)

theorem mem_toList {m : OrdMap κ ν} {k : κ} {v : ν} : (k, v) ∈ m.toList ↔ m[k]? = some v :=
  Std.ExtTreeMap.mem_toList_iff_getElem?_eq_some

theorem mem_toList_pair {m : OrdMap κ ν} {e : κ × ν} : e ∈ m.toList ↔ m[e.1]? = some e.2 :=
  mem_toList

omit [Std.LawfulEqOrd κ] in
theorem size_insert_new {m : OrdMap κ ν} {k : κ} (v : ν) (new : m[k]? = none) :
    (m.insert k v).size = m.size + 1 := by
  rw [Std.ExtTreeMap.size_insert, if_neg]
  rw [← Std.ExtTreeMap.isSome_getElem?_eq_contains, new]
  exact Bool.false_ne_true

omit [Std.LawfulEqOrd κ] in
theorem size_insert_old {m : OrdMap κ ν} {k : κ} {old : ν} (v : ν)
    (found : m[k]? = some old) : (m.insert k v).size = m.size := by
  rw [Std.ExtTreeMap.size_insert, if_pos]
  rw [← Std.ExtTreeMap.isSome_getElem?_eq_contains, found]
  rfl

theorem erase_insert_new [DecidableEq κ] {m : OrdMap κ ν} {k : κ} (v : ν) (new : m[k]? = none) :
    (m.insert k v).erase k = m := by
  apply ext
  intro a
  rw [get_erase, get_insert]
  split
  · rename_i same
    rw [← same, new]
  · rfl

theorem insert_erase_same [DecidableEq κ] {m : OrdMap κ ν} {k : κ} {v : ν}
    (old : m[k]? = some v) : (m.erase k).insert k v = m := by
  apply ext
  intro a
  rw [get_insert, get_erase]
  split
  · rename_i same
    rw [← same, old]
  · rfl

theorem get_foldl_erase [DecidableEq κ] (keys : List κ) (m : OrdMap κ ν) (a : κ) :
    (keys.foldl (fun m k => m.erase k) m)[a]? = if a ∈ keys then none else m[a]? := by
  induction keys generalizing m with
  | nil => simp
  | cons k rest ih =>
    rw [List.foldl_cons, ih, get_erase]
    by_cases first : k = a
    · simp [first]
    · by_cases later : a ∈ rest
      · simp [later]
      · simp [later, first, Ne.symm first]

theorem get_foldl_insert [DecidableEq κ] {β : Type} (entries : List (κ × β)) (v : ν)
    (m : OrdMap κ ν) (a : κ) :
    (entries.foldl (fun m e => m.insert e.1 v) m)[a]? =
      if a ∈ entries.map Prod.fst then some v else m[a]? := by
  induction entries generalizing m with
  | nil => simp
  | cons e rest ih =>
    rw [List.foldl_cons, ih, get_insert]
    by_cases first : e.1 = a
    · simp [first]
    · by_cases later : a ∈ rest.map Prod.fst
      · simp only [later, ↓reduceIte, List.map_cons, List.mem_cons, or_true]
      · simp only [later, first, Ne.symm first, ↓reduceIte, List.map_cons, List.mem_cons, or_self]

theorem keys_nodup (m : OrdMap κ ν) : (m.toList.map Prod.fst).Nodup := by
  refine List.pairwise_map.mpr ?_
  have distinct : m.toList.Pairwise (fun a b => ¬ compare a.1 b.1 = .eq) :=
    Std.ExtTreeMap.distinct_keys_toList
  refine distinct.imp ?_
  intro a b different same
  exact different (by rw [same]; exact Std.compare_self)

theorem toList_nodup (m : OrdMap κ ν) : m.toList.Nodup := by
  refine List.Pairwise.of_map Prod.fst ?_ (keys_nodup m)
  intro a b different same
  exact different (congrArg Prod.fst same)

/-- A map whose entries lead to different keys of another map is not larger. -/
theorem size_le_of_injective {ι μ : Type} [Ord ι] [Std.TransOrd ι] [Std.LawfulEqOrd ι]
    {m : OrdMap κ ν} {n : OrdMap ι μ} (place : κ → ν → ι)
    (into : ∀ (k : κ) (v : ν), m[k]? = some v → ∃ w, n[place k v]? = some w)
    (injective : ∀ (k l : κ) (v w : ν), m[k]? = some v → m[l]? = some w →
      place k v = place l w → k = l) : m.size ≤ n.size := by
  have distinct : (m.toList.map (fun e => place e.1 e.2)).Nodup := by
    refine List.Nodup.map_on ?_ (toList_nodup m)
    rintro ⟨k, v⟩ hk ⟨l, w⟩ hl same
    have first := mem_toList.mp hk
    have second := mem_toList.mp hl
    cases injective k l v w first second same
    cases Option.some.inj (first.symm.trans second)
    rfl
  have among : m.toList.map (fun e => place e.1 e.2) ⊆ n.toList.map Prod.fst := by
    intro i member
    obtain ⟨⟨k, v⟩, present, rfl⟩ := List.mem_map.mp member
    obtain ⟨w, found⟩ := into k v (mem_toList.mp present)
    exact List.mem_map.mpr ⟨(_, w), mem_toList.mpr found, rfl⟩
  have fewer := (distinct.subperm among).length_le
  rwa [List.length_map, List.length_map, Std.ExtTreeMap.length_toList,
    Std.ExtTreeMap.length_toList] at fewer

/-- A map is not larger than a list with all its keys. -/
theorem size_le_of_keys {m : OrdMap κ ν} {keys : List κ}
    (among : ∀ (k : κ) (v : ν), m[k]? = some v → k ∈ keys) : m.size ≤ keys.length := by
  have within : m.toList.map Prod.fst ⊆ keys := by
    intro k member
    obtain ⟨⟨key, v⟩, present, rfl⟩ := List.mem_map.mp member
    exact among key v (mem_toList.mp present)
  have fewer := ((keys_nodup m).subperm within).length_le
  rwa [List.length_map, Std.ExtTreeMap.length_toList] at fewer

theorem length_le_of_found {μ : Type} {m : OrdMap κ ν} {n : OrdMap κ μ} {keys : List κ}
    (distinct : keys.Nodup)
    (found : ∀ k ∈ keys, (∃ v, m[k]? = some v) ∨ ∃ w, n[k]? = some w) :
    keys.length ≤ m.size + n.size := by
  have within : keys ⊆ m.toList.map Prod.fst ++ n.toList.map Prod.fst := by
    intro k member
    rcases found k member with ⟨v, present⟩ | ⟨w, present⟩
    · exact List.mem_append_left _ (List.mem_map.mpr ⟨(k, v), mem_toList.mpr present, rfl⟩)
    · exact List.mem_append_right _ (List.mem_map.mpr ⟨(k, w), mem_toList.mpr present, rfl⟩)
  have fewer := (distinct.subperm within).length_le
  rwa [List.length_append, List.length_map, List.length_map, Std.ExtTreeMap.length_toList,
    Std.ExtTreeMap.length_toList] at fewer

theorem toList_insert_perm [DecidableEq κ] {m : OrdMap κ ν} {k : κ} (v : ν) (new : m[k]? = none) :
    (m.insert k v).toList.Perm ((k, v) :: m.toList) := by
  refine (List.perm_ext_iff_of_nodup (toList_nodup _) ?_).mpr ?_
  · rw [List.nodup_cons]
    refine ⟨?_, toList_nodup m⟩
    rw [mem_toList, new]
    exact nofun
  · rintro ⟨a, w⟩
    rw [mem_toList, get_insert, List.mem_cons, mem_toList, Prod.mk.injEq]
    constructor
    · intro found
      split at found
      · rename_i same
        exact .inl ⟨same.symm, (Option.some.inj found).symm⟩
      · exact .inr found
    · rintro (⟨rfl, rfl⟩ | found)
      · rw [if_pos rfl]
      · rw [if_neg]
        · exact found
        · rintro rfl
          rw [new] at found
          cases found

theorem toList_erase_perm [DecidableEq κ] {m : OrdMap κ ν} {k : κ} {v : ν}
    (found : m[k]? = some v) : m.toList.Perm ((k, v) :: (m.erase k).toList) := by
  have gone : (m.erase k)[k]? = none := by rw [get_erase, if_pos rfl]
  have added := toList_insert_perm v gone
  rw [insert_erase_same found] at added
  exact added

theorem sorted_ext {xs ys : List (κ × ν)}
    (hx : xs.Pairwise (fun a b => compare a.1 b.1 = .lt))
    (hy : ys.Pairwise (fun a b => compare a.1 b.1 = .lt))
    (same : ∀ e, e ∈ xs ↔ e ∈ ys) : xs = ys := by
  have nodup {zs : List (κ × ν)} (hz : zs.Pairwise (fun a b => compare a.1 b.1 = .lt)) :
      zs.Nodup := hz.imp (fun {a b} less eq => by subst eq; simp at less)
  refine List.Perm.eq_of_pairwise ?_ hx hy ?_
  · intro a b _ _ less greater
    exact absurd greater (Std.OrientedCmp.not_lt_of_lt less)
  · exact (List.perm_ext_iff_of_nodup (nodup hx) (nodup hy)).mpr same

theorem filter_toList_key [DecidableEq κ] (m : OrdMap κ ν) (k : κ) :
    m.toList.filter (fun e => decide (e.1 = k)) = m[k]?.toList.map (fun v => (k, v)) := by
  apply sorted_ext
  · exact Std.ExtTreeMap.ordered_keys_toList.filter _
  · cases m[k]? <;> simp
  · intro e
    simp only [List.mem_filter, mem_toList_pair, decide_eq_true_eq, List.mem_map,
      Option.mem_toList]
    constructor
    · rintro ⟨found, rfl⟩
      exact ⟨e.2, found, rfl⟩
    · rintro ⟨v, found, rfl⟩
      exact ⟨found, rfl⟩

theorem filter_toList_insert_other [DecidableEq κ] (m : OrdMap κ ν) (k : κ) (v : ν)
    (select : κ → Bool) (outside : select k = false) :
    (m.insert k v).toList.filter (fun e => select e.1) =
      m.toList.filter (fun e => select e.1) := by
  apply sorted_ext
  · exact Std.ExtTreeMap.ordered_keys_toList.filter _
  · exact Std.ExtTreeMap.ordered_keys_toList.filter _
  · intro e
    simp only [List.mem_filter, mem_toList_pair, get_insert]
    by_cases same : k = e.1
    · simp [← same, outside]
    · simp [same]

theorem filter_toList_insert_last [DecidableEq κ] (m : OrdMap κ ν) (k : κ) (v : ν)
    (select : κ → Bool) (inside : select k = true)
    (largest : ∀ e ∈ m.toList, select e.1 = true → compare e.1 k = .lt) :
    (m.insert k v).toList.filter (fun e => select e.1) =
      m.toList.filter (fun e => select e.1) ++ [(k, v)] := by
  apply sorted_ext
  · exact Std.ExtTreeMap.ordered_keys_toList.filter _
  · refine List.pairwise_append.mpr
      ⟨Std.ExtTreeMap.ordered_keys_toList.filter _, List.pairwise_singleton _ _, ?_⟩
    intro a ha b hb
    obtain ⟨member, selected⟩ := List.mem_filter.mp ha
    rw [List.mem_singleton.mp hb]
    exact largest a member selected
  · intro e
    have absent : select e.1 = true → m[e.1]? = some e.2 → ¬ k = e.1 := by
      intro selected member same
      have less := largest e (mem_toList_pair.mpr member) selected
      rw [same] at less
      simp at less
    simp only [List.mem_append, List.mem_filter, mem_toList_pair, get_insert, List.mem_singleton]
    by_cases same : k = e.1
    · constructor
      · rintro ⟨found, _⟩
        rw [if_pos same] at found
        exact .inr (Prod.ext same.symm (Option.some.inj found).symm)
      · rintro (⟨member, selected⟩ | rfl)
        · exact absurd same (absent selected member)
        · exact ⟨if_pos rfl, inside⟩
    · rw [if_neg same]
      constructor
      · exact fun h => .inl h
      · rintro (h | rfl)
        · exact h
        · exact absurd rfl same

/-! A second map as an index: it leads from a key computed from each value to the place of
that value, and nowhere else. -/
section index
variable {ι : Type} [Ord ι] [Std.TransOrd ι] [DecidableEq κ]

def Indexes (index : OrdMap ι κ) (values : OrdMap κ ν) (key : ν → ι) : Prop :=
  ∀ i k, index[i]? = some k ↔ ∃ v, values[k]? = some v ∧ key v = i

variable {index : OrdMap ι κ} {values : OrdMap κ ν} {key : ν → ι}

omit [DecidableEq κ] in
theorem Indexes.size_eq [Std.LawfulEqOrd ι] (indexes : Indexes index values key) :
    index.size = values.size := by
  apply Nat.le_antisymm
  · apply size_le_of_injective (fun _ k => k)
    · intro i k held
      obtain ⟨v, found, _⟩ := (indexes i k).mp held
      exact ⟨v, found⟩
    · intro i j k l first second same
      obtain ⟨v, found, own⟩ := (indexes i k).mp first
      obtain ⟨w, there, other⟩ := (indexes j l).mp second
      cases same
      cases Option.some.inj (found.symm.trans there)
      exact own.symm.trans other
  · apply size_le_of_injective (fun _ v => key v)
    · intro k v found
      exact ⟨k, (indexes (key v) k).mpr ⟨v, found, rfl⟩⟩
    · intro k l v w first second same
      have own := (indexes (key v) k).mpr ⟨v, first, rfl⟩
      have other := (indexes (key v) l).mpr ⟨w, second, same.symm⟩
      exact Option.some.inj (own.symm.trans other)

theorem Indexes.revise (indexes : Indexes index values key) {k : κ} {old new : ν}
    (found : values[k]? = some old) (same : key new = key old) :
    Indexes index (values.insert k new) key := by
  intro i other
  rw [indexes i other]
  by_cases own : k = other
  · subst own
    simp [found, same]
  · rw [get_insert, if_neg own]

theorem Indexes.admit [Std.LawfulEqOrd ι] [DecidableEq ι] (indexes : Indexes index values key) {k : κ} {v : ν}
    (unused : index[key v]? = none) (new : values[k]? = none) :
    Indexes (index.insert (key v) k) (values.insert k v) key := by
  intro i other
  rw [get_insert, get_insert]
  by_cases own : k = other
  · subst own
    simp only [↓reduceIte, Option.some.injEq, exists_eq_left']
    constructor
    · intro held
      split at held
      · assumption
      · obtain ⟨w, found, _⟩ := (indexes i k).mp held
        rw [new] at found
        cases found
    · intro same
      rw [if_pos same]
  · rw [if_neg own]
    split
    · rename_i same
      subst same
      constructor
      · intro held
        exact absurd (Option.some.inj held) own
      · intro held
        rw [← indexes, unused] at held
        cases held
    · exact indexes i other

theorem Indexes.remove [Std.LawfulEqOrd ι] [DecidableEq ι] (indexes : Indexes index values key)
    {k : κ} {v : ν} (present : values[k]? = some v) :
    Indexes (index.erase (key v)) (values.erase k) key := by
  have own : index[key v]? = some k := (indexes _ k).mpr ⟨v, present, rfl⟩
  intro i other
  rw [get_erase, get_erase]
  constructor
  · intro indexed
    split at indexed
    · cases indexed
    · rename_i distinct
      obtain ⟨held, there, owner⟩ := (indexes i other).mp indexed
      refine ⟨held, ?_, owner⟩
      rw [if_neg]
      · exact there
      · rintro rfl
        cases Option.some.inj (present.symm.trans there)
        exact distinct owner
  · rintro ⟨held, there, owner⟩
    split at there
    · cases there
    · rename_i distinct
      have indexed := (indexes i other).mpr ⟨held, there, owner⟩
      rw [if_neg]
      · exact indexed
      · rintro rfl
        exact distinct (Option.some.inj (own.symm.trans indexed))

end index

end OrdMap
