import AiOs.Lib.Bytes

/-! Words that can be cut off the front of a text in one way only. A sequence of such words
without separators and without a count is read back from their concatenation. -/
namespace Coding

variable {α σ : Type}

/-- The words of the members of `domain` mark their own end. -/
def Delimited (domain : α → Prop) (encode : α → List σ) : Prop :=
  ∀ ⦃a b : α⦄, domain a → domain b → ∀ ⦃rest rest' : List σ⦄,
    encode a ++ rest = encode b ++ rest' → a = b ∧ rest = rest'

theorem Delimited.of_length {domain : α → Prop} {encode : α → List σ} {width : Nat}
    (long : ∀ a, domain a → (encode a).length = width)
    (inj : ∀ a b, domain a → domain b → encode a = encode b → a = b) :
    Delimited domain encode := by
  intro a b ha hb rest rest' same
  have lengths : (encode a).length = (encode b).length := (long a ha).trans (long b hb).symm
  obtain ⟨words, rests⟩ := List.append_inj same lengths
  exact ⟨inj a b ha hb words, rests⟩

/-- Concatenated words are read back, first word first. -/
theorem Delimited.flatMap_inj {domain : α → Prop} {encode : α → List σ}
    (words : Delimited domain encode) (some_letter : ∀ a, encode a ≠ []) {xs ys : List α}
    (hx : ∀ x ∈ xs, domain x) (hy : ∀ y ∈ ys, domain y)
    (same : xs.flatMap encode = ys.flatMap encode) : xs = ys := by
  induction xs generalizing ys with
  | nil =>
    cases ys with
    | nil => rfl
    | cons y ys =>
      rw [List.flatMap_nil, List.flatMap_cons] at same
      exact absurd (List.append_eq_nil_iff.mp same.symm).1 (some_letter y)
  | cons x xs ih =>
    cases ys with
    | nil =>
      rw [List.flatMap_nil, List.flatMap_cons] at same
      exact absurd (List.append_eq_nil_iff.mp same).1 (some_letter x)
    | cons y ys =>
      rw [List.flatMap_cons, List.flatMap_cons] at same
      obtain ⟨rfl, rests⟩ := words (hx x List.mem_cons_self) (hy y List.mem_cons_self) same
      have rest := ih (fun x member => hx x (List.mem_cons_of_mem _ member))
        (fun y member => hy y (List.mem_cons_of_mem _ member)) rests
      rw [rest]

theorem delimited_bigEndian (width : Nat) :
    Delimited (fun n => n < 256 ^ width) (Bytes.bigEndian width) :=
  .of_length (fun n _ => Bytes.length_bigEndian width n)
    (fun _ _ ha hb same => Bytes.bigEndian_inj ha hb same)

def lengthPrefixed (width : Nat) (bytes : List UInt8) : List UInt8 :=
  Bytes.bigEndian width bytes.length ++ bytes

theorem delimited_lengthPrefixed (width : Nat) :
    Delimited (fun bytes => bytes.length < 256 ^ width) (lengthPrefixed width) := by
  intro a b ha hb rest rest' same
  simp only [lengthPrefixed, List.append_assoc] at same
  obtain ⟨lengths, same⟩ := delimited_bigEndian width ha hb same
  exact List.append_inj same lengths

end Coding
