import AiOs.Lib.UnixPath

/-! Unsigned numbers in decimal, written by `to_string` and read by `str::parse`. -/
namespace AiOs

/-- `str::parse` of an unsigned integer type with the values below `limit`. One leading `+`
is accepted. -/
def parseUnsigned (limit : Nat) (text : String) : Option Nat :=
  let digits := if text.toList.head? = some '+' then text.toList.tail else text.toList
  if digits = [] ∨ digits.all Char.isDigit = false then none
  else if Nat.ofDigitChars 10 digits 0 < limit then some (Nat.ofDigitChars 10 digits 0)
  else none

/-- `OsString::into_string` -/
def OsString.intoString (bytes : OsString) : Option String := String.fromUTF8? bytes.toByteArray

theorem toList_toString (n : Nat) : (toString n).toList = Nat.toDigits 10 n := by
  rw [Nat.toString_eq_repr, Nat.toList_repr]

theorem isDigit_of_mem_toString {n : Nat} {c : Char} (member : c ∈ (toString n).toList) :
    c.isDigit = true := by
  rw [toList_toString] at member
  exact Nat.isDigit_of_mem_toDigits (by decide) (by decide) member

theorem parseUnsigned_toString {limit n : Nat} (small : n < limit) :
    parseUnsigned limit (toString n) = some n := by
  have noSign : (toString n).toList.head? ≠ some '+' := by
    intro sign
    have digit := isDigit_of_mem_toString (List.mem_of_head? sign)
    exact absurd digit (by decide)
  have some_digit : (toString n).toList ≠ [] := by
    rw [toList_toString]
    exact Nat.toDigits_ne_nil
  have digits : (toString n).toList.all Char.isDigit = true :=
    List.all_eq_true.mpr fun c member => isDigit_of_mem_toString member
  have value : Nat.ofDigitChars 10 (toString n).toList 0 = n := by
    rw [toList_toString]
    exact Nat.ofDigitChars_ten_toDigits
  have readable : ¬ ((toString n).toList = [] ∨ (toString n).toList.all Char.isDigit = false) := by
    rw [digits]
    exact not_or.mpr ⟨some_digit, Bool.noConfusion⟩
  rw [parseUnsigned, if_neg noSign]
  simp only [readable, value, small, ↓reduceIte]

theorem parseUnsigned_lt {limit n : Nat} {text : String} (read : parseUnsigned limit text = some n) :
    n < limit := by
  simp only [parseUnsigned] at read
  generalize (if text.toList.head? = some '+' then text.toList.tail else text.toList) = digits
    at read
  split at read
  · cases read
  · split at read
    · rename_i small
      cases read
      exact small
    · cases read

theorem intoString_osStr (text : String) : OsString.intoString (osStr text) = some text := by
  rw [OsString.intoString, ← toByteArray_eq_osStr, String.fromUTF8?]
  rw [dif_pos text.isValidUTF8]
  rfl

end AiOs
