import AiOs.Lib.UnixPath

/-! Bytes as two lowercase hexadecimal digits, as text and as the bytes of that text. -/
namespace Hex

open AiOs

def digitByte (n : Nat) : UInt8 := UInt8.ofNat (Nat.digitChar n).val.toNat

def pair (byte : UInt8) : List UInt8 := [digitByte (byte.toNat / 16), digitByte (byte.toNat % 16)]

/-- `{byte:02x}` -/
def text (byte : UInt8) : List Char :=
  [Nat.digitChar (byte.toNat / 16), Nat.digitChar (byte.toNat % 16)]

/-- `chunks_exact(2)` -/
def pairs {α : Type} : List α → List (List α)
  | [] | [_] => []
  | first :: second :: rest => [first, second] :: pairs rest

def isLowerHex (c : Char) : Bool := "0123456789abcdef".toList.contains c

theorem encode_digit : ∀ n < 16, String.utf8EncodeChar (Nat.digitChar n) = [digitByte n] := by
  decide

theorem isLowerHex_digit : ∀ n < 16, isLowerHex (Nat.digitChar n) = true := by decide

theorem digit_of_isLowerHex {c : Char} (hex : isLowerHex c = true) :
    ∃ n < 16, Nat.digitChar n = c := by
  have digits : "0123456789abcdef".toList = (List.range 16).map Nat.digitChar := by decide
  rw [isLowerHex, digits, List.contains_iff_mem] at hex
  obtain ⟨n, small, rfl⟩ := List.mem_map.mp hex
  exact ⟨n, List.mem_range.mp small, rfl⟩

theorem half_lt (byte : UInt8) : byte.toNat / 16 < 16 ∧ byte.toNat % 16 < 16 := by
  have small := byte.toNat_lt
  omega

theorem osStr_text (bytes : List UInt8) :
    osStr (String.ofList (bytes.flatMap text)) = bytes.flatMap pair := by
  rw [osStr, String.toList_ofList]
  induction bytes with
  | nil => rfl
  | cons byte rest ih =>
    obtain ⟨high, low⟩ := half_lt byte
    simp only [List.flatMap_cons, ih, text, pair, encode_digit _ high, encode_digit _ low,
      List.cons_append, List.nil_append]

theorem length_flatMap_pair (bytes : List UInt8) :
    (bytes.flatMap pair).length = 2 * bytes.length := by
  induction bytes with
  | nil => rfl
  | cons byte rest ih =>
    simp only [List.flatMap_cons, List.length_append, ih, pair, List.length_cons, List.length_nil]
    omega

theorem length_flatMap_text (bytes : List UInt8) :
    (bytes.flatMap text).length = 2 * bytes.length := by
  induction bytes with
  | nil => rfl
  | cons byte rest ih =>
    simp only [List.flatMap_cons, List.length_append, ih, text, List.length_cons, List.length_nil]
    omega

theorem isLowerHex_text {bytes : List UInt8} {c : Char} (member : c ∈ bytes.flatMap text) :
    isLowerHex c = true := by
  obtain ⟨byte, _, digit⟩ := List.mem_flatMap.mp member
  obtain ⟨high, low⟩ := half_lt byte
  simp only [text, List.mem_cons, List.not_mem_nil, or_false] at digit
  rcases digit with rfl | rfl
  · exact isLowerHex_digit _ high
  · exact isLowerHex_digit _ low

theorem pairs_flatMap (bytes : List UInt8) : pairs (bytes.flatMap pair) = bytes.map pair := by
  induction bytes with
  | nil => rfl
  | cons byte rest ih =>
    simp only [List.flatMap_cons, pair, List.cons_append, List.nil_append, pairs, List.map_cons]
    exact congrArg _ ih

theorem exists_text {chars : List Char} (even : 2 ∣ chars.length)
    (digits : ∀ c ∈ chars, isLowerHex c = true) : ∃ bytes : List UInt8, bytes.flatMap text = chars := by
  induction chars using pairs.induct with
  | case1 => exact ⟨[], rfl⟩
  | case2 c => simp at even
  | case3 first second rest ih =>
    simp only [List.length_cons] at even
    simp only [List.forall_mem_cons] at digits
    obtain ⟨n, high, rfl⟩ := digit_of_isLowerHex digits.1
    obtain ⟨m, low, rfl⟩ := digit_of_isLowerHex digits.2.1
    obtain ⟨bytes, rfl⟩ := ih (by omega) digits.2.2
    have value : (UInt8.ofNat (n * 16 + m)).toNat = n * 16 + m := by
      rw [UInt8.toNat_ofNat']
      omega
    have upper : (n * 16 + m) / 16 = n := by omega
    have lower : (n * 16 + m) % 16 = m := by omega
    exact ⟨UInt8.ofNat (n * 16 + m) :: bytes, by
      rw [List.flatMap_cons, text, value, upper, lower, List.cons_append, List.cons_append,
        List.nil_append]⟩

theorem flatten_pairs {α : Type} {entries : List α} (even : 2 ∣ entries.length) :
    (pairs entries).flatten = entries := by
  induction entries using pairs.induct with
  | case1 => rfl
  | case2 entry => simp at even
  | case3 first second rest ih =>
    have shorter : 2 ∣ rest.length := by
      simp only [List.length_cons] at even
      omega
    simp only [pairs, List.flatten_cons, ih shorter, List.cons_append, List.nil_append]

theorem length_pairs {α : Type} (entries : List α) :
    (pairs entries).length = entries.length / 2 := by
  induction entries using pairs.induct with
  | case1 => simp [pairs]
  | case2 entry => simp [pairs]
  | case3 first second rest ih =>
    simp only [pairs, List.length_cons, ih]
    omega

theorem of_mem_pairs {α : Type} {entries chunk : List α} (member : chunk ∈ pairs entries) :
    ∃ first second, chunk = [first, second] := by
  induction entries using pairs.induct with
  | case1 => cases member
  | case2 entry => cases member
  | case3 first second rest ih =>
    rcases List.mem_cons.mp member with rfl | later
    · exact ⟨first, second, rfl⟩
    · exact ih later

end Hex
