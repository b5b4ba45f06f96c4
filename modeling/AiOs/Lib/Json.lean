import AiOs.Lib.Decimal
import Mathlib.Algebra.Ring.Nat

/-! JSON values and their compact text, as a byte string: no blanks, fields in the order in which
they were written, and only the escapes that JSON demands. -/

inductive Json where
  | null
  | bool (value : Bool)
  | number (value : Nat)
  /-- Any other number, by its text. -/
  | decimal (text : String)
  | string (text : String)
  | array (items : List Json)
  | object (fields : List (String × Json))

namespace Json

open AiOs

def hexDigit (digit : UInt8) : UInt8 := if digit < 10 then 48 + digit else 87 + digit

def escapeByte (byte : UInt8) : List UInt8 :=
  if byte = 34 then osStr "\\\""
  else if byte = 92 then osStr "\\\\"
  else if byte = 8 then osStr "\\b"
  else if byte = 9 then osStr "\\t"
  else if byte = 10 then osStr "\\n"
  else if byte = 12 then osStr "\\f"
  else if byte = 13 then osStr "\\r"
  else if byte < 32 then osStr "\\u00" ++ [hexDigit (byte / 16), hexDigit (byte % 16)]
  else [byte]

def quoted (text : String) : List UInt8 := 34 :: (osStr text).flatMap escapeByte ++ [34]

mutual

def bytes : Json → List UInt8
  | .null => osStr "null"
  | .bool true => osStr "true"
  | .bool false => osStr "false"
  | .number value => osStr (toString value)
  | .decimal text => osStr text
  | .string text => quoted text
  | .array items => 91 :: [44].intercalate (itemBytes items) ++ [93]
  | .object fields => 123 :: [44].intercalate (fieldBytes fields) ++ [125]

def itemBytes : List Json → List (List UInt8)
  | [] => []
  | item :: items => item.bytes :: itemBytes items

def fieldBytes : List (String × Json) → List (List UInt8)
  | [] => []
  | (name, value) :: fields => (quoted name ++ 58 :: value.bytes) :: fieldBytes fields

end

def size (json : Json) : Nat := json.bytes.length

def isPlain (c : Char) : Bool :=
  decide (32 ≤ c.val.toNat) && decide (c.val.toNat < 128) && c != '"' && c != '\\'

theorem escape_plain {c : Char} (plain : isPlain c = true) :
    (String.utf8EncodeChar c).flatMap escapeByte = String.utf8EncodeChar c ∧
      (String.utf8EncodeChar c).length = 1 := by
  simp only [isPlain, Bool.and_eq_true, decide_eq_true_eq, bne_iff_ne, ne_eq] at plain
  obtain ⟨⟨⟨low, high⟩, quote⟩, slash⟩ := plain
  have coded : String.utf8EncodeChar c = [UInt8.ofNat c.val.toNat] := by
    unfold String.utf8EncodeChar
    dsimp only
    rw [if_pos (by omega)]
  have value : (UInt8.ofNat c.val.toNat).toNat = c.val.toNat := by
    change c.val.toNat % 256 = c.val.toNat
    omega
  have other : ∀ n : UInt8, n.toNat ≠ c.val.toNat → UInt8.ofNat c.val.toNat ≠ n := by
    intro n differs same
    exact differs (by rw [← same, value])
  have mark : c.val.toNat ≠ 34 := fun same => quote (Char.ext (UInt32.toNat_inj.mp same))
  have backslash : c.val.toNat ≠ 92 := fun same => slash (Char.ext (UInt32.toNat_inj.mp same))
  have large : ¬ UInt8.ofNat c.val.toNat < 32 := by
    rw [UInt8.lt_iff_toNat_lt, value]
    exact Nat.not_lt.mpr low
  have same : escapeByte (UInt8.ofNat c.val.toNat) = [UInt8.ofNat c.val.toNat] := by
    unfold escapeByte
    rw [if_neg (other 34 (Ne.symm mark)), if_neg (other 92 (Ne.symm backslash)),
      if_neg (other 8 (by change 8 ≠ _; omega)), if_neg (other 9 (by change 9 ≠ _; omega)),
      if_neg (other 10 (by change 10 ≠ _; omega)), if_neg (other 12 (by change 12 ≠ _; omega)),
      if_neg (other 13 (by change 13 ≠ _; omega)), if_neg large]
  rw [coded, List.flatMap_cons, List.flatMap_nil, List.append_nil]
  exact ⟨same, rfl⟩

theorem length_quoted {text : String} (plain : text.toList.all isPlain = true) :
    (quoted text).length = text.toList.length + 2 := by
  have all : ∀ chars : List Char, chars.all isPlain = true →
      ((chars.flatMap String.utf8EncodeChar).flatMap escapeByte).length = chars.length := by
    intro chars each
    induction chars with
    | nil => rfl
    | cons c rest ih =>
      simp only [List.all_cons, Bool.and_eq_true] at each
      obtain ⟨escaped, one⟩ := escape_plain each.1
      rw [List.flatMap_cons, List.flatMap_append, escaped, List.length_append, one, ih each.2,
        List.length_cons, Nat.add_comm]
  simp [quoted, osStr, all _ plain]

theorem length_intercalate {α : Type} (separator : α) (pieces : List (List α)) :
    ([separator].intercalate pieces).length =
      (pieces.map List.length).sum + (pieces.length - 1) := by
  induction pieces with
  | nil => rfl
  | cons piece rest ih =>
    cases rest with
    | nil => simp
    | cons next rest =>
      rw [List.intercalate_cons_cons, List.length_append, List.length_append, ih]
      simp
      omega

theorem itemBytes_eq_map (items : List Json) : itemBytes items = items.map bytes := by
  induction items with
  | nil => rfl
  | cons item items ih => rw [itemBytes, ih, List.map_cons]

@[simp] theorem length_fieldBytes (fields : List (String × Json)) :
    (fieldBytes fields).length = fields.length := by
  induction fields with
  | nil => rfl
  | cons field fields ih =>
    obtain ⟨name, value⟩ := field
    rw [fieldBytes, List.length_cons, ih, List.length_cons]

theorem size_string {text : String} (plain : text.toList.all isPlain = true) :
    size (.string text) = text.toList.length + 2 := by
  rw [size, bytes, length_quoted plain]

theorem size_array (items : List Json) :
    size (.array items) = (items.map size).sum + (items.length - 1) + 2 := by
  rw [size, bytes, itemBytes_eq_map, List.length_append, List.length_cons, length_intercalate,
    List.length_map, List.map_map]
  simp only [List.length_cons, List.length_nil]
  rfl

theorem size_array_le {items : List Json} {width : Nat} (each : ∀ item ∈ items, size item ≤ width) :
    size (.array items) ≤ items.length * width + (items.length - 1) + 2 := by
  have total : (items.map size).sum ≤ items.length * width := by
    induction items with
    | nil => simp
    | cons item items ih =>
      have first := each item List.mem_cons_self
      have rest := ih (fun other member => each other (List.mem_cons_of_mem _ member))
      rw [List.map_cons, List.sum_cons, List.length_cons, Nat.succ_mul]
      omega
  rw [size_array]
  omega

/-- What the fields of an object need, with their names. -/
def fieldsSize : List (String × Json) → Nat
  | [] => 0
  | (name, value) :: fields => (quoted name).length + 1 + value.size + fieldsSize fields

theorem size_object (fields : List (String × Json)) :
    size (.object fields) = fieldsSize fields + (fields.length - 1) + 2 := by
  have pieces : ∀ fields, ((fieldBytes fields).map List.length).sum = fieldsSize fields := by
    intro fields
    induction fields with
    | nil => rfl
    | cons field fields ih =>
      obtain ⟨name, value⟩ := field
      rw [fieldBytes, List.map_cons, List.sum_cons, ih, fieldsSize, size]
      simp
      omega
  rw [size, bytes, List.length_append, List.length_cons, length_intercalate, pieces,
    length_fieldBytes]
  simp

theorem length_encoded_digits {digits : List Char} (each : ∀ c ∈ digits, c.isDigit = true) :
    (digits.flatMap String.utf8EncodeChar).length = digits.length := by
  induction digits with
  | nil => rfl
  | cons c rest ih =>
    have digit : c.val.toNat ≤ 57 := by
      have range := each c List.mem_cons_self
      simp only [Char.isDigit, ge_iff_le, Bool.and_eq_true, decide_eq_true_eq] at range
      exact range.2
    have one : (String.utf8EncodeChar c).length = 1 := by
      unfold String.utf8EncodeChar
      dsimp only
      rw [if_pos (by omega)]
      rfl
    rw [List.flatMap_cons, List.length_append, one, List.length_cons,
      ih (fun other member => each other (List.mem_cons_of_mem _ member)), Nat.add_comm]

theorem size_number_le {n digits : Nat} (positive : 0 < digits) (small : n < 10 ^ digits) :
    size (.number n) ≤ digits := by
  have short : (Nat.toDigits 10 n).length ≤ digits :=
    (Nat.length_toDigits_le_iff (by decide) positive).mpr small
  have all : ∀ c ∈ Nat.toDigits 10 n, c.isDigit = true :=
    fun c member => Nat.isDigit_of_mem_toDigits (by decide) (by decide) member
  rw [size, bytes, osStr, toList_toString, length_encoded_digits all]
  exact short

end Json
