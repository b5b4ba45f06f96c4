import AiOs.Lib.Checks
import AiOs.Lib.Hex
import AiOs.Process.Descriptor

/-! The text of a root filesystem digest (`rootfs.rs`): 64 lowercase hexadecimal digits, written
byte by byte and read in chunks of two bytes. Arithmetic on `u8` and indexing panic in the model
where they would in the source. -/
namespace AiOs.ProcessAdapter

open Hex

def digestBytes : Nat := 32
def digestHexBytes : Nat := digestBytes * 2

structure RootFilesystemDigest where
  bytes : List UInt8
  sized : bytes.length = digestBytes
  deriving DecidableEq, Repr

/-- `Display` -/
def RootFilesystemDigest.display (digest : RootFilesystemDigest) : String :=
  String.ofList (digest.bytes.flatMap Hex.text)

/-- How a function ends without a value. -/
inductive Halt where
  | error (error : ProcessAdapterError)
  | panic (message : String)
  deriving DecidableEq

def decodeHex (byte : UInt8) : Except Halt UInt8 :=
  if 48 ≤ byte ∧ byte ≤ 57 then .ok (byte - 48)
  else if 97 ≤ byte ∧ byte ≤ 102 then .ok (byte - 97 + 10)
  else .error (.error .invalidSandbox)

/-- `high * 16 + low` -/
def joinHex (high low : UInt8) : Except Halt UInt8 := do
  check (decide (high.toNat * 16 < 256)) (.panic "attempt to multiply with overflow")
  check (decide (high.toNat * 16 + low.toNat < 256)) (.panic "attempt to add with overflow")
  pure (high * 16 + low)

def index (entries : List UInt8) (position : Nat) : Except Halt UInt8 :=
  orError entries[position]? (.panic "index out of bounds")

/-- `bytes[index] = byte` -/
def write (digest : RootFilesystemDigest) (position : Nat) (byte : UInt8) :
    Except Halt RootFilesystemDigest :=
  if position < digest.bytes.length then
    .ok ⟨digest.bytes.set position byte, by rw [List.length_set, digest.sized]⟩
  else .error (.panic "index out of bounds")

/-- The loop over the enumerated chunks. -/
def decodePairs : List (List UInt8) → Nat → RootFilesystemDigest → Except Halt RootFilesystemDigest
  | [], _, digest => .ok digest
  | chunk :: rest, position, digest => do
    let high ← decodeHex (← index chunk 0)
    let low ← decodeHex (← index chunk 1)
    let digest ← write digest position (← joinHex high low)
    decodePairs rest (position + 1) digest

/-- `[0_u8; DIGEST_BYTES]` -/
def RootFilesystemDigest.zero : RootFilesystemDigest :=
  ⟨List.replicate digestBytes 0, List.length_replicate⟩

/-- `FromStr` -/
def RootFilesystemDigest.fromStr (value : String) : Except Halt RootFilesystemDigest :=
  if (osStr value).length ≠ digestHexBytes then .error (.error .invalidSandbox)
  else decodePairs (pairs (osStr value)) 0 .zero

theorem decodeHex_digit : ∀ n < 16, decodeHex (digitByte n) = .ok (UInt8.ofNat n) := by decide

theorem digitByte_value : (∀ n < 10, (digitByte n).toNat = 48 + n) ∧
    ∀ n < 6, (digitByte (10 + n)).toNat = 97 + n := by decide

theorem decodeHex_cases (byte : UInt8) :
    (∃ n < 16, byte = digitByte n) ∨ decodeHex byte = .error (.error .invalidSandbox) := by
  unfold decodeHex
  by_cases decimal : 48 ≤ byte ∧ byte ≤ 57
  · simp only [UInt8.le_iff_toNat_le, UInt8.reduceToNat] at decimal
    refine .inl ⟨byte.toNat - 48, by omega, UInt8.toNat_inj.mp ?_⟩
    rw [digitByte_value.1 _ (by omega)]
    omega
  · by_cases letter : 97 ≤ byte ∧ byte ≤ 102
    · simp only [UInt8.le_iff_toNat_le, UInt8.reduceToNat] at letter
      refine .inl ⟨10 + (byte.toNat - 97), by omega, UInt8.toNat_inj.mp ?_⟩
      rw [digitByte_value.2 _ (by omega)]
      omega
    · exact .inr (by rw [if_neg decimal, if_neg letter])

theorem joinHex_digits {n m : Nat} (high : n < 16) (low : m < 16) :
    joinHex (UInt8.ofNat n) (UInt8.ofNat m) = .ok (UInt8.ofNat (n * 16 + m)) := by
  have all : ∀ n < 16, ∀ m < 16,
      joinHex (UInt8.ofNat n) (UInt8.ofNat m) = .ok (UInt8.ofNat (n * 16 + m)) := by decide
  exact all n high m low

theorem pair_ofNat {n m : Nat} (high : n < 16) (low : m < 16) :
    pair (UInt8.ofNat (n * 16 + m)) = [digitByte n, digitByte m] := by
  have value : (UInt8.ofNat (n * 16 + m)).toNat = n * 16 + m := by
    rw [UInt8.toNat_ofNat']
    omega
  have upper : (n * 16 + m) / 16 = n := by omega
  have lower : (n * 16 + m) % 16 = m := by omega
  rw [pair, value, upper, lower]

/-- The digest with some bytes written from a position on. -/
def overwrite (digest : RootFilesystemDigest) (position : Nat) : List UInt8 → RootFilesystemDigest
  | [] => digest
  | byte :: rest =>
    overwrite ⟨digest.bytes.set position byte, by rw [List.length_set, digest.sized]⟩
      (position + 1) rest

theorem bytes_overwrite {digest : RootFilesystemDigest} {position : Nat} {bytes : List UInt8}
    (room : position + bytes.length ≤ digestBytes) :
    (overwrite digest position bytes).bytes =
      digest.bytes.take position ++ bytes ++ digest.bytes.drop (position + bytes.length) := by
  induction bytes generalizing digest position with
  | nil => simp [overwrite]
  | cons byte rest ih =>
    have inside : position < digest.bytes.length := by
      rw [digest.sized]
      simp only [List.length_cons] at room
      omega
    simp only [List.length_cons] at room
    have before : (digest.bytes.set position byte).take (position + 1) =
        digest.bytes.take position ++ [byte] := by
      rw [List.set_eq_take_append_cons_drop, if_pos inside]
      simp [List.take_append, List.take_take, Nat.min_eq_left (Nat.le_of_lt inside)]
    have behind : (digest.bytes.set position byte).drop (position + 1 + rest.length) =
        digest.bytes.drop (position + (byte :: rest).length) := by
      rw [List.drop_set_of_lt (by omega), List.length_cons]
      congr 1
      omega
    rw [overwrite, ih (by omega)]
    simp only [before, behind, List.append_assoc, List.cons_append, List.nil_append]

theorem decodePairs_digits {n m position : Nat} (high : n < 16) (low : m < 16)
    (inside : position < digestBytes) (rest : List (List UInt8)) (digest : RootFilesystemDigest) :
    decodePairs ([digitByte n, digitByte m] :: rest) position digest =
      decodePairs rest (position + 1) (overwrite digest position [UInt8.ofNat (n * 16 + m)]) := by
  have entries : index [digitByte n, digitByte m] 0 = .ok (digitByte n) ∧
      index [digitByte n, digitByte m] 1 = .ok (digitByte m) := ⟨rfl, rfl⟩
  have room : position < digest.bytes.length := digest.sized ▸ inside
  simp [decodePairs, entries, decodeHex_digit n high, decodeHex_digit m low,
    joinHex_digits high low, write, room, overwrite, bind, Except.bind]

theorem decodePairs_map {bytes : List UInt8} {position : Nat}
    (room : position + bytes.length ≤ digestBytes) (digest : RootFilesystemDigest) :
    decodePairs (bytes.map pair) position digest = .ok (overwrite digest position bytes) := by
  induction bytes generalizing position digest with
  | nil => rfl
  | cons byte rest ih =>
    simp only [List.length_cons] at room
    obtain ⟨high, low⟩ := half_lt byte
    have whole : byte.toNat / 16 * 16 + byte.toNat % 16 = byte.toNat := by omega
    rw [List.map_cons, pair, decodePairs_digits high low (by omega), ih (by omega), whole,
      UInt8.ofNat_toNat]
    rfl

theorem decodePairs_cases {chunks : List (List UInt8)}
    (each : ∀ chunk ∈ chunks, ∃ first second, chunk = [first, second]) {position : Nat}
    (room : position + chunks.length ≤ digestBytes) (digest : RootFilesystemDigest) :
    (∃ bytes : List UInt8, chunks = bytes.map pair) ∨
      decodePairs chunks position digest = .error (.error .invalidSandbox) := by
  induction chunks generalizing position digest with
  | nil => exact .inl ⟨[], rfl⟩
  | cons chunk rest ih =>
    obtain ⟨first, second, rfl⟩ := each chunk List.mem_cons_self
    simp only [List.length_cons] at room
    have entries : index [first, second] 0 = .ok first ∧ index [first, second] 1 = .ok second :=
      ⟨rfl, rfl⟩
    rcases decodeHex_cases first with ⟨n, high, rfl⟩ | refused
    · rcases decodeHex_cases second with ⟨m, low, rfl⟩ | refused
      · rw [decodePairs_digits high low (by omega)]
        rcases ih (fun other member => each other (List.mem_cons_of_mem _ member))
          (by omega : position + 1 + rest.length ≤ digestBytes)
          (overwrite digest position [UInt8.ofNat (n * 16 + m)]) with ⟨bytes, rfl⟩ | refused
        · refine .inl ⟨UInt8.ofNat (n * 16 + m) :: bytes, ?_⟩
          rw [List.map_cons, pair_ofNat high low]
        · exact .inr refused
      · refine .inr ?_
        simp [decodePairs, entries, decodeHex_digit n high, refused, bind, Except.bind]
    · refine .inr ?_
      simp [decodePairs, entries, refused, bind, Except.bind]

namespace RootFilesystemDigest

theorem osStr_display (digest : RootFilesystemDigest) :
    osStr digest.display = digest.bytes.flatMap pair :=
  osStr_text digest.bytes

theorem overwrite_zero {bytes : List UInt8} (full : bytes.length = digestBytes) :
    overwrite zero 0 bytes = ⟨bytes, full⟩ := by
  have written : (overwrite zero 0 bytes).bytes = bytes := by
    rw [bytes_overwrite (Nat.le_of_eq (by rw [Nat.zero_add, full])), Nat.zero_add, full]
    simp [zero]
  cases final : overwrite zero 0 bytes with
  | mk stored sized =>
    rw [final] at written
    subst written
    rfl

theorem fromStr_display (digest : RootFilesystemDigest) : fromStr digest.display = .ok digest := by
  have sized : (osStr digest.display).length = digestHexBytes := by
    rw [osStr_display, length_flatMap_pair, digest.sized]
    rfl
  rw [fromStr, if_neg (not_not.mpr sized), osStr_display, pairs_flatMap,
    decodePairs_map (Nat.le_of_eq (by rw [Nat.zero_add, digest.sized])), overwrite_zero digest.sized]

/-- A text is the display of a digest, or it is refused. -/
theorem fromStr_cases (value : String) :
    (∃ digest : RootFilesystemDigest, digest.display = value) ∨
      fromStr value = .error (.error .invalidSandbox) := by
  by_cases sized : (osStr value).length ≠ digestHexBytes
  · exact .inr (if_pos sized)
  · rw [fromStr, if_neg sized]
    have length : (osStr value).length = 64 := not_not.mp sized
    have count : (pairs (osStr value)).length = digestBytes := by
      rw [length_pairs, length]
      rfl
    have whole : (pairs (osStr value)).flatten = osStr value :=
      flatten_pairs (by rw [length]; decide)
    rcases decodePairs_cases (fun _ member => of_mem_pairs member)
      (Nat.le_of_eq (by rw [Nat.zero_add, count])) zero with ⟨bytes, chunks⟩ | refused
    · have full : bytes.length = digestBytes := by rw [← count, chunks, List.length_map]
      refine .inl ⟨⟨bytes, full⟩, osStr_inj ?_⟩
      rw [osStr_display, List.flatMap_def, ← chunks, whole]
    · exact .inr refused

/-- Every digest has one accepted spelling, its display, and every other text is refused without
a panic. -/
theorem digest_text_codec :
    (∀ digest : RootFilesystemDigest, fromStr digest.display = .ok digest) ∧
    (∀ (value : String) (digest : RootFilesystemDigest), fromStr value = .ok digest →
      digest.display = value) ∧
    (∀ value : String, (∃ digest, fromStr value = .ok digest) ↔
      value.toList.length = 64 ∧ ∀ c ∈ value.toList, isLowerHex c = true) ∧
    (∀ value : String, (∀ digest : RootFilesystemDigest, value ≠ digest.display) →
      fromStr value = .error (.error .invalidSandbox)) := by
  refine ⟨fromStr_display, ?_, ?_, ?_⟩
  · intro value digest accepted
    rcases fromStr_cases value with ⟨found, rfl⟩ | refused
    · rw [fromStr_display] at accepted
      cases Except.ok.inj accepted
      rfl
    · rw [refused] at accepted
      cases accepted
  · intro value
    constructor
    · rintro ⟨digest, accepted⟩
      rcases fromStr_cases value with ⟨found, rfl⟩ | refused
      · rw [display, String.toList_ofList, length_flatMap_text, found.sized]
        exact ⟨rfl, fun c member => isLowerHex_text member⟩
      · rw [refused] at accepted
        cases accepted
    · rintro ⟨long, digits⟩
      obtain ⟨bytes, spelled⟩ := exists_text (by rw [long]; decide) digits
      have full : bytes.length = digestBytes := by
        have twice := length_flatMap_text bytes
        rw [spelled, long] at twice
        rw [digestBytes]
        omega
      have shown : (⟨bytes, full⟩ : RootFilesystemDigest).display = value := by
        rw [display, spelled, String.ofList_toList]
      exact ⟨⟨bytes, full⟩, shown ▸ fromStr_display _⟩
  · intro value other
    rcases fromStr_cases value with ⟨found, same⟩ | refused
    · exact absurd same.symm (other found)
    · exact refused

end RootFilesystemDigest

end AiOs.ProcessAdapter
