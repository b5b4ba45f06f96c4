import Mathlib.Algebra.Ring.Nat
import Mathlib.Tactic.Common

/-! Numbers as bytes of a fixed width, in either byte order. -/
namespace Bytes

inductive Endian where
  | little
  | big
  deriving DecidableEq, Repr

def littleEndian : Nat → Nat → List UInt8
  | 0, _ => []
  | width + 1, n => UInt8.ofNat n :: littleEndian width (n / 256)

def ofLittleEndian : List UInt8 → Nat
  | [] => 0
  | byte :: rest => byte.toNat + 256 * ofLittleEndian rest

def bigEndian (width n : Nat) : List UInt8 := (littleEndian width n).reverse

def ofBigEndian (bytes : List UInt8) : Nat := ofLittleEndian bytes.reverse

def Endian.toBytes : Endian → Nat → Nat → List UInt8
  | .little => littleEndian
  | .big => bigEndian

def Endian.ofBytes : Endian → List UInt8 → Nat
  | .little => ofLittleEndian
  | .big => ofBigEndian

@[simp] theorem length_littleEndian (width n : Nat) : (littleEndian width n).length = width := by
  induction width generalizing n with
  | zero => rfl
  | succ width ih => rw [littleEndian, List.length_cons, ih]

theorem ofLittleEndian_littleEndian {width n : Nat} (fits : n < 256 ^ width) :
    ofLittleEndian (littleEndian width n) = n := by
  induction width generalizing n with
  | zero =>
    rw [Nat.pow_zero] at fits
    exact (Nat.lt_one_iff.mp fits).symm
  | succ width ih =>
    have rest : n / 256 < 256 ^ width := by
      rw [Nat.pow_succ] at fits
      exact Nat.div_lt_of_lt_mul (Nat.mul_comm _ _ ▸ fits)
    have low : (UInt8.ofNat n).toNat = n % 256 := UInt8.toNat_ofNat
    rw [littleEndian, ofLittleEndian, ih rest, low]
    exact Nat.mod_add_div n 256

theorem littleEndian_ofLittleEndian (bytes : List UInt8) :
    littleEndian bytes.length (ofLittleEndian bytes) = bytes := by
  induction bytes with
  | nil => rfl
  | cons byte rest ih =>
    have small := byte.toNat_lt
    have low : UInt8.ofNat (byte.toNat + 256 * ofLittleEndian rest) = byte := by
      apply UInt8.toNat_inj.mp
      rw [UInt8.toNat_ofNat']
      omega
    have high : (byte.toNat + 256 * ofLittleEndian rest) / 256 = ofLittleEndian rest := by omega
    rw [List.length_cons, littleEndian, ofLittleEndian, low, high, ih]

@[simp] theorem length_bigEndian (width n : Nat) : (bigEndian width n).length = width := by
  rw [bigEndian, List.length_reverse, length_littleEndian]

theorem ofBigEndian_bigEndian {width n : Nat} (fits : n < 256 ^ width) :
    ofBigEndian (bigEndian width n) = n := by
  rw [ofBigEndian, bigEndian, List.reverse_reverse, ofLittleEndian_littleEndian fits]

theorem bigEndian_ofBigEndian (bytes : List UInt8) :
    bigEndian bytes.length (ofBigEndian bytes) = bytes := by
  rw [bigEndian, ofBigEndian, ← List.length_reverse, littleEndian_ofLittleEndian,
    List.reverse_reverse]

theorem bigEndian_inj {width a b : Nat} (fitsA : a < 256 ^ width) (fitsB : b < 256 ^ width)
    (same : bigEndian width a = bigEndian width b) : a = b := by
  rw [← ofBigEndian_bigEndian fitsA, same, ofBigEndian_bigEndian fitsB]

@[simp] theorem Endian.length_toBytes (endian : Endian) (width n : Nat) :
    (endian.toBytes width n).length = width := by
  cases endian
  · exact length_littleEndian width n
  · exact length_bigEndian width n

theorem Endian.ofBytes_toBytes (endian : Endian) {width n : Nat} (fits : n < 256 ^ width) :
    endian.ofBytes (endian.toBytes width n) = n := by
  cases endian
  · exact ofLittleEndian_littleEndian fits
  · exact ofBigEndian_bigEndian fits

end Bytes
