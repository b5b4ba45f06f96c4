import Mathlib.Algebra.Ring.Nat
import Mathlib.Tactic.Common

/-! The textual IP address parser of Rust's standard library, as `str::parse::<IpAddr>`
documents it. Task validation and the Network Adapter both decide through it. A reader
takes a prefix of the input or leaves the input alone. -/
namespace AiOs

/-- An address as the number its bytes spell in network order. -/
inductive IpAddr where
  | v4 (bits : BitVec 32)
  | v6 (bits : BitVec 128)
  deriving DecidableEq, Repr

namespace IpAddr

def toDigit (radix : Nat) (c : Char) : Option Nat :=
  let value :=
    if '0' ≤ c ∧ c ≤ '9' then some (c.toNat - '0'.toNat)
    else if 'a' ≤ c ∧ c ≤ 'z' then some (c.toNat - 'a'.toNat + 10)
    else if 'A' ≤ c ∧ c ≤ 'Z' then some (c.toNat - 'A'.toNat + 10)
    else none
  value.filter (· < radix)

/-- A run of digits below `limit`. A run that is too long is no number at all, and a
leading zero is only accepted where the caller allows it. -/
def readNumber (radix maxDigits : Nat) (allowZeroPrefix : Bool) (limit : Nat)
    (input : List Char) : Option (Nat × List Char) :=
  let digits := input.takeWhile (fun c => (toDigit radix c).isSome)
  let value := digits.foldl (fun n c => n * radix + (toDigit radix c).getD 0) 0
  if digits.length = 0 ∨ maxDigits < digits.length then none
  else if !allowZeroPrefix && digits.head? == some '0' && decide (1 < digits.length) then none
  else if value < limit then some (value, input.drop digits.length)
  else none

def readSeparator {α : Type} (separator : Char) (index : Nat)
    (inner : List Char → Option (α × List Char)) (input : List Char) : Option (α × List Char) :=
  if index = 0 then inner input
  else match input with
    | c :: rest => if c = separator then inner rest else none
    | [] => none

/-- Four decimal octets between dots, as one 32-bit number. -/
def readIpv4Addr (input : List Char) : Option (Nat × List Char) := do
  let (a, input) ← readSeparator '.' 0 (readNumber 10 3 false 256) input
  let (b, input) ← readSeparator '.' 1 (readNumber 10 3 false 256) input
  let (c, input) ← readSeparator '.' 2 (readNumber 10 3 false 256) input
  let (d, input) ← readSeparator '.' 3 (readNumber 10 3 false 256) input
  some (((a * 256 + b) * 256 + c) * 256 + d, input)

/-- Colon-separated groups, with an embedded IPv4 address allowed where two groups fit.
The flag tells whether one was read; it always ends the run. -/
def readGroups (limit : Nat) : Nat → List Nat → List Char → List Nat × Bool × List Char
  | 0, groups, input => (groups, false, input)
  | remaining + 1, groups, input =>
    let index := groups.length
    let embedded :=
      if index + 1 < limit then readSeparator ':' index readIpv4Addr input else none
    match embedded with
    | some (address, rest) => (groups ++ [address / 65536, address % 65536], true, rest)
    | none =>
      match readSeparator ':' index (readNumber 16 4 true 65536) input with
      | some (group, rest) => readGroups limit remaining (groups ++ [group]) rest
      | none => (groups, false, input)

/-- Eight groups, or two shorter runs around one `::`. -/
def readIpv6Addr (input : List Char) : Option (List Nat × List Char) :=
  match readGroups 8 8 [] input with
  | (head, headIpv4, rest) =>
    if head.length = 8 then some (head, rest)
    else if headIpv4 then none
    else match rest with
      | ':' :: ':' :: rest =>
        let limit := 8 - (head.length + 1)
        match readGroups limit limit [] rest with
        | (tail, _, rest) =>
          some (head ++ List.replicate (8 - head.length - tail.length) 0 ++ tail, rest)
      | _ => none

/-- `str::parse::<IpAddr>`: the whole input must be one address. -/
def parse (text : String) : Option IpAddr :=
  match readIpv4Addr text.toList with
  | some (bits, rest) => if rest.isEmpty then some (.v4 (BitVec.ofNat 32 bits)) else none
  | none =>
    match readIpv6Addr text.toList with
    | some (groups, rest) =>
      if rest.isEmpty then
        some (.v6 (BitVec.ofNat 128 (groups.foldl (fun n g => n * 65536 + g) 0)))
      else none
    | none => none

def isUnspecified : IpAddr → Bool
  | .v4 bits => bits == 0
  | .v6 bits => bits == 0

def isMulticast : IpAddr → Bool
  | .v4 bits => bits.extractLsb' 28 4 == 0xE
  | .v6 bits => bits.extractLsb' 120 8 == 0xFF

def broadcast : IpAddr := .v4 (BitVec.allOnes 32)

example : parse "127.0.0.1" = some (.v4 0x7F000001) := by decide
example : parse "::ffff:1.2.3.4" = some (.v6 0xFFFF01020304) := by decide
example : parse "01.2.3.4" = none := by decide
example : parse "1::2::3" = none := by decide

end IpAddr

end AiOs
