import AiOs.Lib.Bytes

/-! Classic BPF, as far as a filter needs it that loads words, compares them with constants
and returns. All jumps are relative and forward. -/
namespace Bpf

open Bytes

structure Instruction where
  code : UInt16
  jumpTrue : UInt8
  jumpFalse : UInt8
  value : UInt32
  deriving DecidableEq, Repr

def ldWAbs : UInt16 := 0x20
def jmpJeqK : UInt16 := 0x15
def jmpJgeK : UInt16 := 0x35
def jmpJgtK : UInt16 := 0x25
def retK : UInt16 := 0x06

def Instruction.encode (endian : Endian) (instruction : Instruction) : List UInt8 :=
  endian.toBytes 2 instruction.code.toNat ++ [instruction.jumpTrue, instruction.jumpFalse]
    ++ endian.toBytes 4 instruction.value.toNat

/-- The instruction that eight bytes stand for. -/
def Instruction.decode (endian : Endian) : List UInt8 → Option Instruction
  | [c₀, c₁, jumpTrue, jumpFalse, v₀, v₁, v₂, v₃] =>
    some ⟨UInt16.ofNat (endian.ofBytes [c₀, c₁]), jumpTrue, jumpFalse,
      UInt32.ofNat (endian.ofBytes [v₀, v₁, v₂, v₃])⟩
  | _ => none

/-- The instruction at an index of a program, if the program is that long. -/
def fetch (endian : Endian) (bytes : List UInt8) (index : Nat) : Option Instruction :=
  Instruction.decode endian ((bytes.drop (index * 8)).take 8)

structure Machine where
  accumulator : UInt32
  programCounter : Nat
  deriving DecidableEq, Repr

inductive Fault where
  | outside
  | unknownInstruction
  | unknownOffset
  | unfinished
  deriving DecidableEq, Repr

inductive Step where
  | next (machine : Machine)
  | returned (value : UInt32)
  deriving DecidableEq, Repr

/-- A jump by `j` skips the `j` instructions behind the current one. -/
def Machine.jump (machine : Machine) (taken : Bool) (instruction : Instruction) : Step :=
  .next { machine with programCounter := machine.programCounter + 1 +
    (if taken then instruction.jumpTrue else instruction.jumpFalse).toNat }

/-- One instruction on a machine; the data are the words that a load may ask for. -/
def step (data : UInt32 → Option UInt32) (instruction : Instruction) (machine : Machine) :
    Except Fault Step :=
  if instruction.code = ldWAbs then
    match data instruction.value with
    | some word => .ok (.next ⟨word, machine.programCounter + 1⟩)
    | none => .error .unknownOffset
  else if instruction.code = jmpJeqK then
    .ok (machine.jump (decide (machine.accumulator = instruction.value)) instruction)
  else if instruction.code = jmpJgeK then
    .ok (machine.jump (decide (machine.accumulator ≥ instruction.value)) instruction)
  else if instruction.code = jmpJgtK then
    .ok (machine.jump (decide (machine.accumulator > instruction.value)) instruction)
  else if instruction.code = retK then .ok (.returned instruction.value)
  else .error .unknownInstruction

def run (program : Nat → Option Instruction) (data : UInt32 → Option UInt32) :
    Nat → Machine → Except Fault UInt32
  | 0, _ => .error .unfinished
  | fuel + 1, machine =>
    match program machine.programCounter with
    | none => .error .outside
    | some instruction =>
      match step data instruction machine with
      | .error fault => .error fault
      | .ok (.returned value) => .ok value
      | .ok (.next machine) => run program data fuel machine

/-- A whole program: since jumps go forward, no instruction is run twice. -/
def evaluate (endian : Endian) (bytes : List UInt8) (data : UInt32 → Option UInt32) :
    Except Fault UInt32 :=
  run (fetch endian bytes) data (bytes.length / 8) ⟨0, 0⟩

section codec
variable (endian : Endian)

@[simp] theorem length_encode (instruction : Instruction) :
    (instruction.encode endian).length = 8 := by
  simp [Instruction.encode]

theorem decode_encode (instruction : Instruction) :
    Instruction.decode endian (instruction.encode endian) = some instruction := by
  obtain ⟨code, jumpTrue, jumpFalse, value⟩ := instruction
  have codeFits : code.toNat < 256 ^ 2 := code.toNat_lt
  have valueFits : value.toNat < 256 ^ 4 := value.toNat_lt
  have codeLength := endian.length_toBytes 2 code.toNat
  have valueLength := endian.length_toBytes 4 value.toNat
  have codeBack := endian.ofBytes_toBytes codeFits
  have valueBack := endian.ofBytes_toBytes valueFits
  unfold Instruction.encode
  generalize endian.toBytes 2 code.toNat = codeBytes at codeLength codeBack ⊢
  generalize endian.toBytes 4 value.toNat = valueBytes at valueLength valueBack ⊢
  rcases codeBytes with _ | ⟨c₀, _ | ⟨c₁, _ | ⟨c₂, rest⟩⟩⟩
  · cases codeLength
  · cases codeLength
  · rcases valueBytes with _ | ⟨v₀, _ | ⟨v₁, _ | ⟨v₂, _ | ⟨v₃, _ | ⟨v₄, rest⟩⟩⟩⟩⟩
    · cases valueLength
    · cases valueLength
    · cases valueLength
    · cases valueLength
    · change some (Instruction.mk (UInt16.ofNat (endian.ofBytes [c₀, c₁])) jumpTrue jumpFalse
        (UInt32.ofNat (endian.ofBytes [v₀, v₁, v₂, v₃]))) = _
      rw [codeBack, valueBack, UInt16.ofNat_toNat, UInt32.ofNat_toNat]
    · cases valueLength
  · cases codeLength

theorem length_flatMap_encode (code : List Instruction) :
    (code.flatMap (Instruction.encode endian)).length = code.length * 8 := by
  induction code with
  | nil => rfl
  | cons instruction rest ih =>
    rw [List.flatMap_cons, List.length_append, length_encode, ih, List.length_cons]
    omega

theorem fetch_flatMap_encode (code : List Instruction) (index : Nat) :
    fetch endian (code.flatMap (Instruction.encode endian)) index = code[index]? := by
  induction code generalizing index with
  | nil => rw [fetch, List.flatMap_nil, List.drop_nil, List.take_nil]; rfl
  | cons instruction rest ih =>
    rw [List.flatMap_cons]
    cases index with
    | zero =>
      rw [fetch, Nat.zero_mul, List.drop_zero, List.take_left' (length_encode endian instruction),
        decode_encode, List.getElem?_cons_zero]
    | succ index =>
      have skipped : (index + 1) * 8 = (instruction.encode endian).length + index * 8 := by
        rw [length_encode]
        omega
      rw [fetch, skipped, List.drop_length_add_append, List.getElem?_cons_succ, ← ih index]
      rfl

theorem evaluate_flatMap_encode (code : List Instruction) (data : UInt32 → Option UInt32) :
    evaluate endian (code.flatMap (Instruction.encode endian)) data =
      run (fun index => code[index]?) data code.length ⟨0, 0⟩ := by
  rw [evaluate, length_flatMap_encode, Nat.mul_div_cancel _ (by decide)]
  congr 1
  exact funext (fetch_flatMap_encode endian code)

end codec

section run
variable {program : Nat → Option Instruction} {data : UInt32 → Option UInt32} {fuel : Nat}
  {machine : Machine}

theorem run_load {value word : UInt32} {jumpTrue jumpFalse : UInt8}
    (fetched : program machine.programCounter = some ⟨ldWAbs, jumpTrue, jumpFalse, value⟩)
    (read : data value = some word) :
    run program data (fuel + 1) machine =
      run program data fuel ⟨word, machine.programCounter + 1⟩ := by
  simp only [run, fetched, step, ↓reduceIte, read]

theorem run_jeq {value : UInt32} {jumpTrue jumpFalse : UInt8}
    (fetched : program machine.programCounter = some ⟨jmpJeqK, jumpTrue, jumpFalse, value⟩) :
    run program data (fuel + 1) machine = run program data fuel
      ⟨machine.accumulator, machine.programCounter + 1 +
        (if machine.accumulator = value then jumpTrue else jumpFalse).toNat⟩ := by
  have other : jmpJeqK ≠ ldWAbs := by decide
  simp only [run, fetched, step, if_neg other, ↓reduceIte, Machine.jump, decide_eq_true_eq]

theorem run_jge {value : UInt32} {jumpTrue jumpFalse : UInt8}
    (fetched : program machine.programCounter = some ⟨jmpJgeK, jumpTrue, jumpFalse, value⟩) :
    run program data (fuel + 1) machine = run program data fuel
      ⟨machine.accumulator, machine.programCounter + 1 +
        (if machine.accumulator ≥ value then jumpTrue else jumpFalse).toNat⟩ := by
  have others : jmpJgeK ≠ ldWAbs ∧ jmpJgeK ≠ jmpJeqK := by decide
  simp only [run, fetched, step, if_neg others.1, if_neg others.2, ↓reduceIte, Machine.jump,
    decide_eq_true_eq]

theorem run_jgt {value : UInt32} {jumpTrue jumpFalse : UInt8}
    (fetched : program machine.programCounter = some ⟨jmpJgtK, jumpTrue, jumpFalse, value⟩) :
    run program data (fuel + 1) machine = run program data fuel
      ⟨machine.accumulator, machine.programCounter + 1 +
        (if machine.accumulator > value then jumpTrue else jumpFalse).toNat⟩ := by
  have others : jmpJgtK ≠ ldWAbs ∧ jmpJgtK ≠ jmpJeqK ∧ jmpJgtK ≠ jmpJgeK := by decide
  simp only [run, fetched, step, if_neg others.1, if_neg others.2.1, if_neg others.2.2,
    ↓reduceIte, Machine.jump, decide_eq_true_eq]

theorem run_ret {value : UInt32} {jumpTrue jumpFalse : UInt8}
    (fetched : program machine.programCounter = some ⟨retK, jumpTrue, jumpFalse, value⟩) :
    run program data (fuel + 1) machine = .ok value := by
  have others : retK ≠ ldWAbs ∧ retK ≠ jmpJeqK ∧ retK ≠ jmpJgeK ∧ retK ≠ jmpJgtK := by decide
  simp only [run, fetched, step, if_neg others.1, if_neg others.2.1, if_neg others.2.2.1,
    if_neg others.2.2.2, ↓reduceIte]

end run

end Bpf
