import Mathlib.Tactic.Common
import Mathlib.Data.List.TakeDrop

/-! A stream of bytes that is read in pieces. `chunk` says how many bytes a read would deliver; it
delivers at least one where there is one to deliver and the buffer has room, and none only at the
end of the stream. A stream may also break, with an error behind the bytes it lets through. -/
namespace Stream

structure Reader where
  unread : List UInt8
  reads : Nat
  deriving DecidableEq, Repr

variable (chunk : Nat → Nat)

/-- `Read::read` with a buffer of `limit` bytes. -/
def Reader.read (limit : Nat) (reader : Reader) : List UInt8 × Reader :=
  let size := min limit (max 1 (chunk reader.reads))
  (reader.unread.take size, ⟨reader.unread.drop size, reader.reads + 1⟩)

theorem Reader.length_read_le (limit : Nat) (reader : Reader) :
    (reader.read chunk limit).1.length ≤ limit := by
  simp only [read, List.length_take]
  omega

/-- `Read::read_exact`: reads until the buffer is full or the stream is at its end. -/
def Reader.readExact (limit : Nat) (reader : Reader) : Option (List UInt8) × Reader :=
  if _done : limit = 0 then (some [], reader)
  else
    let piece := reader.read chunk limit
    if _ended : piece.1 = [] then (none, piece.2)
    else
      let rest := readExact (limit - piece.1.length) piece.2
      (rest.1.map (piece.1 ++ ·), rest.2)
termination_by limit
decreasing_by
  exact Nat.sub_lt (Nat.pos_of_ne_zero _done) (List.length_pos_iff.mpr _ended)

theorem Reader.append_read (limit : Nat) (reader : Reader) :
    (reader.read chunk limit).1 ++ (reader.read chunk limit).2.unread = reader.unread :=
  List.take_append_drop _ _

theorem Reader.read_eq_nil {limit : Nat} (room : 0 < limit) (reader : Reader) :
    (reader.read chunk limit).1 = [] ↔ reader.unread = [] := by
  have positive : min limit (max 1 (chunk reader.reads)) ≠ 0 := by omega
  simp [read, List.take_eq_nil_iff, positive]

/-- However the stream is split, the bytes are its first ones; too short a stream is used up. -/
theorem Reader.readExact_spec (limit : Nat) (reader : Reader) :
    (limit ≤ reader.unread.length ∧ ∃ later, reader.readExact chunk limit =
      (some (reader.unread.take limit), ⟨reader.unread.drop limit, later⟩)) ∨
    (reader.unread.length < limit ∧ ∃ later, reader.readExact chunk limit = (none, ⟨[], later⟩)) := by
  induction limit using Nat.strongRecOn generalizing reader with
  | _ limit ih =>
    rw [Reader.readExact]
    split
    · rename_i done
      subst done
      exact .inl ⟨Nat.zero_le _, reader.reads, rfl⟩
    rename_i unfinished
    have whole := append_read chunk limit reader
    have short := length_read_le chunk limit reader
    have empty := read_eq_nil chunk (Nat.pos_of_ne_zero unfinished) reader
    generalize reader.read chunk limit = piece at whole short empty
    obtain ⟨bytes, next⟩ := piece
    dsimp only at whole short empty ⊢
    split
    · rename_i ended
      subst ended
      have gone : next.unread = [] := by rw [List.nil_append] at whole; rw [whole, empty.mp rfl]
      refine .inr ⟨by rw [empty.mp rfl]; exact Nat.pos_of_ne_zero unfinished, next.reads, ?_⟩
      cases next
      cases gone
      rfl
    · rename_i more
      have some_byte : 0 < bytes.length := List.length_pos_iff.mpr more
      rw [← whole, List.length_append]
      rcases ih (limit - bytes.length) (by omega) next with ⟨enough, later, full⟩ | ⟨few, later, cut⟩
      · refine .inl ⟨by omega, later, ?_⟩
        rw [full, List.take_append, List.drop_append, List.take_of_length_le short,
          List.drop_of_length_le short]
        rfl
      · exact .inr ⟨by omega, later, by rw [cut]; rfl⟩

/-- What gets through a stream that breaks after some bytes, if it breaks at all. -/
def through (limit : Option Nat) (bytes : List UInt8) : List UInt8 :=
  match limit with
  | none => bytes
  | some room => bytes.take room

/-- Whether all of it gets through. -/
def passes (limit : Option Nat) (bytes : List UInt8) : Bool :=
  match limit with
  | none => true
  | some room => decide (bytes.length ≤ room)

section broken
variable {limit : Option Nat} {bytes : List UInt8}

@[simp] theorem through_nil (limit : Option Nat) : through limit [] = [] := by
  cases limit <;> simp [through]

theorem through_of_passes (whole : passes limit bytes = true) : through limit bytes = bytes := by
  cases limit with
  | none => rfl
  | some room => exact List.take_of_length_le (of_decide_eq_true whole)

theorem prefix_through (limit : Option Nat) (bytes : List UInt8) :
    through limit bytes <+: bytes := by
  cases limit with
  | none => exact List.prefix_refl bytes
  | some room => exact List.take_prefix room bytes

theorem length_through_lt (cut : passes limit bytes = false) :
    (through limit bytes).length < bytes.length := by
  cases limit with
  | none => cases cut
  | some room =>
    have short := of_decide_eq_false cut
    simp only [through, List.length_take]
    omega

end broken

end Stream
