import AiOs.Api.Encoding
import AiOs.Lib.Stream

/-! Frames on a stream: a length of four bytes and that many bytes of payload. The reader takes
the first byte of the length on its own, to tell a closed connection from a cut one. -/
namespace AiOs.LocalApi

open Bytes Stream

/-- `write_frame` on a writer that holds what was written so far. -/
def writeFrameTo (writer payload : List UInt8) (maxFrameBytes : Nat) :
    Except LocalApiError Unit × List UInt8 :=
  if payload.isEmpty ∨ maxFrameBytes < payload.length then (.error .frameTooLarge, writer)
  else if 2 ^ 32 ≤ payload.length then (.error .frameTooLarge, writer)
  else (.ok (), (writer ++ bigEndian 4 payload.length) ++ payload)

/-- `read_frame` -/
def readFrame (chunk : Nat → Nat) (maxFrameBytes : Nat) (reader : Reader) :
    Except LocalApiError (Option (List UInt8)) × Reader :=
  let first := reader.read chunk 1
  if first.1 = [] then (.ok none, first.2)
  else
    let rest := first.2.readExact chunk 3
    match rest.1 with
    | none => (.error .protocol, rest.2)
    | some header =>
      let length := ofBigEndian (first.1 ++ header)
      if length = 0 then (.error .protocol, rest.2)
      else if maxFrameBytes < length then (.error .frameTooLarge, rest.2)
      else
        let body := rest.2.readExact chunk length
        match body.1 with
        | none => (.error .protocol, body.2)
        | some payload => (.ok (some payload), body.2)

/-- What a reader makes of a stream, and what it leaves unread, however the stream is split. -/
def parseFrame (maxFrameBytes : Nat) (stream : List UInt8) :
    Except LocalApiError (Option (List UInt8)) × List UInt8 :=
  if stream = [] then (.ok none, [])
  else if stream.length < 4 then (.error .protocol, [])
  else if ofBigEndian (stream.take 4) = 0 then (.error .protocol, stream.drop 4)
  else if maxFrameBytes < ofBigEndian (stream.take 4) then
    (.error .frameTooLarge, stream.drop 4)
  else if (stream.drop 4).length < ofBigEndian (stream.take 4) then (.error .protocol, [])
  else
    (.ok (some ((stream.drop 4).take (ofBigEndian (stream.take 4)))),
      (stream.drop 4).drop (ofBigEndian (stream.take 4)))

theorem readFrame_eq (chunk : Nat → Nat) (maxFrameBytes : Nat) (reader : Reader) :
    ∃ later, readFrame chunk maxFrameBytes reader =
      ((parseFrame maxFrameBytes reader.unread).1,
        ⟨(parseFrame maxFrameBytes reader.unread).2, later⟩) := by
  obtain ⟨stream, reads⟩ := reader
  have first : (⟨stream, reads⟩ : Reader).read chunk 1 = (stream.take 1, ⟨stream.drop 1, reads + 1⟩) := by
    have one : min 1 (max 1 (chunk reads)) = 1 := by omega
    simp only [Reader.read, one]
  unfold readFrame parseFrame
  simp only [first]
  cases stream with
  | nil => exact ⟨reads + 1, rfl⟩
  | cons byte rest =>
    simp only [List.take_succ_cons, List.take_zero, List.drop_succ_cons, List.drop_zero,
      reduceCtorEq, if_false, List.length_cons]
    rcases Reader.readExact_spec chunk 3 ⟨rest, reads + 1⟩ with ⟨enough, later, full⟩ | ⟨few, later, cut⟩
    · rw [full]
      have header : ¬ rest.length + 1 < 4 := by
        dsimp only at enough
        omega
      simp only [header, if_false, List.cons_append, List.nil_append]
      generalize ofBigEndian (byte :: rest.take 3) = length
      by_cases zero : length = 0
      · exact ⟨later, by simp only [zero, if_true]⟩
      by_cases large : maxFrameBytes < length
      · exact ⟨later, by simp only [zero, large, if_true, if_false]⟩
      simp only [zero, large, if_false]
      rcases Reader.readExact_spec chunk length ⟨rest.drop 3, later⟩ with
        ⟨enough, last, full⟩ | ⟨few, last, cut⟩
      · rw [full]
        dsimp only at enough
        exact ⟨last, by rw [if_neg (Nat.not_lt.mpr enough)]⟩
      · rw [cut]
        dsimp only at few
        exact ⟨last, by rw [if_pos few]⟩
    · dsimp only at few
      rw [cut, if_pos (by omega)]
      exact ⟨later, rfl⟩

section codec
variable {maxFrameBytes : Nat} {payload : List UInt8}

def frame (payload : List UInt8) : List UInt8 := bigEndian 4 payload.length ++ payload

theorem take_frame (payload rest : List UInt8) :
    (frame payload ++ rest).take 4 = bigEndian 4 payload.length := by
  rw [frame, List.append_assoc, List.take_left' (length_bigEndian 4 _)]

theorem drop_frame (payload rest : List UInt8) : (frame payload ++ rest).drop 4 = payload ++ rest := by
  rw [frame, List.append_assoc, List.drop_left' (length_bigEndian 4 _)]

theorem length_frame (payload : List UInt8) : (frame payload).length = 4 + payload.length := by
  rw [frame, List.length_append, length_bigEndian]

theorem frame_ne_nil (payload : List UInt8) : frame payload ≠ [] := by
  apply List.ne_nil_of_length_pos
  rw [length_frame]
  omega

theorem writeFrameTo_fits (narrow : maxFrameBytes < 2 ^ 32) (present : 1 ≤ payload.length)
    (small : payload.length ≤ maxFrameBytes) (writer : List UInt8) :
    writeFrameTo writer payload maxFrameBytes = (.ok (), writer ++ frame payload) := by
  have some_byte : payload.isEmpty = false := List.isEmpty_eq_false_iff.mpr (List.ne_nil_of_length_pos present)
  have refused : ¬ (payload.isEmpty = true ∨ maxFrameBytes < payload.length) := by
    simp [some_byte, small]
  rw [writeFrameTo, if_neg refused, if_neg (by omega), frame, List.append_assoc]

theorem writeFrameTo_refused (other : ¬ (1 ≤ payload.length ∧ payload.length ≤ maxFrameBytes))
    (writer : List UInt8) :
    writeFrameTo writer payload maxFrameBytes = (.error .frameTooLarge, writer) := by
  have refused : payload.isEmpty = true ∨ maxFrameBytes < payload.length := by
    rw [List.isEmpty_iff, ← List.length_eq_zero_iff]
    omega
  rw [writeFrameTo, if_pos refused]

theorem parseFrame_frame (narrow : maxFrameBytes < 2 ^ 32) (present : 1 ≤ payload.length)
    (small : payload.length ≤ maxFrameBytes) (rest : List UInt8) :
    parseFrame maxFrameBytes (frame payload ++ rest) = (.ok (some payload), rest) := by
  have length : ofBigEndian (bigEndian 4 payload.length) = payload.length :=
    ofBigEndian_bigEndian (by omega)
  have long : 4 ≤ (frame payload ++ rest).length := by
    rw [List.length_append, length_frame]
    omega
  have some_byte : frame payload ++ rest ≠ [] := List.ne_nil_of_length_pos (by omega)
  rw [parseFrame, if_neg some_byte, if_neg (Nat.not_lt.mpr long), take_frame, drop_frame, length,
    if_neg (by omega), if_neg (by omega), if_neg (by rw [List.length_append]; omega),
    List.take_left, List.drop_left]

theorem parseFrame_some {stream : List UInt8}
    (parsed : (parseFrame maxFrameBytes stream).1 = .ok (some payload)) :
    1 ≤ payload.length ∧ payload.length ≤ maxFrameBytes ∧ frame payload <+: stream := by
  unfold parseFrame at parsed
  split at parsed
  · cases parsed
  split at parsed
  · cases parsed
  rename_i long
  split at parsed
  · cases parsed
  rename_i positive
  split at parsed
  · cases parsed
  rename_i small
  split at parsed
  · cases parsed
  rename_i enough
  cases Option.some.inj (Except.ok.inj parsed)
  have length : ((stream.drop 4).take (ofBigEndian (stream.take 4))).length =
      ofBigEndian (stream.take 4) := by
    rw [List.length_take]
    omega
  have header : bigEndian 4 (ofBigEndian (stream.take 4)) = stream.take 4 := by
    have four : (stream.take 4).length = 4 := by
      rw [List.length_take]
      omega
    have back := bigEndian_ofBigEndian (stream.take 4)
    rwa [four] at back
  refine ⟨by omega, by omega, (stream.drop 4).drop (ofBigEndian (stream.take 4)), ?_⟩
  rw [frame, length, header, List.append_assoc, List.take_append_drop, List.take_append_drop]

theorem parseFrame_none {stream : List UInt8}
    (closed : (parseFrame maxFrameBytes stream).1 = .ok none) : stream = [] := by
  unfold parseFrame at closed
  split at closed
  · assumption
  · repeat (split at closed; · cases closed)
    cases closed

theorem parseFrame_large {stream : List UInt8} (long : 4 ≤ stream.length)
    (large : maxFrameBytes < ofBigEndian (stream.take 4)) :
    parseFrame maxFrameBytes stream = (.error .frameTooLarge, stream.drop 4) := by
  have some_byte : stream ≠ [] := List.ne_nil_of_length_pos (by omega)
  rw [parseFrame, if_neg some_byte, if_neg (Nat.not_lt.mpr long), if_neg (by omega), if_pos large]

theorem parseFrame_cut (narrow : maxFrameBytes < 2 ^ 32) (small : payload.length ≤ maxFrameBytes)
    {cut : List UInt8} (start : cut <+: frame payload) (some_byte : cut ≠ [])
    (proper : cut ≠ frame payload) : (parseFrame maxFrameBytes cut).1 = .error .protocol := by
  obtain ⟨missing, whole⟩ := start
  have missed : missing ≠ [] := by
    rintro rfl
    exact proper (by rw [← whole, List.append_nil])
  have count : cut.length + missing.length = 4 + payload.length := by
    rw [← List.length_append, whole, length_frame]
  have lost : 0 < missing.length := List.length_pos_iff.mpr missed
  unfold parseFrame
  rw [if_neg some_byte]
  split
  · rfl
  rename_i long
  have header : cut.take 4 = bigEndian 4 payload.length := by
    have taken := take_frame payload []
    rw [List.append_nil, ← whole, List.take_append_of_le_length (by omega)] at taken
    exact taken
  have length : ofBigEndian (cut.take 4) = payload.length := by
    rw [header]
    exact ofBigEndian_bigEndian (by omega)
  rw [length]
  split
  · rfl
  · rw [if_neg (by omega), if_pos (by rw [List.length_drop]; omega)]

end codec

/-- The frame codec, for every way in which the stream is split into reads. -/
theorem frame_codec {maxFrameBytes : Nat} (narrow : maxFrameBytes < 2 ^ 32) :
    (∀ payload writer : List UInt8, 1 ≤ payload.length ∧ payload.length ≤ maxFrameBytes →
      ∃ emitted, writeFrameTo writer payload maxFrameBytes = (.ok (), writer ++ emitted) ∧
        ∀ (rest : List UInt8) (chunk : Nat → Nat) (reads : Nat), ∃ later,
          readFrame chunk maxFrameBytes ⟨emitted ++ rest, reads⟩ =
            (.ok (some payload), ⟨rest, later⟩)) ∧
    (∀ payload writer : List UInt8, ¬ (1 ≤ payload.length ∧ payload.length ≤ maxFrameBytes) →
      writeFrameTo writer payload maxFrameBytes = (.error .frameTooLarge, writer)) ∧
    (∀ (stream payload : List UInt8) (chunk : Nat → Nat) (reads : Nat),
      (readFrame chunk maxFrameBytes ⟨stream, reads⟩).1 = .ok (some payload) →
      1 ≤ payload.length ∧ payload.length ≤ maxFrameBytes ∧
        (writeFrameTo [] payload maxFrameBytes).2 <+: stream) ∧
    (∀ (stream : List UInt8) (chunk : Nat → Nat) (reads : Nat),
      (readFrame chunk maxFrameBytes ⟨stream, reads⟩).1 = .ok none → stream = []) ∧
    (∀ (payload cut : List UInt8) (chunk : Nat → Nat) (reads : Nat),
      (writeFrameTo [] payload maxFrameBytes).1 = .ok () →
      cut <+: (writeFrameTo [] payload maxFrameBytes).2 → cut ≠ [] →
      cut ≠ (writeFrameTo [] payload maxFrameBytes).2 →
      (readFrame chunk maxFrameBytes ⟨cut, reads⟩).1 = .error .protocol) ∧
    (∀ (stream : List UInt8) (chunk : Nat → Nat) (reads : Nat), 4 ≤ stream.length →
      maxFrameBytes < ofBigEndian (stream.take 4) →
      ∃ later, readFrame chunk maxFrameBytes ⟨stream, reads⟩ =
        (.error .frameTooLarge, ⟨stream.drop 4, later⟩)) := by
  have written : ∀ payload : List UInt8, 1 ≤ payload.length → payload.length ≤ maxFrameBytes →
      writeFrameTo [] payload maxFrameBytes = (.ok (), frame payload) := by
    intro payload present small
    rw [writeFrameTo_fits narrow present small, List.nil_append]
  refine ⟨?_, fun payload writer other => writeFrameTo_refused other writer, ?_, ?_, ?_, ?_⟩
  · rintro payload writer ⟨present, small⟩
    refine ⟨frame payload, writeFrameTo_fits narrow present small writer, fun rest chunk reads => ?_⟩
    obtain ⟨later, read⟩ := readFrame_eq chunk maxFrameBytes ⟨frame payload ++ rest, reads⟩
    rw [parseFrame_frame narrow present small rest] at read
    exact ⟨later, read⟩
  · intro stream payload chunk reads accepted
    obtain ⟨later, read⟩ := readFrame_eq chunk maxFrameBytes ⟨stream, reads⟩
    rw [read] at accepted
    obtain ⟨present, small, start⟩ := parseFrame_some accepted
    rw [written payload present small]
    exact ⟨present, small, start⟩
  · intro stream chunk reads closed
    obtain ⟨later, read⟩ := readFrame_eq chunk maxFrameBytes ⟨stream, reads⟩
    rw [read] at closed
    exact parseFrame_none closed
  · intro payload cut chunk reads accepted start some_byte proper
    have sized : 1 ≤ payload.length ∧ payload.length ≤ maxFrameBytes := by
      by_contra other
      rw [writeFrameTo_refused other] at accepted
      cases accepted
    rw [written payload sized.1 sized.2] at start proper
    obtain ⟨later, read⟩ := readFrame_eq chunk maxFrameBytes ⟨cut, reads⟩
    rw [read]
    exact parseFrame_cut narrow sized.2 start some_byte proper
  · intro stream chunk reads long large
    obtain ⟨later, read⟩ := readFrame_eq chunk maxFrameBytes ⟨stream, reads⟩
    rw [parseFrame_large long large] at read
    exact ⟨later, read⟩

theorem frame_codec_short :
    (∃ emitted, writeFrameTo [] [104, 105] 1024 = (.ok (), [] ++ emitted) ∧
      ∀ (rest : List UInt8) (chunk : Nat → Nat) (reads : Nat), ∃ later,
        readFrame chunk 1024 ⟨emitted ++ rest, reads⟩ = (.ok (some [104, 105]), ⟨rest, later⟩)) ∧
    writeFrameTo [] [104, 105] 1024 = (.ok (), [0, 0, 0, 2, 104, 105]) :=
  ⟨(frame_codec (by decide)).1 [104, 105] [] (by decide), by decide⟩

end AiOs.LocalApi
