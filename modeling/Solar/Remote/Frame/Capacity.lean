/-
This file compares the receive buffers with the frames they are made for. Stuffing adds
a byte for each 254 bytes without a zero, while the buffers have a constant number of
bytes to spare, so from some size on there are frames that do not fit.

The high byte of the header size is zero in every frame, which leaves the bytes behind it
as the longest run without a zero; a frame is built whose bytes there are all different
from zero, its checksum included.
-/

import Solar.Remote.Frame.Checksum

namespace Solar.Remote

open List

open Solar.Remote.Frame (Encodes content encodeEnvelope)

/-! ### The decoders -/

/-- The decoder of `Client`. -/
abbrev ClientDecoder (maximumFrameSize : Nat) : Type := Host.FrameDecoder (maximumFrameSize + 16)

/-- `LinkState::decoder`. -/
abbrev LinkDecoder (maxFrameBytes : Nat) : Type := StreamDecoder (maxFrameBytes + 32) maxFrameBytes

/-- Neither decoder counts the bytes of a frame as overflowed, if they start with the frame. -/
def FrameFits (maximumFrameSize : Nat) (bytes : Bytes) : Prop :=
  (∀ decoder : ClientDecoder maximumFrameSize, decoder.scanner = {} →
      (decoder.feed bytes).1.overflowed = decoder.overflowed) ∧
    ∀ decoder : LinkDecoder maximumFrameSize, decoder.scanner = {} →
      (decoder.feed bytes).record.overflowed = 0

variable {body : Bytes}

theorem Host.FrameDecoder.overflowed_feed {maximum : Nat} {decoder : Host.FrameDecoder maximum}
    (idle : decoder.scanner = {}) (nonzero : 0 ∉ body) (something : body ≠ []) :
    (decoder.feed (body ++ [0])).1.overflowed =
      decoder.overflowed + if maximum < body.length then 1 else 0 := by
  have room : decoder.pending.length ≤ maximum := by
    have empty : decoder.pending = [] := congrArg Delimited.Scanner.pending idle
    rw [empty]
    exact Nat.zero_le _
  have closed : (({} : Delimited.Scanner UInt8).scan maximum 0 (body ++ [0])).2 = _ :=
    (Delimited.Scanner.holds_nil maximum).scan_snd (body ++ [0])
  have bodies : Delimited.bodiesFrom 0 [] (body ++ [0]) = [body] :=
    Delimited.bodiesFrom_append_mark [] [] nonzero something
  rw [(Host.FrameDecoder.feed_eq room _).2.2, idle, closed, bodies, map_singleton, Delimited.within]
  by_cases long : maximum < body.length
  · rw [if_pos long, if_pos long]
    rfl
  · rw [if_neg long, if_neg long]
    rfl

theorem StreamDecoder.overflowed_feed {maxEncoded maxDecoded : Nat}
    {decoder : StreamDecoder maxEncoded maxDecoded} (idle : decoder.scanner = {})
    (nonzero : 0 ∉ body) (something : body ≠ []) :
    (decoder.feed (body ++ [0])).record.overflowed = if maxEncoded < body.length then 1 else 0 := by
  have bodies : Delimited.bodies 0 (body ++ [0]) = [body] :=
    Delimited.bodiesFrom_append_mark [] [] nonzero something
  unfold StreamDecoder.feed
  rw [StreamDecoder.overflowed_foldl_count, decoder.scan_bodies idle, bodies, map_singleton,
    Nat.zero_add, Delimited.within]
  by_cases long : maxEncoded < body.length
  · rw [if_pos long, if_pos long]
    rfl
  · rw [if_neg long, if_neg long, StreamDecoder.outcome]
    cases Frame.decode body maxDecoded <;> rfl

theorem frameFits_iff {maximumFrameSize : Nat} (nonzero : 0 ∉ body) (something : body ≠ []) :
    FrameFits maximumFrameSize (body ++ [0]) ↔ body.length ≤ maximumFrameSize + 16 := by
  constructor
  · rintro ⟨client, -⟩
    have fed := client {} rfl
    rw [Host.FrameDecoder.overflowed_feed rfl nonzero something] at fed
    by_contra long
    rw [if_pos (Nat.not_le.mp long)] at fed
    cases fed
  · intro fits
    refine ⟨fun decoder idle => ?_, fun decoder idle => ?_⟩
    · rw [Host.FrameDecoder.overflowed_feed idle nonzero something,
        if_neg fits.not_gt, Nat.add_zero]
    · rw [StreamDecoder.overflowed_feed idle nonzero something, if_neg (by omega)]

/-! ### The longest encoding -/

variable {header : Bytes}

theorem exists_header_zero {envelope : Envelope} (written : encodeEnvelope envelope = .ok header) :
    ∃ before after : Bytes, header = before ++ 0 :: after ∧ before.length = 5 ∧
      after.length = 26 := by
  unfold encodeEnvelope at written
  split at written
  · cases written
    exact ⟨[envelope.major, envelope.minor, envelope.kind.code, envelope.flags, 32], _, rfl, rfl,
      rfl⟩
  · cases written

theorem length_encode_content_le {envelope : Envelope} (payload : Bytes)
    (written : encodeEnvelope envelope = .ok header) :
    (Cobs.encode (content header payload)).length ≤
      payload.length + 37 + (payload.length + 30) / 254 := by
  obtain ⟨before, after, rfl, short, later⟩ := exists_header_zero written
  have split : content (before ++ 0 :: after) payload =
      before ++ 0 :: (after ++ payload ++ putU32 (Frame.crc32c (before ++ 0 :: after ++ payload))) := by
    rw [content]
    simp
  have size : (after ++ payload ++ putU32 (Frame.crc32c (before ++ 0 :: after ++ payload))).length =
      payload.length + 30 := by
    rw [length_append, length_append, later]
    change 26 + payload.length + 4 = payload.length + 30
    omega
  have first := Cobs.length_encode_le before
  have rest := Cobs.length_encode_le
    (after ++ payload ++ putU32 (Frame.crc32c (before ++ 0 :: after ++ payload)))
  rw [split, Cobs.length_encode_zero]
  omega

/-! ### A frame without zeros -/

/-- An envelope whose bytes behind the header size are no zeros, but for those of the payload
size. -/
def denseEnvelope (size : Nat) : Envelope where
  kind := .data
  flags := Flags.fragmented
  sessionEpoch := 0x01010101
  frameSequence := 0x01010101
  target := 0x01010101
  requestId := 0x01010101
  payloadSize := UInt16.ofNat size
  fragmentId := 0x0101
  fragmentIndex := 1
  fragmentCount := 2
  reserved := 0x01010101

def denseHeader (size : Nat) : Bytes :=
  [1, 2, 11, 1, 32] ++ 0 :: (replicate 16 1 ++ putU16 (UInt16.ofNat size) ++
    [1, 1, 1, 2, 1, 1, 1, 1])

theorem isValid_dense {size : Nat} : Frame.Envelope.isValid (denseEnvelope size) = true := by
  have flags : Flags.fragmented &&& 0xF0 = 0 := by decide
  simp [Frame.Envelope.isValid, denseEnvelope, flags]

theorem encodeEnvelope_dense {size : Nat} :
    encodeEnvelope (denseEnvelope size) = .ok (denseHeader size) := by
  rw [encodeEnvelope, if_pos isValid_dense]
  dsimp only [denseEnvelope]
  rfl

variable {size : Nat}

theorem exists_dense_payload (long : 4 ≤ size) :
    ∃ payload : Bytes, payload.length = size ∧ 0 ∉ payload ∧
      0 ∉ putU32 (Frame.crc32c (header ++ payload)) := by
  have ones : (0 : UInt8) ∉ replicate (size - 4) 1 := fun zero =>
    absurd (eq_of_mem_replicate zero) (by decide)
  obtain ⟨tail, four, clean, checked⟩ := exists_zero_free
  refine ⟨replicate (size - 4) 1 ++ tail, ?_, ?_, ?_⟩
  · rw [length_append, length_replicate]
    omega
  · exact fun zero => (mem_append.mp zero).elim ones clean
  · rw [Frame.crc32c, ← append_assoc, foldl_append]
    exact checked

theorem toNat_putU16 (small : size < 65536) :
    (UInt16.ofNat size).toUInt8.toNat = size % 256 ∧
      ((UInt16.ofNat size) >>> 8).toUInt8.toNat = size / 256 := by
  have value : (UInt16.ofNat size).toNat = size := by
    exact Nat.mod_eq_of_lt small
  constructor
  · rw [UInt16.toNat_toUInt8, value]
  · rw [UInt16.toNat_toUInt8, UInt16.toNat_shiftRight, value]
    rw [Nat.shiftRight_eq_div_pow]
    exact Nat.mod_eq_of_lt (Nat.div_lt_of_lt_mul small)

theorem zero_not_mem_putU16 (small : size < 65536) (large : 256 ≤ size) (rest : size % 256 ≠ 0) :
    0 ∉ putU16 (UInt16.ofNat size) := by
  obtain ⟨low, high⟩ := toNat_putU16 small
  rintro zero
  rcases mem_pair.mp zero with equal | equal
  · have value := congrArg UInt8.toNat equal
    rw [low] at value
    exact rest value.symm
  · have value := congrArg UInt8.toNat equal
    rw [high] at value
    exact absurd value (Nat.div_pos large (by decide)).ne

theorem putU16_multiple (small : size < 65536) (large : 256 ≤ size) (rest : size % 256 = 0) :
    ∃ high, putU16 (UInt16.ofNat size) = [0, high] ∧ high ≠ 0 := by
  obtain ⟨low, high⟩ := toNat_putU16 small
  refine ⟨_, congrArg (· :: _) (UInt8.toNat_inj.mp (low.trans rest)), fun equal => ?_⟩
  have value := congrArg UInt8.toNat equal
  rw [high] at value
  exact absurd value (Nat.div_pos large (by decide)).ne'

theorem length_encode_run (before : Bytes) {run : Bytes} (nonzero : 0 ∉ run) :
    before.length + 1 + (run.length + run.length / 254 + 1) ≤
      (Cobs.encode (before ++ 0 :: run)).length := by
  rw [Cobs.length_encode_zero, Cobs.length_encode_nonzero nonzero]
  have first := Cobs.length_lt_encode before
  omega

/-- For each payload size from 256 on there is a frame that is stuffed to this length. -/
theorem exists_dense_frame (small : size < 65536) (large : 256 ≤ size) :
    ∃ (bytes : Bytes) (frame : Decoded), Encodes bytes frame ∧ frame.payload.length = size ∧
      size + 38 + (size + if size % 256 = 0 then 13 else 30) / 254 ≤ bytes.length := by
  obtain ⟨payload, sized, clean, checked⟩ :=
    exists_dense_payload (Nat.le_trans (by decide) large)
  have short : payload.length ≤ 65535 := by omega
  obtain ⟨bytes, encodes, -⟩ := Frame.exists_encodes ⟨denseEnvelope size, payload⟩
    isValid_dense short (by rw [sized]; rfl)
  refine ⟨bytes, _, encodes, sized, ?_⟩
  obtain ⟨header, written, -, rfl⟩ := encodes.content
  obtain rfl : denseHeader size = header :=
    Except.ok.inj (encodeEnvelope_dense.symm.trans written)
  have crc : (putU32 (Frame.crc32c (denseHeader size ++ payload))).length = 4 := rfl
  rw [length_append]
  change _ ≤ (Cobs.encode (content (denseHeader size) payload)).length + 1
  generalize sum : putU32 (Frame.crc32c (denseHeader size ++ payload)) = checksum at checked crc
  have ones (count : Nat) : (0 : UInt8) ∉ replicate count 1 := fun zero =>
    absurd (eq_of_mem_replicate zero) (by decide)
  have fields : (0 : UInt8) ∉ [1, 1, 1, 2, 1, 1, 1, 1] := by decide
  by_cases rest : size % 256 = 0
  · obtain ⟨high, word, nonzero⟩ := putU16_multiple small large rest
    have split : content (denseHeader size) payload =
        ([1, 2, 11, 1, 32] ++ 0 :: replicate 16 1) ++
          0 :: ([high, 1, 1, 1, 2, 1, 1, 1, 1] ++ payload ++ checksum) := by
      rw [content, sum, denseHeader, word]
      simp
    have run : (0 : UInt8) ∉ [high, 1, 1, 1, 2, 1, 1, 1, 1] ++ payload ++ checksum := by
      simp only [mem_append, mem_cons, not_or]
      exact ⟨⟨⟨Ne.symm nonzero, by decide⟩, clean⟩, checked⟩
    have total : ([high, 1, 1, 1, 2, 1, 1, 1, 1] ++ payload ++ checksum).length = size + 13 := by
      simp only [length_append, length_cons, length_nil, sized, crc]
      omega
    have bound := length_encode_run ([1, 2, 11, 1, 32] ++ 0 :: replicate 16 1) run
    rw [← split] at bound
    simp only [length_append, length_cons, length_nil, length_replicate] at bound
    rw [if_pos rest]
    omega
  · have word := zero_not_mem_putU16 small large rest
    have split : content (denseHeader size) payload =
        [1, 2, 11, 1, 32] ++ 0 :: (replicate 16 1 ++ putU16 (UInt16.ofNat size) ++
          [1, 1, 1, 2, 1, 1, 1, 1] ++ payload ++ checksum) := by
      rw [content, sum, denseHeader]
      simp
    have run : (0 : UInt8) ∉ replicate 16 1 ++ putU16 (UInt16.ofNat size) ++
        [1, 1, 1, 2, 1, 1, 1, 1] ++ payload ++ checksum := by
      simp only [mem_append, not_or]
      exact ⟨⟨⟨⟨ones 16, word⟩, fields⟩, clean⟩, checked⟩
    have two : (putU16 (UInt16.ofNat size)).length = 2 := rfl
    have total : (replicate 16 1 ++ putU16 (UInt16.ofNat size) ++
        [1, 1, 1, 2, 1, 1, 1, 1] ++ payload ++ checksum).length = size + 30 := by
      simp only [length_append, length_cons, length_nil, length_replicate, sized, crc, two]
      omega
    have bound := length_encode_run [1, 2, 11, 1, 32] run
    rw [← split] at bound
    simp only [length_cons, length_nil] at bound
    rw [if_neg rest]
    omega

/-! ### Which sizes are safe -/

/-- The receive buffers have room for every frame up to the maximum exactly if the maximum is below
4070, or beyond the largest frame there is by more than its stuffing. -/
theorem frames_fit_iff (maximumFrameSize : Nat) :
    (∀ (bytes : Bytes) (frame : Decoded), Encodes bytes frame →
        envelopeSize + frame.payload.length + crcSize ≤ maximumFrameSize →
        FrameFits maximumFrameSize bytes) ↔
      maximumFrameSize < 4070 ∨ 65814 ≤ maximumFrameSize := by
  have stuffed {bytes : Bytes} {frame : Decoded} (encodes : Encodes bytes frame) :
      (FrameFits maximumFrameSize bytes ↔ bytes.length ≤ maximumFrameSize + 17) ∧
        bytes.length ≤ frame.payload.length + 38 + (frame.payload.length + 30) / 254 ∧
        frame.payload.length ≤ 65535 := by
    obtain ⟨header, written, sized, rfl⟩ := encodes.content
    have longest := length_encode_content_le frame.payload written
    have word := frame.envelope.payloadSize.toNat_lt
    rw [frameFits_iff (Cobs.zero_not_mem_encode _) (Cobs.encode_ne_nil _), length_append,
      length_singleton]
    omega
  constructor
  · intro fits
    by_contra outside
    obtain ⟨bytes, frame, encodes, sized, long⟩ :=
      @exists_dense_frame (min (maximumFrameSize - 36) 65535) (by omega) (by omega)
    have fit := fits bytes frame encodes (by
      rw [sized]
      change 32 + min (maximumFrameSize - 36) 65535 + 4 ≤ maximumFrameSize
      omega)
    have enough := (stuffed encodes).1.mp fit
    split at long <;> omega
  · intro bounds bytes frame encodes short
    obtain ⟨fits, longest, limit⟩ := stuffed encodes
    rw [fits]
    change 32 + frame.payload.length + 4 ≤ maximumFrameSize at short
    omega

/-- With a maximum of 4070 there is a frame that both ends may send and the host drops. -/
theorem frame_overflows :
    ∃ (bytes : Bytes) (frame : Decoded), Encodes bytes frame ∧
      envelopeSize + frame.payload.length + crcSize ≤ 4070 ∧
      (({} : ClientDecoder 4070).feed bytes).1.overflowed = 1 := by
  obtain ⟨bytes, frame, encodes, sized, long⟩ := @exists_dense_frame 4034 (by decide) (by decide)
  refine ⟨bytes, frame, encodes, by rw [sized]; decide, ?_⟩
  obtain ⟨header, written, -, rfl⟩ := encodes.content
  rw [Host.FrameDecoder.overflowed_feed rfl (Cobs.zero_not_mem_encode _) (Cobs.encode_ne_nil _),
    if_pos]
  rw [length_append, length_singleton, if_neg (by decide)] at long
  omega

end Solar.Remote
