/-
This file models the frame codec of the firmware as its host build has it: the
CRC, byte stuffing into and out of caller-owned buffers, the 32-byte envelope,
and `encode` and `decode` over them.

The encoder patches the head of a block after the block is written, so the model
writes into the output buffer at the indices the source uses. A write outside of
the buffer has no result, `none`, and the round trip proves that it never happens.
-/

import Solar.Library.Cobs
import Solar.Remote.Protocol

namespace Solar.Remote

open Function
open List hiding pure_def
open Option hiding pure_def

/-- Why a frame is not encoded or decoded. -/
inductive FrameFailure
  | noSpace | malformed | oversized | invalidValue | unsupportedVersion | unsupportedKind
  | integrityFailure
  deriving DecidableEq

namespace Frame

def maxEncodedSize (decodedSize : Nat) : Nat := decodedSize + decodedSize / 254 + 2

/-! ### Integrity -/

/-- One bit of the reflected CRC. -/
def crcBit (crc : UInt32) : UInt32 := (crc >>> 1) ^^^ (0x82F63B78 &&& (0 - (crc &&& 1)))

def crcByte (crc : UInt32) (byte : UInt8) : UInt32 := Nat.iterate crcBit 8 (crc ^^^ byte.toUInt32)

def crc32c (input : Bytes) : UInt32 := ~~~(input.foldl crcByte 0xFFFFFFFF)

/-! ### Byte stuffing -/

/-- Write one byte of a buffer. -/
def store? (buffer : Bytes) (index : Nat) (byte : UInt8) : Option Bytes :=
  if index < buffer.length then some (buffer.set index byte) else none

/-- The locals of `cobs_encode`. -/
structure CobsEncoder where
  output : Bytes
  write : Nat := 1
  codeIndex : Nat := 0
  code : UInt8 := 1

/-- One round of the loop of `cobs_encode`. -/
def CobsEncoder.put (encoder : CobsEncoder) (byte : UInt8) : Option CobsEncoder :=
  if byte = 0 then
    (store? encoder.output encoder.codeIndex encoder.code).map fun output =>
      { output, write := encoder.write + 1, codeIndex := encoder.write, code := 1 }
  else
    (store? encoder.output encoder.write byte).bind fun output =>
      if encoder.code + 1 = 0xFF then
        (store? output encoder.codeIndex (encoder.code + 1)).map fun output =>
          { output, write := encoder.write + 2, codeIndex := encoder.write + 1, code := 1 }
      else
        some { encoder with output, write := encoder.write + 1, code := encoder.code + 1 }

/-- The end of `cobs_encode`: the last block is closed and the delimiter is written. -/
def CobsEncoder.finish (encoder : CobsEncoder) : Option (Bytes × Nat) :=
  (store? encoder.output encoder.codeIndex encoder.code).bind fun output =>
    (store? output encoder.write 0).map fun output => (output, encoder.write + 1)

/-- `cobs_encode`: the buffer afterwards and the number of bytes written to it. -/
def cobsEncode (input output : Bytes) : Option (Except FrameFailure (Bytes × Nat)) :=
  if output.length < maxEncodedSize input.length then some (.error .noSpace)
  else ((input.foldlM CobsEncoder.put { output }).bind CobsEncoder.finish).map .ok

/-- The loop of `cobs_decode`, over the bytes still to be read and those written so far. Every
round reads a byte, so there are no more rounds than bytes. -/
def cobsDecodeLoop (capacity : Nat) : Nat → Bytes → Bytes → Except FrameFailure Bytes
  | _, [], written => .ok written
  | 0, _ :: _, _ => .error .malformed
  | rounds + 1, code :: rest, written =>
      let size := code.toNat - 1
      if code = 0 ∨ rest.length < size then .error .malformed
      else if written.length + size > capacity then .error .noSpace
      else
        let copied := written ++ rest.take size
        if code ≠ 255 ∧ rest.drop size ≠ [] then
          if copied.length = capacity then .error .noSpace
          else cobsDecodeLoop capacity rounds (rest.drop size) (copied ++ [0])
        else cobsDecodeLoop capacity rounds (rest.drop size) copied

/-- A delimiter at the end is not part of the encoding. -/
def withoutDelimiter (input : Bytes) : Bytes :=
  if input.getLast? = some 0 then input.dropLast else input

/-- `cobs_decode` into a buffer of the given size. -/
def cobsDecode (input : Bytes) (capacity : Nat) : Except FrameFailure Bytes :=
  let body := withoutDelimiter input
  cobsDecodeLoop capacity body.length body []

/-! ### Envelopes -/

/-- What `encode` asks of an envelope besides a declared kind. -/
def Envelope.isValid (envelope : Envelope) : Bool :=
  envelope.major = 1 && (envelope.flags &&& 0xF0) = 0 && envelope.fragmentCount ≠ 0 &&
    envelope.fragmentIndex < envelope.fragmentCount

def encodeEnvelope (envelope : Envelope) : Except FrameFailure Bytes :=
  if Envelope.isValid envelope then
    .ok ([envelope.major, envelope.minor, envelope.kind.code, envelope.flags] ++
      putU16 (UInt16.ofNat envelopeSize) ++ putU32 envelope.sessionEpoch ++
      putU32 envelope.frameSequence ++ putU32 envelope.target ++ putU32 envelope.requestId ++
      putU16 envelope.payloadSize ++ putU16 envelope.fragmentId ++
      [envelope.fragmentIndex, envelope.fragmentCount] ++ putU32 envelope.reserved)
  else .error .invalidValue

def decodeEnvelope (input : Bytes) : Except FrameFailure Envelope :=
  if input.length < envelopeSize then .error .malformed
  else if input.getD 0 0 ≠ 1 ∨ getU16 input 4 ≠ UInt16.ofNat envelopeSize then
    .error .unsupportedVersion
  else
    match Kind.ofCode? (input.getD 2 0) with
    | none => .error .unsupportedKind
    | some kind =>
        let envelope : Envelope := {
          major := input.getD 0 0
          minor := input.getD 1 0
          kind
          flags := input.getD 3 0
          sessionEpoch := getU32 input 6
          frameSequence := getU32 input 10
          target := getU32 input 14
          requestId := getU32 input 18
          payloadSize := getU16 input 22
          fragmentId := getU16 input 24
          fragmentIndex := input.getD 26 0
          fragmentCount := input.getD 27 0
          reserved := getU32 input 28 }
        if envelope.flags &&& 0xF0 ≠ 0 ∨ envelope.fragmentCount = 0 ∨
            envelope.fragmentIndex ≥ envelope.fragmentCount then .error .malformed
        else .ok envelope

/-! ### Frames -/

/-- `encode` with a scratch buffer of the given size. -/
def encode (authored : Envelope) (payload : Bytes) (scratch : Nat) (output : Bytes) :
    Option (Except FrameFailure (Bytes × Nat)) :=
  if payload.length > 65535 ∨ scratch < envelopeSize + payload.length + crcSize then
    some (.error .oversized)
  else
    match encodeEnvelope { authored with payloadSize := UInt16.ofNat payload.length } with
    | .error failure => some (.error failure)
    | .ok header =>
        let content := header ++ payload
        cobsEncode (content ++ putU32 (crc32c content)) output

/-- `decode` with a scratch buffer of the given size. -/
def decode (encoded : Bytes) (scratch : Nat) : Except FrameFailure Decoded :=
  match cobsDecode encoded scratch with
  | .error failure => .error failure
  | .ok decoded =>
      if decoded.length < envelopeSize + crcSize then .error .malformed
      else
        let size := decoded.length - crcSize
        if crc32c (decoded.take size) ≠ getU32 decoded size then .error .integrityFailure
        else
          match decodeEnvelope (decoded.take envelopeSize) with
          | .error failure => .error failure
          | .ok envelope =>
              if envelope.payloadSize.toNat ≠ size - envelopeSize then .error .malformed
              else
                .ok ⟨envelope, (decoded.drop envelopeSize).take envelope.payloadSize.toNat⟩

/-! ### Byte stuffing is the library's -/

theorem store?_append (before after : Bytes) (old byte : UInt8) :
    store? (before ++ old :: after) before.length byte = some (before ++ byte :: after) := by
  have bound : before.length < (before ++ old :: after).length := by
    rw [length_append, length_cons]
    omega
  rw [store?, if_pos bound, set_append_right _ _ le_rfl, Nat.sub_self, set_cons_zero]

/-- The encoder between two rounds: some blocks are done, the head of the open one is not written,
and its bytes stand behind that head. -/
structure CobsEncoder.Holds (encoder : CobsEncoder) (blocks run rest : Bytes) : Prop where
  output : ∃ head, encoder.output = blocks ++ head :: (run ++ rest)
  codeIndex : encoder.codeIndex = blocks.length
  write : encoder.write = blocks.length + (run.length + 1)
  code : encoder.code = UInt8.ofNat (run.length + 1)
  short : run.length ≤ 253

theorem store?_behind (blocks run after : Bytes) (head old byte : UInt8) :
    store? (blocks ++ head :: (run ++ old :: after)) (blocks.length + (run.length + 1)) byte =
      some (blocks ++ head :: (run ++ byte :: after)) := by
  have stored := store?_append (blocks ++ head :: run) after old byte
  rw [length_append, length_cons] at stored
  simpa only [append_assoc, cons_append] using stored

namespace CobsEncoder.Holds

variable {encoder : CobsEncoder} {blocks run rest : Bytes} {byte next : UInt8}

section

variable (holds : encoder.Holds blocks run (next :: rest))

include holds

theorem finish :
    encoder.finish = some (blocks ++ (UInt8.ofNat (run.length + 1) :: run) ++ 0 :: rest,
        blocks.length + (run.length + 1) + 1) := by
  rcases holds.output with ⟨head, output⟩
  rw [CobsEncoder.finish, output, holds.codeIndex, holds.code, holds.write, store?_append,
    bind_some, store?_behind, map_some]
  simp

theorem put_zero :
    ∃ following : CobsEncoder, encoder.put 0 = some following ∧
      following.Holds (blocks ++ UInt8.ofNat (run.length + 1) :: run) [] rest := by
  rcases holds.output with ⟨head, output⟩
  refine ⟨{
    output := blocks ++ UInt8.ofNat (run.length + 1) :: (run ++ next :: rest)
    write := encoder.write + 1
    codeIndex := encoder.write
    code := 1 }, ?_, ?_⟩
  · rw [CobsEncoder.put, if_pos rfl, output, holds.codeIndex, holds.code, store?_append, map_some]
  · refine ⟨⟨next, ?_⟩, ?_, ?_, rfl, Nat.zero_le _⟩
    · simp
    · rw [holds.write, length_append, length_cons]
    · simp [holds.write]

omit holds in
/-- A byte that fills the block closes it. -/
theorem put_full {following : UInt8}
    (holds : encoder.Holds blocks run (next :: following :: rest)) (nonzero : byte ≠ 0)
    (full : run.length + 1 = 254) :
    ∃ later : CobsEncoder, encoder.put byte = some later ∧
      later.Holds (blocks ++ 255 :: (run ++ [byte])) [] rest := by
  rcases holds.output with ⟨head, output⟩
  have written := holds.write
  have code : encoder.code + 1 = 255 := by
    rw [holds.code, full]
    rfl
  refine ⟨{
    output := blocks ++ 255 :: (run ++ byte :: following :: rest)
    write := encoder.write + 2
    codeIndex := encoder.write + 1
    code := 1 }, ?_, ?_⟩
  · rw [CobsEncoder.put, if_neg nonzero, output, holds.write, store?_behind, bind_some,
      if_pos code, holds.codeIndex, code, store?_append, map_some]
  · refine ⟨⟨following, ?_⟩, ?_, ?_, rfl, Nat.zero_le _⟩
    · simp
    · simp only [length_append, length_cons, length_nil]
      omega
    · simp only [length_append, length_cons, length_nil]
      omega

/-- Any other byte joins the block. -/
theorem put_partial (nonzero : byte ≠ 0) (partly : run.length + 1 ≠ 254) :
    ∃ following : CobsEncoder, encoder.put byte = some following ∧
      following.Holds blocks (run ++ [byte]) rest := by
  rcases holds.output with ⟨head, output⟩
  have written := holds.write
  have short := holds.short
  have code : encoder.code + 1 = UInt8.ofNat ((run ++ [byte]).length + 1) := by
    rw [holds.code, length_append, length_singleton, ← UInt8.ofNat_one, ← UInt8.ofNat_add]
  have open_ : encoder.code + 1 ≠ 255 := by
    rw [code, length_append, length_singleton]
    exact Cobs.ofNat_succ_ne_full (by omega)
  refine ⟨{ encoder with
    output := blocks ++ head :: (run ++ byte :: rest)
    write := encoder.write + 1
    code := encoder.code + 1 }, ?_, ?_⟩
  · rw [CobsEncoder.put, if_neg nonzero, output, holds.write, store?_behind, bind_some,
      if_neg open_]
  · refine ⟨⟨head, ?_⟩, holds.codeIndex, ?_, code, ?_⟩
    · simp
    · simp only [length_append, length_cons, length_nil]
      omega
    · rw [length_append, length_singleton]
      omega

end

/-- From here on the encoder writes what is left of the library's encoding and a zero. -/
theorem run_input (holds : encoder.Holds blocks run rest) {input : Bytes}
    (room : (Cobs.encodeFrom run input).length ≤ run.length + rest.length) :
    (input.foldlM CobsEncoder.put encoder).bind CobsEncoder.finish =
      some (blocks ++ Cobs.encodeFrom run input ++
          0 :: rest.drop ((Cobs.encodeFrom run input).length - run.length),
        blocks.length + (Cobs.encodeFrom run input).length + 1) := by
  induction input generalizing encoder blocks run rest with
  | nil =>
    rw [Cobs.encodeFrom, length_cons] at room ⊢
    cases rest with
    | nil => exact absurd room (Nat.not_succ_le_self _)
    | cons next rest =>
      rw [foldlM_nil, Option.pure_def, bind_some, holds.finish,
        Nat.add_sub_cancel_left, drop_one, tail_cons]
  | cons byte input ih =>
    rw [foldlM_cons]
    unfold Cobs.encodeFrom at room ⊢
    split at room
    · rename_i zero
      subst zero
      rw [if_pos rfl]
      rw [length_append, length_cons] at room
      cases rest with
      | nil => rw [length_nil] at room; omega
      | cons next rest =>
        rcases holds.put_zero with ⟨following, put, held⟩
        rw [length_cons] at room
        rw [put, bind_eq_bind, bind_some, ih held (by rw [length_nil]; omega)]
        have dropped : (UInt8.ofNat (run.length + 1) :: run ++ Cobs.encodeFrom [] input).length -
            run.length = (Cobs.encodeFrom [] input).length + 1 := by
          rw [length_append, length_cons]
          omega
        rw [dropped, drop_succ_cons]
        refine congrArg some (Prod.ext ?_ ?_)
        · simp
        · simp only [length_append, length_cons]
          omega
    · rename_i nonzero
      rw [if_neg nonzero]
      split at room
      · rename_i full
        rw [if_pos full]
        rw [length_append, length_cons, length_append, length_singleton] at room
        rcases rest with _ | ⟨next, _ | ⟨following, rest⟩⟩
        · rw [length_nil] at room; omega
        · rw [length_singleton] at room; omega
        · rcases holds.put_full nonzero full with ⟨later, put, held⟩
          rw [length_cons, length_cons] at room
          rw [put, bind_eq_bind, bind_some, ih held (by rw [length_nil]; omega)]
          have dropped : (255 :: (run ++ [byte]) ++ Cobs.encodeFrom [] input).length -
              run.length = (Cobs.encodeFrom [] input).length + 1 + 1 := by
            rw [length_append, length_cons, length_append, length_singleton]
            omega
          rw [dropped, drop_succ_cons, drop_succ_cons]
          refine congrArg some (Prod.ext ?_ ?_)
          · simp
          · simp only [length_append, length_cons]
            omega
      · rename_i partly
        rw [if_neg partly]
        have grown := Cobs.length_run_lt (run ++ [byte]) input
        rw [length_append, length_singleton] at grown
        cases rest with
        | nil => rw [length_nil] at room; omega
        | cons next rest =>
          rcases holds.put_partial nonzero partly with ⟨following, put, held⟩
          rw [length_cons] at room
          rw [put, bind_eq_bind, bind_some,
            ih held (by rw [length_append, length_singleton]; omega)]
          have dropped : (Cobs.encodeFrom (run ++ [byte]) input).length - run.length =
              (Cobs.encodeFrom (run ++ [byte]) input).length - (run ++ [byte]).length + 1 := by
            rw [length_append, length_singleton]
            omega
          rw [dropped, drop_succ_cons]

end CobsEncoder.Holds

/-- `cobs_encode` writes the library's encoding and a zero, and nothing behind them. -/
theorem cobsEncode_eq {input output : Bytes}
    (space : maxEncodedSize input.length ≤ output.length) :
    cobsEncode input output =
      some (.ok (Cobs.encode input ++ 0 :: output.drop ((Cobs.encode input).length + 1),
        (Cobs.encode input).length + 1)) := by
  have bound := Cobs.length_encode_le input
  rw [cobsEncode, if_neg space.not_gt]
  unfold maxEncodedSize at space
  cases output with
  | nil =>
    rw [length_nil] at space
    omega
  | cons head rest =>
    have holds : CobsEncoder.Holds { output := head :: rest } [] [] rest :=
      ⟨⟨head, rfl⟩, rfl, rfl, rfl, Nat.zero_le _⟩
    rw [length_cons] at space
    have room : (Cobs.encodeFrom [] input).length ≤ ([] : Bytes).length + rest.length := by
      exact bound.trans (by omega)
    rw [holds.run_input room, map_some]
    simp [Cobs.encode, drop_succ_cons]

/-- `cobs_decode` finds the bytes the library finds, if they fit its buffer. -/
theorem cobsDecodeLoop_toOption (capacity : Nat) (rounds : Nat) (input written : Bytes)
    (room : written.length ≤ capacity) :
    (cobsDecodeLoop capacity rounds input written).toOption =
      (Cobs.decodeBlocks rounds input).bind fun bytes =>
        if written.length + bytes.length ≤ capacity then some (written ++ bytes) else none := by
  induction rounds generalizing input written with
  | zero =>
    cases input with
    | nil => simp [cobsDecodeLoop, Cobs.decodeBlocks, Except.toOption, room]
    | cons code rest => rfl
  | succ rounds ih =>
    cases input with
    | nil => simp [cobsDecodeLoop, Cobs.decodeBlocks, Except.toOption, room]
    | cons code rest =>
      rw [cobsDecodeLoop, Cobs.decodeBlocks]
      by_cases broken : code = 0 ∨ rest.length < code.toNat - 1
      · rw [if_pos broken, if_pos broken]
        rfl
      rw [if_neg broken, if_neg broken, bind_map]
      rw [not_or, Nat.not_lt] at broken
      have size : (rest.take (code.toNat - 1)).length = code.toNat - 1 := by
        rw [length_take, Nat.min_eq_left broken.2]
      by_cases full : written.length + (code.toNat - 1) > capacity
      · rw [if_pos full]
        refine (bind_eq_none_iff.mpr fun bytes _ => if_neg ?_).symm
        rw [length_append, size]
        omega
      rw [if_neg full]
      by_cases separated : code ≠ 255 ∧ rest.drop (code.toNat - 1) ≠ []
      · rw [if_pos separated, length_append, size]
        simp only [comp_def, if_pos separated]
        by_cases exact : written.length + (code.toNat - 1) = capacity
        · rw [if_pos exact]
          refine (bind_eq_none_iff.mpr fun bytes _ => if_neg ?_).symm
          rw [length_append, size, length_cons]
          omega
        · rw [if_neg exact, ih _ _ (by
            rw [length_append, length_append, size, length_singleton]
            omega)]
          refine congrArg _ (funext fun bytes => ?_)
          simp only [length_append, size, length_cons, length_nil, Nat.zero_add,
            append_assoc, cons_append, nil_append, Nat.add_assoc,
            Nat.add_comm 1 bytes.length]
      · rw [if_neg separated, ih _ _ (by
          rw [length_append, size]
          omega)]
        refine congrArg _ (funext fun bytes => ?_)
        simp only [comp_def, if_neg separated, length_append, size, append_assoc, Nat.add_assoc]

theorem cobsDecode_toOption (input : Bytes) (capacity : Nat) :
    (cobsDecode input capacity).toOption = (Cobs.decode (withoutDelimiter input)).bind fun bytes =>
        if bytes.length ≤ capacity then some bytes else none := by
  have loop := cobsDecodeLoop_toOption capacity (withoutDelimiter input).length
    (withoutDelimiter input) [] (Nat.zero_le _)
  simp only [length_nil, Nat.zero_add, nil_append] at loop
  exact loop

theorem cobsDecode_eq_ok_iff {input bytes : Bytes} {capacity : Nat} :
    cobsDecode input capacity = .ok bytes ↔
      Cobs.decode (withoutDelimiter input) = some bytes ∧ bytes.length ≤ capacity := by
  have result := cobsDecode_toOption input capacity
  constructor
  · intro accepted
    rw [accepted] at result
    rcases bind_eq_some_iff.mp result.symm with ⟨decoded, stuffed, fits⟩
    split at fits
    · rename_i room
      cases fits
      exact ⟨stuffed, room⟩
    · exact nomatch fits
  · rintro ⟨stuffed, fits⟩
    rw [stuffed, bind_some, if_pos fits] at result
    cases outcome : cobsDecode input capacity with rw [outcome] at result
    | error failure => exact nomatch result
    | ok decoded => exact congrArg Except.ok (some.inj result)

/-! ### Round trip -/

variable {header : Bytes} {envelope : Envelope} {payload encoded : Bytes} {scratch : Nat}

theorem length_of_encodeEnvelope (encoded : encodeEnvelope envelope = .ok header) :
    header.length = envelopeSize := by
  unfold encodeEnvelope at encoded
  split at encoded
  · cases encoded
    rfl
  · exact nomatch encoded

/-- An envelope is read back field by field from the offsets it was written to. -/
theorem decodeEnvelope_of_encodeEnvelope (encoded : encodeEnvelope envelope = .ok header) :
    decodeEnvelope header = .ok envelope := by
  have length := length_of_encodeEnvelope encoded
  unfold encodeEnvelope at encoded
  split at encoded
  · rename_i valid
    rw [Envelope.isValid, Bool.and_eq_true, Bool.and_eq_true, Bool.and_eq_true, decide_eq_true_eq,
      decide_eq_true_eq, decide_eq_true_eq, decide_eq_true_eq] at valid
    rcases valid with ⟨⟨⟨major, flags⟩, count⟩, index⟩
    cases encoded
    rw [decodeEnvelope, if_neg (by rw [length]; exact Nat.lt_irrefl _)]
    generalize shape : [envelope.major, envelope.minor, envelope.kind.code, envelope.flags] ++
      putU16 (UInt16.ofNat envelopeSize) ++ putU32 envelope.sessionEpoch ++
      putU32 envelope.frameSequence ++ putU32 envelope.target ++ putU32 envelope.requestId ++
      putU16 envelope.payloadSize ++ putU16 envelope.fragmentId ++
      [envelope.fragmentIndex, envelope.fragmentCount] ++ putU32 envelope.reserved = header
    have epoch : getU32 header 6 = envelope.sessionEpoch := by
      rw [← shape]
      exact getU32_putU32 envelope.sessionEpoch []
    have sequence : getU32 header 10 = envelope.frameSequence := by
      rw [← shape]
      exact getU32_putU32 envelope.frameSequence []
    have target : getU32 header 14 = envelope.target := by
      rw [← shape]
      exact getU32_putU32 envelope.target []
    have request : getU32 header 18 = envelope.requestId := by
      rw [← shape]
      exact getU32_putU32 envelope.requestId []
    have payload : getU16 header 22 = envelope.payloadSize := by
      rw [← shape]
      exact getU16_putU16 envelope.payloadSize []
    have fragment : getU16 header 24 = envelope.fragmentId := by
      rw [← shape]
      exact getU16_putU16 envelope.fragmentId []
    have reserved : getU32 header 28 = envelope.reserved := by
      rw [← shape]
      exact getU32_putU32 envelope.reserved []
    have bytes : header.getD 0 0 = envelope.major ∧ header.getD 1 0 = envelope.minor ∧
        header.getD 2 0 = envelope.kind.code ∧ header.getD 3 0 = envelope.flags ∧
        getU16 header 4 = UInt16.ofNat envelopeSize ∧
        header.getD 26 0 = envelope.fragmentIndex ∧
        header.getD 27 0 = envelope.fragmentCount := by
      rw [← shape]
      exact ⟨rfl, rfl, rfl, rfl, getU16_putU16 (UInt16.ofNat envelopeSize) [], rfl, rfl⟩
    rcases bytes with ⟨first, minor, kind, bits, size, fragmentIndex, fragmentCount⟩
    have version : ¬ (header.getD 0 0 ≠ 1 ∨ getU16 header 4 ≠ UInt16.ofNat envelopeSize) := by
      rw [first, size]
      exact fun either => either.elim (fun other => other major) fun other => other rfl
    have coordinates : ¬ (envelope.flags &&& 0xF0 ≠ 0 ∨ envelope.fragmentCount = 0 ∨
        envelope.fragmentIndex ≥ envelope.fragmentCount) := by
      rintro (reservedBits | empty | outside)
      · exact reservedBits flags
      · exact count empty
      · exact UInt8.not_le.mpr index outside
    rw [if_neg version, kind, Kind.ofCode?_code]
    dsimp only
    rw [first, minor, bits, epoch, sequence, target, request, payload, fragment, fragmentIndex,
      fragmentCount, reserved, if_neg coordinates]
  · exact nomatch encoded

theorem encodeEnvelope_of_isValid (valid : Envelope.isValid envelope = true) :
    ∃ header, encodeEnvelope envelope = .ok header :=
  ⟨_, if_pos valid⟩

/-- The bytes of a frame before they are stuffed. -/
def content (header payload : Bytes) : Bytes :=
  header ++ payload ++ putU32 (crc32c (header ++ payload))

theorem length_content (payload : Bytes) (size : header.length = envelopeSize) :
    (content header payload).length = envelopeSize + payload.length + crcSize := by
  rw [content, length_append, length_append, size]
  rfl

theorem take_content (payload : Bytes) (headed : header.length = envelopeSize) :
    (content header payload).take ((content header payload).length - crcSize) =
      header ++ payload := by
  rw [length_content payload headed, ← headed, ← length_append]
  exact take_left

theorem getU32_content (payload : Bytes) (headed : header.length = envelopeSize) :
    getU32 (content header payload) ((content header payload).length - crcSize) =
      crc32c (header ++ payload) := by
  have tail := getU32_append (header ++ payload) (putU32 (crc32c (header ++ payload))) 0
  rw [Nat.add_zero] at tail
  rw [length_content payload headed, Nat.add_sub_cancel, ← headed, ← length_append, content, tail]
  exact getU32_putU32 _ []

/-- What is long enough and passes the check is the content of a frame. -/
theorem exists_content {decoded : Bytes} (long : envelopeSize + crcSize ≤ decoded.length)
    (checked : crc32c (decoded.take (decoded.length - crcSize)) =
      getU32 decoded (decoded.length - crcSize)) :
    ∃ header payload : Bytes, header.length = envelopeSize ∧ decoded = content header payload := by
  have body : (decoded.take (decoded.length - crcSize)).length = decoded.length - crcSize :=
    length_take_of_le (Nat.sub_le _ _)
  refine ⟨(decoded.take (decoded.length - crcSize)).take envelopeSize,
    (decoded.take (decoded.length - crcSize)).drop envelopeSize, ?_, ?_⟩
  · rw [length_take]
    omega
  · have tail : ∃ first second third fourth : UInt8,
        decoded.drop (decoded.length - crcSize) = [first, second, third, fourth] := by
      have length : (decoded.drop (decoded.length - crcSize)).length = 4 := by
        rw [length_drop]
        unfold envelopeSize crcSize at long
        unfold crcSize
        omega
      exact length_eq_four.mp length
    rcases tail with ⟨first, second, third, fourth, tail⟩
    rw [content, take_append_drop, checked, ← getU32_drop, tail, putU32_getU32, ← tail,
      take_append_drop]

/-- What `decode` makes of the content of a frame. -/
theorem decode_content (headed : header.length = envelopeSize)
    (stuffed : cobsDecode encoded scratch = .ok (content header payload)) :
    decode encoded scratch = (decodeEnvelope header).bind fun envelope =>
      if envelope.payloadSize.toNat ≠ payload.length then .error .malformed
      else .ok ⟨envelope, payload⟩ := by
  have total := length_content payload headed
  have front : (content header payload).take envelopeSize = header := by
    rw [content, append_assoc, ← headed]
    exact take_left
  have payloadSize : (content header payload).length - crcSize - envelopeSize = payload.length := by
    rw [total, Nat.add_sub_cancel, Nat.add_sub_cancel_left]
  have rest : ((content header payload).drop envelopeSize).take payload.length = payload := by
    rw [content, append_assoc, ← headed, drop_left]
    exact take_left
  unfold decode
  rw [stuffed]
  dsimp only
  rw [if_neg (by omega), take_content payload headed, getU32_content payload headed,
    if_neg (fun differs => differs rfl), front, payloadSize]
  cases decodeEnvelope header with
  | error failure => rfl
  | ok envelope =>
    dsimp only [Except.bind]
    by_cases same : envelope.payloadSize.toNat = payload.length
    · rw [if_neg (fun differs => differs same), if_neg (fun differs => differs same), same, rest]
    · rw [if_pos same, if_pos same]

/-- What `decode` accepts is stuffed content. -/
theorem exists_content_of_decode {frame : Decoded} (accepted : decode encoded scratch = .ok frame) :
    ∃ header payload : Bytes, header.length = envelopeSize ∧
      cobsDecode encoded scratch = .ok (content header payload) := by
  unfold decode at accepted
  cases outcome : cobsDecode encoded scratch with rw [outcome] at accepted
  | error failure => exact nomatch accepted
  | ok decoded =>
    dsimp only at accepted
    by_cases short : decoded.length < envelopeSize + crcSize
    · rw [if_pos short] at accepted
      exact nomatch accepted
    rw [if_neg short] at accepted
    by_cases checked : crc32c (decoded.take (decoded.length - crcSize)) =
        getU32 decoded (decoded.length - crcSize)
    · rcases exists_content (Nat.not_lt.mp short) checked with ⟨header, payload, headed, rfl⟩
      exact ⟨header, payload, headed, rfl⟩
    · rw [if_pos checked] at accepted
      exact nomatch accepted

theorem decode_of_content (written : encodeEnvelope envelope = .ok header)
    (sized : envelope.payloadSize.toNat = payload.length)
    (stuffed : cobsDecode encoded scratch = .ok (content header payload)) :
    decode encoded scratch = .ok ⟨envelope, payload⟩ := by
  rw [decode_content (length_of_encodeEnvelope written) stuffed,
    decodeEnvelope_of_encodeEnvelope written]
  exact if_neg (fun differs => differs sized)

theorem withoutDelimiter_append_zero (body : Bytes) : withoutDelimiter (body ++ [0]) = body := by
  rw [withoutDelimiter, getLast?_concat, if_pos rfl, dropLast_concat]

theorem length_withoutDelimiter_le (input : Bytes) :
    (withoutDelimiter input).length ≤ input.length := by
  rw [withoutDelimiter]
  split
  · rw [length_dropLast]
    exact Nat.sub_le _ _
  · exact le_rfl

theorem withoutDelimiter_of_not_mem {body : Bytes} (nonzero : 0 ∉ body) :
    withoutDelimiter body = body := by
  rw [withoutDelimiter, if_neg]
  intro last
  exact nonzero (mem_of_getLast? last)

theorem cobsDecode_encode {bytes : Bytes} {capacity : Nat}
    (stripped : withoutDelimiter encoded = Cobs.encode bytes) (fits : bytes.length ≤ capacity) :
    cobsDecode encoded capacity = .ok bytes := by
  rw [cobsDecode_eq_ok_iff, stripped]
  exact ⟨Cobs.decode_encode bytes, fits⟩

/-- The body a valid frame is encoded to, without its delimiter. -/
theorem encode_eq {output : Bytes} (valid : Envelope.isValid envelope = true)
    (short : payload.length ≤ 65535) (room : envelopeSize + payload.length + crcSize ≤ scratch)
    (space : maxEncodedSize (envelopeSize + payload.length + crcSize) ≤ output.length) :
    ∃ header, encodeEnvelope { envelope with payloadSize := UInt16.ofNat payload.length } =
        .ok header ∧
      encode envelope payload scratch output = some (.ok (Cobs.encode (content header payload) ++
            0 :: output.drop ((Cobs.encode (content header payload)).length + 1),
          (Cobs.encode (content header payload)).length + 1)) := by
  have sizedValid : Envelope.isValid { envelope with payloadSize := UInt16.ofNat payload.length } =
      true := valid
  rcases encodeEnvelope_of_isValid sizedValid with ⟨header, written⟩
  refine ⟨header, written, ?_⟩
  have accepted : ¬ (payload.length > 65535 ∨
      scratch < envelopeSize + payload.length + crcSize) := by
    omega
  rw [encode, if_neg accepted, written]
  refine cobsEncode_eq ?_
  have total := length_content payload (length_of_encodeEnvelope written)
  rw [content] at total
  rw [total]
  exact space

theorem toNat_payloadSize (short : payload.length ≤ 65535) :
    (UInt16.ofNat payload.length).toNat = payload.length := by
  exact Nat.mod_eq_of_lt (by omega)

/-- The bytes are what `encode` writes for the frame. -/
def Encodes (bytes : Bytes) (frame : Decoded) : Prop :=
  ∃ (authored : Envelope) (scratch : Nat) (output buffer : Bytes) (size : Nat),
    encode authored frame.payload scratch output = some (.ok (buffer, size)) ∧
      bytes = buffer.take size ∧
      frame.envelope = { authored with payloadSize := UInt16.ofNat frame.payload.length }

/-- The bytes a frame is encoded to are its stuffed content and a delimiter. -/
theorem Encodes.content {bytes : Bytes} {frame : Decoded} (encodes : Encodes bytes frame) :
    ∃ header, encodeEnvelope frame.envelope = .ok header ∧
      frame.envelope.payloadSize.toNat = frame.payload.length ∧
      bytes = Cobs.encode (content header frame.payload) ++ [0] := by
  rcases encodes with ⟨authored, scratch, output, buffer, size, encoded, taken, same⟩
  by_cases refused : frame.payload.length > 65535 ∨
      scratch < envelopeSize + frame.payload.length + crcSize
  · rw [encode, if_pos refused] at encoded
    exact nomatch encoded
  · rw [encode, if_neg refused] at encoded
    rw [← same] at encoded
    cases written : encodeEnvelope frame.envelope with rw [written] at encoded
    | error failure => exact nomatch encoded
    | ok header =>
      refine ⟨header, rfl, ?_, ?_⟩
      · rw [same]
        exact toNat_payloadSize (by omega)
      · by_cases small : output.length < maxEncodedSize (Frame.content header frame.payload).length
        · rw [Frame.content] at small
          dsimp only at encoded
          rw [cobsEncode, if_pos small] at encoded
          exact nomatch encoded
        · have stored := cobsEncode_eq (Nat.not_lt.mp small)
          rw [Frame.content] at stored ⊢
          dsimp only at encoded
          rw [stored] at encoded
          cases encoded
          rw [taken, take_append, take_of_length_le (Nat.le_succ _),
            Nat.add_sub_cancel_left, take_succ_cons, take_zero]

theorem exists_encodes (frame : Decoded) (valid : Envelope.isValid frame.envelope = true)
    (short : frame.payload.length ≤ 65535)
    (sized : frame.envelope.payloadSize = UInt16.ofNat frame.payload.length) :
    ∃ bytes : Bytes, Encodes bytes frame ∧
      bytes.length ≤ maxEncodedSize (envelopeSize + frame.payload.length + crcSize) := by
  let size := maxEncodedSize (envelopeSize + frame.payload.length + crcSize)
  have space : size ≤ (replicate size (0 : UInt8)).length :=
    Nat.le_of_eq length_replicate.symm
  rcases encode_eq valid short le_rfl space with ⟨header, written, encoded⟩
  refine ⟨_, ⟨frame.envelope, _, _, _, _, encoded, rfl, ?_⟩, ?_⟩
  · rw [← sized]
  · have bound := Cobs.length_encode_le (content header frame.payload)
    rw [length_content frame.payload (length_of_encodeEnvelope written)] at bound
    refine (length_take_le _ _).trans ?_
    unfold maxEncodedSize
    omega

theorem toOption_decode_of_content (written : encodeEnvelope envelope = .ok header)
    (sized : envelope.payloadSize.toNat = payload.length) (capacity : Nat) :
    (decode (Cobs.encode (content header payload)) capacity).toOption =
      if envelopeSize + payload.length + crcSize ≤ capacity then some ⟨envelope, payload⟩
      else none := by
  have stripped := withoutDelimiter_of_not_mem (Cobs.zero_not_mem_encode (content header payload))
  have total := length_content payload (length_of_encodeEnvelope written)
  by_cases fits : envelopeSize + payload.length + crcSize ≤ capacity
  · rw [if_pos fits, decode_of_content written sized (cobsDecode_encode stripped (total ▸ fits))]
    rfl
  · have refused := cobsDecode_toOption (Cobs.encode (content header payload)) capacity
    rw [stripped, Cobs.decode_encode, bind_some, total, if_neg fits] at refused
    rw [if_neg fits, decode]
    cases outcome : cobsDecode (Cobs.encode (content header payload)) capacity with
    | error failure => rfl
    | ok bytes =>
      rw [outcome] at refused
      exact nomatch refused

/-- A valid frame is encoded into any buffer of the maximum size: the bytes written are free of
zeros but for the delimiter at their end, the buffer behind them is left alone, and they decode
to the envelope and payload. -/
theorem frame_round_trip (envelope : Envelope) (payload output : Bytes) (scratch capacity : Nat)
    (valid : Envelope.isValid envelope = true) (short : payload.length ≤ 65535)
    (room : envelopeSize + payload.length + crcSize ≤ scratch)
    (space : maxEncodedSize (envelopeSize + payload.length + crcSize) ≤ output.length)
    (decodeRoom : envelopeSize + payload.length + crcSize ≤ capacity) :
    ∃ body : Bytes, 0 ∉ body ∧
      body.length + 1 ≤ maxEncodedSize (envelopeSize + payload.length + crcSize) ∧
      encode envelope payload scratch output =
        some (.ok (body ++ 0 :: output.drop (body.length + 1), body.length + 1)) ∧
      decode (body ++ [0]) capacity =
        .ok ⟨{ envelope with payloadSize := UInt16.ofNat payload.length }, payload⟩ := by
  rcases encode_eq valid short room space with ⟨header, written, encoded⟩
  have total := length_content payload (length_of_encodeEnvelope written)
  refine ⟨Cobs.encode (content header payload), Cobs.zero_not_mem_encode _, ?_, encoded, ?_⟩
  · have bound := Cobs.length_encode_le (content header payload)
    rw [total] at bound
    exact Nat.succ_le_succ bound
  · refine decode_of_content written (toNat_payloadSize short) (cobsDecode_encode ?_ ?_)
    · exact withoutDelimiter_append_zero _
    · rw [total]
      exact decodeRoom

/-- The smallest frame, in buffers of just the needed sizes. -/
theorem frame_round_trip_empty :
    ∃ body : Bytes, 0 ∉ body ∧ body.length + 1 ≤ 38 ∧
      encode { kind := .ping, flags := Flags.final } [] 36 (replicate 38 7) =
        some (.ok (body ++ 0 :: (replicate 38 7).drop (body.length + 1), body.length + 1)) ∧
      decode (body ++ [0]) 36 = .ok ⟨{ kind := .ping, flags := Flags.final }, []⟩ :=
  frame_round_trip { kind := .ping, flags := Flags.final } [] (replicate 38 7) 36 36
    (by decide) (by decide) (by decide) (by decide) (by decide)

end Frame

end Solar.Remote
