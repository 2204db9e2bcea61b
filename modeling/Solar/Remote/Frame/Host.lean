/-
This file models the frame decoders of the Python host and compares them with
the firmware's. Both unstuff, check the length and the checksum, and read the
same fields; the host leaves kinds, flags and fragment coordinates unchecked.

A byte string carries a frame if it is the stuffed form of a header, a payload
and their checksum. The host accepts exactly the strings that carry a frame, the
firmware those that carry a declared one. The stream decoders cut the same
bodies, so over a stream they agree exactly when every body that carries a frame
carries a declared one.
-/

import Solar.Remote.Frame.Stream

namespace Solar.Remote

open Function
open List hiding map_map
open Option hiding map map_map

/-- An `Envelope` of the host, whose fields are plain numbers. -/
structure HostEnvelope where
  major : UInt8 := 1
  minor : UInt8 := 2
  kind : UInt8
  flags : UInt8 := 0
  sessionEpoch : UInt32 := 0
  frameSequence : UInt32 := 0
  target : UInt32 := 0
  requestId : UInt32 := 0
  payloadSize : UInt16 := 0
  fragmentId : UInt16 := 0
  fragmentIndex : UInt8 := 0
  fragmentCount : UInt8 := 1
  reserved : UInt32 := 0
  deriving DecidableEq

namespace Host

/-! ### Frames -/

/-- One bit of the CRC. The negated low bit masks all of the polynomial or nothing. -/
def crcBit (crc : Nat) : Nat := (crc >>> 1) ^^^ (if crc &&& 1 = 1 then 0x82F63B78 else 0)

def crcByte (crc : Nat) (value : UInt8) : Nat := Nat.iterate crcBit 8 (crc ^^^ value.toNat)

section

variable (data : Bytes)

/-- `crc32c`, on integers without bound. -/
def crc32c : Nat := (0xFFFFFFFF ^^^ data.foldl crcByte 0xFFFFFFFF) &&& 0xFFFFFFFF

/-- The loop of `cobs_decode`, over the bytes still to be read and those written so far. -/
def cobsDecodeLoop : Nat → Bytes → Bytes → Except String Bytes
  | _, [], output => .ok output
  | 0, _ :: _, _ => .error "malformed COBS frame"
  | rounds + 1, code :: rest, output =>
      let size := code.toNat - 1
      if code = 0 ∨ rest.length < size then .error "malformed COBS frame"
      else
        let copied := output ++ rest.take size
        if code ≠ 0xFF ∧ rest.drop size ≠ [] then
          cobsDecodeLoop rounds (rest.drop size) (copied ++ [0])
        else cobsDecodeLoop rounds (rest.drop size) copied

def cobsDecode : Except String Bytes :=
  let body := if data.getLast? = some 0 then data.dropLast else data
  cobsDecodeLoop body.length body []

/-- The fields of `struct.unpack("<BBBBHIIIIHHBBI", ...)`. -/
def unpack : HostEnvelope where
  major := data.getD 0 0
  minor := data.getD 1 0
  kind := data.getD 2 0
  flags := data.getD 3 0
  sessionEpoch := getU32 data 6
  frameSequence := getU32 data 10
  target := getU32 data 14
  requestId := getU32 data 18
  payloadSize := getU16 data 22
  fragmentId := getU16 data 24
  fragmentIndex := data.getD 26 0
  fragmentCount := data.getD 27 0
  reserved := getU32 data 28

/-- `Envelope.decode`. -/
def decodeEnvelope : Except String HostEnvelope :=
  if data.length < envelopeSize then .error "short envelope"
  else
    let header := data.take envelopeSize
    if header.getD 0 0 ≠ 1 ∨ getU16 header 4 ≠ UInt16.ofNat envelopeSize then
      .error "unsupported protocol version"
    else .ok (unpack header)

/-- `decode_frame`. -/
def decodeFrame (frame : Bytes) : Except String (HostEnvelope × Bytes) := do
  let decoded ← cobsDecode frame
  if decoded.length < envelopeSize + crcSize then .error "short frame"
  else
    let content := decoded.take (decoded.length - crcSize)
    if crc32c content ≠ (getU32 decoded (decoded.length - crcSize)).toNat then
      .error "CRC32C integrity failure"
    else
      let envelope ← decodeEnvelope content
      let payload := content.drop envelopeSize
      if payload.length ≠ envelope.payloadSize.toNat then .error "payload length mismatch"
      else .ok (envelope, payload)

/-! ### The same checksum -/

theorem crcBit_toNat (crc : UInt32) : (Frame.crcBit crc).toNat = crcBit crc.toNat := by
  rw [Frame.crcBit, crcBit]
  have low : (crc &&& 1).toNat = crc.toNat &&& 1 := UInt32.toNat_and _ _
  rcases Nat.mod_two_eq_zero_or_one crc.toNat with even | odd
  · have bit : crc &&& 1 = 0 := by
      apply UInt32.toNat_inj.mp
      rw [low, Nat.and_one_is_mod, even]
      rfl
    rw [bit, if_neg (by rw [Nat.and_one_is_mod, even]; decide)]
    rfl
  · have bit : crc &&& 1 = 1 := by
      apply UInt32.toNat_inj.mp
      rw [low, Nat.and_one_is_mod, odd]
      rfl
    rw [bit, if_pos (by rw [Nat.and_one_is_mod, odd])]
    rfl

theorem crcByte_toNat (crc : UInt32) (byte : UInt8) :
    (Frame.crcByte crc byte).toNat = crcByte crc.toNat byte := by
  have bits : Semiconj UInt32.toNat Frame.crcBit crcBit := crcBit_toNat
  rw [Frame.crcByte, crcByte, (bits.iterate_right 8).eq, UInt32.toNat_xor, UInt8.toNat_toUInt32]

theorem crc32c_toNat : (Frame.crc32c data).toNat = crc32c data := by
  have folded : data.foldl crcByte 0xFFFFFFFF = (data.foldl Frame.crcByte 0xFFFFFFFF).toNat :=
    @foldl_hom _ _ _ UInt32.toNat _ _ data 0xFFFFFFFF fun crc byte =>
      (crcByte_toNat crc byte).symm
  rw [Frame.crc32c, crc32c, folded]
  generalize data.foldl Frame.crcByte 0xFFFFFFFF = crc
  have bound : 0xFFFFFFFF ^^^ crc.toNat < 2 ^ 32 := Nat.xor_lt_two_pow (by decide) crc.toNat_lt
  exact ((Nat.and_two_pow_sub_one_eq_mod _ 32).trans (Nat.mod_eq_of_lt bound)).symm

/-! ### The same bytes -/

theorem cobsDecodeLoop_toOption (rounds : Nat) (input output : Bytes) :
    (cobsDecodeLoop rounds input output).toOption =
      (Cobs.decodeBlocks rounds input).map (output ++ ·) := by
  induction rounds generalizing input output with
  | zero =>
    cases input with
    | nil => simp [cobsDecodeLoop, Cobs.decodeBlocks, Except.toOption]
    | cons code rest => rfl
  | succ rounds ih =>
    cases input with
    | nil => simp [cobsDecodeLoop, Cobs.decodeBlocks, Except.toOption]
    | cons code rest =>
      rw [cobsDecodeLoop, Cobs.decodeBlocks]
      by_cases malformed : code = 0 ∨ rest.length < code.toNat - 1
      · rw [if_pos malformed, if_pos malformed]
        rfl
      · rw [if_neg malformed, if_neg malformed, Option.map_map]
        by_cases implicit : code ≠ 0xFF ∧ rest.drop (code.toNat - 1) ≠ []
        · rw [if_pos implicit, ih]
          refine congrArg (Option.map · _) (funext fun later => ?_)
          simp only [comp_def, if_pos implicit, append_assoc, singleton_append]
        · rw [if_neg implicit, ih]
          refine congrArg (Option.map · _) (funext fun later => ?_)
          simp only [comp_def, if_neg implicit, append_assoc]

theorem cobsDecode_toOption :
    (cobsDecode data).toOption = Cobs.decode (Frame.withoutDelimiter data) := by
  unfold cobsDecode
  rw [cobsDecodeLoop_toOption]
  exact map_id'

end

/-! ### The same frames -/

/-- The bytes are the stuffed form of a header, a payload and their checksum. -/
def Carries (bytes : Bytes) (envelope : HostEnvelope) (payload : Bytes) : Prop :=
  ∃ header : Bytes, header.length = envelopeSize ∧
    Cobs.decode (Frame.withoutDelimiter bytes) = some (Frame.content header payload) ∧
    header.getD 0 0 = 1 ∧ getU16 header 4 = UInt16.ofNat envelopeSize ∧
    envelope = unpack header ∧ envelope.payloadSize.toNat = payload.length

/-- The kind is one of the protocol's, no undefined flag is set, and the fragment has its place. -/
def Declared (envelope : HostEnvelope) : Prop :=
  (Kind.ofCode? envelope.kind).isSome = true ∧ envelope.flags &&& 0xF0 = 0 ∧
    envelope.fragmentCount ≠ 0 ∧ envelope.fragmentIndex < envelope.fragmentCount

instance : DecidablePred Declared := fun _ => inferInstanceAs (Decidable (_ ∧ _ ∧ _ ∧ _))

variable {bytes : Bytes}

theorem Carries.unique {payload other : Bytes} {envelope another : HostEnvelope}
    (carries : Carries bytes envelope payload) (also : Carries bytes another other) :
    envelope = another ∧ payload = other := by
  rcases carries with ⟨header, headed, stuffed, -, -, rfl, -⟩
  rcases also with ⟨second, secondHeaded, secondStuffed, -, -, rfl, -⟩
  have same : Frame.content header payload = Frame.content second other :=
    some.inj (stuffed.symm.trans secondStuffed)
  have bodies : header ++ payload = second ++ other := by
    rw [← Frame.take_content payload headed, ← Frame.take_content other secondHeaded, same]
  rcases append_inj bodies (headed.trans secondHeaded.symm) with ⟨rfl, rfl⟩
  exact ⟨rfl, rfl⟩

theorem decodeEnvelope_header {header : Bytes} {payload : Bytes}
    (headed : header.length = envelopeSize) :
    decodeEnvelope (header ++ payload) =
      if header.getD 0 0 ≠ 1 ∨ getU16 header 4 ≠ UInt16.ofNat envelopeSize then
        .error "unsupported protocol version"
      else .ok (unpack header) := by
  have front : (header ++ payload).take envelopeSize = header := by
    rw [← headed]
    exact take_left
  have long : ¬ (header ++ payload).length < envelopeSize := by
    rw [length_append]
    omega
  rw [decodeEnvelope, if_neg long, front]

/-- What the host makes of the content of a frame. -/
theorem decodeFrame_content {header payload : Bytes} (headed : header.length = envelopeSize)
    (stuffed : Cobs.decode (Frame.withoutDelimiter bytes) = some (Frame.content header payload)) :
    decodeFrame bytes = (decodeEnvelope (header ++ payload)).bind fun envelope =>
      if payload.length ≠ envelope.payloadSize.toNat then .error "payload length mismatch"
      else .ok (envelope, payload) := by
  have decoded : cobsDecode bytes = .ok (Frame.content header payload) := by
    have result := cobsDecode_toOption bytes
    rw [stuffed] at result
    cases outcome : cobsDecode bytes with rw [outcome] at result
    | error failure => exact nomatch result
    | ok decoded => exact congrArg Except.ok (some.inj result)
  have long : ¬ (Frame.content header payload).length < envelopeSize + crcSize := by
    rw [Frame.length_content payload headed]
    omega
  have tail : (header ++ payload).drop envelopeSize = payload := by
    rw [← headed]
    exact drop_left
  unfold decodeFrame
  rw [decoded]
  dsimp only [bind, Except.bind]
  rw [if_neg long, Frame.take_content payload headed, Frame.getU32_content payload headed,
    crc32c_toNat, if_neg (fun differs => differs rfl), tail]

/-- What the host accepts is stuffed content. -/
theorem exists_content_of_decodeFrame {frame : HostEnvelope × Bytes}
    (accepted : decodeFrame bytes = .ok frame) :
    ∃ header payload : Bytes, header.length = envelopeSize ∧
      Cobs.decode (Frame.withoutDelimiter bytes) = some (Frame.content header payload) := by
  have result := cobsDecode_toOption bytes
  unfold decodeFrame at accepted
  cases outcome : cobsDecode bytes with
  | error failure =>
    rw [outcome] at accepted
    exact nomatch accepted
  | ok decoded =>
    rw [outcome] at accepted result
    dsimp only [bind, Except.bind] at accepted
    by_cases short : decoded.length < envelopeSize + crcSize
    · rw [if_pos short] at accepted
      exact nomatch accepted
    rw [if_neg short] at accepted
    by_cases checked : crc32c (decoded.take (decoded.length - crcSize)) =
        (getU32 decoded (decoded.length - crcSize)).toNat
    · rw [← crc32c_toNat] at checked
      rcases Frame.exists_content (Nat.not_lt.mp short) (UInt32.toNat_inj.mp checked) with
        ⟨header, payload, headed, same⟩
      exact ⟨header, payload, headed, same ▸ result.symm⟩
    · rw [if_pos checked] at accepted
      exact nomatch accepted

/-- The host accepts what carries a frame. -/
theorem decodeFrame_eq_ok_iff {payload : Bytes} {envelope : HostEnvelope} :
    decodeFrame bytes = .ok (envelope, payload) ↔ Carries bytes envelope payload := by
  constructor
  · intro accepted
    rcases exists_content_of_decodeFrame accepted with ⟨header, body, headed, stuffed⟩
    rw [decodeFrame_content headed stuffed, decodeEnvelope_header headed] at accepted
    by_cases version : header.getD 0 0 ≠ 1 ∨ getU16 header 4 ≠ UInt16.ofNat envelopeSize
    · rw [if_pos version] at accepted
      exact nomatch accepted
    rw [if_neg version] at accepted
    dsimp only [Except.bind] at accepted
    rw [not_or, not_not, not_not] at version
    by_cases sized : body.length = (unpack header).payloadSize.toNat
    · rw [if_neg (fun differs => differs sized)] at accepted
      cases accepted
      exact ⟨header, headed, stuffed, version.1, version.2, rfl, sized.symm⟩
    · rw [if_pos sized] at accepted
      exact nomatch accepted
  · rintro ⟨header, headed, stuffed, major, size, rfl, sized⟩
    have version : ¬ (header.getD 0 0 ≠ 1 ∨ getU16 header 4 ≠ UInt16.ofNat envelopeSize) := by
      rw [not_or, not_not, not_not]
      exact ⟨major, size⟩
    rw [decodeFrame_content headed stuffed, decodeEnvelope_header headed, if_neg version]
    exact if_neg fun differs => differs sized.symm

end Host

/-- The envelope as the host reads it. -/
def Envelope.toHost (envelope : Envelope) : HostEnvelope where
  major := envelope.major
  minor := envelope.minor
  kind := envelope.kind.code
  flags := envelope.flags
  sessionEpoch := envelope.sessionEpoch
  frameSequence := envelope.frameSequence
  target := envelope.target
  requestId := envelope.requestId
  payloadSize := envelope.payloadSize
  fragmentId := envelope.fragmentId
  fragmentIndex := envelope.fragmentIndex
  fragmentCount := envelope.fragmentCount
  reserved := envelope.reserved

def Decoded.toHost (frame : Decoded) : HostEnvelope × Bytes :=
  (frame.envelope.toHost, frame.payload)

namespace Host

/-- The firmware reads the fields that the host reads, of declared envelopes only. -/
theorem decodeEnvelope_eq_ok_iff {header : Bytes} (headed : header.length = envelopeSize)
    {envelope : HostEnvelope} :
    (∃ own : Envelope, Frame.decodeEnvelope header = .ok own ∧ own.toHost = envelope) ↔
      (header.getD 0 0 = 1 ∧ getU16 header 4 = UInt16.ofNat envelopeSize) ∧
        envelope = unpack header ∧ Declared envelope := by
  rw [Frame.decodeEnvelope, if_neg (by omega)]
  by_cases version : header.getD 0 0 ≠ 1 ∨ getU16 header 4 ≠ UInt16.ofNat envelopeSize
  · rw [if_pos version]
    constructor
    · rintro ⟨own, refused, -⟩
      cases refused
    · rintro ⟨⟨major, size⟩, -⟩
      exact absurd version (by rw [not_or, not_not, not_not]; exact ⟨major, size⟩)
  rw [if_neg version]
  rw [not_or, not_not, not_not] at version
  cases known : Kind.ofCode? (header.getD 2 0) with
  | none =>
    constructor
    · rintro ⟨own, refused, -⟩
      cases refused
    · rintro ⟨-, rfl, declared⟩
      have some : (Kind.ofCode? (header.getD 2 0)).isSome = true := declared.1
      rw [known] at some
      cases some
  | some kind =>
    have code := Kind.code_of_ofCode? known
    dsimp only
    split
    · rename_i invalid
      constructor
      · rintro ⟨own, refused, -⟩
        cases refused
      · rintro ⟨-, rfl, -, flags, count, index⟩
        rcases invalid with bad | bad | bad
        · exact absurd flags bad
        · exact absurd bad count
        · exact absurd index (UInt8.not_lt.mpr bad)
    · rename_i valid
      rw [not_or, not_or, not_not] at valid
      constructor
      · rintro ⟨own, accepted, rfl⟩
        cases accepted
        refine ⟨version, ?_, ?_⟩
        · rw [Envelope.toHost, unpack, code]
        · refine ⟨?_, valid.1, valid.2.1, UInt8.not_le.mp valid.2.2⟩
          rw [Envelope.toHost, code, known]
          rfl
      · rintro ⟨-, rfl, -⟩
        refine ⟨_, rfl, ?_⟩
        rw [Envelope.toHost, unpack, code]

/-- The firmware accepts what carries a declared frame that fits. -/
theorem decode_eq_ok_iff {bytes payload : Bytes} {capacity : Nat} {envelope : HostEnvelope} :
    (∃ own : Envelope, Frame.decode bytes capacity = .ok ⟨own, payload⟩ ∧ own.toHost = envelope) ↔
      Carries bytes envelope payload ∧ Declared envelope ∧
        envelopeSize + payload.length + crcSize ≤ capacity := by
  constructor
  · rintro ⟨own, accepted, rfl⟩
    rcases Frame.exists_content_of_decode accepted with ⟨header, body, headed, stuffed⟩
    rcases Frame.cobsDecode_eq_ok_iff.mp stuffed with ⟨decoded, fits⟩
    rw [Frame.length_content body headed] at fits
    rw [Frame.decode_content headed stuffed] at accepted
    cases read : Frame.decodeEnvelope header with rw [read] at accepted
    | error failure => exact nomatch accepted
    | ok envelope =>
      dsimp only [Except.bind] at accepted
      by_cases sized : envelope.payloadSize.toNat = body.length
      · rw [if_neg (fun differs => differs sized)] at accepted
        cases accepted
        rcases (decodeEnvelope_eq_ok_iff headed).mp ⟨own, read, rfl⟩ with
          ⟨⟨major, size⟩, same, declared⟩
        exact ⟨⟨header, headed, decoded, major, size, same, sized⟩, declared, fits⟩
      · rw [if_pos sized] at accepted
        exact nomatch accepted
  · rintro ⟨⟨header, headed, decoded, major, size, same, sized⟩, declared, fits⟩
    rcases (decodeEnvelope_eq_ok_iff headed).mpr ⟨⟨major, size⟩, same, declared⟩ with
      ⟨own, read, rfl⟩
    have stuffed := Frame.cobsDecode_eq_ok_iff.mpr
      ⟨decoded, (Frame.length_content payload headed).trans_le fits⟩
    refine ⟨own, ?_, rfl⟩
    rw [Frame.decode_content headed stuffed, read]
    exact if_neg fun differs => differs sized

/-! ### Streams -/

/-- `FrameDecoder`. -/
structure FrameDecoder (maximumEncodedSize : Nat) where
  pending : Bytes := []
  dropping : Bool := false
  rejected : Nat := 0
  overflowed : Nat := 0

namespace FrameDecoder

variable {maximum : Nat}

/-- One round of the loop of `feed`, with the frame it appends. -/
def step (decoder : FrameDecoder maximum) (value : UInt8) :
    FrameDecoder maximum × Option (HostEnvelope × Bytes) :=
  if value = 0 then
    if decoder.dropping then
      ({ decoder with dropping := false, pending := [], overflowed := decoder.overflowed + 1 }, none)
    else if decoder.pending ≠ [] then
      match decodeFrame decoder.pending with
      | .ok frame => ({ decoder with pending := [] }, some frame)
      | .error _ => ({ decoder with pending := [], rejected := decoder.rejected + 1 }, none)
    else (decoder, none)
  else if decoder.dropping then (decoder, none)
  else if decoder.pending.length = maximum then
    ({ decoder with pending := [], dropping := true }, none)
  else ({ decoder with pending := decoder.pending ++ [value] }, none)

def feed (decoder : FrameDecoder maximum) : Bytes → FrameDecoder maximum × List (HostEnvelope × Bytes)
  | [] => (decoder, [])
  | value :: rest =>
      let stepped := decoder.step value
      let later := stepped.1.feed rest
      (later.1, stepped.2.toList ++ later.2)

/-- A stream that arrives in chunks: the decoder at the end and all frames it returned. -/
def feedChunks (decoder : FrameDecoder maximum) :
    List Bytes → FrameDecoder maximum × List (HostEnvelope × Bytes)
  | [] => (decoder, [])
  | chunk :: rest =>
      let fed := decoder.feed chunk
      let later := fed.1.feedChunks rest
      (later.1, fed.2 ++ later.2)

theorem feed_append (decoder : FrameDecoder maximum) (first second : Bytes) :
    decoder.feed (first ++ second) = (((decoder.feed first).1.feed second).1,
        (decoder.feed first).2 ++ ((decoder.feed first).1.feed second).2) := by
  induction first generalizing decoder with
  | nil => rfl
  | cons value rest ih => rw [cons_append, feed, feed, ih, append_assoc]

theorem feedChunks_eq (decoder : FrameDecoder maximum) (chunks : List Bytes) :
    decoder.feedChunks chunks = decoder.feed chunks.flatten := by
  induction chunks generalizing decoder with
  | nil => rfl
  | cons chunk rest ih => rw [feedChunks, flatten_cons, feed_append, ih]

/-- The bytes that wait for their delimiter. -/
def scanner (decoder : FrameDecoder maximum) : Delimited.Scanner UInt8 :=
  ⟨decoder.pending, decoder.dropping⟩

/-- What is returned for the bytes a delimiter closes. -/
def returned (closed : Option Bytes) : Option (HostEnvelope × Bytes) :=
  closed.bind fun body => (decodeFrame body).toOption

/-- The bytes a delimiter closes count as rejected. -/
def refused (closed : Option Bytes) : Bool := closed.isSome && (returned closed).isNone

variable {decoder : FrameDecoder maximum}

/-- A byte does to the decoder what it does to the scanner. -/
theorem step_eq (room : decoder.pending.length ≤ maximum) (value : UInt8) :
    (decoder.step value).1.pending.length ≤ maximum ∧
      (decoder.step value).1.scanner = (decoder.scanner.step maximum 0 value).1 ∧
      (decoder.step value).2 = (decoder.scanner.step maximum 0 value).2.bind returned ∧
      (decoder.step value).1.rejected = decoder.rejected +
        (decoder.scanner.step maximum 0 value).2.toList.countP refused ∧
      (decoder.step value).1.overflowed = decoder.overflowed +
        (decoder.scanner.step maximum 0 value).2.toList.countP isNone := by
  rcases decoder with ⟨pending, dropping, rejected, overflowed⟩
  dsimp only at room
  unfold step Delimited.Scanner.step scanner
  dsimp only
  by_cases delimiter : value = 0
  · rw [if_pos delimiter, if_pos delimiter]
    cases dropping with
    | true => exact ⟨Nat.zero_le _, rfl, rfl, rfl, rfl⟩
    | false =>
      rw [if_neg Bool.false_ne_true, if_neg Bool.false_ne_true]
      by_cases nothing : pending = []
      · rw [if_neg (fun something => something nothing), if_pos nothing]
        exact ⟨room, rfl, rfl, rfl, rfl⟩
      · rw [if_pos nothing, if_neg nothing]
        dsimp [toList]
        cases result : decodeFrame pending with
        | error failure =>
          have none : returned (some pending) = none := by
            rw [returned, bind_some, result]
            rfl
          refine ⟨Nat.zero_le _, rfl, none.symm, ?_, rfl⟩
          rw [countP_singleton, refused, none]
          rfl
        | ok frame =>
          have given : returned (some pending) = some frame := by
            rw [returned, bind_some, result]
            rfl
          refine ⟨Nat.zero_le _, rfl, given.symm, ?_, rfl⟩
          rw [countP_singleton, refused, given]
          rfl
  · rw [if_neg delimiter, if_neg delimiter]
    cases dropping with
    | true => exact ⟨room, rfl, rfl, rfl, rfl⟩
    | false =>
      rw [if_neg Bool.false_ne_true, if_neg Bool.false_ne_true]
      by_cases full : pending.length = maximum
      · rw [if_pos full, if_neg (by omega)]
        exact ⟨Nat.zero_le _, rfl, rfl, rfl, rfl⟩
      · rw [if_neg full, if_pos (by omega)]
        refine ⟨?_, rfl, rfl, rfl, rfl⟩
        rw [length_append, length_singleton]
        omega

theorem feed_eq (room : decoder.pending.length ≤ maximum) (data : Bytes) :
    (decoder.feed data).2 = (decoder.scanner.scan maximum 0 data).2.filterMap returned ∧
      (decoder.feed data).1.rejected = decoder.rejected +
        (decoder.scanner.scan maximum 0 data).2.countP refused ∧
      (decoder.feed data).1.overflowed = decoder.overflowed +
        (decoder.scanner.scan maximum 0 data).2.countP isNone := by
  induction data generalizing decoder with
  | nil => exact ⟨rfl, rfl, rfl⟩
  | cons value rest ih =>
    rcases step_eq room value with ⟨bounded, state, frame, rejected, overflowed⟩
    rcases ih bounded with ⟨frames, laterRejected, laterOverflowed⟩
    rw [state] at frames laterRejected laterOverflowed
    rw [feed, Delimited.Scanner.scan]
    rw [frames, laterRejected, laterOverflowed, frame, rejected, overflowed, filterMap_append,
      countP_append, countP_append, Nat.add_assoc, Nat.add_assoc]
    refine ⟨congrArg (· ++ _) ?_, rfl, rfl⟩
    cases (decoder.scanner.step maximum 0 value).2 with
    | none => rfl
    | some closed =>
      rw [bind_some, toList_some, filterMap_cons]
      cases returned closed with
      | none | some => rfl

theorem feedChunks_bodies (chunks : List Bytes) :
    (({} : FrameDecoder maximum).feedChunks chunks).2 =
        (Delimited.bodies 0 chunks.flatten).filterMap (fun body =>
          returned (Delimited.within maximum body)) ∧
      (({} : FrameDecoder maximum).feedChunks chunks).1.rejected =
        (Delimited.bodies 0 chunks.flatten).countP (fun body =>
          refused (Delimited.within maximum body)) ∧
      (({} : FrameDecoder maximum).feedChunks chunks).1.overflowed =
        (Delimited.bodies 0 chunks.flatten).countP (fun body =>
          (Delimited.within maximum body).isNone) := by
  have empty : ({} : FrameDecoder maximum).pending.length ≤ maximum := Nat.zero_le _
  rcases feed_eq empty chunks.flatten with ⟨frames, rejected, overflowed⟩
  have closed : (({} : FrameDecoder maximum).scanner.scan maximum 0 chunks.flatten).2 = _ :=
    (Delimited.Scanner.holds_nil maximum).scan_snd chunks.flatten
  rw [feedChunks_eq, frames, rejected, overflowed, closed, filterMap_map, countP_map,
    countP_map, Nat.zero_add, Nat.zero_add]
  exact ⟨rfl, rfl, rfl⟩

end FrameDecoder

/-! ### Agreement -/

open FrameDecoder (returned refused)

theorem toOption_eq_some_iff {ε α : Type} {result : Except ε α} {value : α} :
    result.toOption = some value ↔ result = .ok value := by
  cases result with
  | error failure => exact ⟨nofun, nofun⟩
  | ok other =>
    constructor
    · intro same
      exact congrArg Except.ok (some.inj same)
    · rintro ⟨⟩
      rfl

variable {frame : HostEnvelope × Bytes} {bytes : Bytes}

theorem toOption_decodeFrame :
    (decodeFrame bytes).toOption = some frame ↔ Carries bytes frame.1 frame.2 := by
  rw [toOption_eq_some_iff]
  exact decodeFrame_eq_ok_iff

theorem toOption_decode {limit : Nat} :
    (Frame.decode bytes limit).toOption.map Decoded.toHost = some frame ↔
      Carries bytes frame.1 frame.2 ∧ Declared frame.1 ∧
        envelopeSize + frame.2.length + crcSize ≤ limit := by
  rw [← decode_eq_ok_iff, map_eq_some_iff]
  constructor
  · rintro ⟨own, accepted, rfl⟩
    exact ⟨own.envelope, toOption_eq_some_iff.mp accepted, rfl⟩
  · rintro ⟨own, accepted, same⟩
    exact ⟨⟨own, frame.2⟩, toOption_eq_some_iff.mpr accepted, Prod.ext same rfl⟩

theorem toOption_decode_of_room {body : Bytes} {capacity : Nat} (room : body.length ≤ capacity) :
    (Frame.decode body capacity).toOption.map Decoded.toHost =
      (decodeFrame body).toOption.filter fun frame => decide (Declared frame.1) := by
  refine ext fun frame => ?_
  rw [toOption_decode, filter_eq_some_iff, toOption_decodeFrame, decide_eq_true_eq]
  constructor
  · rintro ⟨carries, declared, -⟩
    exact ⟨carries, declared⟩
  · rintro ⟨carries, declared⟩
    refine ⟨carries, declared, ?_⟩
    rcases carries with ⟨header, headed, stuffed, -⟩
    have bound := Cobs.length_decodeBlocks_le stuffed
    rw [Frame.length_content frame.2 headed] at bound
    exact (bound.trans (Nat.sub_le _ _)).trans ((Frame.length_withoutDelimiter_le body).trans room)

variable {maxEncoded maxDecoded : Nat}

theorem frame?_outcome_within (room : maxEncoded ≤ maxDecoded) (body : Bytes) :
    (StreamDecoder.outcome maxDecoded (Delimited.within maxEncoded body)).frame?.map
        Decoded.toHost =
      (returned (Delimited.within maxEncoded body)).filter fun frame =>
        decide (Declared frame.1) := by
  rw [Delimited.within]
  by_cases long : maxEncoded < body.length
  · rw [if_pos long]
    rfl
  · rw [if_neg long, returned, bind_some,
      ← toOption_decode_of_room ((Nat.not_lt.mp long).trans room), StreamDecoder.outcome]
    cases Frame.decode body maxDecoded with
    | error | ok => rfl

theorem map_toHost_feedChunks (room : maxEncoded ≤ maxDecoded) (chunks : List Bytes) :
    (({} : StreamDecoder maxEncoded maxDecoded).feedChunks chunks).2.map Decoded.toHost =
      (({} : FrameDecoder maxEncoded).feedChunks chunks).2.filter fun frame =>
        decide (Declared frame.1) := by
  rw [(StreamDecoder.feedChunks_bodies chunks).1, (FrameDecoder.feedChunks_bodies chunks).1,
    map_filterMap, filter_filterMap]
  exact filterMap_congr fun body _ => frame?_outcome_within room body

theorem overflowed_feedChunks {chunks : List Bytes} :
    (({} : StreamDecoder maxEncoded maxDecoded).feedChunks chunks).1.totals.overflowed =
      (({} : FrameDecoder maxEncoded).feedChunks chunks).1.overflowed := by
  rw [(StreamDecoder.feedChunks_bodies chunks).2.2, (FrameDecoder.feedChunks_bodies chunks).2.2]
  refine countP_congr fun body _ => ?_
  cases Delimited.within maxEncoded body with
  | none => exact ⟨fun _ => rfl, fun _ => rfl⟩
  | some body =>
    rw [StreamDecoder.outcome]
    cases Frame.decode body maxDecoded <;>
      exact iff_of_false Bool.false_ne_true Bool.false_ne_true

theorem rejected_iff_refused (room : maxEncoded ≤ maxDecoded) {body : Bytes}
    (declared : ∀ frame, returned (Delimited.within maxEncoded body) = some frame →
      Declared frame.1) :
    (StreamDecoder.outcome maxDecoded (Delimited.within maxEncoded body) == .rejected) = true ↔
      refused (Delimited.within maxEncoded body) = true := by
  have handed := frame?_outcome_within room body
  have kept : (returned (Delimited.within maxEncoded body)).filter (fun frame =>
      decide (Declared frame.1)) = returned (Delimited.within maxEncoded body) := by
    cases given : returned (Delimited.within maxEncoded body) with
    | none => rfl
    | some frame => exact filter_some_pos (decide_eq_true (declared frame given))
  rw [kept] at handed
  rw [refused, ← handed]
  cases Delimited.within maxEncoded body with
  | none => exact iff_of_false Bool.false_ne_true Bool.false_ne_true
  | some body =>
    rw [StreamDecoder.outcome]
    cases Frame.decode body maxDecoded with
    | error failure => exact ⟨fun _ => rfl, fun _ => rfl⟩
    | ok frame => exact iff_of_false Bool.false_ne_true Bool.false_ne_true

/-- On a byte string the decoders agree if what it carries is declared, and over a stream if this
is so for each of its bodies. -/
theorem decoders_agree {maxEncoded maxDecoded : Nat} (room : maxEncoded ≤ maxDecoded) :
    (∀ (bytes : Bytes) (limit : Nat), (Frame.decode bytes limit).toOption.map Decoded.toHost =
          ((decodeFrame bytes).toOption.filter fun frame =>
            decide (envelopeSize + frame.2.length + crcSize ≤ limit)) ↔
        ∀ (envelope : HostEnvelope) (payload : Bytes), Carries bytes envelope payload →
          envelopeSize + payload.length + crcSize ≤ limit → Declared envelope) ∧
    ∀ chunks : List Bytes,
      (let firmware := ({} : StreamDecoder maxEncoded maxDecoded).feedChunks chunks
        let host := ({} : FrameDecoder maxEncoded).feedChunks chunks
        firmware.2.map Decoded.toHost = host.2 ∧ firmware.1.totals.rejected = host.1.rejected ∧
          firmware.1.totals.overflowed = host.1.overflowed) ↔
        ∀ body ∈ Delimited.bodies 0 chunks.flatten, body.length ≤ maxEncoded →
          ∀ (envelope : HostEnvelope) (payload : Bytes), Carries body envelope payload →
            Declared envelope := by
  constructor
  · intro bytes limit
    constructor
    · intro same envelope payload carries fits
      have accepted : ((decodeFrame bytes).toOption.filter fun frame =>
          decide (envelopeSize + frame.2.length + crcSize ≤ limit)) = some (envelope, payload) :=
        filter_eq_some_iff.mpr ⟨toOption_decodeFrame.mpr carries, decide_eq_true fits⟩
      exact (toOption_decode.mp (same.trans accepted)).2.1
    · intro declared
      refine ext fun frame => ?_
      rw [toOption_decode, filter_eq_some_iff, toOption_decodeFrame, decide_eq_true_eq]
      constructor
      · rintro ⟨carries, -, fits⟩
        exact ⟨carries, fits⟩
      · rintro ⟨carries, fits⟩
        exact ⟨carries, declared frame.1 frame.2 carries fits, fits⟩
  · intro chunks
    dsimp only
    have returnedIff : ∀ (body : Bytes) (frame : HostEnvelope × Bytes),
        returned (Delimited.within maxEncoded body) = some frame ↔
          body.length ≤ maxEncoded ∧ Carries body frame.1 frame.2 := by
      intro body frame
      rw [Delimited.within]
      by_cases long : maxEncoded < body.length
      · rw [if_pos long]
        exact iff_of_false (some_ne_none _).symm fun both => long.not_ge both.1
      · rw [if_neg long, returned, bind_some, toOption_decodeFrame]
        exact ⟨fun carries => ⟨Nat.not_lt.mp long, carries⟩, And.right⟩
    rw [map_toHost_feedChunks room, filter_eq_self]
    constructor
    · rintro ⟨declared, -⟩ body member short envelope payload carries
      rw [(FrameDecoder.feedChunks_bodies chunks).1] at declared
      have given := (returnedIff body (envelope, payload)).mpr ⟨short, carries⟩
      exact of_decide_eq_true
        (declared (envelope, payload) (mem_filterMap.mpr ⟨body, member, given⟩))
    · intro declared
      have every : ∀ body ∈ Delimited.bodies 0 chunks.flatten, ∀ frame,
          returned (Delimited.within maxEncoded body) = some frame → Declared frame.1 := by
        intro body member frame given
        rcases (returnedIff body frame).mp given with ⟨short, carries⟩
        exact declared body member short frame.1 frame.2 carries
      refine ⟨?_, ?_, overflowed_feedChunks⟩
      · intro frame member
        rw [(FrameDecoder.feedChunks_bodies chunks).1] at member
        rcases mem_filterMap.mp member with ⟨body, among, given⟩
        exact decide_eq_true (every body among frame given)
      · rw [(StreamDecoder.feedChunks_bodies chunks).2.1,
          (FrameDecoder.feedChunks_bodies chunks).2.1]
        exact countP_congr fun body member =>
          rejected_iff_refused room (every body member)

/-- A stray byte and a delimiter, in two chunks. -/
theorem decoders_agree_stray :
    (({} : StreamDecoder 64 96).feedChunks [[3], [0]]).2.map Decoded.toHost =
        (({} : FrameDecoder 64).feedChunks [[3], [0]]).2 ∧
      (({} : StreamDecoder 64 96).feedChunks [[3], [0]]).1.totals.rejected =
        (({} : FrameDecoder 64).feedChunks [[3], [0]]).1.rejected ∧
      (({} : StreamDecoder 64 96).feedChunks [[3], [0]]).1.totals.overflowed =
        (({} : FrameDecoder 64).feedChunks [[3], [0]]).1.overflowed := by
  refine ((decoders_agree (show 64 ≤ 96 by decide)).2 [[3], [0]]).mpr ?_
  intro body member short envelope payload carries
  rw [show Delimited.bodies 0 ([[3], [0]] : List Bytes).flatten = [[3]] from rfl,
    mem_singleton] at member
  subst member
  rcases carries with ⟨header, headed, stuffed, -⟩
  exact nomatch (show none = some _ from stuffed)

/-- The header of a frame whose kind is one more than the last of the protocol. -/
def undeclaredHeader : Bytes :=
  [1, 2, 18, 2, 32, 0] ++ replicate 21 0 ++ [1, 0, 0, 0, 0]

def undeclaredFrame : Bytes := Cobs.encode (Frame.content undeclaredHeader [])

/-- The host accepts a frame of a kind that the protocol does not have, the firmware does not. -/
theorem decoders_disagree :
    decodeFrame undeclaredFrame = .ok (unpack undeclaredHeader, []) ∧
      (Frame.decode undeclaredFrame 96).toOption = none := by
  have stripped := Frame.withoutDelimiter_of_not_mem
    (Cobs.zero_not_mem_encode (Frame.content undeclaredHeader []))
  have carries : Carries undeclaredFrame (unpack undeclaredHeader) [] := by
    refine ⟨undeclaredHeader, rfl, ?_, rfl, rfl, rfl, rfl⟩
    rw [undeclaredFrame, stripped]
    exact Cobs.decode_encode _
  refine ⟨decodeFrame_eq_ok_iff.mpr carries, ?_⟩
  cases outcome : (Frame.decode undeclaredFrame 96).toOption with
  | none => rfl
  | some frame =>
    have accepted : (Frame.decode undeclaredFrame 96).toOption.map Decoded.toHost =
        some frame.toHost := by
      rw [outcome]
      rfl
    rcases toOption_decode.mp accepted with ⟨also, declared, -⟩
    rw [← (carries.unique also).1] at declared
    exact absurd declared.1 (by decide)

/-- The body of an encoded frame carries the frame. -/
theorem decodeFrame_body {sent : Decoded} (encodes : Frame.Encodes bytes sent) :
    ∃ body : Bytes, bytes = body ++ [0] ∧ body ≠ [] ∧ 0 ∉ body ∧
      (decodeFrame body).toOption = some sent.toHost := by
  obtain ⟨header, written, sized, rfl⟩ := encodes.content
  have decoded := Frame.toOption_decode_of_content written sized
    (envelopeSize + sent.payload.length + crcSize)
  rw [if_pos le_rfl] at decoded
  exact ⟨_, rfl, Cobs.encode_ne_nil _, Cobs.zero_not_mem_encode _,
    toOption_decodeFrame.mpr (toOption_decode.mp (congrArg (Option.map _) decoded)).1⟩

/-- However the frames that the firmware sends are cut into chunks, the host returns those that it
has room for, in order, and rejects none. -/
theorem frames_received {maximum : Nat} {sent : List (Bytes × Decoded)}
    (encoded : ∀ frame ∈ sent, Frame.Encodes frame.1 frame.2) {chunks : List Bytes}
    (cut : chunks.flatten = (sent.map Prod.fst).flatten) :
    let host := ({} : FrameDecoder maximum).feedChunks chunks
    host.2 = (sent.filter fun frame => decide (frame.1.length ≤ maximum + 1)).map (·.2.toHost) ∧
      host.1.rejected = 0 ∧
      host.1.overflowed = sent.countP fun frame => decide (maximum + 1 < frame.1.length) := by
  dsimp only
  rw [(FrameDecoder.feedChunks_bodies chunks).1, (FrameDecoder.feedChunks_bodies chunks).2.1,
    (FrameDecoder.feedChunks_bodies chunks).2.2, cut]
  clear cut
  induction sent with
  | nil => exact ⟨rfl, rfl, rfl⟩
  | cons first rest ih =>
    obtain ⟨frames, rejected, overflowed⟩ := ih fun frame member =>
      encoded frame (mem_cons_of_mem _ member)
    obtain ⟨body, framed, something, nonzero, decoded⟩ :=
      decodeFrame_body (encoded first mem_cons_self)
    rw [map_cons, flatten_cons, framed, append_assoc, singleton_append, Delimited.bodies,
      Delimited.bodiesFrom_append_mark [] _ nonzero something, nil_append, filterMap_cons,
      countP_cons, countP_cons, frames, rejected, overflowed, filter_cons, countP_cons, refused,
      returned, Delimited.within, framed, length_append, length_singleton]
    by_cases long : maximum < body.length
    · simp [long, Nat.not_le.mpr long]
    · simp [long, Nat.not_lt.mp long, decoded]

/-- A ping in two chunks. -/
theorem frames_received_ping : ∃ bytes : Bytes,
    (({} : FrameDecoder 96).feedChunks [bytes.take 5, bytes.drop 5]).2 =
      [(⟨{ kind := .ping }, []⟩ : Decoded).toHost] := by
  rcases Frame.exists_encodes ⟨{ kind := .ping }, []⟩ (by decide) (by decide) (by decide) with
    ⟨bytes, encodes, bound⟩
  have sent : ∀ frame ∈ [(bytes, (⟨{ kind := .ping }, []⟩ : Decoded))],
    Frame.Encodes frame.1 frame.2 := forall_mem_singleton.mpr encodes
  have received : (({} : FrameDecoder 96).feedChunks [bytes.take 5, bytes.drop 5]).2 = _ :=
    (frames_received sent (by simp)).1
  rw [filter_singleton, decide_eq_true (bound.trans (by decide))] at received
  exact ⟨bytes, received⟩

end Host

end Solar.Remote
