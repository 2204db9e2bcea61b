/-
This file models the zero-delimited stream decoder. Bytes collect until a zero;
what has collected is decoded as a frame. Bytes beyond the buffer are dropped up
to the next zero.

A byte makes at most one thing happen: a frame is handed on, rejected, or known to
have been dropped. `feed` is what happens over a chunk, so it does not matter how
a stream is cut into chunks; and since a zero always leaves the decoder empty,
whatever stands before it has no influence on what comes after.
-/

import Solar.Library.Delimited
import Solar.Remote.Frame.Codec

namespace Solar.Remote

open List

/-- The counters of a decoder. -/
structure FeedRecord where
  accepted : Nat := 0
  rejected : Nat := 0
  overflowed : Nat := 0

/-- What a delimiter makes happen. -/
inductive FeedOutcome
  | accepted (frame : Decoded)
  | rejected
  | overflowed
  deriving DecidableEq

def FeedRecord.count (record : FeedRecord) : FeedOutcome → FeedRecord
  | .accepted _ => { record with accepted := record.accepted + 1 }
  | .rejected => { record with rejected := record.rejected + 1 }
  | .overflowed => { record with overflowed := record.overflowed + 1 }

/-- The frame that is handed on. -/
def FeedOutcome.frame? : FeedOutcome → Option Decoded
  | .accepted frame => some frame
  | _ => none

/-- `StreamDecoder`: at most `maxEncoded` bytes wait for their delimiter. -/
structure StreamDecoder (maxEncoded maxDecoded : Nat) where
  encoded : Bytes := []
  bounded : encoded.length ≤ maxEncoded := by exact Nat.zero_le _
  dropping : Bool := false
  totals : FeedRecord := {}

namespace StreamDecoder

variable {maxEncoded maxDecoded : Nat}

section

variable (decoder : StreamDecoder maxEncoded maxDecoded)

/-- The decoder has no bytes. -/
def empty : StreamDecoder maxEncoded maxDecoded :=
  { decoder with encoded := [], bounded := Nat.zero_le _, dropping := false }

def withTotals (decoder : StreamDecoder maxEncoded maxDecoded) (totals : FeedRecord) :
    StreamDecoder maxEncoded maxDecoded :=
  { decoder with totals }

/-- The byte joins those that wait. -/
def collect (byte : UInt8) (room : decoder.encoded.length < maxEncoded) :
    StreamDecoder maxEncoded maxDecoded :=
  { decoder with
    encoded := decoder.encoded ++ [byte]
    bounded := by
      rw [length_append, length_singleton]
      exact room }

end

/-- One round of the loop of `feed`. -/
def step (decoder : StreamDecoder maxEncoded maxDecoded) (byte : UInt8) :
    StreamDecoder maxEncoded maxDecoded × Option FeedOutcome :=
  if byte = 0 then
    if decoder.dropping then (decoder.empty, some .overflowed)
    else if decoder.encoded = [] then (decoder, none)
    else
      match Frame.decode decoder.encoded maxDecoded with
      | .ok frame => (decoder.empty, some (.accepted frame))
      | .error _ => (decoder.empty, some .rejected)
  else if decoder.dropping then (decoder, none)
  else if room : decoder.encoded.length < maxEncoded then
    (decoder.collect byte room, none)
  else ({ decoder.empty with dropping := true }, none)

/-- The loop of `feed`: what is left of the decoder, and what happened. -/
def scan (decoder : StreamDecoder maxEncoded maxDecoded) :
    Bytes → StreamDecoder maxEncoded maxDecoded × List FeedOutcome
  | [] => (decoder, [])
  | byte :: rest =>
      let stepped := decoder.step byte
      let later := stepped.1.scan rest
      (later.1, stepped.2.toList ++ later.2)

/-- The result of `feed`: the decoder, the record of this call and the frames handed on. -/
structure Fed (maxEncoded maxDecoded : Nat) where
  decoder : StreamDecoder maxEncoded maxDecoded
  record : FeedRecord
  frames : List Decoded

def feed (decoder : StreamDecoder maxEncoded maxDecoded) (input : Bytes) :
    Fed maxEncoded maxDecoded :=
  let scanned := decoder.scan input
  let record := scanned.2.foldl FeedRecord.count {}
  { decoder := scanned.1.withTotals {
      accepted := scanned.1.totals.accepted + record.accepted
      rejected := scanned.1.totals.rejected + record.rejected
      overflowed := scanned.1.totals.overflowed + record.overflowed }
    record
    frames := scanned.2.filterMap FeedOutcome.frame? }

/-- A stream that arrives in chunks: the decoder at the end and all frames handed on. -/
def feedChunks (decoder : StreamDecoder maxEncoded maxDecoded) :
    List Bytes → StreamDecoder maxEncoded maxDecoded × List Decoded
  | [] => (decoder, [])
  | chunk :: rest =>
      let fed := decoder.feed chunk
      let later := fed.decoder.feedChunks rest
      (later.1, fed.frames ++ later.2)

/-! ### Chunks -/

variable {decoder other : StreamDecoder maxEncoded maxDecoded}

section

variable (decoder)

theorem scan_append (first second : Bytes) :
    decoder.scan (first ++ second) = (((decoder.scan first).1.scan second).1,
        (decoder.scan first).2 ++ ((decoder.scan first).1.scan second).2) := by
  induction first generalizing decoder with
  | nil => rfl
  | cons byte rest ih =>
    rw [cons_append, scan, scan]
    rw [ih, append_assoc]

theorem step_withTotals (totals : FeedRecord) (byte : UInt8) :
    (decoder.withTotals totals).step byte =
      ((decoder.step byte).1.withTotals totals, (decoder.step byte).2) := by
  unfold step withTotals empty
  dsimp only
  split
  · split
    · rfl
    · split
      · rfl
      · split
        · rfl
        · rfl
  · split
    · rfl
    · split
      · rfl
      · rfl

theorem scan_withTotals (totals : FeedRecord) (input : Bytes) :
    (decoder.withTotals totals).scan input =
      ((decoder.scan input).1.withTotals totals, (decoder.scan input).2) := by
  induction input generalizing decoder with
  | nil => rfl
  | cons byte rest ih =>
    rw [scan, scan, step_withTotals]
    rw [ih]

theorem totals_step (byte : UInt8) : (decoder.step byte).1.totals = decoder.totals := by
  unfold step empty
  split
  · split
    · rfl
    · split
      · rfl
      · split
        · rfl
        · rfl
  · split
    · rfl
    · split
      · rfl
      · rfl

theorem totals_scan (input : Bytes) : (decoder.scan input).1.totals = decoder.totals := by
  induction input generalizing decoder with
  | nil => rfl
  | cons byte rest ih =>
    rw [scan]
    rw [ih, totals_step]

end

variable (outcomes : List FeedOutcome) (record : FeedRecord)

theorem foldl_count :
    outcomes.foldl FeedRecord.count record =
      ⟨record.accepted + (outcomes.foldl FeedRecord.count {}).accepted,
        record.rejected + (outcomes.foldl FeedRecord.count {}).rejected,
        record.overflowed + (outcomes.foldl FeedRecord.count {}).overflowed⟩ := by
  induction outcomes generalizing record with
  | nil => rfl
  | cons outcome rest ih =>
    rw [foldl_cons, foldl_cons, ih (record.count outcome),
      ih (FeedRecord.count {} outcome)]
    cases outcome <;> simp [FeedRecord.count, Nat.add_assoc]

theorem rejected_foldl_count :
    (outcomes.foldl FeedRecord.count record).rejected =
      record.rejected + outcomes.count .rejected := by
  induction outcomes generalizing record with
  | nil => rfl
  | cons outcome rest ih =>
    rw [foldl_cons, ih, count_cons]
    cases outcome with
    | rejected => exact Nat.add_right_comm _ 1 _
    | _ => rfl

theorem overflowed_foldl_count :
    (outcomes.foldl FeedRecord.count record).overflowed =
      record.overflowed + outcomes.count .overflowed := by
  induction outcomes generalizing record with
  | nil => rfl
  | cons outcome rest ih =>
    rw [foldl_cons, ih, count_cons]
    cases outcome with
    | overflowed => exact Nat.add_right_comm _ 1 _
    | _ => rfl

section

variable (decoder)

theorem feed_append (first second : Bytes) :
    (decoder.feed (first ++ second)).decoder = ((decoder.feed first).decoder.feed second).decoder ∧
      (decoder.feed (first ++ second)).frames =
        (decoder.feed first).frames ++ ((decoder.feed first).decoder.feed second).frames := by
  constructor
  · unfold feed
    dsimp only
    rw [scan_append, scan_withTotals]
    rw [foldl_append, foldl_count ((decoder.scan first).1.scan second).2, totals_scan, totals_scan]
    simp only [withTotals, Nat.add_assoc]
  · unfold feed
    dsimp only
    rw [scan_append, scan_withTotals]
    rw [filterMap_append]

theorem feedChunks_eq (chunks : List Bytes) :
    decoder.feedChunks chunks =
      ((decoder.feed chunks.flatten).decoder, (decoder.feed chunks.flatten).frames) := by
  induction chunks generalizing decoder with
  | nil => rfl
  | cons chunk rest ih =>
    rcases decoder.feed_append chunk rest.flatten with ⟨state, frames⟩
    rw [feedChunks, flatten_cons, state, frames, ih]

end

/-! ### Delimiters -/

/-- The bytes that wait for their delimiter. -/
def scanner (decoder : StreamDecoder maxEncoded maxDecoded) : Delimited.Scanner UInt8 :=
  ⟨decoder.encoded, decoder.dropping⟩

/-- What a delimiter makes of the bytes it closes. -/
def outcome (maxDecoded : Nat) : Option Bytes → FeedOutcome
  | none => .overflowed
  | some body =>
      match Frame.decode body maxDecoded with
      | .ok frame => .accepted frame
      | .error _ => .rejected

section

variable (decoder)

/-- A byte does to the decoder what it does to the scanner. -/
theorem step_eq (byte : UInt8) :
    (decoder.step byte).1.scanner = (decoder.scanner.step maxEncoded 0 byte).1 ∧
      (decoder.step byte).2 =
        (decoder.scanner.step maxEncoded 0 byte).2.map (outcome maxDecoded) := by
  unfold step Delimited.Scanner.step
  by_cases delimiter : byte = 0
  · rw [if_pos delimiter, if_pos delimiter]
    by_cases dropping : decoder.dropping = true
    · rw [if_pos dropping, if_pos (show decoder.scanner.dropping = true from dropping)]
      exact ⟨rfl, rfl⟩
    · rw [if_neg dropping, if_neg (show ¬ decoder.scanner.dropping = true from dropping)]
      by_cases nothing : decoder.encoded = []
      · rw [if_pos nothing, if_pos (show decoder.scanner.pending = [] from nothing)]
        exact ⟨rfl, rfl⟩
      · rw [if_neg nothing, if_neg (show ¬ decoder.scanner.pending = [] from nothing)]
        dsimp [scanner, outcome]
        cases Frame.decode decoder.encoded maxDecoded <;> exact ⟨rfl, rfl⟩
  · rw [if_neg delimiter, if_neg delimiter]
    by_cases dropping : decoder.dropping = true
    · rw [if_pos dropping, if_pos (show decoder.scanner.dropping = true from dropping)]
      exact ⟨rfl, rfl⟩
    · rw [if_neg dropping, if_neg (show ¬ decoder.scanner.dropping = true from dropping)]
      by_cases room : decoder.encoded.length < maxEncoded
      · rw [dif_pos room, if_pos (show decoder.scanner.pending.length < maxEncoded from room)]
        refine ⟨?_, rfl⟩
        rw [collect]
        rw [Bool.eq_false_iff.mpr dropping]
        rfl
      · rw [dif_neg room, if_neg (show ¬ decoder.scanner.pending.length < maxEncoded from room)]
        exact ⟨rfl, rfl⟩

theorem scan_eq (input : Bytes) :
    (decoder.scan input).1.scanner = (decoder.scanner.scan maxEncoded 0 input).1 ∧
      (decoder.scan input).2 =
        (decoder.scanner.scan maxEncoded 0 input).2.map (outcome maxDecoded) := by
  induction input generalizing decoder with
  | nil => exact ⟨rfl, rfl⟩
  | cons byte rest ih =>
    rcases decoder.step_eq byte with ⟨state, closed⟩
    rcases ih (decoder.step byte).1 with ⟨last, later⟩
    rw [state] at last later
    refine ⟨last, ?_⟩
    rw [scan, Delimited.Scanner.scan]
    rw [closed, later, map_append]
    cases (decoder.scanner.step maxEncoded 0 byte).2 with
    | none | some => rfl

theorem scan_bodies (idle : decoder.scanner = {}) (input : Bytes) :
    (decoder.scan input).2 = (Delimited.bodies 0 input).map fun body =>
      outcome maxDecoded (Delimited.within maxEncoded body) := by
  rw [(decoder.scan_eq input).2, idle,
    (Delimited.Scanner.holds_nil maxEncoded).scan_snd input, map_map]
  rfl

end

/-- What a new decoder reports of a stream. -/
theorem feedChunks_bodies (chunks : List Bytes) :
    (({} : StreamDecoder maxEncoded maxDecoded).feedChunks chunks).2 =
        (Delimited.bodies 0 chunks.flatten).filterMap (fun body =>
          (outcome maxDecoded (Delimited.within maxEncoded body)).frame?) ∧
      (({} : StreamDecoder maxEncoded maxDecoded).feedChunks chunks).1.totals.rejected =
        (Delimited.bodies 0 chunks.flatten).countP (fun body =>
          outcome maxDecoded (Delimited.within maxEncoded body) == .rejected) ∧
      (({} : StreamDecoder maxEncoded maxDecoded).feedChunks chunks).1.totals.overflowed =
        (Delimited.bodies 0 chunks.flatten).countP (fun body =>
          outcome maxDecoded (Delimited.within maxEncoded body) == .overflowed) := by
  have closed := scan_bodies ({} : StreamDecoder maxEncoded maxDecoded) rfl chunks.flatten
  rw [feedChunks_eq]
  unfold feed
  dsimp only [withTotals]
  rw [totals_scan, closed]
  refine ⟨filterMap_map, ?_, ?_⟩
  · rw [rejected_foldl_count, Nat.zero_add, Nat.zero_add, count, countP_map]
    rfl
  · rw [overflowed_foldl_count, Nat.zero_add, Nat.zero_add, count, countP_map]
    rfl

theorem scanner_scan_zero (decoder : StreamDecoder maxEncoded maxDecoded) (input : Bytes) :
    (decoder.scan (input ++ [0])).1.scanner = {} := by
  rw [(decoder.scan_eq _).1]
  exact Delimited.Scanner.scan_mark maxEncoded 0 _ input

/-! ### Resynchronization -/

/-- The decoder has room for the encoding and for the content of a frame. -/
def Admits (maxEncoded maxDecoded : Nat) (sent : Bytes × Decoded) : Prop :=
  sent.1.length ≤ maxEncoded + 1 ∧ envelopeSize + sent.2.payload.length + crcSize ≤ maxDecoded

instance (maxEncoded maxDecoded : Nat) : DecidablePred (Admits maxEncoded maxDecoded) :=
  fun _ => inferInstanceAs (Decidable (_ ∧ _))

/-- The body of an encoded frame is free of delimiters, and is handed on if there is room. -/
theorem frame?_outcome {bytes : Bytes} {frame : Decoded} (encodes : Frame.Encodes bytes frame) :
    ∃ body : Bytes, bytes = body ++ [0] ∧ body ≠ [] ∧ 0 ∉ body ∧
      (outcome maxDecoded (Delimited.within maxEncoded body)).frame? =
        if Admits maxEncoded maxDecoded (bytes, frame) then some frame else none := by
  rcases encodes.content with ⟨header, written, sized, rfl⟩
  have decoded := Frame.toOption_decode_of_content written sized maxDecoded
  generalize contents : Frame.content header frame.payload = content at decoded
  refine ⟨Cobs.encode content, rfl, Cobs.encode_ne_nil _, Cobs.zero_not_mem_encode _, ?_⟩
  have length : (Cobs.encode content ++ [0]).length = (Cobs.encode content).length + 1 := by
    rw [length_append, length_singleton]
  rw [Delimited.within]
  by_cases small : maxEncoded < (Cobs.encode content).length
  · have large : ¬ Admits maxEncoded maxDecoded (Cobs.encode content ++ [0], frame) := by
      intro admits
      have bound := admits.1
      rw [length] at bound
      omega
    rw [if_pos small, if_neg large]
    rfl
  · rw [if_neg small, outcome]
    by_cases fits : envelopeSize + frame.payload.length + crcSize ≤ maxDecoded
    · rw [if_pos fits] at decoded
      rw [if_pos ⟨by rw [length]; omega, fits⟩]
      cases result : Frame.decode (Cobs.encode content) maxDecoded with rw [result] at decoded
      | error failure => cases decoded
      | ok frame => exact decoded
    · rw [if_neg fits] at decoded
      rw [if_neg fun admits => fits admits.2]
      cases result : Frame.decode (Cobs.encode content) maxDecoded with
      | error failure => rfl
      | ok frame =>
        rw [result] at decoded
        cases decoded

theorem scan_frames (idle : decoder.scanner = {}) {sent : List (Bytes × Decoded)}
    (encoded : ∀ frame ∈ sent, Frame.Encodes frame.1 frame.2) :
    (decoder.scan (sent.map Prod.fst).flatten).2.filterMap FeedOutcome.frame? =
      (sent.filter fun frame => decide (Admits maxEncoded maxDecoded frame)).map Prod.snd := by
  rw [decoder.scan_bodies idle]
  induction sent with
  | nil => rfl
  | cons first rest ih =>
    have delivered := ih fun frame member =>
      encoded frame (mem_cons_of_mem _ member)
    rcases frame?_outcome (encoded first mem_cons_self) with
      ⟨body, framed, something, nonzero, handed⟩
    rw [map_cons, flatten_cons, framed, append_assoc, singleton_append,
      Delimited.bodies, Delimited.bodiesFrom_append_mark [] _ nonzero something, nil_append,
      map_cons, filterMap_cons, handed, delivered, filter_cons]
    by_cases admits : Admits maxEncoded maxDecoded first
    · rw [if_pos admits, if_pos (decide_eq_true admits)]
      rfl
    · rw [if_neg admits, if_neg (by rwa [decide_eq_true_eq])]

/-- How a stream is cut into chunks makes no difference to the decoder, and whatever it has read,
after the next delimiter it hands on exactly the frames that it has room for, in order. -/
theorem stream_resynchronizes (decoder : StreamDecoder maxEncoded maxDecoded) :
    (∀ chunks others : List Bytes, chunks.flatten = others.flatten →
      decoder.feedChunks chunks = decoder.feedChunks others) ∧
    ∀ (garbage : Bytes) (sent : List (Bytes × Decoded)),
      (∀ frame ∈ sent, Frame.Encodes frame.1 frame.2) →
      (decoder.feed (garbage ++ 0 :: (sent.map Prod.fst).flatten)).frames =
        (decoder.feed (garbage ++ [0])).frames ++
          (sent.filter fun frame => decide (Admits maxEncoded maxDecoded frame)).map Prod.snd := by
  constructor
  · intro chunks others same
    rw [feedChunks_eq, feedChunks_eq, same]
  · intro garbage sent encoded
    have delivered := scan_frames (decoder.scanner_scan_zero garbage) encoded
    rw [← singleton_append, ← append_assoc]
    unfold feed
    dsimp only
    rw [scan_append]
    rw [filterMap_append, delivered]

/-- A ping behind three stray bytes. -/
theorem stream_resynchronizes_ping :
    ∃ bytes : Bytes, (({} : StreamDecoder 96 64).feed ([1, 2, 3] ++ 0 :: bytes)).frames =
        (({} : StreamDecoder 96 64).feed ([1, 2, 3] ++ [0])).frames ++ [⟨{ kind := .ping }, []⟩] := by
  rcases Frame.exists_encodes ⟨{ kind := .ping }, []⟩ (by decide) (by decide) (by decide) with
    ⟨bytes, encodes, bound⟩
  have admits : Admits 96 64 (bytes, ⟨{ kind := .ping }, []⟩) :=
    ⟨bound.trans (by decide), show 32 + 0 + 4 ≤ 64 by decide⟩
  have delivered := (stream_resynchronizes ({} : StreamDecoder 96 64)).2 [1, 2, 3]
    [(bytes, ⟨{ kind := .ping }, []⟩)] (forall_mem_singleton.mpr encodes)
  rw [map_singleton, flatten_singleton, filter_singleton,
    decide_eq_true admits] at delivered
  exact ⟨bytes, delivered⟩

/-- The encoding of a frame may fit a decoder that has no room for its content. -/
theorem stream_not_resynchronized :
    ∃ (bytes : Bytes) (frame : Decoded), Frame.Encodes bytes frame ∧ bytes.length ≤ 96 + 1 ∧
      (({} : StreamDecoder 96 64).feed ([] ++ 0 :: bytes)).frames = [] := by
  rcases Frame.exists_encodes ⟨{ kind := .ping, payloadSize := 29 }, replicate 29 7⟩
    (by decide) (by decide) (by decide) with ⟨bytes, encodes, bound⟩
  refine ⟨bytes, _, encodes, bound.trans (by decide), ?_⟩
  have idle : ({} : StreamDecoder 96 64).scanner = {} := rfl
  have refused : ¬ Admits 96 64 (bytes, ⟨{ kind := .ping, payloadSize := 29 },
      replicate 29 7⟩) :=
    fun admits => absurd admits.2 (show ¬ 32 + 29 + 4 ≤ 64 by decide)
  have sent : ∀ frame ∈ [(bytes, (⟨{ kind := .ping, payloadSize := 29 }, replicate 29 7⟩ :
      Decoded))], Frame.Encodes frame.1 frame.2 := forall_mem_singleton.mpr encodes
  have delivered := scan_frames idle sent
  rw [map_singleton, flatten_singleton, filter_singleton,
    decide_eq_false refused] at delivered
  exact delivered

end StreamDecoder

end Solar.Remote
