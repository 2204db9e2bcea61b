/-
This file models how the firmware publishes the values of an outbound stream and
how the host takes them apart again. A Push stream with a batch count above one
publishes batch images, a header and length-prefixed entries; every other stream
publishes encodings as they are. The manifest calls a stream batched if it is a
Push stream, and the host goes by the manifest.

A batch image gives back its entries if their lengths fit the 16-bit prefixes. A
plain encoding is never the batch image of itself, so for a Push stream without
a batch count the host never gets what was published.
-/

import Solar.Remote.Protocol

namespace Solar.Remote

open List Option

/-! ### Declarations -/

/-- How an outbound stream comes by its values. -/
inductive Acquisition
  | push | poll | loaned
  deriving DecidableEq

/-- The policies of an outbound stream. -/
inductive StreamPolicy
  | batch (count : Nat)
  | maxRate (hertz : Nat)
  | queue (depth : Nat)
  | latest

def StreamPolicy.batch? : StreamPolicy → Option Nat
  | .batch count => some count
  | _ => none

/-- An `OutStream` declaration. The counts of its batch policies are positive and fit the manifest,
and there is at most one of them. -/
structure OutStream where
  acquisition : Acquisition
  policies : List StreamPolicy := []
  positive : ∀ count ∈ policies.filterMap StreamPolicy.batch?, 0 < count ∧ count ≤ 65535 := by
    decide
  single : (policies.filterMap StreamPolicy.batch?).length ≤ 1 := by decide

/-- `selected_batch_count`. -/
def OutStream.batchCount (stream : OutStream) : Nat :=
  stream.policies.foldl (fun count policy => policy.batch?.getD count) 1

/-- The BatchedFraming flag of the capability record. -/
def OutStream.batchedFraming (stream : OutStream) : Bool := stream.acquisition = .push

/-- What the publisher uses of a schema. -/
structure ValueSchema (Value : Type) where
  codec : Codec
  maxEncodedSize : Nat
  encode : Value → Option Bytes

/-- Encode into a buffer of the given size. -/
def ValueSchema.encodeInto {Value : Type} (schema : ValueSchema Value) (value : Value)
    (space : Nat) : Option Bytes :=
  (schema.encode value).filter fun bytes => decide (bytes.length ≤ space)

/-! ### The publisher -/

/-- What goes out in one Data frame: the values with their encodings, and the payload. -/
structure Publication (Value : Type) where
  values : List (Value × Bytes)
  payload : Bytes

def batchHeaderSize : Nat := 4
def batchVersion : UInt8 := 1

/-- A batch image. -/
def batchImage (codec : Codec) (entries : List Bytes) : Bytes :=
  putU16 (UInt16.ofNat entries.length) ++ [codec.code, batchVersion] ++
    entries.flatMap fun entry => putU16 (UInt16.ofNat entry.length) ++ entry

variable {Value : Type} (schema : ValueSchema Value)

/-- The loop of `publish_push_batch`: values are taken until enough are encoded, none is left, or
one does not encode, which is lost. -/
def takeBatch : Nat → Nat → List Value → List Value × List (Value × Bytes)
  | 0, _, queue => (queue, [])
  | _ + 1, _, [] => ([], [])
  | count + 1, space, value :: queue =>
      match schema.encodeInto value (space - 2) with
      | none => (queue, [])
      | some bytes =>
          let later := takeBatch count (space - (2 + bytes.length)) queue
          (later.1, (value, bytes) :: later.2)

/-- The space for the entries of a batch. -/
def batchSpace (stream : OutStream) : Nat := stream.batchCount * (2 + schema.maxEncodedSize)

def publishPushBatch (stream : OutStream) (queue : List Value) :
    List Value × Option (Publication Value) :=
  let taken := takeBatch schema stream.batchCount (batchSpace schema stream) queue
  (taken.1,
    if taken.2 = [] then none
    else some ⟨taken.2, batchImage schema.codec (taken.2.map Prod.snd)⟩)

/-- `publish_data_value`. -/
def publishDataValue (value : Value) : Option (Publication Value) :=
  (schema.encodeInto value schema.maxEncodedSize).map fun bytes => ⟨[(value, bytes)], bytes⟩

/-- What a stream has to publish: the queue of a Push stream, the value of a poll, or the bytes that
the application wrote into a loan for a value. -/
inductive Pending (Value : Type)
  | queue (values : List Value)
  | polled (value : Value)
  | loan (value : Value) (bytes : Bytes)

/-- `process_stream_publication_for` and `execute_poll`. -/
def publish (stream : OutStream) : Pending Value → Option (Publication Value)
  | .queue values =>
      if stream.acquisition ≠ .push then none
      else if 1 < stream.batchCount then (publishPushBatch schema stream values).2
      else values.head?.bind (publishDataValue schema)
  | .polled value => if stream.acquisition = .poll then publishDataValue schema value else none
  | .loan value bytes => if stream.acquisition = .loaned then some ⟨[(value, bytes)], bytes⟩ else none

/-! ### The host -/

namespace Host

/-- The loop of `decode_batch`, over the bytes from the offset on. -/
def decodeEntries : Nat → Bytes → Except String (List Bytes)
  | 0, data => if data = [] then .ok [] else .error "trailing batch data"
  | count + 1, data =>
      if data.length < 2 then .error "truncated batch length"
      else
        let size := (getU16 data 0).toNat
        if (data.drop 2).length < size then .error "truncated batch entry"
        else
          match decodeEntries count ((data.drop 2).drop size) with
          | .error message => .error message
          | .ok entries => .ok ((data.drop 2).take size :: entries)

/-- `decode_batch`, without the codec that `_deliver` drops. -/
def decodeBatch (data : Bytes) : Except String (List Bytes) :=
  if data.length < batchHeaderSize then .error "short batch"
  else if (data.getD 2 0 ≠ 1 ∧ data.getD 2 0 ≠ 2) ∨ data.getD 3 0 ≠ batchVersion then
    .error "unsupported batch"
  else decodeEntries (getU16 data 0).toNat (data.drop batchHeaderSize)

/-- The payloads of `Subscription._deliver`. -/
def items (batched : Bool) (payload : Bytes) : Except String (List Bytes) :=
  if batched then decodeBatch payload else .ok [payload]

/-- The values of `Subscription._deliver`, under a codec. -/
def deliver (decode : Bytes → Except String Value) (batched : Bool) (payload : Bytes) :
    Except String (List Value) :=
  (items batched payload).bind fun entries => entries.mapM decode

theorem mapM_decode {decode : Bytes → Except String Value} {values : List (Value × Bytes)}
    (decodes : ∀ entry ∈ values, decode entry.2 = .ok entry.1) :
    (values.map Prod.snd).mapM decode = .ok (values.map Prod.fst) := by
  induction values with
  | nil => rfl
  | cons entry rest ih =>
    rw [map_cons, mapM_cons, decodes entry mem_cons_self,
      ih fun other member => decodes other (mem_cons_of_mem _ member)]
    rfl

/-! ### Batches -/

theorem toNat_getU16_putU16 (value : Nat) (rest : Bytes) :
    (getU16 (putU16 (UInt16.ofNat value) ++ rest) 0).toNat = value % 65536 := by
  rw [getU16_putU16, UInt16.toNat_ofNat']

/-- Entries that fit their prefixes come back. -/
theorem decodeEntries_flatMap {entries : List Bytes}
    (short : ∀ entry ∈ entries, entry.length ≤ 65535) :
    decodeEntries entries.length
        (entries.flatMap fun entry => putU16 (UInt16.ofNat entry.length) ++ entry) =
      .ok entries := by
  induction entries with
  | nil => rfl
  | cons entry rest ih =>
    have fits : entry.length % 65536 = entry.length :=
      Nat.mod_eq_of_lt (Nat.lt_succ_of_le (short entry mem_cons_self))
    have later := ih fun other member => short other (mem_cons_of_mem _ member)
    rw [flatMap_cons, length_cons, append_assoc, decodeEntries]
    generalize rest.flatMap (fun entry => putU16 (UInt16.ofNat entry.length) ++ entry) = tail
      at later ⊢
    have long : ¬ (putU16 (UInt16.ofNat entry.length) ++ (entry ++ tail)).length < 2 := by
      rw [length_append]
      exact Nat.not_lt.mpr (Nat.le_add_right 2 _)
    have behind : (putU16 (UInt16.ofNat entry.length) ++ (entry ++ tail)).drop 2 = entry ++ tail :=
      rfl
    rw [if_neg long]
    rw [toNat_getU16_putU16, fits, behind, if_neg (by rw [length_append]; omega),
      drop_left, take_left, later]

theorem decodeBatch_batchImage {codec : Codec} (entries : List Bytes)
    (count : entries.length ≤ 65535) :
    decodeBatch (batchImage codec entries) = decodeEntries entries.length
      (entries.flatMap fun entry => putU16 (UInt16.ofNat entry.length) ++ entry) := by
  have size : (UInt16.ofNat entries.length).toNat = entries.length := by
    exact Nat.mod_eq_of_lt (Nat.lt_succ_of_le count)
  unfold decodeBatch batchImage
  generalize entries.flatMap (fun entry => putU16 (UInt16.ofNat entry.length) ++ entry) = body
  rw [append_assoc, if_neg, if_neg, getU16_putU16, size]
  · rfl
  · cases codec with
    | cbor => exact fun wrong => wrong.elim (fun kinds => kinds.1 rfl) fun version => version rfl
    | packed => exact fun wrong => wrong.elim (fun kinds => kinds.2 rfl) fun version => version rfl
  · rw [length_append, length_append]
    show ¬ 2 + (2 + body.length) < 4
    omega

theorem length_le_of_decodeEntries {count : Nat} {data : Bytes} {entries : List Bytes}
    (decoded : decodeEntries count data = .ok entries) :
    ∀ entry ∈ entries, entry.length ≤ data.length := by
  induction count generalizing data entries with rw [decodeEntries] at decoded
  | zero =>
    split at decoded
    · cases decoded
      exact nofun
    · exact nomatch decoded
  | succ count ih =>
    split at decoded
    · exact nomatch decoded
    · dsimp only at decoded
      split at decoded
      · exact nomatch decoded
      · cases further : decodeEntries count ((data.drop 2).drop (getU16 data 0).toNat) with
        | error message =>
          rw [further] at decoded
          exact nomatch decoded
        | ok later =>
          rw [further] at decoded
          cases decoded
          intro entry member
          rcases mem_cons.mp member with rfl | member
          · rw [length_take, length_drop]
            omega
          · have bound := ih further entry member
            rw [length_drop, length_drop] at bound
            omega

theorem decodeBatch_ne_self {data : Bytes} : decodeBatch data ≠ .ok [data] := by
  intro decoded
  unfold decodeBatch at decoded
  split at decoded
  · exact nomatch decoded
  · rename_i long
    split at decoded
    · exact nomatch decoded
    · have bound := length_le_of_decodeEntries decoded data mem_cons_self
      rw [length_drop] at bound
      unfold batchHeaderSize at long bound
      omega

end Host

/-! ### Publications -/

section

variable {schema : ValueSchema Value} {stream : OutStream}

variable {publication : Publication Value} {value : Value} {bytes : Bytes}

theorem encodeInto_eq_some {space : Nat} :
    schema.encodeInto value space = some bytes ↔
      schema.encode value = some bytes ∧ bytes.length ≤ space := by
  rw [ValueSchema.encodeInto, filter_eq_some_iff, decide_eq_true_eq]

/-- A batch has no more entries than its count, and each is the encoding of its value. -/
theorem takeBatch_spec (count space : Nat) (queue : List Value) :
    (takeBatch schema count space queue).2.length ≤ count ∧
      ∀ entry ∈ (takeBatch schema count space queue).2,
        schema.encodeInto entry.1 (space - 2) = some entry.2 := by
  induction count generalizing space queue with
  | zero => exact ⟨Nat.le_refl _, nofun⟩
  | succ count ih =>
    cases queue with
    | nil => exact ⟨Nat.zero_le _, nofun⟩
    | cons value queue =>
      rw [takeBatch]
      cases encoded : schema.encodeInto value (space - 2) with
      | none => exact ⟨Nat.zero_le _, nofun⟩
      | some bytes =>
        rcases ih (space - (2 + bytes.length)) queue with ⟨few, entries⟩
        refine ⟨Nat.succ_le_succ few, ?_⟩
        intro entry member
        rcases mem_cons.mp member with rfl | member
        · exact encoded
        · rcases encodeInto_eq_some.mp (entries entry member) with ⟨same, fits⟩
          exact encodeInto_eq_some.mpr ⟨same, by omega⟩

theorem foldl_batch_le {policies : List StreamPolicy} {count : Nat} (small : count ≤ 65535)
    (declared : ∀ count ∈ policies.filterMap StreamPolicy.batch?, 0 < count ∧ count ≤ 65535) :
    policies.foldl (fun count policy => policy.batch?.getD count) count ≤ 65535 := by
  induction policies generalizing count with
  | nil => exact small
  | cons policy rest ih =>
    rw [foldl_cons]
    rw [filterMap_cons] at declared
    cases batch : policy.batch? with rw [batch] at declared
    | none => exact ih small declared
    | some other =>
      exact ih (declared other mem_cons_self).2
        fun count member => declared count (mem_cons_of_mem _ member)

theorem batchCount_le : stream.batchCount ≤ 65535 :=
  foldl_batch_le (by decide) stream.positive

/-- Every publication of the stream is a batch image. -/
def Batches (schema : ValueSchema Value) (stream : OutStream) : Prop :=
  ∀ pending publication, publish schema stream pending = some publication →
    publication.payload = batchImage schema.codec (publication.values.map Prod.snd)

/-- The host gets the encodings of every publication of the stream. -/
def Recovers (schema : ValueSchema Value) (stream : OutStream) : Prop :=
  ∀ pending publication, publish schema stream pending = some publication →
    Host.items stream.batchedFraming publication.payload = .ok (publication.values.map Prod.snd)

theorem publishDataValue_eq_some :
    publishDataValue schema value = some publication ↔
      ∃ bytes, schema.encodeInto value schema.maxEncodedSize = some bytes ∧
        publication = ⟨[(value, bytes)], bytes⟩ := by
  rw [publishDataValue, map_eq_some_iff]
  constructor
  · rintro ⟨bytes, encoded, rfl⟩
    exact ⟨bytes, encoded, rfl⟩
  · rintro ⟨bytes, encoded, rfl⟩
    exact ⟨bytes, encoded, rfl⟩

/-- What a Push stream with a batch count publishes. -/
theorem publish_batch (push : stream.acquisition = .push) (several : 1 < stream.batchCount)
    {pending : Pending Value} (published : publish schema stream pending = some publication) :
    publication.payload = batchImage schema.codec (publication.values.map Prod.snd) ∧
      publication.values.length ≤ 65535 ∧
      ∀ entry ∈ publication.values,
        schema.encodeInto entry.1 (batchSpace schema stream - 2) = some entry.2 := by
  cases pending with
  | queue values =>
    rw [publish, if_neg (fun other => other push), if_pos several, publishPushBatch] at published
    split at published
    · exact nomatch published
    · cases published
      rcases takeBatch_spec stream.batchCount (batchSpace schema stream) values with ⟨few, encoded⟩
      exact ⟨rfl, Nat.le_trans few batchCount_le, encoded⟩
  | _ =>
    rw [publish, push] at published
    exact nomatch published

/-- What any other stream publishes. -/
theorem publish_plain (plain : stream.acquisition ≠ .push ∨ ¬ 1 < stream.batchCount)
    {pending : Pending Value} (published : publish schema stream pending = some publication) :
    ∃ value, publication.values = [(value, publication.payload)] ∧ (stream.acquisition = .push →
        schema.encodeInto value schema.maxEncodedSize = some publication.payload) := by
  cases pending with rw [publish] at published
  | queue values =>
    split at published
    · exact nomatch published
    · rename_i push
      rw [not_not] at push
      rcases plain with other | single
      · exact absurd push other
      · rw [if_neg single] at published
        rcases bind_eq_some_iff.mp published with ⟨value, -, encoded⟩
        rcases publishDataValue_eq_some.mp encoded with ⟨bytes, fits, rfl⟩
        exact ⟨value, rfl, fun _ => fits⟩
  | polled value =>
    split at published
    · rcases publishDataValue_eq_some.mp published with ⟨bytes, fits, rfl⟩
      exact ⟨value, rfl, fun _ => fits⟩
    · exact nomatch published
  | loan value bytes =>
    split at published
    · rename_i loaned
      cases published
      refine ⟨value, rfl, fun push => ?_⟩
      rw [loaned] at push
      exact nomatch push
    · exact nomatch published

/-- Some value of the schema has an encoding. -/
def Encodable (schema : ValueSchema Value) : Prop :=
  ∃ value bytes, schema.encodeInto value schema.maxEncodedSize = some bytes

/-- Every entry of a batch fits its length prefix. -/
def ShortEntries (schema : ValueSchema Value) (stream : OutStream) : Prop :=
  ∀ value bytes, schema.encodeInto value (batchSpace schema stream - 2) = some bytes →
    bytes.length ≤ 65535

theorem publish_single (push : stream.acquisition = .push) (single : ¬ 1 < stream.batchCount)
    (encoded : schema.encodeInto value schema.maxEncodedSize = some bytes) :
    publish schema stream (.queue [value]) = some ⟨[(value, bytes)], bytes⟩ := by
  rw [publish, if_neg (fun other => other push), if_neg single]
  exact publishDataValue_eq_some.mpr ⟨bytes, encoded, rfl⟩

theorem publish_batch_single (push : stream.acquisition = .push) (several : 1 < stream.batchCount)
    (encoded : schema.encodeInto value (batchSpace schema stream - 2) = some bytes) :
    publish schema stream (.queue [value]) =
      some ⟨[(value, bytes)], batchImage schema.codec [bytes]⟩ := by
  rcases Nat.exists_eq_succ_of_ne_zero (Nat.ne_zero_of_lt several) with ⟨more, count⟩
  have taken : takeBatch schema stream.batchCount (batchSpace schema stream) [value] =
      ([], [(value, bytes)]) := by
    rw [count, takeBatch, encoded]
    cases more with
    | zero | succ => rfl
  rw [publish, if_neg (fun other => other push), if_pos several, publishPushBatch, taken]
  rfl

/-- An entry beyond the prefix leaves bytes behind. -/
theorem decodeBatch_of_long {codec : Codec} (long : 65535 < bytes.length) :
    Host.decodeBatch (batchImage codec [bytes]) ≠ .ok [bytes] := by
  have one : ([bytes] : List Bytes).length ≤ 65535 := Nat.le_add_left 1 65534
  have left : (bytes ++ []).drop (bytes.length % 65536) ≠ [] := by
    rw [append_nil]
    intro nothing
    have none := congrArg length nothing
    rw [length_drop, length_nil] at none
    omega
  rw [Host.decodeBatch_batchImage [bytes] one, length_singleton, flatMap_cons,
    flatMap_nil, Host.decodeEntries]
  intro decoded
  split at decoded
  · exact nomatch decoded
  · dsimp only at decoded
    rw [append_assoc, Host.toNat_getU16_putU16] at decoded
    split at decoded
    · exact nomatch decoded
    · have behind : (putU16 (UInt16.ofNat bytes.length) ++ (bytes ++ [])).drop 2 = bytes ++ [] := rfl
      rw [behind, Host.decodeEntries, if_neg left] at decoded
      exact nomatch decoded

theorem batchImage_ne_self (codec : Codec) (bytes : Bytes) : batchImage codec [bytes] ≠ bytes := by
  intro same
  have length := congrArg length same
  simp only [batchImage, putU16, length_append, flatMap_cons, flatMap_nil,
    length_cons, length_nil] at length
  omega

/-- The host gets what is published unless the stream is a Push stream that publishes single
values, or entries too long for their prefixes. -/
theorem recovers_iff :
    Recovers schema stream ↔
      (stream.acquisition = .push → (1 < stream.batchCount → ShortEntries schema stream) ∧
        (¬ 1 < stream.batchCount → ¬ Encodable schema)) := by
  constructor
  · intro recovers push
    have batched : stream.batchedFraming = true := decide_eq_true push
    constructor
    · intro several value bytes encoded
      by_contra long
      have items := recovers _ _ (publish_batch_single push several encoded)
      rw [batched] at items
      exact decodeBatch_of_long (Nat.not_le.mp long) items
    · rintro single ⟨value, bytes, encoded⟩
      have items := recovers _ _ (publish_single push single encoded)
      rw [batched] at items
      exact Host.decodeBatch_ne_self items
  · intro framed pending publication published
    by_cases push : stream.acquisition = .push
    · have batched : stream.batchedFraming = true := decide_eq_true push
      rcases framed push with ⟨short, nothing⟩
      by_cases several : 1 < stream.batchCount
      · rcases publish_batch push several published with ⟨payload, few, encoded⟩
        rw [batched, payload, Host.items, Host.decodeBatch_batchImage _ (by rwa [length_map])]
        refine Host.decodeEntries_flatMap ?_
        intro bytes member
        rcases mem_map.mp member with ⟨entry, among, rfl⟩
        exact short several entry.1 entry.2 (encoded entry among)
      · rcases publish_plain (.inr several) published with ⟨value, -, encoded⟩
        exact absurd ⟨value, publication.payload, encoded push⟩ (nothing several)
    · rcases publish_plain (.inl push) published with ⟨value, values, -⟩
      have plain : stream.batchedFraming = false := decide_eq_false push
      rw [plain, values]
      rfl

/-- The manifest and the publisher agree unless a Push stream has no batch count. Streams that
publish nothing would agree with either flag. -/
theorem batchedFraming_iff [Inhabited Value] :
    (stream.batchedFraming = true ↔ Batches schema stream) ↔
      match stream.acquisition with
      | .push => 1 < stream.batchCount ∨ ¬ Encodable schema
      | .poll => Encodable schema
      | .loaned => True := by
  have batched : stream.batchedFraming = true ↔ stream.acquisition = .push := decide_eq_true_iff
  rw [batched]
  cases acquisition : stream.acquisition with
  | push =>
    constructor
    · intro agrees
      by_contra differs
      rw [not_or, not_not] at differs
      rcases differs with ⟨single, value, bytes, encoded⟩
      have image := agrees.mp rfl _ _ (publish_single acquisition single encoded)
      exact batchImage_ne_self schema.codec bytes image.symm
    · intro framed
      refine ⟨fun _ => ?_, fun _ => rfl⟩
      intro pending publication published
      by_cases several : 1 < stream.batchCount
      · exact (publish_batch acquisition several published).1
      · rcases publish_plain (.inr several) published with ⟨value, -, encoded⟩
        rcases framed with several' | nothing
        · exact absurd several' several
        · exact absurd ⟨value, publication.payload, encoded acquisition⟩ nothing
  | poll =>
    constructor
    · intro agrees
      by_contra nothing
      refine absurd (agrees.mpr ?_) (by decide)
      intro pending publication published
      cases pending with
      | polled value =>
        rw [publish, if_pos acquisition] at published
        rcases publishDataValue_eq_some.mp published with ⟨bytes, encoded, -⟩
        exact absurd ⟨value, bytes, encoded⟩ nothing
      | _ =>
        rw [publish, acquisition] at published
        exact nomatch published
    · rintro ⟨value, bytes, encoded⟩
      refine ⟨nofun, fun batches => ?_⟩
      have published : publish schema stream (.polled value) = some ⟨[(value, bytes)], bytes⟩ := by
        rw [publish, if_pos acquisition]
        exact publishDataValue_eq_some.mpr ⟨bytes, encoded, rfl⟩
      exact absurd (batches _ _ published).symm (batchImage_ne_self schema.codec bytes)
  | loaned =>
    refine iff_of_true ⟨nofun, fun batches => ?_⟩ trivial
    have published : publish schema stream (.loan default []) = some ⟨[(default, [])], []⟩ := by
      rw [publish, if_pos acquisition]
    exact absurd (batches _ _ published).symm (batchImage_ne_self schema.codec [])

/-- The BatchedFraming flag says how a stream is framed unless it is a Push stream without a batch
count, and the host, which goes by the flag, gets what is published unless it is such a stream or
an entry is too long for its prefix. -/
theorem framing_agrees [Inhabited Value] (schema : ValueSchema Value) (stream : OutStream) :
    ((stream.batchedFraming = true ↔ Batches schema stream) ↔
      match stream.acquisition with
      | .push => 1 < stream.batchCount ∨ ¬ Encodable schema
      | .poll => Encodable schema
      | .loaned => True) ∧
    (Recovers schema stream ↔
      (stream.acquisition = .push → (1 < stream.batchCount → ShortEntries schema stream) ∧
        (¬ 1 < stream.batchCount → ¬ Encodable schema))) ∧
    ∀ decode : Bytes → Except String Value, Recovers schema stream →
      ∀ pending publication, publish schema stream pending = some publication →
        (∀ entry ∈ publication.values, decode entry.2 = .ok entry.1) →
        Host.deliver decode stream.batchedFraming publication.payload =
          .ok (publication.values.map Prod.fst) := by
  refine ⟨batchedFraming_iff, recovers_iff, ?_⟩
  intro decode recovers pending publication published decodes
  rw [Host.deliver, recovers pending publication published]
  exact Host.mapM_decode decodes

/-- A schema of single bytes. -/
def byteSchema : ValueSchema UInt8 where
  codec := .packed
  maxEncodedSize := 1
  encode := fun value => some [value]

/-- Two bytes of a Push stream in batches of up to four. -/
theorem framing_agrees_batch :
    Host.deliver (fun bytes => .ok (bytes.headD 0)) true
      (batchImage .packed [[7], [8]]) = .ok [7, 8] := by
  have framed : Recovers byteSchema { acquisition := .push, policies := [.batch 4] } := by
    refine (framing_agrees byteSchema _).2.1.mpr fun _ => ⟨fun _ value bytes encoded => ?_, ?_⟩
    · rcases encodeInto_eq_some.mp encoded with ⟨same, -⟩
      cases same
      exact Nat.le_add_left 1 65534
    · exact fun single => absurd (by decide) single
  exact (framing_agrees byteSchema { acquisition := .push, policies := [.batch 4] }).2.2
    (fun bytes => .ok (bytes.headD 0)) framed (.queue [7, 8])
    ⟨[(7, [7]), (8, [8])], batchImage .packed [[7], [8]]⟩ rfl
    (forall_mem_cons.mpr ⟨rfl, forall_mem_singleton.mpr rfl⟩)

/-- A Push stream without a batch count is called batched, and the host rejects what it publishes. -/
theorem framing_disagrees :
    OutStream.batchedFraming { acquisition := .push } = true ∧
      publish byteSchema { acquisition := .push } (.queue [7]) = some ⟨[(7, [7])], [7]⟩ ∧
      Host.items (OutStream.batchedFraming { acquisition := .push }) [7] = .error "short batch" :=
  ⟨rfl, rfl, rfl⟩

end

end Solar.Remote
