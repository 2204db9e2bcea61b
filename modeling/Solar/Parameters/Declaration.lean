/-
This file models how a parameter is stored and what a system declares about it: the
envelope of a stored record with its writer and its reader, the codec and the
validation policy of a parameter, its persistence, the persistence groups, and
the architecture that collects them after the compile-time checks.

A codec and a custom validator are code of the application. What the facility
relies on is stated here as `Codec.Lawful` and `Settles`, and proved of the
codec and the policies that come with the facility.
-/

import Solar.Library.Words
import Solar.Remote.Schema

namespace Solar.Parameters

open List Words

export Remote (Status)

/-! ### Keys -/

inductive RecordKind
  | parameter | group
  deriving DecidableEq

def RecordKind.code : RecordKind → UInt8
  | .parameter => 1
  | .group => 2

structure Key where
  kind : RecordKind
  stableId : UInt64
  deriving DecidableEq

/-! ### The envelope -/

def recordMagic : Nat := 0x534f4c50

def envelopeSize : Nat := 24

/-- The FNV-1a hash of the payload. -/
def checksum (input : Bytes) : UInt32 :=
  input.foldl (fun hash byte => (hash ^^^ byte.toUInt32) * 16777619) 2166136261

/-- The header `encode_record` writes. -/
def envelope (key : Key) (version : UInt16) (payload : Bytes) : Bytes :=
  littleEndian 4 recordMagic ++ [key.kind.code] ++ [0] ++ littleEndian 2 version.toNat ++
    littleEndian 8 key.stableId.toNat ++ littleEndian 4 payload.length ++
    littleEndian 4 (checksum payload).toNat

/-- `encode_record`, into a buffer of the given size. -/
def encodeRecord (key : Key) (version : UInt16) (payload : Bytes) (outputSize : Nat) :
    Except Status Bytes :=
  if outputSize < envelopeSize + payload.length then .error .noBuffer
  else .ok (envelope key version payload ++ payload)

/-- `DecodedRecord`. The reader casts the byte of the kind without looking at it. -/
structure DecodedRecord where
  kind : UInt8
  stableId : UInt64
  version : UInt16
  payload : Bytes

/-- `read_little` of a word of the given size. -/
def readLittle (size : Nat) (input : Bytes) (offset : Nat) : Nat :=
  ofLittleEndian ((input.drop offset).take size)

/-- `decode_record`. -/
def decodeRecord (input : Bytes) : Except Status DecodedRecord :=
  if input.length < envelopeSize ∨ readLittle 4 input 0 ≠ recordMagic then .error .protocolError
  else if input.length - envelopeSize < readLittle 4 input 16 ∨
      envelopeSize + readLittle 4 input 16 ≠ input.length then .error .messageTooLarge
  else if (checksum ((input.drop envelopeSize).take (readLittle 4 input 16))).toNat ≠
      readLittle 4 input 20 then .error .protocolError
  else .ok {
    kind := input.getD 4 0
    stableId := UInt64.ofNat (readLittle 8 input 8)
    version := UInt16.ofNat (readLittle 2 input 6)
    payload := (input.drop envelopeSize).take (readLittle 4 input 16) }

/-! ### Reading what was written -/

theorem readLittle_of_prefix (before : Bytes) {size value offset : Nat} {input : Bytes}
    (begins : before ++ littleEndian size value <+: input) (atOffset : before.length = offset)
    (small : value < 256 ^ size) : readLittle size input offset = value := by
  obtain ⟨after, rfl⟩ := begins
  rw [readLittle, ← atOffset, append_assoc, drop_left,
    take_left' (length_littleEndian size value), ofLittleEndian_littleEndian small]

theorem length_envelope (key : Key) (version : UInt16) (payload : Bytes) :
    (envelope key version payload).length = envelopeSize := by
  simp [envelope, envelopeSize]

/-- What `encode_record` has written, `decode_record` reads. -/
theorem decodeRecord_encodeRecord {key : Key} {version : UInt16} {payload record : Bytes}
    {outputSize : Nat} (small : payload.length < 2 ^ 32)
    (encoded : encodeRecord key version payload outputSize = .ok record) :
    decodeRecord record = .ok ⟨key.kind.code, key.stableId, version, payload⟩ := by
  unfold encodeRecord at encoded
  split_ifs at encoded with short
  obtain rfl := Except.ok.inj encoded
  have length : (envelope key version payload ++ payload).length =
      envelopeSize + payload.length := by
    rw [length_append, length_envelope]
  have magic : readLittle 4 (envelope key version payload ++ payload) 0 = recordMagic :=
    readLittle_of_prefix [] ⟨_, by rfl⟩ rfl (by decide)
  have kind : (envelope key version payload ++ payload).getD 4 0 = key.kind.code := by
    simp [envelope, littleEndian]
  have versionWord : readLittle 2 (envelope key version payload ++ payload) 6 = version.toNat :=
    readLittle_of_prefix (littleEndian 4 recordMagic ++ [key.kind.code] ++ [0])
      ⟨_, by simp only [envelope, append_assoc]; rfl⟩ (by simp) version.toNat_lt
  have stableId : readLittle 8 (envelope key version payload ++ payload) 8 = key.stableId.toNat :=
    readLittle_of_prefix (littleEndian 4 recordMagic ++ [key.kind.code] ++ [0] ++
        littleEndian 2 version.toNat)
      ⟨_, by simp only [envelope, append_assoc]; rfl⟩ (by simp) key.stableId.toNat_lt
  have payloadSize : readLittle 4 (envelope key version payload ++ payload) 16 = payload.length :=
    readLittle_of_prefix (littleEndian 4 recordMagic ++ [key.kind.code] ++ [0] ++
        littleEndian 2 version.toNat ++ littleEndian 8 key.stableId.toNat)
      ⟨_, by simp only [envelope, append_assoc]; rfl⟩ (by simp) small
  have checksumWord :
      readLittle 4 (envelope key version payload ++ payload) 20 = (checksum payload).toNat :=
    readLittle_of_prefix (littleEndian 4 recordMagic ++ [key.kind.code] ++ [0] ++
        littleEndian 2 version.toNat ++ littleEndian 8 key.stableId.toNat ++
        littleEndian 4 payload.length)
      ⟨_, by rfl⟩ (by simp) (checksum payload).toNat_lt
  have rest : ((envelope key version payload ++ payload).drop envelopeSize).take payload.length =
      payload := by
    rw [drop_left' (length_envelope key version payload), take_length]
  rw [decodeRecord, kind, versionWord, stableId, payloadSize, checksumWord, rest,
    if_neg (by omega), if_neg (by omega), if_neg (by simp), UInt16.ofNat_toNat, UInt64.ofNat_toNat]

/-! ### Codecs -/

structure Codec (Value : Type) where
  encodedSize : Nat
  encode : Value → Except Status Bytes
  decode : Bytes → Except Status Value

variable {Value : Type}

/-- What a codec wrote in full, it reads back. -/
def Codec.Lawful (codec : Codec Value) : Prop :=
  ∀ value bytes, codec.encode value = .ok bytes → bytes.length = codec.encodedSize →
    codec.decode bytes = .ok value

/-- A codec's bytes, which must be as many as it declares. -/
def Codec.encodeFull (codec : Codec Value) (value : Value) : Except Status Bytes :=
  match codec.encode value with
  | .error status => .error status
  | .ok bytes => if bytes.length ≠ codec.encodedSize then .error .protocolError else .ok bytes

/-- `ScalarCodec`, of a type given by its `scalar_bits` and `scalar_value`. -/
def scalarCodec (size : Nat) (scalarBits : Value → Nat)
    (scalarValue : Nat → Value) : Codec Value where
  encodedSize := size
  encode value := .ok (littleEndian size (scalarBits value))
  decode input :=
    if input.length ≠ size then .error .messageTooLarge
    else .ok (scalarValue (ofLittleEndian input))

theorem lawful_scalarCodec {size : Nat} {scalarBits : Value → Nat} {scalarValue : Nat → Value}
    (fits : ∀ value, scalarBits value < 256 ^ size)
    (restores : ∀ value, scalarValue (scalarBits value) = value) :
    (scalarCodec size scalarBits scalarValue).Lawful := by
  intro value bytes encoded full
  obtain rfl := Except.ok.inj encoded
  simp only [scalarCodec, ne_eq] at full ⊢
  rw [if_neg (not_not.mpr full), ofLittleEndian_littleEndian (fits value), restores]

/-! ### Validation policies -/

structure Normalized (Value : Type) where
  value : Value
  adjusted : Bool := false
  deriving DecidableEq

/-- The `normalize` of a validation policy. -/
abbrev Validation (Value : Type) := Value → Option (Normalized Value)

/-- The policy accepts the value and leaves it as it is. -/
def Validation.Keeps (normalize : Validation Value) (value : Value) : Prop :=
  ∃ adjusted, normalize value = some ⟨value, adjusted⟩

/-- What a policy made of a candidate, it keeps. -/
def Settles (normalize : Validation Value) : Prop :=
  ∀ candidate normalized, normalize candidate = some normalized →
    normalize.Keeps normalized.value

def acceptAny : Validation Value := fun candidate => some ⟨candidate, false⟩

inductive RangeBehavior
  | reject | clamp

/-- A type that a range can bound. `std::isfinite` holds of every integer; of a floating type, a number
between two finite ones is finite. -/
class RangeValue (Value : Type) [LT Value] where
  isFinite : Value → Bool
  irreflexive : ∀ value : Value, ¬ value < value
  finite_above : ∀ low value high : Value, isFinite low = true → isFinite high = true →
    low < value → ¬ high < value → isFinite value = true
  finite_below : ∀ low value high : Value, isFinite low = true → isFinite high = true →
    value < high → ¬ value < low → isFinite value = true

instance : RangeValue UInt8 where
  isFinite _ := true
  irreflexive := UInt8.lt_irrefl
  finite_above _ _ _ _ _ _ _ := rfl
  finite_below _ _ _ _ _ _ _ := rfl

/-- `Range<Minimum, Maximum, Behavior>`. -/
def range [LT Value] [DecidableLT Value] [RangeValue Value] (minimum maximum : Value)
    (behavior : RangeBehavior) : Validation Value := fun candidate =>
  if !RangeValue.isFinite candidate then none
  else if candidate < minimum then
    match behavior with
    | .clamp => some ⟨minimum, true⟩
    | .reject => none
  else if maximum < candidate then
    match behavior with
    | .clamp => some ⟨maximum, true⟩
    | .reject => none
  else some ⟨candidate, false⟩

section

variable (equals : Value → Value → Bool)

/-- `OneOf<Values...>`, over the `==` of the type. -/
def oneOf (values : List Value) : Validation Value := fun candidate =>
  if values.any (equals candidate) then some ⟨candidate, false⟩ else none

/-- `Custom<Validator>`, over the `==` of the type. -/
def custom (validator : Value → Option Value) : Validation Value := fun candidate =>
  (validator candidate).map fun value => ⟨value, !equals value candidate⟩

end

theorem settles_acceptAny : Settles (@acceptAny Value) :=
  fun _ _ _ => ⟨false, rfl⟩

section

variable [LT Value] [DecidableLT Value] [RangeValue Value] {minimum maximum : Value}
  {behavior : RangeBehavior} {value : Value}

/-- A range leaves exactly the finite values between its bounds unadjusted. -/
theorem range_eq_some_iff {other : Value} :
    range minimum maximum behavior value = some ⟨other, false⟩ ↔ value = other ∧
      RangeValue.isFinite value = true ∧ ¬ value < minimum ∧ ¬ maximum < value := by
  unfold range
  split_ifs with infinite low high
  · simpa using fun _ finite => absurd finite (by simpa using infinite)
  · cases behavior with
    | clamp => simp [low]
    | reject => simp [low]
  · cases behavior with
    | clamp => simp [high]
    | reject => simp [high]
  · simpa [low, high] using fun _ => by simpa using infinite

/-- A range that keeps its default settles: a bound that a candidate is clamped to lies between the
candidate and the default. -/
theorem settles_range (ordered : ¬ maximum < minimum)
    (kept : range minimum maximum behavior value = some ⟨value, false⟩) :
    Settles (range minimum maximum behavior) := by
  obtain ⟨-, finite, above, below⟩ := range_eq_some_iff.mp kept
  intro candidate normalized made
  refine ⟨false, range_eq_some_iff.mpr ⟨rfl, ?_⟩⟩
  unfold range at made
  split_ifs at made with infinite low high
  · have candidateFinite : RangeValue.isFinite candidate = true := by simpa using infinite
    cases behavior with
    | clamp =>
      obtain ⟨⟩ := made
      exact ⟨RangeValue.finite_above candidate minimum value candidateFinite finite low above,
        RangeValue.irreflexive minimum, ordered⟩
    | reject => exact nomatch made
  · have candidateFinite : RangeValue.isFinite candidate = true := by simpa using infinite
    cases behavior with
    | clamp =>
      obtain ⟨⟩ := made
      exact ⟨RangeValue.finite_below value maximum candidate finite candidateFinite high below,
        ordered, RangeValue.irreflexive maximum⟩
    | reject => exact nomatch made
  · obtain ⟨⟩ := made
    exact ⟨by simpa using infinite, low, high⟩

end

theorem settles_oneOf (equals : Value → Value → Bool) (values : List Value) :
    Settles (oneOf equals values) := by
  intro candidate normalized made
  unfold oneOf at made
  split_ifs at made with listed
  obtain ⟨⟩ := made
  exact ⟨false, if_pos listed⟩

/-! ### Parameters and groups -/

/-- A declared parameter. `migrate` is there when the parameter has a migration and the facility is
built with them. -/
structure Declaration (Value : Type) where
  stableId : UInt64
  version : UInt16
  defaultValue : Value
  normalize : Validation Value
  codec : Codec Value
  migrate : Option (UInt16 → Bytes → Except Status Value)
  failBoot : Bool
  valid_default : normalize defaultValue = some ⟨defaultValue, false⟩

/-- When a changed record is written: at once, after a delay, or on request. -/
inductive Commit
  | immediate
  | deferred (delay : Nat)
  | manual
  deriving DecidableEq

def Commit.isDeferred : Commit → Bool
  | .deferred _ => true
  | _ => false

/-- The persistence policy of a parameter: none, a record of its own, or a place in a group. -/
inductive Persistence (Group : Type)
  | volatile
  | single (commit : Commit)
  | transactional (group : Group)
  deriving DecidableEq

/-- A declared persistence group. A migration gives the values of all members. -/
structure GroupDeclaration (Parameter : Type) (Value : Parameter → Type) where
  stableId : UInt64
  version : UInt16
  commit : Commit
  members : List Parameter
  migrate : Option (UInt16 → Bytes → Except Status ((parameter : Parameter) → Value parameter))

/-- A parameter architecture, with what its compile-time checks ask for. -/
structure Architecture where
  Parameter : Type
  Group : Type
  Store : Type
  Value : Parameter → Type
  [decidableParameter : DecidableEq Parameter]
  [decidableGroup : DecidableEq Group]
  [decidableStore : DecidableEq Store]
  [decidableValue : ∀ parameter, DecidableEq (Value parameter)]
  parameters : List Parameter
  groups : List Group
  declaration : (parameter : Parameter) → Declaration (Value parameter)
  persistence : Parameter → Persistence Group
  store : Parameter → Store
  group : Group → GroupDeclaration Parameter Value
  groupStore : Group → Store
  maxEncodedRecordBytes : Nat
  maxGroupRecordBytes : Nat
  mem_parameters : ∀ parameter, parameter ∈ parameters
  nodup_parameters : parameters.Nodup
  mem_groups : ∀ group, group ∈ groups
  nodup_groups : groups.Nodup
  stableId_injective : ∀ first second, persistence first ≠ .volatile →
    persistence second ≠ .volatile →
    (declaration first).stableId = (declaration second).stableId → first = second
  nodup_members : ∀ name, (group name).members.Nodup
  transactional_iff : ∀ parameter name,
    persistence parameter = .transactional name ↔ parameter ∈ (group name).members
  encoded_size_le : ∀ parameter commit, persistence parameter = .single commit →
    envelopeSize + (declaration parameter).codec.encodedSize ≤ maxEncodedRecordBytes
  payload_size_le : ∀ name, envelopeSize +
    ((group name).members.map fun member => (declaration member).codec.encodedSize).sum ≤
      maxGroupRecordBytes
  maxEncodedRecordBytes_le : maxEncodedRecordBytes ≤ 65536
  maxGroupRecordBytes_le : maxGroupRecordBytes ≤ 65536

namespace Architecture

attribute [instance] decidableParameter decidableGroup decidableStore decidableValue

variable (A : Architecture)

section

variable (parameter : A.Parameter)

/-- `persistence_key`. -/
def persistenceKey : Key :=
  ⟨.parameter, (A.declaration parameter).stableId⟩

/-- `group_key`. -/
def groupKey (group : A.Group) : Key := ⟨.group, (A.group group).stableId⟩

/-- The policy that decides when a change of the parameter is written. -/
def commit : Option Commit :=
  match A.persistence parameter with
  | .volatile => none
  | .single commit => some commit
  | .transactional group => some (A.group group).commit

/-- `EffectiveDeferred`. -/
def effectiveDeferred : Bool :=
  (A.commit parameter).any Commit.isDeferred

end

end Architecture

end Solar.Parameters
