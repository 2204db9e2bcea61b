/-
This file models the wire vocabulary of the Remote protocol: the frame kinds,
the envelope, the error codes, and the small fixed-size payloads of sessions,
subscriptions and inbound streams with their little-endian encodings.
-/

import Mathlib

namespace Solar.Remote

open List

abbrev Bytes := List UInt8

/-- Kernel ticks, a signed 64-bit count that the source only subtracts and compares. -/
abbrev Tick := Int

inductive Kind
  | clientHello | serverHello | error | request | response | cancel | responseAck | subscribe
  | unsubscribe | credit | data | keepalive | sessionReset | introspection | inStreamClosed
  | ping | pong
  deriving DecidableEq

inductive OperationKind
  | action | query | update | inStream
  deriving DecidableEq

inductive SubscriptionKind
  | dataStream | dataWatch | topic | stream | dataInStream
  deriving DecidableEq

inductive ErrorCode
  | unsupportedVersion | unsupportedCapability | schemaMismatch | malformedFrame
  | integrityFailure | oversizedFrame | oversizedMessage | fragmentRejected | unknownTarget
  | unsupportedOperation | decodeFailure | unauthorized | notReady | busy | noCapacity
  | rateRejected | creditViolation | requestExpired | duplicateResponseExpired | cancelled
  | timedOut | sessionClosing | internalFailure

/-- The wire value of an error code: the enumeration counts from one. -/
def ErrorCode.code (error : ErrorCode) : UInt16 := UInt16.ofNat (error.ctorIdx + 1)

inductive InStreamCloseReason
  | closed | replaced | disconnect | reset | fault | configurationFailed
  deriving DecidableEq

inductive Codec
  | cbor | packed

def Codec.code : Codec → UInt8
  | .cbor => 1
  | .packed => 2

/-- The envelope flag bits. -/
abbrev Flags := UInt8

namespace Flags

def none : Flags := 0
def fragmented : Flags := 1
def final : Flags := 2
def errorPayload : Flags := 8

end Flags

structure Envelope where
  major : UInt8 := 1
  minor : UInt8 := 2
  kind : Kind := .keepalive
  flags : Flags := Flags.none
  sessionEpoch : UInt32 := 0
  frameSequence : UInt32 := 0
  target : UInt32 := 0
  requestId : UInt32 := 0
  payloadSize : UInt16 := 0
  fragmentId : UInt16 := 0
  fragmentIndex : UInt8 := 0
  fragmentCount : UInt8 := 1
  reserved : UInt32 := 0
  deriving DecidableEq

/-- The wire value of a kind: the enumeration counts from one. -/
def Kind.code (kind : Kind) : UInt8 := UInt8.ofNat (kind.ctorIdx + 1)

/-- The kind a wire value stands for. -/
def Kind.ofCode? (code : UInt8) : Option Kind :=
  match code.toNat with
  | 1 => some .clientHello
  | 2 => some .serverHello
  | 3 => some .error
  | 4 => some .request
  | 5 => some .response
  | 6 => some .cancel
  | 7 => some .responseAck
  | 8 => some .subscribe
  | 9 => some .unsubscribe
  | 10 => some .credit
  | 11 => some .data
  | 12 => some .keepalive
  | 13 => some .sessionReset
  | 14 => some .introspection
  | 15 => some .inStreamClosed
  | 16 => some .ping
  | 17 => some .pong
  | _ => none

theorem Kind.ofCode?_code (kind : Kind) : Kind.ofCode? kind.code = some kind := by
  cases kind <;> rfl

theorem Kind.code_of_ofCode? {code : UInt8} {kind : Kind} (known : Kind.ofCode? code = some kind) :
    kind.code = code := by
  unfold Kind.ofCode? at known
  split at known <;> cases known <;> exact UInt8.toNat_inj.mp (Eq.symm ‹_›)

/-- The low byte of `reserved`, read as an operation. Undeclared values are no operation. -/
def Envelope.operation (envelope : Envelope) : Option OperationKind :=
  match (envelope.reserved &&& 0xFF).toNat with
  | 0 => some .action
  | 1 => some .query
  | 2 => some .update
  | 3 => some .inStream
  | _ => none

/-- The low byte of `reserved`, read as a subscription kind. -/
def Envelope.subscription (envelope : Envelope) : Option SubscriptionKind :=
  match (envelope.reserved &&& 0xFF).toNat with
  | 0 => some .dataStream
  | 1 => some .dataWatch
  | 2 => some .topic
  | 3 => some .stream
  | 4 => some .dataInStream
  | _ => none

/-- A decoded frame: its envelope and its payload. -/
structure Decoded where
  envelope : Envelope
  payload : Bytes
  deriving DecidableEq

/-! ### Little-endian fields -/

def putU16 (value : UInt16) : Bytes := [value.toUInt8, (value >>> 8).toUInt8]

def putU32 (value : UInt32) : Bytes :=
  [value.toUInt8, (value >>> 8).toUInt8, (value >>> 16).toUInt8, (value >>> 24).toUInt8]

def getU16 (input : Bytes) (offset : Nat) : UInt16 :=
  (input.getD offset 0).toUInt16 ||| ((input.getD (offset + 1) 0).toUInt16 <<< 8)

def getU32 (input : Bytes) (offset : Nat) : UInt32 :=
  (input.getD offset 0).toUInt32 ||| ((input.getD (offset + 1) 0).toUInt32 <<< 8) |||
    ((input.getD (offset + 2) 0).toUInt32 <<< 16) |||
    ((input.getD (offset + 3) 0).toUInt32 <<< 24)

theorem or_shiftLeft {low : Nat} (size : Nat) (small : low < 2 ^ size) (high : Nat) :
    low ||| high <<< size = low + high * 2 ^ size := by
  rw [Nat.or_comm, ← Nat.shiftLeft_add_eq_or_of_lt small, Nat.shiftLeft_eq, Nat.add_comm]

theorem shiftLeft_mod {value : Nat} (size width : Nat) (small : value * 2 ^ size < 2 ^ width) :
    value <<< size % 2 ^ width = value <<< size := by
  rw [Nat.shiftLeft_eq]
  exact Nat.mod_eq_of_lt small

theorem getU16_putU16 (value : UInt16) (rest : Bytes) :
    getU16 (putU16 value ++ rest) 0 = value := by
  show value.toUInt8.toUInt16 ||| ((value >>> 8).toUInt8.toUInt16 <<< 8) = value
  have bound := value.toNat_lt
  apply UInt16.toNat_inj.mp
  simp only [UInt16.toNat_or, UInt16.toNat_shiftLeft, UInt8.toNat_toUInt16, UInt16.toNat_toUInt8,
    UInt16.toNat_shiftRight, UInt16.reduceToNat, Nat.reduceMod, Nat.shiftRight_eq_div_pow]
  rw [shiftLeft_mod 8 16 (by omega), or_shiftLeft 8 (by omega)]
  omega

theorem getU32_putU32 (value : UInt32) (rest : Bytes) :
    getU32 (putU32 value ++ rest) 0 = value := by
  show value.toUInt8.toUInt32 ||| ((value >>> 8).toUInt8.toUInt32 <<< 8) |||
    ((value >>> 16).toUInt8.toUInt32 <<< 16) ||| ((value >>> 24).toUInt8.toUInt32 <<< 24) = value
  have bound := value.toNat_lt
  apply UInt32.toNat_inj.mp
  simp only [UInt32.toNat_or, UInt32.toNat_shiftLeft, UInt8.toNat_toUInt32, UInt32.toNat_toUInt8,
    UInt32.toNat_shiftRight, UInt32.reduceToNat, Nat.reduceMod, Nat.shiftRight_eq_div_pow]
  rw [shiftLeft_mod 8 32 (by omega), shiftLeft_mod 16 32 (by omega), shiftLeft_mod 24 32 (by omega),
    or_shiftLeft 8 (by omega), or_shiftLeft 16 (by omega), or_shiftLeft 24 (by omega)]
  omega

theorem getU16_append (before input : Bytes) (offset : Nat) :
    getU16 (before ++ input) (before.length + offset) = getU16 input offset := by
  unfold getU16
  rw [Nat.add_assoc, getD_append_right _ _ _ _ (Nat.le_add_right _ _),
    getD_append_right _ _ _ _ (Nat.le_add_right _ _), Nat.add_sub_cancel_left,
    Nat.add_sub_cancel_left]

theorem getU32_append (before input : Bytes) (offset : Nat) :
    getU32 (before ++ input) (before.length + offset) = getU32 input offset := by
  unfold getU32
  simp only [Nat.add_assoc, getD_append_right _ _ _ _ (Nat.le_add_right _ _),
    Nat.add_sub_cancel_left]

/-- Four bytes are what their value is put as. -/
theorem putU32_getU32 (first second third fourth : UInt8) :
    putU32 (getU32 [first, second, third, fourth] 0) = [first, second, third, fourth] := by
  have value : (getU32 [first, second, third, fourth] 0).toNat =
      first.toNat + second.toNat * 2 ^ 8 + third.toNat * 2 ^ 16 + fourth.toNat * 2 ^ 24 := by
    have one := first.toNat_lt
    have two := second.toNat_lt
    have three := third.toNat_lt
    have four := fourth.toNat_lt
    show (first.toUInt32 ||| (second.toUInt32 <<< 8) ||| (third.toUInt32 <<< 16) |||
      (fourth.toUInt32 <<< 24)).toNat = _
    simp only [UInt32.toNat_or, UInt32.toNat_shiftLeft, UInt8.toNat_toUInt32, UInt32.reduceToNat,
      Nat.reduceMod]
    rw [shiftLeft_mod 8 32 (by omega), shiftLeft_mod 16 32 (by omega),
      shiftLeft_mod 24 32 (by omega), or_shiftLeft 8 (by omega), or_shiftLeft 16 (by omega),
      or_shiftLeft 24 (by omega)]
  have byte : ∀ (word : UInt32) (shift : UInt32) (size : Nat) (expected : UInt8),
      shift.toNat % 32 = size → word.toNat / 2 ^ size % 256 = expected.toNat →
      (word >>> shift).toUInt8 = expected := by
    intro word shift size expected shifted same
    apply UInt8.toNat_inj.mp
    rw [UInt32.toNat_toUInt8, UInt32.toNat_shiftRight, shifted, Nat.shiftRight_eq_div_pow]
    exact same
  have one := first.toNat_lt
  have two := second.toNat_lt
  have three := third.toNat_lt
  have four := fourth.toNat_lt
  rw [putU32, byte _ 8 8 second rfl (by omega),
    byte _ 16 16 third rfl (by omega), byte _ 24 24 fourth rfl (by omega)]
  refine congrArg (· :: _) (UInt8.toNat_inj.mp ?_)
  rw [UInt32.toNat_toUInt8]
  omega

theorem getU32_drop (input : Bytes) (offset : Nat) :
    getU32 (input.drop offset) 0 = getU32 input offset := by
  unfold getU32
  simp [getD_eq_getElem?_getD, getElem?_drop]

/-! ### Fixed-size payloads -/

structure SubscriptionRequest where
  minimumIntervalUs : UInt32 := 0
  batchSize : UInt16 := 0
  codec : UInt8 := 0
  flags : UInt8 := 0

structure SubscriptionPolicy where
  minimumIntervalUs : UInt32 := 0
  batchSize : UInt16 := 1
  codec : Codec := .cbor
  flags : UInt8 := 0

structure CreditGrant where
  token : UInt32 := 0
  credits : UInt16 := 0
  window : UInt16 := 0
  deriving DecidableEq

structure InStreamOpenResponse where
  policy : SubscriptionPolicy := {}
  token : UInt32 := 0

structure InStreamClosed where
  token : UInt32 := 0
  reason : InStreamCloseReason := .closed
  deriving DecidableEq

def envelopeSize : Nat := 32
def crcSize : Nat := 4
def helloSize : Nat := 16
def subscriptionPolicySize : Nat := 8
def inStreamCloseRequestSize : Nat := 4

def decodeSubscriptionRequest (input : Bytes) : Option SubscriptionRequest :=
  if input.length ≠ subscriptionPolicySize then none
  else some {
    minimumIntervalUs := getU32 input 0
    batchSize := getU16 input 4
    codec := input.getD 6 0
    flags := input.getD 7 0 }

def SubscriptionPolicy.encode (policy : SubscriptionPolicy) : Bytes :=
  putU32 policy.minimumIntervalUs ++ putU16 policy.batchSize ++ [policy.codec.code, policy.flags]

def CreditGrant.encode (grant : CreditGrant) : Bytes :=
  putU32 grant.token ++ putU16 grant.credits ++ putU16 grant.window

def InStreamOpenResponse.encode (response : InStreamOpenResponse) : Bytes :=
  response.policy.encode ++ putU32 response.token

/-- The token of a close request; a zero token is malformed. -/
def decodeInStreamCloseRequest (input : Bytes) : Option UInt32 :=
  if input.length ≠ inStreamCloseRequestSize then none
  else if getU32 input 0 = 0 then none
  else some (getU32 input 0)

def InStreamClosed.encode (closed : InStreamClosed) : Bytes :=
  putU32 closed.token ++ [UInt8.ofNat closed.reason.ctorIdx, 0, 0, 0]

/-- The payload of an error frame. -/
def ErrorCode.encode (error : ErrorCode) : Bytes := putU16 error.code

theorem SubscriptionPolicy.length_encode (policy : SubscriptionPolicy) :
    policy.encode.length = subscriptionPolicySize := rfl

theorem InStreamOpenResponse.length_encode (response : InStreamOpenResponse) :
    response.encode.length = 12 := rfl

end Solar.Remote
