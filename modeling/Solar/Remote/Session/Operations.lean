/-
This file models the operations of the Python client that send: `request`,
`subscribe`, `unsubscribe`, `ping`, `introspect` and `send_stream`, with the client
that each leaves behind when it raises. An operation takes its id and the number
of its first frame before `_queue` looks at the size of the payload.

`_queue` appends its first frame only when all of them can be appended, so an
operation that raises leaves the queue as it was. Of the operations only
`send_stream` writes to the credits, and it does so before `_queue`.
-/

import Solar.Remote.Session.Feed

namespace Solar.Remote.Client

open List Option

/-! ### What an operation raises -/

/-- The exception of an operation. All but that of `struct.pack` are a `FrameError`. -/
inductive CallError
  | inactive
  | idsExhausted
  | invalidOperation
  | invalidSubscription
  | noCredit
  | queue (reason : QueueError)
  | pack
  deriving DecidableEq

/-- The text of a `FrameError`. -/
def CallError.text? : CallError → Option String
  | .inactive => some "session is not active"
  | .idsExhausted => some "request ID space exhausted; reset the session"
  | .invalidOperation => some "invalid operation"
  | .invalidSubscription => some "invalid subscription kind"
  | .noCredit => some "inbound stream has no credit"
  | .queue reason => some reason.text
  | .pack => none

/-- A number that `struct.pack` puts into a word. -/
def word? (number : Int) : Option UInt32 :=
  if 0 ≤ number ∧ number < 2 ^ 32 then some (UInt32.ofNat number.toNat) else none

/-! ### The queue -/

namespace Sender

/-- The frame of `encode_frame`, before it is encoded. -/
def framed (target : UInt32) (envelope : Envelope) (payload : Bytes) : Decoded :=
  ⟨{ envelope with target, payloadSize := UInt16.ofNat payload.length }, payload⟩

/-- `encode_frame`, on an envelope whose target is still a number, and the append. -/
def push (sender : Sender) (target : Int) (envelope : Envelope) (payload : Bytes) :
    Sender × Option CallError :=
  if payload.length > 0xFFFF then (sender, some (.queue .payloadTooLarge))
  else
    match word? target with
    | none => (sender, some .pack)
    | some target =>
        ({ sender with outgoing := sender.outgoing ++ [framed target envelope payload] }, none)

/-- One round of the loop of `_queue`. -/
def pushPart (target : Int) (envelope : Envelope) (payload : Bytes) (count : Nat)
    (sender : Sender) (index : Nat) : Sender × Option CallError :=
  let numbered := if index = 0 then sender else sender.nextFrame
  numbered.push target (numbered.physical envelope count index)
    ((payload.drop (index * sender.maximumPayload)).take sender.maximumPayload)

/-- A round of the loop of `_queue` after others. -/
def pushNext (target : Int) (envelope : Envelope) (payload : Bytes) (count : Nat)
    (answer : Sender × Option CallError) (index : Nat) : Sender × Option CallError :=
  match answer.2 with
  | some _ => answer
  | none => answer.1.pushPart target envelope payload count index

/-- The loop of `_queue`. -/
def pushParts (target : Int) (envelope : Envelope) (payload : Bytes) (count : Nat)
    (sender : Sender) (indices : List Nat) : Sender × Option CallError :=
  indices.foldl (pushNext target envelope payload count) (sender, none)

/-- How many fragments `_queue` cuts a payload into that does not fit in one frame. -/
def fragmentCount (sender : Sender) (payload : Bytes) : Nat :=
  (payload.length + sender.maximumPayload - 1) / sender.maximumPayload

/-- `_queue`, with the client it leaves behind and what it raises. -/
def offer (sender : Sender) (target : Int) (envelope : Envelope) (payload : Bytes) :
    Sender × Option CallError :=
  if payload.length > sender.maximumMessageSize then (sender, some (.queue .messageTooLarge))
  else if sender.maximumPayload = 0 then (sender, some (.queue .frameTooSmall))
  else if payload.length ≤ sender.maximumPayload then sender.push target envelope payload
  else if sender.fragmentCount payload > 0xFF then (sender, some (.queue .tooManyFragments))
  else
    pushParts target envelope payload (sender.fragmentCount payload) sender.nextFragment
      (range (sender.fragmentCount payload))

end Sender

/-! ### The operations -/

/-- `SubscriptionRequest`, whose fields are plain numbers. -/
structure SubscriptionNumbers where
  minimumIntervalUs : Int := 0
  batchSize : Int := 0
  codec : Int := 0
  flags : Int := 0

/-- `SubscriptionRequest.encode`. -/
def SubscriptionNumbers.encode (policy : SubscriptionNumbers) : Except CallError Bytes :=
  if (0 ≤ policy.minimumIntervalUs ∧ policy.minimumIntervalUs < 2 ^ 32) ∧
      (0 ≤ policy.batchSize ∧ policy.batchSize < 2 ^ 16) ∧
      (0 ≤ policy.codec ∧ policy.codec < 2 ^ 8) ∧ (0 ≤ policy.flags ∧ policy.flags < 2 ^ 8) then
    .ok (putU32 (UInt32.ofNat policy.minimumIntervalUs.toNat) ++
      putU16 (UInt16.ofNat policy.batchSize.toNat) ++
      [UInt8.ofNat policy.codec.toNat, UInt8.ofNat policy.flags.toNat])
  else .error .pack

/-- `with_operation` on a new envelope. -/
def withOperation (operation : Int) : Except CallError UInt32 :=
  if 0 ≤ operation ∧ operation ≤ 0xFF then .ok (UInt32.ofNat operation.toNat)
  else .error .invalidOperation

/-- `with_subscription` on a new envelope. -/
def withSubscription (subscription : Int) : Except CallError UInt32 :=
  if 0 ≤ subscription ∧ subscription ≤ 0xFF then .ok (UInt32.ofNat subscription.toNat)
  else .error .invalidSubscription

namespace Session

variable (session : Session)

/-- What an operation leaves behind, with the id it returns or what it raises. -/
abbrev Answer := Session × Except CallError (Option UInt32)

/-- The body that the operations with an id share: the id, the number of the first frame, the
envelope, the payload, and the queue. -/
def post (kind : Kind) (target : Int) (reserved : Except CallError UInt32)
    (payload : Except CallError Bytes) : Answer :=
  let named := { session with requestId := session.requestId + 1 }
  if named.requestId = 0 then (named, .error .idsExhausted)
  else
    let numbered := { named with sender := named.sender.nextFrame }
    match reserved with
    | .error error => (numbered, .error error)
    | .ok reserved =>
        match payload with
        | .error error => (numbered, .error error)
        | .ok payload =>
            let offered := numbered.sender.offer target {
              kind
              sessionEpoch := numbered.sessionEpoch
              frameSequence := numbered.sender.frameSequence
              requestId := numbered.requestId
              reserved } payload
            ({ numbered with sender := offered.1 },
              match offered.2 with
              | some error => .error error
              | none => .ok (some numbered.requestId))

def request (target : Int) (payload : Bytes) (operation : Int) : Answer :=
  if session.active = false then (session, .error .inactive)
  else session.post .request target (withOperation operation) (.ok payload)

def subscribe (target subscription : Int) (policy : SubscriptionNumbers) : Answer :=
  session.post .subscribe target (withSubscription subscription) policy.encode

def unsubscribe (target subscription : Int) (payload : Bytes) : Answer :=
  session.post .unsubscribe target (withSubscription subscription) (.ok payload)

def ping (payload : Bytes) : Answer :=
  if session.active = false then (session, .error .inactive)
  else session.post .ping 0 (.ok 0) (.ok payload)

def introspect (target : Int) (payload : Bytes) : Answer :=
  if session.active = false then (session, .error .inactive)
  else session.post .introspection target (.ok 0) (.ok payload)

/-- The key of a stream's credits. No entry has a key with a number that is no word. -/
def streamKey? (target token : Int) : Option (UInt32 × UInt32) :=
  match word? target, word? token with
  | some target, some token => some (target, token)
  | _, _ => none

/-- The credits of a stream. -/
def grant? (target token : Int) : Option ((UInt32 × UInt32) × CreditGrant) :=
  (streamKey? target token).bind fun key =>
    (session.credits.lookup key).map fun grant => (key, grant)

/-- The client after a stream write has taken its credit and the number of its first frame. -/
def spend (key : UInt32 × UInt32) (grant : CreditGrant) : Session :=
  { session with
    credits := session.credits.insert key ⟨key.2, grant.credits - 1, grant.window⟩
    sender := session.sender.nextFrame }

def sendStream (target : Int) (payload : Bytes) (token : Int) : Answer :=
  match session.grant? target token with
  | none => (session, .error .noCredit)
  | some (key, grant) =>
      if grant.credits = 0 then (session, .error .noCredit)
      else
        let spent := session.spend key grant
        let offered := spent.sender.offer target {
          kind := .data
          sessionEpoch := spent.sessionEpoch
          frameSequence := spent.sender.frameSequence
          requestId := key.2
          reserved := 3 } payload
        ({ spent with sender := offered.1 },
          match offered.2 with
          | some error => .error error
          | none => .ok none)

end Session

/-- An operation with its arguments. -/
inductive Call
  | request (target : Int) (payload : Bytes) (operation : Int)
  | subscribe (target subscription : Int) (policy : SubscriptionNumbers)
  | unsubscribe (target subscription : Int) (payload : Bytes)
  | ping (payload : Bytes)
  | introspect (target : Int) (payload : Bytes)
  | sendStream (target : Int) (payload : Bytes) (token : Int)

def Session.call (session : Session) : Call → Session.Answer
  | .request target payload operation => session.request target payload operation
  | .subscribe target subscription policy => session.subscribe target subscription policy
  | .unsubscribe target subscription payload => session.unsubscribe target subscription payload
  | .ping payload => session.ping payload
  | .introspect target payload => session.introspect target payload
  | .sendStream target payload token => session.sendStream target payload token

/-! ### What the queue takes -/

/-- A frame of a message for a target. -/
def Carries (target : UInt32) (envelope : Envelope) (frame : Decoded) : Prop :=
  frame.envelope.kind = envelope.kind ∧ frame.envelope.target = target ∧
    frame.envelope.requestId = envelope.requestId ∧ frame.envelope.reserved = envelope.reserved

namespace Sender

variable {sender : Sender} {target : Int} {word : UInt32} {envelope : Envelope} {payload : Bytes}

/-- A payload that `_queue` raises a `FrameError` for. -/
def refuses (sender : Sender) (payload : Bytes) : Prop :=
  sender.maximumMessageSize < payload.length ∨ sender.maximumPayload = 0 ∨
    (sender.maximumPayload < payload.length ∧ 0xFF < sender.fragmentCount payload) ∨
      0xFFFF < min payload.length sender.maximumPayload

instance (sender : Sender) (payload : Bytes) : Decidable (sender.refuses payload) :=
  inferInstanceAs (Decidable (_ ∨ _))

/-- The queue has more frames of a message. -/
def HasQueued (sender next : Sender) (target : UInt32) (envelope : Envelope) : Prop :=
  ∃ frames, frames ≠ [] ∧ next.outgoing = sender.outgoing ++ frames ∧
    ∀ frame ∈ frames, Carries target envelope frame

theorem push_of_large (large : 0xFFFF < payload.length) :
    sender.push target envelope payload = (sender, some (.queue .payloadTooLarge)) := if_pos large

theorem push_of_not_word (small : payload.length ≤ 0xFFFF) (none : word? target = none) :
    sender.push target envelope payload = (sender, some .pack) := by
  unfold push
  rw [if_neg (Nat.not_lt.mpr small), none]

theorem push_of_word (small : payload.length ≤ 0xFFFF) (packs : word? target = some word) :
    sender.push target envelope payload =
      ({ sender with outgoing := sender.outgoing ++ [framed word envelope payload] }, none) := by
  unfold push
  rw [if_neg (Nat.not_lt.mpr small), packs]

theorem carries_framed :
    Carries word envelope (framed word envelope payload) := ⟨rfl, rfl, rfl, rfl⟩

theorem hasQueued_push (small : payload.length ≤ 0xFFFF) (packs : word? target = some word) :
    sender.HasQueued (sender.push target envelope payload).1 word envelope := by
  rw [push_of_word small packs]
  refine ⟨_, cons_ne_nil _ _, rfl, fun frame member => ?_⟩
  rw [mem_singleton.mp member]
  exact carries_framed

theorem length_part_le (index size : Nat) (payload : Bytes) :
    ((payload.drop (index * size)).take size).length ≤ size := length_take_le _ _

theorem length_first_part (long : sender.maximumPayload < payload.length) :
    ((payload.drop (0 * sender.maximumPayload)).take sender.maximumPayload).length =
      sender.maximumPayload := by
  rw [Nat.zero_mul]
  exact length_take_of_le long.le

theorem pushPart_of_word {count index : Nat} (fits : sender.maximumPayload ≤ 0xFFFF)
    (packs : word? target = some word) : ∃ next frame,
      sender.pushPart target envelope payload count index = (next, none) ∧
        next.maximumPayload = sender.maximumPayload ∧ next.outgoing = sender.outgoing ++ [frame] ∧
          Carries word envelope frame := by
  have small := (length_part_le index sender.maximumPayload payload).trans fits
  have numbered (other : Sender) (size : other.maximumPayload = sender.maximumPayload)
      (kept : other.outgoing = sender.outgoing) : ∃ next frame,
        other.push target (other.physical envelope count index)
          ((payload.drop (index * sender.maximumPayload)).take sender.maximumPayload) =
            (next, none) ∧
          next.maximumPayload = sender.maximumPayload ∧
            next.outgoing = sender.outgoing ++ [frame] ∧ Carries word envelope frame := by
    refine ⟨_, framed word (other.physical envelope count index)
      ((payload.drop (index * sender.maximumPayload)).take sender.maximumPayload),
      push_of_word small packs, size, ?_, ⟨rfl, rfl, rfl, rfl⟩⟩
    rw [← kept]
  unfold pushPart
  split
  · exact numbered sender rfl rfl
  · exact numbered sender.nextFrame rfl rfl

variable {count : Nat}

theorem pushParts_of_word (fits : sender.maximumPayload ≤ 0xFFFF)
    (packs : word? target = some word) (indices : List Nat) :
    ∃ next frames, pushParts target envelope payload count sender indices = (next, none) ∧
      frames.length = indices.length ∧ next.outgoing = sender.outgoing ++ frames ∧
        ∀ frame ∈ frames, Carries word envelope frame := by
  induction indices generalizing sender with
  | nil => exact ⟨sender, [], rfl, rfl, (append_nil _).symm, nofun⟩
  | cons index rest ih =>
    obtain ⟨pushed, frame, part, same, appended, carries⟩ :=
      @pushPart_of_word sender target word envelope payload count index fits packs
    obtain ⟨next, frames, done, length, outgoing, carry⟩ :=
      @ih pushed (same ▸ fits)
    refine ⟨next, frame :: frames, ?_, congrArg Nat.succ length, ?_, ?_⟩
    · rw [pushParts, foldl_cons, pushNext, part]
      exact done
    · rw [outgoing, appended, append_assoc]
      rfl
    · exact forall_mem_cons.mpr ⟨carries, carry⟩

variable {error : CallError}

theorem foldl_pushNext_error {indices : List Nat} :
    indices.foldl (pushNext target envelope payload count) (sender, some error) =
      (sender, some error) := by
  induction indices with
  | nil => rfl
  | cons index rest ih => exact ih

theorem pushParts_of_error {rest : List Nat}
    (refused : sender.pushPart target envelope payload count 0 = (sender, some error)) :
    pushParts target envelope payload count sender (0 :: rest) = (sender, some error) := by
  rw [pushParts, foldl_cons, pushNext, refused]
  exact foldl_pushNext_error

/-- The queue and the exception of `offer` are the value or the error of `queue`. -/
def Answers (queued : Except QueueError Sender) (offered : Sender × Option CallError) : Prop :=
  match queued with
  | .ok next => offered = (next, none)
  | .error reason => offered.2 = some (.queue reason)

theorem answers_push {target : UInt32} :
    Answers (sender.append { envelope with target } payload)
      (sender.push target.toNat envelope payload) := by
  have packs : word? target.toNat = some target := by simp [word?, target.toNat_lt]
  unfold append push
  rw [packs]
  split <;> rfl

theorem answers_pushParts {target : UInt32} (indices : List Nat) :
    Answers (indices.foldlM (appendPart { envelope with target } payload count) sender)
      (pushParts target.toNat envelope payload count sender indices) := by
  induction indices generalizing sender with
  | nil => rfl
  | cons index rest ih =>
    have first : Answers (appendPart { envelope with target } payload count sender index)
        (sender.pushPart target.toNat envelope payload count index) :=
      @answers_push _ (Sender.physical _ envelope count index) _ target
    rw [foldlM_cons, pushParts, foldl_cons, pushNext]
    cases appended : appendPart { envelope with target } payload count sender index with
      rw [appended] at first
    | ok next =>
      rw [show sender.pushPart target.toNat envelope payload count index = _ from first]
      exact ih
    | error reason =>
      obtain ⟨next, refused⟩ : ∃ next, sender.pushPart target.toNat envelope payload count index =
          (next, some (.queue reason)) := ⟨_, Prod.ext rfl first⟩
      rw [refused, foldl_pushNext_error]
      rfl

/-- `offer` and `queue` are the same `_queue`, for a target that is a word. -/
theorem answers_offer (target : UInt32) :
    Answers (sender.queue { envelope with target } payload)
      (sender.offer target.toNat envelope payload) := by
  unfold queue offer fragmentCount
  dsimp only
  split_ifs
  · rfl
  · rfl
  · exact answers_push
  · rfl
  · exact answers_pushParts _

theorem exists_range_fragmentCount (size : sender.maximumPayload ≠ 0)
    (long : sender.maximumPayload < payload.length) :
    ∃ rest, range (sender.fragmentCount payload) = 0 :: rest := by
  have positive : 0 < sender.fragmentCount payload :=
    Nat.div_pos (by omega) (Nat.pos_of_ne_zero size)
  obtain ⟨count, same⟩ := Nat.exists_eq_succ_of_ne_zero positive.ne'
  rw [same, range_succ_eq_map]
  exact ⟨_, rfl⟩

/-- What `_queue` raises leaves the queue as it was. -/
theorem offer_of_refuses (refused : sender.refuses payload) :
    ∃ next reason, sender.offer target envelope payload = (next, some (.queue reason)) ∧
      next.outgoing = sender.outgoing := by
  unfold offer
  by_cases message : payload.length > sender.maximumMessageSize
  · exact ⟨sender, .messageTooLarge, if_pos message, rfl⟩
  rw [if_neg message]
  by_cases frame : sender.maximumPayload = 0
  · exact ⟨sender, .frameTooSmall, if_pos frame, rfl⟩
  rw [if_neg frame]
  by_cases short : payload.length ≤ sender.maximumPayload
  · rw [if_pos short]
    have large : 0xFFFF < payload.length := by
      obtain exceeds | none | ⟨long, -⟩ | large := refused
      · exact absurd exceeds message
      · exact absurd none frame
      · exact absurd short (Nat.not_le.mpr long)
      · rwa [Nat.min_eq_left short] at large
    exact ⟨sender, .payloadTooLarge, push_of_large large, rfl⟩
  rw [if_neg short]
  by_cases many : sender.fragmentCount payload > 0xFF
  · exact ⟨sender, .tooManyFragments, if_pos many, rfl⟩
  rw [if_neg many]
  have long := Nat.not_le.mp short
  have large : 0xFFFF < sender.maximumPayload := by
    obtain exceeds | none | ⟨-, more⟩ | large := refused
    · exact absurd exceeds message
    · exact absurd none frame
    · exact absurd more many
    · rwa [Nat.min_eq_right long.le] at large
  obtain ⟨rest, indices⟩ := exists_range_fragmentCount frame long
  have first :
      sender.nextFragment.pushPart target envelope payload (sender.fragmentCount payload) 0 =
        (sender.nextFragment, some (.queue .payloadTooLarge)) := by
    refine push_of_large ?_
    rw [@length_first_part sender.nextFragment payload long]
    exact large
  refine ⟨sender.nextFragment, .payloadTooLarge, ?_, rfl⟩
  rw [indices]
  exact pushParts_of_error first

/-- A payload that is not refused is queued, unless its target is no word. -/
theorem offer_of_not_refuses (taken : ¬ sender.refuses payload) :
    (word? target = none → ∃ next, sender.offer target envelope payload = (next, some .pack) ∧
      next.outgoing = sender.outgoing) ∧
    ∀ word, word? target = some word → ∃ next, sender.offer target envelope payload = (next, none) ∧
        sender.HasQueued next word envelope := by
  unfold refuses at taken
  push Not at taken
  obtain ⟨message, frame, few, small⟩ := taken
  unfold offer
  rw [if_neg (Nat.not_lt.mpr message), if_neg frame]
  by_cases short : payload.length ≤ sender.maximumPayload
  · rw [if_pos short]
    rw [Nat.min_eq_left short] at small
    refine ⟨fun none => ⟨sender, push_of_not_word small none, rfl⟩, fun word packs => ?_⟩
    exact ⟨_, push_of_word small packs, by
      have queued := @hasQueued_push sender target word envelope payload small packs
      rwa [push_of_word small packs] at queued⟩
  · have long := Nat.not_le.mp short
    rw [Nat.min_eq_right long.le] at small
    rw [if_neg short, if_neg (Nat.not_lt.mpr (few long))]
    obtain ⟨rest, indices⟩ := exists_range_fragmentCount frame long
    rw [indices]
    constructor
    · intro none
      refine ⟨sender.nextFragment, pushParts_of_error (push_of_not_word ?_ none), rfl⟩
      rw [@length_first_part sender.nextFragment payload long]
      exact small
    · intro word packs
      obtain ⟨next, frames, done, length, outgoing, carries⟩ :=
        @pushParts_of_word sender.nextFragment target word envelope payload
          (sender.fragmentCount payload) small packs (0 :: rest)
      refine ⟨next, done, frames, ?_, outgoing, carries⟩
      exact ne_nil_of_length_pos (length ▸ Nat.succ_pos _)

theorem outgoing_of_offer_error (raised : (sender.offer target envelope payload).2 = some error) :
    (sender.offer target envelope payload).1.outgoing = sender.outgoing := by
  by_cases refused : sender.refuses payload
  · obtain ⟨next, reason, offered, kept⟩ := @offer_of_refuses sender target envelope payload refused
    rw [offered, kept]
  · obtain ⟨unpacked, packed⟩ := @offer_of_not_refuses sender target envelope payload refused
    cases packs : word? target with
    | none =>
      obtain ⟨next, offered, kept⟩ := unpacked packs
      rw [offered, kept]
    | some word =>
      obtain ⟨next, offered, -⟩ := packed word packs
      rw [offered] at raised
      exact nomatch raised

end Sender

/-! ### What a failed operation leaves -/

namespace Session

variable {session : Session}

/-- What the callers of an operation rely on when it fails, and what a spent credit stands for. -/
structure LeavesUnchanged (session : Session) (answer : Answer) : Prop where
  raised : ∀ error, answer.2 = .error error → error.text?.isSome = true →
    answer.1.credits = session.credits ∧ answer.1.sender.outgoing = session.sender.outgoing
  spent : ∀ key, answer.1.credits.lookup key ≠ session.credits.lookup key →
    ∃ envelope : Envelope, envelope.kind = .data ∧ envelope.requestId = key.2 ∧
      session.sender.HasQueued answer.1.sender key.1 envelope

theorem leavesUnchanged_error {error : CallError} :
    LeavesUnchanged session (session, .error error) where
  raised _ _ _ := ⟨rfl, rfl⟩
  spent _ differs := absurd rfl differs

theorem leavesUnchanged_post (kind : Kind) (target : Int) (reserved : Except CallError UInt32)
    (payload : Except CallError Bytes) :
    LeavesUnchanged session (session.post kind target reserved payload) := by
  unfold post
  dsimp only
  split
  · exact ⟨fun _ _ _ => ⟨rfl, rfl⟩, fun _ differs => absurd rfl differs⟩
  split
  · exact ⟨fun _ _ _ => ⟨rfl, rfl⟩, fun _ differs => absurd rfl differs⟩
  split
  · exact ⟨fun _ _ _ => ⟨rfl, rfl⟩, fun _ differs => absurd rfl differs⟩
  · refine ⟨fun error raised _ => ⟨rfl, ?_⟩, fun _ differs => absurd rfl differs⟩
    split at raised
    · rename_i failed
      exact Sender.outgoing_of_offer_error failed
    · exact nomatch raised

/-- A stream write that has a credit for a payload that `_queue` refuses. -/
def SpendsInVain (session : Session) : Call → Prop
  | .sendStream target payload token =>
      (∃ key grant, session.grant? target token = some (key, grant) ∧ grant.credits ≠ 0) ∧
        session.sender.refuses payload
  | _ => False

variable {key : UInt32 × UInt32} {grant : CreditGrant} {target token : Int}

theorem grant?_eq_some (granted : session.grant? target token = some (key, grant)) :
    word? target = some key.1 ∧ session.credits.lookup key = some grant := by
  obtain ⟨found, keyed, entry⟩ := bind_eq_some_iff.mp granted
  obtain ⟨stored, looked, pair⟩ := map_eq_some_iff.mp entry
  obtain ⟨rfl, rfl⟩ := Prod.mk.inj pair
  refine ⟨?_, looked⟩
  unfold streamKey? at keyed
  split at keyed
  · rename_i packed _
    rw [packed, ← some.inj keyed]
  · exact nomatch keyed

theorem lookup_spend_ne {other : UInt32 × UInt32}
    (differs : (session.spend key grant).credits.lookup other ≠ session.credits.lookup other) :
    other = key := by
  by_contra apart
  exact differs (AList.lookup_insert_ne apart)

theorem credits_spend_ne (stored : session.credits.lookup key = some grant) :
    (session.spend key grant).credits ≠ session.credits := by
  intro same
  have entry := congrArg (AList.lookup key) same
  rw [stored, spend, AList.lookup_insert] at entry
  have credits := congrArg CreditGrant.credits (some.inj entry)
  have one : (1 : UInt16) = 0 := by
    have moved : grant.credits - 1 = grant.credits - 0 := by
      rw [UInt16.sub_zero]
      exact credits
    exact (UInt16.sub_right_inj grant.credits).mp moved
  exact absurd one (by decide)

theorem sendStream_of_grant {payload : Bytes}
    (granted : session.grant? target token = some (key, grant))
    (credit : grant.credits ≠ 0) : ∃ envelope : Envelope,
      envelope.kind = .data ∧ envelope.requestId = key.2 ∧
      (session.sendStream target payload token).1.credits = (session.spend key grant).credits ∧
      (session.sendStream target payload token).1.sender =
        (session.sender.nextFrame.offer target envelope payload).1 ∧
      (session.sendStream target payload token).2 =
        match (session.sender.nextFrame.offer target envelope payload).2 with
        | some error => .error error
        | none => .ok none := by
  unfold sendStream
  rw [granted]
  dsimp only
  rw [if_neg credit]
  exact ⟨_, rfl, rfl, rfl, rfl, rfl⟩

theorem sendStream_of_no_credit {payload : Bytes}
    (none : ¬ ∃ key grant, session.grant? target token = some (key, grant) ∧ grant.credits ≠ 0) :
    session.sendStream target payload token = (session, .error .noCredit) := by
  unfold sendStream
  split
  · rfl
  · rename_i key grant granted
    exact if_pos (not_not.mp fun credit => none ⟨key, grant, granted, credit⟩)

/-- A refused sample leaves the session alone unless it has paid already. -/
theorem leavesUnchanged_sendStream_iff (target : Int) (payload : Bytes) (token : Int) :
    LeavesUnchanged session (session.sendStream target payload token) ↔
      ¬ session.SpendsInVain (.sendStream target payload token) := by
  by_cases funded : ∃ key grant, session.grant? target token = some (key, grant) ∧ grant.credits ≠ 0
  · obtain ⟨key, grant, granted, credit⟩ := funded
    obtain ⟨packs, stored⟩ := grant?_eq_some granted
    obtain ⟨envelope, kind, request, credits, sender, answer⟩ :=
      @sendStream_of_grant session key grant target token payload granted credit
    constructor
    · rintro unchanged ⟨-, refused⟩
      obtain ⟨next, reason, offered, -⟩ :=
        @Sender.offer_of_refuses session.sender.nextFrame target envelope payload refused
      rw [offered] at answer
      have kept := (unchanged.raised _ answer rfl).1
      exact credits_spend_ne stored (credits ▸ kept)
    · intro covered
      have taken : ¬ session.sender.refuses payload := fun refused =>
        covered ⟨⟨key, grant, granted, credit⟩, refused⟩
      obtain ⟨next, offered, queued⟩ :=
        (@Sender.offer_of_not_refuses session.sender.nextFrame target envelope payload taken).2
          key.1 packs
      rw [offered] at answer sender
      constructor
      · intro error raised
        exact nomatch answer.symm.trans raised
      · intro other differs
        rw [credits] at differs
        rw [lookup_spend_ne differs, sender]
        exact ⟨envelope, kind, request, queued⟩
  · rw [sendStream_of_no_credit funded]
    exact iff_of_true leavesUnchanged_error fun spends => funded spends.1

theorem leavesUnchanged_of_active {answer : Answer} (running : LeavesUnchanged session answer) :
    LeavesUnchanged session
      (if session.active = false then (session, .error .inactive) else answer) := by
  split
  · exact leavesUnchanged_error
  · exact running

/-- An operation that fails leaves the credits and the queue as they were, and a credit is spent
only for a frame in the queue, unless a stream write has a credit for a payload that is refused. -/
theorem call_leavesUnchanged_iff (session : Session) (call : Call) :
    LeavesUnchanged session (session.call call) ↔ ¬ session.SpendsInVain call := by
  cases call with
  | subscribe target subscription policy => exact iff_of_true (leavesUnchanged_post _ _ _ _) id
  | unsubscribe target subscription payload =>
    exact iff_of_true
      (leavesUnchanged_post .unsubscribe target (withSubscription subscription) (.ok payload)) id
  | sendStream target payload token => exact leavesUnchanged_sendStream_iff target payload token
  | _ => exact iff_of_true (leavesUnchanged_of_active (leavesUnchanged_post _ _ _ _)) id

/-- A client with one credit for the token 7 of the target 1 and messages of up to 4 bytes. -/
def oneCredit : Session where
  reassembler := {
    maximumMessageSize := 4
    maximumSlots := 2
    timeout := 1000
    bounded := by decide }
  sender := { maximumMessageSize := 4 }
  active := true
  credits := (∅ : AList (fun _ : UInt32 × UInt32 => CreditGrant)).insert (1, 7) ⟨7, 1, 4⟩

/-- A write of five bytes raises, and the credit is gone. -/
theorem credit_spent_in_vain :
    (oneCredit.call (.sendStream 1 [1, 2, 3, 4, 5] 7)).2 = .error (.queue .messageTooLarge) ∧
      (oneCredit.call (.sendStream 1 [1, 2, 3, 4, 5] 7)).1.credits.lookup (1, 7) = some ⟨7, 0, 4⟩ ∧
      (oneCredit.call (.sendStream 1 [1, 2, 3, 4, 5] 7)).1.sender.outgoing = [] ∧
      ¬ LeavesUnchanged oneCredit (oneCredit.call (.sendStream 1 [1, 2, 3, 4, 5] 7)) := by
  have raised : (oneCredit.call (.sendStream 1 [1, 2, 3, 4, 5] 7)).2 =
      .error (.queue .messageTooLarge) := by decide +kernel
  have spent : (oneCredit.call (.sendStream 1 [1, 2, 3, 4, 5] 7)).1.credits.lookup (1, 7) =
      some ⟨7, 0, 4⟩ := by decide +kernel
  refine ⟨raised, spent, by decide +kernel, fun unchanged => ?_⟩
  have kept := congrArg (AList.lookup (1, 7)) (unchanged.raised _ raised rfl).1
  exact absurd kept (by decide +kernel)

end Session

end Solar.Remote.Client
