/-
This file models `Client.feed`. The decoder turns the whole chunk into frames before the
first of them is looked at; each frame then goes to the reassembler, and a message that
is complete to the branch of its kind. What raises on the way ends the call: the messages
that were accepted before it are not returned, and the frames behind it are gone.

`feed_spares_iff` compares the calls with those that get the same bytes one at a time.
-/

import Solar.Library.Batches
import Solar.Remote.Fragments.Client

namespace Solar.Remote.Client

open List

open Host (FrameDecoder)

/-! ### Payloads -/

/-- `Hello`. -/
structure Hello where
  major : UInt8
  minor : UInt8
  maximumFrameBytes : UInt32
  maximumMessageBytes : UInt32
  capabilities : UInt32

/-- The `FrameError` that `feed` raises. -/
inductive FeedError
  | fragment (reason : PushError)
  | helloSize
  | protocolMajor
  | creditSize
  | creditToken
  | closureSize
  | closure
  | queue (reason : QueueError)

/-- `Hello.decode`. -/
def Hello.decode (payload : Bytes) : Except FeedError Hello :=
  if payload.length ≠ helloSize then .error .helloSize
  else if payload.getD 0 0 ≠ 1 then .error .protocolMajor
  else
    .ok ⟨payload.getD 0 0, payload.getD 1 0, getU32 payload 4, getU32 payload 8, getU32 payload 12⟩

/-- The payload of the answer. The sizes are below those of the hello, and so fit a word. -/
def Hello.answer (hello : Hello) (maximumFrameSize maximumMessageSize : Nat) : Bytes :=
  [1, min 2 hello.minor, 0, 0] ++ putU32 (UInt32.ofNat maximumFrameSize) ++
    putU32 (UInt32.ofNat maximumMessageSize) ++ putU32 hello.capabilities

/-- `CreditGrant.decode`. -/
def decodeCreditGrant (payload : Bytes) : Except FeedError CreditGrant :=
  if payload.length ≠ 8 then .error .creditSize
  else if getU32 payload 0 = 0 then .error .creditToken
  else .ok ⟨getU32 payload 0, getU16 payload 4, getU16 payload 6⟩

/-- `InStreamClosed.decode`. -/
def decodeInStreamClosed (payload : Bytes) : Except FeedError InStreamClosed :=
  if payload.length ≠ 8 ∨ payload.drop 5 ≠ [0, 0, 0] then .error .closureSize
  else
    match getU32 payload 0, (payload.getD 4 0).toNat with
    | 0, _ => .error .closure
    | token, 0 => .ok ⟨token, .closed⟩
    | token, 1 => .ok ⟨token, .replaced⟩
    | token, 2 => .ok ⟨token, .disconnect⟩
    | token, 3 => .ok ⟨token, .reset⟩
    | token, 4 => .ok ⟨token, .fault⟩
    | token, 5 => .ok ⟨token, .configurationFailed⟩
    | _, _ => .error .closure

/-! ### Frames -/

/-- What the loop of `feed` uses of a client. -/
structure Session where
  sender : Sender := {}
  reassembler : Reassembler
  sessionEpoch : UInt32 := 0
  requestId : UInt32 := 0
  active : Bool := false
  helloSent : Bool := false
  serverHello : Option Hello := none
  credits : AList (fun _ : UInt32 × UInt32 => CreditGrant) := ∅

namespace Session

variable (session : Session)

section

variable (message : Message)

/-- The branch for a ServerHello. -/
def hello (hello : Hello) : Session × Except FeedError (Option Message) :=
  let negotiated := { session with
    serverHello := some hello
    sender := { session.sender with
      maximumFrameSize := min session.sender.maximumFrameSize hello.maximumFrameBytes.toNat
      maximumMessageSize := min session.sender.maximumMessageSize hello.maximumMessageBytes.toNat }
    sessionEpoch := message.envelope.sessionEpoch }
  if session.helloSent then ({ negotiated with active := true }, .ok (some message))
  else
    let numbered := negotiated.sender.nextFrame
    match numbered.queue { kind := .clientHello, frameSequence := numbered.frameSequence }
        (hello.answer numbered.maximumFrameSize numbered.maximumMessageSize) with
    | .error reason => ({ negotiated with sender := numbered }, .error (.queue reason))
    | .ok sender => ({ negotiated with sender, helloSent := true }, .ok (some message))

/-- The branch for a SessionReset. -/
def reset : Session :=
  { session with
    active := false
    helloSent := false
    sessionEpoch := message.envelope.sessionEpoch
    requestId := 0
    credits := ∅
    reassembler := { session.reassembler with slots := ∅ } }

/-- The branch for a Credit. -/
def credit (grant : CreditGrant) : Session :=
  let key := (message.envelope.target, grant.token)
  let current := ((session.credits.lookup key).map (·.credits)).getD 0
  { session with
    credits := session.credits.insert key
      ⟨grant.token, UInt16.ofNat (min 0xFFFF (current.toNat + grant.credits.toNat)), grant.window⟩ }

/-- The branch for an InStreamClosed. -/
def close (closed : InStreamClosed) : Session :=
  { session with credits := session.credits.erase (message.envelope.target, closed.token) }

/-- The branches for a message. -/
def accept : Session × Except FeedError (Option Message) :=
  match Kind.ofCode? message.envelope.kind with
  | some .serverHello =>
      match Hello.decode message.payload with
      | .error reason => (session, .error reason)
      | .ok hello => session.hello message hello
  | some .sessionReset => (session.reset message, .ok (some message))
  | some .credit =>
      match decodeCreditGrant message.payload with
      | .error reason => (session, .error reason)
      | .ok grant => (session.credit message grant, .ok (some message))
  | some .inStreamClosed =>
      match decodeInStreamClosed message.payload with
      | .error reason => (session, .error reason)
      | .ok closed => (session.close message closed, .ok (some message))
  | _ => (session, .ok (some message))

end

/-- One round of the loop of `feed`. The frames of a stream are numbered, and the clock has its
readings for each. -/
def receive (clocks : Nat → Clock) (frame : (HostEnvelope × Bytes) × Nat) :
    Session × Except FeedError (Option Message) :=
  let pushed := session.reassembler.push (clocks frame.2) frame.1.1 frame.1.2
  let session := { session with reassembler := pushed.1 }
  match pushed.2 with
  | .error reason => (session, .error (.fragment reason))
  | .ok none => (session, .ok none)
  | .ok (some message) => session.accept message

end Session

/-! ### Chunks -/

/-- A client: the decoder, what the loop uses, and the number of frames that were decoded. -/
structure FeedClient (maximumFrameSize : Nat) where
  decoder : FrameDecoder (maximumFrameSize + 16) := {}
  session : Session
  decoded : Nat := 0

namespace FeedClient

variable {maximumFrameSize : Nat}

/-- The frames that a chunk completes, with their numbers. -/
def frames (client : FeedClient maximumFrameSize) (data : Bytes) :
    List ((HostEnvelope × Bytes) × Nat) :=
  (client.decoder.feed data).2.zipIdx client.decoded

/-- `feed`. -/
def feed (clocks : Nat → Clock) (client : FeedClient maximumFrameSize) (data : Bytes) :
    FeedClient maximumFrameSize × Except FeedError (List Message) :=
  let handled := Batches.batch (fun session => session.receive clocks) client.session
    (client.frames data)
  (⟨(client.decoder.feed data).1, handled.1, client.decoded + (client.frames data).length⟩,
    handled.2)

/-- The messages that a caller who catches the errors has from its calls. -/
def feedChunks (clocks : Nat → Clock) (client : FeedClient maximumFrameSize) :
    List Bytes → FeedClient maximumFrameSize × List Message
  | [] => (client, [])
  | chunk :: rest =>
      let fed := client.feed clocks chunk
      let later := feedChunks clocks fed.1 rest
      (later.1, (fed.2.toOption.getD []) ++ later.2)

/-- The same bytes, one in each call. -/
def feedBytes (clocks : Nat → Clock) (client : FeedClient maximumFrameSize) (stream : Bytes) :
    FeedClient maximumFrameSize × List Message :=
  client.feedChunks clocks (stream.map fun byte => [byte])

/-- The frames that the chunks complete. -/
def batchesOf (client : FeedClient maximumFrameSize) :
    List Bytes → List (List ((HostEnvelope × Bytes) × Nat))
  | [] => []
  | chunk :: rest =>
      client.frames chunk :: batchesOf ⟨(client.decoder.feed chunk).1, client.session,
          client.decoded + (client.frames chunk).length⟩ rest

/-! ### The frames of a stream -/

theorem batchesOf_session (decoder : FrameDecoder (maximumFrameSize + 16))
    (session other : Session) (decoded : Nat) (chunks : List Bytes) :
    batchesOf ⟨decoder, session, decoded⟩ chunks = batchesOf ⟨decoder, other, decoded⟩ chunks := by
  induction chunks generalizing decoder session other decoded with
  | nil => rfl
  | cons chunk rest ih =>
    rw [batchesOf, ih _ session other]
    rfl

variable (client : FeedClient maximumFrameSize)

theorem take_batchesOf (chunks : List Bytes) (count : Nat) :
    (client.batchesOf chunks).take count = client.batchesOf (chunks.take count) := by
  induction chunks generalizing client count with
  | nil => rw [take_nil, batchesOf, take_nil]
  | cons chunk rest ih =>
    cases count with
    | zero => rfl
    | succ count => rw [take_succ_cons, batchesOf, batchesOf, take_succ_cons, ih]

theorem flatten_batchesOf (chunks : List Bytes) :
    (client.batchesOf chunks).flatten = client.frames chunks.flatten := by
  induction chunks generalizing client with
  | nil => rfl
  | cons chunk rest ih =>
    rw [batchesOf, flatten_cons, flatten_cons, ih, frames, frames,
      frames, FrameDecoder.feed_append, zipIdx_append, length_zipIdx]

theorem batchesOf_bytes {stream : Bytes} :
    ∀ items ∈ client.batchesOf (stream.map fun byte => [byte]), items.length ≤ 1 := by
  induction stream generalizing client with
  | nil => exact fun items member => nomatch member
  | cons byte rest ih =>
    intro items member
    rcases mem_cons.mp member with rfl | later
    · rw [frames, length_zipIdx, FrameDecoder.feed, FrameDecoder.feed, append_nil]
      cases (client.decoder.step byte).2 with
      | none => exact Nat.zero_le _
      | some frame => exact Nat.le_refl _
    · exact ih _ items later

theorem feedChunks_eq (clocks : Nat → Clock) (client : FeedClient maximumFrameSize)
    (chunks : List Bytes) :
    ((client.feedChunks clocks chunks).1.session, (client.feedChunks clocks chunks).2) =
      Batches.batches (fun session => session.receive clocks) client.session
        (client.batchesOf chunks) := by
  induction chunks generalizing client with
  | nil => rfl
  | cons chunk rest ih =>
    have later := ih (client.feed clocks chunk).1
    rw [feed, batchesOf_session _ _ client.session] at later
    rw [batchesOf, Batches.batches, Batches.caught, ← later]
    rfl

theorem feedBytes_eq (clocks : Nat → Clock) (client : FeedClient maximumFrameSize)
    (stream : Bytes) :
    ((client.feedBytes clocks stream).1.session, (client.feedBytes clocks stream).2) =
      Batches.each (fun session => session.receive clocks) client.session
        (client.frames stream) := by
  have spared : Batches.AllSpared (fun session => session.receive clocks) client.session
      (client.batchesOf (stream.map fun byte => [byte])) :=
    Batches.allSpared_of_short client.batchesOf_bytes
  have single : (stream.map fun byte => [byte]).flatten = stream := by
    rw [← flatMap_def, flatMap_singleton']
  rw [feedBytes, feedChunks_eq,
    Batches.batches_iff.mpr spared _ [] (append_nil _).symm, flatten_batchesOf, single]

/-- Chunks deliver the messages of the single bytes, and have their effect on the session, up to
each of them exactly if every chunk with a refused frame is spared. -/
theorem feed_spares_iff (clocks : Nat → Clock) (client : FeedClient maximumFrameSize)
    (chunks : List Bytes) :
    (∀ first rest, chunks = first ++ rest → (client.feedChunks clocks first).1.session =
            (client.feedBytes clocks first.flatten).1.session ∧
          (client.feedChunks clocks first).2 = (client.feedBytes clocks first.flatten).2) ↔
      Batches.AllSpared (fun session => session.receive clocks) client.session
        (client.batchesOf chunks) := by
  rw [← Batches.batches_iff]
  have split (first : List Bytes) : ((client.feedChunks clocks first).1.session =
            (client.feedBytes clocks first.flatten).1.session ∧
          (client.feedChunks clocks first).2 = (client.feedBytes clocks first.flatten).2) ↔
        Batches.batches (fun session => session.receive clocks) client.session
            (client.batchesOf first) =
          Batches.each (fun session => session.receive clocks) client.session
            (client.batchesOf first).flatten := by
    rw [flatten_batchesOf, ← feedChunks_eq, ← feedBytes_eq, Prod.ext_iff]
  constructor
  · intro all first rest parts
    have taken : first = client.batchesOf (chunks.take first.length) := by
      rw [← take_batchesOf, parts, take_left]
    rw [taken]
    exact (split _).mp (all _ (chunks.drop first.length) (take_append_drop _ _).symm)
  · intro all first rest parts
    have taken : client.batchesOf first = (client.batchesOf chunks).take first.length := by
      rw [take_batchesOf, parts, take_left]
    refine (split first).mpr ?_
    rw [taken]
    exact all _ _ (take_append_drop _ _).symm

/-- A client as it is made. -/
def fresh : FeedClient 1024 where
  session := { reassembler := {
    maximumMessageSize := 4096, maximumSlots := 2, timeout := 1000, bounded := by decide } }

/-- A Credit frame with its delimiter. -/
def creditFrame (size : UInt8) (payload : Bytes) : Bytes :=
  let header := [1, 2, 10, 0, 32, 0] ++ replicate 16 0 ++ [size, 0, 0, 0, 0, 1, 0, 0, 0, 0]
  Cobs.encode (Frame.content header payload) ++ [0]

/-- A good grant, and one without a payload behind it. -/
def refusedChunk : Bytes := creditFrame 8 [5, 0, 0, 0, 1, 0, 4, 0] ++ creditFrame 0 []

/-- The good grant is returned if its bytes come alone, and lost if they come with the other's. -/
theorem feed_drops_neighbour :
    (fresh.feedChunks (fun _ _ => 0) [refusedChunk]).2 = [] ∧
      (fresh.feedBytes (fun _ _ => 0) refusedChunk).2.map Message.payload =
        [[5, 0, 0, 0, 1, 0, 4, 0]] := by
  decide +kernel

end FeedClient

end Solar.Remote.Client
