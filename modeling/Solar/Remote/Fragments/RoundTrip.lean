/-
This file takes messages from one side to the other. From the firmware to the
client a message comes through if it has several frames, or is not marked as a
fragment by the caller. From the client to the firmware it comes through if it
has several frames and the caller has not marked it as final, or one frame and
the caller has: the client does not mark the only frame of a message as final.
-/

import Solar.Remote.Fragments.Sending

namespace Solar.Remote

open List hiding filter_map map_map

/-- The replies of a receiver as far as it got: nothing before the last frame, and with it the
message. -/
def LogicalMessage.RoundTrips {Failure Received : Type} (message : LogicalMessage)
    (content : Received → HostEnvelope × Bytes) (count : Nat) (finished : Prop)
    (replies : List (Except Failure (Option Received))) : Prop :=
  ∃ received, message.IsRestored (content received).1 (content received).2 ∧
    replies <+: LogicalMessage.expected count received ∧ (finished → replies.length = count)

/-- The number of frames of a message. -/
def LogicalMessage.frames (message : LogicalMessage) (size : Nat) : Nat :=
  if message.payload.length ≤ size then 1 else message.count size

/-! ### From the firmware to the client -/

/-- A message is transmitted, and other events follow that do not disturb it. -/
structure FirmwareRun (limits : ServiceLimits) (message : LogicalMessage) where
  link : LinkState limits
  events : List SendEvent
  accepted : (link.output.transmit message.slot).2 = true
  unused : limits.maxFramePayload < message.payload.length →
    link.Unused link.output.followingFragmentId
  undisturbed : (link.transmit message.slot).Undisturbed (link.traceOf message) events

namespace FirmwareRun

variable {limits : ServiceLimits} {message : LogicalMessage} (run : FirmwareRun limits message)

def fragmentId : UInt16 := run.link.output.followingFragmentId

def result : LinkState limits × Trace × List (Bool × TxFrame) :=
  (run.link.transmit message.slot).sendAll (run.link.traceOf message) run.events

/-- All of the message has left the firmware. -/
def Finished : Prop := run.result.1.Finished run.result.2.1

end FirmwareRun

/-- The frames of a run arrive at a client in order, some time each. A message of several frames
finds a slot and does not time out. -/
structure ClientArrivals {limits : ServiceLimits} {message : LogicalMessage}
    (run : FirmwareRun limits message) where
  reassembler : Client.Reassembler
  items : List (Arrival Client.Clock)
  delivered : items.map (fun arrival => (arrival.mine, arrival.frame)) =
    run.result.2.2.map (Prod.map id TxFrame.decoded)
  fits : message.payload.length ≤ reassembler.maximumMessageSize
  room : limits.maxFramePayload < message.payload.length →
    Delivery.AtFirst Client.Reassembler.receive Arrival.mine
      (Client.Reassembler.HasRoom run.fragmentId) reassembler items
  inTime : limits.maxFramePayload < message.payload.length →
    Delivery.InTime Arrival.mine Client.Reassembler.arrived
      (Client.Reassembler.renew reassembler.timeout) none items

theorem map_frame_filter_mine {Time : Type} {items : List (Arrival Time)}
    {frames : List (Bool × TxFrame)}
    (delivered : items.map (fun arrival => (arrival.mine, arrival.frame)) =
      frames.map (Prod.map id TxFrame.decoded)) :
    (items.filter Arrival.mine).map Arrival.frame =
      ((frames.filter Prod.fst).map Prod.snd).map TxFrame.decoded := by
  have marked := congrArg (fun pairs => (pairs.filter Prod.fst).map Prod.snd) delivered
  simp only [List.filter_map, List.map_map] at marked ⊢
  exact marked

theorem frame_of_not_mine {Time : Type} {items : List (Arrival Time)}
    {frames : List (Bool × TxFrame)}
    (delivered : items.map (fun arrival => (arrival.mine, arrival.frame)) =
      frames.map (Prod.map id TxFrame.decoded)) {arrival : Arrival Time} (member : arrival ∈ items)
    (other : arrival.mine = false) :
    ∃ frame, (false, frame) ∈ frames ∧ arrival.frame = frame.decoded := by
  have paired := mem_map_of_mem (f := fun arrival : Arrival Time =>
    (arrival.mine, arrival.frame)) member
  rw [delivered] at paired
  obtain ⟨⟨mark, frame⟩, inside, same⟩ := mem_map.mp paired
  obtain ⟨marked, equal⟩ := Prod.mk.inj same
  obtain rfl : mark = false := marked.trans other
  exact ⟨frame, inside, equal.symm⟩

/-- The content of a message of the client. -/
def Client.Message.content (received : Client.Message) : HostEnvelope × Bytes :=
  (received.envelope, received.payload)

/-- The content of a message of the firmware. -/
def Decoded.content (received : Decoded) : HostEnvelope × Bytes :=
  (received.envelope.toHost, received.payload)

namespace LogicalMessage

variable {message : LogicalMessage}

theorem isRestored_assembled {id : UInt16} {epoch : UInt32} {size : Nat} {first : Decoded}
    (opening : message.IsPart id epoch size 0 first) :
    message.IsRestored (Client.Reassembler.assembled message first).content.1
        (Client.Reassembler.assembled message first).content.2 ∧
      message.IsRestored (Decoded.content ⟨first.envelope.assembled, message.payload⟩).1
        (Decoded.content ⟨first.envelope.assembled, message.payload⟩).2 := by
  obtain ⟨final, fragmented⟩ := Flags.has_assembled first.envelope.flags
  have kind : first.envelope.kind.code = message.kind.code := congrArg Kind.code opening.kind
  exact ⟨⟨kind, opening.target, opening.requestId, opening.reserved, rfl, final, fragmented⟩,
    ⟨kind, opening.target, opening.requestId, opening.reserved, rfl, final, fragmented⟩⟩

/-- The envelope in which a message would arrive. -/
def restoredEnvelope (message : LogicalMessage) : Envelope where
  kind := message.kind
  flags := Flags.final
  target := message.target
  requestId := message.requestId
  reserved := message.reserved

theorem isRestored_restoredEnvelope (message : LogicalMessage) :
    message.IsRestored message.restoredEnvelope.toHost message.payload :=
  ⟨rfl, rfl, rfl, rfl, rfl, (by decide : Flags.has Flags.final Flags.final = true),
    (by decide : Flags.has Flags.final Flags.fragmented = false)⟩

end LogicalMessage

namespace ClientArrivals

variable {limits : ServiceLimits} {message : LogicalMessage} {run : FirmwareRun limits message}
  (arrivals : ClientArrivals run)

/-- What the client replies to the frames of the message. -/
def replies : List (Except Client.PushError (Option Client.Message)) :=
  Delivery.ownReplies Client.Reassembler.receive Arrival.mine arrivals.reassembler arrivals.items

/-- The only frame of a message, at the client. -/
theorem push_only {epoch : UInt32} {frame : TxFrame}
    (stamped : LinkState.Stamped limits epoch frame message.slot)
    (reassembler : Client.Reassembler) (clock : Client.Clock) :
    (message.flags.has Flags.fragmented = false → ∃ received,
      (reassembler.push clock frame.decoded.envelope.toHost frame.decoded.payload).2 =
          .ok (some received) ∧
        message.IsRestored received.content.1 received.content.2) ∧
    (message.flags.has Flags.fragmented = true →
      (reassembler.push clock frame.decoded.envelope.toHost frame.decoded.payload).2 =
        .error .invalidFragment) := by
  obtain ⟨payload, link, -, envelope⟩ := stamped
  obtain ⟨final, fragmented, -⟩ := message.flags.has_stamped true
  have flags : frame.decoded.envelope.toHost.flags = message.flags.stable ||| Flags.final :=
    congrArg Envelope.flags envelope
  have one : frame.decoded.envelope.toHost.fragmentCount = 1 :=
    congrArg Envelope.fragmentCount envelope
  rw [if_pos rfl] at final fragmented
  rw [← flags] at final fragmented
  constructor
  · intro plain
    rw [plain] at fragmented
    refine ⟨⟨frame.decoded.envelope.toHost, frame.decoded.envelope.toHost.payloadSize.toNat,
      frame.decoded.payload⟩, ?_, ?_⟩
    · exact congrArg Prod.snd (if_pos ⟨fragmented, one⟩)
    · exact ⟨congrArg (fun envelope => envelope.kind.code) envelope,
        congrArg Envelope.target envelope, congrArg Envelope.requestId envelope,
        congrArg Envelope.reserved envelope, payload, final, fragmented⟩
  · intro marked
    rw [marked] at fragmented
    have whole : ¬(Flags.has frame.decoded.envelope.toHost.flags Flags.fragmented = false ∧
        frame.decoded.envelope.toHost.fragmentCount = 1) := by
      rw [fragmented]
      exact fun both => nomatch both.1
    have single : frame.decoded.envelope.toHost.fragmentCount ≤ 1 := UInt8.le_of_eq one
    simp [Client.Reassembler.push, if_neg whole, single]

/-- A message of one frame comes through iff the caller has not marked it as a fragment. -/
theorem roundTrips_short (short : message.payload.length ≤ limits.maxFramePayload) :
    (message.flags.has Flags.fragmented = false →
      message.RoundTrips Client.Message.content 1 run.Finished arrivals.replies) ∧
    (run.Finished → message.RoundTrips Client.Message.content 1 run.Finished arrivals.replies →
      message.flags.has Flags.fragmented = false) := by
  have trace : run.link.traceOf message = .place (laneFor message.kind message.requestId)
      (min (run.link.output.lanes (laneFor message.kind message.requestId)).slots.length
        (limits.laneDepth - 1)) := if_neg short.not_gt
  have waits := Output.waits_transmit short run.accepted
  have undisturbed := run.undisturbed
  rw [trace] at undisturbed
  have mine := map_frame_filter_mine arrivals.delivered
  have sent := LinkState.sendAll_waits run.events waits undisturbed
  have result : run.result = (run.link.transmit message.slot).sendAll (.place
      (laneFor message.kind message.requestId)
      (min (run.link.output.lanes (laneFor message.kind message.requestId)).slots.length
        (limits.laneDepth - 1))) run.events := by
    rw [FirmwareRun.result, trace]
  rw [← result] at sent
  rcases sent with ⟨none, further, left⟩ | ⟨-, frame, single, stamped⟩
  · have unfinished : ¬run.Finished := by
      rw [FirmwareRun.Finished, left]
      exact id
    rw [none, map_nil, map_nil, map_eq_nil_iff] at mine
    have silent : arrivals.replies = [] := by
      rw [← length_eq_zero_iff, replies, Delivery.length_ownReplies, mine, length_nil]
    refine ⟨fun _ => ?_, fun finished => absurd finished unfinished⟩
    refine ⟨⟨message.restoredEnvelope.toHost, 0, message.payload⟩,
      message.isRestored_restoredEnvelope, ?_, fun finished => absurd finished unfinished⟩
    rw [silent]
    exact nil_prefix
  · rw [single, map_singleton, map_singleton, map_eq_singleton_iff] at mine
    obtain ⟨arrival, only, same⟩ := mine
    obtain ⟨before, reply⟩ : ∃ before, arrivals.replies =
        [(Client.Reassembler.receive before arrival).2] :=
      Delivery.ownReplies_single only arrivals.reassembler
    have plain := push_only stamped before arrival.time
    rw [← same] at plain
    constructor
    · intro unmarked
      obtain ⟨received, returned, restored⟩ := plain.1 unmarked
      refine ⟨received, restored, ?_, fun _ => ?_⟩
      · rw [reply, Client.Reassembler.receive, returned]
        exact prefix_rfl
      · rw [reply, length_singleton]
    · rintro - ⟨received, -, expected, -⟩
      by_contra marked
      rw [reply, Client.Reassembler.receive, plain.2 (eq_true_of_ne_false marked)] at expected
      cases (cons_prefix_cons.mp expected).1

/-- A message of several frames comes through. -/
theorem roundTrips_long (long : limits.maxFramePayload < message.payload.length) :
    message.RoundTrips Client.Message.content (message.count limits.maxFramePayload) run.Finished
      arrivals.replies := by
  have trace : run.link.traceOf message = .fragments run.fragmentId := if_pos long
  obtain ⟨divides, place, sends⟩ : message.Divides run.fragmentId limits.maxFramePayload ∧
      ∃ place, Output.Sends message run.fragmentId place [] 0
        (run.link.transmit message.slot).output :=
    LinkState.sends_transmit long run.accepted (run.unused long)
  have undisturbed := run.undisturbed
  rw [trace] at undisturbed
  have result : run.result = (run.link.transmit message.slot).sendAll (.fragments run.fragmentId)
      run.events := by
    rw [FirmwareRun.result, trace]
  obtain ⟨more, further, final, stamped⟩ := LinkState.sendAll_sends sends divides run.events
    undisturbed
  obtain ⟨left, marks⟩ := (run.link.transmit message.slot).sendAll_marks run.fragmentId run.events
  rw [← result] at final stamped left marks
  have mine := map_frame_filter_mine arrivals.delivered
  have count : arrivals.replies.length = more.length := by
    have length := congrArg List.length mine
    rw [length_map, length_map, stamped.length_eq] at length
    rw [replies, Delivery.length_ownReplies, length]
  have part : ∀ offset arrival, (arrivals.items.filter Arrival.mine)[offset]? = some arrival →
      message.IsPart run.fragmentId (run.link.transmit message.slot).epoch limits.maxFramePayload
        offset arrival.frame := by
    intro offset arrival found
    have framed := congrArg (fun frames => frames[offset]?) mine
    simp only [List.getElem?_map (f := Arrival.frame), found, Option.map_some] at framed
    rw [List.getElem?_map] at framed
    obtain ⟨frame, sent, same⟩ := Option.map_eq_some_iff.mp framed.symm
    rw [← same]
    exact LinkState.isPart_sent final divides stamped sent
  have finished : run.Finished → arrivals.replies.length = message.count limits.maxFramePayload := by
    intro finished
    rw [FirmwareRun.Finished, left] at finished
    rw [count]
    exact LinkState.length_sent_of_unused final finished
  cases first : (arrivals.items.filter Arrival.mine).head? with
  | none =>
    have silent : arrivals.replies = [] := by
      rw [List.head?_eq_none_iff] at first
      rw [← length_eq_zero_iff, replies, Delivery.length_ownReplies, first, length_nil]
    refine ⟨⟨message.restoredEnvelope.toHost, 0, message.payload⟩,
      message.isRestored_restoredEnvelope, ?_, finished⟩
    rw [silent]
    exact nil_prefix
  | some arrival =>
    rw [List.head?_eq_getElem?] at first
    have opening := part 0 arrival first
    have several := divides.several
    refine ⟨Client.Reassembler.assembled message arrival.frame,
      (LogicalMessage.isRestored_assembled opening).1, ?_, finished⟩
    have gathers := Client.Reassembler.gathers arrivals.reassembler.timeout divides opening
    refine gathers.ownReplies ⟨⟨arrivals.fits, rfl⟩, ⟨?_, ?_, ?_⟩, fun _ => ?_, by simp⟩
    · intro offset item found
      rw [Nat.zero_add]
      refine ⟨part offset item found, ?_⟩
      rintro rfl
      cases Option.some.inj (first.symm.trans found)
      rfl
    · have length : arrivals.replies.length = (arrivals.items.filter Arrival.mine).length :=
        Delivery.length_ownReplies _ _ _ _
      rw [LogicalMessage.length_expected Client.PushError (Nat.lt_of_succ_lt several), Nat.zero_add]
      exact (length.symm.trans count).trans_le (LinkState.length_sent_le final)
    · intro item member other
      obtain ⟨frame, inside, same⟩ := frame_of_not_mine arrivals.delivered member other
      have foreign : frame.envelope.fragmentId ≠ run.fragmentId :=
        of_decide_eq_false (marks _ inside).symm
      show item.frame.envelope.fragmentId ≠ run.fragmentId
      rw [same]
      exact foreign
    · exact ⟨arrivals.room long, arrivals.inTime long⟩

end ClientArrivals

/-! ### From the client to the firmware -/

/-- The envelope with which the client queues a message. -/
def LogicalMessage.envelope (message : LogicalMessage) (epoch sequence : UInt32) : Envelope where
  kind := message.kind
  flags := message.flags
  sessionEpoch := epoch
  frameSequence := sequence
  target := message.target
  requestId := message.requestId
  reserved := message.reserved

/-- A message is queued. -/
structure ClientRun (message : LogicalMessage) where
  sender : Client.Sender
  epoch : UInt32
  sequence : UInt32
  next : Client.Sender
  queued : sender.queue (message.envelope epoch sequence) message.payload = .ok next

namespace Client.Sender

variable {sender next : Sender} {envelope : Envelope} {payload : Bytes}

theorem append_eq_ok (appended : sender.append envelope payload = .ok next) :
    next = { sender with outgoing := sender.outgoing ++
      [⟨{ envelope with payloadSize := UInt16.ofNat payload.length }, payload⟩] } := by
  unfold append at appended
  split at appended
  · exact nomatch appended
  · exact (Except.ok.inj appended).symm

/-- A frame is the fragment with the given index. -/
def IsFragment (envelope : Envelope) (payload : Bytes) (fragmentId : UInt16) (size count index : Nat)
    (frame : Decoded) : Prop :=
  ∃ sequence, frame = ⟨{ envelope with
    flags := if index + 1 = count then envelope.flags ||| Flags.fragmented ||| Flags.final
      else envelope.flags ||| Flags.fragmented
    frameSequence := sequence
    payloadSize := UInt16.ofNat ((payload.drop (index * size)).take size).length
    fragmentId
    fragmentIndex := UInt8.ofNat index
    fragmentCount := UInt8.ofNat count }, (payload.drop (index * size)).take size⟩

theorem appendPart_eq_ok {count index : Nat}
    (appended : appendPart envelope payload count sender index = .ok next) :
    next.maximumPayload = sender.maximumPayload ∧ next.fragmentId = sender.fragmentId ∧
      ∃ frame, next.outgoing = sender.outgoing ++ [frame] ∧
        IsFragment envelope payload sender.fragmentId sender.maximumPayload count index frame := by
  have equal := append_eq_ok appended
  by_cases first : index = 0
  · rw [if_pos first] at equal
    subst equal
    exact ⟨rfl, rfl, _, rfl, _, rfl⟩
  · rw [if_neg first] at equal
    subst equal
    exact ⟨rfl, rfl, _, rfl, _, rfl⟩

/-- The loop queues the fragments one after the other. -/
theorem foldlM_appendPart {count rounds : Nat}
    (looped : (List.range rounds).foldlM (appendPart envelope payload count) sender = .ok next) :
    next.maximumPayload = sender.maximumPayload ∧ next.fragmentId = sender.fragmentId ∧
      ∃ frames, next.outgoing = sender.outgoing ++ frames ∧ frames.length = rounds ∧
        ∀ index frame, frames[index]? = some frame →
          IsFragment envelope payload sender.fragmentId sender.maximumPayload count index frame := by
  induction rounds generalizing next with
  | zero =>
    obtain rfl := Except.ok.inj looped
    exact ⟨rfl, rfl, [], (append_nil _).symm, rfl, nofun⟩
  | succ rounds ih =>
    rw [range_succ, foldlM_append] at looped
    cases earlier : (List.range rounds).foldlM (appendPart envelope payload count) sender with
    | error reason =>
      rw [earlier] at looped
      exact nomatch looped
    | ok middle =>
      rw [earlier] at looped
      obtain ⟨room, fragmentId, frames, outgoing, length, each⟩ := ih earlier
      have appended : appendPart envelope payload count middle rounds = .ok next := by
        have single := looped
        simp only [foldlM_cons, foldlM_nil, bind, Except.bind] at single
        cases last : appendPart envelope payload count middle rounds with rw [last] at single
        | error reason => exact nomatch single
        | ok final => exact single
      obtain ⟨kept, same, frame, added, fragment⟩ := appendPart_eq_ok appended
      rw [room, fragmentId] at fragment
      refine ⟨kept.trans room, same.trans fragmentId, frames ++ [frame], ?_, ?_, ?_⟩
      · rw [added, outgoing, append_assoc]
      · rw [length_append, length, length_singleton]
      · intro index found present
        rcases Nat.lt_or_ge index rounds with before | after
        · rw [List.getElem?_append_left (by omega)] at present
          exact each index found present
        · rw [List.getElem?_append_right (by omega)] at present
          obtain ⟨bound, rfl⟩ := List.getElem?_eq_some_iff.mp present
          rw [length_singleton] at bound
          obtain rfl : index = rounds := by omega
          simpa [length] using fragment

end Client.Sender

theorem getElem?_of_starts {α : Type} {first whole : List α} (starts : first <+: whole)
    {index : Nat} {value : α} (found : first[index]? = some value) : whole[index]? = some value := by
  obtain ⟨rest, rfl⟩ := starts
  rw [List.getElem?_append_left (List.getElem?_eq_some_iff.mp found).1]
  exact found

theorem Envelope.isFragment_of_early {envelope : Envelope}
    (final : envelope.flags.has Flags.final = true) (early : envelope.isLast = false) :
    envelope.isFragment = false := by
  rw [isFragment, final, early]
  exact Bool.and_false _

theorem Flags.has_physical (flags : Flags) (last : Bool) :
    Flags.has (if last then flags ||| Flags.fragmented ||| Flags.final
        else flags ||| Flags.fragmented) Flags.final = (last || flags.has Flags.final) ∧
      Flags.has (if last then flags ||| Flags.fragmented ||| Flags.final
        else flags ||| Flags.fragmented) Flags.fragmented = true ∧
      Flags.stable (if last then flags ||| Flags.fragmented ||| Flags.final
        else flags ||| Flags.fragmented) = (flags ||| Flags.fragmented).stable := by
  obtain ⟨bits⟩ := flags
  revert bits last
  decide

namespace ClientRun

variable {message : LogicalMessage} (run : ClientRun message)

def size : Nat := run.sender.maximumPayload

def fragmentId : UInt16 := run.sender.nextFragment.fragmentId

/-- The frames that are queued for the message. -/
def frames : List Decoded := run.next.outgoing.drop run.sender.outgoing.length

theorem frames_short (short : message.payload.length ≤ run.size) :
    ∃ envelope, run.frames = [⟨envelope, message.payload⟩] ∧
      envelope = { message.envelope run.epoch run.sequence with
        payloadSize := UInt16.ofNat message.payload.length } := by
  have queued := run.queued
  unfold Client.Sender.queue at queued
  split at queued
  · exact nomatch queued
  split at queued
  · exact nomatch queued
  rw [if_pos (show _ ≤ run.sender.maximumPayload from short)] at queued
  refine ⟨_, ?_, rfl⟩
  rw [frames, Client.Sender.append_eq_ok queued, drop_left]

theorem nextFragment_ne_zero (sender : Client.Sender) : sender.nextFragment.fragmentId ≠ 0 := by
  unfold Client.Sender.nextFragment
  dsimp only
  split
  · decide
  · assumption

theorem frames_long (long : run.size < message.payload.length) :
    message.Divides run.fragmentId run.size ∧ run.frames.length = message.count run.size ∧
      ∀ index frame, run.frames[index]? = some frame →
        Client.Sender.IsFragment (message.envelope run.epoch run.sequence) message.payload
          run.fragmentId run.size (message.count run.size) index frame := by
  have queued := run.queued
  unfold Client.Sender.queue at queued
  split at queued
  · exact nomatch queued
  split at queued
  · exact nomatch queued
  rename_i positive
  rw [if_neg (show ¬_ ≤ run.sender.maximumPayload from Nat.not_le.mpr long)] at queued
  dsimp only at queued
  split at queued
  · exact nomatch queued
  rename_i few
  obtain ⟨-, -, parts, outgoing, length, each⟩ := Client.Sender.foldlM_appendPart queued
  have frames : run.frames = parts := by
    rw [ClientRun.frames, outgoing]
    exact drop_left
  rw [frames]
  exact ⟨⟨nextFragment_ne_zero run.sender, Nat.pos_of_ne_zero positive, long, Nat.not_lt.mp few⟩,
    length, each⟩

theorem isPart_of_isFragment {index : Nat} {frame : Decoded}
    (plain : message.flags.has Flags.final = false)
    (fragment : Client.Sender.IsFragment (message.envelope run.epoch run.sequence) message.payload
      run.fragmentId run.size (message.count run.size) index frame) :
    message.IsPart run.fragmentId run.epoch run.size index frame := by
  obtain ⟨sequence, rfl⟩ := fragment
  obtain ⟨final, fragmented, stable⟩ :=
    message.flags.has_physical (decide (index + 1 = message.count run.size))
  simp only [decide_eq_true_eq, plain, Bool.or_false] at final fragmented stable
  exact ⟨rfl, rfl, rfl, rfl, rfl, rfl, rfl, rfl, fragmented, final, stable, rfl⟩

theorem isFragment_eq_false (divides : message.Divides run.fragmentId run.size)
    {frame : Decoded} (marked : message.flags.has Flags.final = true)
    (fragment : Client.Sender.IsFragment (message.envelope run.epoch run.sequence) message.payload
      run.fragmentId run.size (message.count run.size) 0 frame) :
    frame.envelope.flags.has Flags.fragmented = true ∧ frame.envelope.isFragment = false := by
  have several := divides.several
  obtain ⟨sequence, rfl⟩ := fragment
  obtain ⟨final, fragmented, -⟩ :=
    message.flags.has_physical (decide (0 + 1 = message.count run.size))
  simp only [decide_eq_true_eq, marked, Bool.or_true] at final fragmented
  refine ⟨fragmented, Envelope.isFragment_of_early final (decide_eq_false ?_)⟩
  rw [LogicalMessage.toNat_ofNat_small divides.few]
  exact Nat.ne_of_lt several

end ClientRun

/-- The frames of a run arrive at the firmware in order, some time each and perhaps not all of
them. The others have other fragment ids, and a message of several frames finds a slot and does not
time out. -/
structure FirmwareArrivals {message : LogicalMessage} (run : ClientRun message)
    (limits : ReassemblyLimits) (slots : Nat) where
  pool : Reassembly slots
  items : List (Arrival Tick)
  delivered : (items.filter Arrival.mine).map Arrival.frame <+: run.frames
  foreign : run.size < message.payload.length → ∀ arrival ∈ items, arrival.mine = false →
    arrival.frame.envelope.fragmentId ≠ run.fragmentId
  fits : message.payload.length ≤ limits.maxMessageBytes
  room : run.size < message.payload.length →
    Delivery.AtFirst (Reassembly.receive limits) Arrival.mine
      (Reassembly.HasRoom run.fragmentId) pool items
  inTime : run.size < message.payload.length →
    Delivery.InTime Arrival.mine Arrival.time (Reassembly.keep limits) none items

namespace FirmwareArrivals

variable {message : LogicalMessage} {run : ClientRun message} {limits : ReassemblyLimits}
  {slots : Nat} (arrivals : FirmwareArrivals run limits slots)

/-- All frames of the message have arrived. -/
def Finished : Prop := (arrivals.items.filter Arrival.mine).length = run.frames.length

/-- What the firmware replies to the frames of the message. -/
def replies : List (Except ReassemblyFailure (Option Decoded)) :=
  Delivery.ownReplies (Reassembly.receive limits) Arrival.mine arrivals.pool arrivals.items

theorem length_replies :
    arrivals.replies.length = (arrivals.items.filter Arrival.mine).length :=
  Delivery.length_ownReplies _ _ _ _

theorem roundTrips_none (count : Nat) (none : arrivals.items.filter Arrival.mine = [])
    (unfinished : ¬arrivals.Finished) :
    message.RoundTrips Decoded.content count arrivals.Finished arrivals.replies := by
  have silent : arrivals.replies = [] := by
    rw [← length_eq_zero_iff, length_replies, none, length_nil]
  refine ⟨⟨message.restoredEnvelope, message.payload⟩, message.isRestored_restoredEnvelope, ?_,
    fun finished => absurd finished unfinished⟩
  rw [silent]
  exact nil_prefix

/-- A message of one frame comes through iff the caller has marked it as final, and not as a
fragment. -/
theorem roundTrips_short (short : message.payload.length ≤ run.size) :
    (message.flags.has Flags.final = true ∧ message.flags.has Flags.fragmented = false →
      message.RoundTrips Decoded.content 1 arrivals.Finished arrivals.replies) ∧
    (arrivals.Finished → message.RoundTrips Decoded.content 1 arrivals.Finished arrivals.replies →
      message.flags.has Flags.final = true ∧ message.flags.has Flags.fragmented = false) := by
  obtain ⟨envelope, frames, authored⟩ := run.frames_short short
  have delivered := arrivals.delivered
  rw [frames] at delivered
  cases mine : arrivals.items.filter Arrival.mine with
  | nil =>
    have unfinished : ¬arrivals.Finished := by
      rw [Finished, mine, frames]
      simp
    exact ⟨fun _ => arrivals.roundTrips_none 1 mine unfinished,
      fun finished => absurd finished unfinished⟩
  | cons arrival rest =>
    rw [mine, map_cons, cons_prefix_cons] at delivered
    obtain ⟨same, none⟩ := delivered
    obtain rfl : rest = [] := map_eq_nil_iff.mp (prefix_nil.mp none)
    obtain ⟨before, reply⟩ : ∃ before, arrivals.replies =
        [(Reassembly.receive limits before arrival).2] :=
      Delivery.ownReplies_single mine arrivals.pool
    rw [Reassembly.receive, same] at reply
    constructor
    · rintro ⟨final, plain⟩
      have returned : (before.reassemble limits arrival.time ⟨envelope, message.payload⟩).2 =
          .ok (some ⟨envelope, message.payload⟩) := by
        subst authored
        exact congrArg Prod.snd (if_pos ⟨plain, rfl⟩)
      refine ⟨⟨envelope, message.payload⟩, ?_, ?_, fun _ => ?_⟩
      · subst authored
        exact ⟨rfl, rfl, rfl, rfl, rfl, final, plain⟩
      · rw [reply, returned]
        exact prefix_rfl
      · rw [reply, length_singleton]
    · rintro - ⟨received, restored, expected, -⟩
      rw [reply] at expected
      have returned := (cons_prefix_cons.mp expected).1
      have plain : message.flags.has Flags.fragmented = false := by
        by_contra marked
        have fragment : envelope.flags.has Flags.fragmented = true := by
          rw [authored]
          exact eq_true_of_ne_false marked
        have single : envelope.isFragment = false := by
          rw [authored]
          exact Bool.and_eq_false_iff.mpr (.inl (by
            rw [Bool.and_eq_false_iff]
            exact .inl (Bool.and_eq_false_iff.mpr (.inr rfl))))
        rw [Reassembly.reassemble, if_neg (by simp [fragment]), if_pos single] at returned
        cases returned
      have whole : envelope.flags.has Flags.fragmented = false ∧ envelope.fragmentCount = 1 := by
        rw [authored]
        exact ⟨plain, rfl⟩
      rw [Reassembly.reassemble, if_pos whole] at returned
      obtain rfl : (⟨envelope, message.payload⟩ : Decoded) = received :=
        Option.some.inj (Except.ok.inj returned)
      refine ⟨?_, plain⟩
      have final := restored.2.2.2.2.2.1
      subst authored
      exact final

/-- A message of several frames comes through iff the caller has not marked it as final. -/
theorem roundTrips_long (long : run.size < message.payload.length) :
    (message.flags.has Flags.final = false →
      message.RoundTrips Decoded.content (message.count run.size) arrivals.Finished
        arrivals.replies) ∧
    (arrivals.Finished →
      message.RoundTrips Decoded.content (message.count run.size) arrivals.Finished
        arrivals.replies →
      message.flags.has Flags.final = false) := by
  obtain ⟨divides, length, each⟩ := run.frames_long long
  have several := divides.several
  have delivered := arrivals.delivered
  have fragment : ∀ offset arrival, (arrivals.items.filter Arrival.mine)[offset]? = some arrival →
      Client.Sender.IsFragment (message.envelope run.epoch run.sequence) message.payload
        run.fragmentId run.size (message.count run.size) offset arrival.frame := by
    intro offset arrival found
    refine each offset arrival.frame (getElem?_of_starts delivered ?_)
    rw [List.getElem?_map, found, Option.map_some]
  have finished : arrivals.Finished → arrivals.replies.length = message.count run.size := by
    intro finished
    rw [length_replies, finished, length]
  cases first : (arrivals.items.filter Arrival.mine).head? with
  | none =>
    rw [List.head?_eq_none_iff] at first
    have unfinished : ¬arrivals.Finished := by
      rw [Finished, first, length_nil]
      omega
    exact ⟨fun _ => arrivals.roundTrips_none _ first unfinished,
      fun finished => absurd finished unfinished⟩
  | some arrival =>
    have found := first
    rw [List.head?_eq_getElem?] at found
    constructor
    · intro plain
      have part := fun offset item found =>
        run.isPart_of_isFragment plain (fragment offset item found)
      have opening := part 0 arrival found
      refine ⟨⟨arrival.frame.envelope.assembled, message.payload⟩,
        (LogicalMessage.isRestored_assembled opening).2, ?_, finished⟩
      have gathers := Reassembly.gathers slots divides opening arrivals.fits
      refine gathers.ownReplies ⟨trivial, ⟨?_, ?_, ?_⟩, fun _ => ?_, by simp⟩
      · intro offset item present
        rw [Nat.zero_add]
        refine ⟨part offset item present, ?_⟩
        rintro rfl
        cases Option.some.inj (found.symm.trans present)
        rfl
      · have small := delivered.length_le
        rw [length_map, length] at small
        rw [LogicalMessage.length_expected ReassemblyFailure (Nat.lt_of_succ_lt several),
          Nat.zero_add]
        exact small
      · exact arrivals.foreign long
      · exact ⟨arrivals.room long, arrivals.inTime long⟩
    · rintro - ⟨received, -, expected, -⟩
      by_contra marked
      obtain ⟨fragmented, refused⟩ := run.isFragment_eq_false divides (eq_true_of_ne_false marked)
        (fragment 0 arrival found)
      obtain ⟨before, reply⟩ : ∃ before, arrivals.replies.head? =
          some (Reassembly.receive limits before arrival).2 :=
        Delivery.head?_ownReplies first arrivals.pool
      rw [head?_eq_getElem?] at reply
      have returned := getElem?_of_starts expected reply
      rw [LogicalMessage.getElem?_expected (Nat.lt_of_succ_lt several),
        if_neg several.ne, Reassembly.receive, Reassembly.reassemble,
        if_neg (by simp [fragmented]), if_pos refused] at returned
      cases Option.some.inj returned

end FirmwareArrivals

/-! ### Both ways -/

/-- From the firmware a message comes through iff it has several frames or is not marked as a
fragment. From the client it comes through iff it has one frame, marked as final and not as a
fragment, or several and is not marked as final. -/
theorem fragmentation_round_trip (message : LogicalMessage) :
    (∀ (limits : ServiceLimits) (run : FirmwareRun limits message) (arrivals : ClientArrivals run),
      let through := limits.maxFramePayload < message.payload.length ∨
        message.flags.has Flags.fragmented = false
      let returns := message.RoundTrips Client.Message.content
        (message.frames limits.maxFramePayload) run.Finished arrivals.replies
      (through → returns) ∧ (run.Finished → returns → through)) ∧
    ∀ (run : ClientRun message) (limits : ReassemblyLimits) (slots : Nat)
      (arrivals : FirmwareArrivals run limits slots),
      let through := if message.payload.length ≤ run.size then
          message.flags.has Flags.final = true ∧ message.flags.has Flags.fragmented = false
        else message.flags.has Flags.final = false
      let returns := message.RoundTrips Decoded.content (message.frames run.size)
        arrivals.Finished arrivals.replies
      (through → returns) ∧ (arrivals.Finished → returns → through) := by
  constructor
  · intro limits run arrivals
    by_cases short : message.payload.length ≤ limits.maxFramePayload
    · have both := arrivals.roundTrips_short short
      simp only [LogicalMessage.frames, if_pos short, Nat.not_lt.mpr short, false_or]
      exact both
    · have returns := arrivals.roundTrips_long (Nat.lt_of_not_le short)
      simp only [LogicalMessage.frames, if_neg short, Nat.lt_of_not_le short, true_or]
      exact ⟨fun _ => returns, fun _ _ => trivial⟩
  · intro run limits slots arrivals
    by_cases short : message.payload.length ≤ run.size
    · have both := arrivals.roundTrips_short short
      simp only [LogicalMessage.frames, if_pos short]
      exact both
    · have both := arrivals.roundTrips_long (Nat.lt_of_not_le short)
      simp only [LogicalMessage.frames, if_neg short]
      exact both

/-- A sample of five bytes, for frames with room for four. -/
def sample : LogicalMessage where
  kind := .data
  payload := [1, 2, 3, 4, 5]

def sampleRun : ClientRun sample where
  sender := { maximumFrameSize := 40 }
  epoch := 1
  sequence := 1
  next := {
    maximumFrameSize := 40
    frameSequence := 1
    fragmentId := 1
    outgoing := [ ⟨{ sample.envelope 1 1 with
        flags := Flags.fragmented
        payloadSize := 4
        fragmentId := 1
        fragmentCount := 2 }, [1, 2, 3, 4]⟩,
      ⟨{ sample.envelope 1 1 with
        flags := Flags.fragmented ||| Flags.final
        payloadSize := 1
        fragmentId := 1
        fragmentIndex := 1
        fragmentCount := 2 }, [5]⟩] }
  queued := rfl

def sampleArrivals : FirmwareArrivals sampleRun ⟨8, 10, by decide⟩ 1 where
  pool := Reassembly.empty 1
  items := sampleRun.frames.map fun frame => ⟨true, 0, frame⟩
  delivered := List.prefix_rfl
  foreign := by
    rintro - arrival member other
    obtain ⟨frame, -, rfl⟩ := List.mem_map.mp member
    exact nomatch other
  fits := by decide
  room _ := ⟨{}, List.mem_singleton_self _, .inr rfl⟩
  inTime := by
    intro _
    refine ⟨fun _ => nofun, ?_, trivial⟩
    rintro - limit ⟨⟩
    decide

/-- A page that is too long for one frame of the smallest size. -/
def page : LogicalMessage where
  kind := .response
  requestId := 1
  payload := List.replicate 30 7

def smallLimits : ServiceLimits where
  maxRequests := 1
  responseCacheBytes := 64
  responseCacheBytes_ge := Nat.le_add_right 64 0
  maxMessageBytes := 64
  maxMessageBytes_ge := Nat.le_add_right 64 0
  maxFrameBytes := 64
  maxFrameBytes_ge := Nat.le_add_right 64 0
  laneDepth := 1
  laneDepth_pos := Nat.one_pos
  outboundMessageSlots := 1

def pageRun : FirmwareRun smallLimits page where
  link := { connected := true }
  events := [.start true, .complete ⟨4, 1⟩, .start true]
  accepted := rfl
  unused _ := by
    refine ⟨fun _ => nofun, fun index held stored active => ?_⟩
    rw [Pool.eq_of_get?_fill stored] at active
    exact nomatch active
  undisturbed := by
    have calm : ∀ (link : LinkState smallLimits) event, (link.send event).1.output.nextFragmentId =
        link.output.nextFragmentId → (∀ message, event ≠ .transmit message) →
        ¬link.Disturbs event (.fragments 1) := by
      rintro link event kept other (⟨given, before⟩ | ⟨message, _, _, same, -⟩)
      · exact before (kept ▸ given)
      · exact other message same
    exact ⟨calm _ _ rfl nofun, calm _ _ rfl nofun, calm _ _ rfl nofun, trivial⟩

def pageArrivals : ClientArrivals pageRun where
  reassembler := {
    maximumMessageSize := 64
    maximumSlots := 1
    timeout := 10
    bounded := by decide }
  items := pageRun.result.2.2.map fun sent => ⟨true, fun _ => 0, sent.2.decoded⟩
  delivered := rfl
  fits := by decide
  room _ := ⟨rfl, by decide⟩
  inTime := by
    intro _
    refine ⟨fun _ => nofun, ?_, trivial⟩
    rintro - limit ⟨⟩
    decide

/-- The page comes through to the client, and the sample to the firmware, in two fragments each. -/
theorem fragmentation_round_trip_samples :
    page.RoundTrips Client.Message.content 2 pageRun.Finished pageArrivals.replies ∧
      sample.RoundTrips Decoded.content 2 sampleArrivals.Finished sampleArrivals.replies := by
  constructor
  · exact ((fragmentation_round_trip page).1 smallLimits pageRun pageArrivals).1 (.inl (by decide))
  · exact ((fragmentation_round_trip sample).2 sampleRun ⟨8, 10, by decide⟩ 1 sampleArrivals).1 rfl

/-- A request without arguments, which is one frame. -/
def shortRequest : LogicalMessage where
  kind := .request
  requestId := 1
  target := 3

def shortRun : ClientRun shortRequest where
  sender := {}
  epoch := 1
  sequence := 1
  next := { outgoing := [⟨shortRequest.envelope 1 1, []⟩] }
  queued := rfl

def shortArrivals : FirmwareArrivals shortRun ⟨8, 10, by decide⟩ 1 where
  pool := Reassembly.empty 1
  items := shortRun.frames.map fun frame => ⟨true, 0, frame⟩
  delivered := List.prefix_rfl
  foreign := by
    rintro - arrival member other
    obtain ⟨frame, -, rfl⟩ := List.mem_map.mp member
    exact nomatch other
  fits := by decide
  room _ := ⟨{}, List.mem_singleton_self _, .inr rfl⟩
  inTime _ := ⟨fun _ => nofun, trivial⟩

/-- The firmware gets the request of one frame without the final mark. -/
theorem fragmentation_drops_final :
    shortArrivals.replies = [.ok (some ⟨shortRequest.envelope 1 1, []⟩)] ∧
      (shortRequest.envelope 1 1).flags.has Flags.final = false ∧ shortArrivals.Finished ∧
      ¬shortRequest.RoundTrips Decoded.content 1 shortArrivals.Finished shortArrivals.replies := by
  have replied : shortArrivals.replies = [.ok (some ⟨shortRequest.envelope 1 1, []⟩)] := rfl
  refine ⟨replied, rfl, rfl, ?_⟩
  rintro ⟨received, restored, expected, -⟩
  obtain rfl : (⟨shortRequest.envelope 1 1, []⟩ : Decoded) = received :=
    Option.some.inj (Except.ok.inj (cons_prefix_cons.mp expected).1)
  exact nomatch restored.2.2.2.2.2.1

end Solar.Remote
