/-
This file models the receive path of a link: chunks of bytes go through the
stream decoder, and each frame it hands on through reassembly. A connection
clears the reassembly slots. It does not reset the decoder.

Two receivers with the same undecoded bytes and the same slots hand on the same
frames from then on, so what a connection does not clear is all that can be
told. After the connection the slots are those of a new link; the undecoded
bytes are, too, exactly if the bytes received before end with a delimiter. If
they do not, the next frame is glued to what was left and lost.
-/

import Solar.Remote.Frame.Stream
import Solar.Remote.Service.Reassembly

namespace Solar.Remote

open List

/-- What reassembly says to a frame. -/
abbrev ReassemblyResult := Except ReassemblyFailure (Option Decoded)

/-- The receive state of a link. -/
structure Receiver (maxFrame slots : Nat) where
  decoder : StreamDecoder (maxFrame + 32) maxFrame := {}
  reassembly : Reassembly slots := Reassembly.empty slots

/-- The events of a link that reach its receive state. The clock is read once for each frame; the
lease of a chunk may have no bytes. -/
inductive ReceiveEvent
  | connected
  | disconnected
  | fault
  | rxReady (clock : Nat → Tick) (bytes : Option Bytes)
  | expire (now : Tick)

variable {maxFrame slots : Nat}

namespace Receiver

variable (limits : ReassemblyLimits)

/-- What `handle_frame` does to the slots: a complete session reset clears them. -/
def handleFrame (now : Tick) (reassembly : Reassembly slots) (decoded : Decoded) :
    Reassembly slots × ReassemblyResult :=
  let assembled := reassembly.reassemble limits now decoded
  match assembled.2 with
  | .ok (some complete) =>
      if complete.envelope.kind = .sessionReset then (Reassembly.empty slots, assembled.2)
      else assembled
  | _ => assembled

/-- The frames of a chunk are handled one by one. -/
def handleFrames (clock : Nat → Tick) (reassembly : Reassembly slots) :
    List Decoded → Reassembly slots × List (Decoded × ReassemblyResult)
  | [] => (reassembly, [])
  | frame :: rest =>
      let handled := handleFrame limits (clock 0) reassembly frame
      let later := handleFrames (fun index => clock (index + 1)) handled.1 rest
      (later.1, (frame, handled.2) :: later.2)

/-- `process_link_event`, with the frames handed to `handle_frame`. -/
def step (receiver : Receiver maxFrame slots) :
    ReceiveEvent → Receiver maxFrame slots × List (Decoded × ReassemblyResult)
  | .connected | .disconnected | .fault =>
      ({ receiver with reassembly := Reassembly.empty slots }, [])
  | .rxReady _ none => (receiver, [])
  | .rxReady clock (some bytes) =>
      let fed := receiver.decoder.feed bytes
      let handled := handleFrames limits clock receiver.reassembly fed.frames
      (⟨fed.decoder, handled.1⟩, handled.2)
  | .expire now => ({ receiver with reassembly := receiver.reassembly.expire now }, [])

def run (receiver : Receiver maxFrame slots) :
    List ReceiveEvent → Receiver maxFrame slots × List (Decoded × ReassemblyResult)
  | [] => (receiver, [])
  | event :: rest =>
      let stepped := receiver.step limits event
      let later := stepped.1.run rest
      (later.1, stepped.2 ++ later.2)

end Receiver

/-- The bytes of an event. -/
def ReceiveEvent.bytes : ReceiveEvent → Bytes
  | .rxReady _ (some bytes) => bytes
  | _ => []

namespace Receiver

variable {limits : ReassemblyLimits} {receiver other : Receiver maxFrame slots}

/-! ### What is left of a history -/

theorem feed_frames {decoder : StreamDecoder (maxFrame + 32) maxFrame} {input : Bytes} :
    (decoder.feed input).frames = ((decoder.scanner.scan (maxFrame + 32) 0 input).2.map
          (StreamDecoder.outcome maxFrame)).filterMap FeedOutcome.frame? ∧
      (decoder.feed input).decoder.scanner = (decoder.scanner.scan (maxFrame + 32) 0 input).1 := by
  rcases decoder.scan_eq input with ⟨state, closed⟩
  exact ⟨congrArg (filterMap FeedOutcome.frame?) closed, state⟩

/-- Receivers that differ in the counters of their decoders only hand on the same frames. -/
theorem run_congr (scanner : receiver.decoder.scanner = other.decoder.scanner)
    (reassembly : receiver.reassembly = other.reassembly) (events : List ReceiveEvent) :
    (receiver.run limits events).2 = (other.run limits events).2 := by
  induction events generalizing receiver other with
  | nil => rfl
  | cons event rest ih =>
    rw [run]
    cases event with
    | connected | disconnected | fault => exact ih scanner rfl
    | expire now => exact ih scanner (congrArg (Reassembly.expire now) reassembly)
    | rxReady clock bytes =>
      cases bytes with
      | none => exact ih scanner reassembly
      | some bytes =>
        have frames : (receiver.decoder.feed bytes).frames = (other.decoder.feed bytes).frames := by
          rw [feed_frames.1, feed_frames.1, scanner]
        have state : (receiver.decoder.feed bytes).decoder.scanner =
            (other.decoder.feed bytes).decoder.scanner := by
          rw [feed_frames.2, feed_frames.2, scanner]
        have handled : handleFrames limits clock receiver.reassembly
              (receiver.decoder.feed bytes).frames =
            handleFrames limits clock other.reassembly (other.decoder.feed bytes).frames := by
          rw [frames, reassembly]
        dsimp only [step]
        rw [handled]
        exact congrArg (_ ++ ·) (ih state rfl)

section

variable (receiver)

theorem run_append (first second : List ReceiveEvent) :
    (receiver.run limits (first ++ second)).1 =
      ((receiver.run limits first).1.run limits second).1 := by
  induction first generalizing receiver with
  | nil => rfl
  | cons event rest ih => exact ih _

theorem scanner_run (events : List ReceiveEvent) :
    (receiver.run limits events).1.decoder.scanner =
      (receiver.decoder.scanner.scan (maxFrame + 32) 0 (events.flatMap ReceiveEvent.bytes)).1 := by
  induction events generalizing receiver with
  | nil => rfl
  | cons event rest ih =>
    rw [flatMap_cons, Delimited.Scanner.scan_append]
    cases event with
    | connected | disconnected | fault | expire => exact ih _
    | rxReady clock bytes =>
      cases bytes with
      | none => exact ih _
      | some bytes =>
        refine (ih _).trans ?_
        dsimp only [step, ReceiveEvent.bytes]
        rw [feed_frames.2]

end

/-! ### A frame behind what is left -/

/-- No bytes before the encoding of an empty frame make another encoding of one. -/
theorem decode_behind_ne {header run : Bytes} {frame : Decoded}
    (headed : header.length = envelopeSize) (something : run ≠ []) (empty : frame.payload = [])
    (capacity : Nat) :
    Frame.decode (run ++ Cobs.encode (Frame.content header [])) capacity ≠ .ok frame := by
  intro accepted
  rcases Frame.exists_content_of_decode accepted with ⟨second, payload, secondHeaded, stuffed⟩
  rw [Frame.decode_content secondHeaded stuffed] at accepted
  have nothing : payload = [] := by
    cases read : Frame.decodeEnvelope second with rw [read] at accepted
    | error failure => exact nomatch accepted
    | ok envelope =>
      dsimp only [Except.bind] at accepted
      split at accepted
      · exact nomatch accepted
      · cases accepted
        exact empty
  subst nothing
  have longer := Cobs.length_decodeBlocks_le (Cobs.decode_encode (Frame.content header []))
  have shorter := Cobs.length_le_of_decode (Frame.cobsDecode_eq_ok_iff.mp stuffed).1
  have kept : Frame.withoutDelimiter (run ++ Cobs.encode (Frame.content header [])) =
      run ++ Cobs.encode (Frame.content header []) := by
    rw [Frame.withoutDelimiter, if_neg]
    intro last
    rw [getLast?_append_of_ne_nil _ (Cobs.encode_ne_nil _)] at last
    exact Cobs.zero_not_mem_encode _ (mem_of_getLast? last)
  rw [Frame.length_content [] headed] at longer
  rw [Frame.length_content [] secondHeaded, kept, length_append] at shorter
  have more : 0 < run.length := length_pos_iff.mpr something
  unfold envelopeSize crcSize at longer shorter
  rw [length_nil] at longer shorter
  omega

theorem frames_behind (limits : ReassemblyLimits) (header : Bytes) {run : Bytes}
    (clock : Nat → Tick) (holds : receiver.decoder.scanner.Holds (maxFrame + 32) run) :
    (receiver.run limits [.rxReady clock
        (some (Cobs.encode (Frame.content header []) ++ [0]))]).2.map Prod.fst =
      (StreamDecoder.outcome maxFrame (Delimited.within (maxFrame + 32)
        (run ++ Cobs.encode (Frame.content header [])))).frame?.toList := by
  have something : run ++ Cobs.encode (Frame.content header []) ≠ [] :=
    append_ne_nil_of_right_ne_nil _ (Cobs.encode_ne_nil _)
  have closed : Delimited.bodiesFrom 0 run (Cobs.encode (Frame.content header []) ++ [0]) =
      [run ++ Cobs.encode (Frame.content header [])] :=
    Delimited.bodiesFrom_append_mark run [] (Cobs.zero_not_mem_encode _) something
  rw [Receiver.run, Receiver.run]
  dsimp only [step]
  rw [feed_frames.1, holds.scan_snd, closed]
  rw [map_singleton, map_singleton, filterMap_cons]
  cases (StreamDecoder.outcome maxFrame (Delimited.within (maxFrame + 32)
    (run ++ Cobs.encode (Frame.content header [])))).frame? with
  | none => rfl
  | some frame => rfl

/-- A new link hands on an empty frame. -/
theorem outcome_empty_frame {envelope : Envelope} {header : Bytes}
    (sized : envelopeSize + crcSize ≤ maxFrame)
    (written : Frame.encodeEnvelope envelope = .ok header)
    (empty : envelope.payloadSize = 0) :
    (StreamDecoder.outcome maxFrame (Delimited.within (maxFrame + 32)
      ([] ++ Cobs.encode (Frame.content header [])))).frame? = some ⟨envelope, []⟩ := by
  have nothing : envelope.payloadSize.toNat = ([] : Bytes).length := congrArg UInt16.toNat empty
  have decoded : (Frame.decode (Cobs.encode (Frame.content header [])) maxFrame).toOption =
      some ⟨envelope, []⟩ :=
    (Frame.toOption_decode_of_content written nothing maxFrame).trans (if_pos sized)
  have bound := Cobs.length_encode_le (Frame.content header [])
  rw [Frame.length_content [] (Frame.length_of_encodeEnvelope written)] at bound
  rw [nil_append, Delimited.within, if_neg, StreamDecoder.outcome]
  · cases result : Frame.decode (Cobs.encode (Frame.content header [])) maxFrame with
    | error failure =>
      rw [result] at decoded
      cases decoded
    | ok frame =>
      rw [result] at decoded
      exact decoded
  · unfold envelopeSize crcSize at sized bound
    rw [length_nil] at bound
    omega

theorem scanner_connected (maxFrame slots : Nat) (limits : ReassemblyLimits)
    (history : List ReceiveEvent) :
    (({} : Receiver maxFrame slots).run limits (history ++ [.connected])).1.decoder.scanner =
      (({} : Delimited.Scanner UInt8).scan (maxFrame + 32) 0
        (history.flatMap ReceiveEvent.bytes)).1 := by
  rw [scanner_run, flatMap_append]
  exact congrArg (fun bytes => (Delimited.Scanner.scan (maxFrame + 32) 0 {} bytes).1) (append_nil _)

/-- A receiver with undecoded bytes loses the next frame. -/
theorem frames_lost (limits : ReassemblyLimits)
    (sized : envelopeSize + crcSize ≤ maxFrame) {run : Bytes}
    (holds : receiver.decoder.scanner.Holds (maxFrame + 32) run) (something : run ≠ []) :
    ∃ events, (receiver.run limits events).2 ≠
      ((({} : Receiver maxFrame slots).run limits [.connected]).1.run limits events).2 := by
  rcases Frame.encodeEnvelope_of_isValid (show Frame.Envelope.isValid { kind := .ping } = true by
    decide) with ⟨header, written⟩
  refine ⟨[.rxReady (fun _ => 0) (some (Cobs.encode (Frame.content header []) ++ [0]))], ?_⟩
  intro same
  have behind := frames_behind limits header (fun _ => 0) holds
  rw [same, frames_behind limits header (fun _ => 0) (Delimited.Scanner.holds_nil _),
    outcome_empty_frame sized written rfl] at behind
  have accepted := Option.toList_eq_singleton_iff.mp behind.symm
  rw [Delimited.within] at accepted
  split at accepted
  · cases accepted
  · rw [StreamDecoder.outcome] at accepted
    cases decoded : Frame.decode (run ++ Cobs.encode (Frame.content header [])) maxFrame with
    | error failure =>
      rw [decoded] at accepted
      cases accepted
    | ok frame =>
      rw [decoded] at accepted
      cases accepted
      exact decode_behind_ne (Frame.length_of_encodeEnvelope written) something rfl maxFrame decoded

/-- After a connection the receiver hands on the frames of a new link, whatever arrives, exactly if
the bytes received before the connection end with a delimiter. -/
theorem receive_isolated (slots : Nat) (limits : ReassemblyLimits)
    (sized : envelopeSize + crcSize ≤ maxFrame) (history : List ReceiveEvent) :
    (∀ events : List ReceiveEvent,
      ((({} : Receiver maxFrame slots).run limits (history ++ [.connected])).1.run limits events).2 =
        ((({} : Receiver maxFrame slots).run limits [.connected]).1.run limits events).2) ↔
      history.flatMap ReceiveEvent.bytes = [] ∨
        (history.flatMap ReceiveEvent.bytes).getLast? = some 0 := by
  have left := scanner_connected maxFrame slots limits history
  rw [← Delimited.Scanner.scan_eq_empty_iff (maxFrame + 32) 0, ← left]
  constructor
  · intro same
    rcases Delimited.Scanner.exists_holds (maxFrame + 32) 0 (history.flatMap ReceiveEvent.bytes) with
      ⟨run, holds⟩
    rw [← left] at holds
    rw [holds.eq_empty_iff]
    by_contra something
    rcases frames_lost limits sized holds something with ⟨events, differ⟩
    exact differ (same events)
  · intro idle
    refine run_congr idle ?_
    rw [run_append]
    rfl

/-- A link that received a stray byte and a delimiter before. -/
theorem receive_isolated_delimited :
    envelopeSize + crcSize ≤ 64 ∧ ∀ events : List ReceiveEvent,
      ((({} : Receiver 64 2).run ⟨64, 10, by decide⟩
          ([.rxReady (fun _ => 0) (some [5, 0])] ++ [.connected])).1.run
            ⟨64, 10, by decide⟩ events).2 =
        ((({} : Receiver 64 2).run ⟨64, 10, by decide⟩ [.connected]).1.run
          ⟨64, 10, by decide⟩ events).2 := by
  have sized : envelopeSize + crcSize ≤ 64 := by decide
  exact ⟨sized, (receive_isolated 2 ⟨64, 10, by decide⟩ sized
    [.rxReady (fun _ => 0) (some [5, 0])]).mpr (.inr rfl)⟩

/-- A single byte from before the connection costs the first frame after it. -/
theorem receive_not_isolated :
    ∃ events : List ReceiveEvent, ((({} : Receiver 64 2).run ⟨64, 10, by decide⟩
          ([.rxReady (fun _ => 0) (some [5])] ++ [.connected])).1.run
            ⟨64, 10, by decide⟩ events).2 ≠
        ((({} : Receiver 64 2).run ⟨64, 10, by decide⟩ [.connected]).1.run
          ⟨64, 10, by decide⟩ events).2 := by
  have holds : (({} : Receiver 64 2).run ⟨64, 10, by decide⟩
      ([.rxReady (fun _ => 0) (some [5])] ++ [.connected])).1.decoder.scanner.Holds (64 + 32) [5] :=
    .inl ⟨by decide, rfl⟩
  exact frames_lost ⟨64, 10, by decide⟩ (by decide) holds (cons_ne_nil _ _)

end Receiver

end Solar.Remote
