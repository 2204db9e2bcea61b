/-
This file proves when nothing that follows an accepting response is missed. The
task that awaits the response registers the subscription or the inbound stream it
has opened, and the read loop may have handled more messages by then.

A ledger beside the session notes what the loop has handled since the response:
the items of data messages of a subscription, and the closure of a stream. As long
as the loop handles neither before the registration, a subscription has queued,
handed out or counted as lost every item, and a stream that the firmware has closed
is closed with its reason, so that no producer waits on it.
-/

import Solar.Library.Registry
import Solar.Remote.Session.Correlation

namespace Solar.Remote.Session

open List Option Function

open Client (Message decodeInStreamClosed)

/-! ### What a call has opened -/

section

variable (call : Call)

/-- The answer of a call that has not failed. -/
def Call.answer : Option Message :=
  match call.stage, call.future with
  | .sending, .result message => some message
  | .awaiting, .result message => some message
  | .acknowledging message, _ => some message
  | .returned message, _ => some message
  | _, _ => none

/-- The response that accepts what the call asks for. -/
def Call.accepted : Option Message :=
  call.answer.filter fun message => message.envelope.kind = Kind.response.code

theorem Call.accepted_of_returned {call : Call} {message : Message}
    (returned : call.stage = .returned message)
    (response : message.envelope.kind = Kind.response.code) : call.accepted = some message := by
  unfold Call.accepted Call.answer
  rw [returned]
  exact filter_eq_some_iff.mpr ⟨rfl, decide_eq_true response⟩

/-- The call has subscribed to a target and kind. -/
def Call.subscribes (key : UInt32 × UInt8) : Bool :=
  match call.purpose with
  | .subscribe target kind _ _ _ => call.accepted.isSome ∧ (target, kind) = key
  | _ => false

/-- The call has opened a stream of a target under a token. -/
def Call.opens (key : UInt32 × UInt32) : Bool :=
  match call.purpose with
  | .openStream target =>
      target = key.1 ∧
        (call.accepted.bind fun message => decodeInStreamOpenResponse message.payload) = some key.2
  | _ => false

/-- The items of a data message, for a call. -/
def Call.items (payload : Bytes) : List Bytes :=
  match call.purpose with
  | .subscribe _ _ _ _ batched => (Host.items batched payload).toOption.getD []
  | _ => []

end

namespace AsyncSession

variable {Value : Type} (session : AsyncSession Value)

/-- A subscription follows the data of its key from its response until it is closed. -/
def follows (key : UInt32 × UInt8) (number : Nat) : Bool :=
  (session.calls number).subscribes key ∧
    (session.subscriptionOf number).all fun subscription => !subscription.closed

/-- A stream has its token from its response until it is closed. -/
def holdsToken (key : UInt32 × UInt32) (number : Nat) : Bool :=
  (session.calls number).opens key ∧ (session.streamOf number).all fun stream => !stream.closed

section

variable (decode : Nat → Bytes → Option Value)

/-- The subscription of a number takes all items of a payload. -/
def Delivers (number : Nat) (payload : Bytes) : Prop :=
  ∃ subscription, session.subscriptionOf number = some subscription ∧
    (subscription.deliver decode payload).2 = true

/-- What follows a response is handled once the task that awaits it has registered: a data message
finds every subscription that follows it, and a closure every stream that has its token. -/
def Registers (message : Message) : Prop :=
  (message.envelope.kind = Kind.data.code →
    ∀ number, session.follows (dataKey message) number = true →
      session.subscriptions (dataKey message) = some number ∧
        session.Delivers decode number message.payload) ∧
  (message.envelope.kind = Kind.inStreamClosed.code →
    ∀ token reason, decodeInStreamClosed message.payload = .ok ⟨token, reason⟩ →
      ∀ number, session.holdsToken (message.envelope.target, token) number = true →
        session.inStreams (message.envelope.target, token) = some number)

/-- The steps at which nothing is missed. -/
def RegistersInTime : Label → Prop
  | .handle =>
      match session.reader with
      | .handling (message :: _) => session.Registers decode message
      | _ => True
  | _ => True

end

end AsyncSession

/-! ### The ledger -/

/-- What the read loop has handled since the response of each call, and the values handed out. -/
structure Ledger where
  arrived : Nat → List Bytes := fun _ => []
  taken : Nat → Nat := fun _ => 0
  closure : Nat → Option InStreamCloseReason := fun _ => none

namespace Ledger

variable {Value : Type} (ledger : Ledger)

/-- A data message adds its items, and a closure its reason. -/
def observe (session : AsyncSession Value) (message : Message) : Ledger :=
  if message.envelope.kind = Kind.data.code then
    { ledger with
      arrived := fun number =>
        if session.follows (dataKey message) number = true then
          ledger.arrived number ++ (session.calls number).items message.payload
        else ledger.arrived number }
  else if message.envelope.kind = Kind.inStreamClosed.code then
    match decodeInStreamClosed message.payload with
    | .error _ => ledger
    | .ok ⟨token, reason⟩ =>
        { ledger with
          closure := fun number =>
            if session.holdsToken (message.envelope.target, token) number = true then some reason
            else ledger.closure number }
  else ledger

/-- The ledger after a step. -/
def record (session : AsyncSession Value) : Label → Ledger
  | .handle =>
      match session.reader with
      | .handling (message :: _) => ledger.observe session message
      | _ => ledger
  | .take number =>
      { ledger with taken := update ledger.taken number (ledger.taken number + 1) }
  | _ => ledger

end Ledger

/-- A session with its ledger. -/
structure Observed (Value : Type) where
  session : AsyncSession Value := {}
  ledger : Ledger := {}

/-- The machine of a session that is observed. -/
def observedMachine {Value : Type} (decode : Nat → Bytes → Option Value) :
    Transition.Machine (Observed Value) Label where
  step := fun state label => (state.session.step decode label).map fun next =>
    { session := next, ledger := state.ledger.record state.session label }

/-! ### Deliveries -/

section

variable {Value : Type} {decode : Nat → Bytes → Option Value}

/-- A subscription has handed out, counted as lost or queued all that has arrived, in order. -/
structure Accounted (decode : Nat → Bytes → Option Value) (subscription : Subscription Value)
    (arrived : List Bytes) (taken : Nat) : Prop where
  length : subscription.lossCount + taken + subscription.queue.length = arrived.length
  queue : (arrived.drop (subscription.lossCount + taken)).map (decode subscription.schema) =
    subscription.queue.map some

/-- The fields of a subscription that stay as it is. -/
structure Subscription.Alike (first second : Subscription Value) : Prop where
  target : first.target = second.target
  kind : first.kind = second.kind
  schema : first.schema = second.schema
  batched : first.batched = second.batched
  closed : first.closed = second.closed

theorem Subscription.makeRoom_alike (subscription : Subscription Value) :
    subscription.makeRoom.Alike subscription := by
  unfold Subscription.makeRoom
  split <;> exact ⟨rfl, rfl, rfl, rfl, rfl⟩

theorem Subscription.makeRoom_queue (subscription : Subscription Value) :
    ∃ lost, subscription.makeRoom.lossCount = subscription.lossCount + lost ∧
      subscription.makeRoom.queue = subscription.queue.drop lost ∧
      lost ≤ subscription.queue.length := by
  unfold Subscription.makeRoom
  split
  · rename_i full
    refine ⟨1, rfl, drop_one.symm, ?_⟩
    simp only [Subscription.full, decide_eq_true_eq] at full
    omega
  · exact ⟨0, rfl, rfl, Nat.zero_le _⟩

variable {subscription : Subscription Value}

/-- Items that are all delivered go to the end of the queue, and what has no room is counted. -/
theorem Subscription.deliverItems_queue {items : List Bytes}
    (delivered : (subscription.deliverItems decode items).2 = true) :
    (subscription.deliverItems decode items).1.Alike subscription ∧
      ∃ values lost, items.map (decode subscription.schema) = values.map some ∧
        (subscription.deliverItems decode items).1.lossCount = subscription.lossCount + lost ∧
        (subscription.deliverItems decode items).1.queue =
          (subscription.queue ++ values).drop lost ∧
        lost ≤ (subscription.queue ++ values).length := by
  induction items generalizing subscription with
  | nil =>
    refine ⟨⟨rfl, rfl, rfl, rfl, rfl⟩, [], 0, rfl, rfl, ?_, Nat.zero_le _⟩
    rw [append_nil]
    rfl
  | cons item rest ih =>
    unfold Subscription.deliverItems at delivered ⊢
    cases decoded : decode subscription.schema item with rw [decoded] at delivered
    | none => cases delivered
    | some value =>
      obtain ⟨alike, values, lost, decodes, counted, queued, bounded⟩ :=
        ih delivered
      have room := subscription.makeRoom_alike
      obtain ⟨dropped, lossCount, queue, within⟩ := subscription.makeRoom_queue
      have shifted : (subscription.makeRoom.queue ++ [value]) ++ values =
          (subscription.queue ++ value :: values).drop dropped := by
        rw [queue, append_assoc, singleton_append, drop_append_of_le_length within]
      rw [shifted] at queued bounded
      refine ⟨⟨alike.target.trans room.target, alike.kind.trans room.kind,
        alike.schema.trans room.schema, alike.batched.trans room.batched,
        alike.closed.trans room.closed⟩, value :: values, dropped + lost, ?_, ?_, ?_, ?_⟩
      · rw [map_cons, decoded, map_cons, ← decodes]
        dsimp only
        rw [room.schema]
      · rw [counted]
        rw [lossCount, Nat.add_assoc]
      · rw [queued, drop_drop]
      · rw [length_drop] at bounded
        rw [length_append, length_cons] at bounded ⊢
        omega

theorem Accounted.deliver {arrived items : List Bytes} {taken : Nat} {payload : Bytes}
    (accounted : Accounted decode subscription arrived taken)
    (entries : Host.items subscription.batched payload = .ok items)
    (delivered : (subscription.deliver decode payload).2 = true) :
    (subscription.deliver decode payload).1.Alike subscription ∧
      Accounted decode (subscription.deliver decode payload).1 (arrived ++ items) taken := by
  unfold Subscription.deliver at delivered ⊢
  rw [entries] at delivered ⊢
  obtain ⟨alike, values, lost, decodes, counted, queued, bounded⟩ :=
    Subscription.deliverItems_queue delivered
  have lengths : items.length = values.length := by
    simpa only [length_map] using congrArg List.length decodes
  have before := accounted.length
  refine ⟨alike, ?_, ?_⟩
  · rw [counted, queued, length_drop, length_append, length_append]
    rw [length_append] at bounded
    omega
  · have within : subscription.lossCount + taken ≤ arrived.length := by omega
    rw [counted, alike.schema, queued, Nat.add_right_comm, ← drop_drop,
      drop_append_of_le_length within, map_drop, map_append, accounted.queue,
      decodes, ← map_append, ← map_drop]

theorem Accounted.take {arrived : List Bytes} {taken : Nat}
    (accounted : Accounted decode subscription arrived taken) (queued : subscription.queue ≠ []) :
    Accounted decode { subscription with queue := subscription.queue.tail } arrived
      (taken + 1) := by
  have positive := length_pos_iff.mpr queued
  refine ⟨?_, ?_⟩
  · have before := accounted.length
    dsimp only
    rw [length_tail]
    omega
  · rw [← Nat.add_assoc, ← drop_drop, map_drop, accounted.queue, drop_one, map_tail]

end

/-! ### What a step of a call changes -/

section

variable {Value : Type} {decode : Nat → Bytes → Option Value}
variable {session next : AsyncSession Value} {ledger : Ledger}

/-- A call has not returned. -/
def Call.Busy (call : Call) : Prop := ∀ message, call.stage ≠ .returned message

/-- A step of a call: it moves within the exchange, or the exchange returns. -/
inductive Exchanged (session : AsyncSession Value) : AsyncSession Value → Prop
  | moved (number : Nat) (call : Call) (core : Core) (pending : UInt32 → Option Nat)
      (busy : (session.calls number).Busy) :
      Exchanged session { session.setCall number call with core, pending }
  | finished (number : Nat) (message : Message) (busy : (session.calls number).Busy) :
      Exchanged session (session.finish number message)

variable {call : Call}

theorem Call.busy_of {stage : Stage} (stands : call.stage = stage)
    (other : ∀ message, stage ≠ .returned message) : call.Busy :=
  fun message returned => other message (stands.symm.trans returned)

variable {number : Nat} {stream : InboundStream} {message : Message}

theorem exchanged_flushed {sent : Bool} (stepped : session.flushed number sent = some next) :
    Exchanged session next := by
  simp only [AsyncSession.flushed] at stepped
  cases stage : (session.calls number).stage with rw [stage] at stepped
  | sending | withdrawing =>
    cases stepped
    exact .moved number _ session.core session.pending (Call.busy_of stage (by simp))
  | acknowledging message =>
    cases stepped
    cases sent with
    | true => exact .finished number message (Call.busy_of stage (by simp))
    | false => exact .moved number _ session.core session.pending (Call.busy_of stage (by simp))
  | absent | awaiting | returned | raised => cases stepped

theorem exchanged_resume (awaiting : (session.calls number).stage = .awaiting) :
    Exchanged session (session.resume number) := by
  have busy : (session.calls number).Busy := Call.busy_of awaiting nofun
  unfold AsyncSession.resume
  split
  · split
    · exact .moved number _ session.core session.pending busy
    · split
      · exact .moved number _ session.core session.pending busy
      · exact .finished number _ busy
  · exact .moved number _ session.core _ busy

theorem exchanged_expire (awaiting : (session.calls number).stage = .awaiting) :
    Exchanged session (session.expire number) := by
  have busy : (session.calls number).Busy := Call.busy_of awaiting nofun
  unfold AsyncSession.expire
  split <;> exact .moved number _ session.core session.pending busy

/-- The labels of the calls. -/
def Label.exchanges : Label → Bool
  | .start _ _ | .flushed _ _ | .expire _ | .resume _ => true
  | _ => false

/-- One case for each step of an exchange. -/
theorem exchanged_step {label : Label} (exchanges : label.exchanges = true)
    (stepped : session.step decode label = some next) : Exchanged session next := by
  cases label with simp only [AsyncSession.step] at stepped
  | start number purpose =>
    split at stepped
    · cases stepped
    · split at stepped
      · rename_i absent
        cases stepped
        exact .moved number _ _ _ (Call.busy_of absent.1 (by simp))
      · cases stepped
  | flushed number sent =>
    split at stepped
    · cases stepped
    · exact exchanged_flushed stepped
  | expire number =>
    split at stepped
    · cases stepped
    · split at stepped
      · cases stepped
        exact exchanged_expire ‹_›
      · cases stepped
  | resume number =>
    split at stepped
    · cases stepped
    · split at stepped
      · rename_i awaiting
        cases stepped
        exact exchanged_resume awaiting.1
      · cases stepped
  | receive | handle | readerFlushed | disconnect | take | closeSubscription | send | wake | giveUp
  | release | stop => cases exchanges

/-- Calls that have returned stay as they are, but for their futures. -/
def Keeps (session next : AsyncSession Value) : Prop :=
  ∀ number message, (session.calls number).stage = .returned message →
    (next.calls number).stage = .returned message ∧
      (next.calls number).purpose = (session.calls number).purpose

theorem Keeps.of_call (busy : (session.calls number).Busy)
    (calls : next.calls = update session.calls number call) : Keeps session next := by
  intro other message returned
  have different : other ≠ number := by
    rintro rfl
    exact busy message returned
  rw [calls, update_of_ne different]
  exact ⟨returned, rfl⟩

theorem keeps_close (session : AsyncSession Value) (ending : Ending) :
    Keeps session (session.close ending) := by
  intro number message returned
  unfold AsyncSession.close
  dsimp only
  split <;> exact ⟨returned, rfl⟩

theorem keeps_handleAnswer (session : AsyncSession Value) (message : Message) :
    Keeps session (session.handleAnswer message).1 := by
  intro number other returned
  unfold AsyncSession.handleAnswer
  split
  · exact ⟨returned, rfl⟩
  · split
    · exact ⟨returned, rfl⟩
    · rename_i found _
      split
      · exact ⟨returned, rfl⟩
      · dsimp only [AsyncSession.setCall]
        by_cases same : number = found
        · subst same
          rw [update_self]
          exact ⟨returned, rfl⟩
        · rw [update_of_ne same]
          exact ⟨returned, rfl⟩

/-! ### Subscriptions -/

theorem Keeps.of_calls (calls : next.calls = session.calls) : Keeps session next :=
  fun number message returned => by rw [calls]; exact ⟨returned, rfl⟩

/-- The call that has opened a subscription. -/
structure Call.Opened (call : Call) (subscription : Subscription Value) : Prop where
  response : ∃ message, call.stage = .returned message ∧ message.envelope.kind = Kind.response.code
  purpose : ∃ queueDepth, call.purpose =
    .subscribe subscription.target subscription.kind subscription.schema queueDepth
      subscription.batched

/-- Every subscription has accounted for what has arrived for it, and before there is one nothing
has. -/
structure Followed (decode : Nat → Bytes → Option Value) (session : AsyncSession Value)
    (ledger : Ledger) : Prop where
  sound : Registry.Sound (fun subscription => (subscription.target, subscription.kind))
    Subscription.closed session.subscriptionOf session.subscriptions
  each : Registry.Each (fun number subscription => (session.calls number).Opened subscription ∧
      Accounted decode subscription (ledger.arrived number) (ledger.taken number))
    (fun number => ledger.arrived number = [] ∧ ledger.taken number = 0) session.subscriptionOf

theorem Call.Opened.keeps {subscription : Subscription Value}
    (opened : (session.calls number).Opened subscription) (keeps : Keeps session next) :
    (next.calls number).Opened subscription := by
  obtain ⟨message, returned, kind⟩ := opened.response
  obtain ⟨stage, purpose⟩ := keeps number message returned
  exact ⟨⟨message, stage, kind⟩, purpose ▸ opened.purpose⟩

theorem Call.Opened.alike {first second : Subscription Value}
    (opened : call.Opened second) (alike : first.Alike second) : call.Opened first := by
  refine ⟨opened.response, ?_⟩
  rw [alike.target, alike.kind, alike.schema, alike.batched]
  exact opened.purpose

section

variable (followed : Followed decode session ledger)

include followed

theorem Followed.of_same {noted : Ledger} (keeps : Keeps session next)
    (objects : next.subscriptionOf = session.subscriptionOf)
    (entries : next.subscriptions = session.subscriptions)
    (arrived : noted.arrived = ledger.arrived) (taken : noted.taken = ledger.taken) :
    Followed decode next noted := by
  refine ⟨by rw [objects, entries]; exact followed.sound, ?_⟩
  rw [objects, arrived, taken]
  exact followed.each.mono (fun _ _ holds => ⟨holds.1.keeps keeps, holds.2⟩) fun _ none => none

theorem Followed.fresh (busy : (session.calls number).Busy) :
    session.subscriptionOf number = none := by
  cases found : session.subscriptionOf number with
  | none => rfl
  | some subscription =>
    obtain ⟨message, returned, _⟩ := (followed.each.1 number subscription found).1.response
    exact absurd returned (busy message)

/-- A call that has returned with a response registers its subscription. -/
theorem Followed.register (returned : (session.calls number).stage = .returned message)
    (fresh : session.subscriptionOf number = none) :
    Followed decode (session.register number message) ledger := by
  unfold AsyncSession.register
  split
  · exact followed
  · rename_i response
    split
    · exact followed
    · rename_i target kind schema queueDepth batched purpose
      let added : Subscription Value := { target, kind, schema, queueDepth, batched }
      obtain ⟨arrived, taken⟩ := followed.each.2 number fresh
      have opened : (session.calls number).Opened added :=
        ⟨⟨message, returned, Decidable.not_not.mp response⟩, ⟨queueDepth, purpose⟩⟩
      have accounted : Accounted decode added (ledger.arrived number) (ledger.taken number) := by
        rw [arrived, taken]
        exact ⟨rfl, rfl⟩
      exact ⟨followed.sound.add added fresh rfl, followed.each.update
        ⟨opened, accounted⟩ fun _ _ => ⟨fun _ holds => holds, fun none => none⟩⟩
    · split
      · exact followed
      · exact followed.of_same (Keeps.of_calls rfl) rfl rfl rfl rfl

theorem Followed.exchanged (exchanged : Exchanged session next) : Followed decode next ledger := by
  cases exchanged with
  | moved number call core pending busy =>
    exact followed.of_same (Keeps.of_call busy rfl) rfl rfl rfl rfl
  | finished number message busy =>
    have stands : Followed decode (session.setStage number (.returned message)) ledger :=
      followed.of_same (Keeps.of_call busy rfl) rfl rfl rfl rfl
    refine stands.register ?_ (followed.fresh busy)
    dsimp only [AsyncSession.setStage, AsyncSession.setCall]
    rw [update_self]

theorem Followed.follows {key : UInt32 × UInt8} (listed : session.subscriptions key = some number) :
    session.follows key number = true := by
  obtain ⟨subscription, found, keyed, alive⟩ := followed.sound key number listed
  obtain ⟨⟨message, returned, response⟩, ⟨queueDepth, purpose⟩⟩ :=
    (followed.each.1 number subscription found).1
  have accepted : (session.calls number).accepted = some message :=
    Call.accepted_of_returned returned response
  simp [AsyncSession.follows, Call.subscribes, purpose, accepted, found, keyed, alive, all_some]

/-- A data message reaches the subscriptions that follow it. -/
theorem Followed.handleData (data : message.envelope.kind = Kind.data.code)
    (registers : session.Registers decode message) :
    Followed decode (session.handleData decode message).1 (ledger.observe session message) ∧
      (session.handleData decode message).2 = none := by
  have arrivedElsewhere : ∀ other, session.subscriptions (dataKey message) ≠ some other →
      (ledger.observe session message).arrived other = ledger.arrived other := by
    intro other unlisted
    have idle : ¬ session.follows (dataKey message) other = true :=
      fun follows => unlisted (registers.1 data other follows).1
    simp only [Ledger.observe, if_pos data, if_neg idle]
  have taken : (ledger.observe session message).taken = ledger.taken := by
    simp only [Ledger.observe, if_pos data]
  unfold AsyncSession.handleData
  cases listed : session.subscriptions (dataKey message) with
  | none =>
    refine ⟨followed.of_same (Keeps.of_calls rfl) rfl rfl ?_ taken, rfl⟩
    exact funext fun other => arrivedElsewhere other (listed ▸ nofun)
  | some number =>
    have follows := followed.follows listed
    obtain ⟨_, subscription, found, delivered⟩ := registers.1 data number follows
    obtain ⟨opened, before⟩ := followed.each.1 number subscription found
    obtain ⟨queueDepth, purpose⟩ := opened.purpose
    cases entries : Host.items subscription.batched message.payload with
    | error reason => simp only [Subscription.deliver, entries, Bool.false_eq_true] at delivered
    | ok items =>
      have noted : (ledger.observe session message).arrived number =
          ledger.arrived number ++ items := by
        simp [Ledger.observe, if_pos data, if_pos follows, Call.items, purpose, entries,
          Except.toOption]
      obtain ⟨alike, accounted⟩ := before.deliver entries delivered
      simp only [found, delivered, if_true, and_true]
      refine ⟨followed.sound.modify found (by rw [alike.target, alike.kind]) alike.closed,
        followed.each.update ⟨opened.alike alike, ?_⟩ ?_⟩
      · rw [noted, taken]
        exact accounted
      · intro other different
        have unlisted : session.subscriptions (dataKey message) ≠ some other :=
          fun elsewhere => different (some.inj (elsewhere.symm.trans listed))
        rw [arrivedElsewhere other unlisted, taken]
        exact ⟨fun _ holds => holds, fun none => none⟩

theorem Followed.take (stepped : session.take number = some next) :
    Followed decode next (ledger.record session (.take number)) := by
  unfold AsyncSession.take at stepped
  split at stepped
  · rename_i subscription found
    split at stepped
    · cases stepped
    · rename_i queued
      cases stepped
      obtain ⟨opened, accounted⟩ := followed.each.1 number subscription found
      refine ⟨followed.sound.modify found rfl rfl,
        followed.each.update ⟨⟨opened.response, opened.purpose⟩, ?_⟩ ?_⟩
      · dsimp only [Ledger.record]
        rw [update_self]
        exact accounted.take queued
      · intro other different
        dsimp only [Ledger.record]
        rw [update_of_ne different]
        exact ⟨fun _ holds => holds, fun none => none⟩
  · cases stepped

theorem Followed.closeSubscription (stepped : session.closeSubscription number = some next) :
    Followed decode next ledger := by
  unfold AsyncSession.closeSubscription at stepped
  split at stepped
  · rename_i subscription found
    split at stepped
    · cases stepped
    · cases stepped
      obtain ⟨opened, accounted⟩ := followed.each.1 number subscription found
      exact ⟨followed.sound.remove _ found, followed.each.update
        ⟨⟨opened.response, opened.purpose⟩, accounted.length, accounted.queue⟩
        fun _ _ => ⟨fun _ holds => holds, fun none => none⟩⟩
  · cases stepped

theorem Followed.stop : Followed decode session.stop ledger := by
  refine ⟨Registry.sound_empty _, followed.each.map _ ?_ fun _ none => none⟩
  rintro number subscription _ ⟨opened, accounted⟩
  split
  · exact ⟨⟨opened.response, opened.purpose⟩, accounted.length, accounted.queue⟩
  · exact ⟨opened, accounted⟩

end

/-! ### Inbound streams -/

/-- The call that has opened a stream. -/
structure Call.OpenedStream (call : Call) (stream : InboundStream) : Prop where
  response : ∃ message, call.stage = .returned message ∧
    message.envelope.kind = Kind.response.code ∧
    decodeInStreamOpenResponse message.payload = some stream.token
  purpose : call.purpose = .openStream stream.target

/-- A stream whose closure was handled is closed with its reason, and one that is closed has woken
its producer. -/
structure InboundStream.Told (stream : InboundStream) (closure : Option InStreamCloseReason) :
    Prop where
  closed : ∀ reason, closure = some reason →
    stream.closed = true ∧ stream.closureReason = some reason
  woken : stream.closed = true → stream.credit = true

/-- Every stream has been told of its closure, and before there is one none was handled. -/
structure Notified (session : AsyncSession Value) (ledger : Ledger) : Prop where
  sound : Registry.Sound (fun stream => (stream.target, stream.token)) InboundStream.closed
    session.streamOf session.inStreams
  each : Registry.Each (fun number stream => (session.calls number).OpenedStream stream ∧
      stream.Told (ledger.closure number))
    (fun number => ledger.closure number = none) session.streamOf

theorem Call.OpenedStream.keeps (opened : (session.calls number).OpenedStream stream)
    (keeps : Keeps session next) : (next.calls number).OpenedStream stream := by
  obtain ⟨message, returned, response⟩ := opened.response
  obtain ⟨stage, purpose⟩ := keeps number message returned
  exact ⟨⟨message, stage, response⟩, purpose ▸ opened.purpose⟩

section

variable (notified : Notified session ledger)

include notified

theorem Notified.of_same {noted : Ledger} (keeps : Keeps session next)
    (objects : next.streamOf = session.streamOf) (entries : next.inStreams = session.inStreams)
    (closure : noted.closure = ledger.closure) : Notified next noted := by
  refine ⟨by rw [objects, entries]; exact notified.sound, ?_⟩
  rw [objects, closure]
  exact notified.each.mono (fun _ _ holds => ⟨holds.1.keeps keeps, holds.2⟩) fun _ none => none

theorem Notified.fresh (busy : (session.calls number).Busy) : session.streamOf number = none := by
  cases found : session.streamOf number with
  | none => rfl
  | some stream =>
    obtain ⟨message, returned, _⟩ := (notified.each.1 number stream found).1.response
    exact absurd returned (busy message)

theorem Notified.unclosed {key : UInt32 × UInt32} (listed : session.inStreams key = some number) :
    ledger.closure number = none := by
  obtain ⟨stream, found, _, alive⟩ := notified.sound key number listed
  cases closure : ledger.closure number with
  | none => rfl
  | some reason =>
    obtain ⟨closed, _⟩ := (notified.each.1 number stream found).2.closed reason closure
    exact absurd closed (Bool.eq_false_iff.mp alive)

/-- A call that has returned with a response registers its stream. -/
theorem Notified.register (returned : (session.calls number).stage = .returned message)
    (fresh : session.streamOf number = none) :
    Notified (session.register number message) ledger := by
  unfold AsyncSession.register
  split
  · exact notified
  · rename_i response
    split
    · exact notified
    · exact notified.of_same (Keeps.of_calls rfl) rfl rfl rfl
    · rename_i target purpose
      split
      · exact notified
      · rename_i token decoded
        let added : InboundStream :=
          { target, token, credit := (session.core.credits (target, token)).isSome }
        have opened : (session.calls number).OpenedStream added :=
          ⟨⟨message, returned, Decidable.not_not.mp response, decoded⟩, purpose⟩
        have told : added.Told (ledger.closure number) := by
          rw [notified.each.2 number fresh]
          exact ⟨nofun, nofun⟩
        exact ⟨notified.sound.add added fresh rfl, notified.each.update
          ⟨opened, told⟩ fun _ _ => ⟨fun _ holds => holds, fun none => none⟩⟩

theorem Notified.exchanged (exchanged : Exchanged session next) : Notified next ledger := by
  cases exchanged with
  | moved number call core pending busy =>
    exact notified.of_same (Keeps.of_call busy rfl) rfl rfl rfl
  | finished number message busy =>
    have stands : Notified (session.setStage number (.returned message)) ledger :=
      notified.of_same (Keeps.of_call busy rfl) rfl rfl rfl
    refine stands.register ?_ (notified.fresh busy)
    dsimp only [AsyncSession.setStage, AsyncSession.setCall]
    rw [update_self]

theorem Notified.holdsToken {key : UInt32 × UInt32} (listed : session.inStreams key = some number) :
    session.holdsToken key number = true := by
  obtain ⟨stream, found, keyed, alive⟩ := notified.sound key number listed
  obtain ⟨⟨message, returned, response, decoded⟩, purpose⟩ :=
    (notified.each.1 number stream found).1
  have accepted : (session.calls number).accepted = some message :=
    Call.accepted_of_returned returned response
  simp [AsyncSession.holdsToken, Call.opens, purpose, accepted, found, alive, ← keyed, decoded,
    all_some]

/-- A closure reaches the stream that has its token. -/
theorem Notified.handleClosed (other : message.envelope.kind ≠ Kind.data.code)
    (closed : message.envelope.kind = Kind.inStreamClosed.code)
    (registers : session.Registers decode message) :
    Notified (session.handleClosed message).1 (ledger.observe session message) := by
  unfold AsyncSession.handleClosed
  cases decoded : decodeInStreamClosed message.payload with
  | error =>
    refine notified.of_same (Keeps.of_calls rfl) rfl rfl ?_
    simp only [Ledger.observe, if_neg other, if_pos closed, decoded]
  | ok notice =>
    obtain ⟨token, reason⟩ := notice
    have closureElsewhere : ∀ elsewhere,
        session.inStreams (message.envelope.target, token) ≠ some elsewhere →
        (ledger.observe session message).closure elsewhere = ledger.closure elsewhere := by
      intro elsewhere unlisted
      have idle : ¬ session.holdsToken (message.envelope.target, token) elsewhere = true :=
        fun holds => unlisted (registers.2 closed token reason decoded elsewhere holds)
      simp only [Ledger.observe, if_neg other, if_pos closed, decoded, if_neg idle]
    dsimp only
    cases listed : session.inStreams (message.envelope.target, token) with
    | none =>
      refine notified.of_same (Keeps.of_calls rfl) rfl rfl ?_
      exact funext fun elsewhere => closureElsewhere elsewhere (listed ▸ nofun)
    | some number =>
      obtain ⟨stream, found, keyed, alive⟩ := notified.sound _ number listed
      have opened := (notified.each.1 number stream found).1
      have noted : (ledger.observe session message).closure number = some reason := by
        simp only [Ledger.observe, if_neg other, if_pos closed, decoded,
          if_pos (notified.holdsToken listed)]
      refine ⟨?_, ?_⟩
      · rw [← keyed]
        exact notified.sound.remove _ found
      · dsimp only
        rw [found]
        refine notified.each.update
          ⟨⟨opened.response, opened.purpose⟩, noted ▸ ⟨?_, fun _ => rfl⟩⟩ ?_
        · exact fun _ same => ⟨rfl, same⟩
        · intro elsewhere different
          have unlisted : session.inStreams (message.envelope.target, token) ≠ some elsewhere :=
            fun there => different (some.inj (there.symm.trans listed))
          rw [closureElsewhere elsewhere unlisted]
          exact ⟨fun _ holds => holds, fun none => none⟩

theorem Notified.tellAll
    (objects : next.streamOf = fun number => (session.streamOf number).map fun stream =>
      if session.inStreams (stream.target, stream.token) = some number then
        stream.notifyClosed .disconnect
      else stream) (entries : next.inStreams = fun _ => none) (keeps : Keeps session next) :
    Notified next ledger := by
  refine ⟨by rw [entries]; exact Registry.sound_empty _, ?_⟩
  rw [objects]
  refine notified.each.map _ ?_ fun _ none => none
  rintro number stream found ⟨opened, told⟩
  split
  · rename_i listed
    rw [notified.unclosed listed]
    have kept := opened.keeps keeps
    exact ⟨⟨kept.response, kept.purpose⟩, nofun, fun _ => rfl⟩
  · exact ⟨opened.keeps keeps, told⟩

theorem Notified.handleCredit (message : Message) :
    Notified (session.handleCredit message) ledger := by
  unfold AsyncSession.handleCredit
  split
  · exact notified
  · rename_i number listed
    obtain ⟨stream, found, _⟩ := notified.sound _ number listed
    obtain ⟨opened, told⟩ := notified.each.1 number stream found
    rw [found]
    exact ⟨notified.sound.modify found rfl rfl, notified.each.update
      ⟨⟨opened.response, opened.purpose⟩, told.closed, fun _ => rfl⟩
      fun _ _ => ⟨fun _ holds => holds, fun none => none⟩⟩

end

theorem InboundStream.Told.pass {closure : Option InStreamCloseReason} (told : stream.Told closure)
    (sessionClosed funded : Bool) :
    (stream.pass sessionClosed funded).Told closure ∧
      (stream.pass sessionClosed funded).target = stream.target ∧
      (stream.pass sessionClosed funded).token = stream.token ∧
      (stream.pass sessionClosed funded).closed = stream.closed := by
  unfold InboundStream.pass
  split
  · exact ⟨⟨told.closed, told.woken⟩, rfl, rfl, rfl⟩
  · rename_i isOpen
    split
    · exact ⟨⟨told.closed, told.woken⟩, rfl, rfl, rfl⟩
    · exact ⟨⟨told.closed, fun closed => absurd (.inl closed) isOpen⟩, rfl, rfl, rfl⟩

section

variable (notified : Notified session ledger) (found : session.streamOf number = some stream)

include notified found

theorem Notified.passSend : Notified (session.passSend number stream) ledger := by
  obtain ⟨opened, told⟩ := notified.each.1 number stream found
  obtain ⟨after, target, token, closed⟩ := told.pass session.closed
    ((session.core.credits (stream.target, stream.token)).any fun grant => grant.credits ≠ 0)
  refine ⟨notified.sound.modify found (by rw [target, token]) closed, notified.each.update
    ⟨⟨?_, ?_⟩, after⟩ fun _ _ => ⟨fun _ holds => holds, fun none => none⟩⟩
  · rw [token]
    exact opened.response
  · rw [target]
    exact opened.purpose

theorem Notified.giveUp (sender : Sender) :
    Notified (session.setStream number { stream with sender }) ledger := by
  obtain ⟨opened, told⟩ := notified.each.1 number stream found
  exact ⟨notified.sound.modify found rfl rfl, notified.each.update
    ⟨⟨opened.response, opened.purpose⟩, told.closed, told.woken⟩
    fun _ _ => ⟨fun _ holds => holds, fun none => none⟩⟩

theorem Notified.release : Notified (session.release number stream) ledger := by
  obtain ⟨opened, told⟩ := notified.each.1 number stream found
  exact ⟨notified.sound.remove _ found, notified.each.update ⟨⟨opened.response, opened.purpose⟩,
      fun reason noted => ⟨rfl, (told.closed reason noted).2⟩, fun _ => rfl⟩
    fun _ _ => ⟨fun _ holds => holds, fun none => none⟩⟩

end

/-! ### Steps -/

/-- Nothing that follows an accepting response has been missed. -/
structure Complete (decode : Nat → Bytes → Option Value) (state : Observed Value) : Prop where
  followed : Followed decode state.session state.ledger
  notified : Notified state.session state.ledger

section

variable (complete : Complete decode ⟨session, ledger⟩)

include complete

theorem Complete.of_same (keeps : Keeps session next)
    (subscriptionOf : next.subscriptionOf = session.subscriptionOf)
    (subscriptions : next.subscriptions = session.subscriptions)
    (streamOf : next.streamOf = session.streamOf) (inStreams : next.inStreams = session.inStreams) :
    Complete decode ⟨next, ledger⟩ :=
  ⟨complete.followed.of_same keeps subscriptionOf subscriptions rfl rfl,
    complete.notified.of_same keeps streamOf inStreams rfl⟩

theorem Complete.close (ending : Ending) : Complete decode ⟨session.close ending, ledger⟩ :=
  ⟨complete.followed.of_same (keeps_close session ending) rfl rfl rfl rfl,
    complete.notified.tellAll rfl rfl (keeps_close session ending)⟩

/-- A message that is handed out in time misses nobody. -/
theorem Complete.dispatch (registers : session.Registers decode message) :
    Complete decode ⟨(session.dispatch decode message).1, ledger.observe session message⟩ := by
  unfold AsyncSession.dispatch
  split
  · rename_i data
    refine ⟨(complete.followed.handleData data registers).1, ?_⟩
    have closure : (ledger.observe session message).closure = ledger.closure := by
      simp only [Ledger.observe, if_pos data]
    unfold AsyncSession.handleData
    split
    · exact complete.notified.of_same (Keeps.of_calls rfl) rfl rfl closure
    · split <;> exact complete.notified.of_same (Keeps.of_calls rfl) rfl rfl closure
  · rename_i data
    split
    · rename_i credit
      have closed : message.envelope.kind ≠ Kind.inStreamClosed.code := by
        rw [credit]
        decide
      rw [show ledger.observe session message = ledger by
        simp only [Ledger.observe, if_neg data, if_neg closed]]
      refine ⟨?_, complete.notified.handleCredit message⟩
      unfold AsyncSession.handleCredit
      split <;> exact complete.followed.of_same (Keeps.of_calls rfl) rfl rfl rfl rfl
    · split
      · rename_i closed
        refine ⟨?_, complete.notified.handleClosed data closed registers⟩
        have arrived : (ledger.observe session message).arrived = ledger.arrived ∧
            (ledger.observe session message).taken = ledger.taken := by
          simp only [Ledger.observe, if_neg data, if_pos closed]
          split <;> exact ⟨rfl, rfl⟩
        unfold AsyncSession.handleClosed
        split
        · exact complete.followed.of_same (Keeps.of_calls rfl) rfl rfl arrived.1 arrived.2
        · dsimp only
          split <;> exact complete.followed.of_same (Keeps.of_calls rfl) rfl rfl arrived.1 arrived.2
      · rename_i closed
        rw [show ledger.observe session message = ledger by
          simp only [Ledger.observe, if_neg data, if_neg closed]]
        have keeps := keeps_handleAnswer session message
        unfold AsyncSession.handleAnswer at keeps ⊢
        split
        · exact complete
        · rename_i nonzero
          rw [if_neg nonzero] at keeps
          split
          · exact complete
          · rename_i number listed
            rw [listed] at keeps
            dsimp only at keeps ⊢
            split
            · exact complete.of_same (Keeps.of_calls rfl) rfl rfl rfl rfl
            · rename_i waits
              rw [if_neg waits] at keeps
              exact complete.of_same keeps rfl rfl rfl rfl

/-- Every step in time keeps the subscriptions and streams complete. -/
theorem Complete.step {label : Label} (inTime : session.RegistersInTime decode label)
    (stepped : session.step decode label = some next) :
    Complete decode ⟨next, ledger.record session label⟩ := by
  have exchanges (exchanges : label.exchanges = true) := exchanged_step exchanges stepped
  cases label with simp only [AsyncSession.step] at stepped
  | start | flushed | expire | resume =>
    have exchanged : Exchanged session next := exchanges rfl
    exact ⟨complete.followed.exchanged exchanged, complete.notified.exchanged exchanged⟩
  | receive messages =>
    split at stepped
    · cases stepped
      unfold AsyncSession.receive
      split
      · exact complete.close _
      · exact complete.of_same (Keeps.of_calls rfl) rfl rfl rfl rfl
    · cases stepped
  | handle =>
    split at stepped
    · rename_i message rest handling
      cases stepped
      have registers : session.Registers decode message := by
        simpa only [AsyncSession.RegistersInTime, handling] using inTime
      have dispatched := complete.dispatch registers
      have noted : ledger.record session .handle = ledger.observe session message := by
        simp only [Ledger.record, handling]
      rw [noted]
      unfold AsyncSession.handle
      split
      · rename_i continued none
        rw [none] at dispatched
        exact dispatched.of_same (Keeps.of_calls rfl) rfl rfl rfl rfl
      · rename_i stopped ending cause
        rw [cause] at dispatched
        exact dispatched.close ending
    · cases stepped
  | readerFlushed =>
    split at stepped
    · cases stepped
      exact complete.of_same (Keeps.of_calls rfl) rfl rfl rfl rfl
    · cases stepped
  | disconnect =>
    split at stepped
    · cases stepped
      exact complete.close _
    · cases stepped
  | take number =>
    split at stepped
    · cases stepped
    · refine ⟨complete.followed.take stepped, ?_⟩
      unfold AsyncSession.take at stepped
      split at stepped
      · split at stepped
        · cases stepped
        · cases stepped
          exact complete.notified.of_same (Keeps.of_calls rfl) rfl rfl rfl
      · cases stepped
  | closeSubscription number =>
    split at stepped
    · cases stepped
    · refine ⟨complete.followed.closeSubscription stepped, ?_⟩
      unfold AsyncSession.closeSubscription at stepped
      split at stepped
      · split at stepped
        · cases stepped
        · cases stepped
          exact complete.notified.of_same (Keeps.of_calls rfl) rfl rfl rfl
      · cases stepped
  | send number | wake number =>
    split at stepped
    · cases stepped
    · obtain ⟨stream, found, acted⟩ := bind_eq_some_iff.mp stepped
      split at acted
      · cases acted
        exact ⟨complete.followed.of_same (Keeps.of_calls rfl) rfl rfl rfl rfl,
          complete.notified.passSend found⟩
      · cases acted
  | giveUp number =>
    split at stepped
    · cases stepped
    · obtain ⟨stream, found, acted⟩ := bind_eq_some_iff.mp stepped
      split at acted
      · cases acted
        exact ⟨complete.followed.of_same (Keeps.of_calls rfl) rfl rfl rfl rfl,
          complete.notified.giveUp found _⟩
      · cases acted
  | release number =>
    split at stepped
    · cases stepped
    · obtain ⟨stream, found, acted⟩ := bind_eq_some_iff.mp stepped
      cases acted
      exact ⟨complete.followed.of_same (Keeps.of_calls rfl) rfl rfl rfl rfl,
        complete.notified.release found⟩
  | stop =>
    split at stepped
    · cases stepped
    · cases stepped
      exact ⟨complete.followed.stop, complete.notified.tellAll rfl rfl (Keeps.of_calls rfl)⟩

end

theorem complete_initial : Complete decode ({} : Observed Value) where
  followed := ⟨Registry.sound_empty _, nofun, fun _ _ => ⟨rfl, rfl⟩⟩
  notified := ⟨Registry.sound_empty _, nofun, fun _ _ => rfl⟩

/-- In every run that handles what follows an accepting response after the registration, each
subscription has queued, handed out or counted as lost all that has arrived for it since its
response, and each stream whose closure was handled is closed with its reason, has woken its
producer, and lets no `send` wait. -/
theorem nothing_is_missed (decode : Nat → Bytes → Option Value) {state : Observed Value}
    (reached : (observedMachine decode).ReachableWhere
      (fun state label => state.session.RegistersInTime decode label) {} state) :
    (∀ number subscription, state.session.subscriptionOf number = some subscription →
      Accounted decode subscription (state.ledger.arrived number) (state.ledger.taken number)) ∧
    ∀ number reason, state.ledger.closure number = some reason →
      ∃ stream, state.session.streamOf number = some stream ∧ stream.closed = true ∧
        stream.closureReason = some reason ∧ stream.credit = true ∧
        ∀ sessionClosed funded, (stream.pass sessionClosed funded).sender = .raised := by
  have complete : Complete decode state := by
    refine reached.invariant (Complete decode) complete_initial ?_
    intro state label next complete inTime stepped
    obtain ⟨after, moved, rfl⟩ := map_eq_some_iff.mp stepped
    exact complete.step inTime moved
  refine ⟨fun number subscription found =>
    (complete.followed.each.1 number subscription found).2, ?_⟩
  intro number reason closure
  cases found : state.session.streamOf number with
  | none =>
    rw [complete.notified.each.2 number found] at closure
    cases closure
  | some stream =>
    have told := (complete.notified.each.1 number stream found).2
    obtain ⟨closed, reasoned⟩ := told.closed reason closure
    refine ⟨stream, rfl, closed, reasoned, told.woken closed, fun sessionClosed funded => ?_⟩
    rw [InboundStream.pass, if_pos (.inl closed)]

end

/-! ### Runs of one session -/

/-- A data message of a target and kind. -/
abbrev dataOf (target : UInt32) (kind : UInt8) (payload : Bytes) : Message where
  envelope := { kind := Kind.data.code, target, reserved := kind.toUInt32 }
  payloadSize := payload.length
  payload

/-- A closure of a token. -/
abbrev closureOf (target : UInt32) (payload : Bytes) : Message where
  envelope := { kind := Kind.inStreamClosed.code, target }
  payloadSize := payload.length
  payload

/-- A subscription to watch a target. -/
abbrev watching : Purpose := .subscribe 9 1 0 32 false

/-- The data come in the chunk after the response, when the subscription is registered. -/
def dataLater : List Label :=
  [.start 0 watching, .flushed 0 true, .receive [responseTo 1 []], .handle, .readerFlushed,
    .resume 0, .flushed 0 true, .receive [dataOf 9 1 [5]], .handle]

theorem nothing_is_missed_later :
    ∃ state, (observedMachine rawCodec).run {} dataLater = some state ∧
      ∃ subscription, state.session.subscriptionOf 0 = some subscription ∧
        subscription.queue = [[5]] ∧
        Accounted rawCodec subscription (state.ledger.arrived 0) (state.ledger.taken 0) := by
  have admissible : (observedMachine rawCodec).Admissible
      (fun state label => state.session.RegistersInTime rawCodec label) {} dataLater := by
    refine .step trivial rfl (.step trivial rfl (.step trivial rfl (.step ⟨nofun, nofun⟩ rfl ?_)))
    refine .step trivial rfl (.step trivial rfl (.step trivial rfl (.step trivial rfl ?_)))
    refine .step ⟨fun _ number follows => ?_, nofun⟩ rfl trivial
    cases number with
    | zero => exact ⟨rfl, _, rfl, rfl⟩
    | succ number => cases follows
  exact ⟨((observedMachine rawCodec).run {} dataLater).get rfl, rfl, _, rfl, rfl,
    (nothing_is_missed rawCodec ((observedMachine rawCodec).reachableWhere_get _ {} dataLater
      admissible rfl)).1 0 _ rfl⟩

/-- The data come in the chunk of the response. -/
def dataTogether : List Label :=
  [.start 0 watching, .flushed 0 true, .receive [responseTo 1 [], dataOf 9 1 [5]], .handle,
    .handle, .readerFlushed, .resume 0, .flushed 0 true]

/-- The closure of token 7 comes in the chunk of the response that gives it, and the producer
sends. -/
def closureTogether : List Label :=
  [.start 0 (.openStream 9), .flushed 0 true,
    .receive [responseTo 1 [0, 0, 0, 0, 1, 0, 1, 0, 7, 0, 0, 0],
      closureOf 9 [7, 0, 0, 0, 4, 0, 0, 0]],
    .handle, .handle, .readerFlushed, .resume 0, .flushed 0 true, .send 0]

theorem missed_together :
    (∃ state, (observedMachine rawCodec).run {} dataTogether = some state ∧
      ∃ subscription, state.session.subscriptionOf 0 = some subscription ∧
        subscription.queue = [] ∧ subscription.lossCount = 0 ∧
        state.ledger.arrived 0 = [[5]] ∧
        ¬ Accounted rawCodec subscription (state.ledger.arrived 0) (state.ledger.taken 0)) ∧
    ∃ state, (observedMachine rawCodec).run {} closureTogether = some state ∧
      state.ledger.closure 0 = some .fault ∧ ∃ stream, state.session.streamOf 0 = some stream ∧
        stream.closed = false ∧ stream.sender = .waiting ∧ stream.credit = false := by
  constructor
  · refine ⟨((observedMachine rawCodec).run {} dataTogether).get rfl, rfl, _, rfl, rfl, rfl, rfl,
      ?_⟩
    exact fun accounted => Nat.noConfusion accounted.length
  · exact ⟨((observedMachine rawCodec).run {} closureTogether).get rfl, rfl, rfl, _, rfl, rfl,
      rfl, rfl⟩

end Solar.Remote.Session
