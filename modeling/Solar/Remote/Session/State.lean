/-
This file models the asynchronous session of the Python host: the coroutines that
exchange a request for its answer, the read loop that hands the messages of the
firmware out, and the subscriptions and inbound streams that messages are for.

Everything runs on one event loop. A step is what one task does from one `await`
to the next; the read loop handles all the messages of what it received without
one, so that no other task takes a step until the last of them is handled.
-/

import Solar.Library.Transition
import Solar.Remote.Fragments.Client
import Solar.Remote.Publication
import Solar.Remote.Session.Feed

namespace Solar.Remote.Session

open Client (Message decodeCreditGrant decodeInStreamClosed)

/-! ### Calls -/

/-- The future of a call. -/
inductive Future
  | waiting
  | result (message : Message)
  | cancelled
  | failed
  deriving DecidableEq

/-- What the caller of `_exchange` does with the answer. -/
inductive Purpose
  | plain
  | subscribe (target : UInt32) (kind : UInt8) (schema : Nat) (queueDepth : Int) (batched : Bool)
  | openStream (target : UInt32)

/-- Where a call of `_exchange` stands. -/
inductive Stage
  | absent
  | sending
  | awaiting
  | withdrawing
  | acknowledging (message : Message)
  | returned (message : Message)
  | raised
  deriving DecidableEq

/-- A call of `_exchange`. It is interrupted if it is cancelled with its future already done. -/
structure Call where
  request : UInt32 := 0
  epoch : UInt32 := 0
  purpose : Purpose := .plain
  stage : Stage := .absent
  future : Future := .waiting
  interrupted : Bool := false

/-- `future.done()`. -/
def Future.done (future : Future) : Bool := future ≠ .waiting

/-- `set_exception` of a future that is not done. -/
def Future.fail : Future → Future
  | .waiting => .failed
  | future => future

/-- The token of `InStreamOpenResponse.decode`. -/
def decodeInStreamOpenResponse (data : Bytes) : Option UInt32 :=
  if data.length ≠ 12 then none
  else if getU32 data 8 = 0 then none
  else if data.getD 6 0 ≠ 1 ∧ data.getD 6 0 ≠ 2 then none
  else some (getU32 data 8)

/-! ### The client -/

/-- What a session uses of its `Client`. -/
structure Core where
  sessionEpoch : UInt32 := 0
  requestId : UInt32 := 0
  credits : UInt32 × UInt32 → Option CreditGrant := fun _ => none

/-- The credit of a key after a grant. -/
def Core.grant (core : Core) (target : UInt32) (grant : CreditGrant) : Core :=
  let current := (core.credits (target, grant.token)).getD { grant with credits := 0 }
  { core with
    credits := Function.update core.credits (target, grant.token) (some { grant with
        credits := UInt16.ofNat (min 0xFFFF (current.credits.toNat + grant.credits.toNat)) }) }

/-- `feed`, for one message. It raises where a payload has the wrong form. -/
def Core.take (core : Core) (message : Message) : Option Core :=
  if message.envelope.kind = Kind.serverHello.code then
    if message.payload.length ≠ helloSize ∨ message.payload.getD 0 0 ≠ 1 then none
    else some { core with sessionEpoch := message.envelope.sessionEpoch }
  else if message.envelope.kind = Kind.sessionReset.code then
    some { sessionEpoch := message.envelope.sessionEpoch }
  else if message.envelope.kind = Kind.credit.code then
    (decodeCreditGrant message.payload).toOption.map (core.grant message.envelope.target)
  else if message.envelope.kind = Kind.inStreamClosed.code then
    (decodeInStreamClosed message.payload).toOption.map fun closed =>
      { core with
        credits := Function.update core.credits (message.envelope.target, closed.token) none }
  else some core

/-- What the core holds of a client. -/
def coreOf (session : Client.Session) : Core where
  sessionEpoch := session.sessionEpoch
  requestId := session.requestId
  credits := fun key => session.credits.lookup key

/-- Of a message that the loop of `feed` accepts, the core takes what the client holds after it. -/
theorem take_coreOf {session next : Client.Session} {message : Message} {answer : Option Message}
    (accepted : session.accept message = (next, .ok answer)) :
    (coreOf session).take message = some (coreOf next) := by
  have apart (kind : Kind) (different : Kind.ofCode? message.envelope.kind ≠ some kind) :
      message.envelope.kind ≠ kind.code := fun same =>
    different (by rw [same, Kind.ofCode?_code])
  unfold Client.Session.accept at accepted
  unfold Core.take
  split at accepted
  next known =>
    rw [if_pos (Kind.code_of_ofCode? known).symm]
    unfold Client.Hello.decode at accepted
    split_ifs at accepted with size major
    · cases accepted
    · cases accepted
    · rw [if_neg (by tauto)]
      unfold Client.Session.hello at accepted
      dsimp only at accepted
      split at accepted
      · cases accepted
        rfl
      · split at accepted
        · cases accepted
        · cases accepted
          rfl
  next known =>
    rw [if_neg (apart _ (by rw [known]; decide)), if_pos (Kind.code_of_ofCode? known).symm]
    cases accepted
    rfl
  next known =>
    rw [if_neg (apart _ (by rw [known]; decide)), if_neg (apart _ (by rw [known]; decide)),
      if_pos (Kind.code_of_ofCode? known).symm]
    split at accepted
    · cases accepted
    next grant decoded =>
    cases accepted
    rw [decoded]
    refine congrArg (fun credits => some { coreOf session with credits }) (funext fun key => ?_)
    obtain rfl | other := eq_or_ne key (message.envelope.target, grant.token)
    · cases found : session.credits.lookup (message.envelope.target, grant.token) <;>
        simp [coreOf, Client.Session.credit, found]
    · simp [coreOf, Client.Session.credit, other]
  next known =>
    rw [if_neg (apart _ (by rw [known]; decide)), if_neg (apart _ (by rw [known]; decide)),
      if_neg (apart _ (by rw [known]; decide)), if_pos (Kind.code_of_ofCode? known).symm]
    split at accepted
    · cases accepted
    next closed decoded =>
    cases accepted
    rw [decoded]
    refine congrArg (fun credits => some { coreOf session with credits }) (funext fun key => ?_)
    obtain rfl | other := eq_or_ne key (message.envelope.target, closed.token)
    · simp [Client.Session.close]
    · simp [coreOf, Client.Session.close, other]
  next hello reset credit closed =>
    rw [if_neg (apart _ hello), if_neg (apart _ reset), if_neg (apart _ credit),
      if_neg (apart _ closed)]
    cases accepted
    rfl

/-- `feed`, from the messages that the decoder and the reassembler return. -/
def Core.feed (core : Core) (messages : List Message) : Option Core := messages.foldlM take core

/-! ### Subscriptions and inbound streams -/

/-- A `Subscription`. A queue depth that is not positive is no bound. -/
structure Subscription (Value : Type) where
  target : UInt32
  kind : UInt8
  schema : Nat
  queueDepth : Int
  batched : Bool
  lossCount : Nat := 0
  queue : List Value := []
  closed : Bool := false

variable {Value : Type}

namespace Subscription

/-- `full` of the queue. -/
def full (subscription : Subscription Value) : Bool :=
  0 < subscription.queueDepth ∧ subscription.queueDepth ≤ subscription.queue.length

/-- The round of `_deliver` before it decodes: a full queue loses its oldest value. -/
def makeRoom (subscription : Subscription Value) : Subscription Value :=
  if subscription.full then
    { subscription with
      queue := subscription.queue.tail
      lossCount := subscription.lossCount + 1 }
  else subscription

/-- The rounds of `_deliver`, and whether none of them raises. -/
def deliverItems (decode : Nat → Bytes → Option Value) (subscription : Subscription Value) :
    List Bytes → Subscription Value × Bool
  | [] => (subscription, true)
  | item :: rest =>
      match decode subscription.schema item with
      | none => (subscription.makeRoom, false)
      | some value =>
          deliverItems decode
            { subscription.makeRoom with queue := subscription.makeRoom.queue ++ [value] } rest

/-- `_deliver`, and whether it does not raise. -/
def deliver (decode : Nat → Bytes → Option Value) (subscription : Subscription Value)
    (payload : Bytes) : Subscription Value × Bool :=
  match Host.items subscription.batched payload with
  | .error _ => (subscription, false)
  | .ok items => subscription.deliverItems decode items

end Subscription

/-- Where the producer of a stream stands in `send`. -/
inductive Sender
  | idle
  | waiting
  | sent
  | raised
  deriving DecidableEq

/-- An `InboundStream` that is opened. `credit` is the event that `send` waits for. -/
structure InboundStream where
  target : UInt32
  token : UInt32
  credit : Bool := false
  closed : Bool := false
  closureReason : Option InStreamCloseReason := none
  sender : Sender := .idle

namespace InboundStream

section

variable (stream : InboundStream)

/-- `_notify_closed`. -/
def notifyClosed (reason : InStreamCloseReason) : InboundStream :=
  { stream with closureReason := some reason, closed := true, credit := true }

/-- The end of `aclose`. -/
def release : InboundStream :=
  { stream with closed := true, credit := true }

/-- One pass of the loop of `send`. -/
def pass (sessionClosed funded : Bool) : InboundStream :=
  if stream.closed ∨ sessionClosed then { stream with sender := .raised }
  else if funded then { stream with sender := .sent }
  else { stream with sender := .waiting, credit := false }

end

end InboundStream

/-! ### The session -/

/-- Why the read loop has ended. -/
inductive Ending
  | transport
  | rejected
  | invalidState
  deriving DecidableEq

/-- Where the read loop stands. -/
inductive Reader
  | receiving
  | handling (messages : List Message)
  | flushing
  | ended (ending : Ending)
  deriving DecidableEq

/-- The target and kind of a data message. -/
def dataKey (message : Message) : UInt32 × UInt8 :=
  (message.envelope.target, (message.envelope.reserved &&& 0xFF).toUInt8)

/-- An `AsyncSession`. Calls are numbered; a subscription and an inbound stream have the number of
the call that opened them, and the dictionaries hold numbers. -/
structure AsyncSession (Value : Type) where
  core : Core := {}
  calls : Nat → Call := fun _ => {}
  pending : UInt32 → Option Nat := fun _ => none
  subscriptionOf : Nat → Option (Subscription Value) := fun _ => none
  subscriptions : UInt32 × UInt8 → Option Nat := fun _ => none
  streamOf : Nat → Option InboundStream := fun _ => none
  inStreams : UInt32 × UInt32 → Option Nat := fun _ => none
  reader : Reader := .receiving
  closed : Bool := false

namespace AsyncSession

variable (session : AsyncSession Value)

/-- The tasks take their steps while the read loop awaits. -/
def free : Bool :=
  match session.reader with
  | .handling _ => false
  | _ => true

section

variable (call : Nat)

def setCall (value : Call) : AsyncSession Value :=
  { session with calls := Function.update session.calls call value }

def setStage (stage : Stage) : AsyncSession Value :=
  session.setCall call { session.calls call with stage }

def setStream (stream : InboundStream) : AsyncSession Value :=
  { session with streamOf := Function.update session.streamOf call (some stream) }

/-- `_next_request` and the start of `_exchange`. -/
def start (purpose : Purpose) : AsyncSession Value :=
  let request := session.core.requestId + 1
  let started := session.setCall call
    { request, epoch := session.core.sessionEpoch, purpose, stage := .sending }
  { started with
    core := { session.core with requestId := request }
    pending := Function.update session.pending request (some call) }

/-- A timeout or a cancellation reaches a call in `wait_for`. -/
def expire : AsyncSession Value :=
  if (session.calls call).future = .waiting then
    session.setCall call { session.calls call with future := .cancelled }
  else session.setCall call { session.calls call with interrupted := true }

/-- What the callers do once `_exchange` has returned: they register what was opened. -/
def register (message : Message) : AsyncSession Value :=
  if message.envelope.kind ≠ Kind.response.code then session
  else
    match (session.calls call).purpose with
    | .plain => session
    | .subscribe target kind schema queueDepth batched =>
        { session with
          subscriptionOf := Function.update session.subscriptionOf call
            (some { target, kind, schema, queueDepth, batched })
          subscriptions := Function.update session.subscriptions (target, kind) (some call) }
    | .openStream target =>
        match decodeInStreamOpenResponse message.payload with
        | none => session
        | some token =>
            { session.setStream call
                { target, token, credit := (session.core.credits (target, token)).isSome } with
              inStreams := Function.update session.inStreams (target, token) (some call) }

/-- `_exchange` returns. -/
def finish (message : Message) : AsyncSession Value :=
  (session.setStage call (.returned message)).register call message

/-- `_exchange` goes on after `wait_for`. -/
def resume : AsyncSession Value :=
  match (session.calls call).future, (session.calls call).interrupted with
  | .result message, false =>
      if message.envelope.kind = Kind.error.code then session.setStage call .raised
      else if message.envelope.kind = Kind.response.code then
        session.setStage call (.acknowledging message)
      else session.finish call message
  | _, _ =>
      { session.setStage call .withdrawing with
        pending := Function.update session.pending (session.calls call).request none }

end

/-- The end of `_read_loop`. -/
def close (ending : Ending) : AsyncSession Value :=
  { session with
    closed := true
    streamOf := fun call => (session.streamOf call).map fun stream =>
      if session.inStreams (stream.target, stream.token) = some call then
        stream.notifyClosed .disconnect
      else stream
    inStreams := fun _ => none
    calls := fun call =>
      if session.pending (session.calls call).request = some call then
        { session.calls call with future := (session.calls call).future.fail }
      else session.calls call
    pending := fun _ => none
    reader := .ended ending }

/-- A data message goes to the subscription of its target and kind. -/
def handleData (decode : Nat → Bytes → Option Value) (message : Message) :
    AsyncSession Value × Option Ending :=
  match session.subscriptions (dataKey message) with
  | none => (session, none)
  | some call =>
      match session.subscriptionOf call with
      | none => (session, none)
      | some subscription =>
          let delivered := subscription.deliver decode message.payload
          ({ session with
              subscriptionOf :=
                Function.update session.subscriptionOf call (some delivered.1) },
            if delivered.2 then none else some .rejected)

section

variable (message : Message)

/-- `_notify_credit` of the stream of a credit message. -/
def handleCredit : AsyncSession Value :=
  match session.inStreams (message.envelope.target, getU32 (message.payload.take 4) 0) with
  | none => session
  | some call =>
      { session with
        streamOf := Function.update session.streamOf call
          ((session.streamOf call).map fun stream => { stream with credit := true }) }

/-- A closure takes its stream out of the dictionary and notifies it. -/
def handleClosed : AsyncSession Value × Option Ending :=
  match decodeInStreamClosed message.payload with
  | .error _ => (session, some .rejected)
  | .ok ⟨token, reason⟩ =>
      let key := (message.envelope.target, token)
      match session.inStreams key with
      | none => (session, none)
      | some call =>
          ({ session with
              inStreams := Function.update session.inStreams key none
              streamOf := Function.update session.streamOf call
                ((session.streamOf call).map fun stream => stream.notifyClosed reason) },
            none)

/-- Any other message with the id of a pending request is its answer. The future of the request is
set whether or not it is done. -/
def handleAnswer : AsyncSession Value × Option Ending :=
  if message.envelope.requestId = 0 then (session, none)
  else
    match session.pending message.envelope.requestId with
    | none => (session, none)
    | some call =>
        let popped := { session with
          pending := Function.update session.pending message.envelope.requestId none }
        if (session.calls call).future.done then (popped, some .invalidState)
        else (popped.setCall call { session.calls call with future := .result message }, none)

end

end AsyncSession

/-- The messages that `_read_loop` takes for answers. -/
def answers (message : Message) : Bool :=
  message.envelope.kind ≠ Kind.data.code ∧ message.envelope.kind ≠ Kind.credit.code ∧
    message.envelope.kind ≠ Kind.inStreamClosed.code

namespace AsyncSession

variable (session : AsyncSession Value)

section

variable (decode : Nat → Bytes → Option Value)

/-- The body of the loop over the messages, with why it ends the read loop. -/
def dispatch (message : Message) : AsyncSession Value × Option Ending :=
  if message.envelope.kind = Kind.data.code then session.handleData decode message
  else if message.envelope.kind = Kind.credit.code then (session.handleCredit message, none)
  else if message.envelope.kind = Kind.inStreamClosed.code then session.handleClosed message
  else session.handleAnswer message

/-- The read loop goes on with the messages that are left. -/
def continueWith (messages : List Message) : AsyncSession Value :=
  { session with reader := if messages = [] then .flushing else .handling messages }

/-- The read loop handles one message. -/
def handle (message : Message) (rest : List Message) : AsyncSession Value :=
  match session.dispatch decode message with
  | (next, none) => next.continueWith rest
  | (next, some ending) => next.close ending

end

/-- `stop`, before it cancels the reader. -/
def stop : AsyncSession Value :=
  { session with
    subscriptionOf := fun call => (session.subscriptionOf call).map fun subscription =>
      if session.subscriptions (subscription.target, subscription.kind) = some call then
        { subscription with closed := true }
      else subscription
    subscriptions := fun _ => none
    streamOf := fun call => (session.streamOf call).map fun stream =>
      if session.inStreams (stream.target, stream.token) = some call then
        stream.notifyClosed .disconnect
      else stream
    inStreams := fun _ => none }

/-- `send` takes a pass; a pass that sends pays with a credit. -/
def passSend (call : Nat) (stream : InboundStream) : AsyncSession Value :=
  let grant := session.core.credits (stream.target, stream.token)
  let funded := grant.any fun grant => grant.credits ≠ 0
  let passed := stream.pass session.closed funded
  let paid : Core :=
    { session.core with
      credits := Function.update session.core.credits (stream.target, stream.token)
        (grant.map fun grant => { grant with credits := grant.credits - 1 }) }
  { session.setStream call passed with
    core := if passed.sender = .sent then paid else session.core }

end AsyncSession

/-! ### Steps -/

/-- What happens next. -/
inductive Label
  | start (call : Nat) (purpose : Purpose)
  | flushed (call : Nat) (sent : Bool)
  | expire (call : Nat)
  | resume (call : Nat)
  | receive (messages : List Message)
  | handle
  | readerFlushed
  | disconnect
  | take (call : Nat)
  | closeSubscription (call : Nat)
  | send (call : Nat)
  | wake (call : Nat)
  | giveUp (call : Nat)
  | release (call : Nat)
  | stop

namespace AsyncSession

variable (session : AsyncSession Value)

section

variable (call : Nat)

/-- The end of one of the three flushes of a call. One that raises ends the call as it stands. -/
def flushed (sent : Bool) : Option (AsyncSession Value) :=
  match (session.calls call).stage with
  | .sending => some (session.setStage call (if sent then .awaiting else .raised))
  | .withdrawing => some (session.setStage call .raised)
  | .acknowledging message =>
      some (if sent then session.finish call message else session.setStage call .raised)
  | _ => none

/-- The read loop receives what the core turns into messages. -/
def receive (messages : List Message) : AsyncSession Value :=
  match session.core.feed messages with
  | none => session.close .rejected
  | some core => { session with core }.continueWith messages

/-- `__anext__` takes a value. -/
def take : Option (AsyncSession Value) :=
  match session.subscriptionOf call with
  | some subscription =>
      if subscription.queue = [] then none
      else some { session with
        subscriptionOf := Function.update session.subscriptionOf call
          (some { subscription with queue := subscription.queue.tail }) }
  | none => none

/-- `aclose` of a subscription, before it tells the firmware by a call of its own. -/
def closeSubscription : Option (AsyncSession Value) :=
  match session.subscriptionOf call with
  | some subscription =>
      if subscription.closed then none
      else some { session with
        subscriptionOf := Function.update session.subscriptionOf call
          (some { subscription with closed := true })
        subscriptions :=
          Function.update session.subscriptions (subscription.target, subscription.kind) none }
  | none => none

/-- The end of `aclose` of a stream, after the call that tells the firmware. -/
def release (stream : InboundStream) : AsyncSession Value :=
  let key := (stream.target, stream.token)
  { session.setStream call stream.release with
    inStreams := Function.update session.inStreams key none
    core := { session.core with credits := Function.update session.core.credits key none } }

/-- What a producer does with its stream. -/
def produce (act : InboundStream → Option (AsyncSession Value)) : Option (AsyncSession Value) :=
  (session.streamOf call).bind act

end

/-- A step of the read loop or of a task. The tasks take none while the read loop handles. -/
def step (decode : Nat → Bytes → Option Value) : Label → Option (AsyncSession Value)
  | .receive messages =>
      if session.reader = .receiving then some (session.receive messages) else none
  | .handle =>
      match session.reader with
      | .handling (message :: rest) => some (session.handle decode message rest)
      | _ => none
  | .readerFlushed =>
      if session.reader = .flushing then some { session with reader := .receiving } else none
  | .disconnect =>
      if session.reader = .receiving ∨ session.reader = .flushing then
        some (session.close .transport)
      else none
  | label =>
      if session.free = false then none
      else
        match label with
        | .start call purpose =>
            if (session.calls call).stage = .absent ∧ session.core.requestId + 1 ≠ 0 then
              some (session.start call purpose)
            else none
        | .flushed call sent => session.flushed call sent
        | .expire call =>
            if (session.calls call).stage = .awaiting then some (session.expire call) else none
        | .resume call =>
            if (session.calls call).stage = .awaiting ∧ (session.calls call).future.done then
              some (session.resume call)
            else none
        | .take call => session.take call
        | .closeSubscription call => session.closeSubscription call
        | .send call => session.produce call fun stream =>
            if stream.sender ≠ .waiting then some (session.passSend call stream) else none
        | .wake call => session.produce call fun stream =>
            if stream.sender = .waiting ∧ stream.credit then some (session.passSend call stream)
            else none
        | .giveUp call => session.produce call fun stream =>
            if stream.sender = .waiting then
              some (session.setStream call { stream with sender := .raised })
            else none
        | .release call => session.produce call fun stream => some (session.release call stream)
        | .stop => some session.stop
        | _ => none

end AsyncSession

/-- The machine of a session under a codec. -/
def machine {Value : Type} (decode : Nat → Bytes → Option Value) :
    Transition.Machine (AsyncSession Value) Label where
  step := fun session label => session.step decode label

end Solar.Remote.Session
