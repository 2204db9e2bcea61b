/-
This file puts the application layer together as a step system: the service
thread takes up a frame, a link event or an answer of the execution system, the
workers and the application's threads go on with their requests, and the output
side moves a frame to the link. A frame runs in one step up to the answer of the
execution system; every other lock-protected section of a request's way is a
step of its own.
-/

import Solar.Remote.Application.Frames
import Solar.Remote.InStream.Interleaving

namespace Solar.Remote

/-- What happens next. -/
inductive ApplicationLabel {Value : Type} (catalog : RemoteCatalog Value)
  | frame (link : catalog.Link) (frame : Decoded) (outcomes : FrameOutcomes)
  | submitted (accepted : Bool)
  | connected (link : catalog.Link)
  | disconnected (link : catalog.Link) (fault : Bool)
  | stop
  | output (link : catalog.Link) (encodes : Bool) (disposition : TxDisposition)
  | txComplete (link : catalog.Link) (handle : LeaseHandle)
  | take (handler : catalog.Handler)
  | begin (handler : catalog.Handler)
  | finish (handler : catalog.Handler) (answer : Option Answer)
  | answer (handler : catalog.Handler)
  | complete (thread : Nat) (handler : catalog.Handler)
      (token : ResponderToken catalog.streams.linkCount) (answer : Option Answer)
  | answerCompletion (thread : Nat)
  | abandon (handler : catalog.Handler) (token : ResponderToken catalog.streams.linkCount)
  | inStreamWork (endpoint : catalog.Endpoint) (consumed : Bool)

namespace Application

variable {Value : Type} {catalog : RemoteCatalog Value}

/-- Every link's session is reset, as a stop of the service does. The response tables stay. -/
def resetSessions (state : Application catalog) : Application catalog :=
  (List.finRange catalog.streams.linkCount).foldl
    (fun state link => state.resetSession link .reset) state

/-- One step of the system. -/
def step (state : Application catalog) :
    ApplicationLabel catalog → Option (Application catalog)
  | .frame link frame outcomes =>
      if state.submission.isNone then some (state.handleFrame link frame outcomes) else none
  | .submitted accepted =>
      if state.submission.isSome then some (state.settleSubmission accepted) else none
  | .connected link =>
      if state.submission.isNone then
        some ((state.resetSession link .disconnect).renewSession link
          (LinkState.connect · (catalog.grants link)))
      else none
  | .disconnected link fault =>
      if state.submission.isNone then
        some ((state.resetSession link (if fault then .fault else .disconnect)).renewSession link
          (LinkState.disconnect · fault))
      else none
  | .stop => if state.submission.isNone then some state.resetSessions else none
  | .output link encodes disposition =>
      some (state.onLink link (LinkState.tryStartTransmit · encodes disposition))
  | .txComplete link handle => some (state.onLink link (LinkState.txComplete · handle))
  | .take handler => state.takeRequest handler
  | .begin handler => state.beginRequest handler
  | .finish handler answer => state.finishRequest handler answer
  | .answer handler => state.answerRequest handler
  | .complete thread handler token answer => state.completeRequest thread handler token answer
  | .answerCompletion thread => state.answerCompletion thread
  | .abandon handler token => some (state.abandonRequest handler token)
  | .inStreamWork endpoint consumed => some (state.runPendingInStream endpoint consumed)

end Application

/-- The step system of the application layer. -/
def applicationMachine {Value : Type} (catalog : RemoteCatalog Value) :
    Transition.Machine (Application catalog) (ApplicationLabel catalog) :=
  ⟨Application.step⟩

/-- A small system: one link with every permission, an action that a worker executes (id 1), a
Data endpoint with an inbound stream (id 2) and one that can only be queried (id 3). -/
def deskCatalog : RemoteCatalog UInt8 where
  limits := {
    maxRequests := 2
    responseCacheBytes := 64
    responseCacheBytes_ge := by decide
    maxMessageBytes := 64
    maxMessageBytes_ge := by decide
    maxFrameBytes := 64
    maxFrameBytes_ge := by decide
    laneDepth := 8
    laneDepth_pos := by decide
    outboundMessageSlots := 1 }
  streams := Solo.narrow
  grants := fun _ => 7
  actions := [{ id := 1 }]
  data := [{ id := 2, inStream := some Solo.endpoint }, { id := 3, query := true, inline := true }]

namespace Desk

def link : deskCatalog.Link := Solo.link

/-- The handler of the action. -/
def action : deskCatalog.Handler := .action ⟨0, by decide⟩

/-- A frame of the first session that names a request, an operation or subscription kind and a
target. -/
def frame (kind : Kind) (request operation target : UInt32) (payload : Bytes := []) : Decoded :=
  ⟨{ kind, sessionEpoch := 1, requestId := request, reserved := operation, target }, payload⟩

/-- The link comes up and the peer says hello. -/
def greets : List (ApplicationLabel deskCatalog) :=
  [.connected link, .frame link ⟨{ kind := .clientHello }, helloPayload deskCatalog.limits⟩ {}]

/-- The peer asks for the action and the execution system accepts its worker. -/
def requests (request : UInt32) : List (ApplicationLabel deskCatalog) :=
  [.frame link (frame .request request 0 1) {}, .submitted true]

/-- The worker takes the waiting request, executes it and answers. -/
def serves (answer : Answer) : List (ApplicationLabel deskCatalog) :=
  [.take action, .begin action, .finish action (some answer), .answer action]

end Desk

end Solar.Remote
