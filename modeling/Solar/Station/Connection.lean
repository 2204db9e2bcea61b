/-
This file models the supervisor of a Station's connection to the robot. One task goes
round a loop: it opens a session, restores what depends on it, is online until something
ends the session, and clears up. A reconnect request tears the session down from another
task, in whatever stage the loop is, and waits until the loop has gone online again. To
close the supervisor is to tear the session down and to cancel the task.

The code runs on one event loop. What a task does between two suspensions is one step.
-/

import Solar.Library.Transition

namespace Solar.Station

inductive RobotState
  | disconnected | connecting | resolvingManifest | restoringSources | online | stopping
  deriving DecidableEq

/-- A session with the robot, which is told by the attempt that opened it. -/
structure RobotSession where
  attempt : Nat
  target : String
  manifest : Option Nat
  buildId : Option Nat
  deriving DecidableEq

/-- A row of `robot_sessions`. It has a reason once it is ended. -/
structure RobotSessionRow where
  id : Nat
  target : String
  buildId : Option Nat
  manifestDigest : Nat
  disconnectReason : Option String := none

def RobotSessionRow.isOpen (row : RobotSessionRow) : Bool := row.disconnectReason.isNone

/-- Where `_run` is suspended. An attempt is abandoned with an error or because of a cancellation. -/
inductive RunStage
  | created
  | connecting
  | resolvingTarget
  | openingTarget (target : String)
  | starting (target : String)
  | abandoning (error : Option String)
  | resolvingManifest (session : RobotSession)
  | storingManifest (session : RobotSession) (digest : Nat)
  | beginning (session : RobotSession) (digest : Nat)
  | restoring (session : RobotSession)
  | startingSources (session : RobotSession)
  | goingOnline (session : RobotSession)
  | online (session : RobotSession)
  | leaving
  | inputsOffline (reason : String)
  | sourcesOffline (reason : String)
  | stoppingSession (reason : String)
  | endingSession (reason : String) (id : Nat)
  | disconnecting
  | delaying
  | finished
  deriving DecidableEq

/-- Where a call of `reconnect` is: it stops the session, is to look at the generation, or waits
for a state. -/
inductive ReconnectStage
  | stopping | checking | waiting
  deriving DecidableEq

/-- A call of `reconnect`, and how many attempts to open a session had been made before it. -/
structure ReconnectCall where
  generation : Nat
  requested : Nat
  stage : ReconnectStage

def ReconnectCall.notified (call : ReconnectCall) : ReconnectCall :=
  if call.stage = .waiting then { call with stage := .checking } else call

/-- An answer to `reconnect` that says that the robot is connected, and what `require_session` would
have found then. -/
structure ReconnectAnswer where
  state : RobotState
  target : Option String
  buildId : Option Nat
  requested : Nat
  required : Option RobotSession
  deriving DecidableEq

inductive CloseStage
  | stopping | awaiting | closed

/-- `taggedId` is the session id of the events, `sources` the session of the source registry.
`endings` remembers the rows that were ended. -/
structure ConnectionSupervisor where
  hasFactory : Bool
  stage : RunStage := .created
  cancelling : Bool := false
  state : RobotState := .disconnected
  target : Option String := none
  session : Option RobotSession := none
  connection : Option Nat := none
  manifest : Option Nat := none
  buildId : Option Nat := none
  sessionId : Option Nat := none
  lastError : Option String := none
  stop : Bool := false
  reconnects : Bool := false
  onlineGeneration : Nat := 0
  taggedId : Option Nat := none
  sources : Option RobotSession := none
  rows : List RobotSessionRow := []
  endings : List Nat := []
  attempts : Nat := 0
  lost : List Nat := []
  calls : List (Nat × ReconnectCall) := []
  closing : Option CloseStage := none
  answers : List ReconnectAnswer := []

/-- A step. `deliver` throws the cancellation into the task; some awaits swallow it. -/
inductive ConnectionLabel
  | resume
  | resolved (target : String)
  | started (manifest buildId : Option Nat)
  | fail (error : String)
  | deliver (swallowed : Bool)
  | lose (attempt : Nat)
  | reconnect (number : Nat)
  | stopped (number : Nat)
  | check (number : Nat)
  | timeout (number : Nat)
  | close
  | cancel
  | closed

namespace ConnectionSupervisor

variable (supervisor : ConnectionSupervisor)

/-! ### Parts of the loop -/

/-- `_set_state`, up to its first suspension. -/
def setState (state : RobotState) : ConnectionSupervisor :=
  { supervisor with
    state
    onlineGeneration :=
      if state = .online then supervisor.onlineGeneration + 1 else supervisor.onlineGeneration }

/-- The end of `_set_state`. -/
def notifyAll : ConnectionSupervisor :=
  { supervisor with calls := supervisor.calls.map fun (number, call) => (number, call.notified) }

/-- `_stop_session`, up to its first suspension. -/
def tearDown : ConnectionSupervisor := { supervisor with session := none, connection := none }

/-- Whether `_stop_session` has something to stop. -/
def isUp : Bool := supervisor.session.isSome || supervisor.connection.isSome

/-- The head of the loop. -/
def attempt : ConnectionSupervisor :=
  if supervisor.stop then { supervisor with stage := .finished }
  else { supervisor.setState .connecting with reconnects := false, stage := .connecting }

/-- The head of the `finally` block. -/
def clearUp (reason : String) : ConnectionSupervisor :=
  { supervisor with stage := .inputsOffline reason }

/-- An error other than a cancellation. -/
def raises (error : String) : ConnectionSupervisor :=
  { supervisor.clearUp error with lastError := some error }

/-- The start of a session has failed; the connection is closed, if it still has one. -/
def abandon (error : String) : ConnectionSupervisor :=
  if supervisor.hasFactory then supervisor.raises error
  else match supervisor.connection with
    | some _ => { supervisor with stage := .abandoning (some error) }
    | none => supervisor.raises "'NoneType' object has no attribute 'close'"

/-- `begin_robot_session`. -/
def beginRobotSession (session : RobotSession) (digest : Nat) : ConnectionSupervisor :=
  let id := (supervisor.rows.map RobotSessionRow.id).foldr max 0 + 1
  { supervisor with
    rows := supervisor.rows ++ [⟨id, session.target, supervisor.buildId, digest, none⟩]
    sessionId := some id
    taggedId := some id }

/-- `end_robot_session`. -/
def endRobotSession (id : Nat) (reason : String) : ConnectionSupervisor :=
  { supervisor with
    rows := supervisor.rows.map fun row =>
      if row.id = id ∧ row.isOpen then { row with disconnectReason := some reason } else row
    endings := supervisor.endings ++
      (supervisor.rows.filter fun row => row.id = id ∧ row.isOpen).map RobotSessionRow.id }

/-- The end of the `finally` block. -/
def leave : ConnectionSupervisor :=
  let left := { supervisor with sessionId := none, taggedId := none }
  if supervisor.stop then { left with stage := .finished }
  else { left.setState .disconnected with stage := .disconnecting }

/-- Whether what a session waits for online has happened. -/
def isWoken (session : RobotSession) : Bool :=
  supervisor.stop || supervisor.reconnects || supervisor.lost.contains session.attempt

def missingManifest : String := "connected firmware did not provide a Remote manifest"

/-- What `_run` does when it is resumed. -/
def resume : Option ConnectionSupervisor :=
  match supervisor.stage with
  | .created => some supervisor.attempt
  | .connecting => some { supervisor.notifyAll with stage := .resolvingTarget }
  | .openingTarget target =>
      some { supervisor with
        connection := some supervisor.attempts
        stage := .starting target }
  | .abandoning (some error) => some ({ supervisor with connection := none }.raises error)
  | .abandoning none => some ({ supervisor with connection := none }.clearUp "server stopping")
  | .resolvingManifest session =>
      match session.manifest with
      | none => some (supervisor.notifyAll.raises missingManifest)
      | some digest =>
          some { supervisor.notifyAll with
            manifest := some digest
            buildId := session.buildId
            stage := .storingManifest session digest }
  | .storingManifest session digest => some { supervisor with stage := .beginning session digest }
  | .beginning session digest =>
      some { (supervisor.beginRobotSession session digest).setState .restoringSources with
        stage := .restoring session }
  | .restoring session =>
      some { supervisor.notifyAll with
        sources := some session
        stage := .startingSources session }
  | .startingSources session =>
      some { supervisor.setState .online with stage := .goingOnline session }
  | .goingOnline session =>
      some { supervisor.notifyAll with lastError := none, stage := .online session }
  | .online session =>
      if supervisor.isWoken session then some { supervisor with stage := .leaving } else none
  | .leaving =>
      some (supervisor.clearUp
        (if supervisor.reconnects then "reconnect requested" else "Remote transport disconnected"))
  | .inputsOffline reason =>
      some { supervisor with sources := none, stage := .sourcesOffline reason }
  | .sourcesOffline reason => some { supervisor.tearDown with stage := .stoppingSession reason }
  | .stoppingSession reason =>
      let stopped := { supervisor with manifest := none, buildId := none }
      match supervisor.sessionId with
      | none => some stopped.leave
      | some id => some { stopped with stage := .endingSession reason id }
  | .endingSession reason id => some (supervisor.endRobotSession id reason).leave
  | .disconnecting =>
      some { supervisor.notifyAll with stage := if supervisor.stop then .finished else .delaying }
  | .delaying => some supervisor.attempt
  | _ => none

/-- What `_run` does when what it awaits has failed. -/
def failed (error : String) : Option ConnectionSupervisor :=
  match supervisor.stage with
  | .starting _ => some (supervisor.abandon error)
  | .connecting | .resolvingTarget | .openingTarget _ | .abandoning _ | .resolvingManifest _
  | .storingManifest _ _ | .beginning _ _ | .restoring _ | .startingSources _ | .goingOnline _ =>
      some (supervisor.raises error)
  | _ => none

/-- What `_run` does when it is cancelled. -/
def cancelled (swallowed : Bool) : Option ConnectionSupervisor :=
  let thrown := { supervisor with cancelling := false }
  match supervisor.stage with
  | .created | .inputsOffline _ | .endingSession _ _ | .disconnecting | .delaying =>
      some { thrown with stage := .finished }
  | .sourcesOffline _ => some (if swallowed then thrown else { thrown with stage := .finished })
  | .stoppingSession _ => some thrown
  | .startingSources _ => some (if swallowed then thrown else thrown.clearUp "server stopping")
  | .starting _ =>
      some (match supervisor.hasFactory, supervisor.connection with
        | false, some _ => { thrown with stage := .abandoning none }
        | false, none => thrown.abandon "server stopping"
        | true, _ => thrown.clearUp "server stopping")
  | .connecting | .resolvingTarget | .openingTarget _ | .abandoning _ | .resolvingManifest _
  | .storingManifest _ _ | .beginning _ _ | .restoring _ | .goingOnline _ | .online _ | .leaving =>
      some (thrown.clearUp "server stopping")
  | .finished => none

/-! ### Other tasks -/

/-- `require_session`. -/
def requireSession : Option RobotSession :=
  if supervisor.state = .online then supervisor.session else none

section

variable (number : Nat)

/-- The call of a number, if it is being made. -/
def call? : Option ReconnectCall :=
  (supervisor.calls.find? (·.1 = number)).map Prod.snd

def setCall (call : Option ReconnectCall) : ConnectionSupervisor :=
  { supervisor with
    calls := supervisor.calls.filter (·.1 ≠ number) ++ (call.map (number, ·)).toList }

/-- `reconnect`, up to its first suspension. -/
def reconnect : ConnectionSupervisor :=
  { supervisor.tearDown.setCall number (some {
      generation := supervisor.onlineGeneration
      requested := supervisor.attempts
      stage := if supervisor.isUp then .stopping else .checking }) with
    reconnects := true }

/-- A call of `reconnect` looks at the generation. -/
def check (call : ReconnectCall) : ConnectionSupervisor :=
  if call.generation < supervisor.onlineGeneration ∨ supervisor.stop then
    let returned := supervisor.setCall number none
    if supervisor.stop then returned
    else { returned with
      answers := supervisor.answers ++ [{
        state := supervisor.state
        target := supervisor.target
        buildId := supervisor.buildId
        requested := call.requested
        required := supervisor.requireSession }] }
  else supervisor.setCall number (some { call with stage := .waiting })

end

/-- `close`, up to its first suspension. -/
def close : ConnectionSupervisor :=
  { supervisor.tearDown with stop := true, reconnects := true, closing := some .stopping }

/-! ### The machine -/

def step : ConnectionLabel → Option ConnectionSupervisor
  | .resume => if supervisor.cancelling then none else supervisor.resume
  | .resolved target =>
      match supervisor.stage with
      | .resolvingTarget =>
          if supervisor.cancelling then none
          else some { supervisor with
            target := some target
            attempts := supervisor.attempts + 1
            stage := if supervisor.hasFactory then .starting target else .openingTarget target }
      | _ => none
  | .started manifest buildId =>
      match supervisor.stage with
      | .starting target =>
          let session := ⟨supervisor.attempts, target, manifest, buildId⟩
          if supervisor.cancelling then none
          else some { supervisor.setState .resolvingManifest with
            session := some session
            stage := .resolvingManifest session }
      | _ => none
  | .fail error => if supervisor.cancelling then none else supervisor.failed error
  | .deliver swallowed => if supervisor.cancelling then supervisor.cancelled swallowed else none
  | .lose attempt => some { supervisor with lost := attempt :: supervisor.lost }
  | .reconnect number =>
      match supervisor.call? number with
      | none => some (supervisor.reconnect number)
      | some _ => none
  | .stopped number =>
      match supervisor.call? number with
      | some ⟨generation, requested, .stopping⟩ =>
          some (supervisor.setCall number (some ⟨generation, requested, .checking⟩))
      | _ => none
  | .check number =>
      match supervisor.call? number with
      | some call =>
          if call.stage = .checking then some (supervisor.check number call) else none
      | none => none
  | .timeout number =>
      match supervisor.call? number with
      | some call =>
          if call.stage = .stopping then none else some (supervisor.setCall number none)
      | none => none
  | .close =>
      match supervisor.closing with
      | none => some supervisor.close
      | some _ => none
  | .cancel =>
      match supervisor.closing with
      | some .stopping =>
          some { supervisor with
            cancelling := supervisor.stage ≠ .finished
            closing := some .awaiting }
      | _ => none
  | .closed =>
      match supervisor.closing with
      | some .awaiting =>
          if supervisor.stage = .finished then
            some { supervisor with state := .stopping, closing := some .closed }
          else none
      | _ => none

end ConnectionSupervisor

/-- A supervisor that is made, of which `start` makes the task. -/
def connectionMachine : Transition.Machine ConnectionSupervisor ConnectionLabel :=
  ⟨ConnectionSupervisor.step⟩

end Solar.Station
