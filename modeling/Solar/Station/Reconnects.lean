/-
This file shows when a call of `reconnect` is answered rightly. A call waits for the loop
to go online once more than when the call was made. That is the session of a later attempt
unless the call came while one was being made; and the session is still there when the
call returns unless another request, or the loop itself, was faster.
-/

import Solar.Station.Sessions

namespace Solar.Station.ConnectionSupervisor

open List Option

variable {supervisor next : ConnectionSupervisor} {stage later : RunStage}

/-! ### Calls -/

/-- A call is being made that knows this generation and came after so many attempts. -/
def Asks (supervisor : ConnectionSupervisor) (generation requested : Nat) : Prop :=
  ∃ entry ∈ supervisor.calls, entry.2.generation = generation ∧ entry.2.requested = requested

variable {generation requested number : Nat} {call : ReconnectCall}

theorem asks_of_call (here : supervisor.call? number = some call) :
    supervisor.Asks call.generation call.requested := by
  obtain ⟨entry, found, rfl⟩ := map_eq_some_iff.mp here
  exact ⟨entry, mem_of_find?_eq_some found, rfl, rfl⟩

theorem asks_of_notifyAll (asks : supervisor.notifyAll.Asks generation requested) :
    supervisor.Asks generation requested := by
  obtain ⟨_, member, rfl, rfl⟩ := asks
  obtain ⟨entry, inside, rfl⟩ := mem_map.mp member
  refine ⟨entry, inside, ?_, ?_⟩
  all_goals
    dsimp only
    unfold ReconnectCall.notified
    split_ifs <;> rfl

theorem asks_of_setCall {call : Option ReconnectCall}
    (asks : (supervisor.setCall number call).Asks generation requested) :
    supervisor.Asks generation requested ∨
      ∃ made, call = some made ∧ made.generation = generation ∧ made.requested = requested := by
  obtain ⟨entry, member, same, equal⟩ := asks
  rcases mem_append.mp member with old | new
  · exact .inl ⟨entry, (mem_filter.mp old).1, same, equal⟩
  · cases call with
    | none => exact nomatch new
    | some made =>
      obtain rfl := mem_singleton.mp new
      exact .inr ⟨made, rfl, same, equal⟩

theorem asks_of_setCall_same {stage : ReconnectStage} (here : supervisor.call? number = some call)
    (asks : (supervisor.setCall number (some { call with stage })).Asks generation requested) :
    supervisor.Asks generation requested := by
  rcases asks_of_setCall asks with old | ⟨made, same, rfl, rfl⟩
  · exact old
  · have asked : supervisor.Asks call.generation call.requested := asks_of_call here
    exact some.inj same ▸ asked

theorem asks_of_setCall_none (asks : (supervisor.setCall number none).Asks generation requested) :
    supervisor.Asks generation requested :=
  (asks_of_setCall asks).resolve_right fun ⟨_, same, _⟩ => nomatch same

/-! ### Right answers -/

/-- A session is online and usable that an attempt after the request has opened. -/
def Honest (answer : ReconnectAnswer) : Prop :=
  answer.state = .online ∧
    ∃ session, answer.required = some session ∧ answer.requested < session.attempt

/-- The calls, in a stage of the loop. Those that know an earlier generation are answered by the
session that is online. -/
structure Answerable (stage : RunStage) (supervisor : ConnectionSupervisor) : Prop where
  generation : ∀ generation requested, supervisor.Asks generation requested →
    generation ≤ supervisor.onlineGeneration
  requested : ∀ generation requested, supervisor.Asks generation requested →
    requested ≤ supervisor.attempts
  underway : stage.isUnderway = true → ∀ generation requested,
    supervisor.Asks generation requested → requested < supervisor.attempts
  current : supervisor.stop = false → ∀ session, stage.session? = some session →
    supervisor.session = some session ∧ session.attempt = supervisor.attempts
  answered : supervisor.stop = false → ∀ generation requested,
    supervisor.Asks generation requested → generation < supervisor.onlineGeneration →
      stage.isAnswering = true ∧ supervisor.state = .online ∧
        ∃ session, supervisor.session = some session ∧ requested < session.attempt
  honest : ∀ answer ∈ supervisor.answers, Honest answer

/-- The loop goes to another stage. -/
theorem Answerable.move (answerable : Answerable stage supervisor)
    (asks : ∀ generation requested, next.Asks generation requested →
      supervisor.Asks generation requested)
    (generation : next.onlineGeneration = supervisor.onlineGeneration)
    (attempts : next.attempts = supervisor.attempts)
    (answers : next.answers = supervisor.answers)
    (underway : later.isUnderway = true → stage.isUnderway = true)
    (current : next.stop = false → ∀ session, later.session? = some session →
      next.session = some session ∧ session.attempt = supervisor.attempts)
    (answered : next.stop = false → supervisor.stop = false ∧ (stage.isAnswering = true →
      later.isAnswering = true ∧ next.state = supervisor.state ∧
        next.session = supervisor.session)) :
    Answerable later next where
  generation known requested asked := by
    rw [generation]
    exact answerable.generation known requested (asks known requested asked)
  requested known requested asked := by
    rw [attempts]
    exact answerable.requested known requested (asks known requested asked)
  underway going known requested asked := by
    rw [attempts]
    exact answerable.underway (underway going) known requested (asks known requested asked)
  current stop session same := by
    rw [attempts]
    exact current stop session same
  answered stop known requested asked earlier := by
    rw [generation] at earlier
    obtain ⟨before, keeps⟩ := answered stop
    obtain ⟨answering, online, session, here, newer⟩ :=
      answerable.answered before known requested (asks known requested asked) earlier
    obtain ⟨still, state, same⟩ := keeps answering
    exact ⟨still, state.trans online, session, same.trans here, newer⟩
  honest := by
    rw [answers]
    exact answerable.honest

theorem Answerable.aside (answerable : Answerable stage supervisor)
    (asks : ∀ generation requested, next.Asks generation requested →
      supervisor.Asks generation requested)
    (generation : next.onlineGeneration = supervisor.onlineGeneration)
    (attempts : next.attempts = supervisor.attempts)
    (answers : next.answers = supervisor.answers)
    (stop : next.stop = supervisor.stop) (state : next.state = supervisor.state)
    (session : next.session = supervisor.session) : Answerable stage next := by
  refine answerable.move asks generation attempts answers id (fun running other same => ?_)
    fun running => ?_
  · rw [session]
    exact answerable.current (stop.symm.trans running) other same
  · exact ⟨stop.symm.trans running, fun answering => ⟨answering, state, session⟩⟩

/-- No call is there that the loop has answered, or none will be answered any more. -/
def NoneAnswered (supervisor : ConnectionSupervisor) : Prop :=
  supervisor.stop = true ∨
    ∀ entry ∈ supervisor.calls, ¬ entry.2.generation < supervisor.onlineGeneration

instance (supervisor : ConnectionSupervisor) : Decidable supervisor.NoneAnswered :=
  inferInstanceAs (Decidable (_ ∨ _))

theorem NoneAnswered.not_lt (none : supervisor.NoneAnswered) (running : supervisor.stop = false)
    (asks : supervisor.Asks generation requested) : ¬ generation < supervisor.onlineGeneration := by
  obtain ⟨entry, member, rfl, -⟩ := asks
  exact none.resolve_left (Bool.eq_false_iff.mp running) entry member

/-! ### Steps of the loop -/

section

variable (answerable : Answerable stage supervisor)

include answerable

theorem Answerable.rests (silent : stage.isAnswering = false)
    (asks : ∀ generation requested, next.Asks generation requested →
      supervisor.Asks generation requested)
    (generation : next.onlineGeneration = supervisor.onlineGeneration)
    (attempts : next.attempts = supervisor.attempts) (answers : next.answers = supervisor.answers)
    (stop : next.stop = supervisor.stop) (idle : later.session? = none)
    (still : later.isUnderway = false) : Answerable later next := by
  refine answerable.move asks generation attempts answers (fun going => ?_)
    (fun _ session same => ?_) fun running => ?_
  · exact nomatch still.symm.trans going
  · exact nomatch idle.symm.trans same
  · exact ⟨stop.symm.trans running, fun answering => nomatch silent.symm.trans answering⟩

theorem Answerable.clearUp (reason : String) :
    Answerable (.inputsOffline reason) (supervisor.clearUp reason) :=
  answerable.move (fun _ _ asks => asks) rfl rfl rfl nofun nofun
    fun running => ⟨running, fun _ => ⟨rfl, rfl, rfl⟩⟩

theorem Answerable.raises (error : String) :
    Answerable (.inputsOffline error) (supervisor.raises error) :=
  (answerable.clearUp error).aside (fun _ _ asks => asks) rfl rfl rfl rfl rfl rfl

theorem Answerable.notifyAll : Answerable stage supervisor.notifyAll :=
  answerable.aside (fun _ _ => asks_of_notifyAll) rfl rfl rfl rfl rfl rfl

section

variable (silent : stage.isAnswering = false)

include silent

theorem Answerable.attempt : Answerable supervisor.attempt.stage supervisor.attempt := by
  unfold ConnectionSupervisor.attempt
  split_ifs
  · exact answerable.rests silent (fun _ _ asks => asks) rfl rfl rfl rfl rfl rfl
  · exact answerable.rests silent (fun _ _ asks => asks) rfl rfl rfl rfl rfl rfl

theorem Answerable.leave : Answerable supervisor.leave.stage supervisor.leave := by
  unfold ConnectionSupervisor.leave
  split_ifs
  · exact answerable.rests silent (fun _ _ asks => asks) rfl rfl rfl rfl rfl rfl
  · exact answerable.rests silent (fun _ _ asks => asks) rfl rfl rfl rfl rfl rfl

theorem Answerable.onward (asks : ∀ generation requested, next.Asks generation requested →
      supervisor.Asks generation requested)
    (generation : next.onlineGeneration = supervisor.onlineGeneration)
    (attempts : next.attempts = supervisor.attempts) (answers : next.answers = supervisor.answers)
    (stop : next.stop = supervisor.stop) (session : next.session = supervisor.session)
    (underway : stage.isUnderway = true) (same : later.session? = stage.session?) :
    Answerable later next := by
  refine answerable.move asks generation attempts answers (fun _ => underway)
    (fun running other here => ?_) fun running => ?_
  · rw [session]
    exact answerable.current (stop.symm.trans running) other (same.symm.trans here)
  · exact ⟨stop.symm.trans running, fun answering => nomatch silent.symm.trans answering⟩

end

end

theorem Answerable.goesOnline {session : RobotSession}
    (answerable : Answerable (.startingSources session) supervisor) :
    Answerable (.goingOnline session)
      { supervisor.setState .online with stage := .goingOnline session } where
  generation known requested asks :=
    Nat.le_succ_of_le (answerable.generation known requested asks)
  __ := answerable
  underway := nofun
  current := nofun
  answered running known requested asks _ := by
    obtain ⟨here, newest⟩ := answerable.current running session rfl
    refine ⟨rfl, rfl, session, here, ?_⟩
    rw [newest]
    exact answerable.underway rfl known requested asks

theorem Answerable.stopping {reason : String} (answerable : Answerable stage supervisor)
    (none : supervisor.NoneAnswered) :
    Answerable (.stoppingSession reason)
      { supervisor.tearDown with stage := .stoppingSession reason } where
  __ := answerable
  underway := nofun
  current := nofun
  answered running _ _ asks earlier := absurd earlier (none.not_lt running asks)

section

variable (answerable : Answerable supervisor.stage supervisor)

include answerable

/-- The loop goes on, and what it has answered stays true. -/
theorem Answerable.resume
    (none : ∀ reason, supervisor.stage = .sourcesOffline reason → supervisor.NoneAnswered)
    (resumed : supervisor.resume = some next) : Answerable next.stage next := by
  unfold ConnectionSupervisor.resume at resumed
  cases stage : supervisor.stage <;> rw [stage] at resumed answerable
  case created =>
    cases resumed
    exact answerable.attempt rfl
  case connecting =>
    cases resumed
    exact answerable.rests rfl (fun _ _ => asks_of_notifyAll) rfl rfl rfl rfl rfl rfl
  case openingTarget target =>
    cases resumed
    exact answerable.onward rfl (fun _ _ asks => asks) rfl rfl rfl rfl rfl rfl rfl
  case abandoning error =>
    have gone : Answerable (.abandoning error)
        ({ supervisor with connection := .none } : ConnectionSupervisor) :=
      answerable.aside (fun _ _ asks => asks) rfl rfl rfl rfl rfl rfl
    cases error with
    | none =>
      cases resumed
      exact gone.clearUp _
    | some error =>
      cases resumed
      exact gone.raises error
  case resolvingManifest session =>
    cases provided : session.manifest with dsimp only at resumed
    | none =>
      rw [provided] at resumed
      cases resumed
      exact answerable.notifyAll.raises _
    | some digest =>
      rw [provided] at resumed
      cases resumed
      exact answerable.onward rfl (fun _ _ => asks_of_notifyAll) rfl rfl rfl rfl rfl rfl rfl
  case storingManifest session digest =>
    cases resumed
    exact answerable.onward rfl (fun _ _ asks => asks) rfl rfl rfl rfl rfl rfl rfl
  case beginning session digest =>
    cases resumed
    exact answerable.onward rfl (fun _ _ asks => asks) rfl rfl rfl rfl rfl rfl rfl
  case restoring session =>
    cases resumed
    exact answerable.onward rfl (fun _ _ => asks_of_notifyAll) rfl rfl rfl rfl rfl rfl rfl
  case startingSources session =>
    cases resumed
    exact answerable.goesOnline
  case goingOnline session =>
    cases resumed
    exact answerable.move (fun _ _ => asks_of_notifyAll) rfl rfl rfl nofun nofun
      fun running => ⟨running, fun _ => ⟨rfl, rfl, rfl⟩⟩
  case online session =>
    obtain ⟨-, ⟨⟩⟩ := ite_none_right_eq_some.mp resumed
    exact answerable.move (fun _ _ asks => asks) rfl rfl rfl nofun nofun
      fun running => ⟨running, fun _ => ⟨rfl, rfl, rfl⟩⟩
  case leaving =>
    cases resumed
    exact answerable.clearUp _
  case inputsOffline reason =>
    cases resumed
    exact answerable.move (fun _ _ asks => asks) rfl rfl rfl nofun nofun
      fun running => ⟨running, fun _ => ⟨rfl, rfl, rfl⟩⟩
  case sourcesOffline reason =>
    cases resumed
    exact answerable.stopping (none reason stage)
  case stoppingSession reason =>
    have stopped : Answerable (.stoppingSession reason)
        ({ supervisor with manifest := .none, buildId := .none } : ConnectionSupervisor) :=
      answerable.aside (fun _ _ asks => asks) rfl rfl rfl rfl rfl rfl
    cases row : supervisor.sessionId with rw [row] at resumed
    | none =>
      cases resumed
      exact stopped.leave rfl
    | some id =>
      cases resumed
      exact stopped.rests rfl (fun _ _ asks => asks) rfl rfl rfl rfl rfl rfl
  case endingSession reason id =>
    cases resumed
    have ended : Answerable (.endingSession reason id) (supervisor.endRobotSession id reason) :=
      answerable.aside (fun _ _ asks => asks) rfl rfl rfl rfl rfl rfl
    exact ended.leave rfl
  case disconnecting =>
    cases resumed
    refine answerable.rests rfl (fun _ _ => asks_of_notifyAll) rfl rfl rfl rfl ?_ ?_
    all_goals
      split_ifs <;> rfl
  case delaying =>
    cases resumed
    exact answerable.attempt rfl
  all_goals exact nomatch resumed

/-! ### Other steps -/

omit answerable in
theorem Answerable.abandon (answerable : Answerable stage supervisor)
    (silent : stage.isAnswering = false) (error : String) :
    Answerable (supervisor.abandon error).stage (supervisor.abandon error) := by
  unfold ConnectionSupervisor.abandon
  split_ifs
  · exact answerable.raises error
  · cases here : supervisor.connection with
    | none => exact answerable.raises _
    | some connection =>
      exact answerable.rests silent (fun _ _ asks => asks) rfl rfl rfl rfl rfl rfl

theorem Answerable.failed {error : String} (failed : supervisor.failed error = some next) :
    Answerable next.stage next := by
  unfold ConnectionSupervisor.failed at failed
  cases stage : supervisor.stage <;> rw [stage] at failed
  case starting target =>
    obtain rfl := some.inj failed
    exact (stage ▸ answerable : Answerable (.starting target) supervisor).abandon rfl error
  all_goals first
    | exact some.inj failed ▸ answerable.raises error
    | exact nomatch failed

/-- A cancellation that spares the finally block answers no call. -/
theorem Answerable.cancelled {swallowed : Bool} (spares : Spares supervisor.stage swallowed)
    (cancelled : supervisor.cancelled swallowed = some next) : Answerable next.stage next := by
  have thrown : Answerable supervisor.stage { supervisor with cancelling := false } :=
    answerable.aside (fun _ _ asks => asks) rfl rfl rfl rfl rfl rfl
  have stopped (silent : supervisor.stage.isAnswering = false) :
      Answerable .finished { supervisor with cancelling := false, stage := .finished } :=
    thrown.rests silent (fun _ _ asks => asks) rfl rfl rfl rfl rfl rfl
  unfold ConnectionSupervisor.cancelled at cancelled
  cases stage : supervisor.stage <;> rw [stage] at cancelled spares <;> dsimp only at cancelled
  case created | disconnecting | delaying =>
    exact some.inj cancelled ▸ stopped (stage ▸ rfl)
  case inputsOffline | endingSession => exact spares.elim
  case sourcesOffline reason =>
    rw [if_pos (show swallowed = true from spares)] at cancelled
    cases cancelled
    rw [← stage]
    exact thrown
  case stoppingSession reason =>
    cases cancelled
    rw [← stage]
    exact thrown
  case startingSources session =>
    cases cancelled
    split_ifs
    · rw [← stage]
      exact thrown
    · exact thrown.clearUp _
  case starting target =>
    cases cancelled
    rw [stage] at thrown
    split
    · exact thrown.rests rfl (fun _ _ asks => asks) rfl rfl rfl rfl rfl rfl
    · exact thrown.abandon rfl _
    · exact thrown.clearUp _
  case finished => exact nomatch cancelled
  all_goals exact some.inj cancelled ▸ thrown.clearUp _

end

section

variable (answerable : Answerable stage supervisor)

include answerable

theorem Answerable.tearDown (still : stage.isUnderway = false) (idle : stage.session? = none)
    (none : supervisor.NoneAnswered) : Answerable stage supervisor.tearDown where
  __ := answerable
  underway going := nomatch still.symm.trans going
  current _ _ same := nomatch idle.symm.trans same
  answered running _ _ asks earlier := absurd earlier (none.not_lt running asks)

/-- A request comes that waits for a later session. -/
theorem Answerable.reconnect (still : stage.isUnderway = false) (idle : stage.session? = none)
    (none : supervisor.NoneAnswered) (number : Nat) :
    Answerable stage (supervisor.reconnect number) := by
  have torn := answerable.tearDown still idle none
  have asked : ∀ generation requested, (supervisor.reconnect number).Asks generation requested →
      supervisor.tearDown.Asks generation requested ∨
        generation = supervisor.onlineGeneration ∧ requested = supervisor.attempts := by
    intro generation requested asks
    refine (asks_of_setCall asks).imp_right ?_
    rintro ⟨made, same, rfl, rfl⟩
    obtain rfl := some.inj same
    exact ⟨rfl, rfl⟩
  exact {
    generation := fun known requested asks =>
      (asked known requested asks).elim (torn.generation known requested)
        fun ⟨same, _⟩ => Nat.le_of_eq same
    requested := fun known requested asks =>
      (asked known requested asks).elim (torn.requested known requested)
        fun ⟨_, same⟩ => Nat.le_of_eq same
    underway := fun going => nomatch still.symm.trans going
    current := fun _ _ same => nomatch idle.symm.trans same
    answered := fun running known requested asks earlier =>
      (asked known requested asks).elim
        (fun old => torn.answered running known requested old earlier)
        fun ⟨same, _⟩ => absurd earlier (same ▸ Nat.lt_irrefl _)
    honest := torn.honest }

/-- A call looks at the generation, and returns if it has changed. -/
theorem Answerable.check (here : supervisor.call? number = some call) :
    Answerable stage (supervisor.check number call) := by
  have returned : Answerable stage (supervisor.setCall number none) :=
    answerable.aside (fun _ _ => asks_of_setCall_none) rfl rfl rfl rfl rfl rfl
  unfold ConnectionSupervisor.check
  split_ifs with answered stop
  · exact returned
  · have running : supervisor.stop = false := Bool.eq_false_iff.mpr stop
    obtain ⟨-, online, session, same, newer⟩ := answerable.answered running _ _
      (asks_of_call here) (answered.resolve_right stop)
    refine { returned with honest := fun answer member => ?_ }
    rcases mem_append.mp member with old | new
    · exact answerable.honest answer old
    · obtain rfl := mem_singleton.mp new
      refine ⟨online, session, ?_, newer⟩
      unfold requireSession
      rw [if_pos online]
      exact same
  · exact answerable.aside (fun _ _ => asks_of_setCall_same here) rfl rfl rfl rfl rfl rfl

end

/-! ### Runs -/

/-- A request does not come while a session is made, a session does not go before the calls that it
answers have returned, and the task is not cancelled before it has ended the row. -/
def Calm (supervisor : ConnectionSupervisor) : ConnectionLabel → Prop
  | .resume =>
      match supervisor.stage with
      | .sourcesOffline _ => supervisor.NoneAnswered
      | _ => True
  | .deliver swallowed => Spares supervisor.stage swallowed
  | .reconnect _ => supervisor.stage.isUnderway = false ∧ supervisor.NoneAnswered
  | _ => True

instance (stage : RunStage) (swallowed : Bool) : Decidable (Spares stage swallowed) := by
  unfold Spares
  split <;> infer_instance

instance (supervisor : ConnectionSupervisor) (label : ConnectionLabel) :
    Decidable (Calm supervisor label) := by
  unfold Calm
  split
  · split <;> infer_instance
  all_goals infer_instance

instance (supervisor : ConnectionSupervisor) (label : ConnectionLabel) :
    Decidable (Orderly supervisor label) := by
  unfold Orderly
  split <;> infer_instance

theorem session?_of_not_underway (still : stage.isUnderway = false) : stage.session? = none := by
  cases stage <;> first | rfl | exact nomatch still

/-- Every calm step keeps the calls answerable. -/
theorem Answerable.step (answerable : Answerable supervisor.stage supervisor)
    {label : ConnectionLabel} (calm : Calm supervisor label)
    (stepped : supervisor.step label = some next) : Answerable next.stage next := by
  cases label with unfold ConnectionSupervisor.step at stepped
  | resume =>
    obtain ⟨-, resumed⟩ := ite_none_left_eq_some.mp stepped
    refine answerable.resume (fun reason stage => ?_) resumed
    unfold Calm at calm
    rw [stage] at calm
    exact calm
  | resolved target =>
    cases stage : supervisor.stage <;> rw [stage] at stepped answerable
    case resolvingTarget =>
      obtain ⟨-, ⟨⟩⟩ := ite_none_left_eq_some.mp stepped
      refine ⟨answerable.generation, fun known requested asks => ?_, fun _ known requested asks => ?_,
        fun _ session same => ?_, fun running known requested asks earlier => ?_, answerable.honest⟩
      · exact Nat.le_succ_of_le (answerable.requested known requested asks)
      · exact Nat.lt_succ_of_le (answerable.requested known requested asks)
      · split_ifs at same <;> exact nomatch same
      · exact nomatch (answerable.answered running known requested asks earlier).1
    all_goals exact nomatch stepped
  | started manifest buildId =>
    cases stage : supervisor.stage <;> rw [stage] at stepped answerable
    case starting target =>
      obtain ⟨-, ⟨⟩⟩ := ite_none_left_eq_some.mp stepped
      refine answerable.move (fun _ _ asks => asks) rfl rfl rfl (fun _ => rfl)
        (fun _ session same => ?_) fun running => ⟨running, nofun⟩
      obtain rfl := some.inj same
      exact ⟨rfl, rfl⟩
    all_goals exact nomatch stepped
  | fail error =>
    obtain ⟨-, failed⟩ := ite_none_left_eq_some.mp stepped
    exact answerable.failed failed
  | deliver swallowed =>
    obtain ⟨-, cancelled⟩ := ite_none_right_eq_some.mp stepped
    exact answerable.cancelled calm cancelled
  | lose attempt =>
    cases stepped
    exact answerable.aside (fun _ _ asks => asks) rfl rfl rfl rfl rfl rfl
  | reconnect number =>
    dsimp only at stepped
    cases free : supervisor.call? number with rw [free] at stepped
    | none =>
      cases stepped
      exact answerable.reconnect calm.1 (session?_of_not_underway calm.1) calm.2 number
    | some call => exact nomatch stepped
  | stopped number =>
    dsimp only at stepped
    split at stepped
    case h_1 generation requested here =>
      cases stepped
      exact answerable.aside (fun _ _ => asks_of_setCall_same here) rfl rfl rfl rfl rfl rfl
    case h_2 => exact nomatch stepped
  | check number =>
    dsimp only at stepped
    cases here : supervisor.call? number with rw [here] at stepped
    | none => exact nomatch stepped
    | some call =>
      obtain ⟨-, ⟨⟩⟩ := ite_none_right_eq_some.mp stepped
      have same : (supervisor.check number call).stage = supervisor.stage := by
        unfold ConnectionSupervisor.check
        split_ifs <;> rfl
      exact same ▸ answerable.check here
  | timeout number =>
    dsimp only at stepped
    cases here : supervisor.call? number with rw [here] at stepped
    | none => exact nomatch stepped
    | some call =>
      obtain ⟨-, ⟨⟩⟩ := ite_none_left_eq_some.mp stepped
      exact answerable.aside (fun _ _ => asks_of_setCall_none) rfl rfl rfl rfl rfl rfl
  | close =>
    cases closing : supervisor.closing <;> rw [closing] at stepped
    case none =>
      cases stepped
      exact ⟨answerable.generation, answerable.requested, answerable.underway, nofun, nofun,
        answerable.honest⟩
    case some => exact nomatch stepped
  | cancel =>
    dsimp only at stepped
    split at stepped
    case h_1 =>
      cases stepped
      exact answerable.aside (fun _ _ asks => asks) rfl rfl rfl rfl rfl rfl
    case h_2 => exact nomatch stepped
  | closed =>
    dsimp only at stepped
    split at stepped
    case h_1 =>
      obtain ⟨finished, ⟨⟩⟩ := ite_none_right_eq_some.mp stepped
      rw [finished] at answerable
      refine ⟨answerable.generation, answerable.requested, ?_, ?_,
        fun running known requested asks earlier => ?_, answerable.honest⟩
      · rw [finished]
        exact nofun
      · rw [finished]
        exact nofun
      · exact nomatch (answerable.answered running known requested asks earlier).1
    case h_2 => exact nomatch stepped

/-- In an orderly run the rows are balanced and an attempt leaves nothing behind; in a calm one
`reconnect` says that the robot is connected only when it is. -/
theorem supervisor_honest (hasFactory : Bool) (supervisor : ConnectionSupervisor) :
    (connectionMachine.ReachableWhere Orderly { hasFactory } supervisor → supervisor.Balanced ∧
      (supervisor.cancelling = false → supervisor.stage.isEnding = true →
        connectionMachine.Leads (· = .resume)
          (fun final => final.stage.isOver = true ∧ final.Balanced) supervisor)) ∧
    (connectionMachine.ReachableWhere Calm { hasFactory } supervisor →
      ∀ answer ∈ supervisor.answers, Honest answer) := by
  constructor
  · intro reached
    have kept := reached.invariant Kept (kept_start hasFactory)
      fun _ _ _ kept orderly stepped => kept.step orderly stepped
    exact ⟨kept.balanced, kept.leads⟩
  · intro reached
    have answerable := reached.invariant
      (fun supervisor => Answerable supervisor.stage supervisor)
      ⟨nofun, nofun, nofun, nofun, nofun, nofun⟩
      fun _ _ _ answerable calm stepped => answerable.step calm stepped
    exact answerable.honest

/-! ### Two runs -/

/-- From the start of the loop until the session is online. -/
def onlineLabels : List ConnectionLabel :=
  [.resume, .resume, .resolved "robot", .resume, .started (some 7) (some 1), .resume, .resume,
    .resume, .resume, .resume, .resume]

/-- A request comes while the session is online, and a second session answers it. -/
def reconnectedLabels : List ConnectionLabel :=
  onlineLabels ++ [.reconnect 0, .stopped 0, .check 0, .resume, .resume, .resume, .resume, .resume,
    .resume, .resume] ++ onlineLabels ++ [.check 0]

theorem reconnected_run :
    (connectionMachine.run { hasFactory := false } reconnectedLabels).isSome = true := by
  decide +kernel

def reconnected : ConnectionSupervisor :=
  (connectionMachine.run { hasFactory := false } reconnectedLabels).get reconnected_run

theorem supervisor_honest_reconnected :
    reconnected.answers.length = 1 ∧ reconnected.endings = [1] ∧ reconnected.taggedId = some 2 ∧
      reconnected.Balanced ∧ ∀ answer ∈ reconnected.answers, Honest answer :=
  have holds := supervisor_honest false reconnected
  ⟨by decide +kernel, by decide +kernel, by decide +kernel,
    (holds.1 (connectionMachine.reachableWhere_get Orderly _ reconnectedLabels (by decide +kernel)
      reconnected_run)).1,
    holds.2 (connectionMachine.reachableWhere_get Calm _ reconnectedLabels (by decide +kernel)
      reconnected_run)⟩

/-- A request comes while a session is restored. -/
def tornLabels : List ConnectionLabel :=
  [.resume, .resume, .resolved "robot", .resume, .started (some 7) (some 1), .resume, .resume,
    .resume, .reconnect 0, .stopped 0, .check 0, .resume, .resume, .resume, .check 0]

theorem torn_run : (connectionMachine.run { hasFactory := false } tornLabels).isSome = true := by
  decide +kernel

/-- The supervisor is closed, and the task is cancelled when it is about to end the row. -/
def unendedLabels : List ConnectionLabel :=
  onlineLabels ++ [.close, .resume, .resume, .resume, .resume, .resume, .cancel, .deliver false]

theorem unended_run :
    (connectionMachine.run { hasFactory := false } unendedLabels).isSome = true := by
  decide +kernel

theorem supervisor_dishonest :
    (∃ supervisor, connectionMachine.Reachable { hasFactory := false } supervisor ∧
      supervisor.state = .online ∧
        ∃ answer ∈ supervisor.answers, answer.required = none ∧ ¬ Honest answer) ∧
    ∃ supervisor, connectionMachine.Reachable { hasFactory := false } supervisor ∧
      supervisor.stage = .finished ∧ supervisor.endings = [] ∧
        ∃ row ∈ supervisor.rows, row.isOpen = true ∧ supervisor.taggedId = some row.id := by
  refine ⟨⟨_, connectionMachine.reachable_get _ tornLabels torn_run, by decide +kernel, ?_⟩,
    ⟨_, connectionMachine.reachable_get _ unendedLabels unended_run, by decide +kernel,
      by decide +kernel, by decide +kernel⟩⟩
  refine ⟨⟨.online, some "robot", some 1, 1, none⟩, by decide +kernel, rfl, ?_⟩
  rintro ⟨-, session, none, -⟩
  exact nomatch none

end Solar.Station.ConnectionSupervisor
