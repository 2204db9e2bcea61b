/-
This file proves when the asynchronous session keeps its requests and answers
apart. The dictionary of pending requests holds the calls that wait for their
answer, and an answer goes to the call whose id it carries.

Three things break it. A call that fails in its first flush leaves its entry
behind. An answer that comes between the cancellation of a future and the removal
of its entry ends the read loop. And the ids begin anew after a session reset,
while the entries and the answers of the old session may still be there.
-/

import Solar.Remote.Session.State

namespace Solar.Remote.Session

open Option Function

open Client (Message)

/-! ### Calls and their entries -/

namespace Call

section

variable (call : Call)

/-- A call has a message once its future is set to it. -/
def Has (message : Message) : Prop :=
  call.future = .result message ∨ call.stage = .acknowledging message ∨
    call.stage = .returned message

/-- A call is in progress before `wait_for` has ended. -/
def InProgress : Prop := call.stage = .sending ∨ call.stage = .awaiting

/-- The answer of a call carries the id and the epoch of its request. -/
def Owns (message : Message) : Prop :=
  message.envelope.requestId = call.request ∧ message.envelope.sessionEpoch = call.epoch

/-- A call that a message answers. -/
def Awaits (message : Message) : Prop :=
  call.Owns message ∧ call.InProgress ∧ call.future = .waiting

end

end Call

variable {Value : Type}

namespace AsyncSession

/-- The read loop has not ended. -/
def Running (session : AsyncSession Value) : Prop := ∀ ending, session.reader ≠ .ended ending

/-- What holds of a call with a number. -/
structure Fits (session : AsyncSession Value) (number : Nat) (call : Call) : Prop where
  own : ∀ message, call.Has message → call.Owns message
  listed : session.pending call.request = some number →
    call.InProgress ∧ (call.future = .waiting ∨ call.future = .cancelled)
  entered : call.InProgress → call.future = .waiting → session.pending call.request = some number
  expired : session.Running → call.InProgress → call.future = .cancelled →
    session.pending call.request = some number

end AsyncSession

/-- Requests and answers are kept apart: each call that has a message has its own, the entries are
those of the calls in progress that wait, and no answer has ended the read loop. -/
structure Correlated {Value : Type} (session : AsyncSession Value) : Prop where
  keyed : ∀ request number, session.pending request = some number →
    (session.calls number).request = request
  fits : ∀ number, session.Fits number (session.calls number)
  alive : session.reader ≠ .ended .invalidState

/-- `resume` takes the entry of the call away. -/
def Call.withdraws (call : Call) : Bool :=
  match call.future, call.interrupted with
  | .result _, false => false
  | _, _ => true

namespace AsyncSession

variable (session : AsyncSession Value)

/-- An answer that finds an entry finds a future that is not done, of a request of its session. -/
def admits (message : Message) : Bool :=
  match session.pending message.envelope.requestId with
  | none => true
  | some number =>
      (session.calls number).future = .waiting ∧
        message.envelope.sessionEpoch = (session.calls number).epoch

/-- The steps that keep requests and answers apart. -/
def correlates : Label → Bool
  | .start _ _ => session.pending (session.core.requestId + 1) = none
  | .flushed call false =>
      (session.calls call).stage = .sending →
        session.pending (session.calls call).request ≠ some call
  | .resume call =>
      (session.calls call).withdraws = false ∨ session.pending (session.calls call).request = none ∨
          session.pending (session.calls call).request = some call
  | .handle =>
      match session.reader with
      | .handling (message :: _) =>
          answers message = false ∨ message.envelope.requestId = 0 ∨ session.admits message
      | _ => true
  | _ => true

end AsyncSession

/-! ### What a step changes -/

section

variable {session next : AsyncSession Value}

theorem Correlated.of_same (kept : Correlated session) (calls : next.calls = session.calls)
    (pending : next.pending = session.pending) (running : next.Running → session.Running)
    (alive : next.reader ≠ .ended .invalidState) : Correlated next where
  keyed request number listed := by
    rw [calls]
    exact kept.keyed request number (pending ▸ listed)
  fits number := by
    rw [calls]
    exact ⟨(kept.fits number).own, pending ▸ (kept.fits number).listed,
      pending ▸ (kept.fits number).entered,
      fun runs => pending ▸ (kept.fits number).expired (running runs)⟩
  alive

variable {number : Nat} {message : Message} {decode : Nat → Bytes → Option Value} {call : Call}

section

variable (kept : Correlated session)

include kept

section

variable (calls : next.calls = update session.calls number call)

include calls

/-- A step of one call that leaves the entries alone. -/
theorem Correlated.of_call (pending : next.pending = session.pending)
    (reader : next.reader = session.reader)
    (request : call.request = (session.calls number).request) (fits : session.Fits number call) :
    Correlated next := by
  have running : next.Running → session.Running := fun runs ending => reader ▸ runs ending
  refine ⟨?_, ?_, reader ▸ kept.alive⟩
  · intro wanted other listed
    rw [pending] at listed
    rw [calls]
    by_cases same : other = number
    · subst same
      rw [update_self, request]
      exact kept.keyed wanted other listed
    · rw [update_of_ne same]
      exact kept.keyed wanted other listed
  · intro other
    rw [calls]
    by_cases same : other = number
    · subst same
      rw [update_self]
      exact ⟨fits.own, pending ▸ fits.listed, pending ▸ fits.entered,
        fun runs => pending ▸ fits.expired (running runs)⟩
    · rw [update_of_ne same]
      have before := kept.fits other
      exact ⟨before.own, pending ▸ before.listed, pending ▸ before.entered,
        fun runs => pending ▸ before.expired (running runs)⟩

/-- A step of one call that changes an entry that is no other's. -/
theorem Correlated.of_entry {wanted : UInt32} {entry : Option Nat}
    (pending : next.pending = update session.pending wanted entry)
    (reader : next.reader = session.reader)
    (alone : ∀ other, session.pending wanted = some other → other = number)
    (entered : ∀ other, entry = some other → other = number ∧ call.request = wanted)
    (elsewhere : ∀ request, request ≠ wanted → session.pending request = some number →
      call.request = request)
    (fits : next.Fits number call) : Correlated next := by
  have running : next.Running → session.Running := fun runs ending => reader ▸ runs ending
  refine ⟨fun request other listed => ?_, fun other => ?_, reader ▸ kept.alive⟩ <;> rw [calls]
  · rw [pending] at listed
    by_cases same : request = wanted
    · subst same
      rw [update_self] at listed
      obtain ⟨rfl, own⟩ := entered other listed
      rw [update_self, own]
    · rw [update_of_ne same] at listed
      by_cases self : other = number
      · subst self
        rw [update_self, elsewhere request same listed]
      · rw [update_of_ne self]
        exact kept.keyed request other listed
  · by_cases self : other = number
    · subst self
      rw [update_self]
      exact fits
    · rw [update_of_ne self]
      have before := kept.fits other
      have stays (listed : session.pending (session.calls other).request = some other) :
          next.pending (session.calls other).request = some other := by
        rw [pending, update_of_ne, listed]
        exact fun same => self (alone other (same ▸ listed))
      refine ⟨before.own, fun listed => before.listed ?_,
        fun active waits => stays (before.entered active waits),
        fun runs active cancelled => stays (before.expired (running runs) active cancelled)⟩
      rw [pending] at listed
      by_cases same : (session.calls other).request = wanted
      · rw [same, update_self] at listed
        exact absurd (entered other listed).1 self
      · rwa [update_of_ne same] at listed

/-- A step of one call that takes its entry away, or the entry under its id that is no other's. -/
theorem Correlated.of_withdrawn
    (pending : next.pending = update session.pending (session.calls number).request none)
    (reader : next.reader = session.reader)
    (request : call.request = (session.calls number).request)
    (alone : ∀ other, session.pending (session.calls number).request = some other → other = number)
    (own : ∀ message, call.Has message → call.Owns message)
    (finished : call.InProgress → call.future ≠ .waiting ∧ call.future ≠ .cancelled) :
    Correlated next := by
  refine kept.of_entry calls pending reader alone nofun (fun wanted differ listed => ?_)
    ⟨own, fun listed => ?_, fun active waits => absurd waits (finished active).1,
      fun _ active cancelled => absurd cancelled (finished active).2⟩
  · exact absurd (kept.keyed wanted number listed).symm differ
  · rw [pending, request, update_self] at listed
    cases listed

end

/-- A call begins under an id that has no entry. -/
theorem Correlated.of_started (absent : (session.calls number).stage = .absent)
    (free : session.pending call.request = none)
    (begun : call.stage = .sending ∧ call.future = .waiting)
    (calls : next.calls = update session.calls number call)
    (pending : next.pending = update session.pending call.request (some number))
    (reader : next.reader = session.reader) : Correlated next := by
  have entry : next.pending call.request = some number := by
    rw [pending, update_self]
  refine kept.of_entry calls pending reader (fun other listed => nomatch free.symm.trans listed)
    (fun other same => ⟨(some.inj same).symm, rfl⟩) (fun wanted _ listed => ?_)
    ⟨?_, fun _ => ⟨.inl begun.1, .inl begun.2⟩, fun _ _ => entry, fun _ _ _ => entry⟩
  · rw [← kept.keyed wanted number listed] at listed
    obtain sending | awaiting := ((kept.fits number).listed listed).1
    · exact Stage.noConfusion (absent.symm.trans sending)
    · exact Stage.noConfusion (absent.symm.trans awaiting)
  · rintro message (result | acknowledging | returned)
    · exact Future.noConfusion (begun.2.symm.trans result)
    · exact Stage.noConfusion (begun.1.symm.trans acknowledging)
    · exact Stage.noConfusion (begun.1.symm.trans returned)

/-- The read loop ends. -/
theorem Correlated.close {ending : Ending} (cause : ending ≠ .invalidState) :
    Correlated (session.close ending) where
  keyed _ _ listed := nomatch listed
  fits number := by
    have before := kept.fits number
    refine ⟨?_, nofun, ?_, fun runs => absurd rfl (runs ending)⟩
    · intro message has
      simp only [AsyncSession.close] at has ⊢
      split at has
      · rename_i listed
        rw [if_pos listed]
        refine before.own message ?_
        rcases has with result | later
        · refine .inl ?_
          obtain waiting | cancelled := (before.listed listed).2
          · rw [waiting] at result
            cases result
          · rw [cancelled] at result
            cases result
        · exact .inr later
      · rename_i unlisted
        rw [if_neg unlisted]
        exact before.own message has
    · intro active waits
      exfalso
      simp only [AsyncSession.close] at active waits
      split at waits
      · cases future : (session.calls number).future <;> rw [future] at waits <;> cases waits
      · rename_i unlisted
        rw [if_neg unlisted] at active
        exact unlisted (before.entered active waits)
  alive same := cause (Reader.ended.inj same)

end

/-! ### Stages -/

section

variable (fits : session.Fits number call)

include fits

theorem AsyncSession.Fits.of_stage {stage : Stage}
    (progress : ({ call with stage } : Call).InProgress ↔ call.InProgress)
    (shown : ∀ message, ({ call with stage } : Call).Has message → call.Has message) :
    session.Fits number { call with stage } where
  own message has := fits.own message (shown message has)
  listed listed := ⟨progress.mpr (fits.listed listed).1, (fits.listed listed).2⟩
  entered active := fits.entered (progress.mp active)
  expired runs active := fits.expired runs (progress.mp active)

theorem AsyncSession.Fits.of_end {stage : Stage}
    (unlisted : session.pending call.request ≠ some number)
    (ended : stage ≠ .sending ∧ stage ≠ .awaiting)
    (shown : ∀ message, stage = .acknowledging message ∨ stage = .returned message →
      call.Has message) :
    session.Fits number { call with stage } where
  own message has := by
    rcases has with result | shows
    · exact fits.own message (.inl result)
    · exact fits.own message (shown message shows)
  listed listed := absurd listed unlisted
  entered active := (active.elim ended.1 ended.2).elim
  expired _ active := (active.elim ended.1 ended.2).elim

theorem AsyncSession.Fits.of_raised (unlisted : session.pending call.request ≠ some number) :
    session.Fits number { call with stage := .raised } :=
  fits.of_end unlisted ⟨nofun, nofun⟩ nofun

end

theorem Correlated.setStage (kept : Correlated session) {stage : Stage}
    (fits : session.Fits number { session.calls number with stage }) :
    Correlated (session.setStage number stage) :=
  kept.of_call rfl rfl rfl rfl fits

theorem register_same :
    (session.register number message).calls = session.calls ∧
      (session.register number message).pending = session.pending ∧
      (session.register number message).reader = session.reader := by
  unfold AsyncSession.register
  split
  · exact ⟨rfl, rfl, rfl⟩
  · split
    · exact ⟨rfl, rfl, rfl⟩
    · exact ⟨rfl, rfl, rfl⟩
    · split <;> exact ⟨rfl, rfl, rfl⟩

section

variable (kept : Correlated session)

include kept

theorem Correlated.finish
    (fits : session.Fits number { session.calls number with stage := .returned message }) :
    Correlated (session.finish number message) := by
  obtain ⟨calls, pending, reader⟩ :=
    register_same
  refine (kept.setStage fits).of_same calls pending ?_ ?_
  · exact fun runs ending => reader ▸ runs ending
  · exact fun ended => kept.alive (reader ▸ ended)

theorem Correlated.unlisted (idle : ¬ (session.calls number).InProgress) :
    session.pending (session.calls number).request ≠ some number :=
  fun listed => idle ((kept.fits number).listed listed).1

theorem Correlated.flushed {sent : Bool}
    (correlates : session.correlates (.flushed number sent) = true)
    (stepped : session.flushed number sent = some next) : Correlated next := by
  simp only [AsyncSession.flushed] at stepped
  have fits := kept.fits number
  cases stage : (session.calls number).stage with rw [stage] at stepped
  | sending =>
    cases stepped
    cases sent with
    | true =>
      refine kept.setStage (fits.of_stage ⟨fun _ => .inl stage, fun _ => .inr rfl⟩ ?_)
      exact fun message has => .inl (has.resolve_right (by simp))
    | false => exact kept.setStage (fits.of_raised (of_decide_eq_true correlates stage))
  | withdrawing =>
    cases stepped
    exact kept.setStage (fits.of_raised (kept.unlisted (by simp [Call.InProgress, stage])))
  | acknowledging message =>
    cases stepped
    have unlisted : session.pending (session.calls number).request ≠ some number :=
      kept.unlisted (by simp [Call.InProgress, stage])
    cases sent with
    | true =>
      refine kept.finish (fits.of_end unlisted (by simp) ?_)
      rintro other (acknowledging | returned)
      · cases acknowledging
      · cases returned
        exact .inr (.inl stage)
    | false => exact kept.setStage (fits.of_raised unlisted)
  | absent | awaiting | returned | raised => cases stepped

theorem Correlated.unlisted_of_result (result : (session.calls number).future = .result message) :
    session.pending (session.calls number).request ≠ some number := by
  intro listed
  obtain waiting | cancelled := ((kept.fits number).listed listed).2
  · cases result.symm.trans waiting
  · cases result.symm.trans cancelled

theorem Correlated.expire (stage : (session.calls number).stage = .awaiting) :
    Correlated (session.expire number) := by
  have fits := kept.fits number
  unfold AsyncSession.expire
  split
  · rename_i waits
    have listed := fits.entered (.inr stage) waits
    refine kept.of_call rfl rfl rfl rfl
      ⟨?_, fun _ => ⟨.inr stage, .inr rfl⟩, nofun, fun _ _ _ => listed⟩
    exact fun message has => fits.own message (.inr (has.resolve_left nofun))
  · exact kept.of_call rfl rfl rfl rfl ⟨fits.own, fits.listed, fits.entered, fits.expired⟩

/-- A call that goes on keeps its own answer. -/
theorem Correlated.resume (correlates : session.correlates (.resume number) = true) :
    Correlated (session.resume number) := by
  have fits := kept.fits number
  unfold AsyncSession.resume
  split
  · rename_i message result _
    have unlisted := kept.unlisted_of_result result
    have has : (session.calls number).Has message := .inl result
    split
    · exact kept.setStage (fits.of_raised unlisted)
    · split
      · refine kept.setStage (fits.of_end unlisted (by simp) ?_)
        rintro other (acknowledging | returned)
        · cases acknowledging
          exact has
        · cases returned
      · refine kept.finish (fits.of_end unlisted (by simp) ?_)
        rintro other (acknowledging | returned)
        · cases acknowledging
        · cases returned
          exact has
  · rename_i failed
    have withdraws : (session.calls number).withdraws = true := by
      unfold Call.withdraws
      split
      · rename_i message result kept
        exact (failed message result kept).elim
      · rfl
    have alone : session.pending (session.calls number).request = none ∨
        session.pending (session.calls number).request = some number := by
      simpa only [AsyncSession.correlates, withdraws, Bool.true_eq_false, false_or,
        decide_eq_true_eq] using correlates
    refine kept.of_withdrawn rfl rfl rfl rfl ?_ ?_ (by simp [Call.InProgress])
    · intro other listed
      rcases alone with none | own
      · cases none.symm.trans listed
      · exact some.inj (listed.symm.trans own)
    · exact fun message has => fits.own message (.inl (has.resolve_right (by simp)))

end

/-! ### Messages -/

section

variable (kept : Correlated session)

include kept

theorem Correlated.handleAnswer
    (admits : message.envelope.requestId = 0 ∨ session.admits message = true) :
    Correlated (session.handleAnswer message).1 ∧ (session.handleAnswer message).2 = none ∧
      (session.handleAnswer message).1.reader = session.reader := by
  unfold AsyncSession.handleAnswer
  split
  · exact ⟨kept, rfl, rfl⟩
  · rename_i nonzero
    have admitted := admits.resolve_left nonzero
    unfold AsyncSession.admits at admitted
    cases listed : session.pending message.envelope.requestId with
    | none => exact ⟨kept, rfl, rfl⟩
    | some number =>
      rw [listed] at admitted
      obtain ⟨waits, epoch⟩ := of_decide_eq_true admitted
      have request := kept.keyed _ _ listed
      have undone : ¬ (session.calls number).future.done = true := by
        rw [waits]
        exact Bool.false_ne_true
      simp only [if_neg undone]
      refine ⟨kept.of_withdrawn rfl (request ▸ rfl) rfl rfl ?_ ?_ ?_, trivial, rfl⟩
      · intro other found
        rw [request] at found
        exact some.inj (found.symm.trans listed)
      · rintro other (result | later)
        · cases result
          exact ⟨request.symm, epoch⟩
        · exact (kept.fits number).own other (.inr later)
      · exact fun _ => ⟨nofun, nofun⟩

omit kept in
theorem AsyncSession.dispatch_answer (answer : answers message = true) :
    session.dispatch decode message = session.handleAnswer message := by
  obtain ⟨data, credit, closed⟩ := of_decide_eq_true answer
  rw [AsyncSession.dispatch, if_neg data, if_neg credit, if_neg closed]

omit kept in
/-- The messages that are no answers touch neither the calls nor their entries. -/
theorem dispatch_same (other : answers message = false) :
    (session.dispatch decode message).1.calls = session.calls ∧
      (session.dispatch decode message).1.pending = session.pending ∧
      (session.dispatch decode message).1.reader = session.reader ∧
      (session.dispatch decode message).2 ≠ some .invalidState := by
  unfold AsyncSession.dispatch
  split
  · unfold AsyncSession.handleData
    split
    · exact ⟨rfl, rfl, rfl, nofun⟩
    · split
      · exact ⟨rfl, rfl, rfl, nofun⟩
      · refine ⟨rfl, rfl, rfl, ?_⟩
        dsimp only
        split <;> exact nofun
  · split
    · unfold AsyncSession.handleCredit
      split <;> exact ⟨rfl, rfl, rfl, nofun⟩
    · split
      · unfold AsyncSession.handleClosed
        split
        · exact ⟨rfl, rfl, rfl, nofun⟩
        · dsimp only
          split <;> exact ⟨rfl, rfl, rfl, nofun⟩
      · rename_i data credit closed
        simp only [answers, ne_eq, data, not_false_eq_true, credit, closed, and_self, decide_true,
          Bool.true_eq_false] at other

theorem Correlated.continueWith (running : session.Running) (messages : List Message) :
    Correlated (session.continueWith messages) := by
  refine kept.of_same rfl rfl (fun _ => running) ?_
  unfold AsyncSession.continueWith
  split <;> exact nofun

theorem Correlated.handle {rest : List Message}
    (handling : session.reader = .handling (message :: rest))
    (correlates : session.correlates .handle = true) :
    Correlated (session.handle decode message rest) := by
  have running : session.Running := fun ending ended => Reader.noConfusion (handling.symm.trans ended)
  have dispatched : Correlated (session.dispatch decode message).1 ∧
      (session.dispatch decode message).2 ≠ some .invalidState ∧
      (session.dispatch decode message).1.reader = session.reader := by
    cases answer : answers message with
    | false =>
      obtain ⟨calls, pending, reader, ending⟩ := dispatch_same answer
      exact ⟨kept.of_same calls pending (fun runs other => reader ▸ runs other)
        (reader ▸ kept.alive), ending, reader⟩
    | true =>
      rw [AsyncSession.dispatch_answer answer]
      have admits : message.envelope.requestId = 0 ∨ session.admits message = true := by
        simpa only [AsyncSession.correlates, handling, answer, Bool.true_eq_false, false_or,
          decide_eq_true_eq] using correlates
      obtain ⟨next, none, reader⟩ := kept.handleAnswer admits
      exact ⟨next, none ▸ nofun, reader⟩
  obtain ⟨after, ending, reader⟩ := dispatched
  unfold AsyncSession.handle
  split
  · rename_i continued none
    rw [none] at after reader
    exact after.continueWith (fun other => reader ▸ running other) rest
  · rename_i stopped cause
    rw [cause] at after ending
    exact after.close fun same => ending (same ▸ rfl)

/-! ### Runs -/

/-- Every step keeps each pending request with the call that made it. -/
theorem Correlated.step {label : Label} (correlates : session.correlates label = true)
    (stepped : session.step decode label = some next) : Correlated next := by
  have touched (calls : next.calls = session.calls) (pending : next.pending = session.pending)
      (reader : next.reader = session.reader) : Correlated next :=
    kept.of_same calls pending (fun runs ending => reader ▸ runs ending) (reader ▸ kept.alive)
  cases label with simp only [AsyncSession.step] at stepped
  | receive messages =>
    split at stepped
    · rename_i receiving
      cases stepped
      unfold AsyncSession.receive
      split
      · exact kept.close nofun
      · rename_i core _
        have taken : Correlated { session with core } := kept.of_same rfl rfl id kept.alive
        refine taken.continueWith ?_ messages
        exact fun ending ended => Reader.noConfusion (receiving.symm.trans ended)
    · cases stepped
  | handle =>
    split at stepped
    · rename_i message rest handling
      cases stepped
      exact kept.handle handling correlates
    · cases stepped
  | readerFlushed =>
    split at stepped
    · rename_i flushing
      cases stepped
      refine kept.of_same rfl rfl ?_ nofun
      exact fun _ ending ended => Reader.noConfusion (flushing.symm.trans ended)
    · cases stepped
  | disconnect =>
    split at stepped
    · cases stepped
      exact kept.close nofun
    · cases stepped
  | start number purpose =>
    split at stepped
    · cases stepped
    · split at stepped
      · rename_i absent
        cases stepped
        have unlisted := of_decide_eq_true correlates
        exact kept.of_started absent.1 unlisted ⟨rfl, rfl⟩ rfl rfl rfl
      · cases stepped
  | flushed number sent =>
    split at stepped
    · cases stepped
    · exact kept.flushed correlates stepped
  | expire number =>
    split at stepped
    · cases stepped
    · split at stepped
      · rename_i awaiting
        cases stepped
        exact kept.expire awaiting
      · cases stepped
  | resume number =>
    split at stepped
    · cases stepped
    · split at stepped
      · cases stepped
        exact kept.resume correlates
      · cases stepped
  | take number | closeSubscription number =>
    split at stepped
    · cases stepped
    · simp only [AsyncSession.take, AsyncSession.closeSubscription] at stepped
      split at stepped
      · split at stepped
        · cases stepped
        · cases stepped
          exact touched rfl rfl rfl
      · cases stepped
  | send number | wake number | giveUp number =>
    split at stepped
    · cases stepped
    · obtain ⟨stream, _, acted⟩ := bind_eq_some_iff.mp stepped
      split at acted
      · cases acted
        exact touched rfl rfl rfl
      · cases acted
  | release number =>
    split at stepped
    · cases stepped
    · obtain ⟨stream, _, acted⟩ := bind_eq_some_iff.mp stepped
      cases acted
      exact touched rfl rfl rfl
  | stop =>
    split at stepped
    · cases stepped
    · cases stepped
      exact touched rfl rfl rfl

omit kept in
theorem correlated_initial : Correlated ({} : AsyncSession Value) where
  keyed _ _ listed := nomatch listed
  fits _ := ⟨nofun, nofun, nofun, fun _ => nofun⟩
  alive := nofun

omit kept in
/-- What a message does that is taken for an answer: it changes the call that awaits it, and no
other, and the read loop goes on. -/
structure AnswersAlone (session : AsyncSession Value) (message : Message)
    (next : AsyncSession Value) : Prop where
  running : next.Running
  others : ∀ number, ¬ (session.calls number).Awaits message →
    next.calls number = session.calls number
  entries : ∀ request, (∀ number, session.pending request = some number →
    ¬ (session.calls number).Awaits message) → next.pending request = session.pending request

/-- An answer changes the call that awaits it and the entry of that call. -/
theorem Correlated.handleAnswer_others
    (admits : message.envelope.requestId = 0 ∨ session.admits message = true) :
    (∀ number, ¬ (session.calls number).Awaits message →
        (session.handleAnswer message).1.calls number = session.calls number) ∧
      ∀ request, (∀ number, session.pending request = some number →
        ¬ (session.calls number).Awaits message) →
        (session.handleAnswer message).1.pending request = session.pending request := by
  unfold AsyncSession.handleAnswer
  split
  · exact ⟨fun _ _ => rfl, fun _ _ => rfl⟩
  · rename_i nonzero
    have admitted := admits.resolve_left nonzero
    unfold AsyncSession.admits at admitted
    cases listed : session.pending message.envelope.requestId with
    | none => exact ⟨fun _ _ => rfl, fun _ _ => rfl⟩
    | some found =>
      rw [listed] at admitted
      obtain ⟨waits, epoch⟩ := of_decide_eq_true admitted
      have request := kept.keyed _ _ listed
      have undone : ¬ (session.calls found).future.done = true := by
        rw [waits]
        exact Bool.false_ne_true
      have progress := ((kept.fits found).listed (request ▸ listed)).1
      have awaits : (session.calls found).Awaits message :=
        ⟨⟨request.symm, epoch⟩, progress, waits⟩
      simp only [if_neg undone]
      constructor
      · intro number other
        refine update_of_ne ?_ _ _
        rintro rfl
        exact other awaits
      · intro wanted other
        refine update_of_ne ?_ _ _
        rintro rfl
        exact other found listed awaits

theorem Correlated.answersAlone {rest : List Message}
    (handling : session.reader = .handling (message :: rest)) (answer : answers message = true)
    (correlates : session.correlates .handle = true)
    (stepped : session.step decode .handle = some next) : AnswersAlone session message next := by
  have admits : message.envelope.requestId = 0 ∨ session.admits message = true := by
    simpa only [AsyncSession.correlates, handling, answer, Bool.true_eq_false, false_or,
      decide_eq_true_eq] using correlates
  have goesOn : session.handle decode message rest =
      (session.handleAnswer message).1.continueWith rest := by
    rw [AsyncSession.handle, AsyncSession.dispatch_answer answer,
      ← Prod.mk.eta (p := session.handleAnswer message), (kept.handleAnswer admits).2.1]
  simp only [AsyncSession.step, handling, goesOn, some.injEq] at stepped
  subst stepped
  obtain ⟨others, entries⟩ := kept.handleAnswer_others admits
  refine ⟨?_, others, entries⟩
  intro ending
  unfold AsyncSession.continueWith
  split <;> exact nofun

end

/-- In every run whose steps keep them apart, a call that has a message has the answer to its own
request, the entries are those of the calls that wait, and an answer that comes late leaves the
read loop and the other calls alone. -/
theorem exchanges_correlate (decode : Nat → Bytes → Option Value)
    (reached : (machine decode).ReachableWhere
      (fun session label => session.correlates label = true) {} session) :
    Correlated session ∧ ∀ message rest next, session.reader = .handling (message :: rest) →
        answers message = true → session.correlates .handle = true →
        session.step decode .handle = some next → AnswersAlone session message next := by
  have kept : Correlated session := reached.invariant Correlated correlated_initial
    fun _ _ _ kept correlates stepped => kept.step correlates stepped
  exact ⟨kept, fun _ _ _ handling answer correlates stepped =>
    kept.answersAlone handling answer correlates stepped⟩

end

/-! ### Runs of one session -/

/-- A codec that leaves bytes as they are. -/
abbrev rawCodec : Nat → Bytes → Option Bytes := fun _ bytes => some bytes

/-- A response to a request of the first epoch. -/
abbrev responseTo (request : UInt32) (payload : Bytes) : Message where
  envelope := { kind := Kind.response.code, requestId := request }
  payloadSize := payload.length
  payload

/-- Two calls, the first times out, is cleaned up and answered late, the second is answered. -/
def lateAnswer : List Label :=
  [.start 0 .plain, .flushed 0 true, .start 1 .plain, .flushed 1 true, .expire 0, .resume 0,
    .receive [responseTo 1 [], responseTo 2 []], .handle, .handle]

theorem exchanges_correlate_late :
    ∃ session, (machine rawCodec).run {} lateAnswer = some session ∧ Correlated session ∧
      (session.calls 1).future = .result (responseTo 2 []) :=
  ⟨((machine rawCodec).run {} lateAnswer).get rfl, rfl, (exchanges_correlate rawCodec
      ((machine rawCodec).reachableWhere_get _ {} lateAnswer (by decide) rfl)).1, rfl⟩

/-- The answer comes between the cancellation of the future and the cleanup. -/
def answerBeforeCleanup : List Label :=
  [.start 0 .plain, .flushed 0 true, .expire 0, .receive [responseTo 1 []], .handle]

/-- The flush that sends the request raises. -/
def raisesInFlush : List Label := [.start 0 .plain, .flushed 0 false]

theorem exchanges_miscorrelate :
    (∃ session, (machine rawCodec).run {} answerBeforeCleanup = some session ∧
        session.reader = .ended .invalidState ∧ ¬ Correlated session) ∧
      ∃ session, (machine rawCodec).run {} raisesInFlush = some session ∧
        (session.calls 0).stage = .raised ∧ session.pending 1 = some 0 ∧ ¬ Correlated session := by
  refine ⟨⟨((machine rawCodec).run {} answerBeforeCleanup).get rfl, rfl, rfl, ?_⟩,
    ⟨((machine rawCodec).run {} raisesInFlush).get rfl, rfl, rfl, rfl, ?_⟩⟩
  · exact fun kept => kept.alive rfl
  · exact fun kept => ((kept.fits 0).listed rfl).1.elim nofun nofun

end Solar.Remote.Session
