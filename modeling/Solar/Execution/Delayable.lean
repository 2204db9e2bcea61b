/-
This file models a delayable registration: a work item of the kernel with one
timer, as the kernel documents it, and the calls by which a facility schedules
and cancels it.

A rescheduled item gives up the timer it had first. A submission is refused while
a cancel of the running item is not finished, and the timer that runs out in that
time is lost with it. A cancel takes the item out of the queue and stops the
timer, but the handler that is running goes on.
-/

namespace Solar.Execution

/-- A delayable work item: the time its timer runs out, and the flags of the kernel. -/
structure DelayableWork where
  delayed : Option Nat := none
  queued : Bool := false
  running : Bool := false
  canceling : Bool := false

namespace DelayableWork

variable (work : DelayableWork)

/-- Whether the kernel takes a submission. An item that is queued already stays so; another one
needs the queue's consent. -/
def accepts (granted : Bool) : Bool := !work.canceling && (work.queued || granted)

/-- `reschedule`, with whether it succeeds. -/
def reschedule (granted : Bool) (now delay : Nat) : DelayableWork × Bool :=
  if delay = 0 then
    if work.accepts granted then ({ work with delayed := none, queued := true }, true)
    else ({ work with delayed := none }, false)
  else ({ work with delayed := some (now + delay) }, true)

/-- `cancel`. -/
def cancel : DelayableWork :=
  { work with delayed := none, queued := false, canceling := work.canceling || work.running }

/-- The timer runs out. -/
def expire (granted : Bool) : DelayableWork :=
  { work with delayed := none, queued := work.queued || work.accepts granted }

/-- The queue takes the item and calls its handler. -/
def start : DelayableWork := { work with queued := false, running := true }

/-- The handler has returned. -/
def finish : DelayableWork := { work with running := false, canceling := false }

/-- `pending`. -/
def pending : Bool := work.delayed.isSome || work.queued || work.running || work.canceling

end DelayableWork

/-- The state of a delayable registration. -/
structure DelayableRegistration where
  work : DelayableWork := {}
  accepting : Bool := false
  inFlight : Bool := false

namespace DelayableRegistration

variable (registration : DelayableRegistration)

/-- `schedule_registration` with `replace`, with whether it succeeds. -/
def schedule (granted : Bool) (now delay : Nat) : DelayableRegistration × Bool :=
  if registration.accepting then
    let rescheduled := registration.work.reschedule granted now delay
    ({ registration with work := rescheduled.1 }, rescheduled.2)
  else (registration, false)

/-- `cancel_registration` that does not wait. -/
def cancel : DelayableRegistration := { registration with work := registration.work.cancel }

/-- `registration_quiescent`. -/
def quiescent : Bool := !registration.inFlight && !registration.work.pending

end DelayableRegistration

end Solar.Execution
