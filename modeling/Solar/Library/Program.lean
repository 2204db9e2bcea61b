/-
This file is the language of the threads that are interleaved: a program gives one
command at a time and goes on with the state that the command found. Between its
commands, other threads may change the state.

What holds of a program whatever the others do is said by `Along`: its commands
are allowed, and what it tells of itself by its commands holds when it ends.
-/

import Mathlib

/-- A program over a shared state. It goes on with the state that its command found. -/
inductive Program (Command State Result : Type)
  | done (result : Result)
  | step (command : Command) (next : State → Program Command State Result)

namespace Program

variable {Command State Result Other : Type}

/-- A program after another. -/
protected def bind : Program Command State Result →
    (Result → Program Command State Other) → Program Command State Other
  | .done result, rest => rest result
  | .step command next, rest => .step command fun found => (next found).bind rest

instance : Monad (Program Command State) where
  pure := .done
  bind := Program.bind

/-- One command, whose answer is read off the state it finds. -/
def ask (command : Command) (answer : State → Result) : Program Command State Result :=
  .step command fun found => .done (answer found)

/-! ### A program among others -/

section

variable {Note : Type} (allowed : Command → Prop) (track : Note → Command → Note)

/-- All commands are allowed, and what is noted of them holds at the end. -/
def Along (ends : Note → Result → Prop) : Note → Program Command State Result → Prop
  | note, .done result => ends note result
  | note, .step command next =>
      allowed command ∧ ∀ found, Along ends (track note command) (next found)

variable {allowed track} {ends : Note → Result → Prop} {note : Note}

theorem Along.ask {command : Command} {answer : State → Result} (permitted : allowed command)
    (ended : ∀ found, ends (track note command) (answer found)) :
    Along allowed track ends note (ask command answer) :=
  ⟨permitted, ended⟩

theorem Along.bind {after : Note → Other → Prop} {program : Program Command State Result}
    {rest : Result → Program Command State Other} (first : Along allowed track ends note program)
    (later : ∀ note result, ends note result → Along allowed track after note (rest result)) :
    Along allowed track after note (program >>= rest) := by
  induction program generalizing note with
  | done result => exact later note result first
  | step command next ih => exact ⟨first.1, fun found => ih found (first.2 found)⟩

theorem Along.foldlM {Item : Type} {body : Result → Item → Program Command State Result}
    (items : List Item)
    (round : ∀ note result item, ends note result →
      Along allowed track ends note (body result item))
    {result : Result} (initially : ends note result) :
    Along allowed track ends note (items.foldlM body result) := by
  induction items generalizing note result with
  | nil => exact initially
  | cons item rest ih => exact (round note result item initially).bind fun note result => ih

end

end Program
