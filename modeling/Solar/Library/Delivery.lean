/-
This file follows the items of one sender through a machine that other senders
use, too. The machine takes items one by one and replies to each. What it
replies to our own items is found from an expectation: the replies that are
still to come, given the items that are still to come. An item of another sender
must keep the expectation, and one of ours must get the next expected reply.
-/

import Mathlib

namespace Solar.Delivery

open List

variable {State Item Reply Time : Type}

/-- The replies to a list of items. -/
def replies (step : State → Item → State × Reply) : State → List Item → List (Item × Reply)
  | _, [] => []
  | state, item :: rest => (item, (step state item).2) :: replies step (step state item).1 rest

/-- The replies to our own items. -/
def ownReplies (step : State → Item → State × Reply) (own : Item → Bool) (state : State)
    (items : List Item) : List Reply :=
  ((replies step state items).filter fun reply => own reply.1).map Prod.snd

variable {step : State → Item → State × Reply} {own : Item → Bool} {item : Item}

theorem ownReplies_cons_own (mine : own item = true) (state : State) (rest : List Item) :
    ownReplies step own state (item :: rest) =
      (step state item).2 :: ownReplies step own (step state item).1 rest := by
  simp [ownReplies, replies, mine]

theorem ownReplies_cons_other (other : own item = false) (state : State) (rest : List Item) :
    ownReplies step own state (item :: rest) = ownReplies step own (step state item).1 rest := by
  simp [ownReplies, replies, other]

theorem length_ownReplies (step : State → Item → State × Reply) (own : Item → Bool) (state : State)
    (items : List Item) :
    (ownReplies step own state items).length = (items.filter own).length := by
  induction items generalizing state with
  | nil => rfl
  | cons item rest ih =>
    cases mine : own item with
    | false => rw [ownReplies_cons_other mine, ih, filter_cons_of_neg (by simp [mine])]
    | true =>
      rw [ownReplies_cons_own mine, filter_cons_of_pos mine, length_cons,
        length_cons, ih]

variable {items : List Item}

theorem head?_ownReplies (first : (items.filter own).head? = some item) (state : State) :
    ∃ before, (ownReplies step own state items).head? = some (step before item).2 := by
  induction items generalizing state with
  | nil => exact nomatch first
  | cons next rest ih =>
    cases mine : own next with
    | false =>
      rw [filter_cons_of_neg (by simp [mine])] at first
      rw [ownReplies_cons_other mine]
      exact ih first _
    | true =>
      rw [filter_cons_of_pos mine] at first
      obtain ⟨⟩ := first
      exact ⟨state, by rw [ownReplies_cons_own mine, head?_cons]⟩

theorem ownReplies_single (single : items.filter own = [item]) (state : State) :
    ∃ before, ownReplies step own state items = [(step before item).2] := by
  obtain ⟨before, first⟩ : ∃ before, (ownReplies step own state items).head? =
      some (step before item).2 :=
    head?_ownReplies ((congrArg head? single).trans head?_cons) state
  have length := length_ownReplies step own state items
  rw [single] at length
  obtain ⟨reply, only⟩ := length_eq_one_iff.mp length
  rw [only] at first
  exact ⟨before, by rw [only, Option.some.inj first]⟩

/-- The replies to our items are the first of those expected. -/
theorem ownReplies_prefix (Expects : State → List Item → List Reply → Prop)
    (other : ∀ {state item rest expected}, Expects state (item :: rest) expected → own item = false →
      Expects (step state item).1 rest expected)
    (mine : ∀ {state item rest expected}, Expects state (item :: rest) expected → own item = true →
      ∃ later, expected = (step state item).2 :: later ∧ Expects (step state item).1 rest later)
    {state : State} {expected : List Reply} (expects : Expects state items expected) :
    ownReplies step own state items <+: expected := by
  induction items generalizing state expected with
  | nil => exact nil_prefix
  | cons item rest ih =>
    cases belongs : own item with
    | false =>
      rw [ownReplies_cons_other belongs]
      exact ih (other expects belongs)
    | true =>
      obtain ⟨later, rfl, following⟩ := mine expects belongs
      rw [ownReplies_cons_own belongs]
      exact cons_prefix_cons.mpr ⟨rfl, ih following⟩

/-- A condition on the state and the item holds when the first of our items arrives. -/
def AtFirst (step : State → Item → State × Reply) (own : Item → Bool)
    (condition : State → Item → Prop) : State → List Item → Prop
  | _, [] => True
  | state, item :: rest =>
      if own item then condition state item
      else AtFirst step own condition (step state item).1 rest

/-- Up to the last of our items, each item arrives before the deadline that the last one of ours
has set. -/
def InTime [LT Time] (own : Item → Bool) (arrival : Item → Time)
    (renew : Option Time → Item → Time) : Option Time → List Item → Prop
  | _, [] => True
  | deadline, item :: rest =>
      ((item :: rest).any own = true → ∀ limit ∈ deadline, arrival item < limit) ∧
        InTime own arrival renew (if own item then some (renew deadline item) else deadline) rest

/-! ### Sequences -/

/-- What a sequence of items needs of a machine: how the items of a sequence and the foreign ones
are told, when a first item is taken, and the deadlines. -/
structure Protocol (State Item Reply Time : Type) where
  step : State → Item → State × Reply
  own : Item → Bool
  arrival : Item → Time
  renew : Option Time → Item → Time
  room : State → Item → Prop
  /-- The item is the one of our sequence with the given index. -/
  Part : Nat → Item → Prop
  /-- The item is none of our sequence. -/
  Foreign : Item → Prop

/-- The items of our sequence from an index on are among the items, in order, and the others are
foreign. -/
structure Remaining (protocol : Protocol State Item Reply Time) (count index : Nat)
    (items : List Item) : Prop where
  parts : ∀ offset item, (items.filter protocol.own)[offset]? = some item →
    protocol.Part (index + offset) item
  few : index + (items.filter protocol.own).length ≤ count
  foreign : ∀ item ∈ items, protocol.own item = false → protocol.Foreign item

variable {protocol : Protocol State Item Reply Time}

namespace Remaining

variable {count index : Nat} {rest : List Item}

section

variable (remaining : Remaining protocol count index (item :: rest))

include remaining

theorem tail (other : protocol.own item = false) : Remaining protocol count index rest where
  parts offset next found := by
    refine remaining.parts offset next ?_
    rwa [filter_cons_of_neg (by simp [other])]
  few := by
    have few := remaining.few
    rwa [filter_cons_of_neg (by simp [other])] at few
  foreign next member := remaining.foreign next (mem_cons_of_mem _ member)

theorem head (mine : protocol.own item = true) :
    protocol.Part index item ∧ index < count ∧ Remaining protocol count (index + 1) rest := by
  have few := remaining.few
  rw [filter_cons_of_pos mine, length_cons] at few
  refine ⟨?_, by omega, ?_, by omega, ?_⟩
  · refine remaining.parts 0 item ?_
    rw [filter_cons_of_pos mine, getElem?_cons_zero]
  · intro offset next found
    have part := remaining.parts (offset + 1) next (by
      rwa [filter_cons_of_pos mine])
    rwa [Nat.add_right_comm]
  · exact fun next member => remaining.foreign next (mem_cons_of_mem _ member)

end

theorem any_eq_false (remaining : Remaining protocol count count rest) :
    rest.any protocol.own = false := by
  refine Bool.eq_false_iff.mpr fun more => ?_
  obtain ⟨next, member, own⟩ := any_eq_true.mp more
  have left := length_pos_of_mem (mem_filter.mpr ⟨member, own⟩)
  have few := remaining.few
  omega

end Remaining

variable [LT Time]

/-- A machine that gathers a sequence: `Holds` says that it has the items before an index and keeps
them up to a deadline. -/
structure Gathers (protocol : Protocol State Item Reply Time) (invariant : State → Prop)
    (Holds : Nat → Time → State → Prop) (expected : List Reply) : Prop where
  invariant_step : ∀ {state} item, invariant state → invariant (protocol.step state item).1
  other : ∀ {state index deadline item}, Holds index deadline state → protocol.Foreign item →
    protocol.arrival item < deadline → Holds index deadline (protocol.step state item).1
  first : ∀ {state item}, invariant state → protocol.room state item → protocol.Part 0 item →
    expected[0]? = some (protocol.step state item).2 ∧
      (1 < expected.length → Holds 1 (protocol.renew none item) (protocol.step state item).1)
  next : ∀ {state index deadline item}, invariant state → Holds index deadline state → 0 < index →
    index < expected.length → protocol.arrival item < deadline → protocol.Part index item →
    expected[index]? = some (protocol.step state item).2 ∧ (index + 1 < expected.length →
        Holds (index + 1) (protocol.renew (some deadline) item) (protocol.step state item).1)

/-- The items still to come, with what the machine has of the sequence. -/
structure Awaits (protocol : Protocol State Item Reply Time) (invariant : State → Prop)
    (Holds : Nat → Time → State → Prop) (count index : Nat) (state : State) (items : List Item) :
    Prop where
  invariant : invariant state
  remaining : Remaining protocol count index items
  opens : index = 0 → AtFirst protocol.step protocol.own protocol.room state items ∧
    InTime protocol.own protocol.arrival protocol.renew none items
  holds : 0 < index → items.any protocol.own = true → ∃ deadline, Holds index deadline state ∧
    InTime protocol.own protocol.arrival protocol.renew (some deadline) items

namespace Gathers

variable {invariant : State → Prop} {Holds : Nat → Time → State → Prop} {expected : List Reply}
  {index : Nat} {state : State} {rest items : List Item}

section

variable (gathers : Gathers protocol invariant Holds expected)

include gathers

section

variable (awaits : Awaits protocol invariant Holds expected.length index state (item :: rest))

include awaits

theorem other_item (foreign : protocol.own item = false) :
    Awaits protocol invariant Holds expected.length index (protocol.step state item).1 rest where
  invariant := gathers.invariant_step item awaits.invariant
  remaining := awaits.remaining.tail foreign
  opens zero := by
    obtain ⟨room, inTime⟩ := awaits.opens zero
    rw [AtFirst, foreign] at room
    rw [InTime, foreign] at inTime
    exact ⟨room, inTime.2⟩
  holds positive more := by
    have more : (item :: rest).any protocol.own = true := by
      rw [any_cons, more, Bool.or_true]
    obtain ⟨deadline, holds, inTime⟩ := awaits.holds positive more
    rw [InTime, foreign] at inTime
    have strange := awaits.remaining.foreign item mem_cons_self foreign
    exact ⟨deadline, gathers.other holds strange (inTime.1 more _ rfl), inTime.2⟩

theorem own_item (own : protocol.own item = true) :
    expected[index]? = some (protocol.step state item).2 ∧
      Awaits protocol invariant Holds expected.length (index + 1) (protocol.step state item).1
        rest := by
  obtain ⟨part, inside, following⟩ := awaits.remaining.head own
  have kept := gathers.invariant_step item awaits.invariant
  -- The next index is held if there is one, and then up to the renewed deadline.
  suffices gathered : ∃ deadline, expected[index]? = some (protocol.step state item).2 ∧
      (index + 1 < expected.length → Holds (index + 1) deadline (protocol.step state item).1) ∧
      InTime protocol.own protocol.arrival protocol.renew (some deadline) rest by
    obtain ⟨deadline, reply, holds, inTime⟩ := gathered
    refine ⟨reply, kept, following, nofun, fun _ more => ⟨deadline, holds ?_, inTime⟩⟩
    refine Nat.lt_of_le_of_ne inside fun last => ?_
    rw [last] at following
    exact absurd more (by rw [following.any_eq_false]; exact nofun)
  have more : (item :: rest).any protocol.own = true := by
    rw [any_cons, own, Bool.true_or]
  by_cases zero : index = 0
  · subst zero
    obtain ⟨room, inTime⟩ := awaits.opens rfl
    rw [AtFirst, if_pos own] at room
    rw [InTime, if_pos own] at inTime
    obtain ⟨reply, holds⟩ := gathers.first awaits.invariant room part
    exact ⟨_, reply, holds, inTime.2⟩
  · obtain ⟨deadline, holds, inTime⟩ := awaits.holds (Nat.pos_of_ne_zero zero) more
    rw [InTime, if_pos own] at inTime
    obtain ⟨reply, renewed⟩ := gathers.next awaits.invariant holds (Nat.pos_of_ne_zero zero) inside
      (inTime.1 more _ rfl) part
    exact ⟨_, reply, renewed, inTime.2⟩

end

theorem ownReplies (awaits : Awaits protocol invariant Holds expected.length 0 state items) :
    ownReplies protocol.step protocol.own state items <+: expected := by
  refine ownReplies_prefix (fun state items replies => ∃ index,
      Awaits protocol invariant Holds expected.length index state items ∧
        replies = expected.drop index)
    ?_ ?_ ⟨0, awaits, rfl⟩
  · rintro state item rest replies ⟨index, awaits, rfl⟩ foreign
    exact ⟨index, gathers.other_item awaits foreign, rfl⟩
  · rintro state item rest replies ⟨index, awaits, rfl⟩ own
    obtain ⟨reply, following⟩ := gathers.own_item awaits own
    obtain ⟨inside, equal⟩ := List.getElem?_eq_some_iff.mp reply
    refine ⟨_, ?_, index + 1, following, rfl⟩
    rw [drop_eq_getElem_cons inside, equal]

end

end Gathers

end Solar.Delivery
