/-
This file is about where the occurrences of an event go. A ledger beside the facility
writes down the records that were materialized, those that were handed to their
processors, and what was counted as lost before it became a record. An occurrence is
counted once as long as a window that closes finds room for its record, and a record
stays in sight as long as no stop throws the rings away and the function that
processes records is set.
-/

import Solar.Events.Moves
import Solar.Library.Shelves

namespace Solar.Events

open List

variable {Payload Key : Type}

/-! ### The ledger -/

/-- The records that were materialized, those passed to `process_record_for`, and for each event the
occurrences that were counted in `known_lost` without a record. -/
structure Ledger (Payload : Type) where
  materialized : List (StoredRecord Payload) := []
  passed : List (StoredRecord Payload) := []
  lostEarly : Nat → Nat := fun _ => 0

/-- What a step adds to `known_lost` of an event. -/
def State.lostBy (state next : State Payload Key) (event : Nat) : Nat :=
  (next.events event).record.knownLost - (state.events event).record.knownLost

/-- The ledger writes down a step. -/
def Ledger.write [DecidableEq Key] (facility : Facility Payload Key) (ledger : Ledger Payload)
    (state next : State Payload Key) : Label Payload → Ledger Payload
  | .capture number now acquired =>
      match state.calls number with
      | .entered request =>
          if acquired then
            { ledger with
              materialized :=
                ledger.materialized ++ (state.capture facility request now).record.toList
              lostEarly := fun event => ledger.lostEarly event + state.lostBy next event }
          else ledger
      | _ => ledger
  | .take _ =>
      { ledger with
        materialized := ledger.materialized ++
          (next.tasks.drop state.tasks.length).map Task.record }
  | .process position _ =>
      if state.processRecord then
        { ledger with
          passed := ledger.passed ++ (state.tasks[position]?.map Task.record).toList }
      else ledger
  | .cancel =>
      { ledger with lostEarly := fun event => ledger.lostEarly event + state.lostBy next event }
  | _ => ledger

/-- The facility with its ledger. -/
def recordedMachine [DecidableEq Key] (facility : Facility Payload Key) :
    Transition.Machine (State Payload Key × Ledger Payload) (Label Payload) :=
  ⟨fun (state, ledger) label =>
    (state.step facility label).map fun next => (next, ledger.write facility state next label)⟩

/-! ### What is accounted for -/

/-- The occurrences of an event in a list of records. -/
def occurrences (event : Nat) (records : List (StoredRecord Payload)) : Nat :=
  ((records.filter fun record => record.event = event).map (·.occurrenceCount)).sum

theorem occurrences_append (event : Nat) (first second : List (StoredRecord Payload)) :
    occurrences event (first ++ second) = occurrences event first + occurrences event second := by
  simp [occurrences, filter_append]

variable {record : StoredRecord Payload}

theorem occurrences_own {event : Nat} (own : record.event = event) :
    occurrences event [record] = record.occurrenceCount := by
  simp [occurrences, own]

theorem occurrences_other {event : Nat} (other : record.event ≠ event) :
    occurrences event [record] = 0 := by
  simp [occurrences, other]

/-- The records in the ingress rings. -/
def State.contents (facility : Facility Payload Key) (state : State Payload Key) :
    List (StoredRecord Payload) :=
  Shelves.contents (State.ingresses facility.count) state.ring

/-- Every attempt is counted once, and every record is in one place. -/
structure Accounted (facility : Facility Payload Key) (state : State Payload Key)
    (ledger : Ledger Payload) : Prop where
  attempts : ∀ event < facility.count, (state.events event).record.attempts =
      (state.events event).record.sampled + (state.events event).record.rateLimited +
        occurrences event ledger.materialized + (state.events event).pending +
        ledger.lostEarly event
  placed : ledger.materialized.Perm
    (state.contents facility ++ state.tasks.map Task.record ++ ledger.passed)
  distinct : (ledger.materialized.map (·.sequence)).Nodup

/-! ### The condition -/

/-- The aggregate that an occurrence goes into. -/
def EventState.entryOf [DecidableEq Key] (event : EventState Payload Key)
    (policy : CapturePolicy Payload Key) (payload : Payload) : Option (Aggregate Payload Key) :=
  match policy with
  | .aggregateCount _ => event.aggregation[0]?
  | .aggregateKeyed _ key _ =>
      (selectEntry event.aggregation (key payload)).bind fun position => event.aggregation[position]?
  | _ => none

/-- The length of the windows of a policy. -/
def CapturePolicy.window : CapturePolicy Payload Key → Int
  | .aggregateCount window | .aggregateKeyed window _ _ => window
  | _ => 0

/-- There is room for a record. -/
def State.HasRoom (facility : Facility Payload Key) (state : State Payload Key) (event : Nat)
    (isr : Bool) : Prop :=
  match (facility.policies event).retention with
  | .critical reservedSlots =>
      (state.events event).criticalIngress.length + (state.events event).criticalHistory.length +
          (state.events event).criticalInflight < reservedSlots ∧
        (state.events event).criticalIngress.length ≠ reservedSlots
  | _ =>
      if isr then state.isrIngress.length ≠ facility.isrDepth
      else state.threadIngress.length ≠ facility.threadDepth

/-- The condition of a step: the count of the aggregate does not overflow, a window that closes finds
room for its record, nothing is processed without the function, and a cancelling stop finds the rings
empty. -/
def State.Tracks [DecidableEq Key] (facility : Facility Payload Key) (state : State Payload Key) :
    Label Payload → Prop
  | .capture number now true => ∀ request, state.calls number = .entered request →
      ∀ entry ∈ (state.events request.event).entryOf (facility.policies request.event).capture
          request.payload,
        entry.count + 1 < 2 ^ 32 ∧ (entry.count ≠ 0 →
            (facility.policies request.event).capture.window ≤ now - entry.windowStart →
            state.HasRoom facility request.event (decide (request.operation = .observeIsr)))
  | .process _ _ => state.processRecord = true
  | .cancel => state.contents facility = []
  | _ => True

/-! ### One occurrence is counted once -/

variable {event other : EventState Payload Key}

namespace EventState

/-- The occurrences that an event has counted without a record. -/
def settled (event : EventState Payload Key) : Nat :=
  event.record.sampled + event.record.rateLimited + event.pending + event.record.knownLost

section

variable {stored record : StoredRecord Payload} {now : Int} {entries : List (Aggregate Payload Key)}
  {position : Nat}

theorem pending_set {old : Aggregate Payload Key} (at_ : entries[position]? = some old)
    (entry : Aggregate Payload Key) :
    ((entries.set position entry).map (·.count)).sum + old.count =
      (entries.map (·.count)).sum + entry.count := by
  obtain ⟨bound, rfl⟩ := List.getElem?_eq_some_iff.mp at_
  have after := ((set_perm_cons_eraseIdx bound entry).map (·.count)).sum_nat
  have before := ((getElem_cons_eraseIdx_perm bound).map (·.count)).sum_nat
  rw [map_cons, sum_cons] at after before
  omega

/-- What counting an occurrence does. -/
structure Counts (event other : EventState Payload Key) (occurrences : Nat) : Prop where
  settled : other.settled + occurrences = event.settled + 1
  attempts : other.record.attempts = event.record.attempts
  knownLost : event.record.knownLost ≤ other.record.knownLost

/-- What a policy counts, given when it closes a window. -/
def SiftCounts (event other : EventState Payload Key) (closes : Prop) : Sifted Payload → Prop
  | .answered _ => event.Counts other 0
  | .kept record => event.Counts other record.occurrenceCount ∧
      other.record.knownLost = event.record.knownLost ∧ (record.occurrenceCount = 1 ∨ closes)

variable {sifted : Sifted Payload}

theorem SiftCounts.imp {closes otherwise : Prop} (counts : event.SiftCounts other closes sifted)
    (implies : closes → otherwise) : event.SiftCounts other otherwise sifted := by
  cases sifted with
  | answered answer => exact counts
  | kept record => exact ⟨counts.1, counts.2.1, counts.2.2.imp_right implies⟩

/-- An occurrence that goes into an aggregate is pending, or closes the window. -/
theorem counts_aggregate {entry : Aggregate Payload Key} {key : Option Key} {window : Int}
    (at_ : event.aggregation[position]? = some entry) (small : entry.count + 1 < 2 ^ 32)
    (result : event.aggregate position key window now stored = (other, sifted)) :
    event.SiftCounts other (entry.count ≠ 0 ∧ window ≤ now - entry.windowStart) sifted := by
  have here : event.aggregation.getD position {} = entry := by
    rw [getD_eq_getElem?_getD, at_]
    rfl
  have sum (after : Aggregate Payload Key) := pending_set at_ after
  unfold EventState.aggregate Aggregate.accumulate at result
  rw [here] at result
  dsimp only at result
  by_cases empty : entry.count = 0
  · rw [if_pos empty] at result
    cases result
    refine ⟨?_, rfl, Nat.le_refl _⟩
    have total : _ + entry.count = (event.aggregation.map (·.count)).sum + 1 :=
      sum { key, windowStart := now, count := 1, representative := some stored }
    simp only [settled, pending]
    omega
  · rw [if_neg empty] at result
    by_cases within : now - entry.windowStart < window
    · rw [if_pos within, Nat.mod_eq_of_lt small] at result
      cases result
      refine ⟨?_, rfl, Nat.le_refl _⟩
      have total : _ + entry.count = (event.aggregation.map (·.count)).sum + (entry.count + 1) :=
        sum { key, windowStart := entry.windowStart, count := entry.count + 1,
              representative := some stored }
      simp only [settled, pending]
      omega
    · rw [if_neg within] at result
      cases result
      refine ⟨⟨?_, rfl, Nat.le_refl _⟩, rfl, .inr ⟨empty, Int.not_lt.mp within⟩⟩
      have total : _ + entry.count = (event.aggregation.map (·.count)).sum + 0 := sum {}
      simp only [settled, pending]
      omega

theorem selectEntry_lt [DecidableEq Key] {key : Key}
    (selected : selectEntry entries key = some position) : position < entries.length := by
  unfold selectEntry at selected
  split at selected
  · rename_i found
    obtain ⟨⟩ := selected
    exact (findIdx?_eq_some_iff_getElem.mp found).1
  · exact (findIdx?_eq_some_iff_getElem.mp selected).1

/-- A policy counts an occurrence, or makes a record of it with what has waited for it. -/
theorem counts_sift [DecidableEq Key] {policy : CapturePolicy Payload Key}
    (shaped : event.aggregation.length = policy.slots) (single : stored.occurrenceCount = 1)
    (small : ∀ entry ∈ event.entryOf policy stored.payload, entry.count + 1 < 2 ^ 32)
    (result : event.sift policy stored now = (other, sifted)) :
    event.SiftCounts other (∃ entry ∈ event.entryOf policy stored.payload,
      entry.count ≠ 0 ∧ policy.window ≤ now - entry.windowStart) sifted := by
  cases policy with
  | everyOccurrence =>
    cases result
    exact ⟨⟨by rw [single], rfl, Nat.le_refl _⟩, rfl, .inl single⟩
  | sampleEvery period =>
    unfold EventState.sift at result
    dsimp only at result
    split at result
    · cases result
      exact ⟨⟨by rw [single], rfl, Nat.le_refl _⟩, rfl, .inl single⟩
    · cases result
      refine ⟨?_, rfl, Nat.le_refl _⟩
      simp only [settled, pending]
      omega
  | rateLimited interval =>
    unfold EventState.sift at result
    dsimp only at result
    split at result
    · cases result
      refine ⟨⟨?_, rfl, Nat.le_refl _⟩, rfl, .inl single⟩
      rw [single]
      rfl
    · cases result
      refine ⟨?_, rfl, Nat.le_refl _⟩
      simp only [settled, pending]
      omega
  | aggregateCount window =>
    have bound : 0 < event.aggregation.length := shaped ▸ Nat.one_pos
    have at_ := getElem?_eq_getElem bound
    exact (counts_aggregate at_ (small _ at_) result).imp fun closes => ⟨_, at_, closes⟩
  | aggregateKeyed window key capacity =>
    unfold EventState.sift at result
    dsimp only at result
    split at result
    · cases result
      refine ⟨?_, rfl, Nat.le_succ _⟩
      simp only [settled, pending, lose]
      omega
    · rename_i position selected
      have bound := selectEntry_lt selected
      have at_ := getElem?_eq_getElem bound
      have into : event.entryOf (.aggregateKeyed window key capacity) stored.payload =
          some event.aggregation[position] :=
        (congrArg (Option.bind · _) selected).trans at_
      exact (counts_aggregate at_ (small _ into) result).imp fun closes => ⟨_, into, closes⟩

end

end EventState

/-! ### Captures -/

/-- The observations that were turned away. -/
def EventRecord.rejected (record : EventRecord) : Nat :=
  record.ingressRejected + record.aggregationRejected

/-- Two states of an event with the same record, the same counter and the same aggregates. -/
structure EventState.SameCounts (event other : EventState Payload Key) : Prop where
  record : other.record = event.record
  counter : other.policyCounter = event.policyCounter
  aggregation : other.aggregation = event.aggregation

theorem EventState.SameCounts.settled
    (same : event.SameCounts other) : other.settled = event.settled := by
  simp only [EventState.settled, EventState.pending, same.record, same.aggregation]

section

variable {facility : Facility Payload Key} {state next : State Payload Key}

theorem State.sameCounts_setRing (records : List (StoredRecord Payload)) (ingress : Ingress)
    (event : Nat) : (state.events event).SameCounts ((state.setRing records ingress).events event) := by
  cases ingress with
  | thread | isr => exact ⟨rfl, rfl, rfl⟩
  | critical own =>
    by_cases same : event = own
    · subst same
      rw [setRing, setEvent_self]
      exact ⟨rfl, rfl, rfl⟩
    · rw [setRing, setEvent_other _ same]
      exact ⟨rfl, rfl, rfl⟩

theorem State.sameCounts_popFront (ingress : Ingress) (record : StoredRecord Payload)
    (event : Nat) :
    (state.events event).SameCounts ((state.popFront ingress record).events event) := by
  rw [events_popFront]
  split <;> exact ⟨rfl, rfl, rfl⟩

theorem State.push_none {ingress : Ingress} {capacity : Nat}
    (none : state.push ingress capacity record = none) :
    (state.ring ingress).length = capacity := by
  unfold State.push at none
  split at none
  · assumption
  · cases none

/-- A record that is turned away has no room. -/
theorem State.not_hasRoom (none : state.enqueue facility record = none) :
    ¬ state.HasRoom facility record.event record.isr := by
  unfold State.enqueue at none
  unfold State.HasRoom
  cases retention : (facility.policies record.event).retention with rw [retention] at none
  | critical reservedSlots =>
    dsimp only at none
    rintro ⟨room, free⟩
    rw [if_pos room] at none
    exact free (push_none none)
  | transient | buffered | persistent =>
    dsimp only at none ⊢
    intro room
    split at room
    · rename_i isr
      rw [if_pos isr] at none
      exact room (push_none none)
    · rename_i thread
      rw [if_neg thread] at none
      exact room (push_none none)

theorem State.HasRoom.setEvent {event : Nat} {isr : Bool} {value : EventState Payload Key}
    (room : state.HasRoom facility event isr) (same : (state.events event).SameSlots value) :
    (state.setEvent event value).HasRoom facility event isr := by
  unfold State.HasRoom at room ⊢
  rw [setEvent_self, same.ingress, same.history, same.inflight]
  exact room

/-- What a capture does to an event: the attempt, what it settles, and what it loses. -/
structure State.Counted (state : State Payload Key) (captured : Captured Payload Key)
    (event : Nat) : Prop where
  attempts : (captured.state.events event).record.attempts =
    (state.events event).record.attempts + 1
  settled : (captured.state.events event).settled + occurrences event captured.record.toList =
    (state.events event).settled + 1
  knownLost : (state.events event).record.knownLost ≤ (captured.state.events event).record.knownLost

theorem EventState.settled_reject (event : EventState Payload Key) (reason : Reason) :
    (event.reject reason).settled = event.settled + 1 := by
  simp only [EventState.settled, EventState.pending, EventState.reject, EventState.lose]
  omega

variable [DecidableEq Key]

/-- A capture that meets the condition counts its occurrence once. -/
theorem State.counted_capture {request : Request Payload} {now : Int}
    (shaped : (state.events request.event).aggregation.length =
      (facility.policies request.event).capture.slots)
    (tracks : ∀ entry ∈ (state.events request.event).entryOf
        (facility.policies request.event).capture request.payload,
      entry.count + 1 < 2 ^ 32 ∧ (entry.count ≠ 0 →
          (facility.policies request.event).capture.window ≤ now - entry.windowStart →
          state.HasRoom facility request.event (decide (request.operation = .observeIsr)))) :
    state.Counted (state.capture facility request now) request.event := by
  have counts {event : EventState Payload Key} {sifted : Sifted Payload}
      (result : state.sifted facility request now = (event, sifted)) :
      (attempted (state.events request.event)).SiftCounts event
        (∃ entry ∈ (state.events request.event).entryOf
            (facility.policies request.event).capture request.payload,
          entry.count ≠ 0 ∧
            (facility.policies request.event).capture.window ≤ now - entry.windowStart) sifted := by
    have small : ∀ entry ∈ (attempted (state.events request.event)).entryOf
        (facility.policies request.event).capture
        (stored (facility.policies request.event) (attempted (state.events request.event)) request
          now).payload, entry.count + 1 < 2 ^ 32 :=
      fun entry into => (tracks entry into).1
    have slots : (attempted (state.events request.event)).aggregation.length =
        (facility.policies request.event).capture.slots := shaped
    exact EventState.counts_sift slots rfl small result
  rcases state.capture_cases facility request now with
    ⟨event, _, sifted, captured⟩ | ⟨event, record, sifted, none, captured⟩ |
      ⟨event, record, ingress, sifted, _, captured⟩ <;> rw [captured]
  · obtain ⟨settled, attempts, knownLost⟩ := counts sifted
    refine ⟨?_, ?_, ?_⟩ <;> rw [setEvent_self]
    · exact attempts
    · exact settled
    · exact knownLost
  · obtain ⟨⟨settled, attempts, knownLost⟩, _, single⟩ := counts sifted
    obtain ⟨own, isr⟩ := event_sifted sifted
    have one : record.occurrenceCount = 1 := by
      refine single.resolve_right ?_
      rintro ⟨entry, into, nonempty, closes⟩
      have room := (tracks entry into).2 nonempty closes
      refine not_hasRoom none ?_
      rw [own, isr]
      exact room.setEvent (sameSlots_sifted sifted)
    refine ⟨?_, ?_, ?_⟩ <;> rw [setEvent_self]
    · exact attempts
    · rw [EventState.settled_reject]
      rw [one] at settled
      exact settled
    · exact Nat.le_succ_of_le knownLost
  · obtain ⟨⟨settled, attempts, knownLost⟩, _⟩ := counts sifted
    have ringed := (state.setEvent request.event event).sameCounts_setRing
      ((state.setEvent request.event event).ring ingress ++ [state.number record]) ingress
      request.event
    rw [setEvent_self] at ringed
    refine ⟨?_, ?_, ?_⟩ <;> rw [materialized, setEvent_self]
    all_goals
      generalize State.events _ request.event = pushed at ringed ⊢
    · exact (congrArg EventRecord.attempts ringed.record).trans attempts
    · change pushed.settled + occurrences request.event [state.number record] = _
      rw [ringed.settled, occurrences_own (event_sifted sifted).1]
      exact settled
    · exact Nat.le_trans knownLost (Nat.le_of_eq (congrArg EventRecord.knownLost ringed.record).symm)

omit [DecidableEq Key] in
theorem State.sameCounts_setEvent {event other : Nat} (value : EventState Payload Key)
    (differ : other ≠ event) :
    (state.events other).SameCounts ((state.setEvent event value).events other) := by
  rw [setEvent_other value differ]
  exact ⟨rfl, rfl, rfl⟩

theorem State.sameCounts_capture (request : Request Payload) (now : Int) {event : Nat}
    (differ : event ≠ request.event) :
    (state.events event).SameCounts ((state.capture facility request now).state.events event) := by
  rcases state.capture_cases facility request now with
    ⟨value, _, _, captured⟩ | ⟨value, _, _, _, captured⟩ | ⟨value, record, ingress, _, _, captured⟩ <;>
    rw [captured]
  · exact sameCounts_setEvent value differ
  · exact sameCounts_setEvent _ differ
  · have entered := state.sameCounts_setEvent value differ
    have pushed := (state.setEvent request.event value).sameCounts_setRing
      ((state.setEvent request.event value).ring ingress ++ [state.number record]) ingress event
    rw [materialized, setEvent_other _ differ]
    exact ⟨pushed.record.trans entered.record, pushed.counter.trans entered.counter,
      pushed.aggregation.trans entered.aggregation⟩

omit [DecidableEq Key] in
theorem State.nextSequence_setRing (records : List (StoredRecord Payload)) {ingress : Ingress} :
    (state.setRing records ingress).nextSequence = state.nextSequence := by
  cases ingress <;> rfl

theorem State.numbers_capture (state : State Payload Key) {request : Request Payload} {now : Int} :
    ((state.capture facility request now).record = none ∧
      (state.capture facility request now).state.nextSequence = state.nextSequence) ∨
    ∃ record, (state.capture facility request now).record = some record ∧
      record.event = request.event ∧ record.sequence = state.nextSequence ∧
      (state.capture facility request now).state.nextSequence = state.nextSequence + 1 := by
  rcases state.capture_cases facility request now with
    ⟨_, _, _, captured⟩ | ⟨_, _, _, _, captured⟩ | ⟨_, record, _, sifted, _, captured⟩ <;>
    rw [captured]
  · exact .inl ⟨rfl, rfl⟩
  · exact .inl ⟨rfl, rfl⟩
  · refine .inr ⟨state.number record, rfl, (event_sifted sifted).1, rfl, ?_⟩
    exact congrArg (· + 1) (nextSequence_setRing _)

end

/-! ### The shape of the aggregates -/

/-- The record is of an event, and its flag says whether it marks a loss. -/
def StoredRecord.Stands (own : Nat) (record : StoredRecord Payload) : Prop :=
  record.event = own ∧ (record.flags.lostBefore = true ↔ 0 < record.lostBefore)

/-- An event has as many aggregates as its policy says, and they stand for its own records. -/
structure EventState.Shaped (event : EventState Payload Key) (policy : CapturePolicy Payload Key)
    (own : Nat) : Prop where
  slots : event.aggregation.length = policy.slots
  represents : ∀ entry ∈ event.aggregation, ∀ record ∈ entry.representative, record.Stands own

section

variable {policy : CapturePolicy Payload Key} {own : Nat}

section

variable (shaped : event.Shaped policy own)

include shaped

theorem EventState.Shaped.of_same (same : other.aggregation = event.aggregation) :
    other.Shaped policy own :=
  ⟨same.symm ▸ shaped.slots, same.symm ▸ shaped.represents⟩

theorem EventState.Shaped.set (position : Nat) {entry : Aggregate Payload Key}
    (represents : ∀ record ∈ entry.representative, record.Stands own)
    (aggregation : other.aggregation = event.aggregation.set position entry) :
    other.Shaped policy own := by
  refine ⟨?_, fun another member => ?_⟩
  · rw [aggregation, length_set]
    exact shaped.slots
  · rw [aggregation] at member
    rcases mem_or_eq_of_mem_set member with before | rfl
    · exact shaped.represents another before
    · exact represents

theorem EventState.Shaped.aggregate (position : Nat) (key : Option Key) (window now : Int)
    {stored : StoredRecord Payload} (mine : stored.Stands own) :
    (event.aggregate position key window now stored).1.Shaped policy own := by
  have written : ∀ record ∈ (({ event.aggregation.getD position {} with key } :
      Aggregate Payload Key).accumulate window now stored).1.representative,
      record.Stands own := by
    unfold Aggregate.accumulate
    split
    · rintro _ ⟨⟩
      exact mine
    · split
      · rintro _ ⟨⟩
        exact mine
      · nofun
  refine shaped.set position written ?_
  unfold EventState.aggregate
  dsimp only
  split <;> rfl

end

theorem EventState.Shaped.sift [DecidableEq Key] (shaped : event.Shaped policy own)
    {stored : StoredRecord Payload} (mine : stored.Stands own) (now : Int) :
    (event.sift policy stored now).1.Shaped policy own := by
  cases policy with
  | everyOccurrence => exact shaped
  | sampleEvery period | rateLimited interval =>
    unfold EventState.sift
    dsimp only
    split <;> exact ⟨shaped.slots, shaped.represents⟩
  | aggregateCount window => exact shaped.aggregate _ _ _ _ mine
  | aggregateKeyed window key capacity =>
    unfold EventState.sift
    dsimp only
    split
    · exact ⟨shaped.slots, shaped.represents⟩
    · exact shaped.aggregate _ _ _ _ mine

end

end Solar.Events
