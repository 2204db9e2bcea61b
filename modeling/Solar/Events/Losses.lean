/-
This file is about the markers of losses. A record says how many observations of its
event have been turned away since the record before it, and the counter that it has
read begins again at nothing. The record of an aggregate says what its last occurrence
has read. What the records say and what the counter holds make up what was turned away
as long as each flush finds the counter as that occurrence has left it.
-/

import Solar.Events.Records

namespace Solar.Events

open List Option State

variable {Payload Key : Type}

/-! ### What is marked -/

/-- The losses that the records of an event mark. -/
def lostBefore (event : Nat) (records : List (StoredRecord Payload)) : Nat :=
  ((records.filter fun record => record.event = event).map (·.lostBefore)).sum

/-- Every observation that was turned away is marked once, or counted for the next record. -/
structure Marked (state : State Payload Key) (records : List (StoredRecord Payload)) : Prop where
  exact : ∀ event, lostBefore event records + (state.events event).policyCounter =
    (state.events event).record.rejected
  flagged : ∀ record ∈ records, record.Stands record.event

/-- The condition of a step: a counter that a record reads is one of 32 bits, and a flush finds the
counter as its aggregate has read it. -/
def State.Marks (facility : Facility Payload Key) (state : State Payload Key) :
    Label Payload → Prop
  | .capture number _ _ => ∀ request, state.calls number = .entered request →
      (state.events request.event).policyCounter < 2 ^ 32
  | .take event =>
      ∀ entry ∈ state.front facility event, ∀ record ∈ entry.representative,
        record.lostBefore = (state.events event).policyCounter
  | _ => True

/-! ### Steps -/

section

variable [DecidableEq Key] {facility : Facility Payload Key} {state next : State Payload Key}
  {records : List (StoredRecord Payload)} {event : EventState Payload Key}

/-- A policy turns an observation away and counts it, or lets the losses be. -/
theorem EventState.sift_rejected (event : EventState Payload Key)
    (policy : CapturePolicy Payload Key) (stored : StoredRecord Payload) (now : Int) :
    ((event.sift policy stored now).1.policyCounter = event.policyCounter ∧
        (event.sift policy stored now).1.record.rejected = event.record.rejected) ∨
      (event.sift policy stored now).1.policyCounter = event.policyCounter + 1 ∧
        (event.sift policy stored now).1.record.rejected = event.record.rejected + 1 ∧
        ∃ answer, (event.sift policy stored now).2 = .answered answer := by
  have aggregated (position : Nat) (key : Option Key) (window : Int) :
      (event.aggregate position key window now stored).1.policyCounter = event.policyCounter ∧
        (event.aggregate position key window now stored).1.record.rejected =
          event.record.rejected := by
    unfold EventState.aggregate
    dsimp only
    split <;> exact ⟨rfl, rfl⟩
  cases policy with
  | everyOccurrence => exact .inl ⟨rfl, rfl⟩
  | aggregateCount window => exact .inl (aggregated _ _ _)
  | aggregateKeyed window key capacity =>
    unfold EventState.sift
    dsimp only
    split
    · exact .inr ⟨rfl, rfl, _, rfl⟩
    · exact .inl (aggregated _ _ _)
  | _ =>
    unfold EventState.sift
    dsimp only
    split <;> exact .inl ⟨rfl, rfl⟩

theorem State.sifted_rejected {request : Request Payload} {now : Int} {sifted : Sifted Payload}
    (result : state.sifted facility request now = (event, sifted)) :
    (event.policyCounter = (state.events request.event).policyCounter ∧
        event.record.rejected = (state.events request.event).record.rejected) ∨
      event.policyCounter = (state.events request.event).policyCounter + 1 ∧
        event.record.rejected = (state.events request.event).record.rejected + 1 ∧
        ∃ answer, sifted = .answered answer := by
  have rejects := (attempted (state.events request.event)).sift_rejected
    (facility.policies request.event).capture
    (stored (facility.policies request.event) (attempted (state.events request.event)) request now)
    now
  unfold State.sifted at result
  rw [result] at rejects
  exact rejects

section

variable (marked : Marked state records)

include marked

omit [DecidableEq Key] in
/-- A step at one event: its new records mark what its counter gives up. -/
theorem Marked.add (own : Nat) {added : List (StoredRecord Payload)}
    (others : ∀ event ≠ own, (state.events event).SameCounts (next.events event))
    (mine : ∀ record ∈ added, record.Stands own)
    (counted : (added.map (·.lostBefore)).sum + (next.events own).policyCounter +
      (state.events own).record.rejected =
        (state.events own).policyCounter + (next.events own).record.rejected) :
    Marked next (records ++ added) where
  exact event := by
    have before := marked.exact event
    rw [lostBefore, filter_append, map_append, sum_append]
    by_cases same : event = own
    · subst same
      rw [filter_eq_self.mpr fun record member => decide_eq_true (mine record member).1]
      rw [lostBefore] at before
      omega
    · have none : added.filter (fun record => record.event = event) = [] :=
        filter_eq_nil_iff.mpr fun record member is =>
          same ((of_decide_eq_true is).symm.trans (mine record member).1)
      rw [none, (others event same).counter, (others event same).record]
      exact before
  flagged record member := by
    obtain old | new := mem_append.mp member
    · exact marked.flagged record old
    · exact ⟨rfl, (mine record new).2⟩

omit [DecidableEq Key] in
theorem Marked.of_same (same : ∀ event, (state.events event).SameAttempts (next.events event)) :
    Marked next records where
  exact event := by
    rw [(same event).counter, (same event).rejected]
    exact marked.exact event
  flagged := marked.flagged

/-- A captured record says that there was a loss exactly if the one before it was lost. -/
theorem Marked.capture {request : Request Payload} {now : Int}
    (few : (state.events request.event).policyCounter < 2 ^ 32) :
    Marked (state.capture facility request now).state
      (records ++ (state.capture facility request now).record.toList) := by
  have marks : (∀ record ∈ (state.capture facility request now).record.toList,
      record.Stands request.event) ∧
      ((state.capture facility request now).record.toList.map (·.lostBefore)).sum +
          ((state.capture facility request now).state.events request.event).policyCounter +
        (state.events request.event).record.rejected =
      (state.events request.event).policyCounter +
        ((state.capture facility request now).state.events request.event).record.rejected := by
    rcases state.capture_cases facility request now with
      ⟨event, _, sifted, captured⟩ | ⟨event, _, sifted, _, captured⟩ |
        ⟨event, record, ingress, sifted, _, captured⟩ <;> rw [captured]
    · refine ⟨nofun, ?_⟩
      rw [setEvent_self]
      change 0 + event.policyCounter + _ = _ + event.record.rejected
      obtain ⟨counter, rejected⟩ | ⟨counter, rejected, _⟩ := sifted_rejected sifted <;> omega
    · obtain ⟨counter, rejected⟩ := (sifted_rejected sifted).resolve_right
        fun ⟨_, _, _, answered⟩ => nomatch answered
      refine ⟨nofun, ?_⟩
      rw [setEvent_self]
      change 0 + (event.policyCounter + 1) + _ = _ + (event.record.ingressRejected + 1 +
        event.record.aggregationRejected)
      unfold EventRecord.rejected at rejected ⊢
      omega
    · obtain ⟨_, rejected⟩ := (sifted_rejected sifted).resolve_right
        fun ⟨_, _, _, answered⟩ => nomatch answered
      obtain ⟨occurrenceCount, made⟩ :=
        (attempted (state.events request.event)).record_of_sift sifted
      have ringed := (state.setEvent request.event event).sameCounts_setRing
        ((state.setEvent request.event event).ring ingress ++ [state.number record]) ingress
        request.event
      rw [setEvent_self] at ringed
      have read : (state.number record).lostBefore =
          (state.events request.event).policyCounter := by
        rw [made]
        exact Nat.min_eq_left (Nat.le_pred_of_lt few)
      refine ⟨forall_mem_singleton.mpr ?_, ?_⟩
      · rw [made]
        exact ⟨rfl, decide_eq_true_iff.trans Nat.pos_iff_ne_zero.symm⟩
      · rw [materialized, setEvent_self]
        exact congrArg₂ (· + ·) read
          ((congrArg EventRecord.rejected ringed.record).trans rejected).symm
  exact marked.add request.event (fun _ => sameCounts_capture request now) marks.1 marks.2

omit [DecidableEq Key] in
theorem Marked.take {event position : Nat} {record : StoredRecord Payload}
    (shaped : state.Shaped facility) (marks : state.Marks facility (.take event))
    (taking : state.Takes facility next event position record) :
    Marked next (records ++ [record]) := by
  obtain ⟨entry, at_, front, representative, stands, made⟩ := taking.entry
  refine marked.add event (fun other differ => ?_) (forall_mem_singleton.mpr ?_) ?_
  · rw [taking.events, Function.update_of_ne differ]
    exact ⟨rfl, rfl, rfl⟩
  · rw [made]
    exact (shaped.events event).represents entry (mem_of_getElem? at_) representative stands
  · have read : record.lostBefore = (state.events event).policyCounter :=
      (congrArg StoredRecord.lostBefore made).trans (marks entry front representative stands)
    rw [taking.events, Function.update_self]
    exact congrArg (· + _) read

end

/-- Every step that meets the condition keeps the losses marked. -/
theorem Marked.step {ledger : Ledger Payload} {label : Label Payload}
    (shaped : state.Shaped facility) (marked : Marked state ledger.materialized)
    (marks : state.Marks facility label) (stepped : state.step facility label = some next) :
    Marked next (ledger.write facility state next label).materialized := by
  cases label with
  | enter number request inIsr =>
    obtain ⟨_, _, _, rfl⟩ := State.step_enter stepped
    exact marked.of_same fun _ => .refl _
  | capture number now acquired =>
    obtain ⟨request, call, ⟨rfl, rfl⟩ | ⟨rfl, rfl⟩⟩ := State.step_capture stepped
    · simp only [Ledger.write, call]
      exact (marked.capture (marks request call)).of_same fun _ => .refl _
    · simp only [Ledger.write, call]
      exact marked.of_same fun _ => .refl _
  | pop =>
    obtain ⟨ingress, record, _, _, rfl⟩ := State.popNext_some stepped
    exact marked.of_same fun event => (state.sameCounts_popFront ingress record event).sameAttempts
  | process position kept =>
    obtain ⟨task, _, rfl⟩ := map_eq_some_iff.mp stepped
    have same : Marked (state.process facility position task kept) ledger.materialized :=
      marked.of_same (sameAttempts_process _ _ _)
    unfold Ledger.write
    dsimp only
    split <;> exact same
  | take event =>
    obtain ⟨_, takes⟩ := ite_none_right_eq_some.mp stepped
    obtain ⟨position, record, taking⟩ := State.takePending_some takes
    rw [taking.written]
    exact marked.take shaped marks taking
  | cancel =>
    obtain ⟨_, ⟨⟩⟩ := ite_none_right_eq_some.mp stepped
    exact ⟨marked.exact, marked.flagged⟩
  | _ =>
    cases stepped
    exact marked.of_same fun _ => .refl _

end

/-! ### Runs -/

/-- In every run in which the counters stay within 32 bits and each flush finds the counter as its
aggregate has read it, the records mark every loss once, but for those that the counter holds, and
their flags say so. -/
theorem losses_are_marked [DecidableEq Key] (facility : Facility Payload Key)
    {state : State Payload Key} {ledger : Ledger Payload}
    (reached : (recordedMachine facility).ReachableWhere
      (fun (state, _) label => state.Marks facility label) (facility.initial, {}) (state, ledger)) :
    (∀ event, lostBefore event ledger.materialized + (state.events event).policyCounter =
      (state.events event).record.ingressRejected +
        (state.events event).record.aggregationRejected) ∧
    ∀ record ∈ ledger.materialized, (record.flags.lostBefore = true ↔ 0 < record.lostBefore) := by
  have kept : state.Shaped facility ∧ Marked state ledger.materialized :=
    reached.invariant (fun (state, ledger) => state.Shaped facility ∧
        Marked state ledger.materialized)
      ⟨facility.shaped_initial, fun _ => rfl, nofun⟩
      fun (state, ledger) label next ⟨shaped, marked⟩ marks stepped => by
        obtain ⟨after, taken, rfl⟩ := map_eq_some_iff.mp stepped
        exact ⟨shaped.step taken, marked.step shaped marks taken⟩
  exact ⟨kept.2.exact, fun record member => (kept.2.flagged record member).2⟩

/-- One event whose occurrences are counted for each of two keys. -/
abbrev paired : Facility Nat Nat where
  count := 1
  policies _ := { capture := .aggregateKeyed 10 id 2, retention := .transient }
  threadDepth := 1
  isrDepth := 1

/-- Observations of keys, the first of a given number. -/
def observed : Nat → List Nat → List (Label Nat)
  | _, [] => []
  | number, key :: rest =>
      .enter number { event := 0, payload := key } false :: .capture number 0 true ::
        observed (number + 1) rest

theorem losses_are_marked_paired :
    ∃ state ledger, (recordedMachine paired).run (paired.initial, {})
        (observed 0 [1, 2, 3, 1] ++ [.stop, .take 0]) = some (state, ledger) ∧
      lostBefore 0 ledger.materialized + (state.events 0).policyCounter = 1 := by
  refine ⟨_, _, rfl, (losses_are_marked paired
    ⟨observed 0 [1, 2, 3, 1] ++ [.stop, .take 0], ?_, rfl⟩).1 0⟩
  refine .step trivial rfl <| .step ?_ rfl <| .step trivial rfl <| .step ?_ rfl <|
    .step trivial rfl <| .step ?_ rfl <| .step trivial rfl <| .step ?_ rfl <|
    .step trivial rfl <| .step ?_ rfl trivial
  · rintro request ⟨⟩
    decide
  · rintro request ⟨⟩
    decide
  · rintro request ⟨⟩
    decide
  · rintro request ⟨⟩
    decide
  · rintro entry ⟨⟩ record ⟨⟩
    rfl

/-- A third key is turned away. The flush of an aggregate that was there before clears the counter
and marks nothing; two aggregates that have read it after that both mark the loss. -/
theorem losses_are_mismarked :
    (∃ state ledger, (recordedMachine paired).Reachable (paired.initial, {}) (state, ledger) ∧
      (state.events 0).record.aggregationRejected = 1 ∧ (state.events 0).policyCounter = 0 ∧
      lostBefore 0 ledger.materialized = 0) ∧
    ∃ state ledger, (recordedMachine paired).Reachable (paired.initial, {}) (state, ledger) ∧
      (state.events 0).record.ingressRejected + (state.events 0).record.aggregationRejected = 1 ∧
      lostBefore 0 ledger.materialized = 2 :=
  ⟨⟨_, _, ⟨observed 0 [1, 2, 3] ++ [.stop, .take 0], rfl⟩, rfl, rfl, rfl⟩,
    _, _, ⟨observed 0 [1, 2, 3, 1, 2] ++ [.stop, .take 0, .take 0], rfl⟩, rfl, rfl⟩

end Solar.Events
