/-
This file says what each locked section of the event facility does to its rings, to
the slots of its critical events and to its tasks: a capture appends at most one
record to one ring, and `pop_next` moves the front of one ring to the tasks.
-/

import Solar.Events.Facility
import Solar.Library.Prefixes

namespace Solar.Events

open Option Function List

variable {Payload Key : Type}

/-! ### What a capture does to the slots of its event -/

/-- Two states of an event with the same slots. -/
structure EventState.SameSlots (event other : EventState Payload Key) : Prop where
  ingress : other.criticalIngress = event.criticalIngress
  history : other.criticalHistory = event.criticalHistory
  inflight : other.criticalInflight = event.criticalInflight

section

variable {event other : EventState Payload Key}

theorem EventState.SameSlots.refl (event : EventState Payload Key) : event.SameSlots event :=
  ⟨rfl, rfl, rfl⟩

theorem EventState.SameSlots.trans {last : EventState Payload Key} (first : event.SameSlots other)
    (second : other.SameSlots last) : event.SameSlots last :=
  ⟨second.ingress.trans first.ingress, second.history.trans first.history,
    second.inflight.trans first.inflight⟩

theorem EventState.sameSlots_aggregate (position : Nat) (key : Option Key) (window now : Int)
    (stored : StoredRecord Payload) :
    event.SameSlots (event.aggregate position key window now stored).1 := by
  unfold EventState.aggregate
  dsimp only
  split <;> exact ⟨rfl, rfl, rfl⟩

theorem EventState.sameSlots_sift [DecidableEq Key] (policy : CapturePolicy Payload Key)
    (stored : StoredRecord Payload) (now : Int) :
    event.SameSlots (event.sift policy stored now).1 := by
  cases policy with
  | everyOccurrence => exact .refl event
  | aggregateCount window => exact event.sameSlots_aggregate _ _ _ _ _
  | aggregateKeyed window key capacity =>
    unfold EventState.sift
    dsimp only
    split
    · exact ⟨rfl, rfl, rfl⟩
    · exact event.sameSlots_aggregate _ _ _ _ _
  | _ =>
    unfold EventState.sift
    dsimp only
    split <;> exact ⟨rfl, rfl, rfl⟩

/-- The record that a policy keeps is the one it was given, with its occurrences. -/
theorem EventState.record_of_sift [DecidableEq Key] {policy : CapturePolicy Payload Key}
    {stored record : StoredRecord Payload} {now : Int}
    (sifted : event.sift policy stored now = (other, .kept record)) :
    ∃ occurrenceCount, record = { stored with occurrenceCount } := by
  have aggregated {position : Nat} {key : Option Key} {window : Int}
      (kept : event.aggregate position key window now stored = (other, .kept record)) :
      ∃ occurrenceCount, record = { stored with occurrenceCount } := by
    unfold EventState.aggregate at kept
    dsimp only at kept
    split at kept
    · cases kept
    · cases kept
      exact ⟨_, rfl⟩
  cases policy with
  | everyOccurrence =>
    cases sifted
    exact ⟨_, rfl⟩
  | aggregateCount window => exact aggregated sifted
  | aggregateKeyed window key capacity =>
    unfold EventState.sift at sifted
    dsimp only at sifted
    split at sifted
    · cases sifted
    · exact aggregated sifted
  | _ =>
    unfold EventState.sift at sifted
    dsimp only at sifted
    split at sifted <;> cases sifted
    exact ⟨_, rfl⟩

end

/-! ### Rings -/

variable {facility : Facility Payload Key} {state next : State Payload Key}

section

theorem State.setEvent_self (event : Nat) (value : EventState Payload Key) :
    (state.setEvent event value).events event = value :=
  update_self _ _ _

theorem State.setEvent_other {event other : Nat} (value : EventState Payload Key)
    (differ : other ≠ event) : (state.setEvent event value).events other = state.events other :=
  update_of_ne differ _ _

variable (records : List (StoredRecord Payload))

theorem State.ring_setRing_self (ingress : Ingress) :
    (state.setRing records ingress).ring ingress = records := by
  cases ingress with
  | thread | isr => rfl
  | critical event => exact congrArg EventState.criticalIngress (setEvent_self event _)

theorem State.ring_setRing_other {ingress other : Ingress} (differ : other ≠ ingress) :
    (state.setRing records ingress).ring other = state.ring other := by
  cases ingress <;> cases other <;> first | rfl | exact absurd rfl differ | skip
  exact congrArg EventState.criticalIngress (setEvent_other _ fun same => differ (congrArg _ same))

variable {value : EventState Payload Key} {event : Nat}

theorem State.ring_setEvent
    (same : value.criticalIngress = (state.events event).criticalIngress) (ingress : Ingress) :
    (state.setEvent event value).ring ingress = state.ring ingress := by
  cases ingress with
  | thread | isr => rfl
  | critical other =>
    by_cases own : other = event
    · subst own
      exact (congrArg EventState.criticalIngress (setEvent_self other value)).trans same
    · exact congrArg EventState.criticalIngress (setEvent_other value own)

theorem State.ring_congr (thread : next.threadIngress = state.threadIngress)
    (isr : next.isrIngress = state.isrIngress) (events : next.events = state.events) :
    next.ring = state.ring := by
  funext ingress
  cases ingress with
  | thread => exact thread
  | isr => exact isr
  | critical event => exact congrArg (fun events => (events event).criticalIngress) events

theorem State.ring_materialized (event : Nat) (record : StoredRecord Payload) :
    (state.materialized event record).ring = state.ring := by
  have numbered : (state.materialized event record).ring =
      (state.setEvent event ((state.events event).materialize record)).ring :=
    ring_congr rfl rfl rfl
  exact numbered.trans (funext (ring_setEvent rfl))

/-- The slots of an event, but for its ring. -/
structure EventState.SameKept (event other : EventState Payload Key) : Prop where
  history : other.criticalHistory = event.criticalHistory
  inflight : other.criticalInflight = event.criticalInflight

/-- The ring of a record, and the room in it. -/
inductive Fits (facility : Facility Payload Key) (state : State Payload Key)
    (record : StoredRecord Payload) : Ingress → Prop
  | critical (reservedSlots : Nat)
      (retention : (facility.policies record.event).retention = .critical reservedSlots)
      (room : (state.events record.event).criticalIngress.length +
          (state.events record.event).criticalHistory.length +
          (state.events record.event).criticalInflight < reservedSlots) :
      Fits facility state record (.critical record.event)
  | thread (ordinary : (facility.policies record.event).retention.isCritical = false) :
      Fits facility state record .thread
  | isr (ordinary : (facility.policies record.event).retention.isCritical = false) :
      Fits facility state record .isr

variable {record : StoredRecord Payload}

theorem State.push_some {ingress : Ingress} {capacity : Nat}
    (pushes : state.push ingress capacity record = some next) :
    next = state.setRing (state.ring ingress ++ [record]) ingress := by
  unfold State.push at pushes
  split at pushes
  · cases pushes
  · exact (some.inj pushes).symm

theorem State.admit_some (admits : state.enqueue facility record = some next) :
    ∃ ingress, Fits facility state record ingress ∧
      next = state.setRing (state.ring ingress ++ [record]) ingress := by
  unfold State.enqueue at admits
  cases retention : (facility.policies record.event).retention with rw [retention] at admits
  | critical reservedSlots =>
    obtain ⟨room, pushes⟩ := ite_none_right_eq_some.mp admits
    exact ⟨_, .critical reservedSlots retention room, push_some pushes⟩
  | transient | buffered | persistent =>
    have ordinary : (facility.policies record.event).retention.isCritical = false := by
      rw [retention]
      rfl
    dsimp only at admits
    split at admits
    · exact ⟨_, .isr ordinary, push_some admits⟩
    · exact ⟨_, .thread ordinary, push_some admits⟩

/-! ### Captures -/

/-- A capture is answered by its policy, finds no room for its record, or appends it to a ring. -/
theorem State.capture_cases [DecidableEq Key] (state : State Payload Key)
    (facility : Facility Payload Key) (request : Request Payload) (now : Int) :
    (∃ event answer, state.sifted facility request now = (event, .answered answer) ∧
      state.capture facility request now =
        { state := state.setEvent request.event event, answer }) ∨
    (∃ event record, state.sifted facility request now = (event, .kept record) ∧
      (state.setEvent request.event event).enqueue facility (state.number record) = none ∧
      state.capture facility request now =
        { state := state.setEvent request.event
            (event.reject (facility.policies request.event).retention.exhausted)
          answer := .error (facility.policies request.event).retention.exhausted }) ∨
    ∃ event record ingress, state.sifted facility request now = (event, .kept record) ∧
      Fits facility (state.setEvent request.event event) (state.number record) ingress ∧
      state.capture facility request now =
        { state := ((state.setEvent request.event event).setRing
            ((state.setEvent request.event event).ring ingress ++ [state.number record])
            ingress).materialized request.event (state.number record)
          answer := .ok
            { sequence := (state.number record).sequence, timestamp := now
              occurrenceCount := (state.number record).occurrenceCount }
          record := some (state.number record) } := by
  unfold State.capture
  rcases sifted : state.sifted facility request now with ⟨event, answer | record⟩
  · exact .inl ⟨event, answer, rfl, rfl⟩
  · dsimp only [State.admission]
    cases admits : (state.setEvent request.event event).enqueue facility (state.number record) with
    | none => exact .inr (.inl ⟨event, record, rfl, admits, rfl⟩)
    | some admitted =>
      obtain ⟨ingress, fits, rfl⟩ := admit_some admits
      exact .inr (.inr ⟨event, record, ingress, rfl, fits, rfl⟩)

/-- What an admission leaves alone: the histories, the counts, the tasks and the flags. -/
structure State.Frame (state next : State Payload Key) : Prop where
  kept : ∀ event, (state.events event).SameKept (next.events event)
  tasks : next.tasks = state.tasks
  abandoned : next.abandoned = state.abandoned
  accepting : next.accepting = state.accepting
  processRecord : next.processRecord = state.processRecord
  calls : next.calls = state.calls

theorem State.Frame.trans {last : State Payload Key} (first : state.Frame next)
    (second : next.Frame last) : state.Frame last :=
  ⟨fun event => ⟨(second.kept event).history.trans (first.kept event).history,
    (second.kept event).inflight.trans (first.kept event).inflight⟩,
    second.tasks.trans first.tasks, second.abandoned.trans first.abandoned,
    second.accepting.trans first.accepting, second.processRecord.trans first.processRecord,
    second.calls.trans first.calls⟩

theorem State.frame_setEvent (same : (state.events event).SameKept value) :
    state.Frame (state.setEvent event value) := by
  refine ⟨fun other => ?_, rfl, rfl, rfl, rfl, rfl⟩
  by_cases own : other = event
  · subst own
    rw [setEvent_self]
    exact same
  · rw [setEvent_other value own]
    exact ⟨rfl, rfl⟩

theorem State.frame_setRing (ingress : Ingress) : state.Frame (state.setRing records ingress) := by
  cases ingress with
  | thread | isr => exact ⟨fun _ => ⟨rfl, rfl⟩, rfl, rfl, rfl, rfl, rfl⟩
  | critical event => exact frame_setEvent ⟨rfl, rfl⟩

theorem State.frame_materialized (event : Nat) (record : StoredRecord Payload) :
    state.Frame (state.materialized event record) :=
  have same : state.Frame (state.setEvent event ((state.events event).materialize record)) :=
    frame_setEvent ⟨rfl, rfl⟩
  ⟨same.kept, rfl, rfl, rfl, rfl, rfl⟩

/-- One record goes to the end of one ring, or no ring changes. -/
def State.Appends (facility : Facility Payload Key) (state : State Payload Key)
    (captured : Captured Payload Key) : Prop :=
  (captured.record = none ∧ ∀ ingress, captured.state.ring ingress = state.ring ingress) ∨
    ∃ record ingress, captured.record = some record ∧ Fits facility state record ingress ∧
      captured.state.ring ingress = state.ring ingress ++ [record] ∧
      ∀ other, other ≠ ingress → captured.state.ring other = state.ring other

theorem Fits.of_same {ingress : Ingress} (same : (state.events event).SameSlots value)
    (fits : Fits facility (state.setEvent event value) record ingress) :
    Fits facility state record ingress := by
  cases fits with
  | thread ordinary => exact .thread ordinary
  | isr ordinary => exact .isr ordinary
  | critical reservedSlots retention room =>
    refine .critical reservedSlots retention ?_
    by_cases own : record.event = event
    · rw [own, State.setEvent_self, same.ingress, same.history, same.inflight] at room
      rw [own]
      exact room
    · rw [State.setEvent_other value own] at room
      exact room

variable [DecidableEq Key] {request : Request Payload} {now : Int} {event : EventState Payload Key}

theorem State.sameSlots_sifted {sifted : Sifted Payload}
    (result : state.sifted facility request now = (event, sifted)) :
    (state.events request.event).SameSlots event := by
  have same := (attempted (state.events request.event)).sameSlots_sift
    (facility.policies request.event).capture
    (stored (facility.policies request.event) (attempted (state.events request.event)) request now)
    now
  have first : (state.events request.event).SameSlots (attempted (state.events request.event)) :=
    ⟨rfl, rfl, rfl⟩
  have other : (state.sifted facility request now).1 = event := congrArg Prod.fst result
  exact other ▸ first.trans same

theorem State.event_sifted (result : state.sifted facility request now = (event, .kept record)) :
    (state.number record).event = request.event ∧
      (state.number record).isr = decide (request.operation = .observeIsr) := by
  obtain ⟨occurrenceCount, rfl⟩ :=
    (attempted (state.events request.event)).record_of_sift result
  exact ⟨rfl, rfl⟩

theorem State.frame_capture (state : State Payload Key) (facility : Facility Payload Key)
    (request : Request Payload) (now : Int) :
    state.Frame (state.capture facility request now).state := by
  rcases state.capture_cases facility request now with
    ⟨event, _, sifted, captured⟩ | ⟨event, _, sifted, _, captured⟩ |
      ⟨event, record, ingress, sifted, _, captured⟩ <;>
    rw [captured] <;> have same := sameSlots_sifted sifted
  · exact frame_setEvent ⟨same.history, same.inflight⟩
  · exact frame_setEvent ⟨same.history, same.inflight⟩
  · have entered : state.Frame (state.setEvent request.event event) :=
      frame_setEvent ⟨same.history, same.inflight⟩
    have pushed := entered.trans (frame_setRing
      ((state.setEvent request.event event).ring ingress ++ [state.number record]) ingress)
    exact pushed.trans (frame_materialized _ _)

theorem State.appends_capture (state : State Payload Key) (facility : Facility Payload Key)
    (request : Request Payload) (now : Int) :
    state.Appends facility (state.capture facility request now) := by
  rcases state.capture_cases facility request now with
    ⟨event, _, sifted, captured⟩ | ⟨event, _, sifted, _, captured⟩ |
      ⟨event, record, ingress, sifted, fits, captured⟩ <;>
    rw [captured] <;> have same := sameSlots_sifted sifted
  · exact .inl ⟨rfl, ring_setEvent same.ingress⟩
  · exact .inl ⟨rfl, ring_setEvent same.ingress⟩
  · refine .inr ⟨state.number record, ingress, rfl, fits.of_same same, ?_, fun other differ => ?_⟩
    · rw [ring_materialized, ring_setRing_self, ring_setEvent same.ingress]
    · rw [ring_materialized, ring_setRing_other _ differ, ring_setEvent same.ingress]

/-- A step of a call that begins changes the calls only: the call is refused, or it keeps its request
for the capture. -/
theorem State.step_enter {number : Nat} {inIsr : Bool}
    (stepped : state.step facility (.enter number request inIsr) = some next) :
    request.event < facility.count ∧ ∃ call, (∀ kept, call = .entered kept → kept = request) ∧
      next = { state with calls := update state.calls number call } := by
  simp only [step] at stepped
  split at stepped
  · obtain ⟨registered, ⟨⟩⟩ := ite_none_right_eq_some.mp stepped
    refine ⟨registered, ?_⟩
    unfold enter
    split
    · exact ⟨.returned _, nofun, rfl⟩
    · split
      · exact ⟨.returned _, nofun, rfl⟩
      · exact ⟨_, fun _ => (Call.entered.inj · |>.symm), rfl⟩
  · cases stepped

/-- A step of a call at the lock captures its request, or answers that the lock is not free. -/
theorem State.step_capture {number : Nat} {acquired : Bool}
    (stepped : state.step facility (.capture number now acquired) = some next) :
    ∃ request, state.calls number = .entered request ∧
      (acquired = true ∧ next = (state.capture facility request now).state.answer number
          (state.capture facility request now).answer ∨
        acquired = false ∧ next = state.answer number (.error .wouldBlock)) := by
  simp only [step] at stepped
  cases call : state.calls number with rw [call] at stepped
  | entered request =>
    cases acquired with
    | true => exact ⟨request, rfl, .inl ⟨rfl, (some.inj stepped).symm⟩⟩
    | false =>
      obtain ⟨_, ⟨⟩⟩ := ite_none_left_eq_some.mp stepped
      exact ⟨request, rfl, .inr ⟨rfl, rfl⟩⟩
  | _ => cases stepped

end

/-! ### Processing -/

section

/-- The record that is considered is in front of its ring. -/
theorem State.head?_of_consider (ingresses : List Ingress) {ingress : Ingress}
    {record : StoredRecord Payload}
    (best : ingresses.foldl state.consider none = some (ingress, record)) :
    ingress ∈ ingresses ∧ (state.ring ingress).head? = some record := by
  have fronts : ∀ found ∈ ingresses.foldl state.consider none,
      found.1 ∈ ingresses ∧ (state.ring found.1).head? = some found.2 := by
    refine Prefixes.foldl_invariant state.consider ingresses none
      (motive := fun best => ∀ found ∈ best,
        found.1 ∈ ingresses ∧ (state.ring found.1).head? = some found.2) nofun
      fun best other member holds => ?_
    unfold State.consider
    cases front : (state.ring other).head? with
    | none => exact holds
    | some record =>
      cases best with
      | none =>
        rintro _ ⟨⟩
        exact ⟨member, front⟩
      | some earlier =>
        dsimp only
        split
        · rintro _ ⟨⟩
          exact ⟨member, front⟩
        · rintro _ ⟨⟩
          exact holds _ rfl
  exact fronts _ best

theorem State.popNext_some {count : Nat} (pops : state.popNext count = some next) :
    ∃ ingress record, ingress ∈ ingresses count ∧ (state.ring ingress).head? = some record ∧
      next = state.popFront ingress record := by
  obtain ⟨⟨ingress, record⟩, best, rfl⟩ := map_eq_some_iff.mp pops
  obtain ⟨member, front⟩ := head?_of_consider _ best
  exact ⟨ingress, record, member, front, rfl⟩

theorem State.events_popFront (ingress : Ingress) (record : StoredRecord Payload) (event : Nat) :
    (state.popFront ingress record).events event =
      if ingress = .critical event then
        { state.events event with
          criticalIngress := (state.events event).criticalIngress.tail
          criticalInflight := (state.events event).criticalInflight + 1 }
      else state.events event := by
  cases ingress with
  | thread | isr => rfl
  | critical own =>
    by_cases same : own = event
    · subst same
      rw [if_pos rfl, popFront, setEvent_self, setRing, setEvent_self]
      rfl
    · rw [if_neg fun equal => same (Ingress.critical.inj equal), popFront,
        setEvent_other _ (Ne.symm same), setRing, setEvent_other _ (Ne.symm same)]

theorem State.ring_popFront_self (ingress : Ingress) (record : StoredRecord Payload) :
    (state.popFront ingress record).ring ingress = (state.ring ingress).tail := by
  cases ingress with
  | thread | isr => rfl
  | critical event =>
    refine (congrArg EventState.criticalIngress
      (state.events_popFront (.critical event) record event)).trans ?_
    rw [if_pos rfl]
    rfl

theorem State.ring_popFront_other {ingress other : Ingress} (record : StoredRecord Payload)
    (differ : other ≠ ingress) :
    (state.popFront ingress record).ring other = state.ring other := by
  cases other with
  | critical event =>
    refine (congrArg EventState.criticalIngress
      (state.events_popFront ingress record event)).trans ?_
    rw [if_neg (Ne.symm differ)]
    rfl
  | _ => cases ingress <;> first | rfl | exact absurd rfl differ

/-- The aggregate that a flush takes. -/
def State.front (facility : Facility Payload Key) (state : State Payload Key) (event : Nat) :
    Option (Aggregate Payload Key) :=
  (state.events event).aggregation.find? fun entry =>
    (!(facility.policies event).capture.keyed || entry.key.isSome) && decide (entry.count ≠ 0)

/-- What a flush does: an aggregate becomes a record that is taken. -/
structure State.Takes (facility : Facility Payload Key) (state next : State Payload Key)
    (event : Nat) (position : Nat) (record : StoredRecord Payload) : Prop where
  tasks : next.tasks = state.tasks ++ [.taken record]
  abandoned : next.abandoned = state.abandoned
  events : next.events = update state.events event
    (EventState.materialize { state.events event with
      aggregation := (state.events event).aggregation.set position {} } record)
  entry : ∃ entry, (state.events event).aggregation[position]? = some entry ∧
    state.front facility event = some entry ∧
      ∃ representative ∈ entry.representative, record =
        { representative with
          sequence := state.nextSequence
          occurrenceCount := entry.count
          flags := { representative.flags with aggregated := true } }
  nextSequence : next.nextSequence = state.nextSequence + 1
  thread : next.threadIngress = state.threadIngress
  isr : next.isrIngress = state.isrIngress
  calls : next.calls = state.calls

theorem State.takePending_some {event : Nat}
    (takes : state.takePending facility event = some next) :
    ∃ position record, state.Takes facility next event position record := by
  unfold State.takePending at takes
  dsimp only at takes
  split at takes
  · cases takes
  · rename_i position found
    obtain ⟨bound, holds, earlier⟩ := findIdx?_eq_some_iff_getElem.mp found
    have front : state.front facility event = some (state.events event).aggregation[position] :=
      find?_eq_some_iff_getElem.mpr ⟨holds, position, bound, rfl, fun other before =>
        congrArg (!·) (Bool.eq_false_iff.mpr (earlier other before))⟩
    have at_ := getElem?_eq_getElem bound
    have here : (state.events event).aggregation.getD position {} =
        (state.events event).aggregation[position] := by
      rw [getD_eq_getElem?_getD, at_]
      rfl
    split at takes
    · cases takes
    · rename_i representative has
      obtain ⟨⟩ := takes
      rw [here] at has
      refine ⟨position, _, rfl, rfl, ?_, ⟨_, at_, front, representative, has,
        congrArg (fun entry : Aggregate Payload Key => { representative with
          sequence := state.nextSequence
          occurrenceCount := entry.count
          flags := { representative.flags with aggregated := true } }) here⟩, rfl, rfl, rfl, rfl⟩
      change update (update state.events event _) event _ = _
      rw [update_idem, setEvent_self]

end

end Solar.Events
