/-
This file is about the reserve of the critical events. A capture admits a record of a
critical event only if its slots are not all taken by records in the ingress, on their
way, or in the history, so that the history has room when the record comes up. The
flush of the aggregates makes records that have no slot; the reserve stands exactly as
long as none of them is retained while another record is on its way, or in a slot that
a record of the ingress counts on.
-/

import Solar.Events.Moves

namespace Solar.Events

open List Option Function

variable {Payload Key : Type}

/-! ### The reserve -/

/-- The records of an event that were popped and not retained. -/
def State.popped (state : State Payload Key) (event : Nat) : Nat :=
  (state.tasks ++ state.abandoned).countP fun task =>
    task.isPopped && decide (task.record.event = event)

/-- The slots of an event are enough for its records, and those on their way are counted. -/
structure EventState.Reserved (event : EventState Payload Key) (reservedSlots popped : Nat) :
    Prop where
  fits : event.criticalIngress.length + event.criticalInflight + event.criticalHistory.length ≤
    reservedSlots
  counted : event.criticalInflight = popped

/-- The reserve of every critical event stands, and a record that was popped can be retained. -/
structure State.Reserve (facility : Facility Payload Key) (state : State Payload Key) : Prop where
  reserved : ∀ event reservedSlots, (facility.policies event).retention = .critical reservedSlots →
    (state.events event).Reserved reservedSlots (state.popped event)
  retains : ∀ record kept reservedSlots, .popped record ∈ state.tasks →
    (facility.policies record.event).retention = .critical reservedSlots →
    (State.retain (.critical reservedSlots) (state.events record.event) record kept).2 = true

/-- A record that the flush retains for a critical event finds none on its way, and a slot that no
record of the ingress counts on; or it finds the history full, and is not retained. -/
def State.Spares (facility : Facility Payload Key) (state : State Payload Key) :
    Label Payload → Prop
  | .process position _ => ∀ record reservedSlots,
      state.tasks[position]? = some (.taken record) → state.processRecord = true →
      (facility.policies record.event).retention = .critical reservedSlots →
      (state.events record.event).criticalInflight = 0 ∧
        ((state.events record.event).criticalHistory.length = reservedSlots ∨
          (state.events record.event).criticalIngress.length +
            (state.events record.event).criticalHistory.length < reservedSlots)
  | _ => True

/-- The records of a critical event are in its own ring. -/
structure State.Sorted (facility : Facility Payload Key) (state : State Payload Key) : Prop where
  critical : ∀ event, ∀ record ∈ (state.events event).criticalIngress, record.event = event
  thread : ∀ record ∈ state.threadIngress,
    (facility.policies record.event).retention.isCritical = false
  isr : ∀ record ∈ state.isrIngress, (facility.policies record.event).retention.isCritical = false

section

variable {event other : EventState Payload Key}

theorem EventState.Reserved.of_same {reservedSlots popped : Nat}
    (reserved : event.Reserved reservedSlots popped) (same : event.SameSlots other) :
    other.Reserved reservedSlots popped := by
  refine ⟨?_, same.inflight.trans reserved.counted⟩
  rw [same.ingress, same.history, same.inflight]
  exact reserved.fits

end

/-! ### What a step does to the reserve -/

section

variable {facility : Facility Payload Key} {state next : State Payload Key}

/-- The slots of every critical event are enough. -/
def State.AllReserved (facility : Facility Payload Key) (state : State Payload Key) : Prop :=
  ∀ event reservedSlots, (facility.policies event).retention = .critical reservedSlots →
    (state.events event).Reserved reservedSlots (state.popped event)

theorem State.AllReserved.reserve (reserved : state.AllReserved facility) :
    state.Reserve facility := by
  refine ⟨reserved, fun record kept reservedSlots member retention => ?_⟩
  obtain ⟨fits, counted⟩ := reserved record.event reservedSlots retention
  have onTheWay : 0 < state.popped record.event :=
    countP_pos_iff.mpr ⟨.popped record, mem_append_left _ member, by
      simp [Task.isPopped, Task.record]⟩
  have room : (state.events record.event).criticalHistory.length ≠ reservedSlots := by omega
  rw [State.retain, if_neg room]

theorem State.reserve_iff : state.Reserve facility ↔ state.AllReserved facility :=
  ⟨fun reserve => reserve.reserved, State.AllReserved.reserve⟩

theorem State.AllReserved.of_same (reserved : state.AllReserved facility)
    (same : ∀ event, (state.events event).SameSlots (next.events event))
    (popped : ∀ event, next.popped event = state.popped event) : next.AllReserved facility :=
  fun event reservedSlots retention =>
    (popped event).symm ▸ (reserved event reservedSlots retention).of_same (same event)

theorem State.popped_congr (tasks : next.tasks = state.tasks)
    (abandoned : next.abandoned = state.abandoned) (event : Nat) :
    next.popped event = state.popped event := by
  unfold State.popped
  rw [tasks, abandoned]

variable {task : Task Payload} {record : StoredRecord Payload} {kept : Bool}

theorem State.popped_snoc (tasks : next.tasks = state.tasks ++ [task])
    (abandoned : next.abandoned = state.abandoned) {event : Nat} :
    next.popped event = state.popped event +
      if task.isPopped && decide (task.record.event = event) then 1 else 0 := by
  unfold State.popped
  rw [tasks, abandoned, countP_append, countP_append, countP_append, countP_singleton]
  omega

variable {position : Nat} {event : EventState Payload Key}

theorem State.popped_eraseIdx (at_ : state.tasks[position]? = some task) {event : Nat} :
    state.popped event =
      ({ state with tasks := state.tasks.eraseIdx position } : State Payload Key).popped event +
        if task.isPopped && decide (task.record.event = event) then 1 else 0 := by
  obtain ⟨bound, rfl⟩ := List.getElem?_eq_some_iff.mp at_
  have permuted := getElem_cons_eraseIdx_perm bound
  unfold State.popped
  rw [countP_append, countP_append, ← permuted.countP_eq, countP_cons]
  exact Nat.add_right_comm _ _ _

section

variable (reserved : state.AllReserved facility)

include reserved

/-- A capture takes a slot that is free. -/
theorem State.AllReserved.capture [DecidableEq Key] (request : Request Payload) (now : Int) :
    (state.capture facility request now).state.AllReserved facility := by
  have frame := state.frame_capture facility request now
  intro event reservedSlots retention
  rw [popped_congr frame.tasks frame.abandoned]
  obtain ⟨fits, counted⟩ := reserved event reservedSlots retention
  have kept := frame.kept event
  rcases state.appends_capture facility request now with
    ⟨_, same⟩ | ⟨record, ingress, _, room, appended, others⟩
  · have ring := same (.critical event)
    exact EventState.Reserved.of_same ⟨fits, counted⟩ ⟨ring, kept.history, kept.inflight⟩
  · by_cases own : ingress = .critical event
    · subst own
      cases room with
      | critical slots sameRetention free =>
        obtain rfl : slots = reservedSlots :=
          RetentionPolicy.critical.inj (sameRetention.symm.trans retention)
        refine ⟨?_, kept.inflight.trans counted⟩
        have length := congrArg length appended
        rw [length_append] at length
        rw [kept.history, kept.inflight]
        change ((state.capture facility request now).state.ring (.critical record.event)).length +
          _ + _ ≤ slots
        rw [length]
        change (state.events record.event).criticalIngress.length + 1 + _ + _ ≤ slots
        omega
    · have ring := others (.critical event) (Ne.symm own)
      exact EventState.Reserved.of_same ⟨fits, counted⟩ ⟨ring, kept.history, kept.inflight⟩

/-- A record that is popped goes from a slot of the ingress to one of those on their way. -/
theorem State.AllReserved.popFront (sorted : state.Sorted facility) {ingress : Ingress}
    (front : (state.ring ingress).head? = some record) :
    (state.popFront ingress record).AllReserved facility := by
  intro event reservedSlots retention
  obtain ⟨fits, counted⟩ := reserved event reservedSlots retention
  have popped : (state.popFront ingress record).popped event = state.popped event +
      if (Task.popped record).isPopped && decide ((Task.popped record).record.event = event) then 1
      else 0 :=
    popped_snoc (by cases ingress <;> rfl) (by cases ingress <;> rfl)
  have member := mem_of_mem_head? front
  rw [events_popFront]
  by_cases own : ingress = .critical event
  · subst own
    have same : record.event = event := sorted.critical event record member
    rw [if_pos (by simp [Task.isPopped, Task.record, same])] at popped
    rw [if_pos rfl]
    have nonempty : 0 < (state.events event).criticalIngress.length := length_pos_of_mem member
    refine ⟨?_, ?_⟩
    · rw [length_tail]
      change _ - 1 + ((state.events event).criticalInflight + 1) +
        (state.events event).criticalHistory.length ≤ reservedSlots
      omega
    · exact (congrArg (· + 1) counted).trans popped.symm
  · have differ : record.event ≠ event := by
      rintro same
      have ordinary : (facility.policies record.event).retention.isCritical = false := by
        cases ingress with
        | thread => exact sorted.thread record member
        | isr => exact sorted.isr record member
        | critical other =>
          have at_ : record.event = other := sorted.critical other record member
          exact absurd (congrArg Ingress.critical (at_.symm.trans same)) own
      rw [same, retention] at ordinary
      cases ordinary
    rw [if_neg (by simp [Task.isPopped, Task.record, differ])] at popped
    rw [if_neg own]
    exact ⟨fits, counted.trans popped.symm⟩

theorem State.AllReserved.takePending {event : Nat}
    (takes : state.takePending facility event = some next) : next.AllReserved facility := by
  obtain ⟨position, record, taking⟩ := takePending_some takes
  refine reserved.of_same (fun other => ?_) fun other =>
    popped_snoc taking.tasks taking.abandoned
  rw [taking.events]
  by_cases own : other = event
  · subst own
    rw [update_self]
    exact ⟨rfl, rfl, rfl⟩
  · rw [update_of_ne own]
    exact .refl _

theorem State.AllReserved.cancel : state.cancel.AllReserved facility := by
  intro event reservedSlots retention
  obtain ⟨fits, counted⟩ := reserved event reservedSlots retention
  refine ⟨?_, counted⟩
  change 0 + (state.events event).criticalInflight + (state.events event).criticalHistory.length ≤ _
  omega

end

theorem State.popped_abandoned (at_ : state.tasks[position]? = some task)
    (unset : state.processRecord ≠ true) (event : Nat) :
    (state.process facility position task kept).popped event = state.popped event := by
  rw [popped_eraseIdx at_, State.process, if_neg unset]
  unfold State.popped
  rw [countP_append, countP_append, countP_append, countP_singleton]
  exact (Nat.add_assoc _ _ _).symm

theorem EventState.Reserved.retain_popped {reservedSlots popped : Nat}
    (reserved : event.Reserved reservedSlots (popped + 1)) :
    (State.retain (.critical reservedSlots) event record kept).1.Reserved reservedSlots popped := by
  obtain ⟨fits, counted⟩ := reserved
  have room : event.criticalHistory.length ≠ reservedSlots := by omega
  rw [State.retain, if_neg room]
  constructor
  · change event.criticalIngress.length + (event.criticalInflight - 1) +
      (event.criticalHistory ++ [record]).length ≤ reservedSlots
    rw [length_append, length_singleton]
    omega
  · change event.criticalInflight - 1 = popped
    omega

/-- A record of the flush takes a slot, and one off the records on their way. -/
theorem EventState.Reserved.retain_taken {reservedSlots popped : Nat}
    (reserved : event.Reserved reservedSlots popped) :
    (State.retain (.critical reservedSlots) event record kept).1.Reserved reservedSlots popped ↔
      event.criticalInflight = 0 ∧ (event.criticalHistory.length = reservedSlots ∨
        event.criticalIngress.length + event.criticalHistory.length < reservedSlots) := by
  obtain ⟨fits, counted⟩ := reserved
  by_cases full : event.criticalHistory.length = reservedSlots
  · rw [State.retain, if_pos full]
    constructor
    · rintro ⟨_, after⟩
      exact ⟨by omega, .inl full⟩
    · rintro ⟨none, _⟩
      refine ⟨?_, ?_⟩
      · change event.criticalIngress.length + (event.criticalInflight - 1) +
          event.criticalHistory.length ≤ reservedSlots
        omega
      · change event.criticalInflight - 1 = popped
        omega
  · rw [State.retain, if_neg full]
    constructor
    · rintro ⟨after, counts⟩
      change event.criticalIngress.length + (event.criticalInflight - 1) +
        (event.criticalHistory ++ [record]).length ≤ reservedSlots at after
      change event.criticalInflight - 1 = popped at counts
      rw [length_append, length_singleton] at after
      exact ⟨by omega, .inr (by omega)⟩
    · rintro ⟨none, free⟩
      refine ⟨?_, ?_⟩
      · change event.criticalIngress.length + (event.criticalInflight - 1) +
          (event.criticalHistory ++ [record]).length ≤ reservedSlots
        rw [length_append, length_singleton]
        rcases free with full' | free
        · exact absurd full' full
        · omega
      · change event.criticalInflight - 1 = popped
        omega

/-- The step that calls `process_record` keeps the reserve exactly where it spares the slots. -/
theorem State.AllReserved.process_iff (reserved : state.AllReserved facility)
    (at_ : state.tasks[position]? = some task) :
    (state.process facility position task kept).AllReserved facility ↔
      state.Spares facility (.process position kept) := by
  by_cases set_ : state.processRecord = true
  swap
  · refine iff_of_true ?_ fun _ _ _ ready => absurd ready set_
    have events : (state.process facility position task kept).events = state.events := by
      rw [State.process, if_neg set_]
    exact reserved.of_same (fun _ => events ▸ .refl _) (popped_abandoned at_ set_)
  have events : (state.process facility position task kept).events =
      update state.events task.record.event
        (State.retain (facility.policies task.record.event).retention
          (state.events task.record.event) task.record kept).1 := by
    rw [State.process, if_pos set_]
    rfl
  have popped (event : Nat) : state.popped event =
      (state.process facility position task kept).popped event +
        if task.isPopped && decide (task.record.event = event) then 1 else 0 := by
    rw [popped_eraseIdx at_, State.process, if_pos set_]
    rfl
  have others (event : Nat) (differ : event ≠ task.record.event) :
      (state.process facility position task kept).popped event = state.popped event := by
    rw [popped event, if_neg (by simp [Ne.symm differ]), Nat.add_zero]
  cases retention : (facility.policies task.record.event).retention with
  | transient | buffered | persistent =>
    refine iff_of_true (fun event reservedSlots critical => ?_)
      fun record reservedSlots same _ critical => ?_
    · have differ : event ≠ task.record.event := by
        rintro rfl
        cases critical.symm.trans retention
      rw [events, update_of_ne differ, others event differ]
      exact reserved event reservedSlots critical
    · obtain ⟨⟩ := at_.symm.trans same
      cases critical.symm.trans retention
  | critical reservedSlots =>
    have before := reserved task.record.event reservedSlots retention
    have own : (state.process facility position task kept).AllReserved facility ↔
        (State.retain (.critical reservedSlots) (state.events task.record.event) task.record
          kept).1.Reserved reservedSlots
            ((state.process facility position task kept).popped task.record.event) := by
      constructor
      · intro after
        have here := after task.record.event reservedSlots retention
        rw [events, update_self, retention] at here
        exact here
      · intro here event slots critical
        by_cases same : event = task.record.event
        · subst same
          obtain rfl := RetentionPolicy.critical.inj (critical.symm.trans retention)
          rw [events, update_self, retention]
          exact here
        · rw [events, update_of_ne same, others event same]
          exact reserved event slots critical
    rw [own]
    rw [popped task.record.event] at before
    cases task with
    | popped record =>
      rw [if_pos (by simp [Task.isPopped])] at before
      refine iff_of_true before.retain_popped fun _ _ same => ?_
      cases at_.symm.trans same
    | taken record =>
      refine before.retain_taken.trans ⟨fun spares other slots same _ critical => ?_,
        fun spares => spares record reservedSlots at_ set_ retention⟩
      obtain rfl := Task.taken.inj (some.inj (at_.symm.trans same))
      obtain rfl := RetentionPolicy.critical.inj (critical.symm.trans retention)
      exact spares

section

variable (sorted : state.Sorted facility)

include sorted

theorem State.Sorted.setEvent {event : Nat} {value : EventState Payload Key}
    (own : ∀ record ∈ value.criticalIngress, record.event = event) :
    (state.setEvent event value).Sorted facility := by
  refine ⟨fun other record member => ?_, sorted.thread, sorted.isr⟩
  by_cases same : other = event
  · subst same
    rw [setEvent_self] at member
    exact own record member
  · rw [setEvent_other value same] at member
    exact sorted.critical other record member

theorem State.Sorted.of_rings (rings : ∀ ingress, ∀ record ∈ next.ring ingress,
      record ∈ state.ring ingress ∨ Fits facility state record ingress) : next.Sorted facility := by
  refine ⟨fun event record member => ?_, fun record member => ?_, fun record member => ?_⟩
  · rcases rings (.critical event) record member with before | fits
    · exact sorted.critical event record before
    · cases fits
      rfl
  · rcases rings .thread record member with before | fits
    · exact sorted.thread record before
    · cases fits with
      | thread ordinary => exact ordinary
  · rcases rings .isr record member with before | fits
    · exact sorted.isr record before
    · cases fits with
      | isr ordinary => exact ordinary

theorem State.Sorted.capture [DecidableEq Key] (request : Request Payload) (now : Int) :
    (state.capture facility request now).state.Sorted facility := by
  rcases state.appends_capture facility request now with
    ⟨_, same⟩ | ⟨record, ingress, _, fits, appended, others⟩
  · exact sorted.of_rings fun ingress record member => .inl (same ingress ▸ member)
  · refine sorted.of_rings fun other another member => ?_
    by_cases own : other = ingress
    · subst own
      rw [appended] at member
      rcases mem_append.mp member with before | new
      · exact .inl before
      · obtain rfl := mem_singleton.mp new
        exact .inr fits
    · exact .inl (others other own ▸ member)

theorem State.Sorted.popFront (ingress : Ingress) (record : StoredRecord Payload) :
    (state.popFront ingress record).Sorted facility := by
  refine sorted.of_rings fun other another member => .inl ?_
  by_cases own : other = ingress
  · subst own
    rw [ring_popFront_self] at member
    exact mem_of_mem_tail member
  · rw [ring_popFront_other record own] at member
    exact member

theorem State.Sorted.process (position : Nat) (task : Task Payload) (kept : Bool) :
    (state.process facility position task kept).Sorted facility := by
  unfold State.process
  dsimp only
  split
  · have moved : ({ state with tasks := state.tasks.eraseIdx position } :
        State Payload Key).Sorted facility :=
      ⟨sorted.critical, sorted.thread, sorted.isr⟩
    refine moved.setEvent fun record member => sorted.critical _ record ?_
    cases retention : (facility.policies task.record.event).retention with
    | critical reservedSlots =>
      rw [retention, State.retain] at member
      split at member <;> exact member
    | transient | buffered | persistent =>
      rw [retention] at member
      cases kept <;> exact member
  · exact ⟨sorted.critical, sorted.thread, sorted.isr⟩

theorem State.Sorted.takePending {event : Nat}
    (takes : state.takePending facility event = some next) : next.Sorted facility := by
  obtain ⟨position, record, taking⟩ := takePending_some takes
  refine ⟨fun other another member => sorted.critical other another ?_,
    taking.thread ▸ sorted.thread, taking.isr ▸ sorted.isr⟩
  rw [taking.events] at member
  by_cases own : other = event
  · subst own
    rw [update_self] at member
    exact member
  · rw [update_of_ne own] at member
    exact member

omit sorted in
theorem State.sorted_and_reserved_of_same {condition : Prop} (sorted : state.Sorted facility)
    (reserved : state.AllReserved facility)
    (thread : next.threadIngress = state.threadIngress) (isr : next.isrIngress = state.isrIngress)
    (events : next.events = state.events) (tasks : next.tasks = state.tasks)
    (abandoned : next.abandoned = state.abandoned) (holds : condition) :
    next.Sorted facility ∧ (next.AllReserved facility ↔ condition) :=
  ⟨⟨events ▸ sorted.critical, thread ▸ sorted.thread, isr ▸ sorted.isr⟩,
    iff_of_true (reserved.of_same (fun _ => events ▸ .refl _) (popped_congr tasks abandoned)) holds⟩

/-- A step keeps the reserve exactly if it spares the slots. -/
theorem State.reserve_step [DecidableEq Key] {label : Label Payload}
    (reserve : state.Reserve facility) (stepped : state.step facility label = some next) :
    next.Sorted facility ∧ (next.Reserve facility ↔ state.Spares facility label) := by
  have reserved := reserve_iff.mp reserve
  rw [reserve_iff]
  cases label with
  | enter number request inIsr =>
    obtain ⟨_, _, _, rfl⟩ := step_enter stepped
    exact sorted_and_reserved_of_same sorted reserved rfl rfl rfl rfl rfl trivial
  | capture number now acquired =>
    obtain ⟨request, _, ⟨_, rfl⟩ | ⟨_, rfl⟩⟩ := step_capture stepped
    · exact sorted_and_reserved_of_same (sorted.capture request now)
        (reserved.capture request now) rfl rfl rfl rfl rfl trivial
    · exact sorted_and_reserved_of_same sorted reserved rfl rfl rfl rfl rfl trivial
  | pop =>
    obtain ⟨ingress, record, _, front, rfl⟩ := popNext_some stepped
    exact ⟨sorted.popFront ingress record, iff_of_true (reserved.popFront sorted front) trivial⟩
  | process position kept =>
    obtain ⟨task, at_, rfl⟩ := map_eq_some_iff.mp stepped
    exact ⟨sorted.process position task kept, reserved.process_iff at_⟩
  | activate | stop =>
    cases stepped
    exact sorted_and_reserved_of_same sorted reserved rfl rfl rfl rfl rfl trivial
  | take event =>
    obtain ⟨_, takes⟩ := ite_none_right_eq_some.mp stepped
    exact ⟨sorted.takePending takes, iff_of_true (reserved.takePending takes) trivial⟩
  | cancel =>
    obtain ⟨_, ⟨⟩⟩ := ite_none_right_eq_some.mp stepped
    exact ⟨⟨fun _ _ => not_mem_nil.elim, fun _ => not_mem_nil.elim, fun _ => not_mem_nil.elim⟩,
      iff_of_true reserved.cancel trivial⟩

end

end

/-! ### The reserve along a run -/

theorem Facility.sorted_initial (facility : Facility Payload Key) :
    facility.initial.Sorted facility :=
  ⟨fun _ _ => not_mem_nil.elim, fun _ => not_mem_nil.elim, fun _ => not_mem_nil.elim⟩

theorem Facility.reserve_initial (facility : Facility Payload Key) :
    facility.initial.Reserve facility :=
  State.AllReserved.reserve fun _ _ _ => ⟨Nat.zero_le _, rfl⟩

/-- In every run of a facility, the reserve of the critical events stands throughout, and every
record that was popped is retained, exactly if every step spares the slots. -/
theorem reserve_stands_iff [DecidableEq Key] (facility : Facility Payload Key)
    {labels : List (Label Payload)} {final : State Payload Key}
    (ran : (machine facility).run facility.initial labels = some final) :
    (machine facility).Throughout (State.Reserve facility) facility.initial labels ↔
      (machine facility).Admissible (State.Spares facility) facility.initial labels :=
  (machine facility).throughout_iff_admissible (motive := State.Sorted facility)
    (fun _ _ _ sorted reserve stepped => State.reserve_step sorted reserve stepped)
    facility.sorted_initial facility.reserve_initial ran

/-- One critical event with one slot, whose occurrences are counted in windows of ten ticks. -/
abbrev windowed : Facility Unit Unit where
  count := 1
  policies _ := { capture := .aggregateCount 10, retention := .critical 1 }
  threadDepth := 4
  isrDepth := 4

/-- Two occurrences are captured as one record, and a third one waits in its window as the facility
is stopped. The record is popped. -/
def windowLabels : List (Label Unit) :=
  [.activate, .enter 0 { event := 0, payload := () } false, .capture 0 0 true,
    .enter 1 { event := 0, payload := () } false, .capture 1 20 true,
    .enter 2 { event := 0, payload := () } false, .capture 2 21 true, .stop, .pop]

/-- The record is retained before the flush. -/
theorem reserve_stands_windowed :
    (machine windowed).Throughout (State.Reserve windowed) windowed.initial
      (windowLabels ++ [.process 0 true, .take 0, .process 0 true]) := by
  refine (reserve_stands_iff windowed rfl).mpr ?_
  refine .step trivial rfl <| .step trivial rfl <| .step trivial rfl <| .step trivial rfl <|
    .step trivial rfl <| .step trivial rfl <| .step trivial rfl <| .step trivial rfl <|
    .step trivial rfl <| .step nofun rfl <| .step trivial rfl <| .step ?_ rfl trivial
  rintro record reservedSlots at_ _ retention
  obtain rfl := Task.taken.inj (some.inj at_)
  obtain rfl := RetentionPolicy.critical.inj retention
  exact ⟨rfl, .inl rfl⟩

/-- The flush retains the third occurrence first: the record that was captured is lost. -/
theorem reserve_falls :
    ∃ (state : State Unit Unit) (record : StoredRecord Unit) (receipt : Receipt),
      (machine windowed).Reachable windowed.initial state ∧
        state.calls 1 = .returned (.ok receipt) ∧ receipt.materialized = true ∧
        receipt.sequence = record.sequence ∧ state.tasks = [.popped record] ∧
        (state.events 0).criticalInflight = 0 ∧
        (State.retain (.critical 1) (state.events 0) record true).2 = false :=
  ⟨_, _, _, ⟨windowLabels ++ [.take 0, .process 1 true], rfl⟩, rfl, rfl, rfl, rfl, rfl, rfl⟩

end Solar.Events
