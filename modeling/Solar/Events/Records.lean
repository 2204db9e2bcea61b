/-
This file follows the records and the attempts of a facility along its runs. Every
step keeps three things together: each event's attempts are what it has settled and
what was materialized, each record that was materialized is in one place, and its
sequence number is its own.
-/

import Solar.Events.Accounting

namespace Solar.Events

open Function
open List hiding map_map
open Option hiding map map_map

variable {Payload Key : Type}

/-! ### The invariant -/

/-- The attempts of every event are counted. -/
def Attempts (state : State Payload Key) (ledger : Ledger Payload) : Prop :=
  ∀ event, (state.events event).record.attempts =
    (state.events event).record.sampled + (state.events event).record.rateLimited +
      occurrences event ledger.materialized + (state.events event).pending +
      ledger.lostEarly event

/-- Every record is in one place, under a sequence number of its own. -/
structure Placed (facility : Facility Payload Key) (state : State Payload Key)
    (ledger : Ledger Payload) : Prop where
  places : ledger.materialized.Perm
    (state.contents facility ++ state.tasks.map Task.record ++ ledger.passed)
  distinct : (ledger.materialized.map (·.sequence)).Nodup
  numbered : ∀ record ∈ ledger.materialized, record.sequence < state.nextSequence

/-- The aggregates have their shape, and captures are of events of the facility. -/
structure State.Shaped (facility : Facility Payload Key) (state : State Payload Key) : Prop where
  events : ∀ event, (state.events event).Shaped (facility.policies event).capture event
  entered : ∀ number request, state.calls number = .entered request → request.event < facility.count

structure Kept (facility : Facility Payload Key) (state : State Payload Key)
    (ledger : Ledger Payload) : Prop where
  attempts : Attempts state ledger
  placed : Placed facility state ledger

section

variable {facility : Facility Payload Key} {state next : State Payload Key} {ledger : Ledger Payload}

theorem Kept.accounted (kept : Kept facility state ledger) : Accounted facility state ledger :=
  ⟨fun event _ => kept.attempts event, kept.placed.places, kept.placed.distinct⟩

/-- Two states of an event that account for the same attempts. -/
structure EventState.SameAttempts (event other : EventState Payload Key) : Prop where
  counter : other.policyCounter = event.policyCounter
  rejected : other.record.rejected = event.record.rejected
  attempts : other.record.attempts = event.record.attempts
  sampled : other.record.sampled = event.record.sampled
  rateLimited : other.record.rateLimited = event.record.rateLimited
  aggregation : other.aggregation = event.aggregation

theorem EventState.SameAttempts.refl (event : EventState Payload Key) : event.SameAttempts event :=
  ⟨rfl, rfl, rfl, rfl, rfl, rfl⟩

theorem EventState.SameCounts.sameAttempts {event other : EventState Payload Key}
    (same : event.SameCounts other) : event.SameAttempts other :=
  ⟨same.counter, congrArg EventRecord.rejected same.record, congrArg _ same.record,
    congrArg _ same.record, congrArg _ same.record, same.aggregation⟩

theorem State.sameAttempts_retain (retention : RetentionPolicy) (event : EventState Payload Key)
    (record : StoredRecord Payload) (kept : Bool) :
    event.SameAttempts (State.retain retention event record kept).1 := by
  cases retention with
  | transient => exact ⟨rfl, rfl, rfl, rfl, rfl, rfl⟩
  | buffered | persistent => cases kept <;> exact ⟨rfl, rfl, rfl, rfl, rfl, rfl⟩
  | critical reservedSlots =>
    rw [State.retain]
    split <;> exact ⟨rfl, rfl, rfl, rfl, rfl, rfl⟩

variable {after : Ledger Payload} {record : StoredRecord Payload} {request : Request Payload}
  {ingress : Ingress}

theorem Attempts.of_same (attempts : Attempts state ledger)
    (materialized : after.materialized = ledger.materialized)
    (lostEarly : after.lostEarly = ledger.lostEarly)
    (same : ∀ event, (state.events event).SameAttempts (next.events event)) :
    Attempts next after := by
  intro event
  have before := attempts event
  simp only [EventState.pending, (same event).attempts, (same event).sampled,
    (same event).rateLimited, (same event).aggregation, materialized, lostEarly] at before ⊢
  exact before

theorem State.Shaped.of_same (shaped : state.Shaped facility)
    (same : ∀ event, (next.events event).aggregation = (state.events event).aggregation)
    (calls : next.calls = state.calls) : next.Shaped facility :=
  ⟨fun event => (shaped.events event).of_same (same event), calls ▸ shaped.entered⟩

/-! ### Places -/

theorem State.nodup_ingresses {count : Nat} : (State.ingresses count).Nodup := by
  have critical : ((range count).map Ingress.critical).Nodup :=
    nodup_range.map fun _ _ same => Ingress.critical.inj same
  refine nodup_cons.mpr ⟨?_, nodup_cons.mpr ⟨?_, critical⟩⟩
  · simp
  · simp

theorem State.contents_congr (same : next.ring = state.ring) :
    next.contents facility = state.contents facility :=
  Shelves.contents_congr fun ingress _ => congrFun same ingress

theorem Fits.mem_ingresses (fits : Fits facility state record ingress)
    (registered : record.event < facility.count) : ingress ∈ State.ingresses facility.count := by
  cases fits with
  | thread => exact mem_cons_self
  | isr => exact mem_cons_of_mem _ mem_cons_self
  | critical =>
    exact mem_cons_of_mem _ (mem_cons_of_mem _ (mem_map_of_mem (mem_range.mpr registered)))

variable {now : Int}

theorem State.contents_capture [DecidableEq Key] (registered : request.event < facility.count) :
    ((state.capture facility request now).state.contents facility).Perm
      (state.contents facility ++ (state.capture facility request now).record.toList) := by
  rcases state.appends_capture facility request now with
    ⟨none, same⟩ | ⟨record, ingress, has, fits, appended, others⟩
  · rw [none, toList_none, append_nil, contents_congr (funext same)]
  · have own : record.event = request.event := by
      rcases state.numbers_capture with ⟨none, _⟩ | ⟨_, some, own, _⟩
      · cases none.symm.trans has
      · exact Option.some.inj (some.symm.trans has) ▸ own
    rw [has]
    exact Shelves.perm_of_put nodup_ingresses (fits.mem_ingresses (own ▸ registered)) appended
      fun other _ => others other

theorem State.contents_popFront (member : ingress ∈ State.ingresses facility.count)
    (front : (state.ring ingress).head? = some record) :
    (state.contents facility).Perm
      (record :: (state.popFront ingress record).contents facility) := by
  refine Shelves.perm_of_take nodup_ingresses member ?_ fun other _ differ =>
    ring_popFront_other record differ
  rw [ring_popFront_self]
  exact (cons_head?_tail front).symm

/-- Records that come into being are put somewhere. -/
theorem Placed.grow (placed : Placed facility state ledger)
    (materialized : after.materialized = ledger.materialized ++ [record])
    (places : (next.contents facility ++ next.tasks.map Task.record ++ after.passed).Perm
      (state.contents facility ++ state.tasks.map Task.record ++ ledger.passed ++ [record]))
    (sequence : record.sequence = state.nextSequence)
    (nextSequence : next.nextSequence = state.nextSequence + 1) : Placed facility next after := by
  refine ⟨?_, ?_, fun other member => ?_⟩
  · rw [materialized]
    exact (placed.places.append_right _).trans places.symm
  · rw [materialized, map_append, nodup_append]
    refine ⟨placed.distinct, nodup_singleton _, fun earlier member last single => ?_⟩
    obtain ⟨other, before, rfl⟩ := mem_map.mp member
    obtain rfl := mem_singleton.mp single
    change other.sequence ≠ record.sequence
    rw [sequence]
    exact Nat.ne_of_lt (placed.numbered other before)
  · rw [materialized] at member
    rw [nextSequence]
    rcases mem_append.mp member with before | new
    · exact Nat.lt_succ_of_lt (placed.numbered other before)
    · obtain rfl := mem_singleton.mp new
      exact Nat.lt_succ_of_le (Nat.le_of_eq sequence)

theorem Placed.move (placed : Placed facility state ledger)
    (materialized : after.materialized = ledger.materialized)
    (places : (next.contents facility ++ next.tasks.map Task.record ++ after.passed).Perm
      (state.contents facility ++ state.tasks.map Task.record ++ ledger.passed))
    (nextSequence : next.nextSequence = state.nextSequence) : Placed facility next after :=
  ⟨materialized ▸ placed.places.trans places.symm, materialized ▸ placed.distinct,
    materialized ▸ nextSequence ▸ placed.numbered⟩

/-! ### Steps -/

theorem Kept.of_same (kept : Kept facility state ledger)
    (events : next.events = state.events) (ring : next.ring = state.ring)
    (tasks : next.tasks = state.tasks) (nextSequence : next.nextSequence = state.nextSequence) :
    Kept facility next ledger := by
  refine ⟨kept.attempts.of_same rfl rfl fun _ => events ▸ .refl _,
    kept.placed.move rfl ?_ nextSequence⟩
  rw [State.contents_congr ring, tasks]

/-- The attempts of an event that a step counts for, or does not. -/
theorem Attempts.capture [DecidableEq Key] (attempts : Attempts state ledger)
    (counted : state.Counted (state.capture facility request now) request.event)
    (materialized : after.materialized =
      ledger.materialized ++ (state.capture facility request now).record.toList)
    (lostEarly : ∀ event, after.lostEarly event =
      ledger.lostEarly event + state.lostBy (state.capture facility request now).state event) :
    Attempts (state.capture facility request now).state after := by
  intro event
  have before := attempts event
  rw [materialized, lostEarly, occurrences_append]
  by_cases own : event = request.event
  · subst own
    obtain ⟨total, settled, knownLost⟩ := counted
    simp only [EventState.settled] at settled
    simp only [State.lostBy]
    omega
  · have same : (state.events event).SameCounts
        ((state.capture facility request now).state.events event) :=
      State.sameCounts_capture request now own
    have none : occurrences event (state.capture facility request now).record.toList = 0 := by
      rcases state.numbers_capture with ⟨absent, _⟩ | ⟨record, has, mine, _⟩
      · rw [absent]
        rfl
      · rw [has]
        exact occurrences_other fun equal => own (equal.symm.trans mine)
    simp only [State.lostBy, EventState.pending, same.record, same.aggregation, none] at before ⊢
    omega

section

variable (shaped : state.Shaped facility)

include shaped

theorem State.shaped_sifted [DecidableEq Key] {event : EventState Payload Key}
    {sifted : Sifted Payload} (result : state.sifted facility request now = (event, sifted)) :
    event.Shaped (facility.policies request.event).capture request.event := by
  have attempted : (attempted (state.events request.event)).Shaped
      (facility.policies request.event).capture request.event :=
    ⟨(shaped.events request.event).slots, (shaped.events request.event).represents⟩
  have after : (state.sifted facility request now).1.Shaped
      (facility.policies request.event).capture request.event := attempted.sift
      ⟨rfl, decide_eq_true_iff.trans Nat.pos_iff_ne_zero.symm⟩ now
  have first : (state.sifted facility request now).1 = event := congrArg Prod.fst result
  exact first ▸ after

/-- A capture leaves every aggregate in its shape. -/
theorem State.Shaped.capture [DecidableEq Key] (request : Request Payload) (now : Int) :
    (state.capture facility request now).state.Shaped facility := by
  refine ⟨fun other => ?_, ?_⟩
  · by_cases own : other = request.event
    · subst own
      rcases state.capture_cases facility request now with
        ⟨_, _, sifted, captured⟩ | ⟨_, _, sifted, _, captured⟩ |
          ⟨value, record, ingress, sifted, _, captured⟩ <;>
        rw [captured] <;> have after := shaped_sifted shaped sifted
      · rw [setEvent_self]
        exact after
      · rw [setEvent_self]
        exact ⟨after.slots, after.represents⟩
      · have ringed := (state.setEvent request.event value).sameCounts_setRing
          ((state.setEvent request.event value).ring ingress ++ [state.number record]) ingress
          request.event
        rw [setEvent_self] at ringed
        rw [materialized, setEvent_self]
        have pushed := after.of_same ringed.aggregation
        exact ⟨pushed.slots, pushed.represents⟩
    · exact (shaped.events other).of_same (sameCounts_capture request now own).aggregation
  · rw [(state.frame_capture facility request now).calls]
    exact shaped.entered

theorem State.Shaped.call {number : Nat} {call : Call Payload}
    (registered : ∀ request, call = .entered request → request.event < facility.count) :
    ({ state with calls := update state.calls number call } :
      State Payload Key).Shaped facility := by
  refine ⟨shaped.events, fun other request entered => ?_⟩
  change update state.calls number call other = _ at entered
  by_cases own : other = number
  · rw [own, update_self] at entered
    exact registered request entered
  · rw [update_of_ne own] at entered
    exact shaped.entered other request entered

omit shaped in
theorem State.sameAttempts_process (position : Nat) (task : Task Payload) (kept : Bool)
    (event : Nat) : (state.events event).SameAttempts
      ((state.process facility position task kept).events event) := by
  unfold State.process
  dsimp only
  split
  · by_cases own : event = task.record.event
    · subst own
      rw [State.setEvent_self]
      exact State.sameAttempts_retain _ _ _ _
    · rw [State.setEvent_other _ own]
      exact .refl _
  · exact .refl _

omit shaped in
/-- A flush writes down the record that it takes. -/
theorem State.Takes.written {event position : Nat}
    (taking : state.Takes facility next event position record) [DecidableEq Key]
    (ledger : Ledger Payload) :
    (ledger.write facility state next (.take event)).materialized =
      ledger.materialized ++ [record] := by
  change ledger.materialized ++ (next.tasks.drop state.tasks.length).map Task.record = _
  rw [taking.tasks, drop_left]
  rfl

/-- Every step keeps the rings and the counters in shape. -/
theorem State.Shaped.step [DecidableEq Key] {label : Label Payload}
    (stepped : state.step facility label = some next) : next.Shaped facility := by
  cases label with
  | enter number request inIsr =>
    obtain ⟨registered, _, own, rfl⟩ := State.step_enter stepped
    exact shaped.call fun kept entered => own kept entered ▸ registered
  | capture number now acquired =>
    obtain ⟨request, _, ⟨_, rfl⟩ | ⟨_, rfl⟩⟩ := State.step_capture stepped
    · exact (shaped.capture request now).call nofun
    · exact shaped.call nofun
  | pop =>
    obtain ⟨ingress, record, _, _, rfl⟩ := State.popNext_some stepped
    exact shaped.of_same (fun event => (state.sameCounts_popFront ingress record event).aggregation)
      (by cases ingress <;> rfl)
  | process position kept =>
    obtain ⟨task, _, rfl⟩ := map_eq_some_iff.mp stepped
    refine shaped.of_same (fun event => (State.sameAttempts_process _ _ _ event).aggregation) ?_
    unfold State.process
    dsimp only
    split <;> rfl
  | take event =>
    obtain ⟨_, takes⟩ := ite_none_right_eq_some.mp stepped
    obtain ⟨position, record, taking⟩ := State.takePending_some takes
    refine ⟨fun other => ?_, taking.calls ▸ shaped.entered⟩
    rw [taking.events]
    by_cases same : other = event
    · subst same
      rw [update_self]
      exact (shaped.events other).set position (by rintro _ ⟨⟩) rfl
    · rw [update_of_ne same]
      exact shaped.events other
  | cancel =>
    obtain ⟨_, ⟨⟩⟩ := ite_none_right_eq_some.mp stepped
    refine ⟨fun event => ⟨(length_map _).trans (shaped.events event).slots, ?_⟩, shaped.entered⟩
    intro entry member
    obtain ⟨_, _, rfl⟩ := mem_map.mp member
    nofun
  | _ =>
    cases stepped
    exact ⟨shaped.events, shaped.entered⟩

end

section

variable (kept : Kept facility state ledger)

include kept

/-- A capture puts its record into a ring, or it is lost and counted. -/
theorem Kept.capture [DecidableEq Key] {number : Nat} (shaped : state.Shaped facility)
    (entered : state.calls number = .entered request)
    (tracks : state.Tracks facility (.capture number now true))
    (materialized : after.materialized =
      ledger.materialized ++ (state.capture facility request now).record.toList)
    (passed : after.passed = ledger.passed)
    (lostEarly : ∀ event, after.lostEarly event =
      ledger.lostEarly event + state.lostBy (state.capture facility request now).state event) :
    Kept facility (state.capture facility request now).state after := by
  have registered := shaped.entered number request entered
  have counted : state.Counted (state.capture facility request now) request.event :=
    State.counted_capture (shaped.events request.event).slots (tracks request entered)
  refine ⟨kept.attempts.capture counted materialized lostEarly, ?_⟩
  have contents : ((state.capture facility request now).state.contents facility).Perm
      (state.contents facility ++ (state.capture facility request now).record.toList) :=
    State.contents_capture registered
  have tasks := (state.frame_capture facility request now).tasks
  rcases state.numbers_capture with
    ⟨none, same⟩ | ⟨record, has, _, sequence, grows⟩
  · rw [none, toList_none, append_nil] at materialized contents
    refine kept.placed.move materialized ?_ same
    rw [passed, tasks]
    exact (contents.append_right _).append_right _
  · rw [has, toList_some] at materialized contents
    refine kept.placed.grow materialized ?_ sequence grows
    rw [passed, tasks]
    rw [append_assoc, append_assoc]
    refine (contents.append_right _).trans ?_
    rw [append_assoc, append_assoc]
    refine (perm_append_comm.trans ?_).append_left _
    rw [append_assoc]

theorem Kept.pop (member : ingress ∈ State.ingresses facility.count)
    (front : (state.ring ingress).head? = some record) :
    Kept facility (state.popFront ingress record) ledger := by
  have same (event : Nat) := (state.sameCounts_popFront ingress record event).sameAttempts
  have tasks : (state.popFront ingress record).tasks = state.tasks ++ [.popped record] := by
    cases ingress <;> rfl
  refine ⟨kept.attempts.of_same rfl rfl same, kept.placed.move rfl ?_ (by cases ingress <;> rfl)⟩
  rw [tasks, map_append]
  refine Perm.append_right _ ?_
  refine (Perm.append_left _ perm_append_comm).trans ?_
  rw [← append_assoc]
  refine Perm.append_right _ ?_
  exact perm_append_comm.trans (State.contents_popFront member front).symm

/-- A processed record passes its last stage. -/
theorem Kept.process {position : Nat} {task : Task Payload} {retained : Bool}
    (at_ : state.tasks[position]? = some task) (set_ : state.processRecord = true)
    (materialized : after.materialized = ledger.materialized)
    (passed : after.passed = ledger.passed ++ [task.record])
    (lostEarly : after.lostEarly = ledger.lostEarly) :
    Kept facility (state.process facility position task retained) after := by
  have moved : state.process facility position task retained =
      ({ state with tasks := state.tasks.eraseIdx position } : State Payload Key).setEvent
        task.record.event
        (State.retain (facility.policies task.record.event).retention
          (state.events task.record.event) task.record retained).1 := by
    rw [State.process, if_pos set_]
  have ring : (state.process facility position task retained).ring = state.ring := by
    have slots : (state.events task.record.event).criticalIngress =
        (State.retain (facility.policies task.record.event).retention
          (state.events task.record.event) task.record retained).1.criticalIngress := by
      cases (facility.policies task.record.event).retention with
      | transient => rfl
      | buffered | persistent => cases retained <;> rfl
      | critical reservedSlots =>
        rw [State.retain]
        split <;> rfl
    rw [moved]
    funext ingress
    exact (State.ring_setEvent slots.symm ingress).trans
      (congrFun (State.ring_congr rfl rfl rfl) ingress)
  refine ⟨kept.attempts.of_same materialized lostEarly (State.sameAttempts_process _ _ _),
    kept.placed.move materialized ?_ (by rw [moved]; rfl)⟩
  have tasks : (state.process facility position task retained).tasks =
      state.tasks.eraseIdx position := by
    rw [moved]
    rfl
  obtain ⟨bound, here⟩ := List.getElem?_eq_some_iff.mp at_
  have taken := (getElem_cons_eraseIdx_perm bound).map Task.record
  rw [here] at taken
  rw [State.contents_congr ring, tasks, passed, append_assoc, append_assoc]
  refine Perm.append_left _ ?_
  refine Perm.trans ?_ (taken.append_right _)
  rw [← append_assoc]
  exact perm_append_singleton _ _

/-- A record goes from its slot into a task. -/
theorem Kept.take {event position : Nat} (shaped : state.Shaped facility)
    (takes : state.Takes facility next event position record)
    (materialized : after.materialized = ledger.materialized ++ [record])
    (passed : after.passed = ledger.passed) (lostEarly : after.lostEarly = ledger.lostEarly) :
    Kept facility next after := by
  obtain ⟨entry, at_, _, representative, member, made⟩ := takes.entry
  have own : record.event = event := (congrArg StoredRecord.event made).trans
    ((shaped.events event).represents entry (mem_of_getElem? at_) representative member).1
  have count : record.occurrenceCount = entry.count := congrArg _ made
  have ring : next.ring = state.ring := by
    funext ingress
    cases ingress with
    | thread => exact takes.thread
    | isr => exact takes.isr
    | critical other =>
      change (next.events other).criticalIngress = (state.events other).criticalIngress
      rw [takes.events]
      by_cases same : other = event
      · rw [same, update_self]
        rfl
      · rw [update_of_ne same]
  refine ⟨fun other => ?_, kept.placed.grow materialized ?_ (congrArg _ made) takes.nextSequence⟩
  · have before := kept.attempts other
    rw [materialized, lostEarly, occurrences_append, takes.events]
    by_cases same : other = event
    · subst same
      rw [update_self, occurrences_own own]
      have pending : _ + entry.count = ((state.events other).aggregation.map (·.count)).sum + 0 :=
        EventState.pending_set at_ {}
      simp only [EventState.pending, EventState.materialize] at before ⊢
      omega
    · rw [update_of_ne same, occurrences_other fun equal => same (equal.symm.trans own)]
      exact before
  · rw [State.contents_congr ring, takes.tasks, passed, map_append, append_assoc,
      append_assoc, append_assoc, append_assoc]
    exact (perm_append_comm.append_left _).append_left _

/-- A cancelling stop counts what was pending as lost. -/
theorem Kept.cancel (empty : state.contents facility = [])
    (materialized : after.materialized = ledger.materialized)
    (passed : after.passed = ledger.passed)
    (lostEarly : ∀ event, after.lostEarly event =
      ledger.lostEarly event + state.lostBy state.cancel event) :
    Kept facility state.cancel after := by
  have cleared (event : Nat) : (state.cancel.events event).pending = 0 := by
    change (((state.events event).aggregation.map fun _ => ({} : Aggregate Payload Key)).map
      (·.count)).sum = 0
    rw [List.map_map]
    exact List.sum_eq_zero_iff_forall_eq_nat.mpr fun count member => by
      obtain ⟨_, _, rfl⟩ := mem_map.mp member
      rfl
  refine ⟨fun event => ?_, kept.placed.move materialized ?_ rfl⟩
  · have before := kept.attempts event
    rw [materialized, lostEarly, cleared event]
    change (state.events event).record.attempts = (state.events event).record.sampled +
      (state.events event).record.rateLimited + _ + 0 + (ledger.lostEarly event +
        ((state.events event).record.knownLost + (state.events event).pending -
          (state.events event).record.knownLost))
    omega
  · have after : state.cancel.contents facility = [] :=
      flatMap_eq_nil_iff.mpr fun ingress _ => by cases ingress <;> rfl
    rw [after, empty, passed]
    rfl

/-- Every tracked step keeps each record in one place. -/
theorem Kept.step [DecidableEq Key] {label : Label Payload} (shaped : state.Shaped facility)
    (tracks : state.Tracks facility label) (stepped : state.step facility label = some next) :
    Kept facility next (ledger.write facility state next label) := by
  cases label with
  | enter number request inIsr =>
    obtain ⟨_, _, _, rfl⟩ := State.step_enter stepped
    exact kept.of_same rfl (State.ring_congr rfl rfl rfl) rfl rfl
  | capture number now acquired =>
    obtain ⟨request, call, ended⟩ := State.step_capture stepped
    have write (after : State Payload Key) :
        ledger.write facility state after (.capture number now acquired) =
          if acquired then
            { ledger with
              materialized :=
                ledger.materialized ++ (state.capture facility request now).record.toList
              lostEarly := fun event => ledger.lostEarly event + state.lostBy after event }
          else ledger := by
      simp only [Ledger.write, call]
    rw [write]
    obtain ⟨rfl, rfl⟩ | ⟨rfl, rfl⟩ := ended
    · have captured : Kept facility (state.capture facility request now).state { ledger with
            materialized :=
              ledger.materialized ++ (state.capture facility request now).record.toList
            lostEarly := fun event => ledger.lostEarly event +
              state.lostBy (state.capture facility request now).state event } :=
        kept.capture shaped call tracks rfl rfl fun _ => rfl
      exact captured.of_same rfl (State.ring_congr rfl rfl rfl) rfl rfl
    · exact kept.of_same rfl (State.ring_congr rfl rfl rfl) rfl rfl
  | pop =>
    obtain ⟨ingress, record, member, front, rfl⟩ := State.popNext_some stepped
    exact kept.pop member front
  | process position retained =>
    obtain ⟨task, at_, rfl⟩ := map_eq_some_iff.mp stepped
    have set_ : state.processRecord = true := tracks
    have write (after : State Payload Key) :
        ledger.write facility state after (.process position retained) =
          { ledger with passed := ledger.passed ++ [task.record] } := by
      simp [Ledger.write, set_, at_]
    rw [write]
    exact kept.process at_ set_ rfl rfl rfl
  | take event =>
    obtain ⟨_, takes⟩ := ite_none_right_eq_some.mp stepped
    obtain ⟨position, record, taking⟩ := State.takePending_some takes
    exact kept.take shaped taking (taking.written ledger) rfl rfl
  | cancel =>
    obtain ⟨_, ⟨⟩⟩ := ite_none_right_eq_some.mp stepped
    exact kept.cancel tracks rfl rfl fun _ => rfl
  | _ =>
    cases stepped
    exact kept.of_same rfl (State.ring_congr rfl rfl rfl) rfl rfl

end

end

theorem Facility.shaped_initial (facility : Facility Payload Key) :
    facility.initial.Shaped facility := by
  refine ⟨fun event => ⟨length_replicate, fun entry member => ?_⟩, nofun⟩
  rw [eq_of_mem_replicate member]
  nofun

theorem Facility.kept_initial (facility : Facility Payload Key) :
    Kept facility facility.initial {} := by
  refine ⟨fun event => ?_, ?_, nodup_nil, nofun⟩
  · have none : (facility.initial.events event).pending = 0 := by
      change ((replicate _ ({} : Aggregate Payload Key)).map (·.count)).sum = 0
      rw [map_replicate, sum_replicate_nat]
      exact Nat.mul_zero _
    rw [none]
    rfl
  · have empty : facility.initial.contents facility = [] :=
      flatMap_eq_nil_iff.mpr fun ingress _ => by cases ingress <;> rfl
    rw [empty]
    exact .refl _

/-! ### Runs -/

/-- In every run of a facility whose steps all meet the condition, every attempt is counted once and
every record that was materialized is in one place. -/
theorem occurrences_are_accounted [DecidableEq Key] (facility : Facility Payload Key)
    {state : State Payload Key} {ledger : Ledger Payload}
    (reached : (recordedMachine facility).ReachableWhere
      (fun (state, _) label => state.Tracks facility label) (facility.initial, {}) (state, ledger)) :
    Accounted facility state ledger := by
  have kept : state.Shaped facility ∧ Kept facility state ledger :=
    reached.invariant (fun (state, ledger) => state.Shaped facility ∧ Kept facility state ledger)
      ⟨facility.shaped_initial, facility.kept_initial⟩
      fun (state, ledger) label next ⟨shaped, kept⟩ tracks stepped => by
        obtain ⟨after, taken, rfl⟩ := map_eq_some_iff.mp stepped
        exact ⟨shaped.step taken, kept.step shaped tracks taken⟩
  exact kept.2.accounted

/-- One event whose occurrences are counted in windows of ten ticks, with a ring for one record. -/
abbrev narrow (stopPolicy : StopPolicy) : Facility Unit Unit where
  count := 1
  policies _ := { capture := .aggregateCount 10, retention := .transient }
  threadDepth := 1
  isrDepth := 1
  stopPolicy

/-- Two occurrences are captured as one record. -/
def twoLabels : List (Label Unit) :=
  [.enter 0 { event := 0, payload := () } false, .capture 0 0 true,
    .enter 1 { event := 0, payload := () } false, .capture 1 20 true]

theorem occurrences_are_accounted_twice :
    ∃ state ledger, (recordedMachine (narrow .drain)).run ((narrow .drain).initial, {})
        (twoLabels ++ [.activate, .pop, .process 0 true]) = some (state, ledger) ∧
      Accounted (narrow .drain) state ledger := by
  refine ⟨_, _, rfl, occurrences_are_accounted (narrow .drain)
    ⟨twoLabels ++ [.activate, .pop, .process 0 true], ?_, rfl⟩⟩
  refine .step trivial rfl <| .step ?_ rfl <| .step trivial rfl <| .step ?_ rfl <|
    .step trivial rfl <| .step trivial rfl <| .step rfl rfl trivial
  · rintro request ⟨⟩ entry ⟨⟩
    exact ⟨by decide, fun nonempty => absurd rfl nonempty⟩
  · rintro request ⟨⟩ entry ⟨⟩
    exact ⟨by decide, fun _ _ => (by decide : (0 : Nat) ≠ 1)⟩

/-- A window that closes without room loses two occurrences and counts one; a cancelling stop, and a
drain before the function is set, lose a record that nothing counts. -/
theorem occurrences_disappear :
    (∃ state ledger, (recordedMachine (narrow .drain)).Reachable ((narrow .drain).initial, {})
        (state, ledger) ∧
      (state.events 0).record.attempts = 4 ∧
      (state.events 0).record.sampled + (state.events 0).record.rateLimited +
        occurrences 0 ledger.materialized + (state.events 0).pending + ledger.lostEarly 0 = 3) ∧
    (∃ state ledger, (recordedMachine (narrow .cancelPending)).Reachable
        ((narrow .cancelPending).initial, {}) (state, ledger) ∧
      ledger.materialized ≠ [] ∧ state.contents (narrow .cancelPending) = [] ∧ state.tasks = [] ∧
      ledger.passed = [] ∧ (state.events 0).record.knownLost = 0) ∧
    ∃ state ledger, (recordedMachine (narrow .drain)).Reachable ((narrow .drain).initial, {})
        (state, ledger) ∧
      ledger.materialized ≠ [] ∧ state.contents (narrow .drain) = [] ∧ state.tasks = [] ∧
      ledger.passed = [] ∧ (state.events 0).record.knownLost = 0 := by
  refine ⟨⟨_, _, ⟨twoLabels ++ [.enter 2 { event := 0, payload := () } false, .capture 2 21 true,
      .enter 3 { event := 0, payload := () } false, .capture 3 40 true], rfl⟩, rfl, rfl⟩,
    ⟨_, _, ⟨twoLabels ++ [.stop, .cancel], rfl⟩, cons_ne_nil _ _, rfl, rfl, rfl, rfl⟩,
    ⟨_, _, ⟨twoLabels ++ [.stop, .pop, .process 0 true], rfl⟩, cons_ne_nil _ _, rfl, rfl, rfl,
      rfl⟩⟩

end Solar.Events
