/-
This file says once what a step of the interleaved system can do. `Stepped` has
one constructor for each way a thread moves, with the guards the source tests
and the state it leaves; `step_stepped` proves that every step is one of them.
Each invariant of the later files is a case split on `Stepped`, so none of them
unfolds the step function again.
-/

import Solar.Remote.InStream.Interleaving

namespace Solar.Remote.InStreamRuntime

open List Option Function

variable {Value : Type} {catalog : InStreamCatalog Value}

/-! ### Frames of the state updates -/

section Frames

variable (state : InStreamRuntime catalog) (endpoint : catalog.Endpoint) (link : catalog.Link)
  (replacement : InStreamLink Value (catalog.window endpoint))
  (phase : WorkerPhase Value catalog.linkCount)

@[simp] theorem row_setRow_self :
    (state.setRow endpoint link replacement).row endpoint link = replacement :=
  Streams.rows_setRow_self state.streams endpoint link replacement

theorem row_setRow_of_ne {other : catalog.Endpoint} {otherLink : catalog.Link}
    (different : (other, otherLink) ≠ (endpoint, link)) :
    (state.setRow endpoint link replacement).row other otherLink = state.row other otherLink :=
  Streams.rows_setRow_of_ne different

@[simp] theorem worker_setWorker_self :
    (state.setWorker endpoint phase).worker endpoint = phase := by
  simp [setWorker]

theorem worker_setWorker_of_ne {other : catalog.Endpoint} (different : other ≠ endpoint) :
    (state.setWorker endpoint phase).worker other = state.worker other := by
  simp only [setWorker, update_of_ne different]

end Frames

/-! ### The moves -/

/-- Every way a thread can move. -/
inductive Stepped (state : InStreamRuntime catalog) :
    InStreamLabel catalog → InStreamRuntime catalog → Prop
  | refused {label : InStreamLabel catalog} (idle : state.service = .idle) :
      Stepped state label state
  | opening {link : catalog.Link} {endpoint : catalog.Endpoint} {request : SubscriptionRequest}
      {correlation : UInt32} (idle : state.service = .idle)
      (session : state.sessionActive link = true) (rows : List catalog.Row) (interval : UInt32)
      (listed : (state.row endpoint link).active = true → (endpoint, link) ∈ rows)
      (controls : catalog.control link = true) :
      Stepped state (.subscribe link endpoint request correlation) { state with
          service := .closing rows .replaced true (.install endpoint link interval correlation) }
  | unsubscribed {link : catalog.Link} {endpoint : catalog.Endpoint} {token : UInt32}
      (idle : state.service = .idle) (active : (state.row endpoint link).active = true)
      (same : (state.row endpoint link).token = token) :
      Stepped state (.unsubscribe link endpoint token)
        { state with service := .closing [(endpoint, link)] .closed false .finish }
  | rejected {link : catalog.Link} {endpoint : catalog.Endpoint} {frame : Decoded} {now : Tick}
      {value : Value} {rejection : Rejection} (idle : state.service = .idle)
      (decoded : (catalog.traits endpoint).decode frame.payload = some value)
      (failed : (state.row endpoint link).admitFrame catalog.ticksPerSecond frame.envelope value now =
        .error rejection) (notRate : rejection ≠ .rate)
      (change : InStreamCounters → InStreamCounters) :
      Stepped state (.data link endpoint frame now) (state.count endpoint change)
  | rateRejected {link : catalog.Link} {endpoint : catalog.Endpoint} {frame : Decoded} {now : Tick}
      {value : Value} (idle : state.service = .idle)
      (decoded : (catalog.traits endpoint).decode frame.payload = some value)
      (failed : (state.row endpoint link).admitFrame catalog.ticksPerSecond frame.envelope value now =
        .error .rate) (change : InStreamCounters → InStreamCounters) :
      Stepped state (.data link endpoint frame now) { state.count endpoint change with
          rateRejections :=
            state.rateRejections ++ [((endpoint, link), frame.envelope.requestId)]
          service := .crediting endpoint
            (.restoring link frame.envelope.requestId (state.row endpoint link).generation) }
  | admittedInline {link : catalog.Link} {endpoint : catalog.Endpoint} {frame : Decoded}
      {now : Tick} {value : Value} {admitted : InStreamLink Value (catalog.window endpoint)}
      (idle : state.service = .idle)
      (decoded : (catalog.traits endpoint).decode frame.payload = some value)
      (stored : (state.row endpoint link).admitFrame catalog.ticksPerSecond frame.envelope value now =
        .ok admitted) (inline : (catalog.traits endpoint).inline = true)
      (change : InStreamCounters → InStreamCounters) :
      Stepped state (.data link endpoint frame now)
        { ((state.setRow endpoint link admitted).count endpoint change).setWorker endpoint
            .scanning with
          admissions := state.admissions ++
            [⟨endpoint, link, frame.envelope.requestId, frame.envelope.frameSequence, value, false⟩]
          service := .draining endpoint }
  | admittedDeferred {link : catalog.Link} {endpoint : catalog.Endpoint} {frame : Decoded}
      {now : Tick} {value : Value} {admitted : InStreamLink Value (catalog.window endpoint)}
      (idle : state.service = .idle)
      (decoded : (catalog.traits endpoint).decode frame.payload = some value)
      (stored : (state.row endpoint link).admitFrame catalog.ticksPerSecond frame.envelope value now =
        .ok admitted) (deferred : (catalog.traits endpoint).inline = false)
      (change : InStreamCounters → InStreamCounters) :
      Stepped state (.data link endpoint frame now)
        { (state.setRow endpoint link admitted).count endpoint change with
          admissions := state.admissions ++
            [⟨endpoint, link, frame.envelope.requestId, frame.envelope.frameSequence, value, false⟩]
          service := .submitting endpoint link frame.envelope (state.row endpoint link).generation }
  | activated {link : catalog.Link} (idle : state.service = .idle) :
      Stepped state (.clientHello link)
        { state with sessionActive := update state.sessionActive link true }
  | resetting {link : catalog.Link} {cause : ResetCause} (idle : state.service = .idle) :
      Stepped state (.reset link cause) { state with
          service := .closing (catalog.linkRows link) cause.reason false (cause.after link) }
  | closed {succeeds : Bool} {endpoint : catalog.Endpoint} {link : catalog.Link}
      {rows : List catalog.Row} {reason : InStreamCloseReason} {notify : Bool}
      {next : AfterClose catalog}
      (phase : state.service = .closing ((endpoint, link) :: rows) reason notify next) :
      Stepped state (.service succeeds)
        { state.closeRow endpoint link reason (notify && succeeds) with
          service := .closing rows reason notify next }
  | installed {succeeds : Bool} {endpoint : catalog.Endpoint} {link : catalog.Link}
      {reason : InStreamCloseReason} {notify : Bool} {interval correlation : UInt32}
      (phase : state.service =
        .closing [] reason notify (.install endpoint link interval correlation)) :
      Stepped state (.service succeeds) (state.installStep endpoint link interval correlation)
  | deactivated {succeeds : Bool} {link : catalog.Link} {reason : InStreamCloseReason}
      {notify : Bool} (phase : state.service = .closing [] reason notify (.deactivate link)) :
      Stepped state (.service succeeds) { state with
          sessionActive := update state.sessionActive link false
          service := .idle }
  | finished {succeeds : Bool} {reason : InStreamCloseReason} {notify : Bool}
      (phase : state.service = .closing [] reason notify .finish) :
      Stepped state (.service succeeds) { state with service := .idle }
  | configured {endpoint : catalog.Endpoint} {link : catalog.Link} {correlation : UInt32}
      (phase : state.service = .configuring endpoint link correlation) :
      Stepped state (.service true) { state with service := .responding endpoint link correlation }
  | configurationFailed {endpoint : catalog.Endpoint} {link : catalog.Link} {correlation : UInt32}
      (phase : state.service = .configuring endpoint link correlation) :
      Stepped state (.service false)
        { state with service := .abandoning endpoint link .configurationFailed }
  | responded {endpoint : catalog.Endpoint} {link : catalog.Link} {correlation : UInt32}
      (phase : state.service = .responding endpoint link correlation) :
      Stepped state (.service true) { state with service := .granting endpoint link correlation }
  | responseFailed {endpoint : catalog.Endpoint} {link : catalog.Link} {correlation : UInt32}
      (phase : state.service = .responding endpoint link correlation) :
      Stepped state (.service false) { state with service := .abandoning endpoint link .fault }
  | abandoned {succeeds : Bool} {endpoint : catalog.Endpoint} {link : catalog.Link}
      {reason : InStreamCloseReason}
      (phase : state.service = .abandoning endpoint link reason) :
      Stepped state (.service succeeds)
        { state.closeRow endpoint link reason succeeds with service := .idle }
  | granted {succeeds : Bool} {endpoint : catalog.Endpoint} {link : catalog.Link}
      {correlation : UInt32} (phase : state.service = .granting endpoint link correlation) :
      Stepped state (.service succeeds) { state with
          service := .crediting endpoint
            (.sending link (state.row endpoint link).credits correlation
              (state.row endpoint link).token) }
  | submitted {endpoint : catalog.Endpoint} {link : catalog.Link} {envelope : Envelope}
      {generation : UInt32}
      (phase : state.service = .submitting endpoint link envelope generation) :
      Stepped state (.service true) { state with service := .idle }
  | submissionFailed {endpoint : catalog.Endpoint} {link : catalog.Link} {envelope : Envelope}
      {generation : UInt32}
      (phase : state.service = .submitting endpoint link envelope generation) :
      Stepped state (.service false) { state.setRow endpoint link
            ((state.row endpoint link).withdraw envelope.frameSequence) with
          admissions :=
            if ((state.row endpoint link).submitted? envelope.frameSequence).isSome then
              withdrawFrom state.admissions endpoint link envelope
            else state.admissions
          service := .crediting endpoint (.checking link envelope.requestId generation) }
  | drained {succeeds : Bool} {endpoint : catalog.Endpoint}
      (phase : state.service = .draining endpoint) (idle : state.worker endpoint = .idle) :
      Stepped state (.service succeeds) { state with service := .idle }
  | credited {succeeds : Bool} {endpoint : catalog.Endpoint}
      {phase : CreditPhase catalog.linkCount} (here : state.service = .crediting endpoint phase) :
      Stepped state (.service succeeds) { (state.creditStep endpoint succeeds phase).1 with
          service := afterCredit endpoint (state.creditStep endpoint succeeds phase).2 }
  | woken {endpoint : catalog.Endpoint} (idle : state.worker endpoint = .idle)
      (deferred : (catalog.traits endpoint).inline = false) :
      Stepped state (.wake endpoint) (state.setWorker endpoint .scanning)
  | rested {endpoint : catalog.Endpoint} {succeeds : Bool}
      (here : state.worker endpoint = .scanning)
      (nothing : state.streams.take? endpoint = none) :
      Stepped state (.worker endpoint succeeds) (state.setWorker endpoint .idle)
  | took {endpoint : catalog.Endpoint} {succeeds : Bool} {link : catalog.Link} {index : Nat}
      {slot : InboundSlot Value} {taken : InStreamLink Value (catalog.window endpoint)}
      (here : state.worker endpoint = .scanning)
      (found : (state.row endpoint link).take? = some (index, slot, taken)) :
      Stepped state (.worker endpoint succeeds)
        ((state.setRow endpoint link taken).setWorker endpoint
          (.holding link index slot.token slot.generation slot.value))
  | delivered {endpoint : catalog.Endpoint} {succeeds : Bool} {link : catalog.Link} {index : Nat}
      {token generation : UInt32} {value : Option Value}
      (here : state.worker endpoint = .holding link index token generation value)
      (current : (state.row endpoint link).isCurrent index token generation = true) :
      Stepped state (.worker endpoint succeeds) ({ state with
            deliveries := state.deliveries ++ value.toList.map (Delivery.mk endpoint link token)
          }.setWorker endpoint (.finishing link index token generation true))
  | skipped {endpoint : catalog.Endpoint} {succeeds : Bool} {link : catalog.Link} {index : Nat}
      {token generation : UInt32} {value : Option Value}
      (here : state.worker endpoint = .holding link index token generation value)
      (stale : (state.row endpoint link).isCurrent index token generation = false) :
      Stepped state (.worker endpoint succeeds)
        (state.setWorker endpoint (.finishing link index token generation false))
  | released {endpoint : catalog.Endpoint} {succeeds : Bool} {link : catalog.Link} {index : Nat}
      {token generation : UInt32} {current : Bool}
      (here : state.worker endpoint = .finishing link index token generation current)
      (change : InStreamCounters → InStreamCounters) :
      Stepped state (.worker endpoint succeeds)
        (((state.setRow endpoint link ((state.row endpoint link).release index)).count endpoint
          change).setWorker endpoint (.crediting (.checking link token generation)))
  | workerCredited {endpoint : catalog.Endpoint} {succeeds : Bool}
      {phase : CreditPhase catalog.linkCount} (here : state.worker endpoint = .crediting phase) :
      Stepped state (.worker endpoint succeeds)
        ((state.creditStep endpoint succeeds phase).1.setWorker endpoint
          (afterWorkerCredit (state.creditStep endpoint succeeds phase).2))

variable {state : InStreamRuntime catalog} {endpoint : catalog.Endpoint}
  {next : InStreamRuntime catalog}

theorem isIdle_iff : state.isIdle = true ↔ state.service = .idle := by
  unfold isIdle
  cases state.service <;> simp

variable {behavior : ExclusiveBehavior} {link : catalog.Link} {name : Nat}

theorem mem_group (member : (catalog.traits endpoint).exclusive = some (name, behavior)) :
    endpoint ∈ catalog.group name := by
  refine mem_filter.mpr ⟨mem_finRange _, ?_⟩
  rw [member]
  exact beq_self_eq_true _

theorem mem_groupRows
    (member : (catalog.traits endpoint).exclusive = some (name, behavior)) (link : catalog.Link) :
    (endpoint, link) ∈ catalog.groupRows name :=
  mem_flatMap.mpr ⟨endpoint, mem_group member, mem_map.mpr ⟨link, mem_finRange _, rfl⟩⟩

theorem groupIsActive_of_active
    (member : (catalog.traits endpoint).exclusive = some (name, behavior))
    (active : (state.row endpoint link).active = true) : state.streams.groupIsActive name = true :=
  any_eq_true.mpr ⟨endpoint, mem_group member, any_eq_true.mpr ⟨link, mem_finRange _, active⟩⟩

theorem subscribeStep_stepped {request : SubscriptionRequest} {correlation : UInt32}
    (idle : state.service = .idle) (session : state.sessionActive link = true)
    (controls : catalog.control link = true) :
    Stepped state (.subscribe link endpoint request correlation)
      (state.subscribeStep link endpoint request correlation) := by
  simp only [subscribeStep]
  split
  · exact .refused idle
  · split
    · exact .opening idle session _ _ (fun _ => mem_singleton.mpr rfl) controls
    · rename_i name exclusive
      split
      · exact .refused idle
      · rename_i free
        refine .opening idle session _ _ (fun active => ?_) controls
        exact absurd (groupIsActive_of_active exclusive active) free
    · rename_i name exclusive
      exact .opening idle session _ _ (fun _ => mem_groupRows exclusive link) controls

theorem dataStep_stepped {frame : Decoded} {now : Tick} (idle : state.service = .idle) :
    Stepped state (.data link endpoint frame now) (state.dataStep link endpoint frame now) := by
  simp only [dataStep]
  split
  · exact .refused idle
  · rename_i value decoded
    split
    · rename_i rejection failed
      split
      · rename_i rate
        subst rate
        exact .rateRejected idle decoded failed _
      · rename_i notRate
        exact .rejected idle decoded failed notRate _
    · rename_i admitted stored
      split
      · rename_i inline
        exact .admittedInline idle decoded stored inline _
      · rename_i deferred
        exact .admittedDeferred idle decoded stored (Bool.eq_false_iff.mpr deferred) _

/-- One case for each stage of the service. -/
theorem serviceStep_stepped {succeeds : Bool} (stepped : state.serviceStep succeeds = some next) :
    Stepped state (.service succeeds) next := by
  unfold serviceStep at stepped
  split at stepped
  case h_1 => exact absurd stepped (by simp)
  case h_2 phase => exact some.inj stepped ▸ .closed phase
  case h_3 phase => exact some.inj stepped ▸ .installed phase
  case h_4 phase => exact some.inj stepped ▸ .deactivated phase
  case h_5 phase => exact some.inj stepped ▸ .finished phase
  case h_6 phase =>
    cases succeeds
    · rw [if_neg nofun] at stepped
      split at stepped
      · exact some.inj stepped ▸ .configurationFailed phase
      · exact absurd stepped (by simp)
    · exact some.inj stepped ▸ .configured phase
  case h_7 phase =>
    cases succeeds
    · exact some.inj stepped ▸ .responseFailed phase
    · exact some.inj stepped ▸ .responded phase
  case h_8 phase => exact some.inj stepped ▸ .abandoned phase
  case h_9 phase => exact some.inj stepped ▸ .granted phase
  case h_10 phase =>
    cases succeeds
    · exact some.inj stepped ▸ .submissionFailed phase
    · exact some.inj stepped ▸ .submitted phase
  case h_11 phase =>
    split at stepped
    · rename_i idle
      exact some.inj stepped ▸ .drained phase idle
    · exact absurd stepped (by simp)
  case h_12 phase => exact some.inj stepped ▸ .credited phase

theorem workerStep_stepped {succeeds : Bool}
    (stepped : state.workerStep endpoint succeeds = some next) :
    Stepped state (.worker endpoint succeeds) next := by
  unfold workerStep at stepped
  split at stepped
  case h_1 => exact absurd stepped (by simp)
  case h_2 here =>
    split at stepped
    · rename_i nothing
      exact some.inj stepped ▸ .rested here nothing
    · rename_i found
      exact some.inj stepped ▸ .took here (Streams.take?_link found)
  case h_3 link index token generation value here =>
    rw [← some.inj stepped]
    by_cases current : (state.row endpoint link).isCurrent index token generation = true
    · simp only [current]
      exact .delivered here current
    · have stale := Bool.eq_false_iff.mpr current
      simp only [stale, Bool.false_eq_true, if_false, map_nil, append_nil]
      exact .skipped here stale
  case h_4 here => exact some.inj stepped ▸ .released here _
  case h_5 here => exact some.inj stepped ▸ .workerCredited here

/-- Every step of the system is one of the moves. -/
theorem step_stepped {label : InStreamLabel catalog} (stepped : state.step label = some next) :
    Stepped state label next := by
  cases label with
  | subscribe link endpoint request correlation =>
    simp only [step] at stepped
    split at stepped
    · rename_i enabled
      exact some.inj stepped ▸
        subscribeStep_stepped (isIdle_iff.mp enabled.1) enabled.2.1 enabled.2.2
    · exact absurd stepped (by simp)
  | unsubscribe link endpoint token =>
    simp only [step] at stepped
    split at stepped
    · rename_i enabled
      split at stepped
      · rename_i named
        exact some.inj stepped ▸ .unsubscribed (isIdle_iff.mp enabled.1) named.1 named.2
      · exact some.inj stepped ▸ .refused (isIdle_iff.mp enabled.1)
    · exact absurd stepped (by simp)
  | data link endpoint frame now =>
    simp only [step] at stepped
    split at stepped
    · rename_i enabled
      exact some.inj stepped ▸ dataStep_stepped (isIdle_iff.mp enabled.1)
    · exact absurd stepped (by simp)
  | clientHello link =>
    simp only [step] at stepped
    split at stepped
    · rename_i enabled
      exact some.inj stepped ▸ .activated (isIdle_iff.mp enabled)
    · exact absurd stepped (by simp)
  | reset link cause =>
    simp only [step] at stepped
    split at stepped
    · rename_i enabled
      exact some.inj stepped ▸ .resetting (isIdle_iff.mp enabled)
    · exact absurd stepped (by simp)
  | service succeeds => exact serviceStep_stepped stepped
  | wake endpoint =>
    simp only [step] at stepped
    split at stepped
    · rename_i idle
      split at stepped
      · exact absurd stepped (by simp)
      · rename_i deferred
        exact some.inj stepped ▸ .woken idle (Bool.eq_false_iff.mpr deferred)
    · exact absurd stepped (by simp)
  | worker endpoint succeeds => exact workerStep_stepped stepped

end Solar.Remote.InStreamRuntime
