/-
This file proves that the accounting of the log closes in every run, each of its parts that hangs
on a condition where the steps meet that condition, and shows a run in which it does not: a record
that is too large is lost
without a mark, and the route of the retained history counts nothing.
-/

import Solar.Log.Records

namespace Solar.Log

open List

open State (Label Verdict)
open Multiset (ofList)

variable {Route Payload : Type} [DecidableEq Route] {architecture : Architecture Route Payload}
  {state next : State Route Payload} {ledger : Ledger Route Payload} {parts : Part → Bool}

/-! ### One step -/

/-- What a run keeps, some parts of it if its steps meet the condition. -/
structure Kept (parts : Part → Bool) (architecture : Architecture Route Payload)
    (state : State Route Payload) (ledger : Ledger Route Payload) : Prop where
  numbered : Numbered state ledger
  balanced : ∀ source, (state.sourceRecords source).Balanced
  placed : Placed state ledger
  tallied : Tallied state ledger
  booked : parts .routes = true → Booked architecture state ledger
  latched : parts .losses = true → Latched state ledger
  kept : parts .discards = true → ledger.discarded = [] ∧ ledger.reported = []

omit [DecidableEq Route] in
theorem Numbered.congr (numbered : Numbered state ledger) {other : Ledger Route Payload}
    (unmoved : state.record.Unmoved next.record) (same : other.attempts = ledger.attempts) :
    Numbered next other := by
  have captures : other.captures = ledger.captures := by
    unfold Ledger.captures
    rw [same]
  refine ⟨?_, ?_, ?_⟩
  · rw [unmoved.attempted, unmoved.captured, unmoved.runtimeFiltered, unmoved.dropped]
    exact numbered.attempted
  · rw [unmoved.nextSequence, unmoved.captured]
    exact numbered.nextSequence
  · rw [captures, unmoved.captured]
    exact numbered.consecutive

omit [DecidableEq Route] in
theorem Latched.congr (latched : Latched state ledger) {other : Ledger Route Payload}
    (unmoved : state.record.Unmoved next.record) (same : other.attempts = ledger.attempts) :
    Latched next other := by
  refine ⟨?_, ?_⟩
  · rw [unmoved.precedingLoss, same]
    exact latched.latch
  · rw [same]
    exact latched.flagged

section

variable (kept : Kept parts architecture state ledger)

include kept

/-- A step that leaves the records where they are and counts nothing. -/
theorem Kept.frame (record : next.record = state.record) (ingress : next.ingress = state.ingress)
    (processing : next.processing = state.processing)
    (sinkRecords : next.sinkRecords = state.sinkRecords)
    (balanced : ∀ source, (next.sourceRecords source).Balanced) :
    Kept parts architecture next ledger := by
  have unmoved : state.record.Unmoved next.record := by
    rw [record]
    exact ⟨rfl, rfl, rfl, rfl, rfl, rfl⟩
  refine ⟨kept.numbered.congr unmoved rfl, balanced, ⟨?_, ?_⟩, ⟨?_, kept.tallied.verdicts⟩, ?_,
    fun marked => (kept.latched marked).congr unmoved rfl, kept.kept⟩
  · unfold State.underway
    rw [ingress, processing]
    exact kept.placed.records
  · rw [record]
    exact kept.placed.processed
  · rw [sinkRecords]
    exact kept.tallied.counters
  · unfold Booked
    rw [processing]
    exact kept.booked

/-- A route that counts the record keeps the accounting. -/
theorem Kept.visit {number : Nat} {processing : Processing Payload} {route : Route}
    (at_ : state.processing[number]? = some processing)
    (here : architecture.routes[processing.position]? = some route)
    (counts : parts .routes = true → state.Counts architecture route processing.record)
    (consumed : Bool) :
    Kept parts architecture (state.visit architecture number processing route consumed)
      (ledger.enter processing.record route
        (state.verdict architecture route processing consumed)) := by
  have settled := state.settled_settle architecture route processing.record
    (state.verdict architecture route processing consumed)
  have attempts := ledger.attempts_enter processing.record route
    (state.verdict architecture route processing consumed)
  have untouched (verdict : Verdict) :
      (ledger.enter processing.record route verdict).processed = ledger.processed ∧
        (ledger.enter processing.record route verdict).discarded = ledger.discarded ∧
        (ledger.enter processing.record route verdict).reported = ledger.reported := by
    cases verdict <;> exact ⟨rfl, rfl, rfl⟩
  obtain ⟨processed, discarded, reported⟩ :=
    untouched (state.verdict architecture route processing consumed)
  refine ⟨kept.numbered.congr settled.unmoved attempts, fun source => ?_, ⟨?_, ?_⟩,
    kept.tallied.visit number processing route consumed,
    fun asked => (kept.booked asked).visit at_ here (counts asked) consumed,
    fun marked => (kept.latched marked).congr settled.unmoved attempts, ?_⟩
  · change ((state.settle architecture route processing.record _).sourceRecords source).Balanced
    rw [settled.sourceRecords]
    exact kept.balanced source
  · have captures : (ledger.enter processing.record route
        (state.verdict architecture route processing consumed)).captures = ledger.captures := by
      unfold Ledger.captures
      rw [attempts]
    rw [captures, processed, discarded, kept.placed.records, underway_eraseIdx at_,
      ← settled.ingress]
    rfl
  · rw [processed, ← kept.placed.processed, ← settled.processed]
    rfl
  · rw [discarded, reported]
    exact kept.kept

theorem Kept.pop (sound : parts .discards = true → state.Sound architecture .pop) :
    Kept parts architecture state.pop (ledger.write architecture state state.pop .pop) := by
  have attempts : (ledger.write architecture state state.pop .pop).attempts = ledger.attempts ∧
      (ledger.write architecture state state.pop .pop).entries = ledger.entries := by
    dsimp only [Ledger.write]
    split
    · exact ⟨rfl, rfl⟩
    · split <;> exact ⟨rfl, rfl⟩
  have sources : state.pop.sourceRecords = state.sourceRecords ∧
      state.pop.sinkRecords = state.sinkRecords := by
    unfold State.pop
    split <;> exact ⟨rfl, rfl⟩
  refine ⟨kept.numbered.congr State.unmoved_pop attempts.1, sources.1 ▸ kept.balanced,
    kept.placed.pop, ⟨?_, ?_⟩, fun asked => (kept.booked asked).pop,
    fun marked => (kept.latched marked).congr State.unmoved_pop attempts.1, fun keeps => ?_⟩
  · unfold Ledger.count
    rw [sources.2, attempts.2]
    exact kept.tallied.counters
  · rw [attempts.2]
    exact kept.tallied.verdicts
  · dsimp only [Ledger.write]
    split
    · exact kept.kept keeps
    · rename_i waiting
      rw [if_pos ((sound keeps).resolve_left (by rw [waiting]; exact cons_ne_nil _ _))]
      exact kept.kept keeps

/-- Every step keeps the parts whose condition it meets. -/
theorem Kept.step {label : Label Route Payload}
    (sound : label.part.any parts = true → state.Sound architecture label)
    (stepped : state.step architecture label = some next) :
    Kept parts architecture next (ledger.write architecture state next label) := by
  cases label with
  | capture call =>
    cases stepped
    have captures : Captures architecture state call (state.capture architecture call).1
        (call.attempts (state.header call) (state.capture architecture call).2) :=
      State.capture_cases call
    obtain ⟨processing, sinkRecords⟩ := captures.frame
    refine ⟨kept.numbered.capture captures, balanced_capture captures kept.balanced,
      kept.placed.capture captures, ⟨?_, kept.tallied.verdicts⟩, ?_, fun marked => ?_, kept.kept⟩
    · rw [sinkRecords]
      exact kept.tallied.counters
    · unfold Booked
      rw [processing]
      exact kept.booked
    · obtain ⟨latch, flagged⟩ := (kept.latched marked).capture captures (sound marked)
      exact ⟨latch, flagged⟩
  | pop =>
    cases stepped
    exact kept.pop sound
  | visit number consumed =>
    obtain ⟨processing, route, at_, here, rfl⟩ := State.visit_cases stepped
    dsimp only [Ledger.write]
    rw [at_]
    dsimp only
    rw [here]
    exact kept.visit at_ here (fun asked => sound asked processing at_ route here) consumed
  | finish number =>
    obtain ⟨processing, at_, past, rfl⟩ := State.finish_cases stepped
    dsimp only [Ledger.write]
    rw [at_]
    exact ⟨kept.numbered.congr ⟨rfl, rfl, rfl, rfl, rfl, rfl⟩ rfl, kept.balanced,
      kept.placed.finish at_, ⟨kept.tallied.counters, kept.tallied.verdicts⟩,
      fun asked => (kept.booked asked).finish at_ past,
      fun marked => (kept.latched marked).congr ⟨rfl, rfl, rfl, rfl, rfl, rfl⟩ rfl, kept.kept⟩
  | cancel =>
    obtain rfl := State.cancel_cases stepped
    refine ⟨kept.numbered.congr ⟨rfl, rfl, rfl, rfl, rfl, rfl⟩ rfl, kept.balanced,
      Ledger.placed_discard ?_ kept.placed.processed,
      ⟨kept.tallied.counters, kept.tallied.verdicts⟩, kept.booked,
      fun marked => (kept.latched marked).congr ⟨rfl, rfl, rfl, rfl, rfl, rfl⟩ rfl,
      fun keeps => ?_⟩
    · rw [kept.placed.records]
      change _ = ofList ledger.processed + ofList state.underway + 0 + ofList state.ingress + _
      rw [add_zero]
    · have empty : state.ingress = [] := sound keeps
      dsimp only [Ledger.write, Ledger.discard]
      rw [empty, append_nil, append_nil, ite_self]
      exact kept.kept keeps
  | activate =>
    cases stepped
    exact kept.frame rfl rfl rfl rfl fun _ => rfl
  | _ =>
    cases stepped
    exact kept.frame rfl rfl rfl rfl kept.balanced

end

/-! ### Every run -/

theorem kept_initial : Kept parts architecture architecture.initial ({} : Ledger Route Payload) where
  numbered := ⟨rfl, rfl, rfl⟩
  balanced _ := rfl
  placed := ⟨rfl, rfl⟩
  tallied := ⟨fun _ counter => by cases counter <;> rfl, nofun⟩
  booked _ := Rounds.Booked.nil
  latched _ := ⟨rfl, trivial⟩
  kept _ := ⟨rfl, rfl⟩

/-- What is kept closes the accounting. -/
theorem Kept.closes (kept : Kept parts architecture state ledger) :
    Closes parts architecture state ledger := by
  have perm : ledger.captures.Perm
      (ledger.processed ++ state.underway ++ state.ingress ++ ledger.discarded) :=
    Multiset.coe_eq_coe.mp kept.placed.records
  have total : state.record.captured = ledger.captures.length := by
    have lengths := congrArg length kept.numbered.consecutive
    rw [length_map, length_range'] at lengths
    exact lengths.symm
  have distinct : (ledger.captures.map (·.sequence)).Nodup := by
    rw [kept.numbered.consecutive]
    exact nodup_range'
  refine ⟨kept.numbered.attempted, kept.balanced, ?_, kept.placed.processed, ?_, ?_, ?_,
    kept.numbered.consecutive, fun marked => (kept.latched marked).flagged⟩
  · intro keeps
    obtain ⟨discarded, reported⟩ := kept.kept keeps
    rw [total, perm.length_eq, kept.placed.processed, discarded, reported, append_nil,
      length_append, length_append, State.underway, length_map]
    rfl
  · intro asked record member route inside
    have items : (ledger.processed.map (·.sequence) ++ (state.processing.map fun processing =>
        (processing.record.sequence, processing.position)).map (·.1)).Nodup := by
      have listed := (perm.map (·.sequence)).nodup_iff.mp distinct
      rw [map_append, map_append, map_append] at listed
      have apart := (nodup_append.mp (nodup_append.mp listed).1).1
      rw [map_map]
      rw [State.underway, map_map] at apart
      exact apart
    have once := (kept.booked asked).once architecture.distinct items (mem_map_of_mem member) inside
    rw [count, countP_map] at once
    refine Eq.trans (countP_congr fun entry _ => ?_) once
    simp
  · exact fun route => ⟨kept.tallied.counters route .accepted, kept.tallied.counters route .failed,
      kept.tallied.counters route .filtered⟩
  · intro entry member
    have counted := kept.tallied.verdicts entry member
    cases verdict : entry.verdict with
    | retained | unrendered =>
      rw [verdict] at counted
      cases counted
    | _ => simp

/-- In every run the accounting of the log closes in every state, with those of its parts whose
condition the steps meet. -/
theorem accounting_closes {architecture : Architecture Route Payload} {parts : Part → Bool}
    {state : State Route Payload} {ledger : Ledger Route Payload}
    (reached : (recordedMachine architecture).ReachableWhere
      (fun recorded label => label.part.any parts = true → recorded.1.Sound architecture label)
      (architecture.initial, {}) (state, ledger)) :
    Closes parts architecture state ledger := by
  have kept := reached.invariant (fun recorded => Kept parts architecture recorded.1 recorded.2)
    kept_initial fun recorded label next kept sound stepped => by
      obtain ⟨after, moved, rfl⟩ := Option.map_eq_some_iff.mp stepped
      exact kept.step sound moved
  exact kept.closes

/-! ### Runs -/

/-- A console and the retained history. The payload of a record is as large as its number; a hexdump
has a label of one character. -/
abbrev consoleArchitecture : Architecture Bool Nat where
  routes := [false, true]
  distinct := by decide
  traits route := { retained := route }
  cancelPending := true
  headerBytes := 48
  maxRecordBytes := 384
  ingressBytes := 4096
  elevatedReserveBytes := 512
  emergencyBytes := 256
  historyBytes := 4096
  renderBufferBytes := 384
  payloadSize size := size
  hexdump size := some (1, size - 5)
  formatted _ size := some size

/-- A console alone, with an ingress that has room for one record. -/
abbrev smallArchitecture : Architecture Unit Nat where
  routes := [()]
  distinct := by decide
  traits _ := {}
  headerBytes := 48
  maxRecordBytes := 64
  ingressBytes := 96
  elevatedReserveBytes := 16
  emergencyBytes := 0
  historyBytes := 128
  renderBufferBytes := 64
  payloadSize size := size
  hexdump size := some (1, size - 5)
  formatted _ size := some size

/-- A record is captured and another is dropped; the first is processed, and the third says that
there was a loss. -/
abbrev droppingRun : List (Label Unit Nat) :=
  [.activate, .capture { request := { payload := 8 } }, .capture { request := { payload := 8 } },
    .pop, .visit 0 true, .finish 0, .capture { request := { payload := 8 } }]

theorem accounting_closes_dropping :
    Closes (fun _ => true) smallArchitecture
      (((recordedMachine smallArchitecture).run (smallArchitecture.initial, {}) droppingRun).get
        rfl).1
      (((recordedMachine smallArchitecture).run (smallArchitecture.initial, {}) droppingRun).get
        rfl).2 :=
  accounting_closes ((recordedMachine smallArchitecture).reachableWhere_get _ _ droppingRun
    (by decide) rfl)

/-- A record that is too large is lost, and the next one does not say so. -/
abbrev oversizedRun : List (Label Bool Nat) :=
  [.activate, .capture { request := { payload := 337 } }, .capture { request := { payload := 8 } }]

/-- A hexdump of 128 bytes has no room in the buffer of the console, and the retained history counts
nothing. -/
abbrev hexdumpRun : List (Label Bool Nat) :=
  [.activate, .capture { request := { encoding := .hexdump, payload := 133 } }, .pop,
    .visit 0 true, .visit 0 true, .finish 0]

/-- A cancelling stop discards a captured record. -/
abbrev cancellingRun : List (Label Bool Nat) :=
  [.activate, .capture { request := { payload := 8 } }, .stop, .cancel]

/-- The end of a run of the example. -/
abbrev consoleEnd (labels : List (Label Bool Nat))
    (defined : ((recordedMachine consoleArchitecture).run
      (consoleArchitecture.initial, {}) labels).isSome = true) :
    State Bool Nat × Ledger Bool Nat :=
  ((recordedMachine consoleArchitecture).run (consoleArchitecture.initial, {}) labels).get defined

theorem consoleEnd_reachable (labels : List (Label Bool Nat))
    (defined : ((recordedMachine consoleArchitecture).run
      (consoleArchitecture.initial, {}) labels).isSome = true) :
    (recordedMachine consoleArchitecture).Reachable (consoleArchitecture.initial, {})
      (consoleEnd labels defined) :=
  Transition.Machine.reachable_get _ _ labels defined

/-- The loss flag is missing, two routes have not counted a processed record, and a captured record
is nowhere. -/
theorem accounting_leaks :
    (∃ reached, (recordedMachine consoleArchitecture).Reachable
        (consoleArchitecture.initial, {}) reached ∧ ¬Flagged false reached.2.attempts) ∧
      (∃ reached, (recordedMachine consoleArchitecture).Reachable
        (consoleArchitecture.initial, {}) reached ∧
        ∃ record ∈ reached.2.processed, ∀ route, (reached.2.entries.countP fun entry =>
          entry.sequence = record.sequence ∧ entry.route = route) = 0) ∧
      ∃ reached, (recordedMachine consoleArchitecture).Reachable
        (consoleArchitecture.initial, {}) reached ∧
        reached.1.record.captured ≠ reached.1.record.processed + reached.1.processing.length +
          reached.1.ingress.length + reached.2.reported.length := by
  refine ⟨⟨_, consoleEnd_reachable oversizedRun rfl, ?_⟩,
    ⟨_, consoleEnd_reachable hexdumpRun rfl, ?_⟩, ⟨_, consoleEnd_reachable cancellingRun rfl, ?_⟩⟩
  · rintro ⟨unmarked, _⟩
    cases unmarked
  · exact ⟨_, mem_singleton.mpr rfl, fun route => rfl⟩
  · decide

end Solar.Log
