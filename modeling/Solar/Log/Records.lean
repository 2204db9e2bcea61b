/-
This file proves what each step of the log facility does to one part of the accounting:
the loss flag, the counters of the captures, the places of the records, the counters of
the routes, and the rounds of the records over the routes.
-/

import Solar.Log.Moves

namespace Solar.Log

open List Function

open State (Label Verdict)
open Multiset (ofList coe_add cons_coe coe_singleton singleton_add)

variable {Route Payload : Type} {architecture : Architecture Route Payload}
  {state next : State Route Payload} {ledger : Ledger Route Payload}

/-! ### The loss flag -/

theorem lossAfter_append (lost : Bool) (first second : List (Attempt Payload)) :
    lossAfter lost (first ++ second) = lossAfter (lossAfter lost first) second := by
  induction first generalizing lost with
  | nil => rfl
  | cons attempt rest ih => cases attempt <;> exact ih _

theorem flagged_append (lost : Bool) (first second : List (Attempt Payload)) :
    Flagged lost (first ++ second) ↔
      Flagged lost first ∧ Flagged (lossAfter lost first) second := by
  induction first generalizing lost with
  | nil => exact ⟨fun flagged => ⟨trivial, flagged⟩, And.right⟩
  | cons attempt rest ih =>
    cases attempt with
    | captured record => exact (and_congr_right fun _ => ih false).trans and_assoc.symm
    | filtered => exact ih lost
    | lost => exact ih true

theorem Call.lossAfter_earlier (call : Call Payload) (lost : Bool) :
    lossAfter lost call.earlier = (call.request.flags.precedingLoss || lost) := by
  unfold Call.earlier
  cases call.request.flags.precedingLoss <;> rfl

theorem Call.flagged_earlier (call : Call Payload) {lost : Bool} : Flagged lost call.earlier := by
  unfold Call.earlier
  split <;> trivial

/-- The latch says whether there was a loss, and the records have said so. -/
structure Latched (state : State Route Payload) (ledger : Ledger Route Payload) : Prop where
  latch : state.record.precedingLoss = lossAfter false ledger.attempts
  flagged : Flagged false ledger.attempts

variable {attempts : List (Attempt Payload)} {call : Call Payload}

/-- A capture whose loss is marked leaves the latch right. -/
theorem Latched.capture (latched : Latched state ledger)
    (captures : Captures architecture state call next attempts)
    (sound : state.Silent architecture call → state.record.precedingLoss = true) :
    next.record.precedingLoss = lossAfter false (ledger.attempts ++ attempts) ∧
      Flagged false (ledger.attempts ++ attempts) := by
  rw [lossAfter_append, flagged_append, ← latched.latch]
  cases captures with
  | refused => exact ⟨rfl, latched.flagged, trivial⟩
  | filtered silent =>
    rw [lossAfter_append, flagged_append, call.lossAfter_earlier]
    refine ⟨?_, latched.flagged, call.flagged_earlier, trivial⟩
    cases early : call.request.flags.precedingLoss with
    | false => rfl
    | true => exact sound (silent early)
  | silent silent =>
    rw [lossAfter_append, flagged_append]
    exact ⟨sound silent, latched.flagged, call.flagged_earlier, trivial⟩
  | stored =>
    rw [lossAfter_append, flagged_append, call.lossAfter_earlier]
    exact ⟨rfl, latched.flagged, call.flagged_earlier, rfl, trivial⟩
  | dropped =>
    rw [lossAfter_append, flagged_append]
    exact ⟨rfl, latched.flagged, call.flagged_earlier, trivial⟩

/-! ### The counters of the captures -/

/-- The attempts are counted, and the captured records are numbered one after another. -/
structure Numbered (state : State Route Payload) (ledger : Ledger Route Payload) : Prop where
  attempted : state.record.attempted =
    state.record.captured + state.record.runtimeFiltered + state.record.dropped
  nextSequence : state.record.nextSequence = state.record.captured + 1
  consecutive : ledger.captures.map (·.sequence) = range' 1 state.record.captured

/-- The captured records in a list of attempts. -/
def capturesOf (attempts : List (Attempt Payload)) : List (StoredRecord Payload) :=
  attempts.filterMap fun attempt =>
    match attempt with
    | .captured record => some record
    | _ => none

theorem capturesOf_append (first second : List (Attempt Payload)) :
    capturesOf (first ++ second) = capturesOf first ++ capturesOf second :=
  filterMap_append

theorem Call.capturesOf_earlier (call : Call Payload) : capturesOf call.earlier = [] := by
  unfold Call.earlier
  split <;> rfl

/-- An attempt is counted once, and a captured record has the next number. -/
theorem Numbered.capture (numbered : Numbered state ledger)
    (captures : Captures architecture state call next attempts) :
    Numbered next { ledger with attempts := ledger.attempts ++ attempts } := by
  have same : Ledger.captures { ledger with attempts := ledger.attempts ++ attempts } =
      ledger.captures ++ capturesOf attempts := filterMap_append
  have silently (last : Attempt Payload) : capturesOf (call.earlier ++ [last]) =
      capturesOf [last] := by
    rw [capturesOf_append, call.capturesOf_earlier, nil_append]
  cases captures with
  | refused => exact ⟨numbered.attempted, numbered.nextSequence, by
      rw [same, capturesOf, filterMap_nil, append_nil]; exact numbered.consecutive⟩
  | filtered =>
    refine ⟨?_, numbered.nextSequence, ?_⟩
    · change state.record.attempted + 1 =
        state.record.captured + (state.record.runtimeFiltered + 1) + state.record.dropped
      rw [numbered.attempted]
      omega
    · rw [same, silently]
      exact (append_nil _).symm ▸ numbered.consecutive
  | silent =>
    refine ⟨numbered.attempted, numbered.nextSequence, ?_⟩
    rw [same, silently]
    exact (append_nil _).symm ▸ numbered.consecutive
  | stored =>
    refine ⟨?_, congrArg (· + 1) numbered.nextSequence, ?_⟩
    · change state.record.attempted + 1 =
        state.record.captured + 1 + state.record.runtimeFiltered + state.record.dropped
      rw [numbered.attempted]
      omega
    · rw [same, silently]
      change (ledger.captures ++ [state.header call]).map _ =
        range' 1 (state.record.captured + 1)
      rw [map_append, numbered.consecutive, range'_concat, Nat.one_mul]
      change _ ++ [state.record.nextSequence] = _
      rw [numbered.nextSequence, Nat.add_comm]
  | dropped =>
    refine ⟨?_, numbered.nextSequence, ?_⟩
    · change state.record.attempted + 1 =
        state.record.captured + state.record.runtimeFiltered + (state.record.dropped + 1)
      rw [numbered.attempted]
      omega
    · rw [same, silently]
      exact (append_nil _).symm ▸ numbered.consecutive

theorem balanced_countSource {source : Option Nat} {count : SourceRecord → SourceRecord}
    (balanced : ∀ source, (state.sourceRecords source).Balanced)
    (keeps : ∀ record : SourceRecord, record.Balanced → (count record).Balanced) {other : Nat} :
    (state.countSource source count other).Balanced := by
  cases source with
  | none => exact balanced other
  | some source =>
    unfold State.countSource
    dsimp only
    by_cases same : other = source
    · subst same
      rw [update_self]
      exact keeps _ (balanced other)
    · rw [update_of_ne same]
      exact balanced other

theorem balanced_capture (captures : Captures architecture state call next attempts)
    (balanced : ∀ source, (state.sourceRecords source).Balanced) (source : Nat) :
    (next.sourceRecords source).Balanced := by
  cases captures with
  | refused | silent => exact balanced source
  | filtered =>
    refine balanced_countSource balanced (fun record same => ?_)
    change record.attempted + 1 = record.captured + (record.filtered + 1) + record.dropped
    rw [same, ← Nat.add_assoc, Nat.add_right_comm]
  | stored =>
    refine balanced_countSource balanced (fun record same => ?_)
    change record.attempted + 1 = record.captured + 1 + record.filtered + record.dropped
    rw [same, Nat.add_right_comm record.captured 1, Nat.add_right_comm _ 1]
  | dropped =>
    refine balanced_countSource balanced (fun record same => ?_)
    change record.attempted + 1 = record.captured + record.filtered + (record.dropped + 1)
    rw [same, Nat.add_assoc _ record.dropped]

/-! ### Where the records are -/

/-- The records that a drain has popped. -/
def State.underway (state : State Route Payload) : List (StoredRecord Payload) :=
  state.processing.map (·.record)

/-- Every captured record is processed, on its way, in the ingress or discarded. -/
structure Placed (state : State Route Payload) (ledger : Ledger Route Payload) : Prop where
  records : ofList ledger.captures =
    ofList ledger.processed + ofList state.underway +
      ofList state.ingress + ofList ledger.discarded
  processed : state.record.processed = ledger.processed.length

variable {processing : Processing Payload}

theorem underway_eraseIdx {number : Nat} (at_ : state.processing[number]? = some processing) :
    ofList state.underway =
      {processing.record} + ofList ((state.processing.eraseIdx number).map (·.record)) := by
  obtain ⟨bound, rfl⟩ := List.getElem?_eq_some_iff.mp at_
  have taken := (getElem_cons_eraseIdx_perm bound).symm.map (·.record)
  exact Multiset.coe_eq_coe.mpr taken

theorem Placed.capture (placed : Placed state ledger)
    (captures : Captures architecture state call next attempts) :
    Placed next { ledger with attempts := ledger.attempts ++ attempts } := by
  have same : Ledger.captures { ledger with attempts := ledger.attempts ++ attempts } =
      ledger.captures ++ capturesOf attempts := filterMap_append
  have silently (last : Attempt Payload) : capturesOf (call.earlier ++ [last]) =
      capturesOf [last] := by
    rw [capturesOf_append, call.capturesOf_earlier, nil_append]
  cases captures with
  | refused =>
    refine ⟨?_, placed.processed⟩
    exact (append_nil _).symm ▸ placed.records
  | stored =>
    refine ⟨?_, placed.processed⟩
    rw [same, silently]
    change ofList (ledger.captures ++ [state.header call]) =
      ofList ledger.processed + ofList state.underway +
        ofList (state.ingress ++ [state.header call]) + ofList ledger.discarded
    rw [← coe_add, ← coe_add, placed.records]
    abel
  | _ =>
    refine ⟨?_, placed.processed⟩
    rw [same, silently]
    exact (append_nil _).symm ▸ placed.records

theorem Ledger.placed_discard {records : List (StoredRecord Payload)}
    (same : ofList ledger.captures =
      ofList ledger.processed + ofList next.underway +
        ofList next.ingress + ofList records + ofList ledger.discarded)
    (processed : next.record.processed = ledger.processed.length) :
    Placed next (ledger.discard state next records) := by
  refine ⟨?_, processed⟩
  change ofList ledger.captures = ofList ledger.processed +
    ofList next.underway + ofList next.ingress +
      ofList (ledger.discarded ++ records)
  rw [← coe_add, same]
  abel

theorem Placed.pop (placed : Placed state ledger) :
    Placed state.pop (ledger.write architecture state state.pop .pop) := by
  unfold Ledger.write State.pop
  have records := placed.records
  cases waiting : state.ingress with
  | nil => exact placed
  | cons oldest rest =>
    rw [waiting, ← cons_coe, ← singleton_add] at records
    dsimp only
    cases installed : state.processRecord with
    | true =>
      refine ⟨?_, placed.processed⟩
      change ofList ledger.captures = ofList ledger.processed +
        ofList (oldest :: state.underway) + ofList rest +
          ofList ledger.discarded
      rw [← cons_coe, ← singleton_add, records]
      abel
    | false =>
      refine Ledger.placed_discard ?_ placed.processed
      rw [records]
      change _ = ofList ledger.processed + ofList state.underway +
        ofList rest + ofList [oldest] + ofList ledger.discarded
      rw [coe_singleton]
      abel

theorem Placed.finish (placed : Placed state ledger) {number : Nat}
    (at_ : state.processing[number]? = some processing) :
    Placed (state.finish number)
      { ledger with processed := ledger.processed ++ [processing.record] } := by
  constructor
  · change ofList ledger.captures =
      ofList (ledger.processed ++ [processing.record]) +
        ofList ((state.processing.eraseIdx number).map (·.record)) +
          ofList state.ingress + ofList ledger.discarded
    rw [placed.records, underway_eraseIdx at_, ← coe_add, coe_singleton]
    abel
  · change state.record.processed + 1 = (ledger.processed ++ [processing.record]).length
    rw [length_append, placed.processed, length_singleton]

/-! ### What the routes count -/

section Routes

variable [DecidableEq Route]

/-- The verdicts that a route has a counter for. -/
inductive Counter
  | accepted | failed | filtered

def Counter.verdict : Counter → Verdict
  | .accepted => .accepted
  | .failed => .failed
  | .filtered => .filtered

def SinkRecord.of (record : SinkRecord) : Counter → Nat
  | .accepted => record.accepted
  | .failed => record.failed
  | .filtered => record.filtered

/-- The verdicts that have a counter, or are passed over in the panic mode. -/
def State.Verdict.counted : Verdict → Bool
  | .retained | .unrendered => false
  | _ => true

/-- The counters of the routes are those of the ledger. -/
structure Tallied (state : State Route Payload) (ledger : Ledger Route Payload) : Prop where
  counters : ∀ route counter,
    (state.sinkRecords route).of counter = ledger.count route counter.verdict
  verdicts : ∀ entry ∈ ledger.entries, entry.verdict.counted = true

variable (record : StoredRecord Payload) (route other : Route)

theorem Ledger.count_enter {verdict expected : Verdict} (counts : verdict.counted = true) :
    (ledger.enter record route verdict).count other expected =
      ledger.count other expected + if route = other ∧ verdict = expected then 1 else 0 := by
  have entered : (ledger.enter record route verdict).entries =
      ledger.entries ++ [⟨record.sequence, route, verdict⟩] := by
    cases verdict <;> first | rfl | cases counts
  unfold Ledger.count
  rw [entered, countP_append, countP_singleton]
  simp

omit [DecidableEq Route] in
theorem Ledger.enter_uncounted (route : Route) {verdict : Verdict}
    (silent : verdict.counted = false) : ledger.enter record route verdict = ledger := by
  cases verdict <;> first | rfl | cases silent

theorem State.of_countSink (count : SinkRecord → SinkRecord) (counter : Counter) :
    ((state.countSink route count).sinkRecords other).of counter =
      if route = other then (count (state.sinkRecords other)).of counter
      else (state.sinkRecords other).of counter := by
  unfold State.countSink
  dsimp only
  by_cases same : route = other
  · subst same
    rw [update_self, if_pos rfl]
  · rw [update_of_ne (Ne.symm same), if_neg same]

omit [DecidableEq Route] in
theorem State.sinkRecords_retain :
    (state.retain architecture record).sinkRecords = state.sinkRecords := by
  unfold State.retain
  dsimp only
  split <;> rfl

/-- A verdict moves its own counter, and only that of its route. -/
theorem State.of_settle (record : StoredRecord Payload) (verdict : Verdict) (counter : Counter) :
    ((state.settle architecture route record verdict).sinkRecords other).of counter =
      (state.sinkRecords other).of counter +
        if route = other ∧ verdict = counter.verdict then 1 else 0 := by
  have counting (count : SinkRecord → SinkRecord) (counts : ∀ record : SinkRecord,
        (count record).of counter = record.of counter + if verdict = counter.verdict then 1 else 0) :
      ((state.countSink route count).sinkRecords other).of counter =
        (state.sinkRecords other).of counter +
          if route = other ∧ verdict = counter.verdict then 1 else 0 := by
    rw [State.of_countSink, counts]
    by_cases same : route = other <;> simp [same]
  have silent (apart : verdict ≠ counter.verdict)
      (same : (state.settle architecture route record verdict).sinkRecords = state.sinkRecords) :
      ((state.settle architecture route record verdict).sinkRecords other).of counter =
        (state.sinkRecords other).of counter +
          if route = other ∧ verdict = counter.verdict then 1 else 0 := by
    rw [same, if_neg fun both => apart both.2, Nat.add_zero]
  cases verdict with
  | retained => exact silent (by cases counter <;> nofun) (State.sinkRecords_retain record)
  | filtered =>
    exact counting (fun record => { record with filtered := record.filtered + 1 }) fun _ => by
      cases counter <;> rfl
  | accepted =>
    exact counting (fun record => { record with accepted := record.accepted + 1 }) fun _ => by
      cases counter <;> rfl
  | failed =>
    exact counting (fun record => { record with failed := record.failed + 1 }) fun _ => by
      cases counter <;> rfl
  | _ => exact silent (by cases counter <;> nofun) rfl

/-- The counters of a route follow the verdicts of the ledger. -/
theorem Tallied.visit (tallied : Tallied state ledger) (number : Nat)
    (processing : Processing Payload) (route : Route) (consumed : Bool) :
    Tallied (state.visit architecture number processing route consumed)
      (ledger.enter processing.record route
        (state.verdict architecture route processing consumed)) := by
  generalize came : state.verdict architecture route processing consumed = verdict
  have sinks (other : Route) :
      (state.visit architecture number processing route consumed).sinkRecords other =
        (state.settle architecture route processing.record verdict).sinkRecords other := by
    rw [← came]
    rfl
  cases counts : verdict.counted with
  | true =>
    constructor
    · intro other counter
      rw [sinks, State.of_settle, Ledger.count_enter _ _ _ counts, tallied.counters]
    · intro entry member
      have entered : (ledger.enter processing.record route verdict).entries =
          ledger.entries ++ [⟨processing.record.sequence, route, verdict⟩] := by
        cases verdict <;> first | rfl | cases counts
      rw [entered, mem_append, mem_singleton] at member
      rcases member with member | rfl
      · exact tallied.verdicts entry member
      · exact counts
  | false =>
    rw [Ledger.enter_uncounted _ _ counts]
    refine ⟨fun other counter => ?_, tallied.verdicts⟩
    have apart : verdict ≠ counter.verdict := by
      rintro rfl
      cases counter <;> cases counts
    rw [sinks, State.of_settle, if_neg fun both => apart both.2, Nat.add_zero, tallied.counters]

/-! ### Each route once -/

/-- The rounds of the records over the routes are written down. -/
def Booked (architecture : Architecture Route Payload) (state : State Route Payload)
    (ledger : Ledger Route Payload) : Prop :=
  Rounds.Booked architecture.routes (ledger.processed.map (·.sequence))
    (state.processing.map fun processing => (processing.record.sequence, processing.position))
    (ledger.entries.map fun entry => (entry.sequence, entry.route))

omit [DecidableEq Route] in
theorem State.Counts.counted {route : Route} {consumed : Bool}
    (counts : state.Counts architecture route processing.record) :
    (state.verdict architecture route processing consumed).counted = true := by
  unfold State.verdict
  rcases counts with below | ⟨sink, rest⟩
  · rw [if_pos below]
    rfl
  split
  · rfl
  split
  · rfl
  · rename_i attending
    unfold State.consume
    rw [if_neg (by rw [sink]; nofun)]
    have text : ¬((architecture.traits route).encoded = false ∧
        (processing.rendered <|> architecture.renderMessage processing.record) = none) := by
      rintro ⟨plain, missing⟩
      rcases rest with ⟨panic, cautious⟩ | encoded | rendered
      · exact attending ⟨panic, cautious, sink⟩
      · cases plain.symm.trans encoded
      · cases before : processing.rendered with rw [before] at missing
        | some size => cases missing
        | none =>
          change architecture.renderMessage processing.record = none at missing
          rw [missing] at rendered
          cases rendered
    rw [if_neg text]
    cases consumed <;> rfl

section

variable (booked : Booked architecture state ledger)

include booked

omit [DecidableEq Route] in
theorem Booked.pop :
    Booked architecture state.pop (ledger.write architecture state state.pop .pop) := by
  unfold Ledger.write State.pop
  cases waiting : state.ingress with
  | nil => exact booked
  | cons oldest rest =>
    dsimp only
    split
    · exact Rounds.Booked.start booked (Perm.refl _)
    · exact booked

variable {number : Nat}

omit booked in
omit [DecidableEq Route] in
theorem rounds_eraseIdx (at_ : state.processing[number]? = some processing) :
    (state.processing.map fun other => (other.record.sequence, other.position)).Perm
      ((processing.record.sequence, processing.position) ::
        (state.processing.eraseIdx number).map fun other =>
          (other.record.sequence, other.position)) := by
  obtain ⟨bound, rfl⟩ := List.getElem?_eq_some_iff.mp at_
  exact (getElem_cons_eraseIdx_perm bound).symm.map fun other =>
    (other.record.sequence, other.position)

theorem Booked.visit {route : Route} (at_ : state.processing[number]? = some processing)
    (here : architecture.routes[processing.position]? = some route)
    (counts : state.Counts architecture route processing.record) (consumed : Bool) :
    Booked architecture (state.visit architecture number processing route consumed)
      (ledger.enter processing.record route
        (state.verdict architecture route processing consumed)) := by
  have counted : (state.verdict architecture route processing consumed).counted = true :=
    counts.counted
  have visited := Rounds.Booked.visit booked (rounds_eraseIdx at_) (Perm.refl _) here
  unfold Booked
  generalize state.verdict architecture route processing consumed = verdict at counted
  have entered : ((ledger.enter processing.record route verdict).entries.map fun entry =>
      (entry.sequence, entry.route)) =
      (ledger.entries.map fun entry => (entry.sequence, entry.route)) ++
        [(processing.record.sequence, route)] := by
    cases verdict <;> first | exact map_append | cases counted
  have processed : (ledger.enter processing.record route verdict).processed = ledger.processed := by
    cases verdict <;> rfl
  rw [entered, processed]
  exact visited

omit [DecidableEq Route] in
theorem Booked.finish (at_ : state.processing[number]? = some processing)
    (past : architecture.routes.length ≤ processing.position) :
    Booked architecture (state.finish number)
      { ledger with processed := ledger.processed ++ [processing.record] } := by
  have finished := Rounds.Booked.finish booked (rounds_eraseIdx at_) past
  unfold Booked
  rw [map_append]
  exact finished

end

end Routes

end Solar.Log
