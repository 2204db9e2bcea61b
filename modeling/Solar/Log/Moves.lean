/-
This file says what it means that the accounting of the log closes, and once what a
step of the facility can do to it. A ledger beside the facility writes down the attempts
to capture, the records that were processed or discarded, and what each route counted of
each record. The accounting closes if the counters of the facility agree with one another
and with the ledger, and if a record says that there was a loss before it exactly where
the ledger has one.
-/

import Solar.Library.Rounds
import Solar.Log.Facility

namespace Solar.Log

open Option

open State (Label Verdict)

variable {Route Payload : Type}

/-! ### The ledger -/

/-- An attempt to capture a record that the facility was open for. -/
inductive Attempt (Payload : Type)
  | captured (record : StoredRecord Payload)
  | filtered
  | lost

/-- What a route counted of a record. -/
structure Entry (Route : Type) where
  sequence : Nat
  route : Route
  verdict : Verdict

/-- The attempts, the earliest first; the records that were processed; those that left the ingress
without it, and the ones among them that the facility reports as lost; and what the routes counted,
with the records that the panic mode let them skip. -/
structure Ledger (Route Payload : Type) where
  attempts : List (Attempt Payload) := []
  processed : List (StoredRecord Payload) := []
  discarded : List (StoredRecord Payload) := []
  reported : List (StoredRecord Payload) := []
  entries : List (Entry Route) := []

/-- What a call was lost before: a request that comes with the flag was preceded by a loss. -/
def Call.earlier (call : Call Payload) : List (Attempt Payload) :=
  if call.request.flags.precedingLoss then [.lost] else []

/-- The attempts that the result of a call tells of. A call that is refused as such is none. -/
def Call.attempts (call : Call Payload) (record : StoredRecord Payload) :
    Except Failure Receipt → List (Attempt Payload)
  | .ok receipt =>
      call.earlier ++
        [if receipt.disposition = .runtimeFiltered then .filtered else .captured record]
  | .error failure =>
      match failure.reason with
      | .captureClosed | .invalidContext => []
      | _ => call.earlier ++ [.lost]

namespace Ledger

variable (ledger : Ledger Route Payload)

/-- Records leave the ingress unprocessed. They are reported if the facility counts them as
dropped. -/
def discard (state next : State Route Payload) (records : List (StoredRecord Payload)) :
    Ledger Route Payload :=
  { ledger with
    discarded := ledger.discarded ++ records
    reported :=
      if next.record.dropped = state.record.dropped + records.length then
        ledger.reported ++ records
      else ledger.reported }

/-- A route counts a record, unless it passes it over in silence. -/
def enter (record : StoredRecord Payload) (route : Route) : Verdict → Ledger Route Payload
  | .retained | .unrendered => ledger
  | verdict => { ledger with entries := ledger.entries ++ [⟨record.sequence, route, verdict⟩] }

/-- The ledger writes down a step. -/
def write (architecture : Architecture Route Payload) (state next : State Route Payload) :
    Label Route Payload → Ledger Route Payload
  | .capture call =>
      { ledger with
        attempts := ledger.attempts ++
          call.attempts (state.header call) (state.capture architecture call).2 }
  | .pop =>
      match state.ingress with
      | [] => ledger
      | oldest :: _ => if state.processRecord then ledger else ledger.discard state next [oldest]
  | .visit number consumed =>
      match state.processing[number]? with
      | none => ledger
      | some processing =>
          match architecture.routes[processing.position]? with
          | none => ledger
          | some route =>
              ledger.enter processing.record route
                (state.verdict architecture route processing consumed)
  | .finish number =>
      { ledger with
        processed := ledger.processed ++ (state.processing[number]?.map (·.record)).toList }
  | .cancel => ledger.discard state next state.ingress
  | _ => ledger

/-- The records that were captured. -/
def captures : List (StoredRecord Payload) :=
  ledger.attempts.filterMap fun attempt =>
    match attempt with
    | .captured record => some record
    | _ => none

/-- How often a route came to a verdict. -/
def count [DecidableEq Route] (route : Route) (verdict : Verdict) : Nat :=
  ledger.entries.countP fun entry => entry.route = route ∧ entry.verdict = verdict

end Ledger

/-- The facility with its ledger. -/
def recordedMachine [DecidableEq Route] (architecture : Architecture Route Payload) :
    Transition.Machine (State Route Payload × Ledger Route Payload) (Label Route Payload) :=
  ⟨fun (state, ledger) label =>
    (state.step architecture label).map fun next =>
      (next, ledger.write architecture state next label)⟩

/-! ### What closes -/

/-- Whether there was a loss since the last captured record. -/
def lossAfter (lost : Bool) : List (Attempt Payload) → Bool
  | [] => lost
  | .captured _ :: later => lossAfter false later
  | .filtered :: later => lossAfter lost later
  | .lost :: later => lossAfter true later

/-- The captured records carry the flag exactly where there was a loss since the one before. -/
def Flagged (lost : Bool) : List (Attempt Payload) → Prop
  | [] => True
  | .captured record :: later => record.flags.precedingLoss = lost ∧ Flagged false later
  | .filtered :: later => Flagged lost later
  | .lost :: later => Flagged true later

/-- Each attempt from a source is counted once. -/
def SourceRecord.Balanced (record : SourceRecord) : Prop :=
  record.attempted = record.captured + record.filtered + record.dropped

/-- What in the accounting hangs on a condition: the marks of losses, that no record is discarded,
and that each route counts each record. -/
inductive Part
  | losses | discards | routes

/-- The accounting closes, with these of the parts that hang on a condition. Between two steps of a
drain a record may be on its way from the ingress to its last route; there is none while no drain is
under way. -/
structure Closes [DecidableEq Route] (parts : Part → Bool) (architecture : Architecture Route Payload)
    (state : State Route Payload) (ledger : Ledger Route Payload) : Prop where
  attempted : state.record.attempted =
    state.record.captured + state.record.runtimeFiltered + state.record.dropped
  sources : ∀ source, (state.sourceRecords source).Balanced
  captured : parts .discards = true → state.record.captured =
    state.record.processed + state.processing.length + state.ingress.length + ledger.reported.length
  processed : state.record.processed = ledger.processed.length
  once : parts .routes = true → ∀ record ∈ ledger.processed, ∀ route ∈ architecture.routes,
    (ledger.entries.countP fun entry =>
      entry.sequence = record.sequence ∧ entry.route = route) = 1
  counted : ∀ route, (state.sinkRecords route).accepted = ledger.count route .accepted ∧
    (state.sinkRecords route).failed = ledger.count route .failed ∧
    (state.sinkRecords route).filtered = ledger.count route .filtered
  verdicts : ∀ entry ∈ ledger.entries, entry.verdict = .accepted ∨ entry.verdict = .failed ∨
    entry.verdict = .filtered ∨ entry.verdict = .skipped
  consecutive : ledger.captures.map (·.sequence) = List.range' 1 state.record.captured
  flagged : parts .losses = true → Flagged false ledger.attempts

/-! ### The condition -/

namespace State

variable (architecture : Architecture Route Payload) (state : State Route Payload)

/-- A call whose loss leaves no trace: the record is too large, or the lock is taken, or the filters
reject a request that tells of an earlier loss. -/
def Silent (call : Call Payload) : Prop :=
  (state.ready = true ∧ state.accepting = true ∧
      decide (call.operation = .isrCapture) = call.inIsr) ∧
    (state.accepts architecture call = false ∧ call.request.flags.precedingLoss = true ∨
      state.accepts architecture call = true ∧ (architecture.maxRecordBytes <
            architecture.headerBytes + architecture.payloadSize call.request.payload ∨
          call.operation ≠ .capture ∧ call.acquired = false))

/-- A route that counts a record: its level or the panic mode keeps the record from it, or it goes
to a sink that does not need a text, or whose text can be rendered. -/
def Counts (route : Route) (record : StoredRecord Payload) : Prop :=
  record.level.atLeast (state.minimum route) = false ∨
    (architecture.traits route).retained = false ∧
      (state.panicMode = true ∧ (architecture.traits route).panicSafe = false ∨
        (architecture.traits route).encoded = true ∨
        (architecture.renderMessage record).isSome = true)

/-- The condition of a step: a silent loss comes after one that is already marked, no record leaves
the ingress without being processed, and a record goes to a route that counts it. -/
def Sound : Label Route Payload → Prop
  | .capture call => state.Silent architecture call → state.record.precedingLoss = true
  | .pop => state.ingress = [] ∨ state.processRecord = true
  | .visit number _ => ∀ processing ∈ state.processing[number]?,
      ∀ route ∈ architecture.routes[processing.position]?,
        state.Counts architecture route processing.record
  | .cancel => state.ingress = []
  | _ => True

/-- The part that hangs on the condition of a step. -/
def Label.part : Label Route Payload → Option Part
  | .capture _ => some .losses
  | .pop | .cancel => some .discards
  | .visit _ _ => some .routes
  | _ => none

instance (call : Call Payload) : Decidable (state.Silent architecture call) :=
  inferInstanceAs (Decidable (_ ∧ _))

instance (route : Route) (record : StoredRecord Payload) :
    Decidable (state.Counts architecture route record) :=
  inferInstanceAs (Decidable (_ ∨ _))

instance (label : Label Route Payload) : Decidable (state.Sound architecture label) :=
  match label with
  | .capture call => inferInstanceAs (Decidable (state.Silent architecture call → _))
  | .pop =>
      match empty : state.ingress with
      | [] => isTrue (.inl empty)
      | _ :: _ => decidable_of_iff (state.processRecord = true)
          ⟨.inr, (Or.resolve_left · (by rw [empty]; exact List.cons_ne_nil _ _))⟩
  | .visit number _ => inferInstanceAs (Decidable (∀ processing ∈ state.processing[number]?, _))
  | .cancel => decidable_of_iff (state.ingress.isEmpty = true) List.isEmpty_iff
  | .finish _ | .setSourceLevel _ _ | .setDomainLevel _ _ | .setSinkLevel _ _ | .activate | .panic
  | .start | .stop | .deinit => isTrue trivial

end State

variable {architecture : Architecture Route Payload}
  {state next : State Route Payload} {ledger : Ledger Route Payload}

/-! ### Captures -/

/-- The exits of a capture, with the attempts that the ledger has of each. -/
inductive Captures (architecture : Architecture Route Payload) (state : State Route Payload)
    (call : Call Payload) : State Route Payload → List (Attempt Payload) → Prop
  | refused : Captures architecture state call state []
  | filtered
      (silent : call.request.flags.precedingLoss = true → state.Silent architecture call) :
      Captures architecture state call (state.filter call) (call.earlier ++ [.filtered])
  | silent (silent : state.Silent architecture call) :
      Captures architecture state call state (call.earlier ++ [.lost])
  | stored :
      Captures architecture state call (state.store call)
        (call.earlier ++ [.captured (state.header call)])
  | dropped : Captures architecture state call (state.drop call) (call.earlier ++ [.lost])

theorem State.receipt_disposition {call : Call Payload} :
    (state.receipt architecture call).disposition ≠ .runtimeFiltered := by
  unfold State.receipt
  dsimp only
  split
  · nofun
  · split <;> nofun

/-- One case for each exit of a capture. -/
theorem State.capture_cases (call : Call Payload) :
    Captures architecture state call (state.capture architecture call).1
      (call.attempts (state.header call) (state.capture architecture call).2) := by
  unfold State.capture
  by_cases closed : state.ready = false ∨ state.accepting = false
  · rw [if_pos closed]
    exact .refused
  rw [if_neg closed]
  obtain ⟨ready, accepting⟩ := not_or.mp closed
  by_cases misplaced : decide (call.operation = .isrCapture) ≠ call.inIsr
  · rw [if_pos misplaced]
    exact .refused
  rw [if_neg misplaced]
  have begun : state.ready = true ∧ state.accepting = true ∧
      decide (call.operation = .isrCapture) = call.inIsr :=
    ⟨eq_true_of_ne_false ready, eq_true_of_ne_false accepting, not_not.mp misplaced⟩
  by_cases rejected : state.accepts architecture call = false
  · rw [if_pos rejected]
    exact .filtered fun flagged => ⟨begun, .inl ⟨rejected, flagged⟩⟩
  rw [if_neg rejected]
  have accepted := eq_true_of_ne_false rejected
  by_cases large : architecture.maxRecordBytes <
      architecture.headerBytes + architecture.payloadSize call.request.payload
  · rw [if_pos large]
    exact .silent ⟨begun, .inr ⟨accepted, .inl large⟩⟩
  rw [if_neg large]
  by_cases contended : call.operation ≠ .capture ∧ call.acquired = false
  · rw [if_pos contended]
    exact .silent ⟨begun, .inr ⟨accepted, .inr contended⟩⟩
  rw [if_neg contended]
  by_cases room : state.HasRoom architecture call.request
  · rw [if_pos room]
    change Captures architecture state call _ (call.earlier ++ [if _ then _ else _])
    rw [if_neg State.receipt_disposition]
    exact .stored
  · rw [if_neg room]
    exact .dropped

theorem Captures.frame {call : Call Payload} {attempts : List (Attempt Payload)}
    (captures : Captures architecture state call next attempts) :
    next.processing = state.processing ∧ next.sinkRecords = state.sinkRecords := by
  cases captures <;> exact ⟨rfl, rfl⟩

/-! ### The frame of the other steps -/

/-- What captures count is the same. -/
structure FacilityRecord.Unmoved (record next : FacilityRecord) : Prop where
  attempted : next.attempted = record.attempted
  captured : next.captured = record.captured
  runtimeFiltered : next.runtimeFiltered = record.runtimeFiltered
  dropped : next.dropped = record.dropped
  nextSequence : next.nextSequence = record.nextSequence
  precedingLoss : next.precedingLoss = record.precedingLoss

theorem Ledger.attempts_enter (record : StoredRecord Payload) (route : Route) (verdict : Verdict) :
    (ledger.enter record route verdict).attempts = ledger.attempts := by
  cases verdict <;> rfl

variable [DecidableEq Route]

namespace State

/-- What a verdict changes: counters of the route, and of the facility those of the sinks and of
the history. -/
structure Settled (state next : State Route Payload) : Prop where
  unmoved : state.record.Unmoved next.record
  processed : next.record.processed = state.record.processed
  sourceRecords : next.sourceRecords = state.sourceRecords
  ingress : next.ingress = state.ingress
  processing : next.processing = state.processing

variable (state architecture) in
theorem settled_settle (route : Route) (record : StoredRecord Payload) (verdict : Verdict) :
    state.Settled (state.settle architecture route record verdict) := by
  cases verdict with
  | retained =>
    unfold settle retain
    dsimp only
    split <;> exact ⟨⟨rfl, rfl, rfl, rfl, rfl, rfl⟩, rfl, rfl, rfl, rfl⟩
  | _ => exact ⟨⟨rfl, rfl, rfl, rfl, rfl, rfl⟩, rfl, rfl, rfl, rfl⟩

theorem visit_cases {number : Nat} {consumed : Bool}
    (stepped : state.step architecture (.visit number consumed) = some next) :
    ∃ processing route, state.processing[number]? = some processing ∧
      architecture.routes[processing.position]? = some route ∧
      next = state.visit architecture number processing route consumed := by
  obtain ⟨processing, at_, rest⟩ := bind_eq_some_iff.mp stepped
  obtain ⟨route, here, visited⟩ := map_eq_some_iff.mp rest
  exact ⟨processing, route, at_, here, visited.symm⟩

theorem finish_cases {number : Nat}
    (stepped : state.step architecture (.finish number) = some next) :
    ∃ processing, state.processing[number]? = some processing ∧
      architecture.routes.length ≤ processing.position ∧ next = state.finish number := by
  obtain ⟨processing, at_, rest⟩ := bind_eq_some_iff.mp stepped
  obtain ⟨past, finished⟩ := ite_none_right_eq_some.mp rest
  exact ⟨processing, at_, past, (some.inj finished).symm⟩

theorem cancel_cases (stepped : state.step architecture .cancel = some next) :
    next = { state with ingress := [] } :=
  (some.inj (ite_none_right_eq_some.mp stepped).2).symm

omit [DecidableEq Route] in
theorem unmoved_pop : state.record.Unmoved state.pop.record := by
  unfold pop
  split <;> exact ⟨rfl, rfl, rfl, rfl, rfl, rfl⟩

end State

end Solar.Log
