/-
This file models how a Station keeps its events. `capture` puts an event into a bounded
queue; a writer collects what it takes from the queue into batches and stores each batch
in one transaction. A flush is an item of the same queue, and waits behind the events that
it covers. A recording is a pair of event ids, which the database reads from its last row
while the writer is elsewhere; after a flush the last id lies between the events captured
before the call and those captured after it.

The code runs on one event loop. What it does between two suspensions is one step; the
writer also stores a batch in another thread, during which it has the lock of the
database.
-/

import Solar.Library.Transition

namespace Solar.Station

open Function
open List hiding map_map
open Option hiding map map_map

/-! ### Events -/

inductive SourceKind
  | dataWatch | dataStream | stream | topic | log | server
  deriving DecidableEq

/-- A `StationEvent`. Its value stands for the fields that only the rows of the database read. -/
structure StationEvent (Value : Type) where
  liveSequence : Nat
  sourceKind : SourceKind
  value : Value

structure Capture (Value : Type) where
  event : StationEvent Value
  robotSessionId : Option Nat

/-! ### The database -/

structure EventRow (Value : Type) where
  id : Nat
  content : Capture Value

/-- A `Recording`. The last three fields remember how many events had been captured when `start`
was called, when it returned and when `stop` was called. -/
structure Recording where
  id : Nat
  name : List Char
  startAfterEventId : Nat
  endEventId : Option Nat
  startedNs : Nat
  endedNs : Option Nat
  startCalled : Nat
  startReturned : Nat
  stopCalled : Option Nat

def Recording.isActive (recording : Recording) : Bool := recording.endEventId.isNone

structure StationDatabase (Value : Type) where
  events : List (EventRow Value) := []
  recordings : List Recording := []

namespace StationDatabase

variable {Value : Type} (database : StationDatabase Value)

/-- `SELECT COALESCE(MAX(id), 0) FROM events`. -/
def maxEventId : Nat := (database.events.map EventRow.id).foldr max 0

/-- `_insert_event_rows`. No row is ever deleted, so the next id comes after the last. -/
def insertEventRows : StationDatabase Value → List (Capture Value) → StationDatabase Value
  | database, [] => database
  | database, content :: rest =>
      insertEventRows
        { database with events := database.events ++ [⟨database.maxEventId + 1, content⟩] } rest

/-- `str.strip`. -/
def strip (isSpace : Char → Bool) (name : List Char) : List Char :=
  (name.dropWhile isSpace).rdropWhile isSpace

/-- `start_recording`; there is none if the name is empty or taken. -/
def startRecording (isSpace : Char → Bool) (name : List Char) (startedNs called returned : Nat) :
    Option (StationDatabase Value) :=
  let name := strip isSpace name
  if name = [] then none
  else if database.recordings.any fun recording => recording.name = name then none
  else some { database with
    recordings := database.recordings ++ [{
      id := (database.recordings.map Recording.id).foldr max 0 + 1
      name
      startAfterEventId := database.maxEventId
      endEventId := none
      startedNs
      endedNs := none
      startCalled := called
      startReturned := returned
      stopCalled := none }] }

/-- `ORDER BY started_ns DESC, id DESC LIMIT 1`. -/
def latest : List Recording → Option Recording
  | [] => none
  | recording :: rest =>
      match latest rest with
      | none => some recording
      | some other =>
          if other.startedNs < recording.startedNs ∨
              (other.startedNs = recording.startedNs ∧ other.id < recording.id) then some recording
          else some other

/-- The recording that `stop_recording` finds. -/
def stopTarget (name : Option (List Char)) : Option Recording :=
  match name with
  | none => latest (database.recordings.filter Recording.isActive)
  | some name => database.recordings.find? fun recording =>
      recording.name = name && recording.isActive

/-- `stop_recording`; there is none if no active recording is found. -/
def stopRecording (name : Option (List Char)) (endedNs called : Nat) :
    Option (StationDatabase Value) :=
  (database.stopTarget name).map fun target => { database with
    recordings := database.recordings.map fun recording =>
      if recording.id = target.id then
        { recording with
          endEventId := some database.maxEventId
          endedNs := some endedNs
          stopCalled := some called }
      else recording }

/-- `query_events` by `after_id` and `through_id`. -/
def queryEvents (afterId : Nat) (throughId : Option Nat) : List (EventRow Value) :=
  database.events.filter fun row => afterId < row.id && throughId.all (row.id ≤ ·)

/-- `recording_events`. -/
def recordingEvents (recording : Recording) : List (EventRow Value) :=
  database.queryEvents recording.startAfterEventId recording.endEventId

/-- `active_recording_count`. -/
def activeRecordingCount : Nat := database.recordings.countP Recording.isActive

end StationDatabase

/-! ### The recorder -/

/-- What a recorder is made with. A queue whose depth is not positive has no bound. -/
structure RecorderOptions where
  queueDepth : Int := 4096
  batchSize : Int := 128
  isSpace : Char → Bool

/-- An item of the queue. A `_Flush` has the call whose future it completes. -/
inductive QueueItem (Value : Type)
  | capture (content : Capture Value)
  | flush (call : Nat)

/-- The content of a `_Capture`. -/
def QueueItem.content? {Value : Type} : QueueItem Value → Option (Capture Value)
  | .capture content => some content
  | .flush _ => none

inductive RecorderOperation
  | flush
  | start (name : List Char)
  | stop (name : Option (List Char))
  deriving DecidableEq

/-- Where a call is: it has yet to put its `_Flush`, waits for the future, or goes on after it. -/
inductive CallStage
  | putting | waiting | flushed
  deriving DecidableEq

/-- A call of `flush`, `start` or `stop`, and how many events had been captured before it. -/
structure RecorderCall where
  operation : RecorderOperation
  stage : CallStage := .putting
  called : Nat

/-- Where `_run_writer` is. While it stores a batch, it knows the `_Flush` that comes after. -/
inductive WriterStage
  | getting
  | collecting
  | locking (call : Option Nat)
  | inserting (call : Option Nat)

def WriterStage.hasLock : WriterStage → Bool
  | .inserting _ => true
  | _ => false

/-- The call whose future is completed after the batch. -/
def WriterStage.call : WriterStage → Option Nat
  | .locking call => call
  | .inserting call => call
  | _ => none

/-- `captured` remembers every event that was captured and not dropped. -/
structure Recorder (Value : Type) where
  database : StationDatabase Value
  active : Nat
  sequence : Nat := 0
  dropped : Nat := 0
  queue : List (QueueItem Value) := []
  batch : List (Capture Value) := []
  writer : WriterStage := .getting
  calls : Nat → Option RecorderCall := fun _ => none
  captured : List (Capture Value) := []

/-- A step. The clock is that of the recording that a call starts or stops. -/
inductive RecorderLabel (Value : Type)
  | publish (sourceKind : SourceKind) (value : Value) (robotSessionId : Option Nat)
      (persist : Bool)
  | call (number : Nat) (operation : RecorderOperation)
  | put (number : Nat)
  | finish (number : Nat) (clock : Nat)
  | get
  | expire
  | lock
  | insert

namespace Recorder

variable {Value : Type} (options : RecorderOptions) (recorder : Recorder Value)

/-- After `initialize`. -/
def initialized (database : StationDatabase Value) : Recorder Value where
  database
  active := database.activeRecordingCount

/-- `Queue.full`. -/
def isFull : Bool := 0 < options.queueDepth && options.queueDepth ≤ recorder.queue.length

def setCall (number : Nat) (call : Option RecorderCall) : Recorder Value :=
  { recorder with calls := Function.update recorder.calls number call }

def capture (content : Capture Value) : Recorder Value :=
  let always := content.event.sourceKind = .log ∨ content.event.sourceKind = .server
  if ¬ always ∧ recorder.active = 0 then recorder
  else if recorder.isFull options then { recorder with dropped := recorder.dropped + 1 }
  else { recorder with
    queue := recorder.queue ++ [.capture content]
    captured := recorder.captured ++ [content] }

/-- `EventHub.publish`, up to the sinks. -/
def publish (sourceKind : SourceKind) (value : Value) (robotSessionId : Option Nat)
    (persist : Bool) : Recorder Value :=
  let sequence := recorder.sequence + 1
  let published := { recorder with sequence }
  if persist then published.capture options ⟨⟨sequence, sourceKind, value⟩, robotSessionId⟩
  else published

/-- The future of a call is completed. -/
def complete (number : Nat) : Recorder Value :=
  recorder.setCall number ((recorder.calls number).map ({ · with stage := .flushed }))

/-- A call goes on after its flush, and returns. -/
def finish (number : Nat) (call : RecorderCall) (clock : Nat) : Recorder Value :=
  let done := recorder.setCall number none
  match call.operation with
  | .flush => done
  | .start name =>
      match recorder.database.startRecording options.isSpace name clock call.called
        recorder.captured.length with
      | some database => { done with database, active := recorder.active + 1 }
      | none => done
  | .stop name =>
      match recorder.database.stopRecording name clock call.called with
      | some database => { done with database, active := recorder.active - 1 }
      | none => done

/-- Whether the batch is still to grow. -/
def collects (batch : List (Capture Value)) : WriterStage :=
  if (batch.length : Int) < options.batchSize then .collecting else .locking none

/-- The writer has got an item. -/
def take : QueueItem Value → Recorder Value
  | .capture content =>
      let batch := recorder.batch ++ [content]
      { recorder with batch, writer := collects options batch }
  | .flush call =>
      if recorder.batch = [] then { recorder.complete call with writer := .getting }
      else { recorder with writer := .locking (some call) }

/-- The batch is stored. -/
def insert (call : Option Nat) : Recorder Value :=
  let stored := { recorder with
    database := recorder.database.insertEventRows recorder.batch
    batch := []
    writer := .getting }
  match call with
  | some number => stored.complete number
  | none => stored

def step : RecorderLabel Value → Option (Recorder Value)
  | .publish sourceKind value robotSessionId persist =>
      some (recorder.publish options sourceKind value robotSessionId persist)
  | .call number operation =>
      match recorder.calls number with
      | none => some (recorder.setCall number
          (some { operation, called := recorder.captured.length }))
      | some _ => none
  | .put number =>
      match recorder.calls number with
      | some ⟨operation, .putting, called⟩ =>
          if recorder.isFull options then none
          else some { recorder.setCall number (some ⟨operation, .waiting, called⟩) with
            queue := recorder.queue ++ [.flush number] }
      | _ => none
  | .finish number clock =>
      match recorder.calls number with
      | some call =>
          if call.stage = .flushed ∧ (call.operation = .flush ∨ ¬ recorder.writer.hasLock) then
            some (recorder.finish options number call clock)
          else none
      | none => none
  | .get =>
      match recorder.writer, recorder.queue with
      | .getting, item :: rest => some ({ recorder with queue := rest }.take options item)
      | .collecting, item :: rest => some ({ recorder with queue := rest }.take options item)
      | _, _ => none
  | .expire =>
      match recorder.writer with
      | .collecting => some { recorder with writer := .locking none }
      | _ => none
  | .lock =>
      match recorder.writer with
      | .locking call => some { recorder with writer := .inserting call }
      | _ => none
  | .insert =>
      match recorder.writer with
      | .inserting call => some (recorder.insert call)
      | _ => none

end Recorder

def recorderMachine (Value : Type) (options : RecorderOptions) :
    Transition.Machine (Recorder Value) (RecorderLabel Value) :=
  ⟨Recorder.step options⟩

variable {Value : Type}

/-! ### Rows -/

/-- Contents with the ids that follow a given one. -/
def numbered (after : Nat) : List (Capture Value) → List (EventRow Value)
  | [] => []
  | content :: rest => ⟨after + 1, content⟩ :: numbered (after + 1) rest

theorem numbered_append (after : Nat) (first second : List (Capture Value)) :
    numbered after (first ++ second) =
      numbered after first ++ numbered (after + first.length) second := by
  induction first generalizing after with
  | nil => rfl
  | cons content rest ih =>
    rw [cons_append, numbered, numbered, cons_append, ih,
      length_cons, Nat.add_assoc, Nat.add_comm 1]

theorem mem_numbered {after : Nat} {contents : List (Capture Value)} {row : EventRow Value} :
    row ∈ numbered after contents ↔
      ∃ index, contents[index]? = some row.content ∧ row.id = after + index + 1 := by
  induction contents generalizing after with
  | nil => exact ⟨nofun, fun ⟨_, here, _⟩ => nomatch here⟩
  | cons content rest ih =>
    rw [numbered, mem_cons, ih]
    constructor
    · rintro (rfl | ⟨index, here, id⟩)
      · exact ⟨0, rfl, rfl⟩
      · exact ⟨index + 1, here, id.trans (by omega)⟩
    · rintro ⟨index, here, id⟩
      cases index with
      | zero =>
        obtain ⟨rowId, rowContent⟩ := row
        obtain rfl := some.inj here
        exact .inl (by rw [show rowId = after + 1 from id])
      | succ index => exact .inr ⟨index, here, id.trans (by omega)⟩

theorem pairwise_numbered (after : Nat) (contents : List (Capture Value)) :
    (numbered after contents).Pairwise fun first second => first.id < second.id := by
  induction contents generalizing after with
  | nil => exact .nil
  | cons content rest ih =>
    refine .cons (fun row member => ?_) (ih (after + 1))
    obtain ⟨index, -, id⟩ := mem_numbered.mp member
    rw [id]
    change after + 1 < after + 1 + index + 1
    omega

namespace StationDatabase

variable {database : StationDatabase Value}

theorem le_foldr_max {numbers : List Nat} {number : Nat} (member : number ∈ numbers) :
    number ≤ numbers.foldr max 0 := by
  induction numbers with
  | nil => exact nomatch member
  | cons first rest ih =>
    rcases mem_cons.mp member with rfl | later
    · exact Nat.le_max_left _ _
    · exact Nat.le_trans (ih later) (Nat.le_max_right _ _)

theorem le_maxEventId {row : EventRow Value} (member : row ∈ database.events) :
    row.id ≤ database.maxEventId := le_foldr_max (mem_map_of_mem member)

theorem foldr_max_append (first second : List Nat) :
    (first ++ second).foldr max 0 = max (first.foldr max 0) (second.foldr max 0) := by
  induction first with
  | nil => exact (Nat.zero_max _).symm
  | cons number rest ih => rw [cons_append, foldr_cons, foldr_cons, ih, Nat.max_assoc]

theorem insertEventRows_eq (database : StationDatabase Value) (contents : List (Capture Value)) :
    database.insertEventRows contents =
        { database with events := database.events ++ numbered database.maxEventId contents } ∧
      (database.insertEventRows contents).maxEventId = database.maxEventId + contents.length := by
  induction contents generalizing database with
  | nil =>
    refine ⟨?_, rfl⟩
    rw [numbered, append_nil]
    rfl
  | cons content rest ih =>
    have last : StationDatabase.maxEventId { database with
        events := database.events ++ [⟨database.maxEventId + 1, content⟩] } =
          database.maxEventId + 1 := by
      unfold maxEventId
      rw [map_append, foldr_max_append]
      exact Nat.max_eq_right (Nat.le_succ _)
    rw [insertEventRows, (ih _).2, (ih _).1, last]
    refine ⟨?_, by rw [length_cons]; omega⟩
    rw [append_assoc]
    rfl

/-! ### Recordings -/

/-- The bounds of a recording, where the rows of the run come after a given id and so many of them
are stored: an event captured before `start` was called is not after the first bound, one captured
after it returned is, and one captured before `stop` was called is not after the second. -/
structure Bounded (before stored captured : Nat) (recording : Recording) : Prop where
  started : ∀ index < recording.startCalled, before + index < recording.startAfterEventId
  returned : recording.startAfterEventId ≤ before + recording.startReturned
  present : recording.startReturned ≤ captured
  reached : recording.startAfterEventId ≤ before + stored
  ended : (recording.endEventId = none ∧ recording.stopCalled = none) ∨
    ∃ last called, recording.endEventId = some last ∧ recording.stopCalled = some called ∧
      called ≤ stored ∧ ∀ index < called, before + index < last

theorem Bounded.mono {before stored captured later more : Nat} {recording : Recording}
    (bounded : Bounded before stored captured recording) (grows : stored ≤ later)
    (grown : captured ≤ more) : Bounded before later more recording where
  __ := bounded
  present := Nat.le_trans bounded.present grown
  reached := Nat.le_trans bounded.reached (Nat.add_le_add_left grows _)
  ended := bounded.ended.imp_right fun ⟨last, called, ends, stopped, covered, inside⟩ =>
    ⟨last, called, ends, stopped, Nat.le_trans covered grows, inside⟩

/-- A database as a process of the Station finds it. No event of the run is captured yet. -/
structure Loaded (database : StationDatabase Value) : Prop where
  sorted : database.events.Pairwise fun first second => first.id < second.id
  distinct : (database.recordings.map Recording.id).Nodup
  bounded : ∀ recording ∈ database.recordings, Bounded database.maxEventId 0 0 recording

/-- The recordings during a run. Those whose ids are not known were started in it. -/
structure Books (known : List Nat) (before stored captured : Nat) (recordings : List Recording) :
    Prop where
  distinct : (recordings.map Recording.id).Nodup
  bounded : ∀ recording ∈ recordings, Bounded before stored captured recording
  fresh : ∀ recording ∈ recordings, recording.id ∈ known ∨ before ≤ recording.startAfterEventId

variable {known : List Nat} {before stored captured : Nat} {recordings : List Recording}

theorem Books.mono {later more : Nat} (books : Books known before stored captured recordings)
    (grows : stored ≤ later) (grown : captured ≤ more) : Books known before later more recordings :=
  ⟨books.distinct, fun recording member => (books.bounded recording member).mono grows grown,
    books.fresh⟩

/-- A recording is started after a flush. -/
theorem Books.startRecording {next : StationDatabase Value} {isSpace : Char → Bool}
    {name : List Char} {clock called : Nat}
    (books : Books known before stored captured database.recordings)
    (last : database.maxEventId = before + stored) (flushed : called ≤ stored)
    (present : stored ≤ captured)
    (started : database.startRecording isSpace name clock called captured = some next) :
    Books known before stored captured next.recordings ∧ next.events = database.events ∧
      next.activeRecordingCount = database.activeRecordingCount + 1 := by
  unfold StationDatabase.startRecording at started
  dsimp only at started
  split_ifs at started with empty taken
  obtain rfl := some.inj started
  refine ⟨⟨?_, fun recording member => ?_, fun recording member => ?_⟩, rfl, ?_⟩
  · rw [map_append, nodup_append]
    refine ⟨books.distinct, pairwise_singleton _ _, fun number member other single => ?_⟩
    rw [mem_singleton.mp single]
    exact Nat.ne_of_lt (Nat.lt_succ_of_le (le_foldr_max member))
  · rcases mem_append.mp member with old | new
    · exact books.bounded recording old
    · obtain rfl := mem_singleton.mp new
      refine ⟨fun index inside => ?_, ?_, Nat.le_refl _, Nat.le_of_eq last, .inl ⟨rfl, rfl⟩⟩
      · rw [last]
        exact Nat.add_lt_add_left (Nat.lt_of_lt_of_le inside flushed) _
      · rw [last]
        exact Nat.add_le_add_left present _
  · rcases mem_append.mp member with old | new
    · exact books.fresh recording old
    · obtain rfl := mem_singleton.mp new
      exact .inr (last ▸ Nat.le_add_right _ _)
  · unfold activeRecordingCount
    rw [countP_append]
    rfl

theorem latest_mem {recording : Recording} (found : latest recordings = some recording) :
    recording ∈ recordings := by
  induction recordings with
  | nil => exact nomatch found
  | cons first rest ih =>
    unfold latest at found
    cases later : latest rest with rw [later] at found
    | none => exact some.inj found ▸ mem_cons_self
    | some other =>
      dsimp only at found
      split_ifs at found
      · exact some.inj found ▸ mem_cons_self
      · obtain rfl := some.inj found
        exact mem_cons_of_mem _ (ih later)

theorem stopTarget_spec {name : Option (List Char)} {target : Recording}
    (found : database.stopTarget name = some target) :
    target ∈ database.recordings ∧ target.isActive = true := by
  cases name with
  | none => exact mem_filter.mp (latest_mem found)
  | some name =>
    refine ⟨mem_of_find?_eq_some found, ?_⟩
    have holds := find?_some found
    exact (Bool.and_eq_true _ _ ▸ holds).2

/-- The change of one recording that is told by its id. -/
theorem countP_update {target : Recording} (distinct : (recordings.map Recording.id).Nodup)
    (member : target ∈ recordings) (active : target.isActive = true)
    (change : Recording → Recording) (ends : ∀ recording, (change recording).isActive = false) :
    (recordings.map fun recording =>
        if recording.id = target.id then change recording else recording).countP
          Recording.isActive + 1 = recordings.countP Recording.isActive := by
  induction recordings with
  | nil => exact nomatch member
  | cons first rest ih =>
    rw [map_cons, nodup_cons] at distinct
    rw [map_cons, countP_cons, countP_cons]
    rcases mem_cons.mp member with rfl | later
    · have same : (rest.map fun recording =>
          if recording.id = target.id then change recording else recording) = rest := by
        refine (map_congr_left fun recording inside => if_neg fun equal => ?_).trans (map_id rest)
        exact distinct.1 (equal ▸ mem_map_of_mem inside)
      rw [same, if_pos rfl, ends, active]
      rfl
    · have differ : first.id ≠ target.id := fun equal =>
        distinct.1 (equal ▸ mem_map_of_mem later)
      rw [if_neg differ, ← ih distinct.2 later]
      omega

/-- A recording is stopped after a flush. -/
theorem Books.stopRecording {next : StationDatabase Value} {name : Option (List Char)}
    {clock called : Nat} (books : Books known before stored captured database.recordings)
    (last : database.maxEventId = before + stored) (flushed : called ≤ stored)
    (stopped : database.stopRecording name clock called = some next) :
    Books known before stored captured next.recordings ∧ next.events = database.events ∧
      next.activeRecordingCount + 1 = database.activeRecordingCount := by
  obtain ⟨target, found, rfl⟩ := map_eq_some_iff.mp stopped
  obtain ⟨member, active⟩ := stopTarget_spec found
  refine ⟨⟨?_, fun recording inside => ?_, fun recording inside => ?_⟩, rfl, ?_⟩
  · rw [List.map_map]
    refine (map_congr_left fun recording _ => ?_) ▸ books.distinct
    unfold comp
    dsimp only
    split_ifs <;> rfl
  · obtain ⟨old, present, rfl⟩ := mem_map.mp inside
    have bounded := books.bounded old present
    split_ifs
    · refine ⟨bounded.started, bounded.returned, bounded.present, bounded.reached,
        .inr ⟨_, _, rfl, rfl, flushed, ?_⟩⟩
      intro index earlier
      rw [last]
      exact Nat.add_lt_add_left (Nat.lt_of_lt_of_le earlier flushed) _
    · exact bounded
  · obtain ⟨old, present, rfl⟩ := mem_map.mp inside
    have fresh := books.fresh old present
    split_ifs <;> exact fresh
  · exact countP_update books.distinct member active _ fun _ => rfl

end StationDatabase

/-! ### Calls -/

/-- The flushes of a queue, with the number of events before each. -/
def marks (place : Nat) : List (QueueItem Value) → List (Nat × Nat)
  | [] => []
  | .capture _ :: rest => marks (place + 1) rest
  | .flush call :: rest => (call, place) :: marks place rest

theorem marks_concat (place : Nat) (queue : List (QueueItem Value)) (item : QueueItem Value) :
    marks place (queue ++ [item]) =
      marks place queue ++ marks (place + (queue.filterMap QueueItem.content?).length) [item] := by
  induction queue generalizing place with
  | nil => rfl
  | cons first rest ih =>
    cases first with
    | capture content =>
      rw [cons_append, marks, marks, ih, filterMap_cons]
      dsimp only [QueueItem.content?]
      rw [length_cons, Nat.add_assoc, Nat.add_comm 1]
    | flush call =>
      rw [cons_append, marks, ih]
      rfl

/-- The calls of a run whose flushes are marked: one that waits is, and one that goes on has every
event that was captured before it stored. -/
structure Waits (calls : Nat → Option RecorderCall) (marked : List (Nat × Nat))
    (stored captured : Nat) : Prop where
  distinct : (marked.map Prod.fst).Nodup
  pending : ∀ number place, (number, place) ∈ marked → ∃ call, calls number = some call ∧
    call.stage = .waiting ∧ call.called ≤ place
  waiting : ∀ number call, calls number = some call → call.stage = .waiting →
    number ∈ marked.map Prod.fst
  flushed : ∀ number call, calls number = some call → call.stage = .flushed → call.called ≤ stored
  called : ∀ number call, calls number = some call → call.called ≤ captured

section Waits

variable {calls : Nat → Option RecorderCall} {marked : List (Nat × Nat)} {stored captured : Nat}

theorem Waits.mono (waits : Waits calls marked stored captured) {later more : Nat}
    (grows : stored ≤ later) (grown : captured ≤ more) : Waits calls marked later more where
  __ := waits
  flushed number call here stage := Nat.le_trans (waits.flushed number call here stage) grows
  called number call here := Nat.le_trans (waits.called number call here) grown

variable {number : Nat}

section

variable (waits : Waits calls marked stored captured)

include waits

section

variable (other : ∀ call, calls number = some call → call.stage ≠ .waiting)

include other

theorem Waits.notMem : number ∉ marked.map Prod.fst := by
  intro member
  obtain ⟨⟨_, place⟩, inside, rfl⟩ := mem_map.mp member
  obtain ⟨call, here, stage, -⟩ := waits.pending _ place inside
  exact other call here stage

/-- A call changes that has no mark, and gets none. -/
theorem Waits.update (change : Option RecorderCall)
    (fresh : ∀ call, change = some call → call.stage = .putting ∧ call.called ≤ captured) :
    Waits (update calls number change) marked stored captured := by
  have apart := waits.notMem other
  refine ⟨waits.distinct, fun marker place member => ?_, fun marker call here stage => ?_,
    fun marker call here stage => ?_, fun marker call here => ?_⟩
  · have differ : marker ≠ number := fun same =>
      apart (same ▸ mem_map_of_mem (f := Prod.fst) member)
    rw [update_of_ne differ]
    exact waits.pending marker place member
  · by_cases same : marker = number
    · rw [same, update_self] at here
      exact nomatch (fresh call here).1.symm.trans stage
    · rw [update_of_ne same] at here
      exact waits.waiting marker call here stage
  · by_cases same : marker = number
    · rw [same, update_self] at here
      exact nomatch (fresh call here).1.symm.trans stage
    · rw [update_of_ne same] at here
      exact waits.flushed marker call here stage
  · by_cases same : marker = number
    · rw [same, update_self] at here
      exact (fresh call here).2
    · rw [update_of_ne same] at here
      exact waits.called marker call here

end

/-- A call puts its flush behind every event that is captured. -/
theorem Waits.put {call : RecorderCall} (here : calls number = some call)
    (stage : call.stage = .putting) :
    Waits (Function.update calls number (some { call with stage := .waiting }))
      (marked ++ [(number, captured)]) stored captured := by
  have apart := waits.notMem fun other same waiting => by
    obtain rfl := some.inj (here.symm.trans same)
    exact nomatch stage.symm.trans waiting
  refine ⟨?_, fun marker place member => ?_, fun marker other same stage => ?_,
    fun marker other same stage => ?_, fun marker other same => ?_⟩
  · rw [map_append, nodup_append]
    refine ⟨waits.distinct, pairwise_singleton _ _, fun marker member other single => ?_⟩
    rintro rfl
    obtain rfl : marker = number := mem_singleton.mp single
    exact apart member
  · rcases mem_append.mp member with old | new
    · have differ : marker ≠ number := fun same =>
        apart (same ▸ mem_map_of_mem (f := Prod.fst) old)
      rw [update_of_ne differ]
      exact waits.pending marker place old
    · obtain ⟨rfl, rfl⟩ := Prod.mk.inj (mem_singleton.mp new)
      exact ⟨_, update_self _ _ _, rfl, waits.called _ call here⟩
  · rw [map_append]
    by_cases equal : marker = number
    · exact mem_append_right _ (equal ▸ mem_singleton_self _)
    · rw [update_of_ne equal] at same
      exact mem_append_left _ (waits.waiting marker other same stage)
  · by_cases equal : marker = number
    · rw [equal, update_self] at same
      rw [← some.inj same] at stage
      exact nomatch stage
    · rw [update_of_ne equal] at same
      exact waits.flushed marker other same stage
  · by_cases equal : marker = number
    · rw [equal, update_self] at same
      rw [← some.inj same]
      exact waits.called number call here
    · rw [update_of_ne equal] at same
      exact waits.called marker other same

end

/-- The first flush comes out, with every event before it stored. -/
theorem Waits.pop {place : Nat} {rest : List (Nat × Nat)}
    (waits : Waits calls ((number, place) :: rest) stored captured) (covered : place ≤ stored) :
    Waits (Function.update calls number ((calls number).map ({ · with stage := .flushed }))) rest
      stored captured := by
  obtain ⟨call, here, -, bounded⟩ := waits.pending number place mem_cons_self
  obtain ⟨apart, distinct⟩ := nodup_cons.mp waits.distinct
  rw [here]
  refine ⟨distinct, fun marker position member => ?_, fun marker other same stage => ?_,
    fun marker other same stage => ?_, fun marker other same => ?_⟩
  · have differ : marker ≠ number := by
      rintro rfl
      exact apart (show marker ∈ _ from mem_map_of_mem (f := Prod.fst) member)
    rw [update_of_ne differ]
    exact waits.pending marker position (mem_cons_of_mem _ member)
  · by_cases equal : marker = number
    · rw [equal, update_self] at same
      rw [← some.inj same] at stage
      exact nomatch stage
    · rw [update_of_ne equal] at same
      exact (mem_cons.mp (waits.waiting marker other same stage)).resolve_left equal
  · by_cases equal : marker = number
    · rw [equal, update_self] at same
      rw [← some.inj same]
      exact Nat.le_trans bounded covered
    · rw [update_of_ne equal] at same
      exact waits.flushed marker other same stage
  · by_cases equal : marker = number
    · rw [equal, update_self] at same
      rw [← some.inj same]
      exact waits.called number call here
    · rw [update_of_ne equal] at same
      exact waits.called marker other same

end Waits

end Solar.Station
