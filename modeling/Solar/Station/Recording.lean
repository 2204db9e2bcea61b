/-
This file shows that a recording has exactly what happened during it. The captured events
are at any moment a row of three parts: those stored, the batch and those in the queue.
The writer moves the borders of the parts and nothing else, so an event keeps its place,
and its place is its id in the database. A flush goes through the same queue: when it
comes out, every event before it is stored.
-/

import Solar.Library.Progress
import Solar.Station.Boundaries

namespace Solar.Station

open List hiding map_map

variable {Value : Type}

/-! ### What a step keeps -/

namespace Recorder

variable {options : RecorderOptions} {base : StationDatabase Value} {recorder next : Recorder Value}
  {stored : Nat}

/-- The events that are in the queue. -/
def queued (recorder : Recorder Value) : List (Capture Value) :=
  recorder.queue.filterMap QueueItem.content?

/-- The flushes that are to come out, with the number of events before each. -/
def marked (recorder : Recorder Value) (stored : Nat) : List (Nat × Nat) :=
  (recorder.writer.call.map fun call => (call, stored + recorder.batch.length)).toList ++
    marks (stored + recorder.batch.length) recorder.queue

/-- The captured events are those stored, the batch and those in the queue. -/
structure Kept (base : StationDatabase Value) (recorder : Recorder Value) (stored : Nat) :
    Prop where
  events : recorder.database.events =
    base.events ++ numbered base.maxEventId (recorder.captured.take stored)
  last : recorder.database.maxEventId = base.maxEventId + stored
  present : stored ≤ recorder.captured.length
  rest : recorder.captured.drop stored = recorder.batch ++ recorder.queued
  getting : recorder.writer = .getting → recorder.batch = []
  ordered : recorder.captured.Pairwise fun first second =>
    first.event.liveSequence < second.event.liveSequence
  numbered : ∀ content ∈ recorder.captured, content.event.liveSequence ≤ recorder.sequence
  books : StationDatabase.Books (base.recordings.map Recording.id) base.maxEventId stored
    recorder.captured.length recorder.database.recordings
  active : recorder.active = recorder.database.activeRecordingCount
  waits : Waits recorder.calls (recorder.marked stored) stored recorder.captured.length

section

variable (kept : Kept base recorder stored)

include kept

theorem Kept.length :
    recorder.captured.length = stored + recorder.batch.length + recorder.queued.length := by
  have parts := congrArg List.length kept.rest
  rw [length_drop, length_append] at parts
  have present := kept.present
  omega

/-- An event is captured. -/
theorem Kept.captured {content : Capture Value}
    (fresh : ∀ other ∈ recorder.captured, other.event.liveSequence < content.event.liveSequence)
    (published : content.event.liveSequence ≤ recorder.sequence) :
    Kept base { recorder with
      queue := recorder.queue ++ [.capture content]
      captured := recorder.captured ++ [content] } stored where
  events := by
    rw [take_append_of_le_length kept.present]
    exact kept.events
  last := kept.last
  present := Nat.le_trans kept.present (by rw [length_append]; exact Nat.le_add_right _ _)
  rest := by
    rw [drop_append_of_le_length kept.present, kept.rest, append_assoc]
    unfold queued
    rw [filterMap_append]
    rfl
  getting := kept.getting
  ordered := by
    rw [pairwise_append]
    refine ⟨kept.ordered, pairwise_singleton _ _, fun other member last single => ?_⟩
    exact mem_singleton.mp single ▸ fresh other member
  numbered := by
    intro other member
    rcases mem_append.mp member with old | new
    · exact kept.numbered other old
    · exact mem_singleton.mp new ▸ published
  books := kept.books.mono (Nat.le_refl _) (by rw [length_append]; exact Nat.le_add_right _ _)
  active := kept.active
  waits := by
    have same : marked { recorder with
        queue := recorder.queue ++ [.capture content]
        captured := recorder.captured ++ [content] } stored = recorder.marked stored := by
      unfold marked
      rw [marks_concat]
      exact congrArg _ (append_nil _)
    rw [same]
    exact kept.waits.mono (Nat.le_refl _) (by rw [length_append]; exact Nat.le_add_right _ _)

theorem Kept.counted {sequence dropped : Nat} (later : recorder.sequence ≤ sequence) :
    Kept base { recorder with sequence, dropped } stored where
  __ := kept
  numbered content member := Nat.le_trans (kept.numbered content member) later

theorem Kept.publish (sourceKind : SourceKind) (value : Value) (session : Option Nat)
    (persist : Bool) :
    Kept base (recorder.publish options sourceKind value session persist) stored := by
  have counted : Kept base { recorder with sequence := recorder.sequence + 1 } stored :=
    kept.counted (Nat.le_succ _)
  unfold Recorder.publish Recorder.capture
  dsimp only
  split_ifs
  · exact counted
  · exact counted.counted (Nat.le_refl _)
  · refine counted.captured (fun other member => ?_) (Nat.le_refl _)
    exact Nat.lt_succ_of_le (kept.numbered other member)
  · exact counted

end

/-! ### Steps of a call -/

variable {rest : List (QueueItem Value)} {number : Nat}

section

variable (kept : Kept base recorder stored)

include kept

theorem Kept.call (operation : RecorderOperation) (free : recorder.calls number = none) :
    Kept base (recorder.setCall number
      (some { operation, called := recorder.captured.length })) stored where
  __ := kept
  waits := kept.waits.update (fun _ here => nomatch free.symm.trans here) _
    fun _ same => Option.some.inj same ▸ ⟨rfl, Nat.le_refl _⟩

theorem Kept.put {operation : RecorderOperation} {called : Nat}
    (here : recorder.calls number = some ⟨operation, .putting, called⟩) :
    Kept base { recorder.setCall number (some ⟨operation, .waiting, called⟩) with
      queue := recorder.queue ++ [.flush number] } stored where
  __ := kept
  rest := by
    refine kept.rest.trans ?_
    unfold queued
    rw [filterMap_append]
    exact congrArg _ (append_nil _).symm
  waits := by
    have marked : marked { recorder.setCall number (some ⟨operation, .waiting, called⟩) with
        queue := recorder.queue ++ [.flush number] } stored =
          recorder.marked stored ++ [(number, recorder.captured.length)] := by
      unfold Recorder.marked
      rw [marks_concat, kept.length, append_assoc]
      rfl
    rw [marked]
    exact kept.waits.put here rfl

/-- A call that goes on after its flush returns, maybe with another database. -/
theorem Kept.returns {call : RecorderCall} (here : recorder.calls number = some call)
    (stage : call.stage = .flushed) {database : StationDatabase Value} {active : Nat}
    (events : database.events = recorder.database.events)
    (books : StationDatabase.Books (base.recordings.map Recording.id) base.maxEventId stored
      recorder.captured.length database.recordings)
    (counted : active = database.activeRecordingCount) :
    Kept base { recorder.setCall number none with database, active } stored where
  events := events.trans kept.events
  last := by
    refine Eq.trans ?_ kept.last
    unfold StationDatabase.maxEventId
    rw [events]
  __ := kept
  books
  active := counted
  waits := kept.waits.update (fun other same waiting => by
    obtain rfl := Option.some.inj (here.symm.trans same)
    exact nomatch stage.symm.trans waiting) none nofun

theorem Kept.finish {clock : Nat} {call : RecorderCall} (here : recorder.calls number = some call)
    (stage : call.stage = .flushed) :
    Kept base (recorder.finish options number call clock) stored := by
  have flushed := kept.waits.flushed number call here stage
  have unchanged : Kept base (recorder.setCall number none) stored :=
    kept.returns here stage rfl kept.books kept.active
  unfold Recorder.finish
  cases call.operation with
  | flush => exact unchanged
  | start name =>
    dsimp only
    cases started : recorder.database.startRecording options.isSpace name clock call.called
        recorder.captured.length with
    | none => exact unchanged
    | some database =>
      obtain ⟨books, events, counted⟩ :=
        kept.books.startRecording kept.last flushed kept.present started
      exact kept.returns here stage events books (by rw [kept.active, counted])
  | stop name =>
    dsimp only
    cases stopped : recorder.database.stopRecording name clock call.called with
    | none => exact unchanged
    | some database =>
      obtain ⟨books, events, counted⟩ := kept.books.stopRecording kept.last flushed stopped
      exact kept.returns here stage events books (by rw [kept.active, ← counted]; rfl)

end

/-! ### Steps of the writer -/

theorem Kept.setWriter (kept : Kept base recorder stored) {writer : WriterStage}
    (call : writer.call = recorder.writer.call) (busy : writer ≠ .getting) :
    Kept base { recorder with writer } stored where
  __ := kept
  getting := fun same => absurd same busy
  waits := by
    have same : marked { recorder with writer } stored = recorder.marked stored := by
      unfold marked
      rw [call]
    rw [same]
    exact kept.waits

theorem call_collects (batch : List (Capture Value)) : (collects options batch).call = none := by
  unfold collects
  split_ifs <;> rfl

section

variable (kept : Kept base recorder stored)

include kept

/-- The writer takes an event into the batch. -/
theorem Kept.takeCapture {content : Capture Value}
    (queue : recorder.queue = .capture content :: rest) (call : recorder.writer.call = none) :
    Kept base (({ recorder with queue := rest } : Recorder Value).take options (.capture content))
      stored where
  __ := kept
  rest := by
    refine kept.rest.trans ?_
    unfold queued
    rw [queue]
    exact (append_assoc _ [content] _).symm
  getting := by
    intro same
    unfold take collects at same
    dsimp only at same
    split_ifs at same
  waits := by
    have same : marked (({ recorder with queue := rest } : Recorder Value).take options
        (.capture content)) stored = recorder.marked stored := by
      unfold marked take
      rw [call_collects, call, queue, length_append, ← Nat.add_assoc]
      rfl
    rw [same]
    exact kept.waits

/-- The writer takes a flush. -/
theorem Kept.takeFlush (queue : recorder.queue = .flush number :: rest)
    (call : recorder.writer.call = none) :
    Kept base (({ recorder with queue := rest } : Recorder Value).take options (.flush number))
      stored := by
  have marks : recorder.marked stored = (number, stored + recorder.batch.length) ::
      marks (stored + recorder.batch.length) rest := by
    unfold marked
    rw [call, queue]
    rfl
  have content : recorder.queued = rest.filterMap QueueItem.content? := by
    unfold queued
    rw [queue]
    rfl
  have waits := kept.waits
  rw [marks] at waits
  unfold take
  split_ifs with empty
  · rw [empty] at waits
    exact {
      __ := kept
      rest := kept.rest.trans (congrArg _ content)
      getting := fun _ => empty
      waits := by
        have popped := waits.pop (Nat.le_refl _)
        unfold marked
        dsimp only [complete, setCall, WriterStage.call]
        rw [empty]
        exact popped }
  · exact {
      __ := kept
      rest := kept.rest.trans (congrArg _ content)
      getting := nofun
      waits }

/-- The batch is stored. -/
theorem Kept.insert :
    Kept base (recorder.insert recorder.writer.call) (stored + recorder.batch.length) := by
  have parts := kept.length
  have moved : recorder.captured.take (stored + recorder.batch.length) =
      recorder.captured.take stored ++ recorder.batch := by
    rw [take_add, kept.rest, take_left]
  obtain ⟨inserted, last⟩ := recorder.database.insertEventRows_eq recorder.batch
  have plain {calls : Nat → Option RecorderCall}
      (waits : Waits calls (marks (stored + recorder.batch.length) recorder.queue)
        (stored + recorder.batch.length) recorder.captured.length) :
      Kept base { recorder with
        database := recorder.database.insertEventRows recorder.batch
        batch := []
        writer := .getting
        calls } (stored + recorder.batch.length) := {
    events := by
      rw [inserted, moved, numbered_append, ← append_assoc, ← kept.events,
        length_take_of_le kept.present, ← kept.last]
    last := by
      rw [last, kept.last, Nat.add_assoc]
    present := by
      dsimp only
      omega
    rest := by
      rw [← drop_drop, kept.rest, drop_left]
      rfl
    getting := fun _ => rfl
    __ := kept
    books := by
      rw [inserted]
      exact kept.books.mono (Nat.le_add_right _ _) (Nat.le_refl _)
    active := by
      rw [inserted]
      exact kept.active
    waits }
  have waits := kept.waits.mono (Nat.le_add_right stored recorder.batch.length) (Nat.le_refl _)
  unfold marked at waits
  cases call : recorder.writer.call with rw [call] at waits
  | none => exact plain waits
  | some number => exact plain (Waits.pop waits (Nat.le_refl _))

end

/-! ### Runs -/

/-- Every step keeps the books of the recorder, and stores no event twice. -/
theorem Kept.step (kept : Kept base recorder stored) {label : RecorderLabel Value}
    (stepped : recorder.step options label = some next) :
    ∃ later ≥ stored, Kept base next later := by
  cases label with unfold Recorder.step at stepped
  | publish sourceKind value session persist =>
    cases stepped
    exact ⟨stored, Nat.le_refl _, kept.publish sourceKind value session persist⟩
  | call number operation =>
    dsimp only at stepped
    cases free : recorder.calls number with rw [free] at stepped
    | some call => exact nomatch stepped
    | none =>
      cases stepped
      exact ⟨stored, Nat.le_refl _, kept.call operation free⟩
  | put number =>
    dsimp only at stepped
    split at stepped
    case h_1 operation called here =>
      obtain ⟨-, ⟨⟩⟩ := Option.ite_none_left_eq_some.mp stepped
      exact ⟨stored, Nat.le_refl _, kept.put here⟩
    case h_2 => exact nomatch stepped
  | finish number clock =>
    dsimp only at stepped
    cases here : recorder.calls number with rw [here] at stepped
    | none => exact nomatch stepped
    | some call =>
      obtain ⟨guard, ⟨⟩⟩ := Option.ite_none_right_eq_some.mp stepped
      exact ⟨stored, Nat.le_refl _, kept.finish here guard.1⟩
  | get =>
    have taken (call : recorder.writer.call = none) {item : QueueItem Value}
        {rest : List (QueueItem Value)} (queue : recorder.queue = item :: rest) :
        Kept base (({ recorder with queue := rest } : Recorder Value).take options item)
          stored := by
      cases item with
      | capture content => exact kept.takeCapture queue call
      | flush number => exact kept.takeFlush queue call
    cases queue : recorder.queue with rw [queue] at stepped
    | nil => cases writer : recorder.writer <;> rw [writer] at stepped <;> exact nomatch stepped
    | cons item rest =>
      cases writer : recorder.writer with rw [writer] at stepped
      | locking | inserting => exact nomatch stepped
      | _ =>
        cases stepped
        have call : recorder.writer.call = none := by rw [writer]; rfl
        exact ⟨stored, Nat.le_refl _, writer ▸ taken call queue⟩
  | expire =>
    dsimp only at stepped
    cases writer : recorder.writer <;> rw [writer] at stepped
    case collecting =>
      cases stepped
      exact ⟨stored, Nat.le_refl _, kept.setWriter (by rw [writer]; rfl) nofun⟩
    all_goals exact nomatch stepped
  | lock =>
    dsimp only at stepped
    cases writer : recorder.writer <;> rw [writer] at stepped
    case locking call =>
      cases stepped
      exact ⟨stored, Nat.le_refl _, kept.setWriter (by rw [writer]; rfl) nofun⟩
    all_goals exact nomatch stepped
  | insert =>
    dsimp only at stepped
    cases writer : recorder.writer <;> rw [writer] at stepped
    case inserting call =>
      cases stepped
      have same : recorder.writer.call = call := by rw [writer]; rfl
      exact ⟨stored + recorder.batch.length, Nat.le_add_right _ _, same ▸ kept.insert⟩
    all_goals exact nomatch stepped

theorem Kept.initial (loaded : base.Loaded) : Kept base (initialized base) 0 where
  events := (append_nil _).symm
  last := rfl
  present := Nat.le_refl _
  rest := rfl
  getting _ := rfl
  ordered := .nil
  numbered := nofun
  books := ⟨loaded.distinct, loaded.bounded, fun _ member => .inl (mem_map_of_mem member)⟩
  active := rfl
  waits := ⟨.nil, nofun, nofun, nofun, nofun⟩

theorem kept_of_reachable (loaded : base.Loaded)
    (reached : (recorderMachine Value options).Reachable (initialized base) recorder) :
    ∃ stored, Kept base recorder stored := by
  refine reached.invariant (fun recorder => ∃ stored, Kept base recorder stored)
    ⟨0, Kept.initial loaded⟩ ?_
  rintro state label next ⟨stored, kept⟩ stepped
  obtain ⟨later, -, keeps⟩ := kept.step stepped
  exact ⟨later, keeps⟩

/-! ### The writer catches up -/

/-- The steps of the writer. -/
def Writing : RecorderLabel Value → Prop
  | .get | .expire | .lock | .insert => True
  | _ => False

/-- How far the writer is from waiting for an item. -/
def rank : WriterStage → Nat
  | .getting => 0
  | .inserting _ => 1
  | .locking _ => 2
  | .collecting => 3

/-- What the writer has still to do. -/
def backlog (recorder : Recorder Value) : Nat := 4 * recorder.queue.length + rank recorder.writer

theorem rank_le (writer : WriterStage) : rank writer ≤ 3 := by
  cases writer with
  | getting => exact Nat.zero_le _
  | collecting => exact Nat.le_refl _
  | _ => exact Nat.le_of_ble_eq_true rfl

theorem queue_take (item : QueueItem Value) :
    (recorder.take options item).queue = recorder.queue := by
  cases item with
  | capture content => rfl
  | flush call =>
    unfold take
    split_ifs <;> rfl

theorem captured_take {item : QueueItem Value} :
    (recorder.take options item).captured = recorder.captured := by
  cases item with
  | capture content => rfl
  | flush call =>
    unfold take
    split_ifs <;> rfl

theorem insert_rest (call : Option Nat) :
    (recorder.insert call).queue = recorder.queue ∧ (recorder.insert call).writer = .getting ∧
      (recorder.insert call).captured = recorder.captured := by
  cases call <;> exact ⟨rfl, rfl, rfl⟩

theorem backlog_take {item : QueueItem Value} (queue : recorder.queue = item :: rest) :
    (({ recorder with queue := rest } : Recorder Value).take options item).backlog <
      recorder.backlog := by
  have left := congrArg List.length (@queue_take _ options { recorder with queue := rest } item)
  have ranked :=
    rank_le (({ recorder with queue := rest } : Recorder Value).take options item).writer
  unfold backlog
  rw [left, queue, length_cons]
  dsimp only
  omega

/-- The writer goes on until it waits for an item. -/
theorem writer_moves (recorder : Recorder Value) :
    (recorder.queue = [] ∧ recorder.writer = .getting) ∨ ∃ label next, Writing label ∧
      recorder.step options label = some next ∧ next.captured = recorder.captured ∧
        next.backlog < recorder.backlog := by
  cases writer : recorder.writer with
  | getting =>
    cases queue : recorder.queue with
    | nil => exact .inl ⟨rfl, rfl⟩
    | cons item rest =>
      refine .inr ⟨.get, ({ recorder with queue := rest } : Recorder Value).take options item,
        trivial, ?_, captured_take, backlog_take queue⟩
      unfold Recorder.step
      rw [writer, queue]
  | collecting =>
    cases queue : recorder.queue with
    | nil =>
      refine .inr ⟨.expire, { recorder with writer := .locking none }, trivial, ?_, rfl, ?_⟩
      · unfold Recorder.step
        rw [writer]
      · unfold backlog
        rw [writer]
        exact Nat.lt_succ_self _
    | cons item rest =>
      refine .inr ⟨.get, ({ recorder with queue := rest } : Recorder Value).take options item,
        trivial, ?_, captured_take, backlog_take queue⟩
      unfold Recorder.step
      rw [writer, queue]
  | locking call =>
    refine .inr ⟨.lock, { recorder with writer := .inserting call }, trivial, ?_, rfl, ?_⟩
    · unfold Recorder.step
      rw [writer]
    · unfold backlog
      rw [writer]
      exact Nat.lt_succ_self _
  | inserting call =>
    obtain ⟨queue, getting, captured⟩ := @insert_rest _ recorder call
    refine .inr ⟨.insert, recorder.insert call, trivial, ?_, captured, ?_⟩
    · unfold Recorder.step
      rw [writer]
    · unfold backlog
      rw [writer, queue, getting]
      exact Nat.lt_succ_self _

/-! ### Exact recordings -/

/-- What the database has of the captured events, of which so many are stored. -/
structure Exact (base : StationDatabase Value) (recorder : Recorder Value) (stored : Nat) :
    Prop where
  events : recorder.database.events =
    base.events ++ numbered base.maxEventId (recorder.captured.take stored)
  rest : recorder.captured.drop stored = recorder.batch ++ recorder.queued
  once : recorder.database.events.Pairwise fun first second => first.id < second.id
  ordered : recorder.captured.Pairwise fun first second =>
    first.event.liveSequence < second.event.liveSequence
  flushed : ∀ number call, recorder.calls number = some call → call.stage = .flushed →
    call.called ≤ stored
  earlier : ∀ recording ∈ recorder.database.recordings,
    recording.id ∉ base.recordings.map Recording.id →
      ∀ row ∈ base.events, row ∉ recorder.database.recordingEvents recording
  before : ∀ recording ∈ recorder.database.recordings, ∀ index < recording.startCalled,
    ∀ content, ⟨base.maxEventId + index + 1, content⟩ ∉ recorder.database.recordingEvents recording
  during : ∀ recording ∈ recorder.database.recordings, ∀ index content,
    recorder.captured[index]? = some content → recording.startReturned ≤ index →
      index < recording.stopCalled.getD stored →
        ⟨base.maxEventId + index + 1, content⟩ ∈ recorder.database.recordingEvents recording
  active : recorder.active = recorder.database.activeRecordingCount

/-- What is kept makes the database exact. -/
theorem Kept.exact (kept : Kept base recorder stored) (loaded : base.Loaded) :
    Exact base recorder stored where
  __ := kept
  once := by
    rw [kept.events, pairwise_append]
    refine ⟨loaded.sorted, pairwise_numbered _ _, fun first old second new => ?_⟩
    obtain ⟨index, -, id⟩ := mem_numbered.mp new
    have bound := StationDatabase.le_maxEventId old
    omega
  ordered := kept.ordered
  flushed := kept.waits.flushed
  earlier recording member unknown row old found := by
    have after := (kept.books.fresh recording member).resolve_left unknown
    have inside := (mem_filter.mp found).2
    have above := of_decide_eq_true ((Bool.and_eq_true _ _).mp inside).1
    exact absurd (StationDatabase.le_maxEventId old) (by omega)
  before recording member index inside content found := by
    have within := (mem_filter.mp found).2
    have above := of_decide_eq_true ((Bool.and_eq_true _ _).mp within).1
    have started := (kept.books.bounded recording member).started index inside
    exact absurd above (Nat.not_lt.mpr started)
  during recording member index content here later sooner := by
    have bounded := kept.books.bounded recording member
    have inStored : index < stored := by
      rcases bounded.ended with ⟨-, stopped⟩ | ⟨last, called, -, stopped, covered, -⟩ <;>
        rw [stopped] at sooner
      · exact sooner
      · exact Nat.lt_of_lt_of_le sooner covered
    refine mem_filter.mpr ⟨?_, (Bool.and_eq_true _ _).mpr ⟨decide_eq_true ?_, ?_⟩⟩
    · rw [kept.events]
      refine mem_append_right _ (mem_numbered.mpr ⟨index, ?_, rfl⟩)
      rw [List.getElem?_take, if_pos inStored]
      exact here
    · have returned := bounded.returned
      change recording.startAfterEventId < base.maxEventId + index + 1
      omega
    · rcases bounded.ended with ⟨open', -⟩ | ⟨last, called, ends, stopped, -, inside⟩
      · rw [open']
        rfl
      · rw [ends]
        rw [stopped] at sooner
        exact decide_eq_true (inside index sooner)
  active := kept.active

/-- At any moment the database has exactly the captured events, up to those that the writer has
yet to store, and so has each recording; and the writer comes to store them all, and to complete
every flush. -/
theorem recordings_exact {base : StationDatabase Value} (loaded : base.Loaded)
    {options : RecorderOptions} {recorder : Recorder Value}
    (reached : (recorderMachine Value options).Reachable (initialized base) recorder) :
    (∃ stored, Exact base recorder stored) ∧
      (recorderMachine Value options).Leads Writing (fun final =>
        final.captured = recorder.captured ∧ Exact base final recorder.captured.length ∧
          ∀ number call, final.calls number = some call → call.stage ≠ .waiting) recorder := by
  obtain ⟨stored, kept⟩ := kept_of_reachable loaded reached
  refine ⟨⟨stored, kept.exact loaded⟩, ?_⟩
  refine Transition.Machine.Leads.descend
    backlog (?_ : ∀ current, (current.captured = recorder.captured ∧
      ∃ stored, Kept base current stored) → _) ⟨rfl, stored, kept⟩
  rintro current ⟨same, place, keeps⟩
  rcases current.writer_moves with
    ⟨empty, getting⟩ | ⟨label, next, own, stepped, unchanged, nearer⟩
  · have batch := keeps.getting getting
    have all : recorder.captured.length = place := by
      have length := keeps.length
      unfold queued at length
      rw [same, batch, empty] at length
      exact length
    refine .inl ⟨same, all ▸ keeps.exact loaded, fun number call here stage => ?_⟩
    have member := keeps.waits.waiting number call here stage
    unfold marked at member
    rw [getting, empty] at member
    exact nomatch member
  · obtain ⟨later, -, goes⟩ := keeps.step stepped
    exact .inr ⟨label, next, own, stepped, ⟨unchanged.trans same, later, goes⟩, nearer⟩

/-- A recording is started, an event is captured and stored, another one is captured, and the
recording is stopped. -/
def recordedLabels : List (RecorderLabel Nat) :=
  [.publish .topic 6 none true, .call 0 (.start ['a']), .put 0, .get, .finish 0 1,
    .publish .topic 7 none true, .get, .lock, .insert, .publish .log 8 none true,
    .call 1 (.stop none), .put 1, .get, .lock, .insert, .get, .finish 1 2,
    .publish .topic 9 none true]

abbrev recordedOptions : RecorderOptions where
  queueDepth := 2
  batchSize := 1
  isSpace := (· = ' ')

theorem recorded_run :
    ((recorderMachine Nat recordedOptions).run (initialized {}) recordedLabels).isSome = true := by
  decide

/-- The state that the recording leaves. -/
def recorded : Recorder Nat :=
  ((recorderMachine Nat recordedOptions).run (initialized {}) recordedLabels).get recorded_run

theorem loaded_new : ({} : StationDatabase Nat).Loaded :=
  ⟨.nil, .nil, nofun⟩

theorem recordings_exact_recorded :
    (recorded.database.recordings.map fun recording =>
        (recorded.database.recordingEvents recording).map fun row => row.content.event.value) =
      [[7, 8]] ∧
      (∃ stored, Exact {} recorded stored) ∧
      (recorderMachine Nat recordedOptions).Leads Writing (fun final =>
        final.captured = recorded.captured ∧ Exact {} final recorded.captured.length ∧
          ∀ number call, final.calls number = some call → call.stage ≠ .waiting) recorded :=
  ⟨by decide, recordings_exact loaded_new
    ((recorderMachine Nat recordedOptions).reachable_get _ recordedLabels recorded_run)⟩

end Recorder

end Solar.Station
