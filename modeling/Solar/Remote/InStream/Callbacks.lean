/-
This file shows when the lifecycle callbacks of an inbound stream come in pairs. A row is
at any moment in one of three standings: no callback is owed on it, a stream has its token
but OnOpen was not invoked, or OnOpen was invoked and OnClose is owed. While the service
hands a callback over, the callback is in one place: with the service, in the mailbox, with
the worker, or done.

A refused submission takes the callback out of the mailbox again and nobody repeats it. So
a refused OnOpen is as if it had failed, and a refused OnClose is lost. If no OnClose that
is owed is refused, and no submission is refused while the worker is in the middle of its
callback, every OnOpen is followed by its OnClose and by nothing else.
-/

import Solar.Library.Progress
import Solar.Remote.InStream.Lifecycle
import Solar.Remote.InStream.Steps

namespace Solar.Remote

open List Option Function

variable {Value : Type} {catalog : LifecycleCatalog Value}

/-- The endpoint has both callbacks. -/
def LifecycleCatalog.IsPaired (catalog : LifecycleCatalog Value) (endpoint : catalog.Endpoint) :
    Prop :=
  (catalog.traits endpoint).hasOnOpen = true ∧ catalog.hasOnClose endpoint = true

/-! ### What happens on a row -/

inductive Standing
  | none
  | started (token : UInt32)
  | opened (token : UInt32)

namespace Standing

def token : Standing → Option UInt32
  | .none => Option.none
  | .started token => some token
  | .opened token => some token

def isOpened : Standing → Bool
  | .opened _ => true
  | _ => false

end Standing

/-- A history in which every OnOpen is followed by its OnClose, and the standing it leaves. -/
inductive Paired (row : catalog.Row) : List (LifecycleMoment catalog) → Standing → Prop
  | nil : Paired row [] .none
  | started {history : List (LifecycleMoment catalog)} {standing : Standing} (token : UInt32)
      (before : Paired row history standing) (free : standing.isOpened = false) :
      Paired row (history ++ [.started token]) (.started token)
  | opened {history : List (LifecycleMoment catalog)} (context : InStreamOpenContext catalog)
      (before : Paired row history (.started context.token))
      (own : (context.endpoint, context.link) = row) :
      Paired row (history ++ [.invoked (.opened context)]) (.opened context.token)
  | closed {history : List (LifecycleMoment catalog)} {standing : Standing}
      (context : InStreamCloseContext catalog) (before : Paired row history standing)
      (same : standing.token = some context.token)
      (own : (context.endpoint, context.link) = row) :
      Paired row (history ++ [.invoked (.closed context)]) .none

variable {history : List (LifecycleMoment catalog)} {row : catalog.Row} {standing : Standing}

theorem Paired.isOpened (paired : Paired row history standing) :
    standing.isOpened = match history.getLast? with
      | some (.invoked callback) => callback.isOpened
      | _ => false := by
  cases paired with
  | nil => rfl
  | started | opened | closed =>
    rw [getLast?_concat]
    rfl

/-- The moment after an OnOpen is its OnClose, and then comes another stream. -/
structure Followed (row : catalog.Row) (context : InStreamOpenContext catalog)
    (after : List (LifecycleMoment catalog)) : Prop where
  own : (context.endpoint, context.link) = row
  closed : ∃ closing rest, after = .invoked (.closed closing) :: rest ∧
    (closing.endpoint, closing.link) = row ∧ closing.token = context.token ∧
    (rest = [] ∨ ∃ token later, rest = .started token :: later)

theorem eq_concat_cases {Element : Type} {front before after : List Element} {last here : Element}
    (same : front ++ [last] = before ++ here :: after) :
    (after = [] ∧ before = front ∧ here = last) ∨
      ∃ middle, after = middle ++ [last] ∧ front = before ++ here :: middle := by
  rcases eq_nil_or_concat after with rfl | ⟨middle, final, rfl⟩
  · obtain ⟨rfl, last⟩ := append_inj' same rfl
    exact .inl ⟨rfl, rfl, (cons.inj last).1.symm⟩
  · have split : front ++ [last] = (before ++ here :: middle) ++ [final] := by
      rw [same, concat_eq_append, append_assoc, cons_append]
    obtain ⟨fronts, lasts⟩ := append_inj' split rfl
    obtain rfl := (cons.inj lasts).1
    exact .inr ⟨middle, concat_eq_append, fronts⟩

theorem Paired.none_of_closed (paired : Paired row history standing)
    (context : InStreamCloseContext catalog)
    (last : history.getLast? = some (.invoked (.closed context))) : standing = .none := by
  cases paired with
  | nil => exact nomatch last
  | started | opened =>
    rw [getLast?_concat] at last
    exact nomatch last
  | closed => rfl

theorem Followed.snoc {context : InStreamOpenContext catalog}
    {after : List (LifecycleMoment catalog)} (followed : Followed row context after)
    {moment : LifecycleMoment catalog}
    (fresh : ∀ closing, after.getLast? = some (.invoked (.closed closing)) →
      ∃ token, moment = .started token) : Followed row context (after ++ [moment]) := by
  obtain ⟨closing, rest, rfl, own, same, rfl | ⟨token, later, rfl⟩⟩ := followed.closed
  · obtain ⟨token, rfl⟩ := fresh closing rfl
    exact ⟨followed.own, closing, _, rfl, own, same, .inr ⟨token, [], rfl⟩⟩
  · exact ⟨followed.own, closing, _, rfl, own, same, .inr ⟨token, _, rfl⟩⟩

/-- Every OnOpen in a paired history is followed by its OnClose, or is owed it. -/
theorem Paired.followed (paired : Paired row history standing) :
    ∀ before context after, history = before ++ .invoked (.opened context) :: after →
      (after = [] ∧ (context.endpoint, context.link) = row ∧ standing = .opened context.token) ∨
        Followed row context after := by
  have last {front before middle : List (LifecycleMoment catalog)}
      {here : LifecycleMoment catalog} {standing : Standing} (paired : Paired row front standing)
      (same : front = before ++ here :: middle) {closing : InStreamCloseContext catalog}
      (ends : middle.getLast? = some (.invoked (.closed closing))) : standing = .none := by
    refine paired.none_of_closed closing ?_
    rw [same, List.getLast?_append, List.getLast?_cons, ends]
    rfl
  induction paired with
  | nil => exact fun before _ _ same => absurd same.symm (by simp)
  | started token paired free ih =>
    intro before context after same
    rcases eq_concat_cases same with ⟨-, -, other⟩ | ⟨middle, rfl, front⟩
    · exact nomatch other
    · rcases ih before context middle front with ⟨-, -, rfl⟩ | followed
      · exact nomatch free
      · exact .inr (followed.snoc fun _ _ => ⟨token, rfl⟩)
  | opened context paired own ih =>
    intro before earlier after same
    rcases eq_concat_cases same with ⟨rfl, -, here⟩ | ⟨middle, rfl, front⟩
    · obtain rfl := LifecycleCallback.opened.inj (LifecycleMoment.invoked.inj here)
      exact .inl ⟨rfl, own, rfl⟩
    · rcases ih before earlier middle front with ⟨-, -, other⟩ | followed
      · exact nomatch other
      · exact .inr (followed.snoc fun _ ends => nomatch last paired front ends)
  | closed closing paired token own ih =>
    intro before earlier after same
    rcases eq_concat_cases same with ⟨-, -, other⟩ | ⟨middle, rfl, front⟩
    · exact nomatch other
    · rcases ih before earlier middle front with ⟨rfl, owns, rfl⟩ | followed
      · exact .inr ⟨owns, closing, [], rfl, own, (some.inj token).symm, .inl rfl⟩
      · refine .inr (followed.snoc fun _ ends => ?_)
        rw [last paired front ends] at token
        exact nomatch token

/-! ### What is owed -/

/-- The row of a callback that is handed over, before it is invoked and after. -/
inductive Owes : LifecycleCallback catalog → Bool → Option UInt32 → Standing → Prop
  | toOpen (context : InStreamOpenContext catalog) :
      Owes (.opened context) false (some context.token) (.started context.token)
  | opened (context : InStreamOpenContext catalog) :
      Owes (.opened context) true (some context.token) (.opened context.token)
  | toClose (context : InStreamCloseContext catalog) {standing : Standing}
      (same : standing.token = some context.token) : Owes (.closed context) false none standing
  | closed (context : InStreamCloseContext catalog) : Owes (.closed context) true none .none

/-- A row of which nothing is handed over: no OnClose is owed but that of its stream. -/
structure Rests (stream : Option UInt32) (standing : Standing) : Prop where
  active : ∀ token, stream = some token → standing.token = some token
  inactive : stream = none → standing.isOpened = false

variable {callback : LifecycleCallback catalog}

section Owes

variable {stream : Option UInt32}

theorem Owes.invoke (owes : Owes callback false stream standing)
    (paired : Paired callback.row history standing) :
    ∃ next, Paired callback.row (history ++ [.invoked callback]) next ∧
      Owes callback true stream next := by
  cases owes with
  | toOpen context => exact ⟨_, .opened context paired rfl, .opened context⟩
  | toClose context same => exact ⟨_, .closed context paired same rfl, .closed context⟩

theorem Owes.rests (owes : Owes callback true stream standing) : Rests stream standing := by
  cases owes with
  | opened context => exact ⟨fun _ same => same, nofun⟩
  | closed context => exact ⟨nofun, fun _ => rfl⟩

theorem Owes.rests_of_refused (owes : Owes callback false stream standing)
    (spared : callback.isOpened = true ∨ standing.isOpened = false) : Rests stream standing := by
  cases owes with
  | toOpen context => exact ⟨fun _ same => same, nofun⟩
  | toClose context same => exact ⟨nofun, fun _ => spared.resolve_left nofun⟩

end Owes

/-! ### Where the callback is -/

namespace LifecycleMailbox

/-- No callback is in the mailbox or with the worker. -/
structure Empty (mailbox : LifecycleMailbox catalog) : Prop where
  operation : mailbox.operation = none
  free : mailbox.worker.holds = false

/-- Where a callback is that the service hands over, and whether it was invoked. -/
inductive Carries (mailbox : LifecycleMailbox catalog) (callback : LifecycleCallback catalog) :
    HandOver → Bool → Prop
  | invoke (empty : mailbox.Empty) : Carries mailbox callback .invoke false
  | reset (empty : mailbox.Empty) : Carries mailbox callback .reset false
  | fill (empty : mailbox.Empty) (undone : mailbox.done = false) :
      Carries mailbox callback .fill false
  | placed {stage : HandOver} (late : stage = .submit ∨ stage = .wait)
      (operation : mailbox.operation = some callback) (free : mailbox.worker.holds = false)
      (undone : mailbox.done = false)
      (wakes : stage = .wait → mailbox.queued = true ∨ mailbox.worker ≠ .idle) :
      Carries mailbox callback stage false
  | taken {stage : HandOver} (late : stage = .submit ∨ stage = .wait)
      (operation : mailbox.operation = none) (undone : mailbox.done = false) (last : Bool)
      (worker : mailbox.worker = .invoking callback last) : Carries mailbox callback stage false
  | stored {stage : HandOver} (late : stage = .submit ∨ stage = .wait)
      (operation : mailbox.operation = none) (undone : mailbox.done = false) (result last : Bool)
      (worker : mailbox.worker = .storing result last) : Carries mailbox callback stage true
  | given {stage : HandOver} (late : stage = .submit ∨ stage = .wait)
      (operation : mailbox.operation = none) (undone : mailbox.done = false) (last : Bool)
      (worker : mailbox.worker = .giving last) : Carries mailbox callback stage true
  | done {stage : HandOver} (late : stage = .submit ∨ stage = .wait) (empty : mailbox.Empty)
      (done : mailbox.done = true) : Carries mailbox callback stage true

variable {mailbox next : LifecycleMailbox catalog} {answer : Bool}

theorem holds_after {last : Bool} :
    (LifecycleWorker.after last : LifecycleWorker catalog).holds = false := by
  cases last <;> rfl

variable {callback : Option (LifecycleCallback catalog)}

/-- The worker finds nothing in an empty mailbox. -/
theorem Empty.work (empty : mailbox.Empty) (worked : mailbox.work answer = some (next, callback)) :
    callback = none ∧ next.Empty ∧ next.done = mailbox.done := by
  obtain ⟨operation, free⟩ := empty
  unfold LifecycleMailbox.work at worked
  cases worker : mailbox.worker with
  | idle =>
    rw [worker] at worked
    obtain ⟨-, ⟨⟩⟩ := ite_none_right_eq_some.mp worked
    exact ⟨rfl, ⟨operation, rfl⟩, rfl⟩
  | looking last =>
    rw [worker, operation] at worked
    cases worked
    exact ⟨rfl, ⟨rfl, holds_after⟩, rfl⟩
  | draining =>
    rw [worker] at worked
    cases worked
    exact ⟨rfl, ⟨operation, rfl⟩, rfl⟩
  | invoking | storing | giving =>
    rw [worker] at free
    exact nomatch free

variable {carried : LifecycleCallback catalog} {invoked : Bool}

/-- The worker passes a callback on, and invokes it once. -/
theorem Carries.work {stage : HandOver} (carries : mailbox.Carries carried stage invoked)
    (worked : mailbox.work answer = some (next, callback)) :
    (callback = none ∧ next.Carries carried stage invoked) ∨
      (callback = some carried ∧ invoked = false ∧ next.Carries carried stage true) := by
  cases carries with
  | invoke empty =>
    obtain ⟨rfl, empty, -⟩ := empty.work worked
    exact .inl ⟨rfl, .invoke empty⟩
  | reset empty =>
    obtain ⟨rfl, empty, -⟩ := empty.work worked
    exact .inl ⟨rfl, .reset empty⟩
  | fill empty undone =>
    obtain ⟨rfl, empty, done⟩ := empty.work worked
    exact .inl ⟨rfl, .fill empty (done.trans undone)⟩
  | placed late operation free undone wakes =>
    unfold LifecycleMailbox.work at worked
    cases worker : mailbox.worker with
    | idle =>
      rw [worker] at worked
      obtain ⟨-, ⟨⟩⟩ := ite_none_right_eq_some.mp worked
      exact .inl ⟨rfl, .placed late operation rfl undone fun _ => .inr nofun⟩
    | looking last =>
      rw [worker, operation] at worked
      cases worked
      exact .inl ⟨rfl, .taken late rfl undone last rfl⟩
    | draining =>
      rw [worker] at worked
      cases worked
      exact .inl ⟨rfl, .placed late operation rfl undone fun _ => .inr nofun⟩
    | invoking | storing | giving =>
      rw [worker] at free
      exact nomatch free
  | taken late operation undone last worker =>
    unfold LifecycleMailbox.work at worked
    rw [worker] at worked
    cases worked
    exact .inr ⟨rfl, rfl, .stored late operation undone _ last rfl⟩
  | stored late operation undone result last worker =>
    unfold LifecycleMailbox.work at worked
    rw [worker] at worked
    cases worked
    exact .inl ⟨rfl, .given late operation undone last rfl⟩
  | given late operation undone last worker =>
    unfold LifecycleMailbox.work at worked
    rw [worker] at worked
    cases worked
    exact .inl ⟨rfl, .done late ⟨operation, holds_after⟩ rfl⟩
  | done late empty done =>
    obtain ⟨rfl, empty, still⟩ := empty.work worked
    exact .inl ⟨rfl, .done late empty (still.trans done)⟩

/-- A callback that is not in the mailbox yet. -/
theorem Carries.early {stage : HandOver} (carries : mailbox.Carries carried stage invoked)
    (early : stage = .invoke ∨ stage = .reset ∨ stage = .fill) :
    invoked = false ∧ mailbox.Empty ∧ (stage = .fill → mailbox.done = false) := by
  cases carries with
  | invoke empty | reset empty => exact ⟨rfl, empty, nofun⟩
  | fill empty undone => exact ⟨rfl, empty, fun _ => undone⟩
  | placed late | taken late | stored late | given late | done late =>
    rcases late with rfl | rfl <;> simp at early

/-- The steps of the worker until a callback in the mailbox is done. -/
def distance (mailbox : LifecycleMailbox catalog) : Nat :=
  if mailbox.done then 0
  else
    match mailbox.worker with
    | .giving _ => 1
    | .storing _ _ => 2
    | .invoking _ _ => 3
    | .looking _ => 4
    | .idle | .draining => 5

/-- While the service waits, the worker is done or comes nearer to it. -/
theorem Carries.advance (carries : mailbox.Carries carried .wait invoked) :
    mailbox.done = true ∨ ∃ next callback, mailbox.work true = some (next, callback) ∧
      next.distance < mailbox.distance := by
  cases carries with
  | done _ _ done => exact .inl done
  | taken _ _ undone _ worker | stored _ _ undone _ _ worker | given _ _ undone _ worker =>
    refine .inr ?_
    simp [LifecycleMailbox.work, distance, worker, undone]
  | placed _ operation free undone wakes =>
    refine .inr ?_
    cases worker : mailbox.worker with
    | idle =>
      have queued := (wakes rfl).resolve_right fun busy => busy worker
      simp [LifecycleMailbox.work, distance, worker, undone, queued]
    | looking | draining =>
      simp [LifecycleMailbox.work, distance, worker, undone, operation]
    | invoking | storing | giving =>
      rw [worker] at free
      exact nomatch free

end LifecycleMailbox

/-! ### The calls that are left -/

namespace LifecycleCall

def isStart : LifecycleCall catalog → Bool
  | .start _ _ => true
  | _ => false

/-- A stream is started last, on a row that has none by then. -/
def Ready (stream : catalog.Row → Option UInt32) : List (LifecycleCall catalog) → Prop
  | [] => True
  | .close row _ :: rest => Ready (update stream row none) rest
  | .start row _ :: rest => stream row = none ∧ ∀ call ∈ rest, call.isStart = false
  | .respond _ :: rest => ∀ call ∈ rest, call.isStart = false

theorem ready_of_noStart {calls : List (LifecycleCall catalog)}
    (none : ∀ call ∈ calls, call.isStart = false) (stream : catalog.Row → Option UInt32) :
    Ready stream calls := by
  induction calls generalizing stream with
  | nil => trivial
  | cons call rest ih =>
    have later : ∀ call ∈ rest, call.isStart = false := fun call member =>
      none call (mem_cons_of_mem _ member)
    cases call with
    | close row reason => exact ih later _
    | start row interval => exact nomatch none _ mem_cons_self
    | respond row => exact later

theorem ready_closing (rows : List catalog.Row) (reason : InStreamCloseReason) (row : catalog.Row)
    (interval : UInt32) (stream : catalog.Row → Option UInt32)
    (free : stream row = none ∨ row ∈ rows) :
    Ready stream (LifecycleState.closing rows reason ++ [.start row interval]) := by
  induction rows generalizing stream with
  | nil => exact ⟨free.resolve_right not_mem_nil, fun _ => nofun⟩
  | cons first rest ih =>
    refine ih _ ?_
    by_cases same : row = first
    · exact .inl (by rw [same, update_self])
    · rw [update_of_ne same]
      exact free.imp_right fun member => (mem_cons.mp member).resolve_left same

theorem noStart_closing {rows : List catalog.Row} {reason : InStreamCloseReason} :
    ∀ call ∈ LifecycleState.closing rows reason, call.isStart = false := by
  intro call member
  obtain ⟨row, -, rfl⟩ := mem_map.mp member
  rfl

end LifecycleCall

namespace LifecycleState

variable {state next : LifecycleState catalog}

/-! ### Small facts about the state -/

section Frames

variable (endpoint : catalog.Endpoint) (mailbox : LifecycleMailbox catalog) (row : catalog.Row)

@[simp] theorem mailbox_setMailbox_self :
    (state.setMailbox endpoint mailbox).mailbox endpoint = mailbox := update_self _ _ _

theorem mailbox_setMailbox_of_ne {other : catalog.Endpoint} (differ : other ≠ endpoint) :
    (state.setMailbox endpoint mailbox).mailbox other = state.mailbox other :=
  update_of_ne differ _ _

@[simp] theorem history_record_self (moment : LifecycleMoment catalog) :
    (state.record row moment).history row = state.history row ++ [moment] :=
  update_self _ _ _

theorem history_record_of_ne {other : catalog.Row} (differ : other ≠ row)
    (moment : LifecycleMoment catalog) :
    (state.record row moment).history other = state.history other :=
  update_of_ne differ _ _

theorem stream_setRow (state : LifecycleState catalog)
    (link : InStreamLink Value (catalog.window row.1)) :
    ({ state with streams := state.streams.setRow row.1 row.2 link } :
        LifecycleState catalog).stream =
      update state.stream row (if link.active then some link.token else none) := by
  funext other
  by_cases same : other = row
  · subst same
    rw [update_self]
    unfold stream
    rw [Streams.rows_setRow_self]
  · rw [update_of_ne same]
    unfold stream
    rw [Streams.rows_setRow_of_ne (fun pair => same pair)]

end Frames

/-! ### Where the service is -/

/-- The standing of a row of which nothing is handed over. -/
def RowRests (state : LifecycleState catalog) (row : catalog.Row) : Prop :=
  catalog.IsPaired row.1 →
    ∃ standing, Paired row (state.history row) standing ∧ Rests (state.stream row) standing

/-- The standing of the row of a callback that is handed over. -/
def RowOwes (state : LifecycleState catalog) (callback : LifecycleCallback catalog)
    (invoked : Bool) : Prop :=
  catalog.IsPaired callback.endpoint →
    ∃ standing, Paired callback.row (state.history callback.row) standing ∧
      Owes callback invoked (state.stream callback.row) standing

/-- Between two calls. -/
structure Settled (state : LifecycleState catalog) : Prop where
  boxes : ∀ endpoint, (state.mailbox endpoint).Empty
  rows : ∀ row, state.RowRests row
  ready : LifecycleCall.Ready state.stream state.pending

/-- While a callback is handed over. -/
structure Handed (state : LifecycleState catalog) (stage : HandOver)
    (callback : LifecycleCallback catalog) : Prop where
  boxes : ∀ endpoint, endpoint ≠ callback.endpoint → (state.mailbox endpoint).Empty
  own : ∃ invoked, (state.mailbox callback.endpoint).Carries callback stage invoked ∧
    state.RowOwes callback invoked
  rows : ∀ row, row ≠ callback.row → state.RowRests row
  ready : LifecycleCall.Ready state.stream state.pending
  last : callback.isOpened = true → ∀ call ∈ state.pending, call.isStart = false

def Orderly (state : LifecycleState catalog) : Prop :=
  match state.service with
  | .ready => state.Settled
  | .handing stage callback => state.Handed stage callback

theorem Settled.orderly (settled : state.Settled) (service : state.service = .ready) :
    state.Orderly := by
  unfold Orderly
  rw [service]
  exact settled

/-! ### Steps of the service -/

variable {rest : List (LifecycleCall catalog)} {answer : Bool} {stage : HandOver}

theorem Settled.finish (settled : state.Settled)
    (last : callback.isOpened = true → ∀ call ∈ state.pending, call.isStart = false)
    (result : Bool) : (state.finish callback result).Orderly := by
  refine Settled.mk settled.boxes settled.rows ?_
  cases callback with
  | closed context => exact settled.ready
  | opened context =>
    cases result with
    | true => exact last rfl
    | false => exact LifecycleCall.ready_of_noStart (last rfl) _

/-- The hand-over ends, with nothing in the mailbox. -/
theorem Handed.finish (handed : state.Handed stage callback) {ended : LifecycleState catalog}
    (boxes : ∀ endpoint, endpoint ≠ callback.endpoint →
      ended.mailbox endpoint = state.mailbox endpoint)
    (empty : (ended.mailbox callback.endpoint).Empty)
    (histories : ∀ row, row ≠ callback.row → ended.history row = state.history row)
    (streams : ended.streams = state.streams) (pending : ended.pending = state.pending)
    (own : ended.RowRests callback.row) (result : Bool) :
    (ended.finish callback result).Orderly := by
  have stream : ended.stream = state.stream := by
    unfold LifecycleState.stream
    rw [streams]
  refine Settled.finish ⟨fun endpoint => ?_, fun row => ?_, ?_⟩ ?_ result
  · by_cases same : endpoint = callback.endpoint
    · rw [same]
      exact empty
    · rw [boxes endpoint same]
      exact handed.boxes endpoint same
  · by_cases same : row = callback.row
    · rw [same]
      exact own
    · have before := handed.rows row same
      unfold RowRests at before ⊢
      rw [histories row same, stream]
      exact before
  · rw [stream, pending]
    exact handed.ready
  · rw [pending]
    exact handed.last

theorem orderly_enter (boxes : ∀ endpoint, (state.mailbox endpoint).Empty)
    (own : state.RowOwes callback false) (rows : ∀ row, row ≠ callback.row → state.RowRests row)
    (ready : LifecycleCall.Ready state.stream state.pending)
    (last : callback.isOpened = true → ∀ call ∈ state.pending, call.isStart = false) :
    (state.enter callback).Orderly := by
  unfold LifecycleState.enter
  dsimp only
  split_ifs with declared
  · exact Handed.mk (fun endpoint _ => boxes endpoint) ⟨false, .invoke (boxes _), own⟩ rows ready
      last
  · exact Handed.mk (fun endpoint _ => boxes endpoint) ⟨false, .reset (boxes _), own⟩ rows ready
      last
  · refine Settled.finish ⟨boxes, fun row => ?_, ready⟩ last true
    by_cases same : row = callback.row
    · intro paired
      rw [same] at paired
      cases callback with
      | opened context => exact absurd paired.1 declared
      | closed context => exact absurd paired.2 declared
    · exact rows row same

theorem RowRests.of_kept (rests : state.RowRests row)
    (history : next.history row = state.history row) (stream : next.stream row = state.stream row) :
    next.RowRests row := by
  unfold RowRests at rests ⊢
  rw [history, stream]
  exact rests

/-- `close_in_stream_link`. -/
theorem Settled.close (settled : state.Settled) (row : catalog.Row) (reason : InStreamCloseReason)
    (pending : state.pending = .close row reason :: rest) (service : state.service = .ready) :
    ({ state with pending := rest }.close row reason).Orderly := by
  have ready := settled.ready
  rw [pending] at ready
  unfold LifecycleState.close
  dsimp only
  split_ifs with active
  · have stream : state.stream row = some (state.streams.rows row.1 row.2).token := if_pos active
    have closed := stream_setRow row { state with pending := rest }
      (state.streams.rows row.1 row.2).close
    refine orderly_enter settled.boxes ?_ (fun other differ => ?_) ?_ nofun
    · intro paired
      obtain ⟨standing, history, rests⟩ := settled.rows row paired
      refine ⟨standing, history, ?_⟩
      rw [closed]
      unfold LifecycleCallback.row LifecycleCallback.endpoint LifecycleCallback.link
      rw [update_self]
      exact .toClose _ (rests.active _ stream)
    · refine (settled.rows other).of_kept rfl ?_
      rw [closed]
      exact update_of_ne differ _ _
    · rw [closed]
      exact ready
  · have stream : state.stream row = none := if_neg active
    refine Settled.orderly ⟨settled.boxes, settled.rows, ?_⟩ service
    have same : update state.stream row none = state.stream := by
      rw [← stream, update_eq_self]
    change LifecycleCall.Ready (update state.stream row none) rest at ready
    rw [same] at ready
    exact ready

theorem Settled.start (settled : state.Settled) (row : catalog.Row) (interval : UInt32)
    (pending : state.pending = .start row interval :: rest) :
    ({ state with pending := rest }.start row interval).Orderly := by
  have ready := settled.ready
  rw [pending] at ready
  obtain ⟨free, none⟩ := ready
  have stream := stream_setRow row { state with pending := rest }
    ((state.streams.rows row.1 row.2).install state.issuedToken interval)
  refine orderly_enter settled.boxes ?_ (fun other differ => ?_)
    (LifecycleCall.ready_of_noStart none _) fun _ => none
  · intro paired
    obtain ⟨standing, history, rests⟩ := settled.rows row paired
    refine ⟨.started state.issuedToken, ?_, ?_⟩
    · refine Eq.mpr (congrArg (Paired row · _) (history_record_self row _)) ?_
      exact .started _ history (rests.inactive free)
    · refine Eq.mpr (congrArg (Owes _ false · _) ?_) (.toOpen _)
      exact (congrFun stream row).trans (update_self _ _ _)
  · refine (settled.rows other).of_kept (history_record_of_ne row differ _) ?_
    exact (congrFun stream other).trans (update_of_ne differ _ _)

theorem Settled.call (settled : state.Settled) (call : LifecycleCall catalog)
    (pending : state.pending = call :: rest) (service : state.service = .ready) (answer : Bool) :
    ({ state with pending := rest }.call answer call).Orderly := by
  cases call with
  | close row reason => exact settled.close row reason pending service
  | start row interval => exact settled.start row interval pending
  | respond row =>
    have none : ∀ call ∈ rest, call.isStart = false := by
      have ready := settled.ready
      rw [pending] at ready
      exact ready
    unfold LifecycleState.call
    split_ifs
    · exact Settled.orderly ⟨settled.boxes, settled.rows, LifecycleCall.ready_of_noStart none _⟩
        service
    · exact Settled.orderly ⟨settled.boxes, settled.rows, LifecycleCall.ready_of_noStart none _⟩
        service

/-! ### Steps of a hand-over -/

/-- The callback moves on within the hand-over. -/
theorem Handed.passes {later : HandOver} {mailbox : LifecycleMailbox catalog}
    (handed : state.Handed stage callback)
    (carries : ∀ invoked, (state.mailbox callback.endpoint).Carries callback stage invoked →
      mailbox.Carries callback later invoked) :
    Orderly { state.setMailbox callback.endpoint mailbox with
      service := .handing later callback } := by
  obtain ⟨invoked, carried, owes⟩ := handed.own
  refine Handed.mk (fun endpoint differ => ?_) ⟨invoked, ?_, owes⟩ handed.rows handed.ready
    handed.last
  · exact (mailbox_setMailbox_of_ne _ _ differ).symm ▸ handed.boxes endpoint differ
  · have placed : (state.setMailbox callback.endpoint mailbox).mailbox callback.endpoint = mailbox :=
      mailbox_setMailbox_self _ _
    exact placed.symm ▸ carries invoked carried

theorem RowOwes.rests (owes : state.RowOwes callback true) :
    state.RowRests callback.row := fun paired =>
  let ⟨standing, history, owed⟩ := owes paired
  ⟨standing, history, owed.rests⟩

theorem RowOwes.invoke (owes : state.RowOwes callback false)
    (history : next.history callback.row = state.history callback.row ++ [.invoked callback])
    (stream : next.stream callback.row = state.stream callback.row) :
    next.RowOwes callback true := by
  intro paired
  obtain ⟨standing, before, owed⟩ := owes paired
  rw [history, stream]
  exact owed.invoke before

theorem RowOwes.rests_of_refused (owes : state.RowOwes callback false)
    (spared : callback.isOpened = true ∨ state.isOpened callback.row = false) :
    state.RowRests callback.row := by
  intro paired
  obtain ⟨standing, history, owed⟩ := owes paired
  refine ⟨standing, history, owed.rests_of_refused (spared.imp_right fun closed => ?_)⟩
  exact history.isOpened.trans closed

/-- A hand-over goes on, or ends with nothing owed on its row but what the stream owes. -/
theorem Handed.handOver (handed : state.Handed stage callback)
    (service : state.service = .handing stage callback)
    (spared : state.spares (.serve answer) = true)
    (stepped : state.handOver answer callback stage = some next) : next.Orderly := by
  obtain ⟨invoked, carries, owes⟩ := handed.own
  cases stage with
  | invoke =>
    cases stepped
    obtain ⟨rfl, empty, -⟩ := carries.early (.inl rfl)
    refine handed.finish ?_ ?_ ?_ ?_ ?_ ?_ answer
    · exact fun _ _ => rfl
    · exact empty
    · exact fun row differ => history_record_of_ne _ differ _
    · rfl
    · rfl
    · exact (owes.invoke (history_record_self _ _) rfl).rests
  | reset =>
    cases stepped
    refine handed.passes fun invoked carries => ?_
    obtain ⟨rfl, empty, -⟩ := carries.early (.inr (.inl rfl))
    exact .fill ⟨empty.operation, empty.free⟩ rfl
  | fill =>
    obtain ⟨-, empty, undone⟩ := carries.early (.inr (.inr rfl))
    obtain ⟨⟩ := (if_pos empty.operation).symm.trans stepped
    refine handed.passes fun invoked carries => ?_
    obtain ⟨rfl, -, -⟩ := carries.early (.inr (.inr rfl))
    exact .placed (.inl rfl) rfl empty.free (undone rfl) nofun
  | submit =>
    cases answer with
    | true =>
      cases stepped
      refine handed.passes fun invoked carries => ?_
      cases carries with
      | placed _ operation free undone _ =>
        exact .placed (.inr rfl) operation free undone fun _ => .inl rfl
      | taken _ operation undone last worker => exact .taken (.inr rfl) operation undone last worker
      | stored _ operation undone result last worker =>
        exact .stored (.inr rfl) operation undone result last worker
      | given _ operation undone last worker => exact .given (.inr rfl) operation undone last worker
      | done _ empty done => exact .done (.inr rfl) ⟨empty.operation, empty.free⟩ done
    | false =>
      cases stepped
      unfold spares at spared
      rw [service] at spared
      simp only [Bool.and_eq_true, Bool.not_eq_eq_eq_not, Bool.not_true, Bool.or_eq_true] at spared
      refine handed.finish ?_ ?_ ?_ ?_ ?_ ?_ false
      · exact fun endpoint differ => mailbox_setMailbox_of_ne _ _ differ
      · rw [mailbox_setMailbox_self]
        exact ⟨rfl, spared.1⟩
      · exact fun _ _ => rfl
      · rfl
      · rfl
      · cases carries with
        | placed _ operation free undone _ =>
          refine RowRests.of_kept (owes.rests_of_refused ?_) rfl rfl
          rw [operation] at spared
          simpa using spared.2
        | taken _ operation undone last worker =>
          rw [worker] at spared
          exact nomatch spared.1
        | stored | given | done => exact owes.rests.of_kept rfl rfl
  | wait =>
    obtain ⟨done, ⟨⟩⟩ := ite_none_right_eq_some.mp stepped
    cases carries with
    | done _ empty _ =>
      refine handed.finish ?_ ?_ ?_ ?_ ?_ ?_ _
      · exact fun endpoint differ => mailbox_setMailbox_of_ne _ _ differ
      · rw [mailbox_setMailbox_self]
        exact ⟨empty.operation, empty.free⟩
      · exact fun _ _ => rfl
      · rfl
      · rfl
      · exact owes.rests.of_kept rfl rfl
    | placed _ _ _ undone | taken _ _ undone | stored _ _ undone | given _ _ undone =>
      exact nomatch done.symm.trans undone

theorem Orderly.serve (orderly : state.Orderly) (spared : state.spares (.serve answer) = true)
    (stepped : state.serve answer = some next) : next.Orderly := by
  unfold LifecycleState.serve at stepped
  unfold Orderly at orderly
  cases service : state.service with
  | handing stage callback =>
    rw [service] at stepped orderly
    exact orderly.handOver service spared stepped
  | ready =>
    cases pending : state.pending with rw [service, pending] at stepped
    | nil => exact nomatch stepped
    | cons call rest =>
      rw [service] at orderly
      cases stepped
      rw [← service]
      exact orderly.call call pending service answer

/-! ### Steps of the worker -/

variable {endpoint : catalog.Endpoint} {mailbox : LifecycleMailbox catalog}
  {labels : List (LifecycleLabel catalog)} {final : LifecycleState catalog}

theorem mailbox_work_of_empty (empty : (state.mailbox endpoint).Empty)
    (stepped : state.work endpoint answer = some next) :
    ∃ mailbox, mailbox.Empty ∧ next = state.setMailbox endpoint mailbox := by
  obtain ⟨⟨mailbox, callback⟩, worked, rfl⟩ := map_eq_some_iff.mp stepped
  obtain ⟨rfl, still, -⟩ := empty.work worked
  exact ⟨mailbox, still, rfl⟩

theorem empty_setMailbox {other : catalog.Endpoint} (empty : mailbox.Empty)
    (before : (state.mailbox other).Empty) :
    ((state.setMailbox endpoint mailbox).mailbox other).Empty := by
  by_cases same : other = endpoint
  · rw [same, mailbox_setMailbox_self]
    exact empty
  · rw [mailbox_setMailbox_of_ne _ _ same]
    exact before

theorem Settled.setMailbox (settled : state.Settled) (endpoint : catalog.Endpoint)
    (empty : mailbox.Empty) : (state.setMailbox endpoint mailbox).Settled :=
  ⟨fun other => empty_setMailbox empty (settled.boxes other), settled.rows, settled.ready⟩

theorem Handed.work (handed : state.Handed stage callback)
    (stepped : state.work endpoint answer = some next) : next.Handed stage callback := by
  by_cases here : endpoint = callback.endpoint
  · subst here
    obtain ⟨⟨mailbox, invoked⟩, worked, rfl⟩ := map_eq_some_iff.mp stepped
    obtain ⟨before, carries, owes⟩ := handed.own
    have others (other : catalog.Endpoint) (differ : other ≠ callback.endpoint) :
        ((state.setMailbox callback.endpoint mailbox).mailbox other).Empty := by
      rw [mailbox_setMailbox_of_ne _ _ differ]
      exact handed.boxes other differ
    rcases carries.work worked with ⟨rfl, carried⟩ | ⟨rfl, rfl, carried⟩
    · refine ⟨others, ⟨before, ?_, owes⟩, handed.rows, handed.ready, handed.last⟩
      refine Eq.mpr (congrArg (LifecycleMailbox.Carries · _ _ _) (mailbox_setMailbox_self _ _)) ?_
      exact carried
    · refine ⟨others, ⟨true, ?_, owes.invoke (history_record_self _ _) rfl⟩, fun row differ => ?_,
        handed.ready, handed.last⟩
      · refine Eq.mpr (congrArg (LifecycleMailbox.Carries · _ _ _) (mailbox_setMailbox_self _ _)) ?_
        exact carried
      · exact (handed.rows row differ).of_kept (history_record_of_ne _ differ _) rfl
  · obtain ⟨mailbox, empty, rfl⟩ := mailbox_work_of_empty (handed.boxes endpoint here) stepped
    refine ⟨fun other differ => empty_setMailbox empty (handed.boxes other differ), ?_, handed.rows,
      handed.ready, handed.last⟩
    obtain ⟨invoked, carries, owes⟩ := handed.own
    refine ⟨invoked, ?_, owes⟩
    rw [mailbox_setMailbox_of_ne _ _ (Ne.symm here)]
    exact carries

theorem service_work (stepped : state.work endpoint answer = some next) :
    next.service = state.service := by
  obtain ⟨⟨mailbox, callback⟩, -, rfl⟩ := map_eq_some_iff.mp stepped
  cases callback with
  | none | some => rfl

theorem Orderly.work (orderly : state.Orderly) (stepped : state.work endpoint answer = some next) :
    next.Orderly := by
  have same := service_work stepped
  unfold Orderly at orderly ⊢
  cases service : state.service with rw [service] at orderly
  | ready =>
    rw [same, service]
    obtain ⟨mailbox, empty, rfl⟩ := mailbox_work_of_empty (orderly.boxes endpoint) stepped
    exact orderly.setMailbox endpoint empty
  | handing stage callback =>
    rw [same, service]
    exact orderly.work stepped

/-! ### Frames and events -/

/-- What a request starts, it starts on a row that it has closed before. -/
theorem ready_opening {link : catalog.Link} {request : SubscriptionRequest} :
    LifecycleCall.Ready state.stream (state.opening link endpoint request) := by
  unfold opening
  dsimp only
  split_ifs with refused
  · trivial
  · cases exclusive : (catalog.traits endpoint).exclusive with
    | none => exact LifecycleCall.ready_closing _ _ _ _ _ (.inr mem_cons_self)
    | some group =>
      obtain ⟨name, behavior⟩ := group
      cases behavior with
      | rejectExisting =>
        dsimp only
        split_ifs with active
        · trivial
        · refine ⟨if_neg fun streams => active ?_, fun _ => nofun⟩
          have group := @InStreamRuntime.groupIsActive_of_active _ _ { streams := state.streams } _ _
            link _ exclusive
          exact group streams
      | replaceExisting =>
        exact LifecycleCall.ready_closing _ _ _ _ _
          (.inr (InStreamRuntime.mem_groupRows exclusive link))

theorem ready_calls (label : LifecycleLabel catalog) :
    LifecycleCall.Ready state.stream (state.calls label) := by
  cases label with
  | subscribe link endpoint request => exact ready_opening
  | unsubscribe link endpoint token =>
    unfold calls
    dsimp only
    split_ifs
    · exact LifecycleCall.ready_of_noStart LifecycleCall.noStart_closing _
    · trivial
  | sample | serve | work => trivial
  | _ => exact LifecycleCall.ready_of_noStart LifecycleCall.noStart_closing _

theorem Settled.request (settled : state.Settled) (label : LifecycleLabel catalog) :
    ({ state with pending := state.calls label } : LifecycleState catalog).Settled :=
  ⟨settled.boxes, settled.rows, @ready_calls _ _ state label⟩

theorem isIdle_iff : state.isIdle = true ↔ state.service = .ready ∧ state.pending = [] := by
  unfold isIdle
  cases state.service with
  | ready => cases state.pending with
    | nil => exact ⟨fun _ => ⟨rfl, rfl⟩, fun _ => rfl⟩
    | cons => exact ⟨nofun, fun both => nomatch both.2⟩
  | handing => exact ⟨nofun, fun both => nomatch both.1⟩

/-- Every spared step keeps the callbacks in order. -/
theorem Orderly.step (orderly : state.Orderly) {label : LifecycleLabel catalog}
    (spared : state.spares label = true) (stepped : state.step label = some next) :
    next.Orderly := by
  have idle (change : LifecycleState catalog)
      (idles : (if state.isIdle then some change else none) = some next) :
      state.service = .ready ∧ state.Settled ∧ next = change := by
    obtain ⟨idle, ⟨⟩⟩ := ite_none_right_eq_some.mp idles
    have ready := (isIdle_iff.mp idle).1
    unfold Orderly at orderly
    rw [ready] at orderly
    exact ⟨ready, orderly, rfl⟩
  cases label with
  | serve answer => exact orderly.serve spared stepped
  | work endpoint answer => exact orderly.work stepped
  | sample endpoint =>
    have moved : (if state.isIdle then
        some (if (catalog.traits endpoint).inline then state
          else state.setMailbox endpoint { state.mailbox endpoint with queued := true })
        else none) = some next := by
      rw [← stepped]
      unfold LifecycleState.step
      dsimp only
      split_ifs <;> rfl
    obtain ⟨ready, settled, rfl⟩ := idle _ moved
    split_ifs
    · exact orderly
    · have empty : LifecycleMailbox.Empty { state.mailbox endpoint with queued := true } :=
        ⟨(settled.boxes endpoint).operation, (settled.boxes endpoint).free⟩
      exact (settled.setMailbox endpoint empty).orderly ready
  | subscribe | unsubscribe | reset | stop =>
    obtain ⟨ready, settled, rfl⟩ := idle _ stepped
    exact (settled.request _).orderly ready

theorem orderly_initial : ({} : LifecycleState catalog).Orderly :=
  Settled.mk (fun _ => ⟨rfl, rfl⟩) (fun _ _ => ⟨.none, .nil, nofun, fun _ => rfl⟩) trivial

/-! ### The end of a frame or event -/

/-- The service goes on, or a worker, and nothing is refused. -/
def Own : LifecycleLabel catalog → Prop
  | .serve answer => answer = true
  | .work _ answer => answer = true
  | _ => False

/-- Own steps lead to a state of a kind. -/
def Reaches (goal : LifecycleState catalog → Prop) (state : LifecycleState catalog) : Prop :=
  (lifecycleMachine catalog).Leads Own goal state

/-- What is left to do for a list of calls. A start may leave a call. -/
def weight : List (LifecycleCall catalog) → Nat
  | [] => 0
  | .start _ _ :: rest => weight rest + 2
  | _ :: rest => weight rest + 1

/-- A hand-over has ended with so much left to do. -/
structure Ended (bound : Nat) (state : LifecycleState catalog) : Prop where
  service : state.service = .ready
  settled : state.Settled
  bounded : weight state.pending ≤ bound

section HandOver

/-- What a hand-over may leave to do. -/
def bound (callback : LifecycleCallback catalog) (pending : List (LifecycleCall catalog)) : Nat :=
  weight pending + if callback.isOpened then 1 else 0

theorem weight_finish {result : Bool} :
    weight (state.finish callback result).pending ≤ bound callback state.pending := by
  cases callback with
  | closed context => exact Nat.le_refl _
  | opened context => cases result <;> exact Nat.le_refl _

theorem reaches_of_finish (orderly : state.Orderly) {ended : LifecycleState catalog}
    {result : Bool} (stepped : state.serve true = some (ended.finish callback result))
    (pending : ended.pending = state.pending) :
    Reaches (Ended (bound callback state.pending)) state := by
  refine .step (.serve true) rfl stepped (.now ⟨rfl, ?_, ?_⟩)
  · exact orderly.serve rfl stepped
  · rw [← pending]
    exact weight_finish

theorem reaches_of_work (orderly : state.Orderly)
    (service : state.service = .handing .wait callback)
    {invoked : Option (LifecycleCallback catalog)}
    (worked : (state.mailbox callback.endpoint).work true = some (mailbox, invoked))
    (later : ∀ next : LifecycleState catalog, next.Orderly →
      next.service = .handing .wait callback → next.mailbox callback.endpoint = mailbox →
      next.pending = state.pending → Reaches (Ended (bound callback state.pending)) next) :
    Reaches (Ended (bound callback state.pending)) state := by
  have stepped : (lifecycleMachine catalog).step state (.work callback.endpoint true) =
      some (invoked.elim (state.setMailbox callback.endpoint mailbox)
        (state.setMailbox callback.endpoint mailbox).invoke) := by
    show Option.map _ ((state.mailbox callback.endpoint).work true) = _
    rw [worked]
    cases invoked <;> rfl
  refine .step (.work callback.endpoint true) rfl stepped (later _ (orderly.work stepped) ?_ ?_ ?_)
  · exact (service_work stepped).trans service
  · cases invoked <;> exact mailbox_setMailbox_self _ _
  · cases invoked <;> rfl

theorem reaches_of_done (orderly : state.Orderly)
    (service : state.service = .handing .wait callback)
    (done : (state.mailbox callback.endpoint).done = true) :
    Reaches (Ended (bound callback state.pending)) state := by
  have stepped : state.serve true = some ((state.setMailbox callback.endpoint
      { state.mailbox callback.endpoint with done := false }).finish callback
        (state.mailbox callback.endpoint).result) := by
    unfold LifecycleState.serve
    rw [service]
    exact if_pos done
  exact reaches_of_finish orderly stepped rfl

section

variable (orderly : state.Orderly)

include orderly

/-- The wait of the service ends. -/
theorem reaches_of_wait (service : state.service = .handing .wait callback) :
    Reaches (Ended (bound callback state.pending)) state := by
  induction steps : (state.mailbox callback.endpoint).distance using Nat.strongRecOn
    generalizing state with
  | ind steps ih =>
    have handed := orderly
    unfold Orderly at handed
    rw [service] at handed
    obtain ⟨invoked, carries, -⟩ := handed.own
    obtain done | ⟨mailbox, called, worked, nearer⟩ := carries.advance
    · exact reaches_of_done orderly service done
    · refine reaches_of_work orderly service worked fun next orderly service same pending => ?_
      rw [← pending]
      exact ih _ (steps ▸ nearer) orderly service (congrArg _ same)

theorem reaches_of_serve {later : HandOver} (service : state.service = .handing stage callback)
    (stepped : state.handOver true callback stage = some next)
    (reaches : next.Orderly → next.service = .handing later callback →
      Reaches (Ended (bound callback next.pending)) next)
    (handing : next.service = .handing later callback) (pending : next.pending = state.pending) :
    Reaches (Ended (bound callback state.pending)) state := by
  have served : state.serve true = some next := by
    unfold LifecycleState.serve
    rw [service]
    exact stepped
  rw [← pending]
  exact .step (.serve true) rfl served (reaches (orderly.serve rfl served) handing)

/-- Every hand-over ends. -/
theorem reaches_of_handing (service : state.service = .handing stage callback) :
    Reaches (Ended (bound callback state.pending)) state := by
  have submitted {state : LifecycleState catalog} (orderly : state.Orderly)
      (service : state.service = .handing .submit callback) :
      Reaches (Ended (bound callback state.pending)) state :=
    reaches_of_serve orderly service rfl (fun orderly => reaches_of_wait orderly) rfl rfl
  have filled {state : LifecycleState catalog} (orderly : state.Orderly)
      (service : state.service = .handing .fill callback) :
      Reaches (Ended (bound callback state.pending)) state := by
    have handed := orderly
    unfold Orderly at handed
    rw [service] at handed
    obtain ⟨invoked, carries, -⟩ := handed.own
    exact reaches_of_serve orderly service
      (if_pos (carries.early (.inr (.inr rfl))).2.1.operation) (fun orderly => submitted orderly)
      rfl rfl
  cases stage with
  | invoke =>
    have stepped : state.serve true = some ((state.invoke callback).finish callback true) := by
      unfold LifecycleState.serve
      rw [service]
      rfl
    exact reaches_of_finish orderly stepped rfl
  | reset => exact reaches_of_serve orderly service rfl (fun orderly => filled orderly) rfl rfl
  | fill => exact filled orderly service
  | submit => exact submitted orderly service
  | wait => exact reaches_of_wait orderly service

end

end HandOver

/-- Less than so much is left to do, if the callback in hand is counted. -/
def Within (count : Nat) (state : LifecycleState catalog) : Prop :=
  match state.service with
  | .ready => weight state.pending < count
  | .handing _ callback => bound callback state.pending < count

variable {count : Nat}

theorem within_finish (less : bound callback state.pending < count) {result : Bool} :
    Within count (state.finish callback result) :=
  Nat.lt_of_le_of_lt weight_finish less

theorem within_enter (less : bound callback state.pending < count) :
    Within count (state.enter callback) := by
  unfold LifecycleState.enter
  dsimp only
  split_ifs with declared inline
  · exact less
  · exact less
  · exact within_finish less

theorem within_call {call : LifecycleCall catalog} (pending : state.pending = rest)
    (service : state.service = .ready) : Within (weight (call :: rest)) (state.call true call) := by
  have ready (less : weight state.pending < weight (call :: rest)) :
      Within (weight (call :: rest)) state := by
    unfold Within
    rw [service]
    exact less
  cases call with
  | respond row => exact ready (pending ▸ Nat.lt_succ_self _)
  | close row reason =>
    unfold LifecycleState.call LifecycleState.close
    dsimp only
    split_ifs
    · exact within_enter (pending ▸ Nat.lt_succ_self _)
    · exact ready (pending ▸ Nat.lt_succ_self _)
  | start row interval => exact within_enter (pending ▸ Nat.lt_succ_self _)

/-- Every frame or event comes to its end. -/
theorem reaches_idle_of_within (orderly : state.Orderly) (within : Within count state) :
    Reaches (fun final => final.isIdle = true ∧ final.Orderly) state := by
  induction count using Nat.strongRecOn generalizing state with
  | ind count ih =>
    have calls {state : LifecycleState catalog} (settled : state.Settled)
        (service : state.service = .ready) (less : weight state.pending < count) :
        Reaches (fun final => final.isIdle = true ∧ final.Orderly) state := by
      cases pending : state.pending with
      | nil => exact .now ⟨isIdle_iff.mpr ⟨service, pending⟩, settled.orderly service⟩
      | cons call rest =>
        have served : state.serve true = some ({ state with pending := rest }.call true call) := by
          unfold LifecycleState.serve
          rw [pending]
          cases state
          cases service
          rfl
        refine .step (.serve true) rfl served ?_
        refine ih _ less (settled.call call pending service true) ?_
        rw [pending]
        exact within_call rfl service
    cases service : state.service with
    | ready =>
      unfold Orderly at orderly
      unfold Within at within
      rw [service] at orderly within
      exact calls orderly service within
    | handing stage callback =>
      unfold Within at within
      rw [service] at within
      refine (reaches_of_handing orderly service).trans fun middle ended => ?_
      exact calls ended.settled ended.service (Nat.lt_of_le_of_lt ended.bounded within)

theorem reaches_idle (orderly : state.Orderly) :
    Reaches (fun final => final.isIdle = true ∧ final.Orderly) state := by
  cases service : state.service with
  | ready =>
    refine @reaches_idle_of_within _ _ _ (weight state.pending + 1) orderly ?_
    unfold Within
    rw [service]
    exact Nat.lt_succ_self _
  | handing stage callback =>
    refine @reaches_idle_of_within _ _ _ (bound callback state.pending + 1) orderly ?_
    unfold Within
    rw [service]
    exact Nat.lt_succ_self _

/-! ### After a stop -/

/-- Nothing is left but to close streams, and every row that has one is among them. -/
structure Closing (state : LifecycleState catalog) : Prop where
  handing : ∀ stage callback, state.service = .handing stage callback → callback.isOpened = false
  listed : ∀ row, state.stream row = none ∨ ∃ reason, .close row reason ∈ state.pending
  closes : ∀ call ∈ state.pending, ∃ row reason, call = .close row reason

/-- The hand-over of an OnClose leaves the streams and the calls alone. -/
theorem handOver_closed {context : InStreamCloseContext catalog}
    (stepped : state.handOver answer (.closed context) stage = some next) :
    next.streams = state.streams ∧ next.pending = state.pending ∧
      (next.service = .ready ∨ ∃ later, next.service = .handing later (.closed context)) := by
  cases stage with
  | invoke =>
    cases stepped
    exact ⟨rfl, rfl, .inl rfl⟩
  | reset =>
    cases stepped
    exact ⟨rfl, rfl, .inr ⟨_, rfl⟩⟩
  | fill =>
    unfold LifecycleState.handOver at stepped
    dsimp only at stepped
    split_ifs at stepped with free
    · cases stepped
      exact ⟨rfl, rfl, .inr ⟨_, rfl⟩⟩
    · cases stepped
      exact ⟨rfl, rfl, .inl rfl⟩
  | submit =>
    cases answer with
    | true =>
      cases stepped
      exact ⟨rfl, rfl, .inr ⟨_, rfl⟩⟩
    | false =>
      cases stepped
      exact ⟨rfl, rfl, .inl rfl⟩
  | wait =>
    obtain ⟨-, ⟨⟩⟩ := ite_none_right_eq_some.mp stepped
    exact ⟨rfl, rfl, .inl rfl⟩

theorem Closing.close (closing : state.Closing) {reason : InStreamCloseReason}
    (pending : state.pending = .close row reason :: rest)
    (stream : next.stream = update state.stream row none) (left : next.pending = rest)
    (service : ∀ stage callback, next.service = .handing stage callback →
      callback.isOpened = false) :
    next.Closing := by
  refine ⟨service, fun other => ?_, fun call member => ?_⟩
  · rw [stream, left]
    by_cases same : other = row
    · exact .inl (by rw [same, update_self])
    · rw [update_of_ne same]
      refine (closing.listed other).imp_right fun ⟨why, member⟩ => ⟨why, ?_⟩
      rw [pending] at member
      refine (mem_cons.mp member).resolve_left fun first => ?_
      exact same (LifecycleCall.close.inj first).1
  · refine closing.closes call ?_
    rw [pending]
    exact mem_cons_of_mem _ (left ▸ member)

/-- After a stop the service closes the streams one after the other. -/
theorem Closing.serve (closing : state.Closing) (stepped : state.serve answer = some next) :
    next.Closing := by
  unfold LifecycleState.serve at stepped
  cases service : state.service with
  | handing stage callback =>
    rw [service] at stepped
    cases callback with
    | opened context => exact nomatch closing.handing stage _ service
    | closed context =>
      obtain ⟨streams, pending, later⟩ := handOver_closed stepped
      have stream : next.stream = state.stream := by
        unfold LifecycleState.stream
        rw [streams]
      refine ⟨fun other callback handing => ?_, fun row => ?_, ?_⟩
      · rcases later with ready | ⟨_, still⟩
        · exact nomatch ready.symm.trans handing
        · obtain ⟨-, rfl⟩ := LifecyclePhase.handing.inj (still.symm.trans handing)
          rfl
      · rw [stream, pending]
        exact closing.listed row
      · rw [pending]
        exact closing.closes
  | ready =>
    cases pending : state.pending with
    | nil =>
      rw [service, pending] at stepped
      exact nomatch stepped
    | cons call rest =>
      obtain ⟨row, reason, rfl⟩ := closing.closes call (by rw [pending]; exact mem_cons_self)
      rw [service, pending] at stepped
      cases stepped
      unfold LifecycleState.call LifecycleState.close
      dsimp only
      split_ifs with active
      · have closed := stream_setRow row state (state.streams.rows row.1 row.2).close
        unfold LifecycleState.enter
        dsimp only
        split_ifs with declared inline
        · exact closing.close pending closed rfl fun _ _ same =>
            (LifecyclePhase.handing.inj same).2 ▸ rfl
        · exact closing.close pending closed rfl fun _ _ same =>
            (LifecyclePhase.handing.inj same).2 ▸ rfl
        · exact closing.close pending closed rfl nofun
      · refine closing.close pending ?_ rfl nofun
        have none : state.stream row = none := if_neg active
        rw [← none, update_eq_self]
        rfl

theorem Closing.work (closing : state.Closing) (stepped : state.work endpoint answer = some next) :
    next.Closing := by
  obtain ⟨⟨mailbox, callback⟩, -, rfl⟩ := map_eq_some_iff.mp stepped
  cases callback <;> exact ⟨closing.handing, closing.listed, closing.closes⟩

/-- Everybody's steps but those that begin a frame or event. -/
def Internal : LifecycleLabel catalog → Prop
  | .serve _ | .work _ _ => True
  | _ => False

instance (label : LifecycleLabel catalog) : Decidable (Internal label) :=
  match label with
  | .serve _ | .work _ _ => isTrue trivial
  | .subscribe _ _ _ | .unsubscribe _ _ _ | .reset _ _ | .stop | .sample _ => isFalse id

theorem Closing.run (closing : state.Closing) (internal : ∀ label ∈ labels, Internal label)
    (ran : (lifecycleMachine catalog).run state labels = some final) : final.Closing := by
  induction labels generalizing state with
  | nil => exact some.inj ran ▸ closing
  | cons label rest ih =>
    obtain ⟨next, stepped, continued⟩ := Transition.Machine.run_cons_eq_some _ ran
    have moved : next.Closing := by
      have inside := internal label mem_cons_self
      cases label with
      | serve answer => exact closing.serve stepped
      | work endpoint answer => exact closing.work stepped
      | subscribe | unsubscribe | reset | stop | sample => exact inside.elim
    exact ih moved
      (fun other member => internal other (mem_cons_of_mem _ member)) continued

theorem stream_of_stopped (stopped : state.step .stop = some next)
    (internal : ∀ label ∈ labels, Internal label)
    (ran : (lifecycleMachine catalog).run next labels = some final) (idle : final.isIdle = true) :
    final.stream row = none := by
  obtain ⟨idles, ⟨⟩⟩ := ite_none_right_eq_some.mp stopped
  have start : ({ state with pending := state.calls .stop } : LifecycleState catalog).Closing := by
    refine ⟨fun stage callback handing => ?_, fun row => .inr ⟨.reset, ?_⟩, fun call member => ?_⟩
    · exact nomatch (isIdle_iff.mp idles).1.symm.trans handing
    · refine mem_map.mpr ⟨row, ?_, rfl⟩
      exact mem_flatMap.mpr ⟨row.2, mem_finRange _, mem_map.mpr ⟨row.1, mem_finRange _, rfl⟩⟩
    · obtain ⟨row, -, rfl⟩ := mem_map.mp member
      exact ⟨row, .reset, rfl⟩
  refine ((start.run internal ran).listed row).resolve_right fun ⟨reason, member⟩ => ?_
  rw [(isIdle_iff.mp idle).2] at member
  exact nomatch member

/-! ### Every OnOpen has its OnClose -/

/-- Every OnOpen was followed by its OnClose, unless the stream is still there, or the service has
the OnClose in hand. -/
def CallbacksPaired (state : LifecycleState catalog) : Prop :=
  ∀ row, catalog.IsPaired row.1 → ∀ before context after,
    state.history row = before ++ .invoked (.opened context) :: after →
      Followed row context after ∨ (after = [] ∧ (context.endpoint, context.link) = row ∧
        (state.stream row = some context.token ∨ ∃ stage closing,
          state.service = .handing stage (.closed closing) ∧
            (closing.endpoint, closing.link) = row ∧ closing.token = context.token))

/-- Every OnOpen was followed by its OnClose. -/
def CallbacksClosed (state : LifecycleState catalog) : Prop :=
  ∀ row, catalog.IsPaired row.1 → ∀ before context after,
    state.history row = before ++ .invoked (.opened context) :: after → Followed row context after

/-- In an orderly state every OnOpen has its OnClose, or is owed it. -/
theorem Orderly.paired (orderly : state.Orderly) : state.CallbacksPaired := by
  intro row isPaired before context after same
  have rested (rests : state.RowRests row) :
      Followed row context after ∨ (after = [] ∧ (context.endpoint, context.link) = row ∧
        state.stream row = some context.token) := by
    obtain ⟨standing, paired, rest⟩ := rests isPaired
    rcases paired.followed before context after same with ⟨empty, own, rfl⟩ | followed
    · refine .inr ⟨empty, own, ?_⟩
      cases stream : state.stream row with
      | none => exact nomatch rest.inactive stream
      | some token => exact (rest.active token stream).symm
    · exact .inl followed
  unfold Orderly at orderly
  cases service : state.service with rw [service] at orderly
  | ready =>
    exact (rested (orderly.rows row)).imp_right fun ⟨empty, own, stream⟩ =>
      ⟨empty, own, .inl stream⟩
  | handing stage callback =>
    by_cases here : row = callback.row
    · subst here
      obtain ⟨invoked, -, owes⟩ := orderly.own
      obtain ⟨standing, paired, owed⟩ := owes isPaired
      rcases paired.followed before context after same with ⟨empty, own, rfl⟩ | followed
      · refine .inr ⟨empty, own, ?_⟩
        generalize standing : Standing.opened context.token = opened at owed
        generalize state.stream callback.row = stream at owed ⊢
        cases owed with
        | opened _ => exact .inl (congrArg some (Standing.opened.inj standing).symm)
        | toClose closing token =>
          rw [← standing] at token
          exact .inr ⟨stage, closing, rfl, rfl, (some.inj token).symm⟩
        | _ => exact nomatch standing
      · exact .inl followed
    · exact (rested (orderly.rows row here)).imp_right fun ⟨empty, own, stream⟩ =>
        ⟨empty, own, .inl stream⟩

/-- The OnClose of a row without a stream is missing if OnOpen came last. -/
theorem not_paired_of_isOpened (row : catalog.Row) (isPaired : catalog.IsPaired row.1)
    (opened : state.isOpened row = true) (none : state.stream row = none)
    (idle : state.isIdle = true) : ¬ state.CallbacksPaired := by
  intro paired
  unfold isOpened at opened
  cases last : (state.history row).getLast? with rw [last] at opened
  | none => exact nomatch opened
  | some moment =>
    cases moment with
    | started token => exact nomatch opened
    | invoked callback =>
      obtain ⟨before, history⟩ := getLast?_eq_some_iff.mp last
      cases callback with
      | closed context => exact nomatch opened
      | opened context =>
        rcases paired row isPaired before context [] history with
          followed | ⟨-, -, stream | handing⟩
        · obtain ⟨_, _, empty, -⟩ := followed.closed
          exact nomatch empty
        · exact nomatch none.symm.trans stream
        · obtain ⟨_, _, handing, -⟩ := handing
          exact nomatch (isIdle_iff.mp idle).1.symm.trans handing

end LifecycleState

/-- In a run whose refused submissions are all spared, every OnOpen has its OnClose: while a stream
is closed, in every state; after a stop, all of them; and no wait of the service is for ever. -/
theorem callbacks_paired {labels : List (LifecycleLabel catalog)}
    {final : LifecycleState catalog}
    (admissible : (lifecycleMachine catalog).Admissible
      (fun state label => state.spares label = true) {} labels)
    (ran : (lifecycleMachine catalog).run {} labels = some final) :
    final.CallbacksPaired ∧
      LifecycleState.Reaches (fun idle => idle.isIdle = true ∧ idle.CallbacksPaired) final ∧
      ∀ before later, labels = before ++ .stop :: later →
        (∀ label ∈ later, LifecycleState.Internal label) → final.isIdle = true →
        final.CallbacksClosed := by
  have keeps (state : LifecycleState catalog) (label : LifecycleLabel catalog)
      (next : LifecycleState catalog) (orderly : state.Orderly) (spared : state.spares label = true)
      (stepped : state.step label = some next) : next.Orderly := orderly.step spared stepped
  have orderly : final.Orderly := Transition.Machine.run_invariant _ keeps
    LifecycleState.orderly_initial admissible ran
  refine ⟨orderly.paired, ?_, fun before later parts internal idle => ?_⟩
  · refine (LifecycleState.reaches_idle orderly).trans fun middle reached => .now ?_
    exact ⟨reached.1, reached.2.paired⟩
  · rw [parts, Transition.Machine.run_append] at ran
    obtain ⟨middle, -, stopping⟩ := bind_eq_some_iff.mp ran
    obtain ⟨next, stopped, continued⟩ := Transition.Machine.run_cons_eq_some _ stopping
    intro row isPaired front context after same
    refine (orderly.paired row isPaired front context after same).resolve_right ?_
    rintro ⟨-, -, stream | ⟨stage, closing, handing, -⟩⟩
    · rw [LifecycleState.stream_of_stopped stopped internal continued idle] at stream
      exact nomatch stream
    · exact nomatch (LifecycleState.isIdle_iff.mp idle).1.symm.trans handing

/-! ### A refused OnClose -/

namespace Refusal

/-- One link and one deferred endpoint with both callbacks. -/
abbrev deferred : LifecycleCatalog UInt8 where
  linkCount := 1
  control := fun _ => true
  endpoints := [{
    window := 1
    window_pos := Nat.one_pos
    window_le := Nat.le_add_left 1 63
    hasOnOpen := true
    decode := head? }]
  ticksPerSecond := 1000
  hasOnClose := fun _ => true

abbrev endpoint : deferred.Endpoint := ⟨0, Nat.one_pos⟩

abbrev link : deferred.Link := ⟨0, Nat.one_pos⟩

/-- The worker runs the callback of a submission, and the service takes note of it. -/
def worked : List (LifecycleLabel deferred) :=
  replicate 7 (.work endpoint true) ++ [.serve true]

/-- A stream is opened, and the service is stopped. -/
def opened : List (LifecycleLabel deferred) :=
  .subscribe link endpoint {} :: replicate 5 (.serve true) ++ worked ++ [.serve true]

/-- The service is stopped, up to the submission of the OnClose. -/
def stopping : List (LifecycleLabel deferred) := .stop :: replicate 3 (.serve true)

/-- The OnClose of the stop is accepted. -/
def accepted : List (LifecycleLabel deferred) := opened ++ stopping ++ [.serve true] ++ worked

theorem accepted_run : ((lifecycleMachine deferred).run {} accepted).isSome = true := by
  decide +kernel

/-- The OnClose of the stop is refused. -/
def refused : List (LifecycleLabel deferred) := opened ++ stopping ++ [.serve false]

theorem refused_run : ((lifecycleMachine deferred).run {} refused).isSome = true := by
  decide +kernel

end Refusal

open Refusal in
/-- The stop has invoked the OnClose of the stream. -/
theorem callbacks_paired_accepted : ∃ final : LifecycleState deferred,
    (final.history (endpoint, link)).length = 3 ∧ final.CallbacksClosed := by
  have paired := callbacks_paired (by decide +kernel) (some_get accepted_run).symm
  refine ⟨_, by decide +kernel, paired.2.2 opened _ (append_assoc _ _ _) ?_ ?_⟩ <;>
    decide +kernel

open Refusal in
/-- The stop has lost the OnClose of the stream. -/
theorem callbacks_dropped : ∃ final, (lifecycleMachine deferred).Reachable {} final ∧
    ¬ final.CallbacksPaired := by
  refine ⟨_, ⟨refused, (some_get refused_run).symm⟩, ?_⟩
  refine LifecycleState.not_paired_of_isOpened (endpoint, link) ⟨rfl, rfl⟩ ?_ ?_ ?_ <;>
    decide +kernel

end Solar.Remote
