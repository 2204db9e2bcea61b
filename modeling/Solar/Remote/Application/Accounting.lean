/-
This file proves the accounting of response slots. A request that is admitted
and not answered is in one place: its handler's pending cell, the worker that
took it, the cell of its asynchronous action, or a thread that is completing it.
The slots that are reserved and not valid are those of the requests in a place.

The source does not keep these books on every path. A reservation stays behind
when a request is dropped after it was reserved: its epoch is not the session's,
its asynchronous action is busy, its result does not encode or does not fit, its
responder is destroyed, the subscription is for an endpoint without an inbound
stream, the service stops. A reservation is lost under a request that is still
being handled when a Data frame names it by its token, when a submission is
refused after the worker has started, and when a request of an earlier session
answers. `accountable` excludes these steps, and no others.
-/

import Solar.Library.Holding
import Solar.Remote.Application.Moves

namespace Solar.Remote

open Option Function Transition Holding

/-- Where a request that is not answered can be. -/
inductive Place {Value : Type} (catalog : RemoteCatalog Value)
  | pending (handler : catalog.Handler)
  | asynchronous (handler : catalog.Handler)
  | worker (handler : catalog.Handler)
  | completion (thread : Nat)

variable {Value : Type} {catalog : RemoteCatalog Value}

namespace Requests

section

variable (requests : Requests catalog)

/-- The request in a place. -/
def jobAt : Place catalog → Option (Job catalog.streams.linkCount)
  | .pending handler => requests.pending handler
  | .asynchronous handler => requests.asynchronous handler
  | .worker handler => (requests.worker handler).job?
  | .completion thread => (requests.completion thread).map Prod.fst

/-- A request of the present session of its link. -/
def ofSession (job : Job catalog.streams.linkCount) : Bool :=
  job.session = requests.sessions job.link

/-- The request of a present session that is in a place, by its link and id. -/
def holder (place : Place catalog) : Option (catalog.Link × UInt32) :=
  ((requests.jobAt place).filter requests.ofSession).map fun job =>
    (job.link, job.envelope.requestId)

/-- A request of a link that is pending or being handled in the present session. -/
def Live (link : catalog.Link) (request : UInt32) : Prop :=
  ∃ place job, requests.jobAt place = some job ∧ job.session = requests.sessions link ∧
    job.link = link ∧ job.envelope.requestId = request

/-- A request of a link has a slot that is reserved and not valid. -/
def Reserved (key : catalog.Link × UInt32) : Prop :=
  (requests.responses key.1).Reserved key.2

end

theorem holder_eq_some_iff {requests : Requests catalog} {place : Place catalog}
    {key : catalog.Link × UInt32} :
    requests.holder place = some key ↔
      ∃ job, requests.jobAt place = some job ∧ job.session = requests.sessions job.link ∧
        (job.link, job.envelope.requestId) = key := by
  simp [holder, ofSession, map_eq_some_iff, filter_eq_some_iff, and_assoc]

theorem live_iff {requests : Requests catalog} {link : catalog.Link} {request : UInt32} :
    requests.Live link request ↔ ∃ place, requests.holder place = some (link, request) := by
  simp only [holder_eq_some_iff, Prod.mk.injEq]
  constructor
  · rintro ⟨place, job, here, present, rfl, named⟩
    exact ⟨place, job, here, present, rfl, named⟩
  · rintro ⟨place, job, here, present, rfl, named⟩
    exact ⟨place, job, here, present, rfl, named⟩

/-- The books of the response slots, with what keeps them. -/
structure Accounted (requests : Requests catalog) : Prop where
  balanced : Balanced requests.holder requests.Reserved
  bounded : ∀ link request, (requests.responses link).Has request →
    request ≤ (requests.links link).lastRequestId
  past : ∀ place job, requests.jobAt place = some job → job.session ≤ requests.sessions job.link
  waiting : ∀ handler job, requests.pending handler = some job →
    job.session = requests.sessions job.link
  retained : ∀ handler job, requests.asynchronous handler = some job →
    job.session = requests.sessions job.link
  current : ∀ place job, requests.jobAt place = some job →
    job.session = requests.sessions job.link → requests.isCurrent job = true

end Requests

/-! ### The steps that keep the books -/

namespace Application

/-- A target that names a Data endpoint without an inbound stream. -/
def lacksInStream (catalog : RemoteCatalog Value) (target : UInt32) : Bool :=
  (catalog.datum? target).any fun index => (catalog.datum index).inStream.isNone

/-- A response that fits its slot. -/
def fits (catalog : RemoteCatalog Value) (answer : Answer) : Bool :=
  answer.payload.length ≤ catalog.limits.responseCacheBytes

section

variable (state : Application catalog)

/-- A response can be reserved for a frame's request. -/
def reservable (link : catalog.Link) (envelope : Envelope) : Bool :=
  ((state.links link).responses.reserve envelope.requestId envelope.target).2

/-- A request that is executed or stored carries the epoch of the session; an inline action is
answered with a result that fits, or its responder is free. -/
def executable (handler : catalog.Handler) (job : Job catalog.streams.linkCount)
    (answer : Option Answer) : Bool :=
  if handler.isInline && !handler.isAsynchronous then
    state.isCurrent job && answer.any (fits catalog)
  else if state.activeRequests.toNat ≥ catalog.limits.maxRequests then true
  else if handler.isInline then
    state.isCurrent job && (state.asynchronous handler).isNone
  else (state.pending handler).isSome || state.isCurrent job

/-- A frame that leaves the books in order. -/
def frameAccountable (link : catalog.Link) (frame : Decoded) (outcomes : FrameOutcomes) : Bool :=
  let envelope := frame.envelope
  match envelope.kind with
  | .request =>
      match catalog.requestHandler (state.links link).grants frame with
      | .error _ => true
      | .ok handler =>
          !state.asksAnew link envelope || !state.reservable link envelope ||
            state.executable handler (state.jobOf link frame) outcomes.answer
  | .subscribe | .unsubscribe =>
      !(state.asksAnew link envelope && state.reservable link envelope &&
        envelope.subscription == some .dataInStream && lacksInStream catalog envelope.target)
  | .data =>
      !(envelope.operation == some .inStream && (state.links link).granted Permissions.control &&
        lacksInStream catalog envelope.target &&
        ((state.links link).responses.lookup envelope.requestId).any ResponseSlot.isReservation)
  | _ => true

/-- A request of the present session of its link. -/
def ofSession (job : Job catalog.streams.linkCount) : Bool :=
  job.session = state.sessions job.link

/-- A step that leaves the books in order. -/
def accountable : ApplicationLabel catalog → Bool
  | .frame link frame outcomes =>
      (state.links link).session ≠ .active || state.frameAccountable link frame outcomes
  | .submitted accepted =>
      match state.submission with
      | some (.request handler job) => accepted || state.pending handler = some job
      | _ => true
  | .stop =>
      catalog.handlers.all fun handler =>
        (state.pending handler).isNone && (state.asynchronous handler).isNone
  | .begin handler =>
      match state.worker handler with
      | .taken job =>
          !(state.isCurrent job && handler.isAsynchronous) ||
            (state.asynchronous handler).isNone && state.ofSession job
      | _ => true
  | .finish handler answer =>
      match state.worker handler with
      | .running job => !state.ofSession job || answer.isSome
      | _ => true
  | .answer handler =>
      match state.worker handler with
      | .answering job answer => state.ofSession job && fits catalog answer
      | _ => true
  | .complete _ handler token answer => (state.claim? handler token).isNone || answer.isSome
  | .answerCompletion thread =>
      match state.completion thread with
      | some (job, answer) => state.ofSession job && fits catalog answer
      | none => true
  | .abandon handler token => (state.claim? handler token).isNone
  | _ => true

end

end Application

/-! ### Moving a request -/

variable {job : Job catalog.streams.linkCount} {requests next : Requests catalog}
  {handler : catalog.Handler} {place : Place catalog}

namespace Requests

theorem jobAt_setPending_self (requests : Requests catalog) (handler : catalog.Handler)
    (cell : Option (Job catalog.streams.linkCount)) :
    (requests.setPending handler cell).jobAt (.pending handler) = cell := by
  simp [jobAt, setPending]

variable {cell : Option (Job catalog.streams.linkCount)}

theorem jobAt_setPending_of_ne (apart : place ≠ .pending handler) :
    (requests.setPending handler cell).jobAt place = requests.jobAt place := by
  cases place with
  | pending other => exact update_of_ne (fun same => apart (by rw [same])) _ _
  | _ => rfl

theorem jobAt_setAsynchronous_self :
    (requests.setAsynchronous handler cell).jobAt (.asynchronous handler) = cell := by
  simp [jobAt, setAsynchronous]

theorem jobAt_setAsynchronous_of_ne (apart : place ≠ .asynchronous handler) :
    (requests.setAsynchronous handler cell).jobAt place = requests.jobAt place := by
  cases place with
  | asynchronous other => exact update_of_ne (fun same => apart (by rw [same])) _ _
  | _ => rfl

theorem jobAt_setWorker_self (requests : Requests catalog) (handler : catalog.Handler)
    (phase : RequestWorker catalog.streams.linkCount) :
    (requests.setWorker handler phase).jobAt (.worker handler) = phase.job? := by
  simp [jobAt, setWorker]

theorem jobAt_setWorker_of_ne {phase : RequestWorker catalog.streams.linkCount}
    (apart : place ≠ .worker handler) :
    (requests.setWorker handler phase).jobAt place = requests.jobAt place := by
  cases place with
  | worker other =>
    exact congrArg RequestWorker.job? (update_of_ne (fun same => apart (by rw [same])) _ _)
  | _ => rfl

theorem jobAt_setCompletion_self (requests : Requests catalog) (thread : Nat)
    (completion : Option (Job catalog.streams.linkCount × Answer)) :
    (requests.setCompletion thread completion).jobAt (.completion thread) =
      completion.map Prod.fst := by
  simp [jobAt, setCompletion]

theorem jobAt_setCompletion_of_ne {thread : Nat}
    {completion : Option (Job catalog.streams.linkCount × Answer)}
    (apart : place ≠ .completion thread) :
    (requests.setCompletion thread completion).jobAt place = requests.jobAt place := by
  cases place with
  | completion other =>
    exact congrArg (Option.map Prod.fst) (update_of_ne (fun same => apart (by rw [same])) _ _)
  | _ => rfl

theorem holder_of_jobAt {origin : Place catalog} (same : next.jobAt place = requests.jobAt origin)
    (sessions : next.sessions = requests.sessions) :
    next.holder place = requests.holder origin := by
  have present : next.ofSession = requests.ofSession := by
    funext job
    rw [ofSession, ofSession, sessions]
  rw [holder, holder, same, present]

theorem holder_of_none (empty : requests.jobAt place = none) : requests.holder place = none := by
  rw [holder, empty]
  rfl

theorem holder_of_some (here : requests.jobAt place = some job)
    (present : job.session = requests.sessions job.link) :
    requests.holder place = some (job.link, job.envelope.requestId) :=
  holder_eq_some_iff.mpr ⟨job, here, present, rfl⟩

theorem holder_of_past (here : requests.jobAt place = some job)
    (past : job.session ≠ requests.sessions job.link) : requests.holder place = none := by
  refine eq_none_iff_forall_not_mem.mpr fun key member => ?_
  obtain ⟨other, there, present, _⟩ := holder_eq_some_iff.mp member
  rw [here] at there
  exact past (some.inj there ▸ present)

end Requests

/-! ### What keeps the books in order -/

variable {link : catalog.Link}

namespace Requests

/-- The sessions go on, and only new requests are admitted. -/
structure Continues (requests next : Requests catalog) : Prop where
  sessions : next.sessions = requests.sessions
  epoch : ∀ link, (next.links link).epoch = (requests.links link).epoch
  session : ∀ link, (requests.links link).session = .active → (next.links link).session = .active
  last : ∀ link, (requests.links link).lastRequestId ≤ (next.links link).lastRequestId

theorem Continues.isCurrent (continues : Continues requests next)
    (current : requests.isCurrent job = true) : next.isCurrent job = true := by
  simp only [Requests.isCurrent, Bool.and_eq_true, decide_eq_true_eq] at current ⊢
  exact ⟨continues.session _ current.1, (continues.epoch _).trans current.2⟩

theorem Continues.trans {last : Requests catalog} (first : Continues requests next)
    (second : Continues next last) : Continues requests last where
  sessions := second.sessions.trans first.sessions
  epoch link := (second.epoch link).trans (first.epoch link)
  session link active := second.session link (first.session link active)
  last link := UInt32.le_trans (first.last link) (second.last link)

theorem continues_of_links (links : next.links = requests.links)
    (sessions : next.sessions = requests.sessions) : Continues requests next where
  sessions
  epoch link := by rw [links]
  session link active := by rw [links]; exact active
  last link := by rw [links]; exact UInt32.le_refl _

theorem continues_setLink {entry : LinkRequests catalog.limits}
    (epoch : entry.epoch = (requests.links link).epoch)
    (session : (requests.links link).session = .active → entry.session = .active)
    (last : (requests.links link).lastRequestId ≤ entry.lastRequestId) :
    Continues requests (requests.setLink link entry) where
  sessions := rfl
  epoch other := by
    by_cases same : other = link
    · rw [same, links_setLink_self, epoch]
    · rw [links_setLink_of_ne entry same]
  session other active := by
    by_cases same : other = link
    · rw [same, links_setLink_self]
      exact session (same ▸ active)
    · rw [links_setLink_of_ne entry same]
      exact active
  last other := by
    by_cases same : other = link
    · rw [same, links_setLink_self]
      exact last
    · rw [links_setLink_of_ne entry same]
      exact UInt32.le_refl _

theorem continues_setResponses (table : Responses catalog.limits.maxRequests) :
    Continues requests (requests.setResponses link table) :=
  continues_setLink rfl id (UInt32.le_refl _)

section

variable (accounted : requests.Accounted)

include accounted

section

variable (continues : Continues requests next)

include continues

/-- Every request is where it was, or has come into a place in its session. -/
theorem Accounted.of_jobs
    (jobs : ∀ place job, next.jobAt place = some job → requests.jobAt place = some job ∨
      job.session = requests.sessions job.link ∧ next.isCurrent job = true)
    (balanced : Balanced next.holder next.Reserved)
    (bounded : ∀ link request, (next.responses link).Has request →
      request ≤ (next.links link).lastRequestId) :
    next.Accounted where
  balanced
  bounded
  past place job here := by
    rw [continues.sessions]
    obtain there | ⟨present, _⟩ := jobs place job here
    · exact accounted.past place job there
    · exact Nat.le_of_eq present
  waiting handler job here := by
    rw [continues.sessions]
    obtain there | ⟨present, _⟩ := jobs (.pending handler) job here
    · exact accounted.waiting handler job there
    · exact present
  retained handler job here := by
    rw [continues.sessions]
    obtain there | ⟨present, _⟩ := jobs (.asynchronous handler) job here
    · exact accounted.retained handler job there
    · exact present
  current place job here present := by
    rw [continues.sessions] at present
    obtain there | ⟨_, current⟩ := jobs place job here
    · exact continues.isCurrent (accounted.current place job there present)
    · exact current

theorem Accounted.bounded_of_has
    (has : ∀ link request, (next.responses link).Has request → (requests.responses link).Has request)
    (link : catalog.Link) (request : UInt32) (present : (next.responses link).Has request) :
    request ≤ (next.links link).lastRequestId :=
  UInt32.le_trans (accounted.bounded link request (has link request present)) (continues.last link)

theorem Accounted.congr (same : next.jobAt = requests.jobAt)
    (reserved : ∀ key, next.Reserved key ↔ requests.Reserved key)
    (bounded : ∀ link request, (next.responses link).Has request →
      request ≤ (next.links link).lastRequestId) :
    next.Accounted := by
  refine accounted.of_jobs continues (fun place job here => .inl (same ▸ here)) ?_ bounded
  exact accounted.balanced.congr
    (fun place => holder_of_jobAt (congrFun same place) continues.sessions) reserved

theorem Accounted.drop (gone : next.jobAt place = none)
    (others : ∀ other, other ≠ place → next.jobAt other = requests.jobAt other)
    (reserved : ∀ key, next.Reserved key ↔ requests.Reserved key ∧ requests.holder place ≠ some key)
    (has : ∀ link request, (next.responses link).Has request →
      (requests.responses link).Has request) :
    next.Accounted := by
  refine accounted.of_jobs continues (fun other job here => .inl ?_) ?_
    (accounted.bounded_of_has continues has)
  · have apart : other ≠ place := by
      rintro rfl
      exact nomatch gone.symm.trans here
    exact (others other apart).symm.trans here
  · exact accounted.balanced.drop (holder_of_none gone)
      (fun other apart => holder_of_jobAt (others other apart) continues.sessions) reserved

end

/-- A request of the present session goes from one place to another. -/
theorem Accounted.move (links : next.links = requests.links)
    (sessions : next.sessions = requests.sessions) (source target : Place catalog)
    (different : source ≠ target) (here : requests.jobAt source = some job)
    (present : job.session = requests.sessions job.link) (vacant : requests.jobAt target = none)
    (gone : next.jobAt source = none) (arrived : next.jobAt target = some job)
    (others : ∀ other, other ≠ source → other ≠ target → next.jobAt other = requests.jobAt other) :
    next.Accounted := by
  have continues := continues_of_links links sessions
  have reserved : next.Reserved = requests.Reserved := by
    funext key
    rw [Reserved, Reserved, responses, responses, links]
  refine accounted.of_jobs continues (fun other job found => ?_) ?_ ?_
  · by_cases at_ : other = target
    · subst at_
      rw [arrived] at found
      obtain ⟨⟩ := found
      exact .inr ⟨present, continues.isCurrent (accounted.current source _ here present)⟩
    · have apart : other ≠ source := by
        rintro rfl
        cases gone.symm.trans found
      exact .inl ((others other apart at_).symm.trans found)
  · rw [reserved]
    refine accounted.balanced.move different (holder_of_none vacant) (holder_of_none gone)
      (holder_of_jobAt (arrived.trans here.symm) sessions) fun other first second => ?_
    exact holder_of_jobAt (others other first second) sessions
  · refine accounted.bounded_of_has continues fun link request has => ?_
    rw [responses, links] at has
    exact has

theorem Accounted.add (continues : Continues requests next) (vacant : requests.jobAt place = none)
    (arrived : next.jobAt place = some job) (present : job.session = requests.sessions job.link)
    (current : next.isCurrent job = true)
    (fresh : ¬ requests.Reserved (job.link, job.envelope.requestId))
    (others : ∀ other, other ≠ place → next.jobAt other = requests.jobAt other)
    (reserved : ∀ key, next.Reserved key ↔
      requests.Reserved key ∨ key = (job.link, job.envelope.requestId))
    (bounded : ∀ link request, (next.responses link).Has request →
      request ≤ (next.links link).lastRequestId) : next.Accounted := by
  refine accounted.of_jobs continues (fun other found here => ?_) ?_ bounded
  · by_cases at_ : other = place
    · subst at_
      rw [arrived] at here
      obtain ⟨⟩ := here
      exact .inr ⟨present, current⟩
    · exact .inl ((others other at_).symm.trans here)
  · refine accounted.balanced.add (holder_of_none vacant) fresh
      (holder_of_some arrived (present.trans (congrFun continues.sessions _).symm))
      (fun other apart => holder_of_jobAt (others other apart) continues.sessions) reserved

end

end Requests

/-! ### The tables -/

namespace Requests

variable {request : UInt32} {envelope : Envelope} {answer : Answer}
  {table : Responses catalog.limits.maxRequests} {key : catalog.Link × UInt32}

theorem has_setResponses (keeps : ∀ request, table.Has request →
    (requests.responses link).Has request) {other : catalog.Link}
    (has : ((requests.setResponses link table).responses other).Has request) :
    (requests.responses other).Has request := by
  by_cases same : other = link
  · subst same
    rw [responses_setResponses_self] at has
    exact keeps request has
  · rw [responses_setResponses_of_ne table same] at has
    exact has

theorem reserved_setResponses_of_iff
    (same : ∀ request, table.Reserved request ↔ (requests.responses link).Reserved request) :
    (requests.setResponses link table).Reserved key ↔ requests.Reserved key := by
  unfold Reserved
  by_cases here : key.1 = link
  · rw [here, responses_setResponses_self, same]
  · rw [responses_setResponses_of_ne table here]

theorem reserved_setResponses_of_without (without : ∀ other, table.Reserved other ↔
      (requests.responses link).Reserved other ∧ other ≠ request) :
    (requests.setResponses link table).Reserved key ↔
      requests.Reserved key ∧ key ≠ (link, request) := by
  obtain ⟨other, id⟩ := key
  unfold Reserved
  by_cases here : other = link
  · subst here
    rw [responses_setResponses_self, without]
    simp
  · rw [responses_setResponses_of_ne table here]
    simp [here]

theorem reserved_setResponses_of_with (with_ : ∀ other, table.Reserved other ↔
      (requests.responses link).Reserved other ∨ other = request) :
    (requests.setResponses link table).Reserved key ↔
      requests.Reserved key ∨ key = (link, request) := by
  obtain ⟨other, id⟩ := key
  unfold Reserved
  by_cases here : other = link
  · subst here
    rw [responses_setResponses_self, with_]
    simp
  · rw [responses_setResponses_of_ne table here]
    simp [here]

theorem reserved_release_iff :
    (requests.release link request).Reserved key ↔ requests.Reserved key ∧ key ≠ (link, request) :=
  reserved_setResponses_of_without fun _ => Responses.reserved_release

theorem has_release (other : catalog.Link) (id : UInt32)
    (has : ((requests.release link request).responses other).Has id) :
    (requests.responses other).Has id :=
  has_setResponses (fun _ => Responses.has_release) has

theorem reserved_respondTo_iff (fits : Application.fits catalog answer = true)
    (held : requests.Reserved (link, envelope.requestId)) :
    (requests.respondTo link envelope answer).Reserved key ↔
      requests.Reserved key ∧ key ≠ (link, envelope.requestId) := by
  obtain ⟨slot, found, _⟩ := held
  exact reserved_setResponses_of_without fun _ =>
    Responses.reserved_respond (of_decide_eq_true fits) found

theorem has_respondTo (held : requests.Reserved (link, envelope.requestId))
    {other : catalog.Link} {id : UInt32}
    (has : ((requests.respondTo link envelope answer).responses other).Has id) :
    (requests.responses other).Has id := by
  obtain ⟨slot, found, _⟩ := held
  exact has_setResponses (fun _ => Responses.has_respond found) has

theorem lookup_of_new (accounted : requests.Accounted)
    (fresh : (requests.links link).lastRequestId < request) :
    (requests.responses link).lookup request = none := by
  cases held : (requests.responses link).lookup request with
  | none => rfl
  | some slot =>
    have has : (requests.responses link).Has request := by
      rw [Responses.Has, held]
      rfl
    exact absurd (accounted.bounded link request has) (UInt32.not_le.mpr fresh)

/-! ### The steps -/

theorem last_setResponses (requests : Requests catalog) (link other : catalog.Link)
    (table : Responses catalog.limits.maxRequests) :
    ((requests.setResponses link table).links other).lastRequestId =
      (requests.links other).lastRequestId := by
  by_cases same : other = link
  · subst same
    rw [Requests.setResponses, links_setLink_self]
  · rw [Requests.setResponses, links_setLink_of_ne _ same]

section

variable (accounted : requests.Accounted)

include accounted

theorem Accounted.bounded_setResponses
    (has : ∀ request, table.Has request → (requests.responses link).Has request ∨
      request ≤ (requests.links link).lastRequestId) (other : catalog.Link) (request : UInt32)
    (present : ((requests.setResponses link table).responses other).Has request) :
    request ≤ ((requests.setResponses link table).links other).lastRequestId := by
  rw [last_setResponses]
  by_cases same : other = link
  · subst same
    rw [responses_setResponses_self] at present
    exact (has request present).elim (accounted.bounded other request) id
  · rw [responses_setResponses_of_ne table same] at present
    exact accounted.bounded other request present

theorem Accounted.setResponses
    (reserved : ∀ request, table.Reserved request ↔ (requests.responses link).Reserved request)
    (has : ∀ request, table.Has request → (requests.responses link).Has request ∨
      request ≤ (requests.links link).lastRequestId) :
    (requests.setResponses link table).Accounted :=
  accounted.congr (continues_setResponses table) rfl
    (fun _ => reserved_setResponses_of_iff reserved) (accounted.bounded_setResponses has)

section

variable (link : catalog.Link)

theorem Accounted.stage : (requests.stage link).Accounted :=
  accounted.setResponses (fun _ => Responses.reserved_stage)
    fun _ has => .inl (Responses.has_stage has)

theorem Accounted.replay (request : UInt32) : (requests.replay link request).Accounted :=
  accounted.setResponses (fun _ => Responses.reserved_replay)
    fun _ has => .inl (Responses.has_replay has)

theorem Accounted.acknowledge (request : UInt32) : (requests.acknowledge link request).Accounted :=
  accounted.setResponses (fun _ => Responses.reserved_acknowledge)
    fun _ has => .inl (Responses.has_acknowledge has)

end

theorem Accounted.releaseUnreserved (unreserved : ¬ requests.Reserved (link, request)) :
    (requests.release link request).Accounted := by
  refine accounted.setResponses (fun other => ?_) fun _ has => .inl (Responses.has_release has)
  rw [Responses.reserved_release, and_iff_left_iff_imp]
  rintro reserved rfl
  exact unreserved reserved

theorem Accounted.invoke (job : Job catalog.streams.linkCount) : (requests.invoke job).Accounted :=
  ⟨accounted.balanced, accounted.bounded, accounted.past, accounted.waiting, accounted.retained,
    accounted.current⟩

theorem Accounted.enroll (fresh : (requests.links link).lastRequestId < request) :
    (requests.enroll link request).Accounted := by
  have entered : Continues requests (requests.setLink link
      { requests.links link with lastRequestId := request }) :=
    continues_setLink rfl id (UInt32.le_of_lt fresh)
  have continues : Continues requests (requests.enroll link request) :=
    ⟨entered.sessions, entered.epoch, entered.session, entered.last⟩
  have tables : ∀ other, (requests.enroll link request).responses other =
      requests.responses other := by
    intro other
    by_cases same : other = link
    · subst same
      simp only [responses, Requests.enroll, links_setLink_self]
    · simp only [responses, Requests.enroll, links_setLink_of_ne _ same]
  refine accounted.congr continues rfl (fun key => ?_)
    (accounted.bounded_of_has continues fun other id has => tables other ▸ has)
  rw [Reserved, Reserved, tables]

end

/-- What an admitted request finds: its id is the link's last one and has no slot. -/
structure Fresh (requests : Requests catalog) (link : catalog.Link) (request : UInt32) : Prop where
  missing : (requests.responses link).lookup request = none
  last : (requests.links link).lastRequestId = request

theorem fresh_enroll (accounted : requests.Accounted)
    (new : (requests.links link).lastRequestId < request) :
    (requests.enroll link request).Fresh link request := by
  constructor
  · have table : (requests.enroll link request).responses link = requests.responses link := by
      simp only [responses, Requests.enroll, links_setLink_self]
    rw [table]
    exact lookup_of_new accounted new
  · simp only [Requests.enroll, links_setLink_self]

theorem Fresh.not_reserved (fresh : requests.Fresh link request) :
    ¬ requests.Reserved (link, request) := by
  rintro ⟨slot, found, _⟩
  exact nomatch fresh.missing.symm.trans found

section

variable (fresh : requests.Fresh link envelope.requestId)

include fresh

theorem Fresh.has_reserve {other : UInt32}
    (has : ((requests.responses link).reserve envelope.requestId envelope.target).1.Has other) :
    (requests.responses link).Has other ∨ other ≤ (requests.links link).lastRequestId := by
  obtain old | rfl := Responses.has_reserve has
  · exact .inl old
  · exact .inr (UInt32.le_of_eq fresh.last.symm)

theorem Accounted.released (accounted : requests.Accounted)
    (reserved : requests.reservable link envelope = true) :
    ((requests.reserve link envelope).release link envelope.requestId).Accounted := by
  rw [Requests.release, Requests.reserve, setResponses_setResponses, responses_setResponses_self]
  refine accounted.setResponses (fun other => ?_)
    fun _ has => fresh.has_reserve (Responses.has_release has)
  rw [Responses.reserved_release, Responses.reserved_reserve fresh.missing reserved]
  constructor
  · rintro ⟨before | same, different⟩
    · exact before
    · exact absurd same different
  · intro before
    refine ⟨.inl before, ?_⟩
    rintro rfl
    exact fresh.not_reserved before

theorem Accounted.answered (accounted : requests.Accounted)
    (reserved : requests.reservable link envelope = true)
    (fits : Application.fits catalog answer = true) :
    ((requests.reserve link envelope).respondTo link envelope answer).Accounted := by
  obtain ⟨⟨slot, _, _, held⟩, _⟩ := Responses.reserve_of_missing fresh.missing reserved
  rw [Requests.respondTo, Requests.reserve, setResponses_setResponses, responses_setResponses_self]
  refine accounted.setResponses (fun other => ?_)
    fun _ has => fresh.has_reserve (Responses.has_respond held has)
  rw [Responses.reserved_respond (of_decide_eq_true fits) held,
    Responses.reserved_reserve fresh.missing reserved]
  constructor
  · rintro ⟨before | same, different⟩
    · exact before
    · exact absurd same different
  · intro before
    refine ⟨.inl before, ?_⟩
    rintro rfl
    exact fresh.not_reserved before

end

section

variable (accounted : requests.Accounted)

include accounted

section

variable (place : Place catalog)

section

variable (others : ∀ other, other ≠ place → next.jobAt other = requests.jobAt other)

include others

section

variable (present : job.session = requests.sessions job.link)

include present

section

variable (sessions : next.sessions = requests.sessions)

include sessions

/-- A reservation whose request is put into a place. -/
theorem Accounted.placed (fresh : requests.Fresh job.link job.envelope.requestId)
    (reserved : requests.reservable job.link job.envelope = true)
    (vacant : requests.jobAt place = none) (current : requests.isCurrent job = true)
    (links : next.links = (requests.reserve job.link job.envelope).links)
    (arrived : next.jobAt place = some job) : next.Accounted := by
  have continues : Continues requests next :=
    (continues_setResponses _).trans (continues_of_links links sessions)
  have reservations : next.Reserved = (requests.reserve job.link job.envelope).Reserved := by
    funext key
    rw [Reserved, Reserved, responses, responses, links]
  refine accounted.add continues vacant arrived present (continues.isCurrent current)
    fresh.not_reserved others (fun key => ?_) fun link request has => ?_
  · rw [reservations]
    exact reserved_setResponses_of_with fun _ =>
      Responses.reserved_reserve fresh.missing reserved
  · rw [links]
    rw [responses, links] at has
    exact accounted.bounded_setResponses (fun _ => fresh.has_reserve) link request has

theorem Accounted.dropReleased (here : requests.jobAt place = some job)
    (links : next.links = requests.links) (gone : next.jobAt place = none) :
    (next.release job.link job.envelope.requestId).Accounted := by
  have held := holder_of_some here present
  have reservations : next.Reserved = requests.Reserved := by
    funext key
    rw [Reserved, Reserved, responses, responses, links]
  refine accounted.drop ((continues_of_links links sessions).trans (continues_setResponses _)) gone
    others (fun key => ?_) fun link request has => ?_
  · rw [reserved_release_iff, reservations, held, ne_eq, ne_eq, some.injEq, eq_comm]
  · have before := has_release link request has
    rw [responses, links] at before
    exact before

theorem Accounted.dropAnswered (here : requests.jobAt place = some job)
    (fits : Application.fits catalog answer = true)
    (links : next.links = (requests.respond job answer).links) (gone : next.jobAt place = none) :
    next.Accounted := by
  have held := holder_of_some here present
  have reserved : requests.Reserved (job.link, job.envelope.requestId) :=
    (accounted.balanced.held _).mpr ⟨place, held⟩
  have reservations : next.Reserved = (requests.respond job answer).Reserved := by
    funext key
    rw [Reserved, Reserved, responses, responses, links]
  have continues : Continues requests next :=
    (continues_setResponses _).trans (continues_of_links links sessions)
  refine accounted.drop continues gone others (fun key => ?_) fun link request has => ?_
  · rw [reservations, respond, reserved_respondTo_iff fits reserved, held, ne_eq, ne_eq,
      some.injEq, eq_comm]
  · rw [responses, links] at has
    exact has_respondTo reserved has

end

end

end

end

theorem Accounted.setWorker {phase : RequestWorker catalog.streams.linkCount}
    (same : (requests.setWorker handler phase).holder (.worker handler) =
      requests.holder (.worker handler))
    (jobs : ∀ job, phase.job? = some job → requests.jobAt (.worker handler) = some job) :
    (requests.setWorker handler phase).Accounted := by
  have continues : Continues requests (requests.setWorker handler phase) :=
    continues_of_links rfl rfl
  refine accounted.of_jobs continues (fun place job here => .inl ?_) ?_
    (accounted.bounded_of_has continues fun _ _ has => has)
  · by_cases at_ : place = .worker handler
    · subst at_
      rw [jobAt_setWorker_self] at here
      exact jobs job here
    · exact (jobAt_setWorker_of_ne at_).symm.trans here
  · refine accounted.balanced.congr (fun place => ?_) fun key => Iff.rfl
    by_cases at_ : place = .worker handler
    · rw [at_, same]
    · exact holder_of_jobAt (jobAt_setWorker_of_ne at_) rfl

theorem Accounted.forget (here : requests.jobAt (.worker handler) = some job)
    (past : job.session ≠ requests.sessions job.link) :
    (requests.setWorker handler .idle).Accounted := by
  refine accounted.setWorker ?_ nofun
  rw [holder_of_past here past]
  exact holder_of_none (jobAt_setWorker_self requests handler .idle)

end

end Requests

end Solar.Remote
