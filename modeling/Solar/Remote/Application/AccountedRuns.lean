/-
This file takes the books of the response slots through whole runs. Each thing a
step can do to the requests is one of a few movements of the books: a request
takes a place, goes from one place to another, leaves its place together with
its reservation, or a link's requests are given up all at once. What is not such
a movement is excluded by `accountable`.
-/

import Solar.Remote.Application.Accounting

namespace Solar.Remote

open Function
open Option hiding or or_self

open Transition Holding

variable {Value : Type} {catalog : RemoteCatalog Value}

namespace Requests

variable {requests before after : Requests catalog}
  {handler : catalog.Handler} {job : Job catalog.streams.linkCount} {answer : Option Answer}
  {room : Prop} {link : catalog.Link} {frame : Decoded}

/-! ### Admitted requests -/

/-- What `executable` asks for, over the requests. -/
structure Executable (before : Requests catalog) (room : Prop) (handler : catalog.Handler)
    (job : Job catalog.streams.linkCount) (answer : Option Answer) : Prop where
  inline : handler.isInline = true → handler.isAsynchronous = false →
    before.isCurrent job = true ∧ answer.any (Application.fits catalog) = true
  responder : handler.isInline = true → handler.isAsynchronous = true → room →
    before.isCurrent job = true ∧ before.asynchronous handler = none
  deferred : handler.isInline = false → room → before.pending handler = none →
    before.isCurrent job = true

theorem Accounted.executed (accounted : before.Accounted)
    (fresh : before.Fresh job.link job.envelope.requestId)
    (present : job.session = before.sessions job.link)
    (executable : before.reservable job.link job.envelope = true →
      before.Executable room handler job answer)
    (executed : Executed before room handler job answer after) : after.Accounted := by
  cases executed with
  | refused full => exact accounted
  | released reserved => exact accounted.released fresh reserved
  | kept reserved inline entered lost =>
    exfalso
    cases mode : handler.isAsynchronous with
    | false =>
      have current := ((executable reserved).inline inline mode).1
      simp only [current, mode, Bool.true_eq_false, Bool.false_eq_true, false_and, or_self] at lost
    | true =>
      have free := (executable reserved).responder inline mode (entered mode)
      simp only [free.1, free.2, isSome_none, Bool.true_eq_false, Bool.false_eq_true,
        and_false, or_self] at lost
  | failed reserved inline synchronous silent =>
    have given := ((executable reserved).inline inline synchronous).2
    rw [silent] at given
    exact nomatch given
  | answered reserved inline synchronous result given =>
    have fits := ((executable reserved).inline inline synchronous).2
    rw [given] at fits
    exact (accounted.answered fresh reserved fits).invoke job
  | retained reserved inline current free =>
    refine Accounted.invoke ?_ job
    exact accounted.placed (.asynchronous handler)
      (fun other apart => jobAt_setAsynchronous_of_ne apart) present rfl fresh reserved free current
      rfl jobAt_setAsynchronous_self
  | stored reserved deferred entered free =>
    exact accounted.placed (.pending handler) (fun other apart => jobAt_setPending_of_ne apart)
      present rfl fresh reserved free ((executable reserved).deferred deferred entered free) rfl
      (jobAt_setPending_self _ handler _)

theorem fits_of_short {payload : Bytes} (short : payload.length ≤ 64) :
    Application.fits catalog { payload } = true :=
  decide_eq_true (Nat.le_trans short catalog.limits.responseCacheBytes_ge)

theorem Accounted.subscribed (accounted : before.Accounted)
    (fresh : before.Fresh link frame.envelope.requestId)
    (streams : before.reservable link frame.envelope = true →
      frame.envelope.subscription = some .dataInStream →
        Application.lacksInStream catalog frame.envelope.target = false)
    (subscribed : Subscribed before link frame after) : after.Accounted := by
  cases subscribed with
  | refused full => exact accounted
  | released reserved => exact accounted.released fresh reserved
  | kept reserved inStream index found absent =>
    have lacks := streams reserved inStream
    rw [Application.lacksInStream, found, any_some, absent] at lacks
    exact nomatch lacks
  | answered reserved payload short => exact accounted.answered fresh reserved (fits_of_short short)
  | opened reserved payload short =>
    exact (accounted.answered fresh reserved (fits_of_short short)).stage link

/-! ### Cells -/

theorem Accounted.dropPending (accounted : requests.Accounted)
    (held : requests.pending handler = some job) :
    ((requests.setPending handler none).release job.link job.envelope.requestId).Accounted :=
  accounted.dropReleased (.pending handler) (fun _ apart => jobAt_setPending_of_ne apart)
    (accounted.waiting handler job held) rfl held rfl (jobAt_setPending_self requests handler none)

theorem Accounted.dropAsynchronous (accounted : requests.Accounted)
    (held : requests.asynchronous handler = some job) :
    ((requests.setAsynchronous handler none).release job.link job.envelope.requestId).Accounted :=
  accounted.dropReleased (.asynchronous handler)
    (fun _ apart => jobAt_setAsynchronous_of_ne apart) (accounted.retained handler job held) rfl
    held rfl jobAt_setAsynchronous_self

variable {cell : Option (Job catalog.streams.linkCount)}

theorem eq_of_holdsRequest {request : UInt32}
    (holds : Application.holdsRequest link request cell = true) :
    ∃ job, cell = some job ∧ job.link = link ∧ job.envelope.requestId = request := by
  obtain ⟨job, held, named⟩ := (any_eq_true _ _).mp holds
  simp only [Bool.and_eq_true, decide_eq_true_eq] at named
  exact ⟨job, held, named.1, named.2⟩

/-! ### New sessions -/

theorem cell_of_cancelled
    (kept : (if Application.holdsLink link cell then none else cell) = some job) :
    cell = some job ∧ job.link ≠ link := by
  obtain ⟨foreign, held⟩ := ite_none_left_eq_some.mp kept
  refine ⟨held, fun same => foreign ?_⟩
  rw [held]
  exact decide_eq_true same

theorem cancelled_of_foreign (held : cell = some job) (foreign : job.link ≠ link) :
    (if Application.holdsLink link cell then none else cell) = some job := by
  rw [held, if_neg (by simpa only [Application.holdsLink, any_some, decide_eq_true_eq])]

variable {entry : LinkRequests catalog.limits} {place : Place catalog}

theorem jobAt_of_renewed (here : ((requests.cancel link).renew link entry).jobAt place = some job) :
    requests.jobAt place = some job := by
  cases place with
  | worker | completion => exact here
  | _ => exact (cell_of_cancelled here).1

theorem jobAt_renewed (here : requests.jobAt place = some job) (foreign : job.link ≠ link) :
    ((requests.cancel link).renew link entry).jobAt place = some job := by
  cases place with
  | worker | completion => exact here
  | _ => exact cancelled_of_foreign here foreign

theorem sessions_renewed_self :
    ((requests.cancel link).renew link entry).sessions link = requests.sessions link + 1 := by
  simp [renew, cancel]

theorem sessions_renewed_of_ne {other : catalog.Link} (foreign : other ≠ link) :
    ((requests.cancel link).renew link entry).sessions other = requests.sessions other := by
  simp only [renew, cancel, update_of_ne foreign]

theorem links_renewed_of_ne {other : catalog.Link} (foreign : other ≠ link) :
    ((requests.cancel link).renew link entry).links other = requests.links other :=
  links_setLink_of_ne entry foreign

theorem Accounted.foreign_of_renewed (accounted : requests.Accounted)
    (here : requests.jobAt place = some job)
    (present : job.session = ((requests.cancel link).renew link entry).sessions job.link) :
    job.link ≠ link := by
  intro same
  have past := accounted.past place job here
  rw [present, same, sessions_renewed_self] at past
  exact Nat.not_succ_le_self _ past

theorem reserved_renewed_iff (empty : entry.responses = {}) {key : catalog.Link × UInt32} :
    ((requests.cancel link).renew link entry).Reserved key ↔
      requests.Reserved key ∧ key.1 ≠ link := by
  by_cases same : key.1 = link
  · have table : ((requests.cancel link).renew link entry).responses link = {} := by
      rw [responses, renew, links_setLink_self, empty]
    rw [Reserved, same, table]
    exact iff_of_false (Responses.not_reserved_empty _) fun both => both.2 rfl
  · rw [Reserved, responses, links_renewed_of_ne same]
    exact (and_iff_left same).symm

/-- A link that starts a new session gives up its requests and all its reservations. -/
theorem Accounted.renewed (accounted : requests.Accounted) (empty : entry.responses = {}) :
    ((requests.cancel link).renew link entry).Accounted where
  balanced := by
    refine accounted.balanced.restrict (fun place key => ?_) fun key => reserved_renewed_iff empty
    rw [holder_eq_some_iff, holder_eq_some_iff]
    constructor
    · rintro ⟨job, here, present, rfl⟩
      have there := jobAt_of_renewed here
      have foreign := accounted.foreign_of_renewed there present
      rw [sessions_renewed_of_ne foreign] at present
      exact ⟨⟨job, there, present, rfl⟩, foreign⟩
    · rintro ⟨⟨job, here, present, rfl⟩, foreign⟩
      refine ⟨job, jobAt_renewed here foreign, ?_, rfl⟩
      rw [sessions_renewed_of_ne foreign]
      exact present
  bounded other request has := by
    by_cases same : other = link
    · subst same
      rw [responses, renew, links_setLink_self, empty] at has
      exact absurd has (Responses.not_has_empty _)
    · rw [responses, links_renewed_of_ne same] at has
      rw [links_renewed_of_ne same]
      exact accounted.bounded other request has
  past place job here := by
    have past := accounted.past place job (jobAt_of_renewed here)
    by_cases same : job.link = link
    · rw [same] at past
      rw [same, sessions_renewed_self]
      exact Nat.le_succ_of_le past
    · rw [sessions_renewed_of_ne same]
      exact past
  waiting handler job here := by
    obtain ⟨held, foreign⟩ := cell_of_cancelled here
    rw [sessions_renewed_of_ne foreign]
    exact accounted.waiting handler job held
  retained handler job here := by
    obtain ⟨held, foreign⟩ := cell_of_cancelled here
    rw [sessions_renewed_of_ne foreign]
    exact accounted.retained handler job held
  current place job here present := by
    have there := jobAt_of_renewed here
    have foreign := accounted.foreign_of_renewed there present
    rw [sessions_renewed_of_ne foreign] at present
    have current := accounted.current place job there present
    rw [isCurrent, links_renewed_of_ne foreign]
    exact current

end Requests

/-! ### Frames -/

namespace Application

variable {state : Application catalog}
  {link : catalog.Link} {frame : Decoded} {outcomes : FrameOutcomes}
  {handler : catalog.Handler} {job : Job catalog.streams.linkCount} {answer : Option Answer}

theorem executable_of_state (executable : state.executable handler job answer = true) :
    state.requests.Executable (state.activeRequests.toNat < catalog.limits.maxRequests) handler job
      answer := by
  unfold Application.executable at executable
  constructor
  · intro inline synchronous
    rw [inline, synchronous, Bool.not_false, Bool.and_true, if_pos rfl,
      Bool.and_eq_true] at executable
    exact executable
  · intro inline asynchronous room
    rw [inline, asynchronous, Bool.not_true, Bool.and_false, if_neg nofun,
      if_neg (Nat.not_le.mpr room), if_pos rfl, Bool.and_eq_true,
      isNone_iff_eq_none] at executable
    exact executable
  · intro deferred room free
    rw [deferred, if_neg (Nat.not_le.mpr room),
      show state.pending handler = none from free] at executable
    exact executable

theorem last_lt_of_asksAnew (anew : state.asksAnew link frame.envelope = true) :
    (state.requests.links link).lastRequestId < frame.envelope.requestId := by
  rw [asksAnew, Bool.and_eq_true, decide_eq_true_eq] at anew
  exact anew.2

theorem reservable_enroll (state : Application catalog) {envelope : Envelope} :
    (state.requests.enroll link envelope.requestId).reservable link envelope =
      state.reservable link envelope := by
  unfold Requests.reservable Requests.responses Requests.enroll
  rw [Requests.links_setLink_self]
  rfl

theorem isCurrent_enroll (requests : Requests catalog) (link : catalog.Link) (request : UInt32)
    (job : Job catalog.streams.linkCount) :
    (requests.enroll link request).isCurrent job = requests.isCurrent job := by
  unfold Requests.isCurrent Requests.enroll
  by_cases same : job.link = link
  · rw [same, Requests.links_setLink_self]
  · rw [Requests.links_setLink_of_ne _ same]

theorem executable_enroll {requests : Requests catalog} {room : Prop}
    (executable : requests.Executable room handler job answer) (request : UInt32) :
    (requests.enroll link request).Executable room handler job answer := by
  constructor
  · intro inline synchronous
    rw [isCurrent_enroll]
    exact executable.inline inline synchronous
  · intro inline asynchronous entered
    rw [isCurrent_enroll]
    exact executable.responder inline asynchronous entered
  · intro deferred entered free
    rw [isCurrent_enroll]
    exact executable.deferred deferred entered free

end Application

namespace Requests.Accounted

variable {state : Application catalog}
  {link : catalog.Link} {frame : Decoded} {outcomes : FrameOutcomes} {after : Requests catalog}

section

variable (accounted : state.requests.Accounted)
  (orderly : state.frameAccountable link frame outcomes = true)

include accounted orderly

theorem requested (anew : state.asksAnew link frame.envelope = true)
    (kind : frame.envelope.kind = .request) {handler : catalog.Handler}
    (meant : catalog.requestHandler (state.links link).grants frame = .ok handler)
    (executed : Executed (state.requests.enroll link frame.envelope.requestId)
      (state.activeRequests.toNat < catalog.limits.maxRequests) handler (state.jobOf link frame)
      outcomes.answer after) :
    after.Accounted := by
  have new := Application.last_lt_of_asksAnew anew
  refine (accounted.enroll new).executed (fresh_enroll accounted new) rfl (fun reserved => ?_)
    executed
  have reserved := state.reservable_enroll.symm.trans reserved
  rw [Application.frameAccountable, kind, meant] at orderly
  simp only [anew, reserved, Bool.not_true, Bool.or_self, Bool.false_or] at orderly
  exact Application.executable_enroll (Application.executable_of_state orderly) _

theorem subscription (anew : state.asksAnew link frame.envelope = true)
    (kind : frame.envelope.kind = .subscribe ∨ frame.envelope.kind = .unsubscribe)
    (done : Subscribed (state.requests.enroll link frame.envelope.requestId) link frame after) :
    after.Accounted := by
  have new := Application.last_lt_of_asksAnew anew
  refine (accounted.enroll new).subscribed (fresh_enroll accounted new)
    (fun reserved inStream => ?_) done
  rw [Application.reservable_enroll] at reserved
  unfold Application.frameAccountable at orderly
  obtain kind | kind := kind
  · simpa only [kind, anew, reserved, inStream, beq_self_eq_true, Bool.true_and,
      Bool.not_eq_true'] using orderly
  · simpa only [kind, anew, reserved, inStream, beq_self_eq_true, Bool.true_and,
      Bool.not_eq_true'] using orderly

theorem processed (done : Processed state link frame outcomes after) : after.Accounted := by
  cases done with
  | quiet => exact accounted
  | acknowledged kind => exact accounted.acknowledge link _
  | cancelled kind handler held =>
    obtain ⟨job, here, rfl, named⟩ := eq_of_holdsRequest held
    rw [← named]
    exact accounted.dropPending here
  | recalled kind handler held =>
    obtain ⟨job, here, rfl, named⟩ := eq_of_holdsRequest held
    rw [← named]
    exact accounted.dropAsynchronous here
  | dropped kind inStream granted index found absent =>
    refine accounted.releaseUnreserved ?_
    rintro ⟨slot, held, reservation⟩
    have lacks : Application.lacksInStream catalog frame.envelope.target = true := by
      rw [Application.lacksInStream, found, any_some, absent]
      rfl
    have held : (state.links link).responses.lookup frame.envelope.requestId = some slot := held
    unfold Application.frameAccountable at orderly
    simp only [kind, inStream, granted, lacks, held, reservation, any_some,
      beq_self_eq_true, Bool.and_self, Bool.not_true] at orderly
    exact nomatch orderly
  | replayed asks positive last => exact accounted.replay link _
  | declined anew kind error meant => exact accounted.enroll (Application.last_lt_of_asksAnew anew)
  | requested anew kind handler meant after executed =>
    exact accounted.requested orderly anew kind meant executed
  | subscribed anew kind after done => exact accounted.subscription orderly anew kind done

end

end Requests.Accounted

/-! ### Steps -/

namespace Requests.Accounted

variable {requests : Requests catalog}
  {handler : catalog.Handler} {job : Job catalog.streams.linkCount} {answer : Answer}
  {thread : Nat}

variable {phase : RequestWorker catalog.streams.linkCount}

theorem jobAt_worker (held : requests.worker handler = phase) :
    requests.jobAt (.worker handler) = phase.job? :=
  congrArg RequestWorker.job? held

section

variable (accounted : requests.Accounted)

include accounted

theorem take (idle : requests.worker handler = .idle) (waits : requests.pending handler = some job) :
    ((requests.setPending handler none).setWorker handler (.taken job)).Accounted := by
  refine accounted.move rfl rfl (.pending handler) (.worker handler) nofun waits
    (accounted.waiting handler job waits) (jobAt_worker idle) ?_
    (jobAt_setWorker_self _ handler _) fun other first second => ?_
  · exact jobAt_setPending_self requests handler none
  · rw [jobAt_setWorker_of_ne second, jobAt_setPending_of_ne first]

theorem retain (held : requests.worker handler = .taken job)
    (present : job.session = requests.sessions job.link)
    (free : requests.asynchronous handler = none) :
    ((requests.setAsynchronous handler (some job)).setWorker handler .idle).Accounted := by
  refine accounted.move rfl rfl (.worker handler) (.asynchronous handler) nofun
    (jobAt_worker held) present free (jobAt_setWorker_self _ handler _) ?_
    fun other first second => ?_
  · exact jobAt_setAsynchronous_self
  · rw [jobAt_setWorker_of_ne first, jobAt_setAsynchronous_of_ne second]

theorem claim (held : requests.asynchronous handler = some job)
    (free : requests.completion thread = none) :
    ((requests.setAsynchronous handler none).setCompletion thread (some (job, answer))).Accounted := by
  refine accounted.move rfl rfl (.asynchronous handler) (.completion thread) nofun held
    (accounted.retained handler job held) (congrArg (Option.map Prod.fst) free) ?_
    (jobAt_setCompletion_self _ thread _) fun other first second => ?_
  · exact jobAt_setAsynchronous_self
  · rw [jobAt_setCompletion_of_ne second, jobAt_setAsynchronous_of_ne first]

theorem proceed (held : requests.worker handler = phase)
    (next : RequestWorker catalog.streams.linkCount) (same : next.job? = phase.job?) :
    (requests.setWorker handler next).Accounted := by
  have here : (requests.setWorker handler next).jobAt (.worker handler) =
      requests.jobAt (.worker handler) := by
    rw [jobAt_setWorker_self, same, jobAt_worker held]
  refine accounted.setWorker (holder_of_jobAt here rfl) fun job found => ?_
  rw [← here, jobAt_setWorker_self, found]

theorem finish (held : requests.worker handler = .answering job answer)
    (present : job.session = requests.sessions job.link)
    (fits : Application.fits catalog answer = true) :
    ((requests.respond job answer).setWorker handler .idle).Accounted :=
  accounted.dropAnswered (.worker handler) (fun _ apart => jobAt_setWorker_of_ne apart) present rfl
    (jobAt_worker held) fits rfl (jobAt_setWorker_self _ handler _)

theorem complete (held : requests.completion thread = some (job, answer))
    (present : job.session = requests.sessions job.link)
    (fits : Application.fits catalog answer = true) :
    ((requests.respond job answer).setCompletion thread none).Accounted :=
  accounted.dropAnswered (.completion thread) (fun _ apart => jobAt_setCompletion_of_ne apart)
    present rfl (congrArg (Option.map Prod.fst) held) fits rfl
    (jobAt_setCompletion_self _ thread _)

theorem lapse (held : requests.worker handler = phase) (mine : phase.job? = some job)
    (stale : requests.isCurrent job = false) : (requests.setWorker handler .idle).Accounted := by
  have here := (jobAt_worker held).trans mine
  refine accounted.forget here fun present => ?_
  have current := accounted.current _ job here present
  rw [stale] at current
  exact nomatch current

theorem greet (link : catalog.Link) :
    (requests.setLink link { requests.links link with session := .active }).Accounted := by
  have continues : Continues requests
      (requests.setLink link { requests.links link with session := .active }) :=
    continues_setLink rfl (fun _ => rfl) (UInt32.le_refl _)
  have tables : ∀ other, (requests.setLink link
      { requests.links link with session := .active }).responses other =
        requests.responses other := by
    intro other
    by_cases same : other = link
    · rw [same, responses, links_setLink_self]
      rfl
    · rw [responses, links_setLink_of_ne _ same]
      rfl
  refine accounted.congr continues rfl (fun key => ?_)
    (accounted.bounded_of_has continues fun other request has => tables other ▸ has)
  rw [Reserved, Reserved, tables]

end

end Requests.Accounted

namespace Requests

variable {requests : Requests catalog}

section

variable (pending : ∀ handler, requests.pending handler = none)
  (asynchronous : ∀ handler, requests.asynchronous handler = none)

include pending asynchronous

theorem cancel_of_empty (link : catalog.Link) : requests.cancel link = requests := by
  have waiting : (fun handler => if Application.holdsLink link (requests.pending handler) then none
      else requests.pending handler) = requests.pending := by
    funext handler
    rw [pending, ite_self]
  have retained : (fun handler => if Application.holdsLink link (requests.asynchronous handler)
      then none else requests.asynchronous handler) = requests.asynchronous := by
    funext handler
    rw [asynchronous, ite_self]
  rw [cancel, waiting, retained]

theorem foldl_cancel_of_empty (links : List catalog.Link) :
    links.foldl cancel requests = requests := by
  induction links with
  | nil => rfl
  | cons link rest ih => rw [List.foldl_cons, cancel_of_empty pending asynchronous, ih]

end

end Requests

namespace Application

variable {state next : Application catalog}
  {label : ApplicationLabel catalog}

theorem accounted_of_moved (accounted : state.requests.Accounted)
    (orderly : state.accountable label = true) {after : Requests catalog}
    (moved : Moved state label after) : after.Accounted := by
  cases moved with
  | quiet => exact accounted
  | greeted link frame outcomes => exact accounted.greet link
  | processed link frame outcomes active after done =>
    simp only [accountable, active, ne_eq, not_true_eq_false, decide_false, Bool.false_or] at orderly
    exact accounted.processed orderly done
  | renewed label link entry empty zero idle => exact accounted.renewed empty
  | stopped =>
    have cells : ∀ handler, state.pending handler = none ∧ state.asynchronous handler = none := by
      intro handler
      have both := List.all_eq_true.mp orderly handler (RemoteCatalog.Handler.mem_handlers handler)
      rw [Bool.and_eq_true, isNone_iff_eq_none, isNone_iff_eq_none] at both
      exact both
    rw [Requests.foldl_cancel_of_empty (fun handler => (cells handler).1)
      fun handler => (cells handler).2]
    exact accounted
  | staged link encodes disposition => exact accounted.stage link
  | returned handler job asked =>
    rw [accountable, asked] at orderly
    exact accounted.dropPending (of_decide_eq_true orderly)
  | taken handler job idle waits => exact accounted.take idle waits
  | lapsed handler job held stale | expired handler answer job held stale =>
    exact accounted.lapse held rfl stale
  | crowded handler job held current asynchronous busy =>
    rw [accountable, held] at orderly
    obtain ⟨other, present⟩ := isSome_iff_exists.mp busy
    simp only [current, asynchronous, present, isNone_some, Bool.and_self, Bool.not_true,
      Bool.false_and, Bool.or_self] at orderly
    exact nomatch orderly
  | retained handler job held current asynchronous free =>
    rw [accountable, held] at orderly
    simp only [current, asynchronous, free, isNone_none, Bool.and_self, Bool.not_true,
      Bool.false_or, Bool.true_and] at orderly
    exact (accounted.retain held (of_decide_eq_true orderly) free).invoke job
  | started handler job held current => exact (accounted.proceed held (.running job) rfl).invoke job
  | failed handler job held current =>
    rw [accountable, held] at orderly
    simp only [isSome_none, Bool.or_false, Bool.not_eq_true'] at orderly
    exact accounted.forget (congrArg RequestWorker.job? held) (of_decide_eq_false orderly)
  | computed handler answer job held => exact accounted.proceed held (.answering job answer) rfl
  | answered handler answer job held =>
    rw [accountable, held, Bool.and_eq_true] at orderly
    exact accounted.finish held (of_decide_eq_true orderly.1) orderly.2
  | outlived thread handler token answer job held stale =>
    have current := accounted.current (.asynchronous handler) job held
      (accounted.retained handler job held)
    exact nomatch stale.symm.trans current
  | botched thread handler token job claimed | abandoned handler token job claimed =>
    rw [accountable, claimed] at orderly
    exact nomatch orderly
  | claimed thread handler token answer job held free => exact accounted.claim held free
  | completed thread answer job held =>
    rw [accountable, held, Bool.and_eq_true] at orderly
    exact accounted.complete held (of_decide_eq_true orderly.1) orderly.2

theorem jobAt_initial {place : Place catalog} :
    ({} : Application catalog).requests.jobAt place = none := by
  cases place <;> rfl

theorem accounted_initial : ({} : Application catalog).requests.Accounted := by
  have nobody : ∀ place job, ({} : Application catalog).requests.jobAt place ≠ some job :=
    fun place job here => nomatch jobAt_initial.symm.trans here
  have vacant : ∀ place, ({} : Application catalog).requests.holder place = none :=
    fun place => Requests.holder_of_none jobAt_initial
  refine ⟨⟨fun key => ?_, fun first second key held => ?_⟩, ?_, ?_, ?_, ?_, ?_⟩
  · refine iff_of_false (Responses.not_reserved_empty _) ?_
    rintro ⟨place, held⟩
    exact nomatch (vacant place).symm.trans held
  · exact nomatch (vacant first).symm.trans held
  · exact fun link request has => absurd has (Responses.not_has_empty request)
  · exact fun place job here => absurd here (nobody place job)
  · exact fun handler job here => absurd here (nobody (.pending handler) job)
  · exact fun handler job here => absurd here (nobody (.asynchronous handler) job)
  · exact fun place job here => absurd here (nobody place job)

/-- In every run of accountable steps, the slots that are reserved and not valid are those of the
requests that are pending or being handled. -/
theorem response_slots_accounted (reached : (applicationMachine catalog).ReachableWhere
      (fun state label => state.accountable label = true) {} state)
    (link : catalog.Link) (request : UInt32) :
    (∃ index slot, (state.links link).responses.slots.get? index = some slot ∧
      slot.reserved = true ∧ slot.valid = false ∧ slot.request = request) ↔
        state.requests.Live link request := by
  have accounted : state.requests.Accounted :=
    reached.invariant (fun state => state.requests.Accounted) accounted_initial
      fun state label next accounted orderly stepped =>
        accounted_of_moved accounted orderly (moved_of_step stepped)
  rw [← Responses.reserved_iff, Requests.live_iff]
  exact accounted.balanced.held (link, request)

/-- A run with one request answered and a second one waiting for its worker. -/
theorem response_slots_accounted_desk :
    ∃ state : Application deskCatalog, state.pending Desk.action ≠ none ∧
      (state.requests.Live Desk.link 2 ↔
        ∃ index slot, (state.links Desk.link).responses.slots.get? index = some slot ∧
          slot.reserved = true ∧ slot.valid = false ∧ slot.request = 2) := by
  have reached := (applicationMachine deskCatalog).reachableWhere_get
    (fun state label => state.accountable label = true) {}
    (Desk.greets ++ Desk.requests 1 ++ Desk.serves { payload := [9] } ++ Desk.requests 2)
    (by decide) (by decide)
  exact ⟨_, by decide, (response_slots_accounted reached Desk.link 2).symm⟩

/-- Without the condition the books go wrong both ways. A subscription to the inbound stream of an
endpoint that has none is turned away and leaves its reservation behind; a Data frame to such an
endpoint whose token is the id of a waiting request takes that request's reservation. -/
theorem response_slots_unaccounted :
    (∃ state : Application deskCatalog, (applicationMachine deskCatalog).Reachable {} state ∧
      (∃ index slot, (state.links Desk.link).responses.slots.get? index = some slot ∧
        slot.reserved = true ∧ slot.valid = false ∧ slot.request = 1) ∧
      ¬ state.requests.Live Desk.link 1) ∧
    ∃ state : Application deskCatalog, (applicationMachine deskCatalog).Reachable {} state ∧
      state.requests.Live Desk.link 1 ∧
      ¬ ∃ index slot, (state.links Desk.link).responses.slots.get? index = some slot ∧
        slot.reserved = true ∧ slot.valid = false ∧ slot.request = 1 := by
  constructor
  · refine ⟨((applicationMachine deskCatalog).run {} (Desk.greets ++
      [.frame Desk.link (Desk.frame .subscribe 1 4 3) {}])).get (by decide),
      ⟨_, (some_get _).symm⟩, ⟨0, { reserved := true, request := 1, target := 3 }, by decide⟩, ?_⟩
    rintro ⟨place, job, here, _⟩
    cases place <;> exact nomatch (show none = some job from here)
  · refine ⟨((applicationMachine deskCatalog).run {} (Desk.greets ++ Desk.requests 1 ++
      [.frame Desk.link (Desk.frame .data 1 3 3) {}])).get (by decide),
      ⟨_, (some_get _).symm⟩,
      ⟨.pending Desk.action, ⟨Desk.link, (Desk.frame .request 1 0 1).envelope, [], 1⟩,
        by decide⟩, ?_⟩
    rw [← Responses.reserved_iff]
    rintro ⟨slot, found, _⟩
    exact nomatch (show none = some slot from found)

end Application

end Solar.Remote
