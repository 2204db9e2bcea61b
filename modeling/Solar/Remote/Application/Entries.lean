/-
This file says once what every step of the application layer can do to its
books. A step makes one entry: a subscription is set or cleared, a request is
admitted, moved from one cell to another or given up, or a session is reset. All
results about the counters are read off this list.
-/

import Solar.Remote.Application.Books

namespace Solar.Remote

open List Option Function

/-- What one step can do to the books. -/
inductive Booked {Value : Type} {catalog : RemoteCatalog Value} (books : Books catalog) :
    ApplicationLabel catalog → Books catalog → Prop
  | quiet (label : ApplicationLabel catalog) : Booked books label books
  | subscribed (label : ApplicationLabel catalog) (link : catalog.Link) (slot : Nat)
      (inside : slot ∈ catalog.subscribable) (enable : Bool) :
      Booked books label (books.setSubscription link slot enable)
  | entrusted (label : ApplicationLabel catalog) (handler : catalog.Handler)
      (job : Job catalog.streams.linkCount)
      (room : books.activeRequests.toNat < catalog.limits.maxRequests)
      (free : books.asynchronous handler = none) :
      Booked books label (books.enlist.setAsynchronous handler (some job))
  | stored (label : ApplicationLabel catalog) (handler : catalog.Handler)
      (job : Job catalog.streams.linkCount)
      (room : books.activeRequests.toNat < catalog.limits.maxRequests)
      (free : books.pending handler = none) :
      Booked books label
        ((books.enlist.setPending handler (some job)).setSubmission (some (.request handler job)))
  | offered (label : ApplicationLabel catalog) (endpoint : catalog.Endpoint)
      (link : catalog.Link) (envelope : Envelope) (generation : UInt32) :
      Booked books label (books.setSubmission (some (.sample endpoint link envelope generation)))
  | withdrawn (label : ApplicationLabel catalog) (handler : catalog.Handler)
      (job : Job catalog.streams.linkCount) (held : books.pending handler = some job) :
      Booked books label (books.setPending handler none).retire
  | recalled (label : ApplicationLabel catalog) (handler : catalog.Handler)
      (job : Job catalog.streams.linkCount) (held : books.asynchronous handler = some job) :
      Booked books label (books.setAsynchronous handler none).retire
  | reset (label : ApplicationLabel catalog) (link : catalog.Link) :
      Booked books label (books.reset link)
  | connected (link : catalog.Link) :
      Booked books (.connected link) ((books.reset link).wipe link)
  | stopped : Booked books .stop
      ((finRange catalog.streams.linkCount).foldl Books.reset books)
  | settled (accepted : Bool) : Booked books (.submitted accepted) (books.setSubmission none)
  | refused (handler : catalog.Handler) (job : Job catalog.streams.linkCount)
      (asked : books.submission = some (.request handler job)) :
      Booked books (.submitted false) ((books.setPending handler none).retire.setSubmission none)
  | taken (handler : catalog.Handler) (job : Job catalog.streams.linkCount)
      (idle : books.worker handler = .idle) (waits : books.pending handler = some job) :
      Booked books (.take handler) ((books.setPending handler none).setWorker handler (.taken job))
  | dropped (label : ApplicationLabel catalog) (handler : catalog.Handler)
      (job : Job catalog.streams.linkCount) (held : (books.worker handler).job? = some job) :
      Booked books label (books.setWorker handler .idle).retire
  | retained (label : ApplicationLabel catalog) (handler : catalog.Handler)
      (job : Job catalog.streams.linkCount) (held : (books.worker handler).job? = some job)
      (free : books.asynchronous handler = none) :
      Booked books label ((books.setAsynchronous handler (some job)).setWorker handler .idle)
  | advanced (label : ApplicationLabel catalog) (handler : catalog.Handler)
      (phase : RequestWorker catalog.streams.linkCount)
      (same : phase.job? = (books.worker handler).job?) :
      Booked books label (books.setWorker handler phase)
  | claimed (label : ApplicationLabel catalog) (thread : Nat) (handler : catalog.Handler)
      (job : Job catalog.streams.linkCount) (answer : Answer)
      (held : books.asynchronous handler = some job) (free : books.completion thread = none) :
      Booked books label
        ((books.setAsynchronous handler none).setCompletion thread (some (job, answer)))
  | completed (label : ApplicationLabel catalog) (thread : Nat)
      (completion : Job catalog.streams.linkCount × Answer)
      (held : books.completion thread = some completion) :
      Booked books label (books.setCompletion thread none).retire

theorem Booked.of_eq {Value : Type} {catalog : RemoteCatalog Value} {books next other : Books catalog}
    {label : ApplicationLabel catalog} (booked : Booked books label next) (same : other = next) :
    Booked books label other :=
  same ▸ booked

namespace Application

variable {Value : Type} {catalog : RemoteCatalog Value}

/-! ### Subscriptions -/

variable (state : Application catalog) {next : Application catalog} {handler : catalog.Handler}
  {limits : ServiceLimits} (link : LinkState limits)

section

variable (link : catalog.Link)

theorem booked_updateDataSubscription (index : catalog.DataIndex) (enable stream : Bool)
    (request : SubscriptionRequest) (label : ApplicationLabel catalog) :
    Booked state.books label
      (state.updateDataSubscription link index enable stream request).1.books := by
  cases stream
  all_goals
    simp only [updateDataSubscription, Bool.false_eq_true, if_false, if_true]
    split
    · exact .quiet label
    rename_i supported
    have supported := eq_true_of_ne_false supported
    split
    · exact .quiet label
  · exact (Booked.subscribed label link _ (catalog.watchSlot_mem supported) enable).of_eq
      (books_setSubscription (catalog.countsInterest_watchSlot index) state link enable _)
  · exact (Booked.subscribed label link _ (catalog.streamSlot_mem supported) enable).of_eq
      (books_setSubscription (catalog.countsInterest_streamSlot index) state link enable _)

theorem booked_updateTopicSubscription (index : catalog.TopicIndex) (enable : Bool)
    (request : SubscriptionRequest) (label : ApplicationLabel catalog) :
    Booked state.books label (state.updateTopicSubscription link index enable request).1.books := by
  unfold updateTopicSubscription
  dsimp only
  split
  · exact .quiet label
  · exact (Booked.subscribed label link _ (catalog.topicSlot_mem index) enable).of_eq
      (books_setSubscription (catalog.countsInterest_topicSlot index) state link enable _)

theorem booked_updateSubscription (target : UInt32) (enable : Bool) (kind : Option SubscriptionKind)
    (request : SubscriptionRequest) (label : ApplicationLabel catalog) :
    Booked state.books label
      (state.updateSubscription link target enable kind request).1.books := by
  unfold updateSubscription
  split
  · split
    · exact state.booked_updateDataSubscription link _ enable true request label
    · exact .quiet label
  · split
    · exact state.booked_updateDataSubscription link _ enable false request label
    · exact .quiet label
  · split
    · exact state.booked_updateTopicSubscription link _ enable request label
    · exact .quiet label
  · exact .quiet label

theorem booked_processOutSubscription (frame : Decoded) (enable : Bool)
    (label : ApplicationLabel catalog) :
    Booked state.books label (state.processOutSubscription link frame enable).books := by
  unfold processOutSubscription
  generalize (if enable then requestedPolicy frame.payload
    else if frame.payload = [] then some ({} : SubscriptionRequest) else none) = asked
  cases asked with
  | none => exact Booked.of_eq (.quiet label) (state.books_reject link _ _)
  | some request =>
    dsimp only
    have entry := state.booked_updateSubscription link frame.envelope.target enable
      frame.envelope.subscription request label
    split
    · exact Booked.of_eq (.quiet label) (state.books_reject link _ _)
    · rename_i updated policy result
      rw [result] at entry
      exact entry.of_eq (updated.books_respondTo link _ _)

end

/-! ### Sessions -/

theorem books_clear {Index : Type} (change : Application catalog → Index → Application catalog)
    (supported : Index → Bool) (slot : Index → Nat) (link : catalog.Link)
    (clears : ∀ state index, (change state index).books =
      if supported index then state.books.setSubscription link (slot index) false
      else state.books)
    (indices : List Index) (state : Application catalog) :
    (indices.foldl change state).books =
      state.books.clear link ((indices.filter supported).map slot) := by
  induction indices generalizing state with
  | nil => rfl
  | cons index rest ih =>
    rw [foldl_cons, ih, clears, filter_cons]
    split
    · rfl
    · rfl

section

variable (link : catalog.Link)

theorem books_disableData (index : catalog.DataIndex) (stream : Bool) :
    (state.updateDataSubscription link index false stream {}).1.books =
      if (if stream then (catalog.datum index).outStream.isSome else (catalog.datum index).watch)
      then state.books.setSubscription link
        (if stream then catalog.streamSlot index else catalog.watchSlot index) false
      else state.books := by
  cases stream
  all_goals
    simp only [updateDataSubscription, Bool.false_eq_true, if_false, if_true]
    split
    · rename_i missing
      rw [if_neg (by rw [missing]; exact nofun)]
    rename_i present
    rw [if_pos (eq_true_of_ne_false present)]
  · exact books_setSubscription (catalog.countsInterest_watchSlot index) state link false _
  · exact books_setSubscription (catalog.countsInterest_streamSlot index) state link false _

theorem books_disableTopic (index : catalog.TopicIndex) :
    (state.updateTopicSubscription link index false {}).1.books =
      state.books.setSubscription link (catalog.topicSlot index) false :=
  books_setSubscription (catalog.countsInterest_topicSlot index) state link false _

theorem books_resetSubscriptions :
    (state.resetSubscriptions link).books = state.books.clear link catalog.subscribable := by
  have topics := books_clear
    (fun (state : Application catalog) index =>
      (state.updateTopicSubscription link index false {}).1) (fun _ => true)
    catalog.topicSlot link (fun state index => state.books_disableTopic link index)
  have watches := books_clear
    (fun (state : Application catalog) index =>
      (state.updateDataSubscription link index false false {}).1)
    (fun index => (catalog.datum index).watch) catalog.watchSlot link
    (fun state index => state.books_disableData link index false)
  have streams := books_clear
    (fun (state : Application catalog) index =>
      (state.updateDataSubscription link index false true {}).1)
    (fun index => (catalog.datum index).outStream.isSome) catalog.streamSlot link
    (fun state index => state.books_disableData link index true)
  have every : (finRange catalog.topics.length).filter (fun _ => true) =
      finRange catalog.topics.length := filter_eq_self.mpr fun _ _ => rfl
  unfold resetSubscriptions RemoteCatalog.subscribable
  rw [topics, watches, streams, every]
  simp only [Books.clear, foldl_append]

@[simp] theorem books_resetSession (reason : InStreamCloseReason) :
    (state.resetSession link reason).books = state.books.reset link := by
  rw [resetSession, books_resetSubscriptions, streamless_books.closeInStreamRows]
  rfl

theorem books_renewSession {state : Application catalog} {link : catalog.Link}
    {change : LinkState catalog.limits → LinkState catalog.limits}
    (same : (change (state.links link)).subscribing = (state.links link).subscribing) :
    (state.renewSession link change).books = state.books := by
  have kept := books_onLink same
  exact kept

theorem books_connect (grants : Permissions) :
    (state.renewSession link (LinkState.connect · grants)).books = state.books.wipe link := by
  unfold renewSession books Books.wipe
  congr 1
  · funext other
    by_cases here : other = link
    · subst here
      simp only [onLink, update_self]
      rfl
    · simp only [onLink, update_of_ne here]
  · funext other
    by_cases here : other = link
    · subst here
      simp only [onLink, update_self]
      rfl
    · simp only [onLink, update_of_ne here]

end

theorem books_resetSessions :
    state.resetSessions.books =
      (finRange catalog.streams.linkCount).foldl Books.reset state.books := by
  unfold resetSessions
  generalize finRange catalog.streams.linkCount = links
  induction links generalizing state with
  | nil => rfl
  | cons link rest ih => rw [foldl_cons, foldl_cons, ih, books_resetSession]

/-! ### Requests -/

theorem books_executeInline (handler : catalog.Handler) (job : Job catalog.streams.linkCount)
    (answer : Option Answer) :
    (state.executeInline handler job answer).2 = false ∧
        (state.executeInline handler job answer).1.books = state.books ∨
      (state.executeInline handler job answer).2 = true ∧ handler.isAsynchronous = true ∧
        state.asynchronous handler = none ∧
        (state.executeInline handler job answer).1.books =
          state.books.setAsynchronous handler (some job) := by
  unfold executeInline
  split
  · exact Or.inl ⟨rfl, rfl⟩
  split
  · rename_i asynchronous
    split
    · exact Or.inl ⟨rfl, state.books_protocolError _ _ _ _⟩
    · rename_i free
      exact Or.inr ⟨rfl, asynchronous, free, rfl⟩
  · split
    · exact Or.inl ⟨rfl, books_protocolError _ _ _ _ _⟩
    · exact Or.inl ⟨rfl, books_respond _ _ _⟩

theorem booked_executeReserved (handler : catalog.Handler) (job : Job catalog.streams.linkCount)
    (answer : Option Answer) (label : ApplicationLabel catalog) :
    Booked state.books label (state.executeReserved handler job answer).books := by
  have reservation := state.books_reserve job.link job.envelope
  unfold executeReserved
  dsimp only
  generalize state.onLink job.link (fun link =>
    (link.reserveResponse job.envelope.requestId job.envelope.target).1) = reserved at reservation ⊢
  split
  · exact (Booked.quiet label).of_eq ((books_protocolError _ _ _ _ _).trans reservation)
  split
  · rename_i mode
    rcases reserved.books_executeInline handler job answer with same | ⟨_, asynchronous, _⟩
    · exact (Booked.quiet label).of_eq (same.2.trans reservation)
    · rw [mode.2] at asynchronous
      exact nomatch asynchronous
  split
  · exact (Booked.quiet label).of_eq ((books_reject _ _ _ _).trans reservation)
  rename_i room
  have room : state.books.activeRequests.toNat < catalog.limits.maxRequests :=
    Nat.lt_of_not_ge room
  have counted : ({ reserved with activeRequests := reserved.activeRequests + 1 } :
      Application catalog).books = state.books.enlist := by
    rw [← reservation]
    rfl
  have cells : reserved.asynchronous = state.asynchronous :=
    congrArg Books.asynchronous reservation
  split
  · rcases books_executeInline { reserved with activeRequests := reserved.activeRequests + 1 }
      handler job answer with ⟨refused, same⟩ | ⟨kept, _, free, same⟩
    · rw [refused, if_neg nofun, books_retire, same, counted, Books.retire_enlist]
      exact .quiet label
    · rw [kept, if_pos rfl, same, counted]
      exact .entrusted label handler job room ((congrFun cells handler).symm.trans free)
  split
  · rw [books_reject, books_retire, counted, Books.retire_enlist]
    exact .quiet label
  · rename_i free
    refine (Booked.stored label handler job room free).of_eq ?_
    rw [← counted]
    rfl

section

variable (link : catalog.Link)

/-- The frame's request is admitted: the books do not notice. -/
theorem books_admitRequestId (envelope : Envelope) :
    (state.admitRequestId link envelope).1.books = state.books := by
  have replayed : ∀ previous, (state.onLink link fun entry =>
      (entry.replayResponse previous).1).books = state.books :=
    fun previous => books_onLink rfl
  have enrolled : (state.enroll link envelope.requestId).books = state.books :=
    show (state.onLink link fun entry =>
      { entry with lastRequestId := envelope.requestId }).books = state.books from
    books_onLink rfl
  unfold admitRequestId
  dsimp only
  split
  · exact state.books_protocolError link _ _ _
  split
  · split
    · exact replayed _
    · exact (books_protocolError _ _ _ _ _).trans (replayed _)
    · exact (books_protocolError _ _ _ _ _).trans (replayed _)
  split
  · exact state.books_protocolError link _ _ _
  · exact enrolled

theorem booked_dispatchRequest (frame : Decoded) (outcomes : FrameOutcomes)
    (label : ApplicationLabel catalog) :
    Booked state.books label (state.dispatchRequest link frame outcomes).books := by
  rw [dispatchRequest_eq]
  split
  · exact (Booked.quiet label).of_eq (state.books_protocolError link _ _ _)
  · exact state.booked_executeReserved _ _ _ label

theorem booked_processRequest (frame : Decoded) (outcomes : FrameOutcomes)
    (label : ApplicationLabel catalog) :
    Booked state.books label (state.processRequest link frame outcomes).books := by
  have same := state.books_admitRequestId link frame.envelope
  unfold processRequest
  split
  · rename_i refused result
    rw [result] at same
    exact (Booked.quiet label).of_eq same
  · rename_i admitted result
    rw [result] at same
    rw [← same]
    exact admitted.booked_dispatchRequest link frame outcomes label

theorem booked_processSubscription (frame : Decoded) (enable : Bool) (outcomes : FrameOutcomes)
    (label : ApplicationLabel catalog) :
    Booked state.books label (state.processSubscription link frame enable outcomes).books := by
  have same := state.books_admitRequestId link frame.envelope
  unfold processSubscription
  dsimp only
  split
  · exact (Booked.quiet label).of_eq (state.books_protocolError link _ _ _)
  split
  · rename_i refused result
    rw [result] at same
    exact (Booked.quiet label).of_eq same
  rename_i admitted result
  rw [result] at same
  have reservation := (admitted.books_reserve link frame.envelope).trans same
  generalize admitted.onLink link (fun entry =>
    (entry.reserveResponse frame.envelope.requestId frame.envelope.target).1) = reserved
    at reservation ⊢
  split
  · exact (Booked.quiet label).of_eq ((books_protocolError _ _ _ _ _).trans reservation)
  split
  · exact (Booked.quiet label).of_eq
      ((reserved.books_processInStreamSubscription link frame enable _).trans reservation)
  · rw [← reservation]
    exact reserved.booked_processOutSubscription link frame enable label

end

/-! ### Frames -/

section

variable (link : catalog.Link)

theorem booked_processCancel (envelope : Envelope) (label : ApplicationLabel catalog) :
    Booked state.books label (state.processCancel link envelope).books := by
  unfold processCancel cancelPendingRequest
  split
  · rename_i cancelled result
    rw [books_reject]
    split at result
    · exact nomatch result
    rename_i handler found
    split at result
    · rename_i waiting
      obtain ⟨rfl, _⟩ := Prod.mk.inj result
      obtain ⟨job, held, _⟩ := (any_eq_true _ _).mp waiting
      exact .withdrawn label handler job held
    · rename_i elsewhere
      obtain ⟨rfl, _⟩ := Prod.mk.inj result
      have holds := find?_some found
      rw [handlerHolds, Bool.or_eq_true, Bool.and_eq_true] at holds
      obtain ⟨job, held, _⟩ := (any_eq_true _ _).mp (holds.resolve_left elsewhere).2
      exact .recalled label handler job held
  · exact (Booked.quiet label).of_eq (state.books_protocolError link _ _ _)

theorem booked_executeInStreamFrame (index : catalog.DataIndex) (frame : Decoded)
    (outcomes : FrameOutcomes) (label : ApplicationLabel catalog) :
    Booked state.books label (state.executeInStreamFrame link index frame outcomes).books := by
  unfold executeInStreamFrame
  dsimp only
  split
  · exact (Booked.quiet label).of_eq (state.books_protocolError link _ _ _)
  split
  · exact (Booked.quiet label).of_eq
      ((books_protocolError _ _ _ _ _).trans (state.books_releaseResponse link _))
  split
  · exact (Booked.quiet label).of_eq (state.books_protocolError link _ _ _)
  split
  · refine (Booked.quiet label).of_eq ((books_protocolError _ _ _ _ _).trans ?_)
    split
    · exact streamless_books.restoreInStreamCredit _ _ _ _ _
    · rfl
  · split
    · exact (Booked.quiet label).of_eq (streamless_books.runPendingInStream _ _ _)
    · exact .offered label _ link frame.envelope _

theorem booked_processData (frame : Decoded) (outcomes : FrameOutcomes)
    (label : ApplicationLabel catalog) :
    Booked state.books label (state.processData link frame outcomes).books := by
  unfold processData
  dsimp only
  split
  · exact (Booked.quiet label).of_eq (state.books_protocolError link _ _ _)
  split
  · exact state.booked_executeInStreamFrame link _ frame outcomes label
  · exact (Booked.quiet label).of_eq (state.books_protocolError link _ _ _)

theorem booked_processFrame (frame : Decoded) (outcomes : FrameOutcomes)
    (label : ApplicationLabel catalog) :
    Booked state.books label (state.processFrame link frame outcomes).books := by
  unfold processFrame
  dsimp only
  split
  · exact (Booked.quiet label).of_eq (books_onLink rfl)
  · exact state.booked_processCancel link _ label
  · exact state.booked_processSubscription link frame true outcomes label
  · exact state.booked_processSubscription link frame false outcomes label
  · exact state.booked_processData link frame outcomes label
  · split
    · exact (Booked.quiet label).of_eq (state.books_protocolError link _ _ _)
    · exact state.booked_processRequest link frame outcomes label
  · exact (Booked.quiet label).of_eq (state.books_protocolError link _ _ _)

theorem booked_handleFrame (frame : Decoded) (outcomes : FrameOutcomes)
    (label : ApplicationLabel catalog) :
    Booked state.books label (state.handleFrame link frame outcomes).books := by
  have quiet : Booked state.books label state.books := .quiet label
  have greeted : (state.onLink link (LinkState.clientHello · frame.payload)).books =
      state.books := by
    refine books_onLink ?_
    unfold LinkState.clientHello
    split
    · rfl
    · rfl
  have forwarded : ∀ slot, Booked state.books label
      (state.onLink link (LinkState.transmit · slot)).books :=
    fun slot => quiet.of_eq (state.books_transmit link slot)
  have renewed : ((state.resetSession link .reset).renewSession link LinkState.sessionReset).books =
      state.books.reset link :=
    (books_renewSession rfl).trans (state.books_resetSession link _)
  unfold handleFrame
  dsimp only
  split
  · exact quiet.of_eq greeted
  · split
    · exact forwarded _
    · exact quiet
  · split
    · split
      · exact forwarded _
      · exact quiet
    · exact quiet
  · split
    · split
      · exact forwarded _
      · exact quiet
    · exact quiet
  · exact (Booked.reset label link).of_eq renewed
  all_goals first
    | exact quiet
    | split
      · exact state.booked_processFrame link frame outcomes label
      · exact quiet

end

/-! ### Output -/

theorem mute_subscribing : LinkState.Mute (@LinkState.subscribing limits) := fun _ _ _ => rfl

/-! ### Workers and responders -/

theorem booked_settleSubmission (accepted : Bool) :
    Booked state.books (.submitted accepted) (state.settleSubmission accepted).books := by
  unfold settleSubmission
  split
  · exact .quiet _
  rename_i submission asked
  cases accepted with
  | true => exact .settled true
  | false =>
    rw [if_neg nofun]
    split
    · rename_i handler job
      rw [books_reject]
      exact .refused handler job asked
    · rw [books_protocolError, streamless_books.returnInStreamCredit]
      exact .settled false

section

variable {state : Application catalog}

theorem booked_takeRequest (stepped : state.takeRequest handler = some next) :
    Booked state.books (.take handler) next.books := by
  unfold takeRequest at stepped
  split at stepped
  · rename_i job idle waits
    cases stepped
    exact .taken handler job idle waits
  · exact nomatch stepped

theorem booked_beginRequest (stepped : state.beginRequest handler = some next) :
    Booked state.books (.begin handler) next.books := by
  unfold beginRequest at stepped
  split at stepped
  · rename_i job taken
    have held : (state.books.worker handler).job? = some job := congrArg RequestWorker.job? taken
    split at stepped
    · cases stepped
      exact .dropped _ handler job held
    split at stepped
    · split at stepped
      · cases stepped
        rw [books_dropRequest, books_protocolError]
        exact .dropped _ handler job held
      · rename_i free
        cases stepped
        exact .retained _ handler job held free
    · cases stepped
      exact .advanced _ handler (.running job) held.symm
  · exact nomatch stepped

theorem booked_finishRequest {answer : Option Answer}
    (stepped : state.finishRequest handler answer = some next) :
    Booked state.books (.finish handler answer) next.books := by
  unfold finishRequest at stepped
  split at stepped
  · rename_i job running
    have held : (state.books.worker handler).job? = some job :=
      congrArg RequestWorker.job? running
    split at stepped
    · cases stepped
      exact .dropped _ handler job held
    split at stepped
    · cases stepped
      rw [books_dropRequest, books_protocolError]
      exact .dropped _ handler job held
    · rename_i answer
      cases stepped
      exact .advanced _ handler (.answering job answer) held.symm
  · exact nomatch stepped

theorem booked_answerRequest (stepped : state.answerRequest handler = some next) :
    Booked state.books (.answer handler) next.books := by
  unfold answerRequest at stepped
  split at stepped
  · rename_i job answer answering
    cases stepped
    rw [books_dropRequest, books_respond]
    exact .dropped _ handler job (congrArg RequestWorker.job? answering)
  · exact nomatch stepped

theorem booked_completeRequest {thread : Nat} {token : ResponderToken catalog.streams.linkCount}
    {answer : Option Answer}
    (stepped : state.completeRequest thread handler token answer = some next) :
    Booked state.books (.complete thread handler token answer) next.books := by
  unfold completeRequest at stepped
  split at stepped
  · exact nomatch stepped
  rename_i free
  split at stepped
  · cases stepped
    exact .quiet _
  rename_i job claimed
  have held := asynchronous_of_claim? claimed
  split at stepped
  · cases stepped
    exact .recalled _ handler job held
  split at stepped
  · cases stepped
    rw [books_retire, books_protocolError]
    exact .recalled _ handler job held
  · rename_i answer
    cases stepped
    exact .claimed _ thread handler job answer held free

theorem booked_answerCompletion {thread : Nat}
    (stepped : state.answerCompletion thread = some next) :
    Booked state.books (.answerCompletion thread) next.books := by
  unfold answerCompletion at stepped
  split at stepped
  · rename_i job answer held
    cases stepped
    rw [books_retire, books_setCompletion, books_respond]
    exact .completed _ thread (job, answer) held
  · exact nomatch stepped

end

theorem booked_abandonRequest (handler : catalog.Handler)
    (token : ResponderToken catalog.streams.linkCount) :
    Booked state.books (.abandon handler token) (state.abandonRequest handler token).books := by
  unfold abandonRequest
  split
  · exact .quiet _
  · rename_i job claimed
    rw [books_retire, books_protocolError]
    exact .recalled _ handler job (asynchronous_of_claim? claimed)

/-- Every step makes one entry. -/
theorem booked_step {state : Application catalog} {label : ApplicationLabel catalog}
    (stepped : state.step label = some next) : Booked state.books label next.books := by
  cases label with
  | frame link frame outcomes =>
    obtain ⟨_, ⟨⟩⟩ := ite_none_right_eq_some.mp stepped
    exact state.booked_handleFrame link frame outcomes _
  | submitted accepted =>
    obtain ⟨_, ⟨⟩⟩ := ite_none_right_eq_some.mp stepped
    exact state.booked_settleSubmission accepted
  | connected link =>
    obtain ⟨_, ⟨⟩⟩ := ite_none_right_eq_some.mp stepped
    rw [books_connect, books_resetSession]
    exact .connected link
  | disconnected link fault =>
    obtain ⟨_, ⟨⟩⟩ := ite_none_right_eq_some.mp stepped
    exact (Booked.reset _ link).of_eq
      ((books_renewSession rfl).trans (state.books_resetSession link _))
  | stop =>
    obtain ⟨_, ⟨⟩⟩ := ite_none_right_eq_some.mp stepped
    exact Booked.stopped.of_eq state.books_resetSessions
  | output link encodes disposition =>
    cases stepped
    exact (Booked.quiet _).of_eq (books_onLink
      ((mute_subscribing.tryStartTransmit _ encodes disposition).trans
        (subscribing_stageResponse _)))
  | txComplete link handle =>
    cases stepped
    exact (Booked.quiet _).of_eq (books_onLink (mute_subscribing.txComplete _ handle))
  | take handler => exact booked_takeRequest stepped
  | begin handler => exact booked_beginRequest stepped
  | finish handler answer => exact booked_finishRequest stepped
  | answer handler => exact booked_answerRequest stepped
  | complete thread handler token answer => exact booked_completeRequest stepped
  | answerCompletion thread => exact booked_answerCompletion stepped
  | abandon handler token =>
    cases stepped
    exact state.booked_abandonRequest handler token
  | inStreamWork endpoint consumed =>
    cases stepped
    exact (Booked.quiet _).of_eq (streamless_books.runPendingInStream state endpoint consumed)

end Application

end Solar.Remote
