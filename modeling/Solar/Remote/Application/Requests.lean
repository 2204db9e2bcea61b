/-
This file separates the requests from everything else the application layer
keeps. `Requests` is the part of the state a request lives in: the sessions, the
request high-water marks and the response tables of the links, the cells of the
handlers, their workers, the completions under way and the run's memory.

Output, inbound streams and subscriptions do not reach it: every function about
them leaves the requests as they were. What is left of each frame handler is a
change of one link's response table and of at most one cell.
-/

import Solar.Remote.Application.Interleaving

namespace Solar.Remote

open List Function

/-- What a link keeps about requests. -/
structure LinkRequests (limits : ServiceLimits) where
  session : SessionState
  epoch : UInt32
  grants : Permissions
  lastRequestId : UInt32
  responses : Responses limits.maxRequests

def LinkState.requests {limits : ServiceLimits} (link : LinkState limits) : LinkRequests limits :=
  ⟨link.session, link.epoch, link.grants, link.lastRequestId, link.responses⟩

/-- The requests of a system. -/
structure Requests {Value : Type} (catalog : RemoteCatalog Value) where
  links : catalog.Link → LinkRequests catalog.limits
  pending : catalog.Handler → Option (Job catalog.streams.linkCount)
  asynchronous : catalog.Handler → Option (Job catalog.streams.linkCount)
  worker : catalog.Handler → RequestWorker catalog.streams.linkCount
  completion : Nat → Option (Job catalog.streams.linkCount × Answer)
  sessions : catalog.Link → Nat
  dispatched : List (Dispatch catalog.streams.linkCount)
  invoked : List (Dispatch catalog.streams.linkCount)

namespace Requests

variable {Value : Type} {catalog : RemoteCatalog Value}

section

variable (requests : Requests catalog)

section

variable (link : catalog.Link)

def setLink (entry : LinkRequests catalog.limits) : Requests catalog :=
  { requests with links := update requests.links link entry }

/-- Replace the response table of a link. -/
def setResponses (responses : Responses catalog.limits.maxRequests) : Requests catalog :=
  requests.setLink link { requests.links link with responses }

def responses : Responses catalog.limits.maxRequests :=
  (requests.links link).responses

/-- A new request is admitted. -/
def enroll (request : UInt32) : Requests catalog :=
  { requests.setLink link { requests.links link with lastRequestId := request } with
    dispatched := requests.dispatched ++ [⟨link, requests.sessions link, request⟩] }

/-- The cached response of a request is to be staged again. -/
def replay (request : UInt32) : Requests catalog :=
  requests.setResponses link ((requests.responses link).replay request).1

def release (request : UInt32) : Requests catalog :=
  requests.setResponses link ((requests.responses link).release request)

section

variable (envelope : Envelope)

/-- Whether a response can be reserved for a request. -/
def reservable : Bool :=
  ((requests.responses link).reserve envelope.requestId envelope.target).2

def reserve : Requests catalog :=
  requests.setResponses link
    ((requests.responses link).reserve envelope.requestId envelope.target).1

/-- The first response that waits for it is staged. -/
def stage : Requests catalog :=
  requests.setResponses link (requests.responses link).stage

def respondTo (answer : Answer) : Requests catalog :=
  requests.setResponses link ((requests.responses link).respond catalog.limits.responseCacheBytes
    envelope.requestId envelope.target answer).1

end

end

def respond (job : Job catalog.streams.linkCount) (answer : Answer) : Requests catalog :=
  requests.respondTo job.link job.envelope answer

def invoke (job : Job catalog.streams.linkCount) : Requests catalog :=
  { requests with invoked := requests.invoked ++ [job.dispatch] }

section

variable (handler : catalog.Handler)

section

variable (job : Option (Job catalog.streams.linkCount))

def setPending : Requests catalog :=
  { requests with pending := update requests.pending handler job }

def setAsynchronous : Requests catalog :=
  { requests with asynchronous := update requests.asynchronous handler job }

end

def setWorker (phase : RequestWorker catalog.streams.linkCount) : Requests catalog :=
  { requests with worker := update requests.worker handler phase }

end

def setCompletion (thread : Nat) (completion : Option (Job catalog.streams.linkCount × Answer)) :
    Requests catalog :=
  { requests with completion := update requests.completion thread completion }

section

variable (link : catalog.Link)

/-- The cells of a link's requests are cleared. -/
def cancel : Requests catalog :=
  { requests with
    pending := fun handler =>
      if Application.holdsLink link (requests.pending handler) then none
      else requests.pending handler
    asynchronous := fun handler =>
      if Application.holdsLink link (requests.asynchronous handler) then none
      else requests.asynchronous handler }

/-- A link starts a new session. -/
def renew (entry : LinkRequests catalog.limits) : Requests catalog :=
  { requests.setLink link entry with
    sessions := update requests.sessions link (requests.sessions link + 1) }

def acknowledge (request : UInt32) : Requests catalog :=
  requests.setResponses link ((requests.responses link).acknowledge request)

end

/-- The session of a link is active under the epoch a request carries. -/
def isCurrent (job : Job catalog.streams.linkCount) : Bool :=
  (requests.links job.link).session = .active &&
    (requests.links job.link).epoch = job.envelope.sessionEpoch

end

section

variable (requests : Requests catalog) (link : catalog.Link)

theorem setLink_self : requests.setLink link (requests.links link) = requests := by
  rw [setLink, update_eq_self]

theorem setLink_setLink (first second : LinkRequests catalog.limits) :
    (requests.setLink link first).setLink link second = requests.setLink link second := by
  simp only [setLink, update_idem]

@[simp] theorem links_setLink_self (entry : LinkRequests catalog.limits) :
    (requests.setLink link entry).links link = entry := by
  simp [setLink]

theorem links_setLink_of_ne {requests : Requests catalog} {link other : catalog.Link}
    (entry : LinkRequests catalog.limits) (apart : other ≠ link) :
    (requests.setLink link entry).links other = requests.links other := by
  simp only [setLink, update_of_ne apart]

variable (table : Responses catalog.limits.maxRequests)

@[simp] theorem responses_setResponses_self :
    (requests.setResponses link table).responses link = table := by
  simp only [responses, setResponses, links_setLink_self]

theorem responses_setResponses_of_ne {requests : Requests catalog} {link other : catalog.Link}
    (apart : other ≠ link) :
    (requests.setResponses link table).responses other = requests.responses other := by
  simp only [responses, setResponses, links_setLink_of_ne _ apart]

@[simp] theorem setResponses_setResponses (first second : Responses catalog.limits.maxRequests) :
    (requests.setResponses link first).setResponses link second =
      requests.setResponses link second := by
  simp only [setResponses, setLink_setLink, links_setLink_self]

@[simp] theorem setResponses_responses :
    requests.setResponses link (requests.responses link) = requests :=
  requests.setLink_self link

end

end Requests

namespace Application

variable {Value : Type} {catalog : RemoteCatalog Value}

/-- The requests of a state. -/
def requests (state : Application catalog) : Requests catalog where
  links := fun link => (state.links link).requests
  pending := state.pending
  asynchronous := state.asynchronous
  worker := state.worker
  completion := state.completion
  sessions := state.sessions
  dispatched := state.dispatched
  invoked := state.invoked

/-! ### What does not reach the requests -/

variable (state : Application catalog) {limits : ServiceLimits}

section

variable (link : catalog.Link)

theorem requests_onLink (change : LinkState catalog.limits → LinkState catalog.limits) :
    (state.onLink link change).requests =
      state.requests.setLink link (change (state.links link)).requests := by
  have links : (fun other => (update state.links link (change (state.links link))
      other).requests) = update state.requests.links link (change (state.links link)).requests := by
    funext other
    by_cases same : other = link
    · subst same
      rw [update_self, update_self]
    · rw [update_of_ne same, update_of_ne same]
      rfl
  rw [Requests.setLink, ← links]
  rfl

variable {change : LinkState catalog.limits → LinkState catalog.limits}

theorem requests_onLink_of_same {state : Application catalog} {link : catalog.Link}
    (same : (change (state.links link)).requests = (state.links link).requests) :
    (state.onLink link change).requests = state.requests := by
  rw [requests_onLink, same]
  exact state.requests.setLink_self link

theorem requests_onLink_responses {state : Application catalog} {link : catalog.Link}
    {table : Responses catalog.limits.maxRequests}
    (changed : (change (state.links link)).requests =
      { (state.links link).requests with responses := table }) :
    (state.onLink link change).requests = state.requests.setResponses link table := by
  rw [requests_onLink, changed]
  rfl

@[simp] theorem requests_transmit (slot : OutboundSlot) :
    (state.onLink link (LinkState.transmit · slot)).requests = state.requests :=
  requests_onLink_of_same rfl

@[simp] theorem requests_protocolError (request target : UInt32) (error : ErrorCode) :
    (state.protocolError link request target error).requests = state.requests :=
  requests_onLink_of_same rfl

@[simp] theorem requests_retire :
    state.retire.requests = state.requests := rfl

@[simp] theorem requests_releaseResponse (request : UInt32) :
    (state.releaseResponse link request).requests =
      state.requests.setResponses link ((state.requests.responses link).release request) :=
  requests_onLink_responses rfl

@[simp] theorem requests_reject (envelope : Envelope) (error : ErrorCode) :
    (state.reject link envelope error).requests = state.requests.setResponses link
        ((state.requests.responses link).release envelope.requestId) := by
  rw [reject, requests_protocolError, requests_releaseResponse]

@[simp] theorem requests_acknowledgeResponse (request : UInt32) :
    (state.onLink link (LinkState.acknowledgeResponse · request)).requests =
      state.requests.acknowledge link request :=
  requests_onLink_responses rfl

end

/-! ### Inbound streams -/

theorem streamless_requests : Streamless (@requests Value catalog) where
  transmit state := state.requests_transmit
  streams _ _ _ := rfl

/-! ### Subscriptions -/

section

variable (link : catalog.Link)

@[simp] theorem requests_setSubscription {slot : Nat} {enable : Bool} {policy : SubscriptionPolicy}
    {countsInterest : Bool} :
    (state.setSubscription link slot enable policy countsInterest).requests = state.requests := by
  show (state.onLink link (LinkState.setSubscription · slot enable policy.minimumIntervalUs)).requests =
    state.requests
  exact requests_onLink_of_same rfl

@[simp] theorem requests_updateDataSubscription {index : catalog.DataIndex} {enable stream : Bool}
    {request : SubscriptionRequest} :
    (state.updateDataSubscription link index enable stream request).1.requests =
      state.requests := by
  cases stream
  all_goals
    simp only [updateDataSubscription, Bool.false_eq_true, if_false, if_true]
    split
    · rfl
    split
    · rfl
    · exact state.requests_setSubscription link

@[simp] theorem requests_updateTopicSubscription (index : catalog.TopicIndex) (enable : Bool)
    (request : SubscriptionRequest) :
    (state.updateTopicSubscription link index enable request).1.requests = state.requests := by
  unfold updateTopicSubscription
  dsimp only
  split
  · rfl
  · exact state.requests_setSubscription link

theorem requests_foldl {Index : Type} {change : Application catalog → Index → Application catalog}
    (kept : ∀ state index, (change state index).requests = state.requests) (indices : List Index)
    (state : Application catalog) :
    (indices.foldl change state).requests = state.requests := by
  induction indices generalizing state with
  | nil => rfl
  | cons index rest ih => rw [foldl_cons, ih, kept]

@[simp] theorem requests_resetSubscriptions :
    (state.resetSubscriptions link).requests = state.requests := by
  unfold resetSubscriptions
  rw [requests_foldl fun state index => state.requests_updateTopicSubscription link index _ _,
    requests_foldl fun state index => state.requests_updateDataSubscription link,
    requests_foldl fun state index => state.requests_updateDataSubscription link]

end

/-! ### Admission -/

variable (link : catalog.Link)

@[simp] theorem requests_enroll (request : UInt32) :
    (state.enroll link request).requests = state.requests.enroll link request := by
  let entry : Dispatch catalog.streams.linkCount := ⟨link, state.sessions link, request⟩
  exact congrArg (fun moved : Requests catalog =>
      ({ moved with dispatched := state.dispatched ++ [entry] } : Requests catalog))
    (state.requests_onLink link fun entry => { entry with lastRequestId := request })

theorem admitRequestId_of_lt {state : Application catalog} {link : catalog.Link}
    {envelope : Envelope} (fresh : (state.links link).lastRequestId < envelope.requestId) :
    state.admitRequestId link envelope = (state.enroll link envelope.requestId, true) := by
  have positive : envelope.requestId ≠ 0 := by
    rintro zero
    rw [zero] at fresh
    exact absurd fresh (UInt32.not_lt.mpr (UInt32.zero_le))
  have different : envelope.requestId ≠ (state.links link).lastRequestId := by
    rintro same
    rw [same] at fresh
    exact absurd fresh (UInt32.lt_irrefl _)
  have larger : ¬ envelope.requestId < (state.links link).lastRequestId :=
    UInt32.not_lt.mpr (UInt32.le_of_lt fresh)
  rw [admitRequestId]
  rw [if_neg positive, if_neg different, if_neg larger]

/-- A request that is not new is refused; the last one is replayed. -/
theorem requests_admitRequestId_of_not_lt {state : Application catalog} {link : catalog.Link}
    {envelope : Envelope} (old : ¬ (state.links link).lastRequestId < envelope.requestId) :
    (state.admitRequestId link envelope).2 = false ∧
      (state.admitRequestId link envelope).1.requests =
        if envelope.requestId ≠ 0 ∧ envelope.requestId = (state.links link).lastRequestId then
          state.requests.replay link envelope.requestId
        else state.requests := by
  rw [admitRequestId]
  by_cases zero : envelope.requestId = 0
  · rw [if_pos zero, if_neg (fun both => both.1 zero)]
    exact ⟨rfl, state.requests_protocolError link _ _ _⟩
  rw [if_neg zero]
  by_cases same : envelope.requestId = (state.links link).lastRequestId
  · rw [if_pos same, if_pos ⟨zero, same⟩]
    have replayed : (state.onLink link fun entry =>
        (entry.replayResponse (state.links link).lastRequestId).1).requests =
        state.requests.replay link envelope.requestId := by
      rw [same]
      exact requests_onLink_responses rfl
    split
    · exact ⟨rfl, replayed⟩
    · exact ⟨rfl, (requests_protocolError _ _ _ _ _).trans replayed⟩
    · exact ⟨rfl, (requests_protocolError _ _ _ _ _).trans replayed⟩
  · have smaller : envelope.requestId < (state.links link).lastRequestId :=
      UInt32.lt_of_le_of_ne (UInt32.not_lt.mp old) same
    rw [if_neg same, if_pos smaller, if_neg (fun both => same both.2)]
    exact ⟨rfl, state.requests_protocolError link _ _ _⟩

/-! ### Execution -/

@[simp] theorem requests_invoke (job : Job catalog.streams.linkCount) :
    (state.invoke job).requests = state.requests.invoke job := rfl

variable (handler : catalog.Handler) (job : Option (Job catalog.streams.linkCount))

@[simp] theorem requests_setPending :
    (state.setPending handler job).requests = state.requests.setPending handler job := rfl

@[simp] theorem requests_setAsynchronous :
    (state.setAsynchronous handler job).requests = state.requests.setAsynchronous handler job :=
  rfl

@[simp] theorem requests_setCompletion (thread : Nat)
    (completion : Option (Job catalog.streams.linkCount × Answer)) :
    (state.setCompletion thread completion).requests =
      state.requests.setCompletion thread completion := rfl

@[simp] theorem requests_dropRequest :
    (state.dropRequest handler).requests = state.requests.setWorker handler .idle := rfl

@[simp] theorem requests_respond (job : Job catalog.streams.linkCount) (answer : Answer) :
    (state.respond job answer).requests = state.requests.respond job answer :=
  requests_onLink_responses rfl

/-! ### Sessions -/

@[simp] theorem requests_resetSession (reason : InStreamCloseReason) :
    (state.resetSession link reason).requests = state.requests.cancel link := by
  unfold resetSession
  rw [requests_resetSubscriptions, streamless_requests.closeInStreamRows]
  rfl

theorem requests_renewSession (change : LinkState catalog.limits → LinkState catalog.limits) :
    (state.renewSession link change).requests =
      state.requests.renew link (change (state.links link)).requests := by
  exact congrArg (fun moved : Requests catalog => ({ moved with
      sessions := update state.sessions link (state.sessions link + 1) } : Requests catalog))
    (state.requests_onLink link change)

theorem requests_resetSessions :
    state.resetSessions.requests =
      (finRange catalog.streams.linkCount).foldl Requests.cancel state.requests := by
  unfold resetSessions
  generalize finRange catalog.streams.linkCount = links
  induction links generalizing state with
  | nil => rfl
  | cons link rest ih => rw [foldl_cons, foldl_cons, ih, requests_resetSession]

/-! ### Output -/

theorem mute_requests : LinkState.Mute (@LinkState.requests limits) := fun _ _ _ => rfl

end Application

end Solar.Remote
