/-
This file separates what the application layer counts from everything else it
keeps. The `Books` of a state are the subscriptions of the links with their two
counters, the cells a request can be in, and the count of active requests.

Output, responses, inbound streams and request ids do not reach the books: every
function about them leaves the books as they were.
-/

import Solar.Remote.Application.Interleaving

namespace Solar.Remote

open Function

/-- What a link keeps about subscriptions. -/
def LinkState.subscribing {limits : ServiceLimits} (link : LinkState limits) :
    (Nat → SubscriptionSlot) × UInt32 :=
  (link.subscriptions, link.subscriptionCount)

/-- What the application layer counts. -/
structure Books {Value : Type} (catalog : RemoteCatalog Value) where
  subscribed : catalog.Link → Nat → Bool
  subscriptionCount : catalog.Link → UInt32
  interested : Nat → UInt32
  activeRequests : UInt32
  pending : catalog.Handler → Option (Job catalog.streams.linkCount)
  asynchronous : catalog.Handler → Option (Job catalog.streams.linkCount)
  worker : catalog.Handler → RequestWorker catalog.streams.linkCount
  completion : Nat → Option (Job catalog.streams.linkCount × Answer)
  submission : Option (Submission catalog)

namespace Books

variable {Value : Type} {catalog : RemoteCatalog Value}

section

variable (books : Books catalog)

/-- A subscription slot is set or cleared, and its counters follow. -/
def setSubscription (link : catalog.Link) (slot : Nat) (enable : Bool) : Books catalog :=
  let changed : Bool := books.subscribed link slot ≠ enable
  { books with
    subscribed := update books.subscribed link
      (update (books.subscribed link) slot enable)
    subscriptionCount := update books.subscriptionCount link
      (LinkState.countSubscription changed enable (books.subscriptionCount link))
    interested := if catalog.countsInterest slot then
        update books.interested slot
          (LinkState.countSubscription changed enable (books.interested slot))
      else books.interested }

/-- The Connected event wipes the subscription table of a link. -/
def wipe (link : catalog.Link) : Books catalog :=
  { books with
    subscribed := update books.subscribed link fun _ => false
    subscriptionCount := update books.subscriptionCount link 0 }

section

variable (handler : catalog.Handler)

section

variable (job : Option (Job catalog.streams.linkCount))

def setPending : Books catalog :=
  { books with pending := update books.pending handler job }

def setAsynchronous : Books catalog :=
  { books with asynchronous := update books.asynchronous handler job }

end

def setWorker (phase : RequestWorker catalog.streams.linkCount) : Books catalog :=
  { books with worker := update books.worker handler phase }

end

def setCompletion (thread : Nat) (completion : Option (Job catalog.streams.linkCount × Answer)) :
    Books catalog :=
  { books with completion := update books.completion thread completion }

def setSubmission (submission : Option (Submission catalog)) : Books catalog :=
  { books with submission }

/-- One more request is active. -/
def enlist : Books catalog :=
  { books with activeRequests := books.activeRequests + 1 }

/-- One request less is active. -/
def retire : Books catalog :=
  { books with activeRequests := books.activeRequests - 1 }

section

variable (link : catalog.Link)

/-- The cells that hold a request of a link are emptied. -/
def cancel : Books catalog :=
  { books with
    pending := fun handler =>
      if Application.holdsLink link (books.pending handler) then none else books.pending handler
    asynchronous := fun handler =>
      if Application.holdsLink link (books.asynchronous handler) then none
      else books.asynchronous handler
    activeRequests := books.activeRequests - UInt32.ofNat
      (catalog.handlers.countP (fun handler => Application.holdsLink link (books.pending handler)) +
        catalog.handlers.countP fun handler =>
          Application.holdsLink link (books.asynchronous handler)) }

/-- A list of subscription slots of a link is cleared. -/
def clear (slots : List Nat) : Books catalog :=
  slots.foldl (fun books slot => books.setSubscription link slot false) books

/-- The session of a link is reset. -/
def reset : Books catalog :=
  (books.cancel link).clear link catalog.subscribable

theorem subscribed_setSubscription_self (slot : Nat) (enable : Bool) :
    (books.setSubscription link slot enable).subscribed link =
      update (books.subscribed link) slot enable := by
  simp [setSubscription]

end

end

variable {link other : catalog.Link} {enable : Bool}

theorem subscribed_setSubscription_of_ne {books : Books catalog} {slot : Nat}
    (apart : other ≠ link) :
    (books.setSubscription link slot enable).subscribed other = books.subscribed other := by
  simp only [setSubscription, update_of_ne apart]

section

variable (books : Books catalog)

theorem subscriptionCount_setSubscription_self (link : catalog.Link) (slot : Nat) (enable : Bool) :
    (books.setSubscription link slot enable).subscriptionCount link =
      LinkState.countSubscription (books.subscribed link slot ≠ enable) enable
        (books.subscriptionCount link) := by
  simp [setSubscription]

variable {books : Books catalog}

theorem subscriptionCount_setSubscription_of_ne {slot : Nat} (apart : other ≠ link) :
    (books.setSubscription link slot enable).subscriptionCount other =
      books.subscriptionCount other := by
  simp only [setSubscription, update_of_ne apart]

theorem interested_setSubscription_self {slot : Nat} (counts : catalog.countsInterest slot = true) :
    (books.setSubscription link slot enable).interested slot =
      LinkState.countSubscription (books.subscribed link slot ≠ enable) enable
        (books.interested slot) := by
  simp [setSubscription, counts]

theorem interested_setSubscription_of_ne {slot position : Nat} (apart : position ≠ slot) :
    (books.setSubscription link slot enable).interested position = books.interested position := by
  simp only [setSubscription]
  split
  · exact update_of_ne apart _ _
  · rfl

theorem subscribed_wipe_self (link : catalog.Link) :
    (books.wipe link).subscribed link = fun _ => false := by
  simp [wipe]

theorem subscribed_wipe_of_ne (apart : other ≠ link) :
    (books.wipe link).subscribed other = books.subscribed other := by
  simp only [wipe, update_of_ne apart]

theorem subscriptionCount_wipe_self (link : catalog.Link) :
    (books.wipe link).subscriptionCount link = 0 := by
  simp [wipe]

theorem subscriptionCount_wipe_of_ne (apart : other ≠ link) :
    (books.wipe link).subscriptionCount other = books.subscriptionCount other := by
  simp only [wipe, update_of_ne apart]

theorem retire_enlist : books.enlist.retire = books := by
  have same : books.activeRequests + 1 - 1 = books.activeRequests := UInt32.add_sub_cancel _ _
  rw [retire, enlist]
  rw [same]

end

end Books

namespace Application

variable {Value : Type} {catalog : RemoteCatalog Value}

/-- The books of a state. -/
def books (state : Application catalog) : Books catalog where
  subscribed := fun link slot => ((state.links link).subscriptions slot).active
  subscriptionCount := fun link => (state.links link).subscriptionCount
  interested := state.interested
  activeRequests := state.activeRequests
  pending := state.pending
  asynchronous := state.asynchronous
  worker := state.worker
  completion := state.completion
  submission := state.submission

/-! ### What does not reach the books -/

/-- A change of a link that keeps its subscriptions keeps the books. -/
theorem books_onLink {state : Application catalog} {link : catalog.Link}
    {change : LinkState catalog.limits → LinkState catalog.limits}
    (same : (change (state.links link)).subscribing = (state.links link).subscribing) :
    (state.onLink link change).books = state.books := by
  have slots : ∀ other, ((state.onLink link change).links other).subscriptions =
      (state.links other).subscriptions ∧
      ((state.onLink link change).links other).subscriptionCount =
        (state.links other).subscriptionCount := by
    intro other
    by_cases here : other = link
    · subst here
      simp only [onLink, update_self]
      exact Prod.mk.inj same
    · simp [onLink, update_of_ne here]
  unfold books
  congr 1
  · funext other slot
    rw [(slots other).1]
  · funext other
    exact (slots other).2

variable (state : Application catalog)

section

variable (link)

@[simp] theorem books_transmit (slot : OutboundSlot) :
    (state.onLink link (LinkState.transmit · slot)).books = state.books :=
  books_onLink rfl

@[simp] theorem books_protocolError (request target : UInt32) (error : ErrorCode) :
    (state.protocolError link request target error).books = state.books :=
  books_onLink rfl

@[simp] theorem books_releaseResponse (request : UInt32) :
    (state.releaseResponse link request).books = state.books :=
  books_onLink rfl

variable (envelope : Envelope)

@[simp] theorem books_reject (error : ErrorCode) :
    (state.reject link envelope error).books = state.books := by
  rw [reject, books_protocolError, books_releaseResponse]

@[simp] theorem books_respond (job : Job catalog.streams.linkCount) (answer : Answer) :
    (state.respond job answer).books = state.books :=
  books_onLink rfl

@[simp] theorem books_respondTo (payload : Bytes) :
    (state.respondTo link envelope payload).1.books = state.books := by
  show (state.onLink link fun entry =>
    (entry.respond envelope.requestId envelope.target { payload }).1).books = _
  exact books_onLink rfl

@[simp] theorem books_reserve :
    (state.onLink link fun entry =>
      (entry.reserveResponse envelope.requestId envelope.target).1).books = state.books :=
  books_onLink rfl

@[simp] theorem books_retire :
    state.retire.books = state.books.retire := rfl

@[simp] theorem books_setCompletion (thread : Nat)
    (completion : Option (Job catalog.streams.linkCount × Answer)) :
    (state.setCompletion thread completion).books =
      state.books.setCompletion thread completion := rfl

@[simp] theorem books_dropRequest (handler : catalog.Handler) :
    (state.dropRequest handler).books = (state.books.setWorker handler .idle).retire := rfl

theorem subscribing_stageResponse {limits : ServiceLimits} (link : LinkState limits) :
    link.stageResponse.subscribing = link.subscribing := by
  unfold LinkState.stageResponse
  split
  · rfl
  · rfl

theorem books_stageResponse : (state.onLink link LinkState.stageResponse).books = state.books :=
  books_onLink (subscribing_stageResponse _)

end

/-! ### Inbound streams -/

theorem streamless_books : Streamless (@books Value catalog) where
  transmit state := state.books_transmit
  streams _ _ _ := rfl

section

variable (link) (endpoint : catalog.Endpoint) (frame : Decoded)

theorem books_openSubscription {opened : Bool} :
    (state.openSubscription link endpoint frame opened).books = state.books := by
  unfold openSubscription
  dsimp only
  split
  · exact state.books_reject link _ _
  rename_i request _
  have installed := streamless_books.openInStream state endpoint link request opened
  split
  · rename_i failed error result
    rw [result] at installed
    rw [books_reject]
    exact installed
  · rename_i next response result
    rw [result] at installed
    split
    · rw [books_reject, streamless_books.closeInStreamLink, books_respondTo]
      exact installed
    · rw [streamless_books.sendInStreamCredit, books_stageResponse, books_respondTo]
      exact installed

theorem books_closeSubscription :
    (state.closeSubscription link endpoint frame).books = state.books := by
  unfold closeSubscription
  dsimp only
  split
  · exact state.books_reject link _ _
  · split
    · exact state.books_reject link _ _
    · rw [books_respondTo, streamless_books.closeInStreamLink]

theorem books_processInStreamSubscription (enable opened : Bool) :
    (state.processInStreamSubscription link frame enable opened).books = state.books := by
  unfold processInStreamSubscription
  dsimp only
  split
  · exact state.books_reject link _ _
  · split
    · exact state.books_protocolError link _ _ _
    · split
      · exact state.books_openSubscription link _ frame
      · exact state.books_closeSubscription link _ frame

end

/-! ### Subscriptions -/

theorem books_setSubscription {slot : Nat} {countsInterest : Bool}
    (same : catalog.countsInterest slot = countsInterest) (state : Application catalog)
    (link : catalog.Link) (enable : Bool) (policy : SubscriptionPolicy) :
    (state.setSubscription link slot enable policy countsInterest).books =
      state.books.setSubscription link slot enable := by
  subst same
  unfold setSubscription books Books.setSubscription
  congr 1
  · funext other
    by_cases here : other = link
    · subst here
      funext position
      simp only [onLink, update_self, LinkState.setSubscription]
      by_cases same : position = slot
      · subst same
        rw [update_self, if_neg (fun different => different rfl)]
        cases enable with
        | true => rfl
        | false =>
          cases active : ((state.links other).subscriptions position).active with
          | true => simp only [LinkState.subscriptionChanges, active]; rfl
          | false => simp only [LinkState.subscriptionChanges, active]; exact active
      · rw [update_of_ne same, if_pos same]
    · simp only [onLink, update_of_ne here]
  · funext other
    by_cases here : other = link
    · subst here
      simp only [onLink, update_self]
      rfl
    · simp only [onLink, update_of_ne here]

end Application

end Solar.Remote
