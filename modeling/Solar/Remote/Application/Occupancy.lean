/-
This file proves that the count of active requests is the number of requests that
wait in a pending cell, are with a worker, or are kept by a responder. Every
entry of the books that moves a request keeps the count, and every other one
changes the two together, with one exception: a refused submission takes one
request off the count whether or not the pending cell still holds it. If a worker
has taken the request by then, the request is taken off twice.
-/

import Solar.Library.Tally
import Solar.Remote.Application.Accounting
import Solar.Remote.Application.Entries

namespace Solar.Remote

open List Function Option

open Tally (Counts)

variable {Value : Type}

namespace RemoteCatalog

variable (catalog : RemoteCatalog Value)

theorem nodup_handlers : catalog.handlers.Nodup := by
  have once : ∀ {count : Nat} (wrap : Fin count → catalog.Handler), Injective wrap →
      ((finRange count).map wrap).Nodup :=
    fun wrap injective => Nodup.map injective (nodup_finRange _)
  rw [handlers, nodup_append', nodup_append']
  refine ⟨⟨once _ fun _ _ => Handler.action.inj, once _ fun _ _ => Handler.query.inj, ?_⟩,
    once _ fun _ _ => Handler.update.inj, ?_⟩
  · intro handler first second
    obtain ⟨_, _, rfl⟩ := mem_map.mp first
    obtain ⟨_, _, same⟩ := mem_map.mp second
    exact nomatch same
  · intro handler first second
    obtain ⟨_, _, rfl⟩ := mem_map.mp second
    rcases mem_append.mp first with action | query
    · obtain ⟨_, _, same⟩ := mem_map.mp action
      exact nomatch same
    · obtain ⟨_, _, same⟩ := mem_map.mp query
      exact nomatch same

end RemoteCatalog

variable {catalog : RemoteCatalog Value}

namespace Books

variable {books : Books catalog} {handler : catalog.Handler} {job : Job catalog.streams.linkCount}

/-- Whether a request is in a place. -/
def occupied (books : Books catalog) : Place catalog → Bool
  | .pending handler => (books.pending handler).isSome
  | .asynchronous handler => (books.asynchronous handler).isSome
  | .worker handler => (books.worker handler).job?.isSome
  | .completion thread => (books.completion thread).isSome

/-- The count of active requests is right and within its limit. -/
structure Occupied (books : Books catalog) : Prop where
  counts : Counts books.activeRequests {place | books.occupied place = true}
  bound : books.activeRequests.toNat ≤ catalog.limits.maxRequests

section

variable (books) (handler) (cell : Option (Job catalog.streams.linkCount))

open Classical in
theorem occupied_setPending :
    (books.setPending handler cell).occupied =
      update books.occupied (.pending handler) cell.isSome := by
  funext place
  cases place <;> simp [occupied, setPending, update_apply]
  split_ifs <;> rfl

open Classical in
theorem occupied_setAsynchronous :
    (books.setAsynchronous handler cell).occupied =
      update books.occupied (.asynchronous handler) cell.isSome := by
  funext place
  cases place <;> simp [occupied, setAsynchronous, update_apply]
  split_ifs <;> rfl

open Classical in
theorem occupied_setWorker (phase : RequestWorker catalog.streams.linkCount) :
    (books.setWorker handler phase).occupied =
      update books.occupied (.worker handler) phase.job?.isSome := by
  funext place
  cases place <;> simp [occupied, setWorker, update_apply]
  split_ifs <;> rfl

open Classical in
theorem occupied_setCompletion (thread : Nat)
    (completion : Option (Job catalog.streams.linkCount × Answer)) :
    (books.setCompletion thread completion).occupied =
      update books.occupied (.completion thread) completion.isSome := by
  funext place
  cases place <;> simp [occupied, setCompletion, update_apply]
  split_ifs <;> rfl

end

/-! ### Resets -/

/-- A cell holds a request of a link. -/
def heldBy (books : Books catalog) (link : catalog.Link) : Place catalog → Bool
  | .pending handler => Application.holdsLink link (books.pending handler)
  | .asynchronous handler => Application.holdsLink link (books.asynchronous handler)
  | .worker _ => false
  | .completion _ => false

theorem ncard_heldBy (books : Books catalog) (link : catalog.Link) :
    {place | books.heldBy link place = true}.ncard =
      catalog.handlers.countP (fun handler => Application.holdsLink link (books.pending handler)) +
        catalog.handlers.countP fun handler =>
          Application.holdsLink link (books.asynchronous handler) := by
  have split : {place | books.heldBy link place = true} =
      Place.pending '' {handler | Application.holdsLink link (books.pending handler) = true} ∪
      Place.asynchronous ''
        {handler | Application.holdsLink link (books.asynchronous handler) = true} := by
    ext place
    cases place <;> simp [heldBy]
  have finite : ∀ holds : catalog.Handler → Bool, {handler | holds handler = true}.Finite :=
    fun holds => (finite_toSet catalog.handlers).subset
      fun handler _ => RemoteCatalog.Handler.mem_handlers handler
  have apart : Disjoint
      (Place.pending '' {handler | Application.holdsLink link (books.pending handler) = true})
      (Place.asynchronous ''
        {handler | Application.holdsLink link (books.asynchronous handler) = true}) := by
    rw [Set.disjoint_left]
    rintro place ⟨first, _, rfl⟩ ⟨second, _, same⟩
    exact nomatch same
  rw [split, Set.ncard_union_eq apart ((finite _).image _) ((finite _).image _),
    Set.ncard_image_of_injective _ fun _ _ => Place.pending.inj,
    Set.ncard_image_of_injective _ fun _ _ => Place.asynchronous.inj,
    Tally.ncard_of_enumeration catalog.nodup_handlers RemoteCatalog.Handler.mem_handlers,
    Tally.ncard_of_enumeration catalog.nodup_handlers RemoteCatalog.Handler.mem_handlers]

theorem isSome_of_holdsLink {link : catalog.Link} {cell : Option (Job catalog.streams.linkCount)}
    (holds : Application.holdsLink link cell = true) : cell.isSome = true := by
  obtain ⟨job, held, _⟩ := (any_eq_true _ _).mp holds
  rw [held]
  rfl

section

variable (occupied : books.Occupied)

include occupied

/-- The requests of a link leave their cells, and the count goes down by as many. -/
theorem Occupied.cancel (link : catalog.Link) : (books.cancel link).Occupied := by
  have inside : {place | books.heldBy link place = true} ⊆
      {place | books.occupied place = true} := by
    intro place held
    cases place with
    | worker | completion => exact nomatch held
    | _ => exact isSome_of_holdsLink held
  have left : {place | (books.cancel link).occupied place = true} =
      {place | books.occupied place = true} \ {place | books.heldBy link place = true} := by
    ext place
    cases place with
    | pending handler =>
      cases holds : Application.holdsLink link (books.pending handler) with
      | _ => simp [Books.occupied, Books.cancel, heldBy, holds]
    | asynchronous handler =>
      cases holds : Application.holdsLink link (books.asynchronous handler) with
      | _ => simp [Books.occupied, Books.cancel, heldBy, holds]
    | _ => simp [Books.occupied, Books.cancel, heldBy]
  have counts := (occupied.counts.dismiss _ inside).congr left
  rw [ncard_heldBy] at counts
  refine ⟨counts, ?_⟩
  refine Nat.le_trans ?_ occupied.bound
  rw [occupied.counts.exact]
  refine Nat.le_trans counts.exact.le ?_
  rw [left]
  exact Set.ncard_le_ncard Set.sdiff_subset occupied.counts.finite

omit occupied in
theorem occupied_clear (books : Books catalog) (link : catalog.Link) (slots : List Nat) :
    (books.clear link slots).occupied = books.occupied ∧
      (books.clear link slots).activeRequests = books.activeRequests := by
  induction slots generalizing books with
  | nil => exact ⟨rfl, rfl⟩
  | cons slot rest ih => exact ih (books.setSubscription link slot false)

variable {next : Books catalog}

theorem Occupied.congr (cells : next.occupied = books.occupied)
    (count : next.activeRequests = books.activeRequests) : next.Occupied := by
  constructor
  · rw [cells, count]
    exact occupied.counts
  · rw [count]
    exact occupied.bound

theorem Occupied.reset (link : catalog.Link) : (books.reset link).Occupied :=
  (occupied.cancel link).congr (occupied_clear _ link _).1 (occupied_clear _ link _).2

theorem Occupied.resets (links : List catalog.Link) : (links.foldl Books.reset books).Occupied := by
  induction links generalizing books with
  | nil => exact occupied
  | cons link rest ih => exact ih (occupied.reset link)

/-! ### Entries -/

open Classical in
theorem Occupied.leave (place : Place catalog) (here : books.occupied place = true)
    (cells : next.occupied = update books.occupied place false)
    (count : next.activeRequests = books.activeRequests - 1) : next.Occupied := by
  have counts := occupied.counts.turnOff here
  rw [← cells, ← count] at counts
  refine ⟨counts, ?_⟩
  have positive : 0 < books.activeRequests.toNat :=
    occupied.counts.pos (show place ∈ {place | books.occupied place = true} from here)
  have less := Tally.toNat_sub_one positive
  have bound := occupied.bound
  rw [count, less]
  omega

open Classical in
theorem Occupied.enter (place : Place catalog) (configured : catalog.Configured)
    (free : books.occupied place = false)
    (room : books.activeRequests.toNat < catalog.limits.maxRequests)
    (cells : next.occupied = update books.occupied place true)
    (count : next.activeRequests = books.activeRequests + 1) : next.Occupied := by
  have limit := configured.requests
  have small : books.activeRequests.toNat + 1 < 2 ^ 32 := by omega
  have counts := occupied.counts.turnOn free small
  rw [← cells, ← count] at counts
  refine ⟨counts, ?_⟩
  rw [count, Tally.toNat_add_one small]
  exact room

open Classical in
theorem Occupied.move (place other : Place catalog)
    (here : books.occupied place = true) (free : books.occupied other = false)
    (cells : next.occupied =
      update (update books.occupied place false) other true)
    (count : next.activeRequests = books.activeRequests) : next.Occupied := by
  have counts := occupied.counts.hand here free
  rw [← cells, ← count] at counts
  exact ⟨counts, count ▸ occupied.bound⟩

omit occupied in
/-- A refused submission finds the request it takes back. -/
def FindsRequest (books : Books catalog) : ApplicationLabel catalog → Prop
  | .submitted false =>
      ∀ handler job, books.submission = some (.request handler job) →
        (books.pending handler).isSome = true
  | _ => True

theorem Occupied.booked {label : ApplicationLabel catalog} (configured : catalog.Configured)
    (finds : books.FindsRequest label) (entry : Booked books label next) : next.Occupied := by
  classical
  have here : ∀ {cell : Option (Job catalog.streams.linkCount)} {job}, cell = some job →
      cell.isSome = true := fun held => held ▸ rfl
  have free : ∀ {cell : Option (Job catalog.streams.linkCount)}, cell = none →
      cell.isSome = false := fun empty => empty ▸ rfl
  cases entry with
  | quiet => exact occupied
  | entrusted _ handler job room empty =>
    exact occupied.enter (.asynchronous handler) configured (free empty) room
      (occupied_setAsynchronous books.enlist handler (some job)) rfl
  | stored _ handler job room empty =>
    exact occupied.enter (.pending handler) configured (free empty) room
      (occupied_setPending books.enlist handler (some job)) rfl
  | withdrawn _ handler job held =>
    exact occupied.leave (.pending handler) (here held) (occupied_setPending books handler none) rfl
  | recalled _ handler job held =>
    exact occupied.leave (.asynchronous handler) (here held)
      (occupied_setAsynchronous books handler none) rfl
  | reset _ link => exact occupied.reset link
  | connected link => exact (occupied.reset link).congr rfl rfl
  | stopped => exact occupied.resets _
  | refused handler job asked =>
    exact occupied.leave (.pending handler) (finds handler job asked)
      (occupied_setPending books handler none) rfl
  | taken handler job idle waits =>
    refine occupied.move (.pending handler) (.worker handler) (here waits)
      (free (congrArg RequestWorker.job? idle)) ?_ rfl
    rw [occupied_setWorker, occupied_setPending]
    rfl
  | dropped _ handler job held =>
    exact occupied.leave (.worker handler) (here held) (occupied_setWorker books handler .idle) rfl
  | retained _ handler job held empty =>
    refine occupied.move (.worker handler) (.asynchronous handler) (here held) (free empty) ?_ rfl
    have apart : (Place.worker handler : Place catalog) ≠ .asynchronous handler := nofun
    rw [occupied_setWorker, occupied_setAsynchronous, update_comm apart]
    rfl
  | advanced _ handler phase same =>
    refine occupied.congr ?_ rfl
    rw [occupied_setWorker, same]
    exact update_eq_self _ _
  | claimed _ thread handler job answer held empty =>
    refine occupied.move (.asynchronous handler) (.completion thread)
      (here held) (congrArg isSome empty) ?_ rfl
    rw [occupied_setCompletion, occupied_setAsynchronous]
    rfl
  | completed _ thread completion held =>
    exact occupied.leave (.completion thread) (congrArg isSome held)
      (occupied_setCompletion books thread none) rfl
  | _ => exact occupied.congr rfl rfl

end

end Books

namespace Application

variable {state : Application catalog}

/-- A refused submission finds the request it takes back: no worker has taken it yet. -/
def findsRequest (state : Application catalog) : ApplicationLabel catalog → Bool
  | .submitted false =>
      match state.submission with
      | some (.request handler _) => (state.pending handler).isSome
      | _ => true
  | _ => true

theorem findsRequest_books {label : ApplicationLabel catalog}
    (finds : state.findsRequest label = true) : state.books.FindsRequest label := by
  cases label with
  | submitted accepted =>
    cases accepted with
    | true => trivial
    | false =>
      intro handler job asked
      rw [findsRequest, show state.submission = some (.request handler job) from asked] at finds
      exact finds
  | _ => trivial

theorem occupied_of_books (state : Application catalog) :
    {place | state.books.occupied place = true} =
      {place | (state.requests.jobAt place).isSome = true} := by
  ext place
  cases place with
  | completion thread =>
    have same : (state.requests.jobAt (.completion thread)).isSome =
        (state.completion thread).isSome := isSome_map
    exact iff_of_eq (congrArg (· = true) same.symm)
  | _ => rfl

/-- In a run whose refused submissions all find their requests, the count of active requests is the
number of requests in the cells, with the workers and with the responders, and stays within its
limit. -/
theorem active_requests_accounted (configured : catalog.Configured)
    (reached : (applicationMachine catalog).ReachableWhere
      (fun state label => state.findsRequest label = true) {} state) :
    state.activeRequests.toNat = {place | (state.requests.jobAt place).isSome = true}.ncard ∧
      state.activeRequests.toNat ≤ catalog.limits.maxRequests := by
  have occupied : state.books.Occupied := by
    refine reached.invariant (fun state => state.books.Occupied) ⟨?_, Nat.zero_le _⟩ ?_
    · refine Counts.empty.congr ?_
      ext place
      cases place <;> simp [Books.occupied, Application.books, RequestWorker.job?]
    · intro state label next occupied finds stepped
      exact occupied.booked configured (findsRequest_books finds) (booked_step stepped)
  rw [← state.occupied_of_books]
  exact ⟨occupied.counts.exact, occupied.bound⟩

/-- One request answered and a second one waiting for its worker. -/
theorem active_requests_accounted_desk :
    ∃ state : Application deskCatalog, state.activeRequests = 1 ∧ state.activeRequests.toNat =
        {place | (state.requests.jobAt place).isSome = true}.ncard :=
  have reached := (applicationMachine deskCatalog).reachableWhere_get
    (fun state label => state.findsRequest label = true) {}
    (Desk.greets ++ Desk.requests 1 ++ Desk.serves { payload := [9] } ++ Desk.requests 2)
    (by decide) (by decide)
  ⟨_, by decide, (active_requests_accounted ⟨by decide, by decide, by decide⟩ reached).1⟩

/-- The first request is cancelled, and the run of the worker that was submitted for it takes the
second one before its submission is refused: the second request is taken off the count twice, and
the count is the largest word. -/
theorem active_requests_wrap :
    ∃ state : Application deskCatalog, (applicationMachine deskCatalog).Reachable {} state ∧
      ¬ state.activeRequests.toNat ≤ deskCatalog.limits.maxRequests :=
  ⟨_, (applicationMachine deskCatalog).reachable_get {}
    (Desk.greets ++ Desk.requests 1 ++ [.frame Desk.link (Desk.frame .cancel 1 0 1) {},
      .frame Desk.link (Desk.frame .request 2 0 1) {}, .take Desk.action, .submitted false,
      .begin Desk.action, .finish Desk.action (some { payload := [9] }), .answer Desk.action])
    (by decide), by decide⟩

end Application

end Solar.Remote
