/-
This file proves that the counters of the subscriptions are right in every
reachable state. One subscription is recorded three times: in its slot, in the
count of the link, and in the count of the endpoint. Every entry of the books
changes the three together, and the Connected event wipes a table that the reset
before it has already emptied.
-/

import Solar.Library.Tally
import Solar.Remote.Application.Entries

namespace Solar.Remote

open List Function

open Tally (Counts)

namespace Books

variable {Value : Type} {catalog : RemoteCatalog Value} {books : Books catalog}

/-- The counters are the numbers of active subscriptions, by endpoint and by link. -/
structure Subscribed (books : Books catalog) : Prop where
  interested : ∀ slot, catalog.countsInterest slot = true →
    Counts (books.interested slot) {link | books.subscribed link slot = true}
  counted : ∀ link, Counts (books.subscriptionCount link) {slot | books.subscribed link slot = true}
  inside : ∀ link slot, books.subscribed link slot = true → slot ∈ catalog.subscribable

/-! ### Room in the counters -/

section

variable (configured : catalog.Configured)

include configured

section

variable (subscribed : books.Subscribed)

include subscribed

theorem Subscribed.interested_lt {slot : Nat} (counts : catalog.countsInterest slot = true) :
    (books.interested slot).toNat + 1 < 2 ^ 32 := by
  have fewer := (subscribed.interested slot counts).toNat_le
  have bound := configured.links
  omega

theorem Subscribed.count_lt {link : catalog.Link} :
    (books.subscriptionCount link).toNat + 1 < 2 ^ 32 := by
  have within : {slot | books.subscribed link slot = true} ⊆ ↑catalog.subscribable.toFinset :=
    fun slot active => mem_toFinset.mpr (subscribed.inside link slot active)
  have fewer : {slot | books.subscribed link slot = true}.ncard ≤ catalog.slotCount := by
    refine (Set.ncard_le_ncard within (Finset.finite_toSet _)).trans ?_
    rw [Set.ncard_coe_finset]
    exact (toFinset_card_le _).trans catalog.length_subscribable_le
  have bound := configured.slots
  rw [(subscribed.counted link).exact]
  omega

/-! ### Entries -/

theorem Subscribed.setSubscription (link : catalog.Link) {slot : Nat}
    (inside : slot ∈ catalog.subscribable) (enable : Bool) :
    (books.setSubscription link slot enable).Subscribed where
  interested position counts := by
    by_cases here : position = slot
    · subst here
      have column : ∀ other, (books.setSubscription link position enable).subscribed other position =
          update (fun other => books.subscribed other position) link enable other := by
        intro other
        by_cases same : other = link
        · subst same
          rw [subscribed_setSubscription_self, update_self, update_self]
        · rw [subscribed_setSubscription_of_ne same, update_of_ne same]
      simp only [column]
      rw [interested_setSubscription_self counts]
      exact (subscribed.interested position counts).update link enable
        (subscribed.interested_lt configured counts)
    · have column : ∀ other, (books.setSubscription link slot enable).subscribed other position =
          books.subscribed other position := by
        intro other
        by_cases same : other = link
        · subst same
          rw [subscribed_setSubscription_self, update_of_ne here]
        · rw [subscribed_setSubscription_of_ne same]
      simp only [column]
      rw [interested_setSubscription_of_ne here]
      exact subscribed.interested position counts
  counted other := by
    by_cases same : other = link
    · subst same
      rw [subscribed_setSubscription_self, subscriptionCount_setSubscription_self]
      exact (subscribed.counted other).update slot enable (subscribed.count_lt configured)
    · rw [subscribed_setSubscription_of_ne same, subscriptionCount_setSubscription_of_ne same]
      exact subscribed.counted other
  inside other position active := by
    by_cases same : other = link
    · subst same
      rw [subscribed_setSubscription_self] at active
      by_cases here : position = slot
      · exact here ▸ inside
      · rw [update_of_ne here] at active
        exact subscribed.inside other position active
    · rw [subscribed_setSubscription_of_ne same] at active
      exact subscribed.inside other position active

theorem Subscribed.clear (link : catalog.Link) {slots : List Nat}
    (inside : ∀ slot ∈ slots, slot ∈ catalog.subscribable) :
    (books.clear link slots).Subscribed := by
  induction slots generalizing books with
  | nil => exact subscribed
  | cons slot rest ih =>
    exact ih
      (subscribed.setSubscription configured link (inside slot mem_cons_self) false)
      fun other member => inside other (mem_cons_of_mem _ member)

theorem Subscribed.reset (link : catalog.Link) : (books.reset link).Subscribed := by
  have cancelled : (books.cancel link).Subscribed :=
    ⟨subscribed.interested, subscribed.counted, subscribed.inside⟩
  exact cancelled.clear configured link fun _ member => member

end

omit configured in
theorem subscribed_clear (books : Books catalog) (link : catalog.Link) (slots : List Nat)
    (slot : Nat) :
    (books.clear link slots).subscribed link slot =
      if slot ∈ slots then false else books.subscribed link slot := by
  induction slots generalizing books with
  | nil => rfl
  | cons first rest ih =>
    refine (ih (books.setSubscription link first false)).trans ?_
    by_cases later : slot ∈ rest
    · rw [if_pos later, if_pos (mem_cons_of_mem _ later)]
    · by_cases here : slot = first
      · subst here
        rw [if_neg later, if_pos mem_cons_self]
        rw [subscribed_setSubscription_self, update_self]
      · rw [if_neg later, if_neg (by simp [here, later]), subscribed_setSubscription_self,
          update_of_ne here]

section

variable (subscribed : books.Subscribed)

include subscribed

omit configured in
theorem Subscribed.silent (link : catalog.Link) (slot : Nat) :
    (books.reset link).subscribed link slot = false := by
  rw [Books.reset, subscribed_clear]
  split
  · rfl
  · rename_i outside
    exact eq_false_of_ne_true fun active => outside (subscribed.inside link slot active)

/-- The Connected event wipes a table that is already empty. -/
theorem Subscribed.wipe (link : catalog.Link) : ((books.reset link).wipe link).Subscribed := by
  have reset := subscribed.reset configured link
  have table : ((books.reset link).wipe link).subscribed = (books.reset link).subscribed := by
    funext other
    by_cases same : other = link
    · subst same
      rw [subscribed_wipe_self]
      funext slot
      exact (subscribed.silent other slot).symm
    · exact subscribed_wipe_of_ne same
  constructor
  · rw [table]
    exact reset.interested
  · intro other
    rw [table]
    by_cases same : other = link
    · subst same
      rw [subscriptionCount_wipe_self]
      refine Counts.empty.congr ?_
      ext slot
      simp [subscribed.silent]
    · rw [subscriptionCount_wipe_of_ne same]
      exact reset.counted other
  · rw [table]
    exact reset.inside

theorem Subscribed.resets (links : List catalog.Link) :
    (links.foldl Books.reset books).Subscribed := by
  induction links generalizing books with
  | nil => exact subscribed
  | cons link rest ih => exact ih (subscribed.reset configured link)

end

theorem Subscribed.booked {next : Books catalog} {label : ApplicationLabel catalog}
    (subscribed : books.Subscribed) (entry : Booked books label next) : next.Subscribed := by
  cases entry with
  | subscribed _ link slot inside enable =>
    exact subscribed.setSubscription configured link inside enable
  | reset _ link => exact subscribed.reset configured link
  | connected link => exact subscribed.wipe configured link
  | stopped => exact subscribed.resets configured _
  | _ => exact ⟨subscribed.interested, subscribed.counted, subscribed.inside⟩

end

/-- What is subscribed is counted, so clearing it does not take a counter below zero. -/
def Covered (books : Books catalog) : Prop :=
  ∀ link slot, books.subscribed link slot = true → 0 < (books.subscriptionCount link).toNat ∧
      (catalog.countsInterest slot = true → 0 < (books.interested slot).toNat)

theorem Subscribed.covered (subscribed : books.Subscribed) : books.Covered := by
  intro link slot active
  exact ⟨(subscribed.counted link).pos active,
    fun counts => (subscribed.interested slot counts).pos active⟩

end Books

namespace Application

variable {Value : Type} {catalog : RemoteCatalog Value} {state : Application catalog}

theorem subscribed_of_reachable (configured : catalog.Configured)
    (reached : (applicationMachine catalog).Reachable {} state) : state.books.Subscribed := by
  refine reached.invariant (fun state => state.books.Subscribed) ?_ ?_
  · have none : ∀ {Member : Type}, Counts 0 {member : Member | false = true} := by
      intro Member
      refine Counts.empty.congr ?_
      ext member
      simp
    exact ⟨fun _ _ => none, fun _ => none, fun _ _ active => nomatch active⟩
  · intro state label next subscribed stepped
    exact subscribed.booked configured (booked_step stepped)

/-- In every reachable state the interest of an endpoint is the number of links with an active
subscription to it, and the subscription count of a link is the number of its active
subscriptions. However many subscriptions are cleared from there on, one after the other, no
counter goes below zero. -/
theorem subscriptions_are_counted (configured : catalog.Configured)
    (reached : (applicationMachine catalog).Reachable {} state) :
    (∀ slot, catalog.countsInterest slot = true → (state.interested slot).toNat =
      {link | ((state.links link).subscriptions slot).active = true}.ncard) ∧
    (∀ link, (state.links link).subscriptionCount.toNat =
      {slot | ((state.links link).subscriptions slot).active = true}.ncard) ∧
    ∀ cleared : List (catalog.Link × Nat), (∀ entry ∈ cleared, entry.2 ∈ catalog.subscribable) →
      (cleared.foldl (fun books entry => books.setSubscription entry.1 entry.2 false)
        state.books).Covered := by
  have subscribed := subscribed_of_reachable configured reached
  refine ⟨fun slot counts => (subscribed.interested slot counts).exact,
    fun link => (subscribed.counted link).exact, fun cleared inside => ?_⟩
  generalize state.books = books at subscribed
  induction cleared generalizing books with
  | nil => exact subscribed.covered
  | cons entry rest ih =>
    exact ih (fun other member => inside other (mem_cons_of_mem _ member)) _
      (subscribed.setSubscription configured entry.1 (inside entry mem_cons_self) false)

/-- The small system with a topic (id 9). -/
def boardCatalog : RemoteCatalog UInt8 := { deskCatalog with topics := [{ id := 9 }] }

/-- The peer says hello and subscribes to the topic, twice. -/
def boardRun : List (ApplicationLabel boardCatalog) :=
  [.connected Desk.link,
    .frame Desk.link ⟨{ kind := .clientHello }, helloPayload boardCatalog.limits⟩ {},
    .frame Desk.link (Desk.frame .subscribe 1 2 9) {},
    .frame Desk.link (Desk.frame .subscribe 2 2 9) {}]

/-- A link that subscribed twice counts once. -/
theorem subscriptions_are_counted_board :
    ∃ state : Application boardCatalog, state.interested 4 = 1 ∧ (state.interested 4).toNat =
        {link | ((state.links link).subscriptions 4).active = true}.ncard :=
  ⟨((applicationMachine boardCatalog).run {} boardRun).get (by decide), by decide,
    (subscriptions_are_counted ⟨by decide, by decide, by decide⟩
      ((applicationMachine boardCatalog).reachable_get {} boardRun (by decide))).1 4 (by decide)⟩

end Application

end Solar.Remote
