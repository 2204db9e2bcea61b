/-
This file shows when a link does not go deaf. The event for an occupied lease is at any
moment in somebody's hand: that of the handler, the flag, the poll, the queue or the
service. All of them pass it on but the queue, which drops what is posted while it is
full; nobody posts the event again, and the link waits for ever for the release of a
lease that nobody knows of. A Connected event is lost the same way.

If every post that matters finds room, each lease that an open link holds is known to
somebody, no Connected event is lost, and the steps of the service, the handler and the
poll alone release the lease.
-/

import Solar.Remote.Reception.Links

namespace Solar.Remote.Reception

open List Option Function

/-! ### Who knows of a lease -/

namespace Uart

variable (uart : Uart)

/-- The link is going to announce the lease it holds. -/
def StillToAnnounce : Prop :=
  (∃ size, uart.announcing = some ⟨.rxReady, uart.handle, size⟩) ∨ uart.pending = true ∨
    uart.polling = .fetched ∨ ∃ size, uart.polling = .notifying ⟨.rxReady, uart.handle, size⟩

theorem receive_cases {kind : UartKind} {capacity : Nat} {byte : UInt8} :
    (∃ storage, uart.receive kind capacity byte = { uart with storage }) ∨
      ∃ storage handle generation receiving size, uart.receive kind capacity byte = { uart with
          storage, handle, generation, receiving
          occupied := true
          announcing := some ⟨.rxReady, handle, size⟩ } := by
  unfold receive
  by_cases idle : uart.opened = false ∨ uart.occupied
  · rw [if_pos idle]
    exact .inl ⟨_, rfl⟩
  · rw [if_neg idle]
    by_cases delimiter : byte = 0
    · rw [if_pos delimiter]
      exact .inr ⟨_, _, _, _, _, rfl⟩
    · rw [if_neg delimiter]
      exact .inl ⟨_, rfl⟩

/-- What the link has in hand is an RxReady event, and only an asynchronous link has a flag and a
poll. -/
structure Formed (kind : UartKind) : Prop where
  announcing : ∀ event, uart.announcing = some event → event.kind = .rxReady
  notifying : ∀ event, uart.polling = .notifying event → event.kind = .rxReady
  pending : uart.pending = true → kind = .async
  polling : uart.polling ≠ .idle → kind = .async

end Uart

variable {Link : Type} [DecidableEq Link] (wiring : Wiring Link)

namespace State

variable (state : State Link)

/-- An RxReady event for the lease that the link holds is queued, is being processed, or is still
to be announced. -/
def Known (link : Link) : Prop :=
  (∃ size, .link link ⟨.rxReady, (state.uart link).handle, size⟩ ∈ state.queue) ∨ (∃ size got,
      state.processing = some (.link link ⟨.rxReady, (state.uart link).handle, size⟩, got)) ∨
    (state.uart link).StillToAnnounce

/-- The Connected events of a link that the queue and the service have. -/
def connectedEvents (link : Link) : Nat :=
  state.queue.countP (·.isConnected link) +
    (state.processing.toList.map Prod.fst).countP (·.isConnected link)

/-- Every lease that an open link holds is known, and every Connected event that was reported is
still to be posted, with the service, processed, or was lost while the link was closed. -/
structure Heard : Prop where
  known : ∀ link, (state.uart link).opened = true → (state.uart link).occupied = true →
    state.Known link
  connected : ∀ link, (state.uart link).reported =
    (state.uart link).reporting + state.connectedEvents link + (state.uart link).answered +
      (state.uart link).abandoned

/-- The link event that a step is going to post. -/
def posted (link : Link) : Label Link → Option LinkEvent
  | .report other => if other = link then some ⟨.connected, {}, 0⟩ else none
  | .announce other =>
      if other = link ∧ wiring.kind link = .interrupt then (state.uart link).announcing else none
  | .notify other =>
      if other = link then
        match (state.uart link).polling with
        | .notifying event => some event
        | _ => none
      else none
  | _ => none

/-- The condition of a step: a Connected event of an open link, or an RxReady event for the lease
that it holds, finds room in the queue. -/
def Room (label : Label Link) : Prop :=
  ∀ link event, state.posted wiring link label = some event → (state.uart link).opened = true →
    (event.kind = .rxReady → (state.uart link).Leases event.lease) →
    state.queue.length < wiring.depth

instance [Fintype Link] (label : Label Link) : Decidable (state.Room wiring label) :=
  decidable_of_iff (∀ link, ∀ event ∈ state.posted wiring link label,
    (state.uart link).opened = true →
    (event.kind = .rxReady → (state.uart link).Leases event.lease) →
    state.queue.length < wiring.depth) Iff.rfl

/-! ### Small facts about the steps -/

variable {state} {event : ServiceEvent Link} (link : Link) {uart : Uart}

@[simp] theorem setUart_uart_self (uart : Uart) :
    (state.setUart link uart).uart link = uart := update_self _ _ _

theorem setUart_uart_other {link other : Link} (differ : other ≠ link) (uart : Uart) :
    (state.setUart link uart).uart other = state.uart other := update_of_ne differ _ _

@[simp] theorem setUart_queue (uart : Uart) :
    (state.setUart link uart).queue = state.queue := rfl

@[simp] theorem setUart_processing (uart : Uart) :
    (state.setUart link uart).processing = state.processing := rfl

section

variable (event)

omit [DecidableEq Link] in
@[simp] theorem post_uart : (state.post wiring event).uart = state.uart := by
  unfold post
  split <;> rfl

omit [DecidableEq Link] in
@[simp] theorem post_processing : (state.post wiring event).processing = state.processing := by
  unfold post
  split <;> rfl

omit [DecidableEq Link] in
theorem post_queue :
    (state.post wiring event).queue =
      if state.queue.length < wiring.depth then state.queue ++ [event] else state.queue := by
  unfold post
  split <;> rfl

end

omit [DecidableEq Link] in
theorem mem_post_queue {other : ServiceEvent Link} (inside : other ∈ state.queue) :
    other ∈ (state.post wiring event).queue := by
  rw [post_queue]
  split
  · exact mem_append_left _ inside
  · exact inside

theorem connectedEvents_post (event : ServiceEvent Link) :
    (state.post wiring event).connectedEvents link = state.connectedEvents link +
        if state.queue.length < wiring.depth ∧ event.isConnected link then 1 else 0 := by
  unfold connectedEvents
  rw [post_queue, post_processing]
  by_cases room : state.queue.length < wiring.depth
  · rw [if_pos room, countP_append, countP_singleton]
    simp only [room, true_and]
    omega
  · rw [if_neg room, if_neg fun both => room both.1, Nat.add_zero]

theorem connectedEvents_post_other (other : event.isConnected link = false) :
    (state.post wiring event).connectedEvents link = state.connectedEvents link := by
  rw [connectedEvents_post, other]
  simp

omit [DecidableEq Link] in
theorem Known.of_kept {next : State Link} {link : Link} (known : state.Known link)
    (handle : (next.uart link).handle = (state.uart link).handle)
    (still : (state.uart link).StillToAnnounce → (next.uart link).StillToAnnounce)
    (queue : ∀ event ∈ state.queue, event ∈ next.queue)
    (processing : next.processing = state.processing) : next.Known link := by
  unfold Known
  rw [handle, processing]
  exact known.imp (fun ⟨size, inside⟩ => ⟨size, queue _ inside⟩) (Or.imp_right still)

/-- A step of one link: the lease that it then holds is known, and its counts still match. -/
theorem Heard.setUart (heard : state.Heard) (link : Link)
    (known : uart.opened = true → uart.occupied = true → (state.setUart link uart).Known link)
    (connected : uart.reported + (state.uart link).reporting + (state.uart link).answered +
        (state.uart link).abandoned =
      (state.uart link).reported + uart.reporting + uart.answered + uart.abandoned) :
    (state.setUart link uart).Heard := by
  constructor
  · intro other opened occupied
    by_cases same : other = link
    · subst same
      rw [setUart_uart_self] at opened occupied
      exact known opened occupied
    · rw [setUart_uart_other same] at opened occupied
      refine (heard.known other opened occupied).of_kept ?_ ?_ (fun _ => id) rfl
      · rw [setUart_uart_other same]
      · rw [setUart_uart_other same]
        exact id
  · intro other
    by_cases same : other = link
    · subst same
      have before := heard.connected other
      rw [setUart_uart_self]
      change uart.reported = uart.reporting + state.connectedEvents other + _ + _
      omega
    · rw [setUart_uart_other same]
      exact heard.connected other

theorem Heard.setUart_kept (heard : state.Heard) {link : Link}
    (handle : uart.handle = (state.uart link).handle)
    (held : uart.opened = true → uart.occupied = true →
      (state.uart link).opened = true ∧ (state.uart link).occupied = true)
    (still : uart.opened = true → uart.occupied = true → (state.uart link).StillToAnnounce →
      uart.StillToAnnounce)
    (connected : uart.reported + (state.uart link).reporting + (state.uart link).answered +
        (state.uart link).abandoned =
      (state.uart link).reported + uart.reporting + uart.answered + uart.abandoned) :
    (state.setUart link uart).Heard := by
  refine heard.setUart link (fun opened occupied => ?_) connected
  obtain ⟨wasOpened, wasOccupied⟩ := held opened occupied
  refine (heard.known link wasOpened wasOccupied).of_kept ?_ ?_ (fun _ => id) rfl
  · rw [setUart_uart_self, handle]
  · rw [setUart_uart_self]
    exact still opened occupied

theorem Heard.post (heard : state.Heard) (other : ∀ link, event.isConnected link = false) :
    (state.post wiring event).Heard := by
  constructor
  · intro link opened occupied
    rw [post_uart] at opened occupied
    refine (heard.known link opened occupied).of_kept ?_ ?_ (fun _ => mem_post_queue wiring) ?_
    · rw [post_uart]
    · rw [post_uart]
      exact id
    · exact post_processing wiring event
  · intro link
    rw [post_uart, connectedEvents_post_other wiring link (other link)]
    exact heard.connected link

theorem isConnected_rxReady (other : Link) {event : LinkEvent} (kind : event.kind = .rxReady) :
    (ServiceEvent.link link event).isConnected other = false := by
  simp [ServiceEvent.isConnected, kind]

/-! ### Steps of a link -/

section

variable (heard : state.Heard) (link : Link)

include heard

theorem Heard.finishOpen (kind : UartKind) (accepted : Bool) :
    (state.setUart link ((state.uart link).finishOpen kind accepted)).Heard := by
  cases accepted with
  | false =>
    exact heard.setUart_kept rfl (fun opened _ => nomatch opened)
      (fun opened _ _ => nomatch opened) rfl
  | true =>
    cases kind with
    | interrupt =>
      exact heard.setUart_kept rfl (fun opened occupied => ⟨opened, occupied⟩)
        (fun _ _ still => still) rfl
    | async =>
      refine heard.setUart_kept rfl (fun opened occupied => ⟨opened, occupied⟩)
        (fun _ _ still => still) ?_
      simp only [Uart.finishOpen, Uart.reports, if_true]
      omega

theorem Heard.signalConnected : (state.setUart link (state.uart link).signalConnected).Heard := by
  unfold Uart.signalConnected
  split_ifs with idle
  · exact heard.setUart_kept rfl (fun opened occupied => ⟨opened, occupied⟩)
      (fun _ _ still => still) rfl
  · refine heard.setUart_kept rfl (fun opened occupied => ⟨opened, occupied⟩)
      (fun _ _ still => still) ?_
    simp only [Uart.reports]
    omega

theorem Heard.signalDisconnected :
    (state.setUart link (state.uart link).signalDisconnected).Heard := by
  unfold Uart.signalDisconnected
  split_ifs with opened
  · exact heard.setUart_kept rfl (fun _ occupied => ⟨opened, occupied⟩)
      (fun _ _ still => still) rfl
  · exact heard.setUart_kept rfl (fun opened occupied => ⟨opened, occupied⟩)
      (fun _ _ still => still) rfl

theorem Heard.receive (kind : UartKind) (capacity : Nat) (byte : UInt8) :
    (state.setUart link ((state.uart link).receive kind capacity byte)).Heard := by
  rcases (state.uart link).receive_cases with
    ⟨storage, kept⟩ | ⟨storage, handle, generation, receiving, size, leased⟩
  · rw [kept]
    exact heard.setUart_kept rfl (fun opened occupied => ⟨opened, occupied⟩)
      (fun _ _ still => still) rfl
  · rw [leased]
    refine heard.setUart link (fun _ _ => ?_) rfl
    refine .inr (.inr (.inl ⟨size, ?_⟩))
    rw [setUart_uart_self]

theorem Heard.fetch : (state.setUart link (state.uart link).fetch).Heard := by
  unfold Uart.fetch
  split_ifs with pending
  · refine heard.setUart_kept rfl (fun opened occupied => ⟨opened, occupied⟩) ?_ rfl
    exact fun _ _ _ => .inr (.inr (.inl rfl))
  · exact heard.setUart_kept rfl (fun opened occupied => ⟨opened, occupied⟩)
      (fun _ _ still => still) rfl

theorem Heard.read : (state.setUart link (state.uart link).read).Heard := by
  refine heard.setUart_kept rfl (fun opened occupied => ⟨opened, occupied⟩) ?_ rfl
  intro opened _ _
  refine .inr (.inr (.inr ⟨_, if_pos opened⟩))

theorem Heard.recover (accepted : Bool) :
    (state.setUart link ((state.uart link).recover accepted)).Heard :=
  heard.setUart_kept rfl (fun opened occupied => ⟨opened, occupied⟩)
    (fun _ _ still => still) rfl

/-- A link hands an RxReady event to the queue: the service has it, if it was that of the lease. -/
theorem Heard.pass {event : LinkEvent} (kind : event.kind = .rxReady)
    (room : (state.uart link).opened = true → (state.uart link).Leases event.lease →
      state.queue.length < wiring.depth)
    (opened : uart.opened = (state.uart link).opened)
    (occupied : uart.occupied = (state.uart link).occupied)
    (handle : uart.handle = (state.uart link).handle)
    (still : (state.uart link).StillToAnnounce →
      uart.StillToAnnounce ∨ event.lease = (state.uart link).handle)
    (connected : uart.reported + (state.uart link).reporting + (state.uart link).answered +
        (state.uart link).abandoned =
      (state.uart link).reported + uart.reporting + uart.answered + uart.abandoned) :
    ((state.setUart link uart).post wiring (.link link event)).Heard := by
  obtain ⟨eventKind, lease, size⟩ := event
  obtain rfl : eventKind = .rxReady := kind
  constructor
  · intro other isOpened isOccupied
    rw [post_uart] at isOpened isOccupied
    by_cases same : other = link
    · subst same
      rw [setUart_uart_self] at isOpened isOccupied
      have known := heard.known other (opened ▸ isOpened) (occupied ▸ isOccupied)
      have kept (event : ServiceEvent Link) (inside : event ∈ state.queue) :
          event ∈ ((state.setUart other uart).post wiring
            (.link other ⟨.rxReady, lease, size⟩)).queue := mem_post_queue wiring inside
      unfold Known
      rw [post_uart, setUart_uart_self, post_processing, handle]
      rcases known with ⟨size, queued⟩ | processed | inHand
      · exact .inl ⟨size, kept _ queued⟩
      · exact .inr (.inl processed)
      · rcases still inHand with later | carried
        · exact .inr (.inr later)
        · refine .inl ⟨size, ?_⟩
          have found := room (opened ▸ isOpened) ⟨opened ▸ isOpened, occupied ▸ isOccupied, carried⟩
          rw [post_queue, setUart_queue, if_pos found, ← carried]
          exact mem_append_right _ (mem_singleton_self _)
    · rw [setUart_uart_other same] at isOpened isOccupied
      refine (heard.known other isOpened isOccupied).of_kept ?_ ?_
        (fun _ inside => mem_post_queue wiring inside) (post_processing wiring _)
      · rw [post_uart, setUart_uart_other same]
      · rw [post_uart, setUart_uart_other same]
        exact id
  · intro other
    have silent := isConnected_rxReady link other (show (LinkEvent.mk .rxReady lease size).kind =
      .rxReady from rfl)
    rw [connectedEvents_post_other wiring other silent, post_uart]
    by_cases same : other = link
    · subst same
      have before := heard.connected other
      rw [setUart_uart_self]
      change uart.reported = uart.reporting + state.connectedEvents other + _ + _
      omega
    · rw [setUart_uart_other same]
      exact heard.connected other

/-- A caller hands a Connected event to the queue, which takes it if the link is open. -/
theorem Heard.report (some : 0 < (state.uart link).reporting)
    (room : (state.uart link).opened = true → state.queue.length < wiring.depth) :
    (state.report wiring link).Heard := by
  constructor
  · intro other opened occupied
    unfold State.report at opened occupied ⊢
    rw [post_uart] at opened occupied
    by_cases same : other = link
    · subst same
      rw [setUart_uart_self] at opened occupied
      refine (heard.known other opened occupied).of_kept ?_ ?_
        (fun _ inside => mem_post_queue wiring inside) (post_processing wiring _)
      · rw [post_uart, setUart_uart_self]
      · rw [post_uart, setUart_uart_self]
        exact id
    · rw [setUart_uart_other same] at opened occupied
      refine (heard.known other opened occupied).of_kept ?_ ?_
        (fun _ inside => mem_post_queue wiring inside) (post_processing wiring _)
      · rw [post_uart, setUart_uart_other same]
      · rw [post_uart, setUart_uart_other same]
        exact id
  · intro other
    unfold State.report
    rw [post_uart]
    by_cases same : other = link
    · subst same
      have before := heard.connected other
      have connected : (ServiceEvent.link other ⟨.connected, {}, 0⟩).isConnected other = true := by
        simp [ServiceEvent.isConnected]
      rw [connectedEvents_post, setUart_uart_self, connected]
      change _ = _ + (state.connectedEvents other +
        if state.queue.length < wiring.depth ∧ true = true then 1 else 0) + _ + _
      dsimp only
      by_cases fits : state.queue.length < wiring.depth
      · rw [if_pos ⟨fits, rfl⟩, if_neg fun lost => absurd lost.1 (Nat.not_le.mpr fits)]
        omega
      · have closed : (state.uart other).opened = false := by
          cases opened : (state.uart other).opened with
          | false => rfl
          | true => exact absurd (room opened) fits
        rw [if_neg fun both => fits both.1, if_pos ⟨Nat.not_lt.mp fits, closed⟩]
        omega
    · have silent : (ServiceEvent.link link ⟨.connected, {}, 0⟩).isConnected other = false := by
        simp [ServiceEvent.isConnected, Ne.symm same]
      rw [connectedEvents_post_other wiring other silent, setUart_uart_other same]
      exact heard.connected other

end

/-! ### Steps of the service -/

section

variable (heard : state.Heard)

include heard

theorem Heard.notifyStop (queue : List (ServiceEvent Link))
    (stop : queue = .stop :: state.queue ∨ queue = state.queue) :
    ({ state with queue } : State Link).Heard := by
  constructor
  · intro link opened occupied
    refine (heard.known link opened occupied).of_kept rfl id (fun event inside => ?_) rfl
    rcases stop with rfl | rfl
    · exact mem_cons_of_mem _ inside
    · exact inside
  · intro link
    have same : ({ state with queue } : State Link).connectedEvents link =
        state.connectedEvents link := by
      unfold connectedEvents
      rcases stop with rfl | rfl
      · rw [countP_cons_of_neg (by simp [ServiceEvent.isConnected])]
      · rfl
    rw [same]
    exact heard.connected link

theorem Heard.take {rest : List (ServiceEvent Link)} (idle : state.processing = none)
    (queued : state.queue = event :: rest) :
    ({ state with queue := rest, processing := some (event, false) } : State Link).Heard := by
  constructor
  · intro link opened occupied
    rcases heard.known link opened occupied with ⟨size, inside⟩ | ⟨size, got, processed⟩ | still
    · rw [queued] at inside
      rcases mem_cons.mp inside with rfl | later
      · exact .inr (.inl ⟨size, false, rfl⟩)
      · exact .inl ⟨size, later⟩
    · exact nomatch idle.symm.trans processed
    · exact .inr (.inr still)
  · intro link
    have before := heard.connected link
    unfold connectedEvents at before ⊢
    rw [queued, idle, countP_cons] at before
    simp only [toList_none, map_nil, countP_nil, toList_some, map_cons,
      countP_singleton] at before ⊢
    omega

/-- The service lets go of an event that is no Connected event. For the link that held the lease of
the event, if there is one, it is seen to otherwise. -/
theorem Heard.release {link : Link} {event : LinkEvent} {got : Bool}
    (processed : state.processing = some (.link link event, got)) (kind : event.kind ≠ .connected)
    (free : uart.opened = true → uart.occupied = true →
      uart = state.uart link ∧ event.lease ≠ uart.handle)
    (connected : uart.reported = (state.uart link).reported ∧
      uart.reporting = (state.uart link).reporting ∧ uart.answered = (state.uart link).answered ∧
      uart.abandoned = (state.uart link).abandoned) :
    ({ state with processing := none }.setUart link uart).Heard := by
  constructor
  · intro other opened occupied
    by_cases same : other = link
    · subst same
      rw [setUart_uart_self] at opened occupied
      obtain ⟨rfl, differ⟩ := free opened occupied
      unfold Known
      rw [setUart_uart_self]
      rcases heard.known other opened occupied with queued | ⟨size, also, held⟩ | still
      · exact .inl queued
      · rw [processed] at held
        simp only [some.injEq, Prod.mk.injEq, ServiceEvent.link.injEq, true_and] at held
        rw [held.1] at differ
        exact absurd rfl differ
      · exact .inr (.inr still)
    · rw [setUart_uart_other same] at opened occupied
      unfold Known
      rw [setUart_uart_other same]
      rcases heard.known other opened occupied with queued | ⟨size, also, held⟩ | still
      · exact .inl queued
      · rw [processed] at held
        simp only [some.injEq, Prod.mk.injEq, ServiceEvent.link.injEq] at held
        exact absurd held.1.1.symm same
      · exact .inr (.inr still)
  · intro other
    have before := heard.connected other
    have silent : ({ state with processing := none }.setUart link uart).connectedEvents other =
        state.connectedEvents other := by
      unfold connectedEvents
      rw [processed]
      simp [ServiceEvent.isConnected, kind]
    rw [silent]
    by_cases same : other = link
    · subst same
      obtain ⟨reported, reporting, answered, abandoned⟩ := connected
      rw [setUart_uart_self, reported, reporting, answered, abandoned]
      exact before
    · rw [setUart_uart_other same]
      exact before

/-- Another event than these two is done. -/
theorem Heard.finish (processed : state.processing = some (event, false))
    (other : ∀ link lease size, event ≠ .link link ⟨.rxReady, lease, size⟩) :
    (state.finish event).Heard := by
  constructor
  · intro link opened occupied
    have uart : (state.finish event).uart link = state.uart link ∨ (state.finish event).uart link =
          { state.uart link with answered := (state.uart link).answered + 1 } := by
      by_cases connected : event.isConnected link = true
      · exact .inr (if_pos connected)
      · exact .inl (if_neg connected)
    have same : (state.uart link).opened = true ∧ (state.uart link).occupied = true ∧
        ((state.finish event).uart link).handle = (state.uart link).handle ∧
        ((state.uart link).StillToAnnounce → ((state.finish event).uart link).StillToAnnounce) := by
      rcases uart with kept | counted
      · rw [kept] at opened occupied ⊢
        exact ⟨opened, occupied, rfl, id⟩
      · rw [counted] at opened occupied ⊢
        exact ⟨opened, occupied, rfl, id⟩
    unfold Known
    rw [same.2.2.1]
    rcases heard.known link same.1 same.2.1 with queued | ⟨size, got, held⟩ | still
    · exact .inl queued
    · rw [processed] at held
      simp only [some.injEq, Prod.mk.injEq] at held
      exact absurd held.1 (other _ _ _)
    · exact .inr (.inr (same.2.2.2 still))
  · intro link
    have before := heard.connected link
    unfold connectedEvents at before ⊢
    rw [processed] at before
    simp only [State.finish, toList_none, map_nil, countP_nil, toList_some,
      map_cons, countP_singleton, Nat.add_zero] at before ⊢
    split_ifs at before ⊢
    · dsimp only
      omega
    · omega

theorem Heard.purge (idle : ∀ link, (state.uart link).opened = false) : state.purge.Heard := by
  constructor
  · intro link opened
    exact nomatch (idle link).symm.trans opened
  · intro link
    have before := heard.connected link
    unfold connectedEvents at before ⊢
    simp only [State.purge, countP_nil]
    omega

end

/-! ### Runs -/

/-- All links are formed, and the service has bytes only for an RxReady event. -/
structure Formed : Prop where
  links : ∀ link, (state.uart link).Formed (wiring.kind link)
  leased : ∀ event, state.processing = some (event, true) →
    ∃ link lease size, event = .link link ⟨.rxReady, lease, size⟩

theorem Formed.setUart (formed : state.Formed wiring) (link : Link)
    (moved : uart.Formed (wiring.kind link)) : (state.setUart link uart).Formed wiring := by
  refine ⟨fun other => ?_, formed.leased⟩
  by_cases same : other = link
  · subst same
    rw [setUart_uart_self]
    exact moved
  · rw [setUart_uart_other same]
    exact formed.links other

omit [DecidableEq Link] in
theorem Formed.of_uart (formed : state.Formed wiring) {next : State Link}
    (same : ∀ link, (next.uart link).announcing = (state.uart link).announcing ∧
      (next.uart link).polling = (state.uart link).polling ∧
      (next.uart link).pending = (state.uart link).pending)
    (leased : ∀ event, next.processing = some (event, true) →
      ∃ link lease size, event = .link link ⟨.rxReady, lease, size⟩) : next.Formed wiring := by
  refine ⟨fun link => ?_, leased⟩
  obtain ⟨announcing, notifying, pending, polling⟩ := formed.links link
  obtain ⟨first, second, third⟩ := same link
  exact ⟨first ▸ announcing, second ▸ notifying, third ▸ pending, second ▸ polling⟩

variable {next : State Link}

section

variable [Fintype Link]

theorem take_cases (stepped : state.step wiring .take = some next) :
    ∃ event rest, state.processing = none ∧ state.queue = event :: rest ∧
      next = { state with queue := rest, processing := some (event, false) } := by
  cases processing : state.processing with
  | some entry =>
    simp only [step, processing] at stepped
    exact nomatch stepped
  | none =>
    cases queue : state.queue with
    | nil =>
      simp only [step, processing, queue] at stepped
      exact nomatch stepped
    | cons event rest =>
      simp only [step, processing, queue, some.injEq] at stepped
      exact ⟨event, rest, rfl, rfl, stepped.symm⟩

theorem check_cases (stepped : state.step wiring .check = some next) :
    ∃ link event, state.processing = some (.link link event, false) ∧ event.kind = .rxReady ∧
      next = state.check link event := by
  cases processing : state.processing with
  | none =>
    simp only [step, processing] at stepped
    exact nomatch stepped
  | some entry =>
    obtain ⟨event, got⟩ := entry
    cases event with
    | link link event =>
      cases got with simp only [step, processing] at stepped
      | true => exact nomatch stepped
      | false =>
        obtain ⟨kind, ⟨⟩⟩ := ite_none_right_eq_some.mp stepped
        exact ⟨link, event, rfl, kind, rfl⟩
    | publication _ | output _ | stop =>
      simp only [step, processing] at stepped
      exact nomatch stepped

theorem release_cases {accepted : Bool}
    (stepped : state.step wiring (.release accepted) = some next) :
    ∃ link event, state.processing = some (.link link event, true) ∧
      next = { state with processing := none }.setUart link
        ((state.uart link).release event.lease accepted) := by
  cases processing : state.processing with
  | none =>
    simp only [step, processing] at stepped
    exact nomatch stepped
  | some entry =>
    obtain ⟨event, got⟩ := entry
    cases event with
    | link link event =>
      cases got with
      | false =>
        simp only [step, processing] at stepped
        exact nomatch stepped
      | true =>
        simp only [step, processing, some.injEq] at stepped
        exact ⟨link, event, rfl, stepped.symm⟩
    | publication _ | output _ | stop =>
      simp only [step, processing] at stepped
      exact nomatch stepped

theorem finish_cases (stepped : state.step wiring .finish = some next) :
    ∃ event, state.processing = some (event, false) ∧
      (∀ link lease size, event ≠ .link link ⟨.rxReady, lease, size⟩) ∧
      next = state.finish event := by
  cases processing : state.processing with
  | none =>
    simp only [step, processing] at stepped
    exact nomatch stepped
  | some entry =>
    obtain ⟨event, got⟩ := entry
    cases got with
    | true =>
      simp only [step, processing] at stepped
      exact nomatch stepped
    | false =>
      refine ⟨event, rfl, ?_, ?_⟩
      · rintro link lease size rfl
        simp only [step, processing] at stepped
        exact nomatch stepped
      · cases event with
        | link link event =>
          obtain ⟨kind, lease, size⟩ := event
          cases kind <;> simp only [step, processing, some.injEq] at stepped <;>
            first | exact stepped.symm | exact nomatch stepped
        | publication _ | output _ | stop =>
          simp only [step, processing, some.injEq] at stepped
          exact stepped.symm

/-- What a step does to the links keeps them formed. -/
theorem formed_step (formed : state.Formed wiring) {label : Label Link}
    (stepped : state.step wiring label = some next) : next.Formed wiring := by
  have hand (link : Link) {uart : Uart}
      (announcing : uart.announcing = (state.uart link).announcing)
      (polling : uart.polling = (state.uart link).polling)
      (pending : uart.pending = true → (state.uart link).pending = true) :
      (state.setUart link uart).Formed wiring := by
    obtain ⟨first, second, third, fourth⟩ := formed.links link
    exact formed.setUart wiring link
      ⟨announcing ▸ first, polling ▸ second, fun set => third (pending set), polling ▸ fourth⟩
  have posts {state : State Link} (formed : state.Formed wiring) (event : ServiceEvent Link) :
      (state.post wiring event).Formed wiring :=
    formed.of_uart wiring (fun link => by rw [post_uart]; exact ⟨rfl, rfl, rfl⟩)
      fun event held => formed.leased event (post_processing wiring _ ▸ held)
  have same {next : State Link} (uart : next.uart = state.uart)
      (leased : ∀ event, next.processing = some (event, true) →
        ∃ link lease size, event = .link link ⟨.rxReady, lease, size⟩) : next.Formed wiring :=
    formed.of_uart wiring (fun link => by rw [uart]; exact ⟨rfl, rfl, rfl⟩) leased
  cases label with
  | begin link =>
    obtain ⟨-, ⟨⟩⟩ := ite_none_right_eq_some.mp stepped
    exact hand link rfl rfl nofun
  | finishOpen link accepted =>
    obtain ⟨-, ⟨⟩⟩ := ite_none_right_eq_some.mp stepped
    cases accepted with
    | false => exact hand link rfl rfl id
    | true =>
      cases kind : wiring.kind link with
      | _ => exact hand link rfl rfl id
  | close link =>
    cases stepped
    exact hand link rfl rfl nofun
  | signalConnected link =>
    obtain ⟨-, ⟨⟩⟩ := ite_none_right_eq_some.mp stepped
    unfold Uart.signalConnected
    split_ifs
    · exact hand link rfl rfl id
    · exact hand link rfl rfl id
  | signalDisconnected link =>
    obtain ⟨-, ⟨⟩⟩ := ite_none_right_eq_some.mp stepped
    unfold Uart.signalDisconnected
    split_ifs
    · exact hand link rfl rfl id
    · exact hand link rfl rfl id
  | report link =>
    obtain ⟨-, ⟨⟩⟩ := ite_none_right_eq_some.mp stepped
    refine posts ?_ _
    exact hand link rfl rfl id
  | receive link byte =>
    obtain ⟨-, ⟨⟩⟩ := ite_none_right_eq_some.mp stepped
    obtain ⟨announcing, notifying, pending, polling⟩ := formed.links link
    rcases (state.uart link).receive_cases with
      ⟨storage, kept⟩ | ⟨storage, handle, generation, receiving, size, leased⟩
    · rw [kept]
      exact hand link rfl rfl id
    · rw [leased]
      refine formed.setUart wiring link ⟨?_, notifying, pending, polling⟩
      rintro event same
      obtain rfl := some.inj same
      rfl
  | announce link =>
    cases announcing : (state.uart link).announcing with
    | none =>
      simp only [step, announcing] at stepped
      exact nomatch stepped
    | some event =>
      simp only [step, announcing, some.injEq] at stepped
      subst stepped
      obtain ⟨-, notifying, pending, polling⟩ := formed.links link
      unfold announce
      cases kind : wiring.kind link with
      | async =>
        refine formed.setUart wiring link ⟨?_, notifying, fun _ => kind, polling⟩
        exact fun event same => nomatch same
      | interrupt =>
        refine posts ?_ _
        refine formed.setUart wiring link ⟨?_, notifying, pending, polling⟩
        exact fun event same => nomatch same
  | fetch link =>
    obtain ⟨⟨async, -⟩, ⟨⟩⟩ := ite_none_right_eq_some.mp stepped
    obtain ⟨announcing, -, pending, -⟩ := formed.links link
    unfold Uart.fetch
    split_ifs
    · exact formed.setUart wiring link ⟨announcing, nofun, nofun, fun _ => async⟩
    · exact hand link rfl rfl id
  | read link =>
    obtain ⟨fetched, ⟨⟩⟩ := ite_none_right_eq_some.mp stepped
    obtain ⟨announcing, -, pending, polling⟩ := formed.links link
    have async := polling (by rw [fetched]; nofun)
    refine formed.setUart wiring link ⟨announcing, fun event same => ?_, pending, fun _ => async⟩
    unfold Uart.read at same
    split_ifs at same
    obtain rfl := Polling.notifying.inj same
    rfl
  | notify link =>
    obtain ⟨announcing, -, pending, -⟩ := formed.links link
    cases polling : (state.uart link).polling with
    | notifying event =>
      simp only [step, polling, some.injEq] at stepped
      subst stepped
      refine posts ?_ _
      refine formed.setUart wiring link ⟨announcing, ?_, pending, ?_⟩
      · exact fun event same => nomatch same
      · exact fun busy => absurd rfl busy
    | idle | fetched =>
      simp only [step, polling] at stepped
      exact nomatch stepped
  | recover link accepted =>
    obtain ⟨-, ⟨⟩⟩ := ite_none_right_eq_some.mp stepped
    exact hand link rfl rfl id
  | post event =>
    obtain ⟨-, ⟨⟩⟩ := ite_none_right_eq_some.mp stepped
    exact posts formed event
  | notifyStop =>
    cases stepped
    exact same rfl formed.leased
  | take =>
    obtain ⟨event, rest, -, -, rfl⟩ := take_cases wiring stepped
    exact same rfl fun event held => nomatch congrArg (Option.map Prod.snd) held
  | check =>
    obtain ⟨link, event, -, ready, rfl⟩ := check_cases wiring stepped
    refine same rfl fun other held => ?_
    obtain ⟨-, held⟩ := ite_none_right_eq_some.mp held
    obtain ⟨kind, lease, size⟩ := event
    obtain rfl : kind = .rxReady := ready
    exact ⟨link, lease, size, (congrArg Prod.fst (some.inj held)).symm⟩
  | release accepted =>
    obtain ⟨link, event, -, rfl⟩ := release_cases wiring stepped
    have kept : ({ state with processing := none } : State Link).Formed wiring := same rfl nofun
    unfold Uart.release
    split_ifs
    · obtain ⟨announcing, notifying, pending, polling⟩ := formed.links link
      exact kept.setUart wiring link ⟨announcing, notifying, pending, polling⟩
    · exact kept.setUart wiring link (formed.links link)
  | finish =>
    obtain ⟨event, -, -, rfl⟩ := finish_cases wiring stepped
    refine formed.of_uart wiring (fun link => ?_) nofun
    unfold finish
    dsimp only
    split_ifs <;> exact ⟨rfl, rfl, rfl⟩
  | purge =>
    obtain ⟨-, ⟨⟩⟩ := ite_none_right_eq_some.mp stepped
    exact formed.of_uart wiring (fun link => ⟨rfl, rfl, rfl⟩) formed.leased

/-- Every step keeps the leases known, if what it posts finds room. -/
theorem heard_step (formed : state.Formed wiring) (heard : state.Heard) {label : Label Link}
    (room : state.Room wiring label) (stepped : state.step wiring label = some next) :
    next.Heard := by
  cases label with
  | begin link =>
    obtain ⟨-, ⟨⟩⟩ := ite_none_right_eq_some.mp stepped
    exact heard.setUart_kept rfl (fun _ occupied => nomatch occupied)
      (fun _ occupied => nomatch occupied) rfl
  | finishOpen link accepted =>
    obtain ⟨-, ⟨⟩⟩ := ite_none_right_eq_some.mp stepped
    exact heard.finishOpen link (wiring.kind link) accepted
  | close link =>
    cases stepped
    exact heard.setUart_kept rfl (fun opened _ => nomatch opened)
      (fun opened _ => nomatch opened) rfl
  | signalConnected link =>
    obtain ⟨-, ⟨⟩⟩ := ite_none_right_eq_some.mp stepped
    exact heard.signalConnected link
  | signalDisconnected link =>
    obtain ⟨-, ⟨⟩⟩ := ite_none_right_eq_some.mp stepped
    exact heard.signalDisconnected link
  | report link =>
    obtain ⟨waiting, ⟨⟩⟩ := ite_none_right_eq_some.mp stepped
    refine heard.report wiring link waiting fun opened => ?_
    exact room link ⟨.connected, {}, 0⟩ (if_pos rfl) opened nofun
  | receive link byte =>
    obtain ⟨-, ⟨⟩⟩ := ite_none_right_eq_some.mp stepped
    exact heard.receive link _ _ byte
  | announce link =>
    cases announcing : (state.uart link).announcing with
    | none =>
      simp only [step, announcing] at stepped
      exact nomatch stepped
    | some event =>
      simp only [step, announcing, some.injEq] at stepped
      subst stepped
      have ready := (formed.links link).announcing event announcing
      unfold announce
      cases kind : wiring.kind link with
      | async =>
        refine heard.setUart_kept rfl (fun opened occupied => ⟨opened, occupied⟩) ?_ rfl
        exact fun _ _ _ => .inr (.inl rfl)
      | interrupt =>
        refine heard.pass wiring link ready ?_ rfl rfl rfl ?_ rfl
        · intro opened leases
          exact room link event (by rw [posted, if_pos ⟨rfl, kind⟩, announcing]) opened
            fun _ => leases
        · rintro (⟨size, told⟩ | rest)
          · rw [announcing] at told
            exact .inr (congrArg LinkEvent.lease (some.inj told))
          · exact .inl (.inr rest)
  | fetch link =>
    obtain ⟨-, ⟨⟩⟩ := ite_none_right_eq_some.mp stepped
    exact heard.fetch link
  | read link =>
    obtain ⟨-, ⟨⟩⟩ := ite_none_right_eq_some.mp stepped
    exact heard.read link
  | notify link =>
    cases polling : (state.uart link).polling with
    | notifying event =>
      simp only [step, polling, some.injEq] at stepped
      subst stepped
      have ready := (formed.links link).notifying event polling
      refine heard.pass wiring link ready ?_ rfl rfl rfl ?_ rfl
      · intro opened leases
        refine room link event ?_ opened fun _ => leases
        simp [posted, polling]
      · rintro (announcing | pending | fetched | ⟨size, told⟩)
        · exact .inl (.inl announcing)
        · exact .inl (.inr (.inl pending))
        · exact nomatch polling.symm.trans fetched
        · rw [polling] at told
          exact .inr (congrArg LinkEvent.lease (Polling.notifying.inj told))
    | idle | fetched =>
      simp only [step, polling] at stepped
      exact nomatch stepped
  | recover link accepted =>
    obtain ⟨-, ⟨⟩⟩ := ite_none_right_eq_some.mp stepped
    exact heard.recover link accepted
  | post event =>
    obtain ⟨other, ⟨⟩⟩ := ite_none_right_eq_some.mp stepped
    refine heard.post wiring fun link => ?_
    cases event with
    | link subject event =>
      have different : event.kind ≠ .connected := by
        intro connected
        simp [ServiceEvent.isOther, connected] at other
      simp [ServiceEvent.isConnected, different]
    | publication _ | output _ | stop => rfl
  | notifyStop =>
    cases stepped
    refine heard.notifyStop _ ?_
    split_ifs
    · exact .inl rfl
    · exact .inr rfl
  | take =>
    obtain ⟨event, rest, idle, queued, rfl⟩ := take_cases wiring stepped
    exact heard.take idle queued
  | check =>
    obtain ⟨link, event, processed, ready, rfl⟩ := check_cases wiring stepped
    by_cases leases : (state.uart link).Leases event.lease
    · have kept : (state.check link event).Heard := by
        constructor
        · intro other opened occupied
          rcases heard.known other opened occupied with queued | ⟨size, got, held⟩ | still
          · exact .inl queued
          · rw [processed] at held
            refine .inr (.inl ⟨size, true, ?_⟩)
            refine (if_pos leases).trans ?_
            simp only [some.injEq, Prod.mk.injEq] at held ⊢
            exact ⟨held.1, trivial⟩
          · exact .inr (.inr still)
        · intro other
          have before := heard.connected other
          unfold connectedEvents at before ⊢
          rw [processed] at before
          unfold State.check
          rw [if_pos leases]
          exact before
      exact kept
    · have gone : ({ state with processing := none }.setUart link (state.uart link)).Heard :=
        heard.release processed (by rw [ready]; nofun)
          (fun opened occupied => ⟨rfl, fun same => leases ⟨opened, occupied, same⟩⟩)
          ⟨rfl, rfl, rfl, rfl⟩
      unfold State.check
      rw [if_neg leases]
      have same : ({ state with processing := none }.setUart link (state.uart link)) =
          { state with processing := none } := by
        unfold setUart
        rw [update_eq_self]
      rw [← same]
      exact gone
  | release accepted =>
    obtain ⟨link, event, processed, rfl⟩ := release_cases wiring stepped
    obtain ⟨_, lease, size, same⟩ := formed.leased _ processed
    obtain ⟨rfl, rfl⟩ := ServiceEvent.link.inj same
    refine heard.release processed nofun ?_ ?_
    · unfold Uart.release
      split_ifs with leases
      · exact fun _ occupied => nomatch occupied
      · exact fun opened occupied => ⟨rfl, fun same => leases ⟨opened, occupied, same⟩⟩
    · unfold Uart.release
      split_ifs <;> exact ⟨rfl, rfl, rfl, rfl⟩
  | finish =>
    obtain ⟨event, processed, other, rfl⟩ := finish_cases wiring stepped
    exact heard.finish processed other
  | purge =>
    obtain ⟨idle, ⟨⟩⟩ := ite_none_right_eq_some.mp stepped
    exact heard.purge idle

end

theorem heard_initial : ({} : State Link).Heard :=
  ⟨fun _ opened => (nomatch opened), fun _ => rfl⟩

omit [DecidableEq Link] in
theorem formed_initial : ({} : State Link).Formed wiring :=
  ⟨fun _ => ⟨nofun, nofun, nofun, fun busy => absurd rfl busy⟩, nofun⟩

/-! ### The way to the release -/

/-- The steps of the service, and of the handler and the poll of one link. -/
def Own (link : Link) : Label Link → Prop
  | .announce other | .fetch other | .read other | .notify other => other = link
  | .take | .check | .finish | .release true => True
  | _ => False

/-- Own steps release the lease of an open link, and its reception is on again. -/
def Frees [Fintype Link] (link : Link) (state : State Link) : Prop :=
  ∃ labels final, (∀ label ∈ labels, Own link label) ∧
    (machine wiring).Admissible (Room wiring) state labels ∧
    (machine wiring).run state labels = some final ∧ (final.uart link).opened = true ∧
    (final.uart link).occupied = false ∧ (final.uart link).receiving = true

section Frees

variable [Fintype Link] {link : Link}

/-- A link that holds a lease, in a state as runs reach it. -/
structure Holds (link : Link) (state : State Link) : Prop where
  formed : state.Formed wiring
  heard : state.Heard
  opened : (state.uart link).opened = true
  occupied : (state.uart link).occupied = true

theorem Frees.of_step (label : Label Link) (own : Own link label)
    (room : state.Room wiring label) (stepped : state.step wiring label = some next)
    (frees : Frees wiring link next) : Frees wiring link state := by
  obtain ⟨labels, final, each, admissible, ran, freed⟩ := frees
  refine ⟨label :: labels, final, ?_, .step room stepped admissible, ?_, freed⟩
  · intro other member
    rcases mem_cons.mp member with rfl | later
    · exact own
    · exact each other later
  · exact (congrArg (bind · _) stepped).trans ran

omit [Fintype Link] in
theorem room_of_silent {label : Label Link}
    (silent : ∀ link, state.posted wiring link label = none) : state.Room wiring label :=
  fun link _ posts => nomatch (silent link).symm.trans posts

/-- What the handler and the poll of a link have in hand. -/
def hands (uart : Uart) : Nat :=
  (if uart.announcing.isSome then 4 else 0) + (if uart.pending then 3 else 0) +
    match uart.polling with
    | .idle => 0
    | .notifying _ => 1
    | .fetched => 2

/-- What the service has before it. -/
def ahead (state : State Link) : Nat :=
  3 * state.queue.length +
    match state.processing with
    | none => 0
    | some (_, got) => if got then 1 else 2

/-- What is left to do before the lease is released. A post takes less from a hand than it gives to
the service. -/
def toDo (link : Link) (state : State Link) : Nat := 4 * hands (state.uart link) + state.ahead

omit [Fintype Link] in
theorem toDo_setUart : (state.setUart link uart).toDo link = 4 * hands uart + state.ahead := by
  rw [toDo, setUart_uart_self]
  rfl

omit [DecidableEq Link] [Fintype Link] in
theorem toDo_post (event : ServiceEvent Link) :
    (state.post wiring event).toDo link ≤ state.toDo link + 3 := by
  unfold toDo ahead
  rw [post_uart, post_processing, post_queue]
  split_ifs
  · rw [length_append, length_singleton]
    omega
  · omega

/-- A step of those that are relied on releases the lease, or leaves less to do. -/
def Advances (link : Link) (state : State Link) : Prop :=
  Frees wiring link state ∨ ∃ label next, Own link label ∧ state.Room wiring label ∧
    state.step wiring label = some next ∧
    (next.uart link).opened = (state.uart link).opened ∧
    (next.uart link).occupied = (state.uart link).occupied ∧ next.toDo link < state.toDo link

section

variable (holds : Holds wiring link state)

include holds

theorem Holds.of_step {label : Label Link} (room : state.Room wiring label)
    (stepped : state.step wiring label = some next)
    (opened : (next.uart link).opened = (state.uart link).opened)
    (occupied : (next.uart link).occupied = (state.uart link).occupied) : Holds wiring link next :=
  ⟨formed_step wiring holds.formed stepped, heard_step wiring holds.formed holds.heard room stepped,
    opened.trans holds.opened, occupied.trans holds.occupied⟩

/-- The service is done with the event that it has. -/
theorem Holds.advances_of_processing {got : Bool}
    (processed : state.processing = some (event, got)) : Advances wiring link state := by
  cases got with
  | true =>
    obtain ⟨subject, lease, size, rfl⟩ := holds.formed.leased _ processed
    have stepped : state.step wiring (.release true) =
        some ({ state with processing := none }.setUart subject
          ((state.uart subject).release lease true)) := by
      simp only [step, processed]
    have room : state.Room wiring (.release true) := room_of_silent wiring fun _ => rfl
    by_cases own : subject = link ∧ lease = (state.uart link).handle
    · obtain ⟨rfl, rfl⟩ := own
      refine .inl (.of_step wiring (.release true) trivial room stepped ?_)
      refine ⟨[], _, nofun, trivial, rfl, ?_⟩
      rw [setUart_uart_self, Uart.release, if_pos ⟨holds.opened, holds.occupied, rfl⟩]
      exact ⟨holds.opened, rfl, rfl⟩
    · have kept : (({ state with processing := none }.setUart subject
          ((state.uart subject).release lease true)).uart link) = state.uart link := by
        by_cases same : link = subject
        · subst same
          rw [setUart_uart_self, Uart.release, if_neg]
          exact fun leases => own ⟨rfl, leases.2.2⟩
        · exact setUart_uart_other same _
      refine .inr ⟨.release true, _, trivial, room, stepped, by rw [kept], by rw [kept], ?_⟩
      unfold toDo ahead
      rw [kept, processed]
      exact Nat.lt_succ_self _
  | false =>
    by_cases ready : ∃ subject lease size, event = .link subject ⟨.rxReady, lease, size⟩
    · obtain ⟨subject, lease, size, rfl⟩ := ready
      refine .inr ⟨.check, state.check subject ⟨.rxReady, lease, size⟩, trivial,
        room_of_silent wiring fun _ => rfl, by simp [step, processed], rfl, rfl, ?_⟩
      unfold toDo ahead State.check
      rw [processed]
      split_ifs <;> simp
    · have kept : ((state.finish event).uart link).opened = (state.uart link).opened ∧
          ((state.finish event).uart link).occupied = (state.uart link).occupied ∧
          hands ((state.finish event).uart link) = hands (state.uart link) := by
        unfold State.finish
        dsimp only
        split_ifs <;> exact ⟨rfl, rfl, rfl⟩
      refine .inr ⟨.finish, state.finish event, trivial, room_of_silent wiring fun _ => rfl, ?_,
        kept.1, kept.2.1, ?_⟩
      · simp only [step, processed]
        split
        · exact absurd ⟨_, _, _, rfl⟩ ready
        · rfl
      · unfold toDo ahead
        rw [kept.2.2, processed]
        simp [State.finish]

/-- With an empty queue, the lease is in a hand of the link. A poll that is on its way ends
first. -/
theorem Holds.advances_of_idle (idle : state.processing = none) (empty : state.queue = []) :
    Advances wiring link state := by
  have room (label : Label Link) : state.Room wiring label := by
    intro other event _ _ _
    rw [empty]
    exact wiring.deep
  have posted {uart : Uart} (event : ServiceEvent Link) (fewer : hands uart < hands (state.uart link)) :
      ((state.setUart link uart).post wiring event).toDo link < state.toDo link := by
    have bound : ((state.setUart link uart).post wiring event).toDo link ≤
        (state.setUart link uart).toDo link + 3 := toDo_post wiring event
    rw [toDo_setUart] at bound
    unfold toDo at bound ⊢
    omega
  have moved {uart : Uart} (fewer : hands uart < hands (state.uart link)) :
      (state.setUart link uart).toDo link < state.toDo link := by
    rw [toDo_setUart, toDo]
    omega
  cases polling : (state.uart link).polling with
  | notifying event =>
    refine .inr ⟨.notify link, state.notify wiring link event, rfl, room _,
      by simp only [step, polling], ?_, ?_, posted _ (by simp [hands, polling])⟩
    · simp [State.notify]
    · simp [State.notify]
  | fetched =>
    refine .inr ⟨.read link, _, rfl, room _, if_pos polling, ?_, ?_, moved ?_⟩
    · simp [Uart.read]
    · simp [Uart.read]
    · simp [hands, Uart.read, polling, holds.opened]
  | idle =>
    rcases holds.heard.known link holds.opened holds.occupied with
      ⟨size, queued⟩ | ⟨size, got, processed⟩ | ⟨size, announcing⟩ | pending | fetched |
        ⟨size, notifying⟩
    · rw [empty] at queued
      exact absurd queued not_mem_nil
    · exact nomatch idle.symm.trans processed
    · refine .inr ⟨.announce link,
        state.announce wiring link ⟨.rxReady, (state.uart link).handle, size⟩, rfl, room _,
        by simp only [step, announcing], ?_⟩
      unfold State.announce
      cases wiring.kind link with
      | async =>
        refine ⟨by simp, by simp, moved ?_⟩
        cases pending : (state.uart link).pending <;> simp [hands, announcing, pending]
      | interrupt => exact ⟨by simp, by simp, posted _ (by simp [hands, announcing])⟩
    · have async := (holds.formed.links link).pending pending
      refine .inr ⟨.fetch link, _, rfl, room _, if_pos ⟨async, polling⟩, ?_, ?_, moved ?_⟩
      · simp [Uart.fetch, pending]
      · simp [Uart.fetch, pending]
      · simp [hands, Uart.fetch, pending, polling]
    · exact nomatch polling.symm.trans fetched
    · exact nomatch polling.symm.trans notifying

/-- Every lease is released. -/
theorem Holds.frees : Frees wiring link state := by
  induction left : state.toDo link using Nat.strongRecOn generalizing state with
  | ind left ih =>
    have advances : Advances wiring link state := by
      cases processed : state.processing with
      | some entry => exact holds.advances_of_processing wiring processed
      | none =>
        cases queued : state.queue with
        | nil => exact holds.advances_of_idle wiring processed queued
        | cons event rest =>
          refine .inr ⟨.take, { state with queue := rest, processing := some (event, false) },
            trivial, room_of_silent wiring fun _ => rfl, by simp only [step, processed, queued],
            rfl, rfl, ?_⟩
          simp only [toDo, ahead, processed, queued, length_cons]
          simp
          omega
    obtain frees | ⟨label, next, own, room, stepped, opened, occupied, less⟩ := advances
    · exact frees
    · exact .of_step wiring label own room stepped
        (ih _ (left ▸ less) (holds.of_step wiring room stepped opened occupied) rfl)

end

end Frees

end State

/-! ### The receive path -/

/-- While every post that matters finds room, the leases that open links hold are known and can be
released, and no Connected event is lost. -/
theorem links_heard [Fintype Link] {state : State Link}
    (reached : (machine wiring).ReachableWhere (State.Room wiring) {} state) :
    state.Heard ∧ ∀ link, (state.uart link).opened = true → (state.uart link).occupied = true →
      State.Frees wiring link state := by
  have kept : state.Formed wiring ∧ state.Heard :=
    reached.invariant (fun state => state.Formed wiring ∧ state.Heard)
      ⟨State.formed_initial wiring, State.heard_initial⟩
      fun _ _ _ holds room stepped => ⟨State.formed_step wiring holds.1 stepped,
        State.heard_step wiring holds.1 holds.2 room stepped⟩
  refine ⟨kept.2, fun link opened occupied => ?_⟩
  exact State.Holds.frees wiring ⟨kept.1, kept.2, opened, occupied⟩

/-! ### A full queue -/

/-- One link, whose queue has room for one event. -/
def narrow (kind : UartKind) : Wiring Unit :=
  { kind := fun _ => kind, capacity := fun _ => 8, depth := 1, deep := Nat.one_pos }

/-- The Connected event is processed before a delimiter comes. -/
def heardLabels : List (Label Unit) :=
  [.begin (), .finishOpen () true, .signalConnected (), .report (), .take, .finish, .receive () 0,
    .announce ()]

theorem heardLabels_run : ((machine (narrow .interrupt)).run {} heardLabels).isSome = true := by
  decide

/-- Own steps release the lease of the run, in a state whose leases are known. -/
theorem links_heard_narrow : ∃ state : State Unit, state.Heard ∧
    (state.uart ()).occupied = true ∧ State.Frees (narrow .interrupt) () state := by
  have heard := links_heard (narrow .interrupt) (Transition.Machine.reachableWhere_get _
    (State.Room (narrow .interrupt)) {} heardLabels (by decide) heardLabels_run)
  exact ⟨_, heard.1, by decide, heard.2 () (by decide) (by decide)⟩

/-- The queue is full when the handler posts. -/
def deafLabels : List (Label Unit) :=
  [.begin (), .finishOpen () true, .post (.publication 1), .receive () 0, .announce ()]

theorem deafLabels_run : ((machine (narrow .interrupt)).run {} deafLabels).isSome = true := by
  decide

/-- The queue is full when the poll posts. -/
def deafPollLabels : List (Label Unit) :=
  [.begin (), .finishOpen () true, .report (), .take, .finish, .receive () 0, .announce (),
    .fetch (), .read (), .post (.publication 1), .notify ()]

theorem deafPollLabels_run : ((machine (narrow .async)).run {} deafPollLabels).isSome = true := by
  decide

/-- The queue is full when `open` posts. -/
def unconnectedLabels : List (Label Unit) :=
  [.begin (), .post (.publication 1), .finishOpen () true, .report ()]

theorem unconnectedLabels_run :
    ((machine (narrow .async)).run {} unconnectedLabels).isSome = true := by
  decide

/-- The handler or the poll finds the queue full, and nobody knows of the lease from then on; the
Connected event of `open` is lost in the same way. -/
theorem links_deaf :
    (∃ state, (machine (narrow .interrupt)).Reachable {} state ∧
      (state.uart ()).opened = true ∧ (state.uart ()).occupied = true ∧ ¬ state.Known ()) ∧
    (∃ state, (machine (narrow .async)).Reachable {} state ∧
      (state.uart ()).opened = true ∧ (state.uart ()).occupied = true ∧ ¬ state.Known ()) ∧
    ∃ state, (machine (narrow .async)).Reachable {} state ∧ (state.uart ()).opened = true ∧
      (state.uart ()).reported = 1 ∧ (state.uart ()).reporting = 0 ∧
      state.connectedEvents () = 0 ∧ (state.uart ()).answered = 0 ∧
      (state.uart ()).abandoned = 0 := by
  have unknown (state : State Unit) (queue : state.queue = [.publication 1])
      (idle : state.processing = none) (announced : (state.uart ()).announcing = none)
      (fetched : (state.uart ()).pending = false) (notified : (state.uart ()).polling = .idle) :
      ¬ state.Known () := by
    rintro (⟨size, queued⟩ | ⟨size, got, processed⟩ | ⟨size, announcing⟩ | pending | fetching |
      ⟨size, notifying⟩)
    · rw [queue] at queued
      exact nomatch mem_singleton.mp queued
    · exact nomatch idle.symm.trans processed
    · exact nomatch announced.symm.trans announcing
    · exact nomatch fetched.symm.trans pending
    · exact nomatch notified.symm.trans fetching
    · exact nomatch notified.symm.trans notifying
  refine ⟨?_, ?_, ?_⟩
  · refine ⟨_, ⟨deafLabels, (some_get deafLabels_run).symm⟩, by decide, by decide,
      unknown _ ?_ ?_ ?_ ?_ ?_⟩ <;> decide
  · refine ⟨_, ⟨deafPollLabels, (some_get deafPollLabels_run).symm⟩, by decide, by decide,
      unknown _ ?_ ?_ ?_ ?_ ?_⟩ <;> decide
  · refine ⟨_, ⟨unconnectedLabels, (some_get unconnectedLabels_run).symm⟩, ?_, ?_, ?_, ?_,
      ?_, ?_⟩ <;> decide

end Solar.Remote.Reception
