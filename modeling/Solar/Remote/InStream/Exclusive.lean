/-
This file proves what exclusive groups are for: of the endpoints of a group at
most one has a stream, on at most one link. A Replace opening lists every row of
its group and installs its stream when the list is empty; a RejectExisting
opening is turned away while the group has a stream, and so finds none when it
installs its own.

The file also follows the streams of a row through a run. Every stream that was
opened has been closed once, unless it is the one that is active, and the peer is
told of an end only when a stream has ended.
-/

import Solar.Remote.InStream.Invariants

namespace Solar.Remote

open List Option

namespace InStreamRuntime

variable {Value : Type} {catalog : InStreamCatalog Value} {state next : InStreamRuntime catalog}
  {label : InStreamLabel catalog}

/-! ### One stream in a group -/

/-- At most one stream of a group is active, and the streams in the way of an opening are among
the rows still to be closed. -/
structure Exclusive (state : InStreamRuntime catalog) : Prop where
  single : ∀ name, ∀ first ∈ catalog.groupRows name, ∀ second ∈ catalog.groupRows name,
    (state.row first.1 first.2).active = true → (state.row second.1 second.2).active = true →
      first = second
  covering : ∀ rows reason notify endpoint link interval correlation name behavior,
    state.service = .closing rows reason notify (.install endpoint link interval correlation) →
      (catalog.traits endpoint).exclusive = some (name, behavior) →
        ∀ row ∈ catalog.groupRows name, (state.row row.1 row.2).active = true → row ∈ rows

variable {name : Nat} {rows : List catalog.Row} {request : SubscriptionRequest} {notify : Bool}
  {correlation : UInt32}

theorem exclusive_of_mem_groupRows {row : catalog.Row} (member : row ∈ catalog.groupRows name) :
    ∃ behavior, (catalog.traits row.1).exclusive = some (name, behavior) := by
  obtain ⟨endpoint, inside, listed⟩ := mem_flatMap.mp member
  obtain ⟨link, _, rfl⟩ := mem_map.mp listed
  have named := beq_iff_eq.mp (mem_filter.mp inside).2
  obtain ⟨⟨group, behavior⟩, found, rfl⟩ := map_eq_some_iff.mp named
  exact ⟨behavior, found⟩

theorem active_of_groupIsActive {row : catalog.Row} (member : row ∈ catalog.groupRows name)
    (silent : ¬ state.streams.groupIsActive name = true) :
    ¬ (state.row row.1 row.2).active = true := by
  intro active
  obtain ⟨behavior, exclusive⟩ := exclusive_of_mem_groupRows member
  exact silent (groupIsActive_of_active exclusive active)

/-- A new opening lists every active stream of its group. -/
theorem covering_subscribeStep {link : catalog.Link} {endpoint : catalog.Endpoint}
    (idle : state.service = .idle) {reason : InStreamCloseReason} {target : catalog.Endpoint}
    {targetLink : catalog.Link} {interval answered : UInt32}
    (held : (state.subscribeStep link endpoint request correlation).service =
      .closing rows reason notify (.install target targetLink interval answered))
    {behavior : ExclusiveBehavior}
    (exclusive : (catalog.traits target).exclusive = some (name, behavior)) {row : catalog.Row}
    (member : row ∈ catalog.groupRows name) (active : (state.row row.1 row.2).active = true) :
    row ∈ rows := by
  simp only [subscribeStep] at held
  split at held
  · cases idle.symm.trans held
  split at held
  · rename_i alone
    obtain ⟨rfl, _, _, same⟩ := ServicePhase.closing.inj held
    obtain ⟨rfl, rfl, _⟩ := AfterClose.install.inj same
    cases alone.symm.trans exclusive
  · rename_i group rejects
    split at held
    · cases idle.symm.trans held
    · rename_i silent
      obtain ⟨rfl, _, _, same⟩ := ServicePhase.closing.inj held
      obtain ⟨rfl, rfl, _⟩ := AfterClose.install.inj same
      obtain ⟨rfl, _⟩ := Prod.mk.inj (some.inj (rejects.symm.trans exclusive))
      exact absurd active (active_of_groupIsActive member silent)
  · rename_i group replaces
    obtain ⟨rfl, _, _, same⟩ := ServicePhase.closing.inj held
    obtain ⟨rfl, rfl, _⟩ := AfterClose.install.inj same
    obtain ⟨rfl, _⟩ := Prod.mk.inj (some.inj (replaces.symm.trans exclusive))
    exact member

theorem Exclusive.single_step (exclusive : Exclusive state) (stepped : Stepped state label next)
    {first : catalog.Row} (firstMember : first ∈ catalog.groupRows name)
    {second : catalog.Row} (secondMember : second ∈ catalog.groupRows name)
    (firstActive : (next.row first.1 first.2).active = true)
    (secondActive : (next.row second.1 second.2).active = true) : first = second := by
  -- An installation finds no other stream of the group.
  have alone : ∀ installed other : catalog.Row, installed ∈ catalog.groupRows name →
      other ∈ catalog.groupRows name → Installs state label next installed.1 installed.2 →
      ¬ (state.row other.1 other.2).active = true := by
    intro installed other member otherMember installs active
    obtain ⟨_, reason, notify, interval, correlation, _, phase, _⟩ := installs
    obtain ⟨behavior, group⟩ := exclusive_of_mem_groupRows member
    exact absurd (exclusive.covering _ _ _ _ _ _ _ _ _ phase group other otherMember active)
      not_mem_nil
  rcases stepped.active firstActive with firstBefore | firstInstalled
  · rcases stepped.active secondActive with secondBefore | secondInstalled
    · exact exclusive.single name first firstMember second secondMember firstBefore secondBefore
    · exact absurd firstBefore (alone second first secondMember firstMember secondInstalled)
  · rcases stepped.active secondActive with secondBefore | secondInstalled
    · exact absurd secondBefore (alone first second firstMember secondMember firstInstalled)
    · obtain ⟨_, _, _, _, _, _, firstPhase, _⟩ := firstInstalled
      obtain ⟨_, _, _, _, _, _, secondPhase, _⟩ := secondInstalled
      obtain ⟨_, _, _, same⟩ := ServicePhase.closing.inj (firstPhase.symm.trans secondPhase)
      obtain ⟨sameEndpoint, sameLink, _⟩ := AfterClose.install.inj same
      exact Prod.ext sameEndpoint sameLink

/-- Every active row of the group is still to be closed before the installation. -/
theorem Exclusive.covering_step (exclusive : Exclusive state) (taken : state.step label = some next)
    (stepped : Stepped state label next) {reason : InStreamCloseReason}
    {endpoint : catalog.Endpoint} {link : catalog.Link} {interval : UInt32}
    {behavior : ExclusiveBehavior} (held : next.service =
      .closing rows reason notify (.install endpoint link interval correlation))
    (group : (catalog.traits endpoint).exclusive = some (name, behavior)) {row : catalog.Row}
    (member : row ∈ catalog.groupRows name) (active : (next.row row.1 row.2).active = true) :
    row ∈ rows := by
  have before : (state.row row.1 row.2).active = true := by
    obtain earlier | ⟨_, _, _, _, _, _, _, rfl⟩ := stepped.active active
    · exact earlier
    · exact nomatch held
  cases stepped with
  | opening idle session listed interval own controls =>
    obtain ⟨_, same⟩ := ite_none_right_eq_some.mp taken
    have phase := congrArg InStreamRuntime.service (some.inj same)
    exact covering_subscribeStep idle (phase.trans held) group member before
  | closed phase =>
    obtain ⟨rfl, rfl, rfl, rfl⟩ := ServicePhase.closing.inj held
    obtain rfl | later := mem_cons.mp
      (exclusive.covering _ _ _ _ _ _ _ _ _ phase group row member before)
    · exact nomatch active.symm.trans (active_closeRow state _ _ _ _)
    · exact later
  | unsubscribed idle open_ same => exact nomatch (ServicePhase.closing.inj held).2.2.2
  | resetting idle =>
    have after := (ServicePhase.closing.inj held).2.2.2
    unfold ResetCause.after at after
    split at after
    · exact nomatch after
    · exact nomatch after
  | credited here => exact absurd held (afterCredit_ne_closing _)
  | workerCredited here =>
    exact exclusive.covering _ _ _ _ _ _ _ _ _ ((service_creditStep state _ _ _).symm.trans held)
      group row member before
  | _ =>
    first
    | exact exclusive.covering _ _ _ _ _ _ _ _ _ held group row member before
    | exact nomatch held

theorem Exclusive.step (exclusive : Exclusive state) (taken : state.step label = some next) :
    Exclusive next where
  single _ _ firstMember _ secondMember :=
    exclusive.single_step (step_stepped taken) firstMember secondMember
  covering _ _ _ _ _ _ _ _ _ held group _ member active :=
    exclusive.covering_step taken (step_stepped taken) held group member active

theorem exclusive_initial : Exclusive ({} : InStreamRuntime catalog) where
  single _ _ _ _ _ active _ := nomatch active
  covering _ _ _ _ _ _ _ _ _ held := nomatch held

/-! ### The streams of a run -/

/-- What a run does to a stream: it is opened, it is closed, or the peer asks for its end and is
going to be answered. -/
inductive StreamEvent {Value : Type} (catalog : InStreamCatalog Value)
  | opened (endpoint : catalog.Endpoint) (link : catalog.Link) (token : UInt32)
  | closed (endpoint : catalog.Endpoint) (link : catalog.Link) (token : UInt32)
      (reason : InStreamCloseReason)
  | answered (endpoint : catalog.Endpoint) (link : catalog.Link) (token : UInt32)

namespace StreamEvent

variable (endpoint : catalog.Endpoint) (link : catalog.Link) (token : UInt32)

def opens : StreamEvent catalog → Bool
  | .opened other otherLink named => (other, otherLink, named) = (endpoint, link, token)
  | _ => false

def closes : StreamEvent catalog → Bool
  | .closed other otherLink named _ => (other, otherLink, named) = (endpoint, link, token)
  | _ => false

def answers : StreamEvent catalog → Bool
  | .answered other otherLink named => (other, otherLink, named) = (endpoint, link, token)
  | _ => false

end StreamEvent

/-- An InStreamClosed frame about a stream. -/
def StreamFrame.tells (endpoint : catalog.Endpoint) (link : catalog.Link) (token : UInt32) :
    StreamFrame catalog → Bool
  | .closed other otherLink notice => (other, otherLink, notice.token) = (endpoint, link, token)
  | .credit _ _ => false

section

variable (state : InStreamRuntime catalog)

/-- The end of the stream of a row, if it has one. -/
def ends (endpoint : catalog.Endpoint) (link : catalog.Link) (reason : InStreamCloseReason) :
    List (StreamEvent catalog) :=
  if (state.row endpoint link).active then
    [.closed endpoint link (state.row endpoint link).token reason]
  else []

/-- What a step does to a stream. -/
def events : InStreamLabel catalog → List (StreamEvent catalog)
  | .service _ =>
      match state.service with
      | .closing ((endpoint, link) :: _) reason _ _ => state.ends endpoint link reason
      | .closing [] _ _ (.install endpoint link _ _) =>
          [.opened endpoint link state.issuedToken]
      | .abandoning endpoint link reason => state.ends endpoint link reason
      | _ => []
  | .unsubscribe link endpoint token =>
      if (state.row endpoint link).active ∧ (state.row endpoint link).token = token then
        [.answered endpoint link token]
      else []
  | _ => []

/-- The row whose stream the service is about to close because its peer asked for it. -/
def owing : Option catalog.Row :=
  match state.service with
  | .closing (row :: _) .closed _ _ => some row
  | _ => none

/-- The service closes one stream on request, which is active, and sends no InStreamClosed. -/
def Answering : Prop :=
  ∀ rows notify after, state.service = .closing rows .closed notify after →
    notify = false ∧ ∀ row rest, rows = row :: rest →
      rest = [] ∧ (state.row row.1 row.2).active = true

end

/-- What a step does to the streams. -/
inductive Followed (state : InStreamRuntime catalog) :
    List (StreamEvent catalog) → InStreamRuntime catalog → Prop
  | quiet {next : InStreamRuntime catalog}
      (headers : ∀ endpoint link,
        (next.row endpoint link).header = (state.row endpoint link).header)
      (told : ∀ endpoint link token, next.sent.countP (StreamFrame.tells endpoint link token) =
        state.sent.countP (StreamFrame.tells endpoint link token))
      (debt : next.owing = state.owing) : Followed state [] next
  | ended {next : InStreamRuntime catalog} (endpoint : catalog.Endpoint) (link : catalog.Link)
      (reason : InStreamCloseReason) (notified : Bool)
      (rows : ∀ other otherLink, next.row other otherLink =
        (state.closeRow endpoint link reason notified).row other otherLink)
      (told : next.sent = (state.closeRow endpoint link reason notified).sent)
      (debt : state.owing = none ∨ state.owing = some (endpoint, link) ∧ notified = false ∧
        (state.row endpoint link).active = true)
      (settled : next.owing = none) : Followed state (state.ends endpoint link reason) next
  | opened {next : InStreamRuntime catalog} (endpoint : catalog.Endpoint) (link : catalog.Link)
      (token interval : UInt32) (vacant : (state.row endpoint link).active = false)
      (rows : ∀ other otherLink, next.row other otherLink =
        (state.setRow endpoint link ((state.row endpoint link).install token interval)).row
          other otherLink)
      (told : next.sent = state.sent) (debt : state.owing = none) (settled : next.owing = none) :
      Followed state [.opened endpoint link token] next
  | asked {next : InStreamRuntime catalog} (endpoint : catalog.Endpoint) (link : catalog.Link)
      (active : (state.row endpoint link).active = true)
      (rows : ∀ other otherLink, next.row other otherLink = state.row other otherLink)
      (told : next.sent = state.sent) (debt : state.owing = none)
      (owed : next.owing = some (endpoint, link)) :
      Followed state [.answered endpoint link (state.row endpoint link).token] next

theorem owing_of_idle (idle : state.service = .idle) : state.owing = none := by
  rw [owing, idle]

theorem owing_closing {reason : InStreamCloseReason} {after : AfterClose catalog}
    (phase : state.service = .closing rows reason notify after)
    (other : reason ≠ .closed ∨ rows = []) : state.owing = none := by
  rw [owing, phase]
  split
  · rename_i same
    obtain ⟨rfl, rfl, _⟩ := ServicePhase.closing.inj same
    exact other.elim (fun different => absurd rfl different) nofun
  · rfl

theorem told_creditStep {endpoint target : catalog.Endpoint}
    {link : catalog.Link} {token : UInt32} {succeeds : Bool}
    {phase : CreditPhase catalog.linkCount} :
    (state.creditStep endpoint succeeds phase).1.sent.countP (StreamFrame.tells target link token) =
      state.sent.countP (StreamFrame.tells target link token) := by
  cases phase with
  | transmitting frame =>
    cases succeeds with
    | true =>
      rw [creditStep, if_pos rfl, countP_append]
      rfl
    | false => rfl
  | _ => rfl

section

variable (other : ∀ rows reason notify after, state.service ≠ .closing rows reason notify after)

include other

theorem events_service {succeeds : Bool}
    (kept : ∀ endpoint link reason, state.service ≠ .abandoning endpoint link reason) :
    state.events (.service succeeds) = [] := by
  unfold events
  dsimp only
  split
  · rename_i phase
    exact absurd phase (other _ _ _ _)
  · rename_i phase
    exact absurd phase (other _ _ _ _)
  · rename_i phase
    exact absurd phase (kept _ _ _)
  · rfl

theorem owing_of_not_closing : state.owing = none := by
  unfold owing
  split
  · rename_i phase
    exact absurd phase (other _ _ _ _)
  · rfl

end

theorem followed_refused (idle : state.service = .idle) (taken : state.step label = some state) :
    Followed state (state.events label) state := by
  have silent : state.events label = [] := by
    cases label with
    | unsubscribe link endpoint token =>
      obtain ⟨_, same⟩ := ite_none_right_eq_some.mp taken
      rw [events, if_neg]
      intro open_
      rw [if_pos open_] at same
      have phase := congrArg InStreamRuntime.service (some.inj same)
      exact nomatch phase.trans idle
    | service succeeds =>
      exact events_service (fun _ _ _ _ => by rw [idle]; nofun) fun _ _ _ => by rw [idle]; nofun
    | _ => rfl
  rw [silent]
  exact .quiet (fun _ _ => rfl) (fun _ _ _ => rfl) rfl

/-- One case for each step, with the events that it leaves. -/
theorem followed_step (wellformed : Wellformed state) (answering : Answering state)
    (taken : state.step label = some next) : Followed state (state.events label) next := by
  have stepped := step_stepped taken
  cases stepped with
  | refused idle => exact followed_refused idle taken
  | @closed succeeds endpoint link rows reason notify after phase =>
    have event : state.events (.service succeeds) = state.ends endpoint link reason := by
      simp only [events, phase]
    rw [event]
    refine .ended endpoint link reason (notify && succeeds) (fun _ _ => rfl) rfl ?_ ?_
    · by_cases requested : reason = .closed
      · subst requested
        obtain ⟨quiet, single⟩ := answering _ _ _ phase
        obtain ⟨_, active⟩ := single _ _ rfl
        exact .inr ⟨by rw [owing, phase], by rw [quiet, Bool.false_and], active⟩
      · exact .inl (owing_closing phase (.inl requested))
    · by_cases requested : reason = .closed
      · subst requested
        obtain ⟨rfl, _⟩ := (answering _ _ _ phase).2 _ _ rfl
        exact owing_closing rfl (.inr rfl)
      · exact owing_closing rfl (.inl requested)
  | @abandoned succeeds endpoint link reason phase =>
    have event : state.events (.service succeeds) = state.ends endpoint link reason := by
      simp only [events, phase]
    rw [event]
    exact .ended endpoint link reason succeeds (fun _ _ => rfl) rfl
      (.inl (owing_of_not_closing fun _ _ _ _ => by rw [phase]; nofun)) (owing_of_idle rfl)
  | @installed succeeds endpoint link reason notify interval correlation phase =>
    have event : state.events (.service succeeds) = [.opened endpoint link state.issuedToken] := by
      simp only [events, phase]
    rw [event]
    refine .opened endpoint link state.issuedToken interval ?_ (fun _ _ => rfl) rfl
      (owing_closing phase (.inr rfl)) (owing_of_not_closing nofun)
    exact eq_false_of_ne_true fun active =>
      not_mem_nil (wellformed.replacing _ _ _ _ _ _ _ phase active)
  | @unsubscribed link endpoint token idle active same =>
    subst same
    have event : state.events (.unsubscribe link endpoint (state.row endpoint link).token) =
        [.answered endpoint link (state.row endpoint link).token] := if_pos ⟨active, rfl⟩
    rw [event]
    exact .asked endpoint link active (fun _ _ => rfl) rfl (owing_of_idle idle) rfl
  | opening idle session rows interval listed controls =>
    refine .quiet (fun _ _ => rfl) (fun _ _ _ => rfl) (Eq.trans ?_ (owing_of_idle idle).symm)
    cases rows <;> rfl
  | @resetting link cause idle =>
    refine .quiet (fun _ _ => rfl) (fun _ _ _ => rfl) (Eq.trans ?_ (owing_of_idle idle).symm)
    cases cause with
    | _ => cases catalog.linkRows link <;> rfl
  | rejected | activated | woken | rested | delivered | skipped =>
    exact .quiet (fun _ _ => rfl) (fun _ _ _ => rfl) rfl
  | rateRejected idle decoded failed change =>
    exact .quiet (fun _ _ => rfl) (fun _ _ _ => rfl) (owing_of_idle idle).symm
  | admittedInline idle decoded stored | admittedDeferred idle decoded stored =>
    exact .quiet (header_setRow (InStreamLink.header_admitFrame stored)) (fun _ _ _ => rfl)
      (owing_of_idle idle).symm
  | took here found =>
    exact .quiet (header_setRow (InStreamLink.header_take found)) (fun _ _ _ => rfl) rfl
  | released here change =>
    exact .quiet (header_setRow (InStreamLink.header_release _ _)) (fun _ _ _ => rfl) rfl
  | workerCredited here =>
    refine .quiet (header_creditStep state _ _ _)
      (fun target link token => told_creditStep) ?_
    exact congrArg (fun phase : ServicePhase catalog => match phase with
      | .closing (row :: _) .closed _ _ => some row
      | _ => none) (service_creditStep state _ _ _)
  | @deactivated succeeds link reason notify phase | @finished succeeds reason notify phase =>
    rw [show state.events (.service succeeds) = [] by simp only [events, phase]]
    exact .quiet (fun _ _ => rfl) (fun _ _ _ => rfl) (owing_closing phase (.inr rfl)).symm
  | @credited succeeds endpoint work here =>
    rw [show state.events (.service succeeds) = [] by simp only [events, here]]
    refine .quiet (header_creditStep state _ _ _)
      (fun target link token => told_creditStep) ?_
    rw [owing_of_not_closing fun _ _ _ _ => afterCredit_ne_closing _,
      owing_of_not_closing fun _ _ _ _ => by rw [here]; nofun]
  | submissionFailed phase =>
    rw [events_service (fun _ _ _ _ => by rw [phase]; nofun) fun _ _ _ => by rw [phase]; nofun]
    refine .quiet (header_setRow (InStreamLink.header_withdraw _ _)) (fun _ _ _ => rfl) ?_
    exact (owing_of_not_closing fun _ _ _ _ => by rw [phase]; nofun).symm
  | drained phase idle =>
    rw [events_service (fun _ _ _ _ => by rw [phase]; nofun) fun _ _ _ => by rw [phase]; nofun]
    exact .quiet (fun _ _ => rfl) (fun _ _ _ => rfl)
      (owing_of_not_closing fun _ _ _ _ => by rw [phase]; nofun).symm
  | configured phase | configurationFailed phase | responded phase | responseFailed phase
  | granted phase | submitted phase =>
    rw [events_service (fun _ _ _ _ => by rw [phase]; nofun) fun _ _ _ => by rw [phase]; nofun]
    exact .quiet (fun _ _ => rfl) (fun _ _ _ => rfl)
      (owing_of_not_closing fun _ _ _ _ => by rw [phase]; nofun).symm

/-! ### Streams closed on request -/

theorem ne_closed_of_cause {cause : ResetCause} : cause.reason ≠ .closed := by
  cases cause <;> nofun

theorem replaced_of_subscribeStep {link : catalog.Link} {endpoint : catalog.Endpoint}
    (idle : state.service = .idle) {reason : InStreamCloseReason} {after : AfterClose catalog}
    (held : (state.subscribeStep link endpoint request correlation).service =
      .closing rows reason notify after) : reason = .replaced := by
  simp only [subscribeStep] at held
  split at held
  · cases idle.symm.trans held
  split at held
  · exact (ServicePhase.closing.inj held).2.1.symm
  · split at held
    · cases idle.symm.trans held
    · exact (ServicePhase.closing.inj held).2.1.symm
  · exact (ServicePhase.closing.inj held).2.1.symm

/-- An answer that is owed names the stream of its row. -/
theorem Answering.step (answering : Answering state) (taken : state.step label = some next) :
    Answering next := by
  intro rows notify after held
  have kept (same : state.service = .closing rows .closed notify after) (headers : ∀ endpoint link,
        (next.row endpoint link).header = (state.row endpoint link).header) :
      notify = false ∧ ∀ row rest, rows = row :: rest →
        rest = [] ∧ (next.row row.1 row.2).active = true := by
    obtain ⟨quiet, single⟩ := answering _ _ _ same
    refine ⟨quiet, fun row rest listed => ?_⟩
    obtain ⟨alone, active⟩ := single row rest listed
    exact ⟨alone, (congrArg Prod.fst (headers row.1 row.2)).trans active⟩
  cases step_stepped taken with
  | opening idle session listed interval own controls =>
    obtain ⟨_, same⟩ := ite_none_right_eq_some.mp taken
    have phase := congrArg InStreamRuntime.service (some.inj same)
    exact nomatch replaced_of_subscribeStep idle (phase.trans held)
  | @unsubscribed link endpoint token idle active same =>
    obtain ⟨rfl, _, rfl, _⟩ := ServicePhase.closing.inj held
    refine ⟨rfl, fun row rest listed => ?_⟩
    obtain ⟨rfl, rfl⟩ := cons.inj listed
    exact ⟨rfl, active⟩
  | @resetting link cause idle =>
    exact absurd (ServicePhase.closing.inj held).2.1 ne_closed_of_cause
  | closed phase =>
    obtain ⟨rfl, rfl, rfl, rfl⟩ := ServicePhase.closing.inj held
    obtain ⟨quiet, single⟩ := answering _ _ _ phase
    obtain ⟨rfl, _⟩ := single _ _ rfl
    exact ⟨quiet, nofun⟩
  | credited here => exact absurd held (afterCredit_ne_closing _)
  | workerCredited here =>
    exact kept ((service_creditStep state _ _ _).symm.trans held) (header_creditStep state _ _ _)
  | took here found => exact kept held (header_setRow (InStreamLink.header_take found))
  | released here change => exact kept held (header_setRow (InStreamLink.header_release _ _))
  | _ =>
    first
    | exact kept held fun _ _ => rfl
    | exact nomatch held

theorem answering_initial : Answering ({} : InStreamRuntime catalog) := nofun

/-! ### The account of a run -/

/-- The events of a run account for the streams: what was opened was closed, or is active, and
whoever was told of the end of a stream was told of one that ended. -/
structure Logged (log : List (StreamEvent catalog)) (state : InStreamRuntime catalog) : Prop where
  balanced : ∀ endpoint link token, log.countP (StreamEvent.opens endpoint link token) =
    log.countP (StreamEvent.closes endpoint link token) +
      if (state.row endpoint link).active = true ∧ (state.row endpoint link).token = token
        then 1 else 0
  told : ∀ endpoint link token, state.sent.countP (StreamFrame.tells endpoint link token) +
      log.countP (StreamEvent.answers endpoint link token) ≤
    log.countP (StreamEvent.closes endpoint link token) +
      if state.owing = some (endpoint, link) ∧ (state.row endpoint link).token = token
        then 1 else 0

variable {log happened : List (StreamEvent catalog)}

theorem naming_iff {endpoint other : catalog.Endpoint} {link otherLink : catalog.Link}
    {token named : UInt32} :
    decide ((other, otherLink, named) = (endpoint, link, token)) = true ↔
      (endpoint, link) = (other, otherLink) ∧ named = token := by
  rw [decide_eq_true_iff, Prod.mk.injEq, Prod.mk.injEq, Prod.mk.injEq, and_assoc, eq_comm,
    @eq_comm _ otherLink]

theorem countP_opened (endpoint target : catalog.Endpoint) (link targetLink : catalog.Link)
    (token issued : UInt32) :
    [(.opened target targetLink issued : StreamEvent catalog)].countP
        (StreamEvent.opens endpoint link token) =
      if (endpoint, link) = (target, targetLink) ∧ issued = token then 1 else 0 := by
  rw [countP_singleton]
  exact if_congr naming_iff rfl rfl

theorem countP_answered (endpoint target : catalog.Endpoint) (link targetLink : catalog.Link)
    (token named : UInt32) :
    [(.answered target targetLink named : StreamEvent catalog)].countP
        (StreamEvent.answers endpoint link token) =
      if (endpoint, link) = (target, targetLink) ∧ named = token then 1 else 0 := by
  rw [countP_singleton]
  exact if_congr naming_iff rfl rfl

section

variable (state)
  (endpoint target : catalog.Endpoint) (link targetLink : catalog.Link) (token : UInt32)
  (reason : InStreamCloseReason)

theorem countP_ends_opens :
    (state.ends target targetLink reason).countP (StreamEvent.opens endpoint link token) = 0 := by
  unfold ends
  split
  · rfl
  · rfl

theorem countP_ends_answers :
    (state.ends target targetLink reason).countP (StreamEvent.answers endpoint link token) = 0 := by
  unfold ends
  split
  · rfl
  · rfl

theorem countP_ends_closes :
    (state.ends target targetLink reason).countP (StreamEvent.closes endpoint link token) =
      if (endpoint, link) = (target, targetLink) ∧ (state.row endpoint link).active = true ∧
        (state.row endpoint link).token = token then 1 else 0 := by
  unfold ends
  split
  · rename_i active
    rw [countP_singleton]
    refine if_congr (naming_iff.trans (and_congr_right fun same => ?_)) rfl rfl
    obtain ⟨⟩ := same
    exact (and_iff_right active).symm
  · rename_i silent
    rw [if_neg]
    · rfl
    · intro counted
      obtain ⟨⟩ := counted.1
      exact silent counted.2.1

theorem told_closeRow (notified : Bool) :
    (state.closeRow target targetLink reason notified).sent.countP
        (StreamFrame.tells endpoint link token) =
      state.sent.countP (StreamFrame.tells endpoint link token) +
        if notified = true then
          (state.ends target targetLink reason).countP (StreamEvent.closes endpoint link token)
        else 0 := by
  unfold closeRow ends
  split
  · cases notified with
    | true => exact countP_append
    | false => rfl
  · rw [countP_nil, ite_self, Nat.add_zero]

theorem nothing_owed (row : catalog.Row) (condition : Prop) [Decidable condition] :
    (if (none : Option catalog.Row) = some row ∧ condition then 1 else 0) = 0 :=
  if_neg fun both => nomatch both.1

theorem owed_iff :
    some (target, targetLink) = some (endpoint, link) ∧ (state.row endpoint link).token = token ↔
      (endpoint, link) = (target, targetLink) ∧ (state.row target targetLink).token = token := by
  constructor
  · rintro ⟨same, named⟩
    obtain ⟨⟩ := same
    exact ⟨rfl, named⟩
  · rintro ⟨same, named⟩
    obtain ⟨⟩ := same
    exact ⟨rfl, named⟩

end

/-- A token has been opened once more than closed exactly while its row is active. -/
theorem Logged.balanced_followed (logged : Logged log state)
    (followed : Followed state happened next) (endpoint : catalog.Endpoint)
    (link : catalog.Link) (token : UInt32) :
    (log ++ happened).countP (StreamEvent.opens endpoint link token) =
      (log ++ happened).countP (StreamEvent.closes endpoint link token) +
        if (next.row endpoint link).active = true ∧ (next.row endpoint link).token = token
          then 1 else 0 := by
  have before := logged.balanced endpoint link token
  rw [countP_append, countP_append, before]
  cases followed with
  | quiet headers told debt =>
    obtain ⟨active, named⟩ := Prod.mk.inj (headers endpoint link)
    rw [active, (Prod.mk.inj named).1]
    rfl
  | ended target targetLink reason notified rows told debt settled =>
    rw [countP_ends_opens, countP_ends_closes, rows]
    by_cases same : (endpoint, link) = (target, targetLink)
    · obtain ⟨⟩ := same
      simp [active_closeRow]
    · rw [row_closeRow_of_ne same,
        if_neg (fun both : (endpoint, link) = (target, targetLink) ∧ _ => same both.1)]
      rfl
  | opened target targetLink issued interval vacant rows told debt settled =>
    rw [rows, countP_opened]
    by_cases same : (endpoint, link) = (target, targetLink)
    · obtain ⟨⟩ := same
      rw [row_setRow_self, vacant]
      simp only [true_and, InStreamLink.install]
      rfl
    · rw [row_setRow_of_ne _ _ _ _ same,
        if_neg (fun both : (endpoint, link) = (target, targetLink) ∧ _ => same both.1)]
      rfl
  | asked target targetLink active rows told debt owed =>
    rw [rows]
    rfl

/-- A closure is told or answered at most once. -/
theorem Logged.told_followed (logged : Logged log state)
    (followed : Followed state happened next) (endpoint : catalog.Endpoint) (link : catalog.Link)
    (token : UInt32) :
    next.sent.countP (StreamFrame.tells endpoint link token) +
        (log ++ happened).countP (StreamEvent.answers endpoint link token) ≤
      (log ++ happened).countP (StreamEvent.closes endpoint link token) +
        if next.owing = some (endpoint, link) ∧ (next.row endpoint link).token = token
          then 1 else 0 := by
  have before := logged.told endpoint link token
  rw [countP_append, countP_append]
  cases followed with
  | quiet headers told debt =>
    obtain ⟨_, named⟩ := Prod.mk.inj (headers endpoint link)
    rw [told, debt, (Prod.mk.inj named).1]
    exact before
  | ended target targetLink reason notified rows told debt settled =>
    rw [told, told_closeRow, countP_ends_answers]
    obtain free | ⟨owed, rfl, active⟩ := debt
    · rw [free, nothing_owed] at before
      split
      · omega
      · omega
    · have paid : (state.ends target targetLink reason).countP
          (StreamEvent.closes endpoint link token) =
          if state.owing = some (endpoint, link) ∧ (state.row endpoint link).token = token
            then 1 else 0 := by
        rw [countP_ends_closes, owed]
        refine if_congr ((and_congr_right fun same => ?_).trans (owed_iff _ _ _ _ _ _).symm) rfl rfl
        obtain ⟨⟩ := same
        exact and_iff_right active
      simp only [Bool.false_eq_true, if_false]
      omega
  | opened target targetLink issued interval vacant rows told debt settled =>
    rw [told, settled]
    rw [debt] at before
    exact before
  | asked target targetLink active rows told debt owed =>
    rw [debt, nothing_owed] at before
    have owing : [(.answered target targetLink (state.row target targetLink).token :
        StreamEvent catalog)].countP (StreamEvent.answers endpoint link token) =
          if next.owing = some (endpoint, link) ∧ (next.row endpoint link).token = token
            then 1 else 0 := by
      rw [countP_answered, owed, rows]
      exact if_congr (owed_iff _ _ _ _ _ _).symm rfl rfl
    rw [told]
    omega

theorem Logged.followed (logged : Logged log state) (followed : Followed state happened next) :
    Logged (log ++ happened) next where
  balanced := logged.balanced_followed followed
  told := logged.told_followed followed

theorem logged_initial : Logged [] ({} : InStreamRuntime catalog) where
  balanced _ _ _ := rfl
  told _ _ _ := Nat.le_refl 0

/-- The events of a run from the start. -/
def eventsAlong (labels : List (InStreamLabel catalog)) : List (StreamEvent catalog) :=
  (inStreamMachine catalog).observed events {} labels

/-- What the events of a run and the state it reaches have in common. -/
structure Traced (log : List (StreamEvent catalog)) (state : InStreamRuntime catalog) : Prop where
  logged : Logged log state
  exclusive : Exclusive state
  wellformed : Wellformed state
  answering : Answering state

theorem Traced.run {labels : List (InStreamLabel catalog)}
    (ran : (inStreamMachine catalog).run {} labels = some state) :
    Traced (eventsAlong labels) state := by
  have start : Traced [] ({} : InStreamRuntime catalog) :=
    ⟨logged_initial, exclusive_initial, wellformed_initial, answering_initial⟩
  refine (inStreamMachine catalog).run_observed (fun past state label next traced taken => ?_)
    start ran
  exact {
    logged := traced.logged.followed (followed_step traced.wellformed traced.answering taken)
    exclusive := traced.exclusive.step taken
    wellformed := traced.wellformed.step (step_stepped taken)
    answering := traced.answering.step taken }

theorem refused_of_groupIsActive {link : catalog.Link} {endpoint : catalog.Endpoint}
    (rejects : (catalog.traits endpoint).exclusive = some (name, .rejectExisting))
    (active : state.streams.groupIsActive name = true) :
    state.subscribeStep link endpoint request correlation = state := by
  simp [subscribeStep, rejects, if_pos active]

/-- After any run at most one row of an exclusive group has a stream, a RejectExisting opening
against a group with a stream changes no state, and every stream that was opened was closed once
or is still open. Between two frames the InStreamClosed frames and the answers to close requests
about a stream are no more than its ends. -/
theorem exclusive_groups {labels : List (InStreamLabel catalog)}
    (ran : (inStreamMachine catalog).run {} labels = some state) :
    (∀ name, ∀ first ∈ catalog.groupRows name, ∀ second ∈ catalog.groupRows name,
      (state.row first.1 first.2).active = true → (state.row second.1 second.2).active = true →
        first = second) ∧
    (∀ link endpoint request correlation name next,
      (catalog.traits endpoint).exclusive = some (name, .rejectExisting) →
      state.streams.groupIsActive name = true →
      state.step (.subscribe link endpoint request correlation) = some next → next = state) ∧
    (∀ endpoint link token, (eventsAlong labels).countP (StreamEvent.opens endpoint link token) =
        (eventsAlong labels).countP (StreamEvent.closes endpoint link token) +
          if (state.row endpoint link).active = true ∧ (state.row endpoint link).token = token
            then 1 else 0) ∧
    (state.isIdle = true → ∀ endpoint link token,
      state.sent.countP (StreamFrame.tells endpoint link token) +
          (eventsAlong labels).countP (StreamEvent.answers endpoint link token) ≤
        (eventsAlong labels).countP (StreamEvent.closes endpoint link token)) := by
  have traced := Traced.run ran
  refine ⟨traced.exclusive.single, ?_, traced.logged.balanced, ?_⟩
  · intro link endpoint request correlation name next rejects active taken
    obtain ⟨_, same⟩ := ite_none_right_eq_some.mp taken
    rw [refused_of_groupIsActive rejects active] at same
    exact (some.inj same).symm
  · intro idle endpoint link token
    have told := traced.logged.told endpoint link token
    rw [owing_of_idle (isIdle_iff.mp idle)] at told
    exact told

/-- Two endpoints of one group, the second of which replaces the stream of the first. -/
def rivalCatalog : InStreamCatalog UInt8 where
  linkCount := 1
  control := fun _ => true
  endpoints :=
    [{ window := 1, window_pos := Nat.one_pos, window_le := Nat.le_add_right 1 63, decode := head?,
        exclusive := some (7, .rejectExisting) },
      { window := 1, window_pos := Nat.one_pos, window_le := Nat.le_add_right 1 63, decode := head?,
        exclusive := some (7, .replaceExisting) }]
  ticksPerSecond := 1000

namespace Rivals

def link : rivalCatalog.Link := ⟨0, by decide⟩

def first : rivalCatalog.Endpoint := ⟨0, by decide⟩

def second : rivalCatalog.Endpoint := ⟨1, by decide⟩

/-- The peer opens one endpoint after the other. -/
def run : List (InStreamLabel rivalCatalog) :=
  [.clientHello link, .subscribe link first {} 1] ++ replicate 6 (.service true) ++
    [.subscribe link second {} 2] ++ replicate 8 (.service true)

end Rivals

/-- The second opening closed the stream of the first. -/
theorem exclusive_groups_rivals :
    ∃ state : InStreamRuntime rivalCatalog,
      (inStreamMachine rivalCatalog).run {} Rivals.run = some state ∧ state.isIdle = true ∧
      (eventsAlong Rivals.run).countP (StreamEvent.closes Rivals.first Rivals.link 1) = 1 ∧
      (eventsAlong Rivals.run).countP (StreamEvent.opens Rivals.first Rivals.link 1) =
        (eventsAlong Rivals.run).countP (StreamEvent.closes Rivals.first Rivals.link 1) +
          if (state.row Rivals.first Rivals.link).active = true ∧
            (state.row Rivals.first Rivals.link).token = 1 then 1 else 0 :=
  ⟨((inStreamMachine rivalCatalog).run {} Rivals.run).get (by decide), by simp, by decide,
    by decide,
    (exclusive_groups (some_get (by decide)).symm).2.2.1 Rivals.first Rivals.link 1⟩

end InStreamRuntime

end Solar.Remote
