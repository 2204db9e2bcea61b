/-
This file proves what holds in every reachable state of the interleaved system,
whatever the run does. Two facts about one step carry it: a row's stream changes
only when the service closes or installs it (`Stepped.header`), and a running
sample leaves its slot only when its worker empties it (`Stepped.keepsRunning`).
From them follow the standing facts of `Wellformed`: a worker's sample runs in
the slot the worker remembers, a link without a session has no stream, and the
sample the service is about to submit belongs to the stream of its link.
-/

import Solar.Remote.InStream.Steps

namespace Solar.Remote.InStreamRuntime

open List Function

variable {Value : Type} {catalog : InStreamCatalog Value}
  {state next : InStreamRuntime catalog} {label : InStreamLabel catalog}

/-! ### What a step does to one row -/

variable {endpoint : catalog.Endpoint} {link : catalog.Link}
  (rest : Option (CreditPhase catalog.linkCount)) {reason : InStreamCloseReason}
  {replacement : InStreamLink Value (catalog.window endpoint)}
  {phase : CreditPhase catalog.linkCount} {generation : UInt32} {rows : List catalog.Row}
  {other : catalog.Endpoint} {notify : Bool} {envelope : Envelope}

theorem row_setRow_induction {motive : (other : catalog.Endpoint) → catalog.Link →
      InStreamLink Value (catalog.window other) → Prop}
    (other : catalog.Endpoint) (otherLink : catalog.Link)
    (replaced : motive endpoint link replacement)
    (kept : (other, otherLink) ≠ (endpoint, link) →
      motive other otherLink (state.row other otherLink)) :
    motive other otherLink ((state.setRow endpoint link replacement).row other otherLink) := by
  by_cases same : (other, otherLink) = (endpoint, link)
  · obtain ⟨⟩ := same
    rw [row_setRow_self]
    exact replaced
  · rw [row_setRow_of_ne _ _ _ _ same]
    exact kept same

theorem header_setRow (same : replacement.header = (state.row endpoint link).header)
    (other : catalog.Endpoint) (otherLink : catalog.Link) :
    ((state.setRow endpoint link replacement).row other otherLink).header =
      (state.row other otherLink).header :=
  row_setRow_induction (motive := fun other otherLink row =>
    row.header = (state.row other otherLink).header) other otherLink same fun _ => rfl

theorem header_creditStep (state : InStreamRuntime catalog) (endpoint : catalog.Endpoint)
    (succeeds : Bool) (phase : CreditPhase catalog.linkCount) (other : catalog.Endpoint)
    (otherLink : catalog.Link) :
    ((state.creditStep endpoint succeeds phase).1.row other otherLink).header =
      (state.row other otherLink).header := by
  cases phase with
  | returning link token generation =>
    exact header_setRow (InStreamLink.header_returnCredit _ token generation) other otherLink
  | transmitting frame => cases succeeds <;> rfl
  | _ => rfl

theorem row_creditStep_of_ne (different : other ≠ endpoint) (succeeds : Bool)
    (phase : CreditPhase catalog.linkCount) (link : catalog.Link) :
    (state.creditStep endpoint succeeds phase).1.row other link = state.row other link := by
  cases phase with
  | returning target token generation =>
    exact row_setRow_of_ne _ _ _ _ fun same => different (Prod.mk.inj same).1
  | transmitting frame => cases succeeds <;> rfl
  | _ => rfl

theorem slots_creditStep (state : InStreamRuntime catalog) (endpoint : catalog.Endpoint)
    (succeeds : Bool) (phase : CreditPhase catalog.linkCount) (other : catalog.Endpoint)
    (otherLink : catalog.Link) :
    ((state.creditStep endpoint succeeds phase).1.row other otherLink).slots =
      (state.row other otherLink).slots := by
  cases phase with
  | returning link token generation =>
    exact row_setRow_induction (motive := fun other otherLink row =>
      row.slots = (state.row other otherLink).slots) other otherLink
      (InStreamLink.slots_returnCredit _ token generation) fun _ => rfl
  | transmitting frame => cases succeeds <;> rfl
  | _ => rfl

theorem row_closeRow_of_ne {otherLink : catalog.Link}
    (different : (other, otherLink) ≠ (endpoint, link)) (reason : InStreamCloseReason)
    (notified : Bool) :
    (state.closeRow endpoint link reason notified).row other otherLink =
      state.row other otherLink := by
  unfold closeRow
  split
  · exact row_setRow_of_ne _ _ _ _ different
  · rfl

section

variable (state) (endpoint) (link) (reason)

theorem active_closeRow (notified : Bool) :
    ((state.closeRow endpoint link reason notified).row endpoint link).active = false := by
  unfold closeRow
  split
  · exact congrArg InStreamLink.active (row_setRow_self state endpoint link _)
  · rename_i inactive
    exact Bool.eq_false_iff.mpr inactive

theorem header_closeRow {notified : Bool} {otherLink : catalog.Link} :
    ((state.closeRow endpoint link reason notified).row other otherLink).header =
        (state.row other otherLink).header ∨
      ((state.closeRow endpoint link reason notified).row other otherLink).active = false := by
  by_cases same : (other, otherLink) = (endpoint, link)
  · obtain ⟨⟩ := same
    exact .inr (active_closeRow state _ _ _ _)
  · exact .inl (congrArg _ (row_closeRow_of_ne same reason notified))

end

/-- The step by which the service installs a stream on a row. -/
def Installs (state : InStreamRuntime catalog) (label : InStreamLabel catalog)
    (next : InStreamRuntime catalog) (endpoint : catalog.Endpoint) (link : catalog.Link) : Prop :=
  ∃ succeeds reason notify interval correlation, label = .service succeeds ∧
    state.service = .closing [] reason notify (.install endpoint link interval correlation) ∧
    next = state.installStep endpoint link interval correlation

/-- The stream of a row changes only by the service: it closes it or installs a new one. -/
theorem Stepped.header (stepped : Stepped state label next) (endpoint : catalog.Endpoint)
    (link : catalog.Link) :
    (next.row endpoint link).header = (state.row endpoint link).header ∨
      ((next.row endpoint link).active = false ∧ next.service.isQuiet = true) ∨
      Installs state label next endpoint link := by
  cases stepped with
  | admittedInline idle decoded stored | admittedDeferred idle decoded stored =>
    exact .inl (header_setRow (InStreamLink.header_admitFrame stored) endpoint link)
  | closed | abandoned =>
    obtain kept | inactive := header_closeRow state _ _ _
    · exact .inl kept
    · exact .inr (.inl ⟨inactive, rfl⟩)
  | @installed _ target targetLink reason notify interval correlation phase =>
    by_cases same : (endpoint, link) = (target, targetLink)
    · obtain ⟨⟩ := same
      exact .inr (.inr ⟨_, reason, notify, interval, correlation, rfl, phase, rfl⟩)
    · exact .inl (congrArg _ (row_setRow_of_ne state target targetLink _ same))
  | submissionFailed phase =>
    exact .inl (header_setRow (InStreamLink.header_withdraw _ _) endpoint link)
  | credited | workerCredited => exact .inl (header_creditStep state _ _ _ endpoint link)
  | took here found => exact .inl (header_setRow (InStreamLink.header_take found) endpoint link)
  | released here change =>
    exact .inl (header_setRow (InStreamLink.header_release _ _) endpoint link)
  | _ => exact .inl rfl

theorem keepsRunning_setRow (kept : (state.row endpoint link).KeepsRunning replacement)
    {otherLink : catalog.Link} :
    (state.row other otherLink).KeepsRunning
      ((state.setRow endpoint link replacement).row other otherLink) :=
  row_setRow_induction (motive := fun other otherLink row =>
    (state.row other otherLink).KeepsRunning row) other otherLink kept
    fun _ _ _ stored _ => stored

section

variable (state) (endpoint)

theorem keepsRunning_creditStep {succeeds : Bool} {otherLink : catalog.Link} :
    (state.row other otherLink).KeepsRunning
      ((state.creditStep endpoint succeeds phase).1.row other otherLink) := by
  intro index slot stored _
  rw [slots_creditStep]
  exact stored

theorem keepsRunning_closeRow {notified : Bool} {otherLink : catalog.Link} :
    (state.row other otherLink).KeepsRunning
      ((state.closeRow endpoint link reason notified).row other otherLink) := by
  unfold closeRow
  split
  · exact keepsRunning_setRow (InStreamLink.keepsRunning_close _)
  · exact fun _ _ stored _ => stored

end

variable {index : Nat}

/-- A running sample stays in its slot until its worker empties it. -/
theorem Stepped.keepsRunning (stepped : Stepped state label next)
    {slot : InboundSlot Value} (stored : (state.row endpoint link).slots.get? index = some slot)
    (running : slot.state = .running) :
    (next.row endpoint link).slots.get? index = some slot ∨ ∃ token generation current,
        state.worker endpoint = .finishing link index token generation current ∧
        next.worker endpoint = .crediting (.checking link token generation) := by
  cases stepped with
  | admittedInline idle decoded admits | admittedDeferred idle decoded admits =>
    exact .inl (keepsRunning_setRow (InStreamLink.keepsRunning_admitFrame admits) _ _ stored
      running)
  | closed | abandoned => exact .inl (keepsRunning_closeRow state _ _ _ stored running)
  | installed phase =>
    exact .inl (keepsRunning_setRow (InStreamLink.keepsRunning_install _ _ _) _ _ stored
      running)
  | submissionFailed phase =>
    exact .inl (keepsRunning_setRow (InStreamLink.keepsRunning_withdraw _ _) _ _ stored running)
  | credited | workerCredited => exact .inl (keepsRunning_creditStep state _ _ _ stored running)
  | took here found =>
    exact .inl (keepsRunning_setRow (InStreamLink.keepsRunning_take found) _ _ stored running)
  | @released target _ targetLink place token generation current here change =>
    have emptied : ((state.setRow target targetLink
        ((state.row target targetLink).release place)).row endpoint link).slots.get? index =
          some slot ∨
        (endpoint, link) = (target, targetLink) ∧ index = place := by
      by_cases same : (endpoint, link) = (target, targetLink)
      · obtain ⟨⟩ := same
        rw [row_setRow_self]
        by_cases hit : index = place
        · exact .inr ⟨rfl, hit⟩
        · exact .inl ((Pool.get?_put_of_ne hit).trans stored)
      · rw [row_setRow_of_ne _ _ _ _ same]
        exact .inl stored
    obtain kept | ⟨same, hit⟩ := emptied
    · exact .inl kept
    · obtain ⟨⟩ := same
      subst hit
      exact .inr ⟨token, generation, current, here, worker_setWorker_self _ _ _⟩
  | _ => exact .inl stored

/-! ### The standing facts -/

/-- What every reachable state satisfies. -/
structure Wellformed (state : InStreamRuntime catalog) : Prop where
  /-- The sample a worker is busy with runs in the slot the worker remembers. -/
  holds : ∀ endpoint link index token generation,
    (state.worker endpoint).sample = some (link, index, token, generation) →
      ∃ slot, (state.row endpoint link).slots.get? index = some slot ∧
        slot.state = .running ∧ slot.token = token ∧ slot.generation = generation
  /-- A link without a session has no stream. -/
  closed : ∀ endpoint link, state.sessionActive link = false →
    (state.row endpoint link).active = false
  /-- A stream is only installed while the session of its link is active, on a link that grants
  Control. -/
  installing : ∀ rows reason notify endpoint link interval correlation,
    state.service = .closing rows reason notify (.install endpoint link interval correlation) →
      state.sessionActive link = true ∧ catalog.control link = true
  /-- A stream has a token, and its link grants Control. -/
  named : ∀ endpoint link, (state.row endpoint link).active = true →
    (state.row endpoint link).token ≠ 0 ∧ catalog.control link = true
  /-- The stream that a new one replaces is among those still to be closed. -/
  replacing : ∀ rows reason notify endpoint link interval correlation,
    state.service = .closing rows reason notify (.install endpoint link interval correlation) →
      (state.row endpoint link).active = true → (endpoint, link) ∈ rows
  /-- The streams of a link that is being reset are those still to be closed. -/
  deactivating : ∀ rows reason notify link,
    state.service = .closing rows reason notify (.deactivate link) →
      ∀ endpoint, (state.row endpoint link).active = true → (endpoint, link) ∈ rows
  /-- The sample about to be submitted belongs to the stream of its link. -/
  submitting : ∀ endpoint link envelope generation,
    state.service = .submitting endpoint link envelope generation →
      (state.row endpoint link).header = (true, envelope.requestId, generation)
  /-- The sample whose credit is about to be re-advertised belongs to the stream of its link. -/
  restoring : ∀ endpoint link token generation,
    state.service = .crediting endpoint (.restoring link token generation) →
      (state.row endpoint link).header = (true, token, generation)
  /-- The stream whose opening the service works on is active. -/
  opening : ∀ endpoint link, state.service.opening = some (endpoint, link) →
    (state.row endpoint link).active = true
  /-- The loop of an inline endpoint runs only in the service's place. -/
  inline : ∀ endpoint, (catalog.traits endpoint).inline = true →
    state.service ≠ .draining endpoint → state.worker endpoint = .idle

theorem sample_setWorker {phase : WorkerPhase Value catalog.linkCount}
    {sample : catalog.Link × Nat × UInt32 × UInt32}
    (busy : ((state.setWorker endpoint phase).worker other).sample = some sample) :
    (other = endpoint ∧ phase.sample = some sample) ∨ (state.worker other).sample = some sample := by
  by_cases same : other = endpoint
  · subst same
    rw [worker_setWorker_self] at busy
    exact .inl ⟨rfl, busy⟩
  · rw [worker_setWorker_of_ne _ _ _ same] at busy
    exact .inr busy

section

variable (state) (endpoint)

theorem worker_creditStep (succeeds : Bool) (phase : CreditPhase catalog.linkCount) :
    (state.creditStep endpoint succeeds phase).1.worker = state.worker := by
  cases phase <;> cases succeeds <;> rfl

theorem worker_closeRow (link : catalog.Link) (reason : InStreamCloseReason) (notified : Bool) :
    (state.closeRow endpoint link reason notified).worker = state.worker := by
  unfold closeRow
  split <;> rfl

end

theorem sample_afterWorkerCredit :
    (afterWorkerCredit rest : WorkerPhase Value catalog.linkCount).sample = none := by
  cases rest <;> rfl

variable {token : UInt32}

/-- A worker's sample is the one it had, or it has just started to run. -/
theorem Stepped.sample (stepped : Stepped state label next)
    (busy : (next.worker endpoint).sample = some (link, index, token, generation)) :
    (state.worker endpoint).sample = some (link, index, token, generation) ∨
      ∃ slot, (next.row endpoint link).slots.get? index = some slot ∧ slot.state = .running ∧
        slot.token = token ∧ slot.generation = generation := by
  cases stepped with
  | admittedInline | woken | rested | released =>
    obtain ⟨_, none⟩ | before := sample_setWorker busy
    · exact absurd none (by simp [WorkerPhase.sample])
    · exact .inl before
  | @took target _ targetLink place slot taken here found =>
    obtain ⟨rfl, same⟩ | before := sample_setWorker busy
    · simp only [WorkerPhase.sample, Option.some.injEq, Prod.mk.injEq] at same
      obtain ⟨rfl, rfl, rfl, rfl⟩ := same
      refine .inr ⟨{ slot with value := none, state := .running }, ?_, rfl, rfl, rfl⟩
      show ((state.setRow endpoint targetLink taken).row endpoint targetLink).slots.get? place = _
      rw [row_setRow_self]
      exact InStreamLink.get?_take found
    · exact .inl before
  | delivered here | skipped here =>
    obtain ⟨rfl, same⟩ | before := sample_setWorker busy
    · exact .inl (by rw [here]; exact same)
    · exact .inl before
  | credited here =>
    exact .inl ((congrArg (fun worker => (worker endpoint).sample)
      (worker_creditStep state _ _ _)).symm.trans busy)
  | workerCredited here =>
    obtain ⟨_, none⟩ | before := sample_setWorker busy
    · exact absurd none (by rw [sample_afterWorkerCredit]; simp)
    · rw [worker_creditStep] at before
      exact .inl before
  | closed | abandoned =>
    exact .inl ((congrArg (fun worker => (worker endpoint).sample)
      (worker_closeRow state _ _ _ _)).symm.trans busy)
  | _ => exact .inl busy

theorem Wellformed.holds_step (wellformed : Wellformed state) (stepped : Stepped state label next)
    (busy : (next.worker endpoint).sample = some (link, index, token, generation)) :
    ∃ slot, (next.row endpoint link).slots.get? index = some slot ∧
      slot.state = .running ∧ slot.token = token ∧ slot.generation = generation := by
  obtain before | taken := stepped.sample busy
  · obtain ⟨slot, stored, running, named⟩ := wellformed.holds _ _ _ _ _ before
    obtain kept | ⟨_, _, _, _, crediting⟩ := stepped.keepsRunning stored running
    · exact ⟨slot, kept, running, named⟩
    · rw [crediting] at busy
      exact absurd busy (by simp [WorkerPhase.sample])
  · exact taken

section

variable (state) (endpoint)

theorem service_creditStep (succeeds : Bool) (phase : CreditPhase catalog.linkCount) :
    (state.creditStep endpoint succeeds phase).1.service = state.service := by
  cases phase <;> cases succeeds <;> rfl

theorem sessionActive_creditStep {succeeds : Bool} :
    (state.creditStep endpoint succeeds phase).1.sessionActive = state.sessionActive := by
  cases phase <;> cases succeeds <;> rfl

theorem service_closeRow (link : catalog.Link) (reason : InStreamCloseReason) (notified : Bool) :
    (state.closeRow endpoint link reason notified).service = state.service := by
  unfold closeRow
  split <;> rfl

theorem sessionActive_closeRow {notified : Bool} :
    (state.closeRow endpoint link reason notified).sessionActive = state.sessionActive := by
  unfold closeRow
  split <;> rfl

end

theorem afterCredit_ne_closing {after : AfterClose catalog} :
    afterCredit endpoint rest ≠ .closing rows reason notify after := by
  cases rest <;> nofun

section

variable (stepped : Stepped state label next)

include stepped

/-- The service is closing rows because it was, or because it has just begun to. -/
theorem Stepped.closing {after : AfterClose catalog}
    (held : next.service = .closing rows reason notify after) :
    next.sessionActive = state.sessionActive ∧ (state.service = .closing rows reason notify after ∨
        (∃ row, state.service = .closing (row :: rows) reason notify after ∧
          (next.row row.1 row.2).active = false) ∨
        (∃ endpoint link interval correlation,
          (state.sessionActive link = true ∧ catalog.control link = true) ∧
          after = .install endpoint link interval correlation ∧
          ((next.row endpoint link).active = true → (endpoint, link) ∈ rows)) ∨
        (∃ link, after = .deactivate link ∧ rows = catalog.linkRows link) ∨
        after = .finish) := by
  cases stepped with
  | opening idle session rows interval listed controls =>
    obtain ⟨rfl, rfl, rfl, rfl⟩ := ServicePhase.closing.inj held
    exact ⟨rfl, .inr (.inr (.inl ⟨_, _, _, _, ⟨session, controls⟩, rfl, listed⟩))⟩
  | unsubscribed idle active same =>
    obtain ⟨rfl, rfl, rfl, rfl⟩ := ServicePhase.closing.inj held
    exact ⟨rfl, .inr (.inr (.inr (.inr rfl)))⟩
  | @resetting link cause idle =>
    obtain ⟨rfl, rfl, rfl, rfl⟩ := ServicePhase.closing.inj held
    refine ⟨rfl, .inr (.inr (.inr ?_))⟩
    unfold ResetCause.after
    split
    · exact .inr rfl
    · exact .inl ⟨link, rfl, rfl⟩
  | closed phase =>
    obtain ⟨rfl, rfl, rfl, rfl⟩ := ServicePhase.closing.inj held
    exact ⟨sessionActive_closeRow state _,
      .inr (.inl ⟨_, phase, active_closeRow state _ _ _ _⟩)⟩
  | activated idle => exact absurd (idle.symm.trans held) nofun
  | credited here => exact absurd held (afterCredit_ne_closing _)
  | workerCredited here =>
    exact ⟨sessionActive_creditStep state _,
      .inl ((service_creditStep state _ _ _).symm.trans held)⟩
  | refused | woken | rested | took | delivered | skipped | released | rejected =>
    exact ⟨rfl, .inl held⟩
  | _ => exact nomatch held

/-- A session ends only when the service has closed the streams of its link. -/
theorem Stepped.sessionEnds (ended : next.sessionActive link = false) :
    state.sessionActive link = false ∨
      ∃ reason notify, state.service = .closing [] reason notify (.deactivate link) := by
  cases stepped with
  | @activated other idle =>
    by_cases same : link = other
    · subst same
      exact absurd ended (by simp)
    · simp only [update_of_ne same] at ended
      exact .inl ended
  | @deactivated _ other reason notify phase =>
    by_cases same : link = other
    · subst same
      exact .inr ⟨reason, notify, phase⟩
    · simp only [update_of_ne same] at ended
      exact .inl ended
  | closed | abandoned =>
    exact .inl ((congrFun (sessionActive_closeRow state _) link).symm.trans ended)
  | credited | workerCredited =>
    exact .inl ((congrFun (sessionActive_creditStep state _) link).symm.trans ended)
  | _ => exact .inl ended

theorem Wellformed.installing_step (wellformed : Wellformed state) {interval correlation : UInt32}
    (held : next.service =
      .closing rows reason notify (.install endpoint link interval correlation)) :
    next.sessionActive link = true ∧ catalog.control link = true := by
  obtain ⟨session, before | ⟨_, before, _⟩ | ⟨_, _, _, _, active, same, _⟩ |
    ⟨_, other, _⟩ | other⟩ := stepped.closing held
  · exact session ▸ wellformed.installing _ _ _ _ _ _ _ before
  · exact session ▸ wellformed.installing _ _ _ _ _ _ _ before
  · obtain ⟨rfl, rfl, _⟩ := AfterClose.install.inj same
    exact session ▸ active
  · exact nomatch other
  · exact nomatch other

omit stepped in
theorem mem_linkRows : (endpoint, link) ∈ catalog.linkRows link :=
  mem_map.mpr ⟨endpoint, mem_finRange endpoint, rfl⟩

theorem Stepped.active (active : (next.row endpoint link).active = true) :
    (state.row endpoint link).active = true ∨ Installs state label next endpoint link := by
  obtain same | ⟨inactive, _⟩ | installed := stepped.header endpoint link
  · exact .inl ((congrArg Prod.fst same).symm.trans active)
  · rw [inactive] at active
    exact nomatch active
  · exact .inr installed

end

section

variable (wellformed : Wellformed state)

include wellformed

section

variable (stepped : Stepped state label next)

include stepped

theorem Wellformed.closed_step
    (ended : next.sessionActive link = false) : (next.row endpoint link).active = false := by
  refine Bool.eq_false_iff.mpr fun active => ?_
  obtain before | ⟨_, _, _, _, _, _, phase, rfl⟩ := stepped.active active
  · obtain inactive | ⟨reason, notify, phase⟩ := stepped.sessionEnds ended
    · exact absurd before (by rw [wellformed.closed endpoint link inactive]; exact Bool.noConfusion)
    · exact absurd (wellformed.deactivating _ _ _ _ phase endpoint before) not_mem_nil
  · have session := (wellformed.installing _ _ _ _ _ _ _ phase).1
    exact nomatch session.symm.trans ended

theorem Wellformed.named_step (active : (next.row endpoint link).active = true) :
    (next.row endpoint link).token ≠ 0 ∧ catalog.control link = true := by
  obtain same | ⟨inactive, _⟩ | ⟨_, _, _, interval, correlation, _, phase, rfl⟩ :=
    stepped.header endpoint link
  · obtain ⟨sameActive, rest⟩ := Prod.mk.inj same
    have sameToken : (next.row endpoint link).token = (state.row endpoint link).token :=
      (Prod.mk.inj rest).1
    rw [sameToken]
    exact wellformed.named endpoint link (sameActive.symm.trans active)
  · exact nomatch active.symm.trans inactive
  · have token : ((state.installStep endpoint link interval correlation).row endpoint link).token =
        state.issuedToken := congrArg InStreamLink.token (row_setRow_self state endpoint link _)
    refine ⟨?_, (wellformed.installing _ _ _ _ _ _ _ phase).2⟩
    rw [token, issuedToken]
    split
    · decide
    · assumption

theorem Wellformed.deactivating_step
    (held : next.service = .closing rows reason notify (.deactivate link))
    (active : (next.row endpoint link).active = true) : (endpoint, link) ∈ rows := by
  obtain ⟨_, before | ⟨row, before, inactive⟩ | ⟨_, _, _, _, _, other, _⟩ |
    ⟨target, same, all⟩ | other⟩ := stepped.closing held
  · obtain earlier | ⟨_, _, _, _, _, _, phase, _⟩ := stepped.active active
    · exact wellformed.deactivating _ _ _ _ before endpoint earlier
    · exact absurd (before.symm.trans phase) (by simp)
  · obtain earlier | ⟨_, _, _, _, _, _, phase, _⟩ := stepped.active active
    · obtain rfl | later :=
        mem_cons.mp (wellformed.deactivating _ _ _ _ before endpoint earlier)
      · exact nomatch active.symm.trans inactive
      · exact later
    · exact absurd (before.symm.trans phase) (by simp)
  · exact nomatch other
  · cases same
    exact all ▸ mem_linkRows
  · exact nomatch other

theorem Wellformed.replacing_step {interval correlation : UInt32}
    (held : next.service = .closing rows reason notify (.install endpoint link interval correlation))
    (active : (next.row endpoint link).active = true) : (endpoint, link) ∈ rows := by
  have before : (state.row endpoint link).active = true := by
    obtain earlier | ⟨_, _, _, _, _, _, _, rfl⟩ := stepped.active active
    · exact earlier
    · exact nomatch held
  obtain ⟨_, same | ⟨row, same, inactive⟩ | ⟨_, _, _, _, _, same, listed⟩ | ⟨_, other, _⟩ |
    other⟩ := stepped.closing held
  · exact wellformed.replacing _ _ _ _ _ _ _ same before
  · obtain rfl | later := mem_cons.mp (wellformed.replacing _ _ _ _ _ _ _ same before)
    · exact nomatch active.symm.trans inactive
    · exact later
  · obtain ⟨rfl, rfl, _⟩ := AfterClose.install.inj same
    exact listed active
  · exact nomatch other
  · exact nomatch other

end

end

theorem afterCredit_ne_submitting {target : catalog.Endpoint} :
    afterCredit endpoint rest ≠ .submitting target link envelope generation := by
  cases rest <;> nofun

section

variable (stepped : Stepped state label next)

include stepped

section

variable (held : next.service = .submitting endpoint link envelope generation)

include held

/-- The service is about to submit a sample because it was, or has just admitted it. -/
theorem Stepped.submitting :
    state.service = .submitting endpoint link envelope generation ∨ state.service = .idle ∧
        (state.row endpoint link).header = (true, envelope.requestId, generation) := by
  cases stepped with
  | admittedDeferred idle decoded admits deferred change =>
    obtain ⟨rfl, rfl, rfl, rfl⟩ := ServicePhase.submitting.inj held
    obtain ⟨active, _, named, _⟩ := InStreamLink.admitFrame_eq_ok admits
    exact .inr ⟨idle, by rw [InStreamLink.header, active, named]⟩
  | activated idle => exact absurd (idle.symm.trans held) nofun
  | credited here => exact absurd held (afterCredit_ne_submitting _)
  | workerCredited here => exact .inl ((service_creditStep state _ _ _).symm.trans held)
  | refused | woken | rested | took | delivered | skipped | released | rejected => exact .inl held
  | _ => exact nomatch held

theorem Wellformed.submitting_step (wellformed : Wellformed state) :
    (next.row endpoint link).header = (true, envelope.requestId, generation) := by
  have before : (state.row endpoint link).header = (true, envelope.requestId, generation) := by
    obtain earlier | ⟨_, named⟩ := stepped.submitting held
    · exact wellformed.submitting _ _ _ _ earlier
    · exact named
  obtain same | ⟨_, quiet⟩ | ⟨_, _, _, _, _, _, _, rfl⟩ := stepped.header endpoint link
  · exact same.trans before
  · rw [held] at quiet
    exact nomatch quiet
  · exact nomatch held

end

omit stepped in
theorem creditStep_ne_restoring (state : InStreamRuntime catalog) (endpoint : catalog.Endpoint)
    (succeeds : Bool) (phase : CreditPhase catalog.linkCount) (link : catalog.Link)
    (token generation : UInt32) :
    (state.creditStep endpoint succeeds phase).2 ≠ some (.restoring link token generation) := by
  cases phase with
  | transmitting frame => nofun
  | _ =>
    simp only [creditStep]
    split <;> nofun

variable {rest : Option (CreditPhase catalog.linkCount)}

omit stepped in
theorem afterCredit_eq_crediting {target : catalog.Endpoint}
    (same : afterCredit endpoint rest = .crediting target phase) :
    endpoint = target ∧ rest = some phase := by
  cases rest with
  | none => exact nomatch same
  | some moved =>
    obtain ⟨rfl, rfl⟩ := ServicePhase.crediting.inj same
    exact ⟨rfl, rfl⟩

/-- How the service comes to hand credit to the peer. -/
theorem Stepped.serviceCredit (held : next.service = .crediting endpoint phase) :
    state.service = .crediting endpoint phase ∨ (∃ link token, state.service = .idle ∧
        (state.row endpoint link).active = true ∧ (state.row endpoint link).token = token ∧
        phase = .restoring link token (state.row endpoint link).generation) ∨
      (∃ link correlation, state.service = .granting endpoint link correlation ∧
        phase = .sending link (state.row endpoint link).credits correlation
          (state.row endpoint link).token) ∨
      (∃ link envelope generation, state.service = .submitting endpoint link envelope generation ∧
        phase = .checking link envelope.requestId generation) ∨
      ∃ succeeds earlier, label = .service succeeds ∧ state.service = .crediting endpoint earlier ∧
        (state.creditStep endpoint succeeds earlier).2 = some phase := by
  cases stepped with
  | rateRejected idle decoded failed change =>
    obtain ⟨rfl, rfl⟩ := ServicePhase.crediting.inj held
    obtain ⟨active, _, named, _⟩ := InStreamLink.admitFrame_eq_rate failed
    exact .inr (.inl ⟨_, _, idle, active, named, rfl⟩)
  | granted phase =>
    obtain ⟨rfl, rfl⟩ := ServicePhase.crediting.inj held
    exact .inr (.inr (.inl ⟨_, _, phase, rfl⟩))
  | submissionFailed phase =>
    obtain ⟨rfl, rfl⟩ := ServicePhase.crediting.inj held
    exact .inr (.inr (.inr (.inl ⟨_, _, _, phase, rfl⟩)))
  | credited here =>
    obtain ⟨rfl, moved⟩ := afterCredit_eq_crediting held
    exact .inr (.inr (.inr (.inr ⟨_, _, rfl, here, moved⟩)))
  | activated idle => exact absurd (idle.symm.trans held) nofun
  | workerCredited here => exact .inl ((service_creditStep state _ _ _).symm.trans held)
  | refused | woken | rested | took | delivered | skipped | released | rejected => exact .inl held
  | _ => exact nomatch held

omit stepped in
theorem afterWorkerCredit_eq_crediting
    (same : (afterWorkerCredit rest : WorkerPhase Value catalog.linkCount) = .crediting phase) :
    rest = some phase := by
  cases rest with
  | none => exact nomatch same
  | some moved => rw [WorkerPhase.crediting.inj same]

omit stepped in
theorem worker_setWorker_eq {phase found : WorkerPhase Value catalog.linkCount}
    (held : (state.setWorker endpoint phase).worker other = found) :
    (other = endpoint ∧ phase = found) ∨ (other ≠ endpoint ∧ state.worker other = found) := by
  by_cases same : other = endpoint
  · subst same
    rw [worker_setWorker_self] at held
    exact .inl ⟨rfl, held⟩
  · rw [worker_setWorker_of_ne _ _ _ same] at held
    exact .inr ⟨same, held⟩

/-- How a worker comes to hand credit to the peer. -/
theorem Stepped.workerCredit (held : next.worker endpoint = .crediting phase) :
    state.worker endpoint = .crediting phase ∨ (∃ link index token generation current,
        state.worker endpoint = .finishing link index token generation current ∧
        phase = .checking link token generation) ∨
      ∃ succeeds earlier, label = .worker endpoint succeeds ∧
        state.worker endpoint = .crediting earlier ∧
        (state.creditStep endpoint succeeds earlier).2 = some phase := by
  cases stepped with
  | admittedInline | woken | rested | took | delivered | skipped =>
    obtain ⟨_, other⟩ | ⟨_, before⟩ := worker_setWorker_eq held
    · exact nomatch other
    · exact .inl before
  | released here change =>
    obtain ⟨rfl, same⟩ | ⟨_, before⟩ := worker_setWorker_eq held
    · exact .inr (.inl ⟨_, _, _, _, _, here, (WorkerPhase.crediting.inj same).symm⟩)
    · exact .inl before
  | workerCredited here =>
    obtain ⟨rfl, same⟩ | ⟨_, before⟩ := worker_setWorker_eq held
    · exact .inr (.inr ⟨_, _, rfl, here, afterWorkerCredit_eq_crediting same⟩)
    · rw [worker_creditStep] at before
      exact .inl before
  | credited here => exact .inl ((congrFun (worker_creditStep state _ _ _) endpoint).symm.trans held)
  | closed | abandoned =>
    exact .inl ((congrFun (worker_closeRow state _ _ _ _) endpoint).symm.trans held)
  | _ => exact .inl held

theorem Wellformed.restoring_step (wellformed : Wellformed state)
    (held : next.service = .crediting endpoint (.restoring link token generation)) :
    (next.row endpoint link).header = (true, token, generation) := by
  have before : (state.row endpoint link).header = (true, token, generation) := by
    obtain same | ⟨_, _, _, active, named, same⟩ | ⟨_, _, _, same⟩ | ⟨_, _, _, _, same⟩ |
      ⟨_, _, _, _, moved⟩ := stepped.serviceCredit held
    · exact wellformed.restoring _ _ _ _ same
    · obtain ⟨rfl, rfl, rfl⟩ := CreditPhase.restoring.inj same
      rw [InStreamLink.header, active, named]
    · exact nomatch same
    · exact nomatch same
    · exact absurd moved (creditStep_ne_restoring state _ _ _ _ _ _)
  obtain same | ⟨_, quiet⟩ | ⟨_, _, _, _, _, _, _, rfl⟩ := stepped.header endpoint link
  · exact same.trans before
  · rw [held] at quiet
    exact nomatch quiet
  · exact nomatch held

omit stepped in
theorem opening_of_isQuiet {phase : ServicePhase catalog} (quiet : phase.isQuiet = true) :
    phase.opening = none := by
  cases phase <;> first | rfl | exact nomatch quiet

omit stepped in
theorem opening_afterCredit : (afterCredit endpoint rest).opening = none := by
  cases rest <;> rfl

/-- The service works on an opening because it did, or because it has just installed it. -/
theorem Stepped.stillOpening (held : next.service.opening = some (endpoint, link)) :
    state.service.opening = some (endpoint, link) ∨ Installs state label next endpoint link := by
  cases stepped with
  | installed phase =>
    obtain ⟨⟩ := held
    exact .inr ⟨_, _, _, _, _, rfl, phase, rfl⟩
  | configured phase | configurationFailed phase | responded phase | responseFailed phase =>
    exact .inl (by rw [phase]; exact held)
  | activated | refused | woken | rested | took | delivered | skipped | released | rejected =>
    exact .inl held
  | credited here => exact absurd held (by rw [opening_afterCredit]; nofun)
  | workerCredited here =>
    exact .inl ((congrArg ServicePhase.opening (service_creditStep state _ _ _)).symm.trans held)
  | _ => exact nomatch held

theorem Wellformed.opening_step (wellformed : Wellformed state)
    (held : next.service.opening = some (endpoint, link)) :
    (next.row endpoint link).active = true := by
  obtain before | ⟨_, _, _, _, _, _, _, rfl⟩ := stepped.stillOpening held
  · obtain same | ⟨_, quiet⟩ | ⟨_, _, _, _, _, _, phase, _⟩ := stepped.header endpoint link
    · exact (congrArg Prod.fst same).trans (wellformed.opening _ _ before)
    · exact absurd held (by rw [opening_of_isQuiet quiet]; nofun)
    · rw [phase] at before
      exact nomatch before
  · exact congrArg InStreamLink.active (row_setRow_self state endpoint link _)

/-- A worker whose endpoint runs inline moves only while the service drains it. -/
theorem Stepped.inline
    (resting : state.service ≠ .draining endpoint → state.worker endpoint = .idle)
    (inline : (catalog.traits endpoint).inline = true)
    (elsewhere : next.service ≠ .draining endpoint) : next.worker endpoint = .idle := by
  have other : ∀ {target : catalog.Endpoint} {phase : WorkerPhase Value catalog.linkCount},
      state.worker target ≠ .idle → state.service ≠ .draining endpoint →
        (state.setWorker target phase).worker endpoint = .idle := by
    intro target phase busy apart
    have rests := resting apart
    have different : endpoint ≠ target := by
      rintro rfl
      exact busy rests
    rw [worker_setWorker_of_ne _ _ _ different]
    exact rests
  cases stepped with
  | @admittedInline _ target _ _ _ _ idle decoded admits _ change =>
    have different : endpoint ≠ target := by
      rintro rfl
      exact elsewhere rfl
    refine (worker_setWorker_of_ne _ _ _ different).trans (resting ?_)
    rw [idle]
    nofun
  | @woken target idle deferred =>
    have different : endpoint ≠ target := by
      rintro rfl
      exact nomatch deferred.symm.trans inline
    exact (worker_setWorker_of_ne _ _ _ different).trans (resting elsewhere)
  | @rested target _ here nothing =>
    by_cases same : endpoint = target
    · subst same
      exact worker_setWorker_self _ _ _
    · exact (worker_setWorker_of_ne _ _ _ same).trans (resting elsewhere)
  | took here | delivered here | skipped here | released here =>
    exact other (by rw [here]; nofun) elsewhere
  | @workerCredited target _ phase here =>
    have apart : state.service ≠ .draining endpoint := by
      rw [← service_creditStep state target _ phase]
      exact elsewhere
    have same : endpoint ≠ target := by
      rintro rfl
      exact absurd (here.symm.trans (resting apart)) nofun
    rw [worker_setWorker_of_ne _ _ _ same, worker_creditStep]
    exact resting apart
  | @drained _ target phase idle =>
    by_cases same : endpoint = target
    · subst same
      exact idle
    · refine resting ?_
      rw [phase]
      rintro ⟨⟩
      exact same rfl
  | credited here =>
    refine (congrFun (worker_creditStep state _ _ _) endpoint).trans (resting ?_)
    rw [here]
    nofun
  | closed phase | abandoned phase =>
    refine (congrFun (worker_closeRow state _ _ _ _) endpoint).trans (resting ?_)
    rw [phase]
    nofun
  | refused | rejected => exact resting elsewhere
  | _ =>
    refine resting ?_
    simp [*]

theorem Wellformed.step (wellformed : Wellformed state) :
    Wellformed next where
  holds _ _ _ _ _ busy := wellformed.holds_step stepped busy
  closed _ _ ended := wellformed.closed_step stepped ended
  installing _ _ _ _ _ _ _ held := wellformed.installing_step stepped held
  named _ _ active := wellformed.named_step stepped active
  replacing _ _ _ _ _ _ _ held active := wellformed.replacing_step stepped held active
  deactivating _ _ _ _ held _ active := wellformed.deactivating_step stepped held active
  submitting _ _ _ _ held := wellformed.submitting_step stepped held
  restoring _ _ _ _ held := wellformed.restoring_step stepped held
  opening _ _ held := wellformed.opening_step stepped held
  inline endpoint runsInline := stepped.inline (wellformed.inline endpoint runsInline) runsInline

end

theorem wellformed_initial : Wellformed ({} : InStreamRuntime catalog) where
  holds _ _ _ _ _ busy := nomatch busy
  closed _ _ _ := rfl
  installing _ _ _ _ _ _ _ held := nomatch held
  named _ _ active := nomatch active
  replacing _ _ _ _ _ _ _ held _ := nomatch held
  deactivating _ _ _ _ held _ _ := nomatch held
  submitting _ _ _ _ held := nomatch held
  restoring _ _ _ _ held := nomatch held
  opening _ _ held := nomatch held
  inline _ _ _ := rfl

end Solar.Remote.InStreamRuntime
