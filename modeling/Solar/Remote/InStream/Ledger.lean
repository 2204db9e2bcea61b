/-
This file keeps the ledger of a stream's credit between the firmware and the
Credit frames it sends. What has been announced to the peer, what a full lane
has refused and what a thread is about to announce add up to the credits the
firmware still accepts and the samples that have spent one.

A worker accounts a returned credit in one section and reads the token it puts
on the wire in a later one. If a stream is installed between the two, the frame
carries the new stream's token for a credit of the old stream. `ledgerSafe`
excludes exactly that installation, besides the two counters that wrap.
-/

import Solar.Remote.InStream.Tokens

namespace Solar.Remote

open List Option

variable {Value : Type}

section

/-- The credits a frame announces to one stream, as a grant or as the re-advertisement of a
credit that a rate rejection left with the firmware. -/
def StreamFrame.creditsFor {catalog : InStreamCatalog Value} (restored : Bool)
    (endpoint : catalog.Endpoint) (link : catalog.Link) (token : UInt32) : StreamFrame catalog → Nat
  | .credit target frame =>
      if frame.restored = restored ∧ target = endpoint ∧ frame.link = link ∧
          frame.grant.token = token then
        frame.grant.credits.toNat
      else 0
  | .closed _ _ _ => 0

/-- Credits that are granted count in the ledger of the grants only. -/
def granted (restored : Bool) (credits : UInt16) : Nat :=
  if restored then 0 else credits.toNat

/-- The credits a phase is about to announce to one stream of its endpoint. -/
def CreditPhase.announces {linkCount : Nat} (restored : Bool) (link : Fin linkCount)
    (token : UInt32) : CreditPhase linkCount → Nat
  | .restoring target named _ =>
      if target = link ∧ named = token then (if restored then 1 else 0) else 0
  | .sending target credits _ accountedFor =>
      if target = link ∧ accountedFor = token then granted restored credits else 0
  | .transmitting frame =>
      if frame.restored = restored ∧ frame.link = link ∧ frame.grant.token = token then
        frame.grant.credits.toNat
      else 0
  | _ => 0

def WorkerPhase.announces {linkCount : Nat} (restored : Bool) (link : Fin linkCount)
    (token : UInt32) : WorkerPhase Value linkCount → Nat
  | .crediting phase => phase.announces restored link token
  | _ => 0

/-- What the service is about to announce: all credits of a stream it is opening. -/
def ServicePhase.announces {catalog : InStreamCatalog Value} (restored : Bool)
    (endpoint : catalog.Endpoint) (link : catalog.Link) (token : UInt32) (credits : UInt16) :
    ServicePhase catalog → Nat
  | .crediting target phase =>
      if target = endpoint then phase.announces restored link token else 0
  | phase =>
      if phase.opening = some (endpoint, link) then granted restored credits else 0

/-- The worker has accounted a credit on the link and not yet read the link's token. -/
def WorkerPhase.sendsOn {linkCount : Nat} (link : Fin linkCount) :
    WorkerPhase Value linkCount → Bool
  | .crediting (.sending target _ _ _) => target = link
  | _ => false

end

namespace InStreamRuntime

variable {catalog : InStreamCatalog Value} {state next : InStreamRuntime catalog}
  {label : InStreamLabel catalog}

section

variable (state : InStreamRuntime catalog)

section

variable (restored : Bool) (endpoint : catalog.Endpoint) (link : catalog.Link)

section

variable (token : UInt32)

/-- The credits that frames handed to the lanes announce to a stream. -/
def announced : Nat :=
  (state.sent.map (StreamFrame.creditsFor restored endpoint link token)).sum

/-- The credits announced to a stream, and those a full lane refused. -/
def offered : Nat :=
  state.announced restored endpoint link token +
    (state.dropped.map (StreamFrame.creditsFor restored endpoint link token)).sum

/-- The credits a thread is about to announce to the stream of a row. -/
def unsent : Nat :=
  (state.worker endpoint).announces restored link (state.row endpoint link).token +
    state.service.announces restored endpoint link (state.row endpoint link).token
      (state.row endpoint link).credits

/-- The samples admitted under a stream. -/
def admitted : Nat :=
  state.admissions.countP fun admission =>
    admission.endpoint = endpoint ∧ admission.link = link ∧ admission.token = token

/-- The samples of a stream turned away for their rate, after the peer had paid for them. -/
def rateRejected : Nat :=
  state.rateRejections.countP fun rejection => rejection = ((endpoint, link), token)

/-- What grants are balanced with, and what re-advertisements are. -/
def spent : Nat :=
  if restored then state.rateRejected endpoint link token else state.admitted endpoint link token

end

/-- The ledger of one row: what is offered and what is about to be is what the row holds and
what has been spent. -/
def RowLedger : Prop :=
  (state.row endpoint link).active = true →
    state.offered restored endpoint link (state.row endpoint link).token +
        state.unsent restored endpoint link =
      granted restored (state.row endpoint link).credits +
        state.spent restored endpoint link (state.row endpoint link).token

end

/-- The steps that keep the ledger. No stream is installed on a link while the endpoint's worker
stands between accounting a credit of that link and reading its token; the token counter has
not run through its values, and the credit counter does not wrap. -/
def ledgerSafe (label : InStreamLabel catalog) : Bool :=
  match label, state.service with
  | .service _, .closing [] _ _ (.install endpoint link _ _) =>
      state.nextToken != 0 && !(state.worker endpoint).sendsOn link
  | .service _, .crediting endpoint (.returning link _ _) =>
      (state.row endpoint link).credits != 0xFFFF
  | .worker endpoint _, _ =>
      match state.worker endpoint with
      | .crediting (.returning link _ _) => (state.row endpoint link).credits != 0xFFFF
      | _ => true
  | _, _ => true

end

theorem tokensLeft_of_ledgerSafe (safe : ledgerSafe state label = true) :
    tokensLeft state label = true := by
  unfold tokensLeft
  split
  · rename_i phase
    simp only [ledgerSafe, phase, Bool.and_eq_true] at safe
    exact safe.1
  · rfl

/-! ### The thread's token is the row's token -/

/-- What holds of the credit phases while no stream is installed under a sending worker. -/
structure CreditsNamed (state : InStreamRuntime catalog) : Prop where
  /-- A worker that is about to read the token of a link will read the one it accounted for. -/
  worker : ∀ endpoint link credits correlation accountedFor,
    state.worker endpoint = .crediting (.sending link credits correlation accountedFor) →
      (state.row endpoint link).active = true → (state.row endpoint link).token = accountedFor
  /-- So will the service. -/
  service : ∀ endpoint link credits correlation accountedFor,
    state.service = .crediting endpoint (.sending link credits correlation accountedFor) →
      (state.row endpoint link).active = true → (state.row endpoint link).token = accountedFor
  /-- Only the service restores a credit. -/
  restores : ∀ endpoint link token generation,
    state.worker endpoint ≠ .crediting (.restoring link token generation)
  /-- A frame a thread holds names the stream its credit was accounted for. -/
  holdsWorker : ∀ endpoint frame, state.worker endpoint = .crediting (.transmitting frame) →
    frame.grant.token = frame.accountedFor
  holdsService : ∀ endpoint frame, state.service = .crediting endpoint (.transmitting frame) →
    frame.grant.token = frame.accountedFor
  /-- So does every frame handed to the lanes. -/
  sent : ∀ endpoint frame, StreamFrame.credit endpoint frame ∈ state.sent ∨
    StreamFrame.credit endpoint frame ∈ state.dropped → frame.grant.token = frame.accountedFor

theorem creditsNamed_initial : CreditsNamed ({} : InStreamRuntime catalog) where
  worker _ _ _ _ _ here := nomatch here
  service _ _ _ _ _ here := nomatch here
  restores _ _ _ _ := nofun
  holdsWorker _ _ here := nomatch here
  holdsService _ _ here := nomatch here
  sent _ _ member := by
    obtain member | member := member
    · exact nomatch member
    · exact nomatch member

variable {endpoint : catalog.Endpoint} {link : catalog.Link} {phase : CreditPhase catalog.linkCount}

section

/-- The frame a credit phase makes ready names the row's stream; a returned credit is announced
for the stream it was returned to. -/
theorem creditStep_eq_transmitting {succeeds : Bool} {frame : CreditFrame catalog.linkCount}
    (moved : (state.creditStep endpoint succeeds phase).2 = some (.transmitting frame)) :
    (∃ link token generation, phase = .restoring link token generation ∧
      frame.link = link ∧ frame.grant.token = token ∧ frame.grant.credits = 1 ∧
      frame.accountedFor = token) ∨
    ∃ link credits correlation accountedFor,
      phase = .sending link credits correlation accountedFor ∧
      (state.row endpoint link).active = true ∧ frame.link = link ∧
      frame.grant.token = (state.row endpoint link).token ∧ frame.grant.credits = credits ∧
      frame.accountedFor = accountedFor := by
  cases phase with
  | restoring link token generation =>
    simp only [creditStep, ite_none_right_eq_some] at moved
    obtain rfl := CreditPhase.transmitting.inj (some.inj moved.2)
    exact .inl ⟨link, token, generation, rfl, rfl, rfl, rfl, rfl⟩
  | sending link credits correlation accountedFor =>
    simp only [creditStep, ite_none_right_eq_some] at moved
    obtain rfl := CreditPhase.transmitting.inj (some.inj moved.2)
    exact .inr ⟨link, credits, correlation, accountedFor, rfl, moved.1.2, rfl, rfl, rfl, rfl⟩
  | transmitting held => cases moved
  | _ =>
    simp only [creditStep, ite_none_right_eq_some] at moved
    cases moved.2

theorem creditStep_eq_sending {succeeds : Bool} {credits : UInt16}
    {correlation accountedFor : UInt32}
    (moved : (state.creditStep endpoint succeeds phase).2 =
      some (.sending link credits correlation accountedFor)) :
    ∃ generation, phase = .returning link accountedFor generation ∧ credits = 1 ∧
      (state.row endpoint link).matchesSample accountedFor generation = true := by
  cases phase with
  | returning target token generation =>
    simp only [creditStep, ite_none_right_eq_some] at moved
    obtain ⟨returned, same⟩ := moved
    obtain ⟨rfl, rfl, rfl, rfl⟩ := CreditPhase.sending.inj (some.inj same)
    refine ⟨generation, rfl, rfl, ?_⟩
    by_contra unmatched
    rw [InStreamLink.returnCredit, if_neg unmatched] at returned
    cases returned
  | transmitting held => cases moved
  | _ =>
    simp only [creditStep, ite_none_right_eq_some] at moved
    cases moved.2

theorem Stepped.token_eq (stepped : Stepped state label next)
    {token : UInt32} (apart : ¬Installs state label next endpoint link)
    (named : (state.row endpoint link).active = true → (state.row endpoint link).token = token)
    (active : (next.row endpoint link).active = true) : (next.row endpoint link).token = token := by
  obtain same | ⟨inactive, _⟩ | installs := stepped.header endpoint link
  · obtain ⟨sameActive, rest⟩ := Prod.mk.inj same
    exact (Prod.mk.inj rest).1.trans (named (sameActive.symm.trans active))
  · exact nomatch active.symm.trans inactive
  · exact absurd installs apart

theorem Installs.not_sendsOn (installs : Installs state label next endpoint link)
    (safe : ledgerSafe state label = true) : (state.worker endpoint).sendsOn link = false := by
  obtain ⟨_, _, _, _, _, rfl, phase, _⟩ := installs
  simp only [ledgerSafe, phase, Bool.and_eq_true, Bool.not_eq_true'] at safe
  exact safe.2

end

section

variable (named : CreditsNamed state) (stepped : Stepped state label next)

include named stepped

theorem CreditsNamed.worker_step (safe : ledgerSafe state label = true) {credits : UInt16}
    {correlation accountedFor : UInt32}
    (held : next.worker endpoint = .crediting (.sending link credits correlation accountedFor))
    (active : (next.row endpoint link).active = true) :
    (next.row endpoint link).token = accountedFor := by
  obtain before | ⟨_, _, _, _, _, _, other⟩ | ⟨_, _, rfl, here, moved⟩ := stepped.workerCredit held
  · refine stepped.token_eq (fun installs => ?_) (named.worker _ _ _ _ _ before) active
    have quiet := installs.not_sendsOn safe
    rw [before] at quiet
    simp only [WorkerPhase.sendsOn, decide_true] at quiet
    exact nomatch quiet
  · exact nomatch other
  · obtain ⟨generation, _, _, current⟩ := creditStep_eq_sending moved
    refine stepped.token_eq (fun installs => ?_)
      (fun _ => (InStreamLink.matchesSample_iff.mp current).2.1) active
    obtain ⟨_, _, _, _, _, other, _⟩ := installs
    exact nomatch other

section

theorem CreditsNamed.service_step {credits : UInt16} {correlation accountedFor : UInt32}
    (held : next.service = .crediting endpoint (.sending link credits correlation accountedFor))
    (active : (next.row endpoint link).active = true) :
    (next.row endpoint link).token = accountedFor := by
  have apart : ¬Installs state label next endpoint link := by
    rintro ⟨_, _, _, _, _, _, _, rfl⟩
    exact nomatch held
  refine stepped.token_eq apart (fun before => ?_) active
  obtain earlier | ⟨_, _, _, _, _, other⟩ | ⟨_, _, _, same⟩ | ⟨_, _, _, _, other⟩ |
    ⟨_, _, _, _, moved⟩ := stepped.serviceCredit held
  · exact named.service _ _ _ _ _ earlier before
  · exact nomatch other
  · obtain ⟨rfl, rfl, rfl, rfl⟩ := CreditPhase.sending.inj same
    rfl
  · exact nomatch other
  · obtain ⟨_, _, _, current⟩ := creditStep_eq_sending moved
    exact (InStreamLink.matchesSample_iff.mp current).2.1

variable {frame : CreditFrame catalog.linkCount}

theorem CreditsNamed.holdsWorker_step
    (held : next.worker endpoint = .crediting (.transmitting frame)) :
    frame.grant.token = frame.accountedFor := by
  obtain before | ⟨_, _, _, _, _, _, other⟩ | ⟨_, _, rfl, here, moved⟩ := stepped.workerCredit held
  · exact named.holdsWorker _ _ before
  · exact nomatch other
  · obtain ⟨_, _, _, _, _, sameToken, _, accounted⟩ | ⟨_, _, _, _, rfl, active, _, sameToken, _,
      accounted⟩ := creditStep_eq_transmitting moved
    · rw [sameToken, accounted]
    · rw [sameToken, accounted]
      exact named.worker _ _ _ _ _ here active

theorem CreditsNamed.holdsService_step
    (held : next.service = .crediting endpoint (.transmitting frame)) :
    frame.grant.token = frame.accountedFor := by
  obtain earlier | ⟨_, _, _, _, _, other⟩ | ⟨_, _, _, other⟩ | ⟨_, _, _, _, other⟩ |
    ⟨_, _, _, here, moved⟩ := stepped.serviceCredit held
  · exact named.holdsService _ _ earlier
  · exact nomatch other
  · exact nomatch other
  · exact nomatch other
  · obtain ⟨_, _, _, _, _, sameToken, _, accounted⟩ | ⟨_, _, _, _, rfl, active, _, sameToken, _,
      accounted⟩ := creditStep_eq_transmitting moved
    · rw [sameToken, accounted]
    · rw [sameToken, accounted]
      exact named.service _ _ _ _ _ here active

end

theorem CreditsNamed.step (safe : ledgerSafe state label = true) : CreditsNamed next where
  worker _ _ _ _ _ held active := named.worker_step stepped safe held active
  service _ _ _ _ _ held active := named.service_step stepped held active
  restores endpoint link token generation held := by
    obtain before | ⟨_, _, _, _, _, _, other⟩ | ⟨_, _, _, _, moved⟩ := stepped.workerCredit held
    · exact named.restores _ _ _ _ before
    · exact nomatch other
    · exact creditStep_ne_restoring state _ _ _ _ _ _ moved
  holdsWorker _ _ held := named.holdsWorker_step stepped held
  holdsService _ _ held := named.holdsService_step stepped held
  sent endpoint frame member := by
    obtain before | ⟨other, here | here⟩ := stepped.transmitted member
    · exact named.sent endpoint frame before
    · exact named.holdsWorker other frame here
    · exact named.holdsService other frame here

end

/-! ### Nothing of a new stream before its credit is granted -/

/-- While a stream is being opened, no sample and no thread of its endpoint carries its token. -/
def OpeningFresh (state : InStreamRuntime catalog) : Prop :=
  ∀ endpoint link, state.service.opening = some (endpoint, link) →
    (∀ other index slot, (state.row endpoint other).slots.get? index = some slot →
      slot.isOccupied = true → slot.token ≠ (state.row endpoint link).token) ∧
    ∀ phase, state.worker endpoint = .crediting phase →
      phase.token ≠ (state.row endpoint link).token

theorem CreditsNamed.token_creditStep (named : CreditsNamed state) {succeeds : Bool}
    {moved : CreditPhase catalog.linkCount} (here : state.worker endpoint = .crediting phase)
    (rest : (state.creditStep endpoint succeeds phase).2 = some moved) :
    moved.token = phase.token := by
  cases phase with
  | sending link credits correlation accountedFor =>
    simp only [creditStep, ite_none_right_eq_some] at rest
    rw [← some.inj rest.2]
    exact named.worker _ _ _ _ _ here rest.1.2
  | transmitting frame => cases rest
  | _ =>
    simp only [creditStep, ite_none_right_eq_some] at rest
    exact some.inj rest.2 ▸ rfl

/-- A stream that is being opened is new to its endpoint. -/
theorem OpeningFresh.step (wellformed : Wellformed state) (tokens : TokensIssued state)
    (named : CreditsNamed state) (fresh : OpeningFresh state) (stepped : Stepped state label next)
    (safe : ledgerSafe state label = true) : OpeningFresh next := by
  intro endpoint link held
  obtain before | installs := stepped.stillOpening held
  · have same : (next.row endpoint link).token = (state.row endpoint link).token := by
      obtain kept | ⟨_, quiet⟩ | ⟨_, _, _, _, _, _, phase, _⟩ := stepped.header endpoint link
      · exact (Prod.mk.inj (congrArg Prod.snd kept)).1
      · exact absurd held (by rw [opening_of_isQuiet quiet]; nofun)
      · rw [phase] at before
        exact nomatch before
    obtain ⟨slots, phases⟩ := fresh endpoint link before
    rw [same]
    refine ⟨fun other index slot stored busy => ?_, fun phase here => ?_⟩
    · obtain ⟨old, earlier, occupied, sameToken, _⟩ | ⟨idle, _⟩ := stepped.slot stored busy
      · exact sameToken ▸ slots other index old earlier occupied
      · rw [idle] at before
        exact nomatch before
    · obtain earlier | ⟨target, index, token, generation, _, finishing, rfl⟩ |
        ⟨_, _, _, crediting, moved⟩ := stepped.workerCredit here
      · exact phases phase earlier
      · obtain ⟨slot, stored, running, sameToken, _⟩ :=
          wellformed.holds endpoint target index token generation (by rw [finishing]; rfl)
        exact sameToken ▸ slots target index slot stored (InboundSlot.isOccupied_of_running running)
      · rw [named.token_creditStep crediting moved]
        exact phases _ crediting
  · have left := installs.left (tokensLeft_of_ledgerSafe safe)
    obtain ⟨_, _, _, interval, correlation, _, _, rfl⟩ := installs
    have token : ((state.installStep endpoint link interval correlation).row endpoint link).token =
        state.issuedToken := congrArg InStreamLink.token (row_setRow_self state endpoint link _)
    rw [token]
    refine ⟨fun other index slot stored busy => ?_, fun phase here => ?_⟩
    · obtain ⟨old, earlier, occupied, sameToken, _⟩ | ⟨_, active, sameToken, _⟩ :=
        stepped.slot stored busy
      · exact sameToken ▸
          ne_issuedToken left (tokens.slots endpoint other index old earlier occupied)
      · exact sameToken ▸ ne_issuedToken left (tokens.rows endpoint other active)
    · exact ne_issuedToken left (tokens.worker endpoint phase here)

/-! ### One step -/

variable {restored : Bool}

/-- What is still to be announced after a credit phase has moved. -/
def announcesAfter {linkCount : Nat} (restored : Bool) (link : Fin linkCount) (token : UInt32) :
    Option (CreditPhase linkCount) → Nat
  | some phase => phase.announces restored link token
  | none => 0

/-- What a thread must know for its credit phase to keep the ledger. -/
structure PhaseNamed (state : InStreamRuntime catalog) (endpoint : catalog.Endpoint)
    (phase : CreditPhase catalog.linkCount) : Prop where
  sends : ∀ link credits correlation accountedFor,
    phase = .sending link credits correlation accountedFor →
      (state.row endpoint link).active = true → (state.row endpoint link).token = accountedFor
  restores : ∀ link token generation, phase = .restoring link token generation →
    (state.row endpoint link).header = (true, token, generation)
  bound : ∀ link token generation, phase = .returning link token generation →
    (state.row endpoint link).credits ≠ 0xFFFF

variable {credits : UInt16} {target : catalog.Endpoint} {token : UInt32} {succeeds : Bool}
  {correlation : UInt32} {targetLink : catalog.Link}

theorem toNat_succ (bound : credits ≠ 0xFFFF) : (credits + 1).toNat = credits.toNat + 1 := by
  have small := credits.toNat_lt
  have inner : credits.toNat ≠ 65535 := fun same => bound (UInt16.toNat_inj.mp same)
  rw [UInt16.toNat_add, UInt16.toNat_one, Nat.mod_eq_of_lt (by omega)]

theorem offered_sent (endpoint other : catalog.Endpoint) (link : catalog.Link) (token : UInt32)
    (frame : CreditFrame catalog.linkCount) (succeeds : Bool) :
    (state.creditStep endpoint succeeds (.transmitting frame)).1.offered restored other link token =
      state.offered restored other link token +
        (StreamFrame.credit endpoint frame).creditsFor restored other link token := by
  cases succeeds <;>
    simp only [creditStep, offered, announced, map_append, sum_append, map_singleton,
      sum_singleton, Bool.false_eq_true, if_true, if_false] <;> omega

theorem creditsFor_credit (endpoint : catalog.Endpoint) (link : catalog.Link) (token : UInt32)
    (frame : CreditFrame catalog.linkCount) :
    (StreamFrame.credit endpoint frame).creditsFor restored endpoint link token =
      (CreditPhase.transmitting frame).announces restored link token := by
  simp [StreamFrame.creditsFor, CreditPhase.announces]

variable {linkCount : Nat}

theorem announces_sending_of_ne {target link : Fin linkCount} (different : target ≠ link)
    (credits : UInt16) (correlation accountedFor token : UInt32) :
    (CreditPhase.sending target credits correlation accountedFor).announces restored link token =
      0 :=
  if_neg fun both => different both.1

theorem announces_transmitting_of_ne {frame : CreditFrame linkCount} {link : Fin linkCount}
    (different : frame.link ≠ link) (token : UInt32) :
    (CreditPhase.transmitting frame).announces restored link token = 0 :=
  if_neg fun both => different both.2.1

/-- A credit phase moves credit between what is to be announced, what has been, and the row. -/
theorem ledger_creditStep (restored : Bool) (named : PhaseNamed state endpoint phase)
    (active : (state.row endpoint link).active = true) (succeeds : Bool) :
    (state.creditStep endpoint succeeds phase).1.offered restored endpoint link
          (state.row endpoint link).token +
        announcesAfter restored link (state.row endpoint link).token
          (state.creditStep endpoint succeeds phase).2 +
        granted restored (state.row endpoint link).credits =
      state.offered restored endpoint link (state.row endpoint link).token +
        phase.announces restored link (state.row endpoint link).token +
        granted restored ((state.creditStep endpoint succeeds phase).1.row endpoint link).credits := by
  cases phase with
  | checking target token generation =>
    simp only [creditStep]
    split <;> rfl
  | returning target token generation =>
    by_cases here : target = link
    · subst here
      have bound := named.bound target token generation rfl
      have offers : (state.creditStep endpoint succeeds
          (.returning target token generation)).1.offered restored endpoint target =
          state.offered restored endpoint target := rfl
      rw [offers]
      by_cases current : (state.row endpoint target).matchesSample token generation = true
      · have sameToken := (InStreamLink.matchesSample_iff.mp current).2.1
        have counted : granted restored ((state.row endpoint target).returnCredit token
            generation).1.credits =
              (CreditPhase.sending target 1 0 token).announces restored target token +
              granted restored (state.row endpoint target).credits := by
          cases restored with
          | true => simp [granted, CreditPhase.announces]
          | false =>
            simp [granted, InStreamLink.returnCredit, current, toNat_succ bound,
              CreditPhase.announces, UInt16.toNat_one, Nat.add_comm]
        have moved : ((state.row endpoint target).returnCredit token generation).2 = true := by
          rw [InStreamLink.returnCredit, if_pos current]
        simp only [creditStep, row_setRow_self, moved, if_true, announcesAfter, sameToken, counted]
        show _ = _ + 0 + _
        omega
      · simp only [creditStep, row_setRow_self, InStreamLink.returnCredit, if_neg current,
          Bool.false_eq_true, if_false]
        rfl
    · have apart : (endpoint, link) ≠ (endpoint, target) := fun same =>
        here (Prod.mk.inj same).2.symm
      simp only [creditStep, row_setRow_of_ne _ _ _ _ apart]
      split
      · rw [announcesAfter, announces_sending_of_ne here]
        rfl
      · rfl
  | restoring target token generation =>
    have current : (state.row endpoint target).matchesSample token generation = true := by
      obtain ⟨live, rest⟩ := Prod.mk.inj (named.restores target token generation rfl)
      exact InStreamLink.matchesSample_iff.mpr ⟨live, Prod.mk.inj rest⟩
    simp only [creditStep, current, if_true, announcesAfter, CreditPhase.announces]
    cases restored <;> simp
  | sending target credits correlation accountedFor =>
    by_cases here : target = link
    · subst here
      have same := named.sends target credits correlation accountedFor rfl active
      by_cases none : credits = 0
      · subst none
        simp [creditStep, announcesAfter, CreditPhase.announces, granted, UInt16.toNat_zero]
      · simp only [creditStep, ne_eq, none, not_false_eq_true, active, and_self, if_true,
          announcesAfter, CreditPhase.announces, same]
        cases restored <;> simp [granted]
    · rw [announces_sending_of_ne here]
      simp only [creditStep]
      split
      · rw [announcesAfter, announces_transmitting_of_ne here]
      · rfl
  | transmitting frame =>
    have row : ((state.creditStep endpoint succeeds (.transmitting frame)).1.row endpoint link) =
        state.row endpoint link := by
      cases succeeds <;> rfl
    rw [offered_sent, row, creditsFor_credit]
    rfl

variable {other : catalog.Endpoint}

theorem offered_creditStep_of_ne (different : other ≠ endpoint)
    (phase : CreditPhase catalog.linkCount) (succeeds : Bool) (link : catalog.Link)
    (token : UInt32) :
    (state.creditStep endpoint succeeds phase).1.offered restored other link token =
      state.offered restored other link token := by
  cases phase with
  | transmitting frame =>
    rw [offered_sent, StreamFrame.creditsFor, if_neg fun both => different both.2.1.symm]
    rfl
  | _ => rfl

theorem offered_closeRow (endpoint : catalog.Endpoint)
    (link : catalog.Link) (reason : InStreamCloseReason) (notified : Bool)
    {otherLink : catalog.Link} (token : UInt32) :
    (state.closeRow endpoint link reason notified).offered restored other otherLink token =
      state.offered restored other otherLink token := by
  unfold closeRow
  split
  · cases notified with
    | false => rfl
    | true =>
      simp only [offered, announced, map_append, sum_append, map_singleton,
        sum_singleton, StreamFrame.creditsFor, if_true]
      rfl
  · rfl

section

variable (ledger : RowLedger state restored endpoint link)

include ledger

/-- The ledger of a row is kept when its stream stays and what moves balances. -/
theorem RowLedger.of_sum (same : (next.row endpoint link).header = (state.row endpoint link).header)
    (sum : ∀ token, (state.row endpoint link).active = true →
      (state.row endpoint link).token = token →
      next.offered restored endpoint link token +
          (next.worker endpoint).announces restored link token +
          next.service.announces restored endpoint link token (next.row endpoint link).credits +
          granted restored (state.row endpoint link).credits +
          state.spent restored endpoint link token =
        state.offered restored endpoint link token +
          (state.worker endpoint).announces restored link token +
          state.service.announces restored endpoint link token (state.row endpoint link).credits +
          granted restored (next.row endpoint link).credits +
          next.spent restored endpoint link token) :
    RowLedger next restored endpoint link := by
  intro active
  obtain ⟨sameActive, rest⟩ := Prod.mk.inj same
  have sameToken : (next.row endpoint link).token = (state.row endpoint link).token :=
    (Prod.mk.inj rest).1
  have before : (state.row endpoint link).active = true := sameActive.symm.trans active
  have total := ledger before
  have moved := sum _ before rfl
  simp only [unsent] at total ⊢
  rw [sameToken]
  omega

theorem RowLedger.frame (same : next.row endpoint link = state.row endpoint link)
    (offered : ∀ token, next.offered restored endpoint link token =
      state.offered restored endpoint link token)
    (worker : ∀ token, (next.worker endpoint).announces restored link token =
      (state.worker endpoint).announces restored link token)
    (service : ∀ token credits, next.service.announces restored endpoint link token credits =
      state.service.announces restored endpoint link token credits)
    (spent : ∀ token, next.spent restored endpoint link token =
      state.spent restored endpoint link token) :
    RowLedger next restored endpoint link := by
  refine ledger.of_sum (congrArg _ same) fun token _ _ => ?_
  rw [same, offered, worker, service, spent]

theorem RowLedger.worker_moves (other : catalog.Endpoint)
    (phase : WorkerPhase Value catalog.linkCount)
    (before : ∀ token, (state.worker other).announces restored link token = 0)
    (after : ∀ token, phase.announces restored link token = 0) :
    RowLedger (state.setWorker other phase) restored endpoint link := by
  refine ledger.frame rfl (fun _ => rfl) (fun token => ?_) (fun _ _ => rfl) fun _ => rfl
  by_cases same : endpoint = other
  · subst same
    rw [worker_setWorker_self, before, after]
  · rw [worker_setWorker_of_ne _ _ _ same]

end

theorem spent_congr (admissions : next.admissions = state.admissions)
    (rateRejections : next.rateRejections = state.rateRejections) :
    next.spent restored endpoint link token = state.spent restored endpoint link token := by
  rw [spent, spent, admitted, admitted, rateRejected, rateRejected, admissions, rateRejections]

theorem spent_admitted (state : InStreamRuntime catalog) (restored : Bool)
    (endpoint other : catalog.Endpoint) (link otherLink : catalog.Link)
    (named sequence token : UInt32) (value : Value) :
    ({ state with admissions := state.admissions ++
        [⟨endpoint, link, named, sequence, value, false⟩] } : InStreamRuntime catalog).spent
        restored other otherLink token =
      state.spent restored other otherLink token +
        (if restored = false ∧ (other, otherLink) = (endpoint, link) ∧ named = token then 1
          else 0) := by
  cases restored with
  | true => rfl
  | false =>
    simp [spent, admitted, countP_append, and_assoc, eq_comm (a := endpoint), eq_comm (a := link)]

theorem granted_admitFrame (restored : Bool) {window ticksPerSecond : Nat}
    {row admitted : InStreamLink Value window}
    {envelope : Envelope} {value : Value} {now : Tick}
    (ok : row.admitFrame ticksPerSecond envelope value now = .ok admitted) :
    granted restored row.credits = granted restored admitted.credits +
      (if restored = false then 1 else 0) := by
  cases restored with
  | true => rfl
  | false =>
    have paid := (InStreamLink.occupied_admitFrame ok).2
    simp only [granted, Bool.false_eq_true, if_false, if_true]
    omega

/-- An admitted sample spends one credit of its row. -/
theorem RowLedger.admitted {frame : Decoded} {now : Tick} {value : Value}
    {admitted : InStreamLink Value (catalog.window endpoint)}
    (ledger : ∀ endpoint link, RowLedger state restored endpoint link)
    (ok : (state.row endpoint link).admitFrame catalog.ticksPerSecond frame.envelope value now =
      .ok admitted)
    (other : catalog.Endpoint) (otherLink : catalog.Link) (idle : state.service = .idle) :
    RowLedger { state.setRow endpoint link admitted with
      admissions := state.admissions ++
        [⟨endpoint, link, frame.envelope.requestId, frame.envelope.frameSequence, value, false⟩] }
      restored other otherLink := by
  by_cases same : (other, otherLink) = (endpoint, link)
  · obtain ⟨rfl, rfl⟩ := Prod.mk.inj same
    have row := row_setRow_self state other otherLink admitted
    obtain ⟨_, _, named, _⟩ := InStreamLink.admitFrame_eq_ok ok
    refine (ledger other otherLink).of_sum ?_ fun token _ sameToken => ?_
    · exact (congrArg _ row).trans (InStreamLink.header_admitFrame ok)
    · have more := spent_admitted state restored other other otherLink otherLink
        frame.envelope.requestId frame.envelope.frameSequence token value
      rw [if_congr (and_iff_left ⟨rfl, named.symm.trans sameToken⟩) rfl rfl] at more
      have paid := granted_admitFrame restored ok
      refine Eq.trans ?_ (congrArg (_ + ·) more.symm)
      show state.offered restored other otherLink token +
        (state.worker other).announces restored otherLink token +
        state.service.announces restored other otherLink token _ + _ + _ = _ + _ + _ +
          granted restored ((state.setRow other otherLink admitted).row other otherLink).credits + _
      rw [row, idle]
      show _ + _ + 0 + _ + _ = _ + _ + 0 + _ + _
      omega
  · refine (ledger other otherLink).frame (row_setRow_of_ne _ _ _ _ same) (fun _ => rfl)
      (fun _ => rfl) (fun _ _ => rfl) fun token => ?_
    refine (spent_admitted state restored endpoint other link otherLink frame.envelope.requestId
      frame.envelope.frameSequence token value).trans ?_
    rw [if_neg fun both => same both.2.1]
    rfl

theorem announces_of_opening_ne {phase : ServicePhase catalog}
    (elsewhere : phase.opening ≠ some (endpoint, link))
    (notCrediting : ∀ target rest, phase ≠ .crediting target rest) :
    phase.announces restored endpoint link token credits = 0 := by
  cases phase with
  | crediting target rest => exact absurd rfl (notCrediting target rest)
  | configuring | responding | granting | abandoning => exact if_neg elsewhere
  | _ => rfl

theorem announces_of_isQuiet {phase : ServicePhase catalog} (quiet : phase.isQuiet = true) :
    phase.announces restored endpoint link token credits = 0 := by
  refine announces_of_opening_ne (by rw [opening_of_isQuiet quiet]; nofun) fun target rest same => ?_
  rw [same] at quiet
  exact nomatch quiet

/-- Nothing is on record for a token that has not been handed out. -/
theorem TokensIssued.unrecorded (tokens : TokensIssued state) (restored : Bool)
    (left : state.nextToken ≠ 0) (endpoint : catalog.Endpoint) (link : catalog.Link) :
    state.offered restored endpoint link state.issuedToken = 0 ∧
      state.spent restored endpoint link state.issuedToken = 0 := by
  have unsent : ∀ frames : List (StreamFrame catalog),
      (∀ target frame, StreamFrame.credit target frame ∈ frames → Issued state frame.grant.token) →
      (frames.map (StreamFrame.creditsFor restored endpoint link state.issuedToken)).sum = 0 := by
    intro frames issued
    refine List.sum_eq_zero_iff_forall_eq_nat.mpr fun credits member => ?_
    obtain ⟨frame, here, rfl⟩ := List.mem_map.mp member
    cases frame with
    | credit target frame =>
      exact if_neg fun both => ne_issuedToken left (issued target frame here) both.2.2.2
    | closed target targetLink notice => rfl
  refine ⟨?_, ?_⟩
  · rw [offered, announced, unsent _ tokens.sent, unsent _ tokens.dropped]
  · unfold spent
    split
    · refine countP_eq_zero.mpr ?_
      rintro ⟨row, token⟩ member same
      have named := (Prod.mk.inj (of_decide_eq_true same)).2
      exact ne_issuedToken left (tokens.rateRejections _ member) named
    · refine countP_eq_zero.mpr fun admission member same => ?_
      exact ne_issuedToken left (tokens.admissions admission member) (of_decide_eq_true same).2.2

theorem announces_eq_zero_of_token {link : Fin linkCount} {phase : CreditPhase linkCount}
    (different : phase.token ≠ token) : phase.announces restored link token = 0 := by
  cases phase with
  | restoring | sending => exact if_neg fun both => different both.2
  | transmitting frame => exact if_neg fun both => different both.2.2
  | _ => rfl

variable {reason : InStreamCloseReason}

theorem RowLedger.installed {notify : Bool} {interval : UInt32}
    (tokens : TokensIssued state) (ledger : ∀ endpoint link, RowLedger state restored endpoint link)
    (left : state.nextToken ≠ 0)
    (phase : state.service = .closing [] reason notify (.install endpoint link interval correlation))
    (other : catalog.Endpoint) (otherLink : catalog.Link) :
    RowLedger (state.installStep endpoint link interval correlation) restored other otherLink := by
  by_cases same : (other, otherLink) = (endpoint, link)
  · obtain ⟨rfl, rfl⟩ := Prod.mk.inj same
    intro _
    have row : (state.installStep other otherLink interval correlation).row other otherLink =
        (state.row other otherLink).install state.issuedToken interval :=
      row_setRow_self state other otherLink _
    obtain ⟨offeredNone, spentNone⟩ := tokens.unrecorded restored left other otherLink
    have workerNone : (state.worker other).announces restored otherLink state.issuedToken = 0 := by
      cases here : state.worker other with
      | crediting rest =>
        exact announces_eq_zero_of_token (ne_issuedToken left (tokens.worker other rest here))
      | _ => rfl
    simp only [unsent, row]
    show state.offered restored other otherLink state.issuedToken +
      ((state.worker other).announces restored otherLink state.issuedToken +
        (if some (other, otherLink) = some (other, otherLink) then _ else 0)) =
      _ + state.spent restored other otherLink state.issuedToken
    rw [offeredNone, spentNone, workerNone, if_pos rfl, Nat.zero_add, Nat.zero_add, Nat.add_zero]
  · refine (ledger other otherLink).frame (row_setRow_of_ne _ _ _ _ same) (fun _ => rfl)
      (fun _ => rfl) (fun token credits => ?_) fun _ => rfl
    rw [phase]
    exact if_neg fun both => same (some.inj both).symm

theorem RowLedger.closed {notified : Bool}
    (ledger : ∀ endpoint link, RowLedger state restored endpoint link) (other : catalog.Endpoint)
    (otherLink : catalog.Link) (different : (other, otherLink) ≠ (endpoint, link)) :
    RowLedger (state.closeRow endpoint link reason notified) restored other otherLink := by
  refine (ledger other otherLink).frame (row_closeRow_of_ne different reason notified)
    (offered_closeRow _ _ _ _) (fun token => ?_) (fun token credits => ?_)
    fun token => ?_
  · rw [worker_closeRow]
  · rw [service_closeRow]
  · obtain ⟨admissions, rateRejections, _⟩ := memory_closeRow state endpoint link reason notified
    exact spent_congr admissions rateRejections

theorem RowLedger.of_closed {notified : Bool} {phase : ServicePhase catalog}
    (ledger : ∀ endpoint link, RowLedger state restored endpoint link)
    (quiet : phase.isQuiet = true)
    (before : ∀ other otherLink, (other, otherLink) ≠ (endpoint, link) → ∀ token credits,
      state.service.announces restored other otherLink token credits = 0)
    {otherLink : catalog.Link} :
    RowLedger { state.closeRow endpoint link reason notified with service := phase }
      restored other otherLink := by
  by_cases same : (other, otherLink) = (endpoint, link)
  · obtain ⟨⟩ := same
    intro active
    exact nomatch active.symm.trans (active_closeRow state _ _ _ _)
  · refine (RowLedger.closed ledger other otherLink same).frame rfl (fun _ => rfl) (fun _ => rfl)
      (fun token credits => ?_) fun _ => rfl
    rw [service_closeRow, before other otherLink same, announces_of_isQuiet quiet]

theorem spent_withdrawFrom (endpoint other : catalog.Endpoint) (link otherLink : catalog.Link)
    (envelope : Envelope) (token : UInt32) :
    ({ state with admissions := withdrawFrom state.admissions endpoint link envelope } :
        InStreamRuntime catalog).spent restored other otherLink token =
      state.spent restored other otherLink token := by
  unfold spent
  congr 1
  simp only [admitted, withdrawFrom, countP_map]
  refine countP_congr fun admission _ => ?_
  simp only [Function.comp_apply]
  split <;> rfl

theorem spent_creditStep :
    (state.creditStep endpoint succeeds phase).1.spent restored other link token =
      state.spent restored other link token := by
  obtain ⟨admissions, rateRejections, _⟩ := memory_creditStep state endpoint succeeds phase
  exact spent_congr admissions rateRejections

/-- A thread whose credit phase moves keeps every ledger; `mover` says what the threads were
about to announce before and after. -/
theorem RowLedger.credited (succeeds : Bool) (service : ServicePhase catalog)
    (worker : catalog.Endpoint → WorkerPhase Value catalog.linkCount)
    (named : PhaseNamed state endpoint phase)
    (ledger : ∀ endpoint link, RowLedger state restored endpoint link)
    (mover : ∀ link token, ∃ rest,
      (state.worker endpoint).announces restored link token +
          state.service.announces restored endpoint link token (state.row endpoint link).credits =
        rest + phase.announces restored link token ∧
      (worker endpoint).announces restored link token + service.announces restored endpoint link token
          ((state.creditStep endpoint succeeds phase).1.row endpoint link).credits =
        rest + announcesAfter restored link token (state.creditStep endpoint succeeds phase).2)
    (others : ∀ other ≠ endpoint, ∀ link token credits,
      (worker other).announces restored link token =
        (state.worker other).announces restored link token ∧
        service.announces restored other link token credits =
          state.service.announces restored other link token credits)
    (other : catalog.Endpoint) (otherLink : catalog.Link) :
    RowLedger { (state.creditStep endpoint succeeds phase).1 with service, worker }
      restored other otherLink := by
  by_cases same : other = endpoint
  · subst same
    refine (ledger other otherLink).of_sum ?_ fun token active sameToken => ?_
    · exact header_creditStep state _ _ _ _ _
    · obtain ⟨rest, before, after⟩ := mover otherLink token
      have moved := ledger_creditStep restored named active succeeds
      have spent : ({ (state.creditStep other succeeds phase).1 with service, worker } :
          InStreamRuntime catalog).spent restored other otherLink token = _ := spent_creditStep
      rw [sameToken] at moved
      rw [spent]
      show (state.creditStep other succeeds phase).1.offered restored other otherLink token +
        (worker other).announces _ _ _ + service.announces _ _ _ _
          ((state.creditStep other succeeds phase).1.row other otherLink).credits + _ + _ =
        _ + _ + _ + granted _ ((state.creditStep other succeeds phase).1.row other otherLink).credits + _
      omega
  · exact (ledger other otherLink).frame (row_creditStep_of_ne same succeeds phase otherLink)
      (fun token => offered_creditStep_of_ne same _ _ _ _)
      (fun token => (others other same otherLink token 0).1)
      (fun token credits => (others other same otherLink token credits).2)
      fun token => spent_creditStep

theorem credits_creditStep_of_token (different : phase.token ≠ (state.row endpoint link).token)
    (succeeds : Bool) :
    ((state.creditStep endpoint succeeds phase).1.row endpoint link).credits =
      (state.row endpoint link).credits := by
  cases phase with
  | returning target token generation =>
    by_cases here : target = link
    · subst here
      have unmatched : ¬(state.row endpoint target).matchesSample token generation = true :=
        fun current => different (InStreamLink.matchesSample_iff.mp current).2.1.symm
      simp only [creditStep, row_setRow_self, InStreamLink.returnCredit, if_neg unmatched]
    · have apart : (endpoint, link) ≠ (endpoint, target) := fun same =>
        here (Prod.mk.inj same).2.symm
      simp only [creditStep, row_setRow_of_ne _ _ _ _ apart]
  | transmitting frame => cases succeeds <;> rfl
  | _ => rfl

theorem OpeningFresh.announces (fresh : OpeningFresh state)
    (here : state.worker endpoint = .crediting phase) (succeeds : Bool) (link : catalog.Link)
    (token : UInt32) :
    state.service.announces restored endpoint link token
        ((state.creditStep endpoint succeeds phase).1.row endpoint link).credits =
      state.service.announces restored endpoint link token (state.row endpoint link).credits := by
  by_cases opens : state.service.opening = some (endpoint, link)
  · rw [credits_creditStep_of_token ((fresh endpoint link opens).2 phase here)]
  · cases held : state.service with
    | crediting target rest => rfl
    | _ =>
      rw [held] at opens
      rw [announces_of_opening_ne opens (by nofun), announces_of_opening_ne opens (by nofun)]

variable (rest : Option (CreditPhase catalog.linkCount))

theorem announces_afterWorkerCredit :
    (afterWorkerCredit rest : WorkerPhase Value catalog.linkCount).announces restored link token =
      announcesAfter restored link token rest := by
  cases rest <;> rfl

theorem announces_afterCredit :
    (afterCredit endpoint rest).announces restored endpoint link token credits =
      announcesAfter restored link token rest := by
  cases rest with
  | none => rfl
  | some phase => exact if_pos rfl

theorem announces_afterCredit_of_ne (different : endpoint ≠ other)
    (rest : Option (CreditPhase catalog.linkCount)) :
    (afterCredit endpoint rest).announces restored other link token credits = 0 := by
  cases rest with
  | none => rfl
  | some phase => exact if_neg different

/-- Everything the ledger rests on. -/
structure LedgerKept (state : InStreamRuntime catalog) : Prop where
  wellformed : Wellformed state
  tokens : TokensIssued state
  named : CreditsNamed state
  fresh : OpeningFresh state
  rows : ∀ restored endpoint link, RowLedger state restored endpoint link

section

variable (kept : LedgerKept state)

include kept

/-- A credit phase of the service keeps the ledger. -/
theorem LedgerKept.service_credited (safe : ledgerSafe state (.service succeeds) = true)
    (here : state.service = .crediting target phase) :
    RowLedger { (state.creditStep target succeeds phase).1 with
      service := afterCredit target (state.creditStep target succeeds phase).2 }
      restored endpoint link := by
  have named : PhaseNamed state target phase := by
    refine ⟨?_, ?_, ?_⟩
    · rintro link credits correlation accountedFor rfl
      exact kept.named.service _ _ _ _ _ here
    · rintro link token generation rfl
      exact kept.wellformed.restoring _ _ _ _ here
    · rintro link token generation rfl
      simp only [ledgerSafe, here, bne_iff_ne, ne_eq] at safe
      exact safe
  refine RowLedger.credited succeeds _ _ named (kept.rows restored) ?_ ?_ endpoint link
  · intro link token
    refine ⟨(state.worker target).announces restored link token, ?_, ?_⟩
    · rw [here]
      exact congrArg _ (if_pos rfl)
    · rw [worker_creditStep, announces_afterCredit]
  · intro other different link token credits
    rw [here, worker_creditStep, announces_afterCredit_of_ne different.symm]
    exact ⟨rfl, (if_neg different.symm).symm⟩

/-- A credit phase of a worker keeps the ledger. -/
theorem LedgerKept.worker_credited (safe : ledgerSafe state (.worker target succeeds) = true)
    (here : state.worker target = .crediting phase) :
    RowLedger ((state.creditStep target succeeds phase).1.setWorker target
      (afterWorkerCredit (state.creditStep target succeeds phase).2)) restored endpoint link := by
  have named : PhaseNamed state target phase := by
    refine ⟨?_, ?_, ?_⟩
    · rintro link credits correlation accountedFor rfl
      exact kept.named.worker _ _ _ _ _ here
    · rintro link token generation rfl
      exact absurd here (kept.named.restores _ _ _ _)
    · rintro link token generation rfl
      simp only [ledgerSafe, here, bne_iff_ne, ne_eq] at safe
      exact safe
  refine RowLedger.credited succeeds _ _ named (kept.rows restored) ?_ ?_ endpoint link
  · intro link token
    refine ⟨state.service.announces restored target link token (state.row target link).credits, ?_, ?_⟩
    · rw [here, Nat.add_comm]
      rfl
    · rw [Function.update_self, service_creditStep, announces_afterWorkerCredit, Nat.add_comm,
        kept.fresh.announces here]
  · intro other different link token credits
    rw [Function.update_of_ne different, worker_creditStep, service_creditStep]
    exact ⟨rfl, rfl⟩

theorem LedgerKept.granting (phase : state.service = .granting target targetLink correlation)
    (endpoint : catalog.Endpoint) (link : catalog.Link) :
    RowLedger { state with
      service := .crediting target
        (.sending targetLink (state.row target targetLink).credits correlation
          (state.row target targetLink).token) } restored endpoint link := by
  refine (kept.rows restored endpoint link).of_sum rfl fun token _ sameToken => ?_
  have moved : (ServicePhase.crediting target (.sending targetLink
      (state.row target targetLink).credits correlation
      (state.row target targetLink).token)).announces restored endpoint link token
      (state.row endpoint link).credits =
      state.service.announces restored endpoint link token (state.row endpoint link).credits := by
    rw [phase]
    show (if target = endpoint then
        (if targetLink = link ∧ (state.row target targetLink).token = token then _ else 0) else 0) =
      (if some (target, targetLink) = some (endpoint, link) then _ else 0)
    by_cases sameEndpoint : target = endpoint
    · subst sameEndpoint
      by_cases sameLink : targetLink = link
      · subst sameLink
        rw [if_pos rfl, if_pos ⟨rfl, sameToken⟩, if_pos rfl]
      · rw [if_pos rfl, if_neg fun both => sameLink both.1,
          if_neg fun both => sameLink (Prod.mk.inj (some.inj both)).2]
    · rw [if_neg sameEndpoint, if_neg fun both => sameEndpoint (Prod.mk.inj (some.inj both)).1]
  exact congrArg (fun announced => state.offered restored endpoint link token +
    (state.worker endpoint).announces restored link token + announced +
    granted restored (state.row endpoint link).credits + state.spent restored endpoint link token) moved

/-- A sample that is rejected for its rate is owed a re-advertisement. -/
theorem LedgerKept.rateRejected {frame : Decoded}
    {change : InStreamCounters → InStreamCounters} (idle : state.service = .idle)
    (endpoint : catalog.Endpoint) (link : catalog.Link) :
    RowLedger { state.count target change with
      rateRejections :=
        state.rateRejections ++ [((target, targetLink), frame.envelope.requestId)]
      service := .crediting target (.restoring targetLink frame.envelope.requestId
          (state.row target targetLink).generation) } restored endpoint link := by
  refine (kept.rows restored endpoint link).of_sum rfl fun token _ _ => ?_
  have announced : (ServicePhase.crediting target (.restoring targetLink frame.envelope.requestId
      (state.row target targetLink).generation)).announces restored endpoint link token
      (state.row endpoint link).credits =
      if restored = true ∧
        ((target, targetLink), frame.envelope.requestId) = ((endpoint, link), token) then 1
      else 0 := by
    by_cases here : target = endpoint <;>
      cases restored <;> simp [ServicePhase.announces, CreditPhase.announces, here]
  have rejected : InStreamRuntime.spent { state with
      rateRejections := state.rateRejections ++
        [((target, targetLink), frame.envelope.requestId)] } restored endpoint link token =
      state.spent restored endpoint link token + if restored = true ∧
        ((target, targetLink), frame.envelope.requestId) = ((endpoint, link), token) then 1
      else 0 := by
    cases restored with
    | false => rfl
    | true =>
      simp [spent, InStreamRuntime.rateRejected, countP_append]
  refine Eq.trans ?_ (congrArg (_ + ·) rejected.symm)
  show state.offered restored endpoint link token +
      (state.worker endpoint).announces restored link token +
      ServicePhase.announces restored _ _ _ (state.row endpoint link).credits _ + _ + _ =
    _ + _ + state.service.announces restored _ _ _ _ +
      granted restored (state.row endpoint link).credits + _
  rw [announced, idle]
  show _ + _ + _ + _ + _ = _ + _ + 0 + _ + _
  omega

/-- A withdrawn sample keeps the ledger. -/
theorem LedgerKept.withdrawn {envelope : Envelope} {generation : UInt32}
    {admissions : List (Admission catalog)}
    (phase : state.service = .submitting target targetLink envelope generation)
    (counted : ∀ endpoint link token,
      ({ state with admissions } : InStreamRuntime catalog).spent restored endpoint link
        token = state.spent restored endpoint link token) (endpoint : catalog.Endpoint)
    (link : catalog.Link) :
    RowLedger { state.setRow target targetLink
        ((state.row target targetLink).withdraw envelope.frameSequence) with
      admissions
      service := .crediting target (.checking targetLink envelope.requestId generation) }
      restored endpoint link := by
  have quiet : ∀ token credits, (ServicePhase.crediting target
      (.checking targetLink envelope.requestId generation)).announces restored endpoint link token
        credits =
      state.service.announces restored endpoint link token credits := by
    intro token credits
    rw [phase]
    exact ite_self 0
  by_cases same : (endpoint, link) = (target, targetLink)
  · obtain ⟨rfl, rfl⟩ := Prod.mk.inj same
    have row := row_setRow_self state endpoint link
      ((state.row endpoint link).withdraw envelope.frameSequence)
    have credits := InStreamLink.credits_withdraw (state.row endpoint link) envelope.frameSequence
    refine (kept.rows restored endpoint link).of_sum ?_ fun token _ _ => ?_
    · exact (congrArg _ row).trans (InStreamLink.header_withdraw _ _)
    · have total := counted endpoint link token
      show _ + _ + ServicePhase.announces restored _ _ _
          ((state.setRow endpoint link _).row endpoint link).credits _ + _ + _ =
        _ + _ + _ + granted restored ((state.setRow endpoint link _).row endpoint link).credits +
          ({ state with admissions } : InStreamRuntime catalog).spent restored endpoint link token
      rw [row, credits, quiet, total]
      rfl
  · exact (kept.rows restored endpoint link).frame (row_setRow_of_ne _ _ _ _ same) (fun _ => rfl)
      (fun _ => rfl) quiet (counted endpoint link)

/-- One step that meets the condition keeps every ledger. -/
theorem LedgerKept.rows_step (safe : ledgerSafe state label = true)
    (stepped : Stepped state label next) (restored : Bool) (endpoint : catalog.Endpoint)
    (link : catalog.Link) : RowLedger next restored endpoint link := by
  have before := kept.rows restored endpoint link
  have quietly : ∀ phase : ServicePhase catalog, state.service.isQuiet = true →
      phase.isQuiet = true → RowLedger { state with service := phase } restored endpoint link := by
    intro phase quiet afterwards
    refine before.frame rfl (fun _ => rfl) (fun _ => rfl) (fun token credits => ?_) fun _ => rfl
    rw [announces_of_isQuiet quiet, announces_of_isQuiet afterwards]
  cases stepped with
  | refused idle => exact before
  | opening idle | unsubscribed idle | resetting idle | finished idle =>
    exact quietly _ (by rw [idle]; rfl) rfl
  | rateRejected idle decoded failed change => exact kept.rateRejected idle endpoint link
  | @admittedInline _ target frame _ _ _ idle decoded ok inline change =>
    have resting := kept.wellformed.inline target inline (by rw [idle]; nofun)
    refine ((RowLedger.admitted (kept.rows restored) ok endpoint link idle).worker_moves target
      .scanning ?_ (fun _ => rfl)).frame rfl (fun _ => rfl) (fun _ => rfl)
      (fun token credits => ?_) fun _ => rfl
    · intro token
      show (state.worker target).announces restored link token = 0
      rw [resting]
      rfl
    · show _ = state.service.announces restored _ _ _ _
      rw [idle]
      rfl
  | admittedDeferred idle decoded ok deferred change =>
    refine (RowLedger.admitted (kept.rows restored) ok endpoint link idle).frame rfl (fun _ => rfl)
      (fun _ => rfl) (fun token credits => ?_) fun _ => rfl
    show _ = state.service.announces restored _ _ _ _
    rw [idle]
    rfl
  | closed phase =>
    refine RowLedger.of_closed (kept.rows restored) rfl (fun _ _ _ token credits => ?_)
    exact announces_of_isQuiet (by rw [phase]; rfl)
  | abandoned phase =>
    refine RowLedger.of_closed (kept.rows restored) rfl (fun _ _ different token credits => ?_)
    rw [phase]
    exact if_neg fun both => different (some.inj both).symm
  | @installed succeeds target targetLink _ _ interval correlation phase =>
    have installs : Installs state (.service succeeds)
        (state.installStep target targetLink interval correlation) target targetLink :=
      ⟨_, _, _, _, _, rfl, phase, rfl⟩
    exact RowLedger.installed kept.tokens (kept.rows restored)
      (installs.left (tokensLeft_of_ledgerSafe safe)) phase endpoint link
  | deactivated phase =>
    refine RowLedger.frame (quietly .idle (by rw [phase]; rfl) rfl) rfl (fun _ => rfl)
      (fun _ => rfl) (fun _ _ => rfl) fun _ => rfl
  | configured phase | configurationFailed phase | responded phase | responseFailed phase
  | submitted phase | drained phase =>
    exact before.frame rfl (fun _ => rfl) (fun _ => rfl) (fun _ _ => by rw [phase]; rfl)
      fun _ => rfl
  | granted phase => exact kept.granting phase endpoint link
  | submissionFailed phase =>
    refine kept.withdrawn phase (fun other otherLink token => ?_) endpoint link
    split
    · exact spent_withdrawFrom _ _ _ _ _ _
    · rfl
  | credited here => exact kept.service_credited safe here
  | woken idle deferred => exact before.worker_moves _ _ (fun _ => by rw [idle]; rfl) fun _ => rfl
  | rested here | skipped here =>
    exact before.worker_moves _ _ (fun _ => by rw [here]; rfl) fun _ => rfl
  | @took target _ targetLink index slot taken here found =>
    have moved : RowLedger (state.setRow target targetLink taken) restored endpoint link := by
      by_cases same : (endpoint, link) = (target, targetLink)
      · obtain ⟨⟩ := same
        have credits : taken.credits = (state.row endpoint link).credits := by
          obtain ⟨_, _, _, rfl⟩ := InStreamLink.take?_eq_some found
          rfl
        refine before.of_sum ?_ fun token _ _ => ?_
        · rw [row_setRow_self]
          exact InStreamLink.header_take found
        · rw [row_setRow_self, credits]
          rfl
      · exact before.frame (row_setRow_of_ne _ _ _ _ same) (fun _ => rfl) (fun _ => rfl)
          (fun _ _ => rfl) fun _ => rfl
    refine moved.worker_moves _ _ (fun token => ?_) fun _ => rfl
    show (state.worker target).announces restored link token = 0
    rw [here]
    rfl
  | delivered here current =>
    refine RowLedger.worker_moves ?_ _ _ (fun _ => by rw [here]; rfl) fun _ => rfl
    exact before.frame rfl (fun _ => rfl) (fun _ => rfl) (fun _ _ => rfl) fun _ => rfl
  | @released target _ targetLink index token generation current here change =>
    have moved : RowLedger ((state.setRow target targetLink
        ((state.row target targetLink).release index)).count target change) restored endpoint link := by
      by_cases same : (endpoint, link) = (target, targetLink)
      · obtain ⟨⟩ := same
        have row := row_setRow_self state endpoint link ((state.row endpoint link).release index)
        refine before.of_sum ((congrArg _ row).trans (InStreamLink.header_release _ _))
          fun token _ _ => ?_
        show _ + _ + ServicePhase.announces restored _ _ _
            ((state.setRow endpoint link _).row endpoint link).credits _ + _ + _ =
          _ + _ + _ + granted restored ((state.setRow endpoint link _).row endpoint link).credits + _
        rw [row]
        rfl
      · exact before.frame (row_setRow_of_ne _ _ _ _ same) (fun _ => rfl) (fun _ => rfl)
          (fun _ _ => rfl) fun _ => rfl
    refine moved.worker_moves _ _ (fun token => ?_) fun _ => rfl
    show (state.worker target).announces restored link token = 0
    rw [here]
    rfl
  | workerCredited here => exact kept.worker_credited safe here
  | _ => exact before.frame rfl (fun _ => rfl) (fun _ => rfl) (fun _ _ => rfl) fun _ => rfl

theorem LedgerKept.step (safe : ledgerSafe state label = true) (stepped : Stepped state label next) :
    LedgerKept next where
  wellformed := kept.wellformed.step stepped
  tokens := kept.tokens.step kept.wellformed stepped (tokensLeft_of_ledgerSafe safe)
  named := kept.named.step stepped safe
  fresh := kept.fresh.step kept.wellformed kept.tokens kept.named stepped safe
  rows := kept.rows_step safe stepped

end

theorem ledgerKept_initial : LedgerKept ({} : InStreamRuntime catalog) where
  wellformed := wellformed_initial
  tokens := tokensIssued_initial
  named := creditsNamed_initial
  fresh _ _ held := nomatch held
  rows _ _ _ active := nomatch active

/-! ### Whole runs -/

theorem ledgerKept_of_reachable (reached : (inStreamMachine catalog).ReachableWhere
      (fun state label => ledgerSafe state label = true) {} state) : LedgerKept state :=
  reached.invariant LedgerKept ledgerKept_initial fun _ _ _ kept safe stepped =>
    kept.step safe (step_stepped stepped)

/-- In every run whose steps meet the condition, a Credit frame names the stream its credit was
accounted for; what has been granted to an active stream is covered by its credits and its
admitted samples, and what has been announced to it again by its samples that were turned away
for their rate. -/
theorem credit_not_transferred (reached : (inStreamMachine catalog).ReachableWhere
      (fun state label => ledgerSafe state label = true) {} state) :
    (∀ endpoint frame, StreamFrame.credit endpoint frame ∈ state.sent →
      frame.grant.token = frame.accountedFor) ∧
    ∀ endpoint link, (state.row endpoint link).active = true →
      state.announced false endpoint link (state.row endpoint link).token ≤
          (state.row endpoint link).credits.toNat +
            state.admitted endpoint link (state.row endpoint link).token ∧
        state.announced true endpoint link (state.row endpoint link).token ≤
          state.rateRejected endpoint link (state.row endpoint link).token := by
  have kept := ledgerKept_of_reachable reached
  refine ⟨fun endpoint frame member => kept.named.sent endpoint frame (.inl member), ?_⟩
  intro endpoint link active
  have grants := kept.rows false endpoint link active
  have restores := kept.rows true endpoint link active
  simp only [offered, spent, granted, Bool.false_eq_true, if_true, if_false] at grants restores
  exact ⟨by omega, by omega⟩

/-- The stream is replaced once the worker has accounted its credit and sent it: the new stream
is granted its own slot. -/
theorem credit_not_transferred_solo :
    ∃ state : InStreamRuntime Solo.narrow,
      (Solo.row state).active = true ∧ (Solo.row state).token = 2 ∧
        state.announced false Solo.endpoint Solo.link 2 ≤ 1 := by
  have reached := (inStreamMachine Solo.narrow).reachableWhere_get
    (fun state label => ledgerSafe state label = true) {}
    (.clientHello Solo.link :: Solo.opens 1 7 ++
      [Solo.data 1 1 7 1, .service true, .wake Solo.endpoint] ++ Solo.works 7 ++ Solo.opens 2 7)
    (by decide) (by decide)
  exact ⟨_, by decide, by decide,
    ((credit_not_transferred reached).2 Solo.endpoint Solo.link (by decide)).1⟩

/-- Without the condition the credit of a finished sample goes to the stream that has replaced
its own: two credits are granted to a stream with one slot. -/
theorem credit_transferred :
    ∃ state : InStreamRuntime Solo.narrow, (inStreamMachine Solo.narrow).Reachable {} state ∧
        (∃ frame, StreamFrame.credit Solo.endpoint frame ∈ state.sent ∧
          frame.grant.token = 2 ∧ frame.accountedFor = 1) ∧
        (Solo.row state).active = true ∧ (Solo.row state).token = 2 ∧
        (Solo.row state).credits = 1 ∧ state.admitted Solo.endpoint Solo.link 2 = 0 ∧
        state.announced false Solo.endpoint Solo.link 2 = 2 := by
  refine ⟨((inStreamMachine Solo.narrow).run {} (.clientHello Solo.link :: Solo.opens 1 7 ++
    [Solo.data 1 1 7 1, .service true, .wake Solo.endpoint] ++ Solo.works 5 ++ Solo.opens 2 7 ++
    Solo.works 2)).get (by decide), ⟨_, (some_get _).symm⟩, ?_, by decide⟩
  exact ⟨⟨Solo.link, { token := 2, credits := 1, window := 1 }, 0, 1, false⟩, by decide, rfl, rfl⟩

end InStreamRuntime

end Solar.Remote
