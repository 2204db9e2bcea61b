/-
This file settles the conservation of inbound credit. A stream's window is
divided between the credits the firmware still accepts, the slots that hold a
sample, and the credits a thread is about to account for a slot it has emptied.
The equation is kept by every step but two: a stream installed over slots that
old samples still occupy starts with fewer credits than its window and never
gets them back, and a failed submission whose sample a worker has already taken
returns a credit the worker returns as well. `creditSafe` excludes exactly these
steps, and under it the equation is an invariant.
-/

import Solar.Remote.InStream.Invariants

namespace Solar.Remote

/-- One if the phase is about to account a credit for the stream that the row carries. -/
def CreditPhase.owes {Value : Type} {window linkCount : Nat} (link : Fin linkCount)
    (row : InStreamLink Value window) : CreditPhase linkCount → Nat
  | .checking target token generation =>
      if target = link ∧ row.matchesSample token generation = true then 1 else 0
  | .returning target token generation =>
      if target = link ∧ row.matchesSample token generation = true then 1 else 0
  | _ => 0

def WorkerPhase.owes {Value : Type} {window linkCount : Nat} (link : Fin linkCount)
    (row : InStreamLink Value window) : WorkerPhase Value linkCount → Nat
  | .crediting phase => phase.owes link row
  | _ => 0

def ServicePhase.owes {Value : Type} {catalog : InStreamCatalog Value} {window : Nat}
    (endpoint : catalog.Endpoint) (link : catalog.Link) (row : InStreamLink Value window) :
    ServicePhase catalog → Nat
  | .crediting target phase => if target = endpoint then phase.owes link row else 0
  | _ => 0

namespace InStreamRuntime

variable {Value : Type} {catalog : InStreamCatalog Value}
  {state next : InStreamRuntime catalog} {label : InStreamLabel catalog}

section

variable (state : InStreamRuntime catalog)

/-- The credits of a row's stream that a thread is about to account: the slot is already
empty, the credit not yet counted. -/
def returning (endpoint : catalog.Endpoint) (link : catalog.Link) : Nat :=
  (state.worker endpoint).owes link (state.row endpoint link) +
    state.service.owes endpoint link (state.row endpoint link)

/-- The window of an active stream is its credits, its samples and its credits on the way. -/
def RowConserved (endpoint : catalog.Endpoint) (link : catalog.Link) : Prop :=
  (state.row endpoint link).active = true → (state.row endpoint link).Current ∧
      (state.row endpoint link).credits.toNat + (state.row endpoint link).occupied +
        state.returning endpoint link = catalog.window endpoint

/-- The steps that keep the equation. A stream is installed only when every slot of its link is
free and no worker is about to account a credit under the very token and generation of the new
stream; a failed submission still finds its sample. -/
def creditSafe (label : InStreamLabel catalog) : Bool :=
  match label, state.service with
  | .service _, .closing [] _ _ (.install endpoint link interval _) =>
      (state.row endpoint link).occupied == 0 && (state.worker endpoint).owes link
          ((state.row endpoint link).install state.issuedToken interval) == 0
  | .service false, .submitting endpoint link envelope _ =>
      ((state.row endpoint link).submitted? envelope.frameSequence).isSome
  | _, _ => true

end

/-! ### Rows and threads left alone -/

variable {endpoint : catalog.Endpoint} {window : Nat} {row : InStreamLink Value window}
  {link : catalog.Link} {other : InStreamLink Value window} {linkCount : Nat}

section

variable (same : other.header = row.header)

include same

theorem owes_eq_of_header {link : Fin linkCount} {phase : CreditPhase linkCount} :
    phase.owes link other = phase.owes link row := by
  cases phase <;>
    simp only [CreditPhase.owes, InStreamLink.matchesSample_eq_of_header same]

theorem workerOwes_eq_of_header {link : Fin linkCount} (phase : WorkerPhase Value linkCount) :
    phase.owes link other = phase.owes link row := by
  cases phase with
  | crediting phase => exact owes_eq_of_header same
  | _ => rfl

theorem serviceOwes_eq_of_header (phase : ServicePhase catalog) :
    phase.owes endpoint link other = phase.owes endpoint link row := by
  cases phase with
  | crediting target phase => simp only [ServicePhase.owes, owes_eq_of_header same]
  | _ => rfl

end

theorem RowConserved.of_sum (conserved : RowConserved state endpoint link)
    (same : (next.row endpoint link).header = (state.row endpoint link).header)
    (current : (state.row endpoint link).Current → (next.row endpoint link).Current)
    (sum : (state.row endpoint link).active = true →
      (next.row endpoint link).credits.toNat + (next.row endpoint link).occupied +
          ((next.worker endpoint).owes link (state.row endpoint link) +
            next.service.owes endpoint link (state.row endpoint link)) =
        (state.row endpoint link).credits.toNat + (state.row endpoint link).occupied +
          state.returning endpoint link) : RowConserved next endpoint link := by
  intro active
  have before : (state.row endpoint link).active = true :=
    (congrArg Prod.fst same).symm.trans active
  obtain ⟨fits, total⟩ := conserved before
  refine ⟨current fits, ?_⟩
  rw [returning, workerOwes_eq_of_header same, serviceOwes_eq_of_header same, sum before]
  exact total

theorem RowConserved.frame (conserved : RowConserved state endpoint link)
    (same : next.row endpoint link = state.row endpoint link)
    (worker : (next.worker endpoint).owes link (state.row endpoint link) =
      (state.worker endpoint).owes link (state.row endpoint link))
    (service : next.service.owes endpoint link (state.row endpoint link) =
      state.service.owes endpoint link (state.row endpoint link)) :
    RowConserved next endpoint link := by
  refine conserved.of_sum (congrArg _ same) (fun current => same ▸ current) fun _ => ?_
  rw [same, worker, service]
  rfl

/-! ### Accounting a credit -/

/-- What is still owed after a credit phase has moved. -/
def owesAfter {window linkCount : Nat} (link : Fin linkCount) (row : InStreamLink Value window) :
    Option (CreditPhase linkCount) → Nat
  | some phase => phase.owes link row
  | none => 0

variable (rest : Option (CreditPhase catalog.linkCount))

theorem owes_afterWorkerCredit :
    (afterWorkerCredit rest : WorkerPhase Value catalog.linkCount).owes link row =
      owesAfter link row rest := by
  cases rest <;> rfl

theorem owes_afterCredit :
    (afterCredit endpoint rest).owes endpoint link row = owesAfter link row rest := by
  cases rest with
  | none => rfl
  | some phase => exact if_pos rfl

theorem owes_afterCredit_of_ne {other : catalog.Endpoint} (different : endpoint ≠ other)
    (rest : Option (CreditPhase catalog.linkCount)) :
    (afterCredit endpoint rest).owes other link row = 0 := by
  cases rest with
  | none => rfl
  | some phase => exact if_neg different

theorem returnCredit_owes {link : Fin linkCount} {token generation : UInt32}
    (bound : row.credits.toNat + (CreditPhase.returning link token generation).owes link row ≤ 64) :
    (row.returnCredit token generation).1.credits.toNat +
        owesAfter link row (if (row.returnCredit token generation).2 then
          some (CreditPhase.sending link 1 0 token) else none) =
      row.credits.toNat + (CreditPhase.returning link token generation).owes link row := by
  by_cases named : row.matchesSample token generation = true
  · have counted : (row.credits + 1).toNat = row.credits.toNat + 1 := by
      rw [UInt16.toNat_add, UInt16.toNat_one, Nat.mod_eq_of_lt (by omega)]
    simp [InStreamLink.returnCredit, named, counted, owesAfter, CreditPhase.owes]
  · simp [InStreamLink.returnCredit, owesAfter, CreditPhase.owes, named]

/-- A credit phase moves a credit from the way into the row, or leaves both alone. -/
theorem credits_creditStep (wellformed : Wellformed state) (endpoint : catalog.Endpoint)
    (link : catalog.Link) (phase : CreditPhase catalog.linkCount)
    (bound : (state.row endpoint link).credits.toNat +
      phase.owes link (state.row endpoint link) ≤ 64) (succeeds : Bool) :
    ((state.creditStep endpoint succeeds phase).1.row endpoint link).credits.toNat +
        owesAfter link (state.row endpoint link) (state.creditStep endpoint succeeds phase).2 =
      (state.row endpoint link).credits.toNat + phase.owes link (state.row endpoint link) := by
  cases phase with
  | checking target token generation =>
    by_cases session : state.sessionActive target = true
    · simp only [creditStep, session, if_true]
      rfl
    · have ended := Bool.eq_false_iff.mpr session
      have unmatched : ¬(target = link ∧
          (state.row endpoint link).matchesSample token generation = true) := by
        rintro ⟨rfl, named⟩
        have active := (InStreamLink.matchesSample_iff.mp named).1
        cases active.symm.trans (wellformed.closed endpoint target ended)
      simp [creditStep, ended, owesAfter, CreditPhase.owes, if_neg unmatched]
  | returning target token generation =>
    by_cases here : target = link
    · subst here
      simp only [creditStep, row_setRow_self]
      exact returnCredit_owes bound
    · have apart : (endpoint, link) ≠ (endpoint, target) := fun same =>
        here (Prod.mk.inj same).2.symm
      simp only [creditStep, row_setRow_of_ne _ _ _ _ apart, CreditPhase.owes, here, false_and,
        if_false]
      split <;> rfl
  | transmitting frame => cases succeeds <;> rfl
  | _ =>
    simp only [creditStep]
    split <;> rfl

/-! ### One step -/

theorem owes_setWorker_of_ne {other : catalog.Endpoint} (different : other ≠ endpoint)
    {phase : WorkerPhase Value catalog.linkCount} :
    ((state.setWorker endpoint phase).worker other).owes link row =
      (state.worker other).owes link row := by
  rw [worker_setWorker_of_ne _ _ _ different]

theorem RowConserved.worker_moves (conserved : RowConserved state endpoint link)
    (other : catalog.Endpoint) (phase : WorkerPhase Value catalog.linkCount)
    (before : ∀ (row : InStreamLink Value (catalog.window endpoint)),
      (state.worker other).owes link row = 0)
    (after : ∀ (row : InStreamLink Value (catalog.window endpoint)), phase.owes link row = 0) :
    RowConserved (state.setWorker other phase) endpoint link := by
  refine conserved.frame rfl ?_ rfl
  by_cases same : endpoint = other
  · subst same
    rw [worker_setWorker_self, before, after]
  · exact owes_setWorker_of_ne same

theorem RowConserved.admitted {frame : Decoded} {now : Tick} {value : Value}
    {admitted : InStreamLink Value (catalog.window endpoint)}
    (conserved : ∀ endpoint link, RowConserved state endpoint link)
    (stored : (state.row endpoint link).admitFrame catalog.ticksPerSecond frame.envelope value now =
      .ok admitted)
    (other : catalog.Endpoint) (otherLink : catalog.Link) :
    RowConserved (state.setRow endpoint link admitted) other otherLink := by
  by_cases same : (other, otherLink) = (endpoint, link)
  · obtain ⟨rfl, rfl⟩ := Prod.mk.inj same
    obtain ⟨filled, spent⟩ := InStreamLink.occupied_admitFrame stored
    refine (conserved other otherLink).of_sum ?_ ?_ fun _ => ?_
    · rw [row_setRow_self]
      exact InStreamLink.header_admitFrame stored
    · rw [row_setRow_self]
      exact fun current => current.admitFrame stored
    · rw [row_setRow_self]
      show _ + _ + state.returning other otherLink = _
      omega
  · exact (conserved other otherLink).frame (row_setRow_of_ne _ _ _ _ same) rfl rfl

theorem RowConserved.closed {reason : InStreamCloseReason} {notified : Bool}
    (conserved : ∀ endpoint link, RowConserved state endpoint link) (other : catalog.Endpoint)
    (otherLink : catalog.Link) :
    RowConserved (state.closeRow endpoint link reason notified) other otherLink := by
  by_cases same : (other, otherLink) = (endpoint, link)
  · obtain ⟨⟩ := same
    intro active
    exact nomatch active.symm.trans (active_closeRow state _ _ _ _)
  · refine (conserved other otherLink).frame (row_closeRow_of_ne same reason notified) ?_ ?_
    · rw [worker_closeRow]
    · rw [service_closeRow]

theorem toNat_credits_install (row : InStreamLink Value window) (small : window ≤ 64)
    (empty : row.occupied = 0) (token interval : UInt32) :
    (row.install token interval).credits.toNat = window := by
  have all : row.free = window := by
    have := row.occupied_add_free
    omega
  show (UInt16.ofNat row.free).toNat = window
  rw [all, UInt16.toNat_ofNat', Nat.mod_eq_of_lt (by omega)]

theorem RowConserved.installed {reason : InStreamCloseReason} {notify succeeds : Bool}
    {interval correlation : UInt32} (conserved : ∀ endpoint link, RowConserved state endpoint link)
    (phase : state.service = .closing [] reason notify (.install endpoint link interval correlation))
    (safe : creditSafe state (.service succeeds) = true) (other : catalog.Endpoint)
    (otherLink : catalog.Link) :
    RowConserved (state.installStep endpoint link interval correlation) other otherLink := by
  simp only [creditSafe, phase, Bool.and_eq_true, beq_iff_eq] at safe
  by_cases same : (other, otherLink) = (endpoint, link)
  · obtain ⟨rfl, rfl⟩ := Prod.mk.inj same
    intro _
    have row : (state.installStep other otherLink interval correlation).row other otherLink =
        (state.row other otherLink).install state.issuedToken interval :=
      row_setRow_self state other otherLink _
    have empty : ((state.row other otherLink).install state.issuedToken interval).occupied = 0 :=
      safe.1
    rw [returning, row, toNat_credits_install _ (catalog.window_le other) safe.1, empty]
    refine ⟨InStreamLink.current_of_occupied_eq_zero empty, ?_⟩
    show _ + 0 + ((state.worker other).owes _ _ + 0) = _
    rw [safe.2, Nat.add_zero]
  · refine (conserved other otherLink).frame (row_setRow_of_ne _ _ _ _ same) rfl ?_
    rw [phase]
    rfl

/-- A sample that is withdrawn gives its credit to the service. -/
theorem RowConserved.withdrawn {envelope : Envelope} {generation : UInt32}
    {admissions : List (Admission catalog)} (wellformed : Wellformed state)
    (conserved : ∀ endpoint link, RowConserved state endpoint link)
    (phase : state.service = .submitting endpoint link envelope generation)
    (safe : creditSafe state (.service false) = true) (other : catalog.Endpoint)
    (otherLink : catalog.Link) :
    RowConserved { state.setRow endpoint link
        ((state.row endpoint link).withdraw envelope.frameSequence) with
      admissions
      service := .crediting endpoint (.checking link envelope.requestId generation) }
      other otherLink := by
  simp only [creditSafe, phase] at safe
  by_cases same : (other, otherLink) = (endpoint, link)
  · obtain ⟨rfl, rfl⟩ := Prod.mk.inj same
    have row := row_setRow_self state other otherLink
      ((state.row other otherLink).withdraw envelope.frameSequence)
    have header := wellformed.submitting _ _ _ _ phase
    have named : (state.row other otherLink).matchesSample envelope.requestId generation = true := by
      obtain ⟨active, rest⟩ := Prod.mk.inj header
      exact InStreamLink.matchesSample_iff.mpr ⟨active, Prod.mk.inj rest⟩
    refine (conserved other otherLink).of_sum ?_ ?_ fun _ => ?_
    · exact (congrArg _ row).trans (InStreamLink.header_withdraw _ _)
    · exact fun current => (congrArg InStreamLink.Current row).mpr (current.withdraw _)
    · have freed := InStreamLink.occupied_withdraw safe
      have credits := InStreamLink.credits_withdraw (state.row other otherLink)
        envelope.frameSequence
      have owed : (ServicePhase.crediting other
          (.checking otherLink envelope.requestId generation)).owes other otherLink
          (state.row other otherLink) = 1 := by
        simp [ServicePhase.owes, CreditPhase.owes, named]
      have idle : state.service.owes other otherLink (state.row other otherLink) = 0 := by
        rw [phase]
        rfl
      show ((state.setRow _ _ _).row _ _).credits.toNat + ((state.setRow _ _ _).row _ _).occupied +
        ((state.worker other).owes _ _ + _) = _
      rw [row, credits, owed, returning]
      omega
  · refine (conserved other otherLink).frame (row_setRow_of_ne _ _ _ _ same) rfl ?_
    rw [phase]
    show (if _ then _ else _) = 0
    split
    · rename_i sameEndpoint
      subst sameEndpoint
      refine if_neg fun named => same ?_
      rw [named.1]
    · rfl

/-- A sample that is handled gives its credit to the worker. -/
theorem RowConserved.released {index : Nat} {token generation : UInt32} {current : Bool}
    {change : InStreamCounters → InStreamCounters} (wellformed : Wellformed state)
    (conserved : ∀ endpoint link, RowConserved state endpoint link)
    (here : state.worker endpoint = .finishing link index token generation current)
    (other : catalog.Endpoint) (otherLink : catalog.Link) :
    RowConserved (((state.setRow endpoint link ((state.row endpoint link).release index)).count
      endpoint change).setWorker endpoint (.crediting (.checking link token generation)))
      other otherLink := by
  by_cases same : (other, otherLink) = (endpoint, link)
  · obtain ⟨rfl, rfl⟩ := Prod.mk.inj same
    obtain ⟨slot, stored, running, sameToken, sameGeneration⟩ :=
      wellformed.holds other otherLink index token generation (by rw [here]; rfl)
    have busy := InboundSlot.isOccupied_of_running running
    have freed := InStreamLink.occupied_release stored busy
    have row := row_setRow_self state other otherLink ((state.row other otherLink).release index)
    intro active
    have before : (state.row other otherLink).active = true :=
      (congrArg InStreamLink.active row).symm.trans active
    obtain ⟨fits, _⟩ := conserved other otherLink before
    have named : (state.row other otherLink).matchesSample token generation = true := by
      obtain ⟨rowToken, rowGeneration⟩ := fits index slot stored busy
      exact InStreamLink.matchesSample_iff.mpr
        ⟨before, rowToken.symm.trans sameToken, rowGeneration.symm.trans sameGeneration⟩
    refine (conserved other otherLink).of_sum ?_ ?_ (fun _ => ?_) active
    · exact (congrArg _ row).trans (InStreamLink.header_release _ _)
    · exact fun current => (congrArg InStreamLink.Current row).mpr (current.release _)
    · have owed : (WorkerPhase.crediting (.checking otherLink token generation) :
          WorkerPhase Value catalog.linkCount).owes otherLink (state.row other otherLink) = 1 := by
        simp [WorkerPhase.owes, CreditPhase.owes, named]
      have nothing : (state.worker other).owes otherLink (state.row other otherLink) = 0 := by
        rw [here]
        rfl
      have credits : ((state.row other otherLink).release index).credits =
          (state.row other otherLink).credits := rfl
      rw [worker_setWorker_self, owed, returning]
      show ((state.setRow _ _ _).row _ _).credits.toNat + ((state.setRow _ _ _).row _ _).occupied +
        (1 + state.service.owes _ _ _) = _
      rw [row, credits]
      omega
  · refine (conserved other otherLink).frame (row_setRow_of_ne _ _ _ _ same) ?_ rfl
    by_cases sameEndpoint : other = endpoint
    · subst sameEndpoint
      rw [worker_setWorker_self, here]
      refine if_neg fun named => same ?_
      rw [named.1]
    · exact owes_setWorker_of_ne sameEndpoint

/-- A credit phase that moves keeps every row conserved, whoever runs it: `mover` says what the
thread owed a row before and what it owes after. -/
theorem RowConserved.credited (endpoint : catalog.Endpoint) (phase : CreditPhase catalog.linkCount)
    (succeeds : Bool) (wellformed : Wellformed state)
    (conserved : ∀ endpoint link, RowConserved state endpoint link)
    (rows : ∀ other otherLink, next.row other otherLink =
      (state.creditStep endpoint succeeds phase).1.row other otherLink)
    (mover : ∀ link, ∃ rest,
      state.returning endpoint link = rest + phase.owes link (state.row endpoint link) ∧
        (next.worker endpoint).owes link (state.row endpoint link) +
            next.service.owes endpoint link (state.row endpoint link) =
          rest + owesAfter link (state.row endpoint link)
            (state.creditStep endpoint succeeds phase).2)
    (others : ∀ other ≠ endpoint, ∀ link, (next.worker other).owes link (state.row other link) =
          (state.worker other).owes link (state.row other link) ∧
        next.service.owes other link (state.row other link) =
          state.service.owes other link (state.row other link))
    (other : catalog.Endpoint) (otherLink : catalog.Link) :
    RowConserved next other otherLink := by
  by_cases same : other = endpoint
  · subst same
    obtain ⟨rest, before, after⟩ := mover otherLink
    have slots := slots_creditStep state other succeeds phase other otherLink
    refine (conserved other otherLink).of_sum ?_ ?_ fun active => ?_
    · rw [rows]
      exact header_creditStep state _ _ _ _ _
    · rw [rows]
      exact fun current => current.congr (header_creditStep state _ _ _ _ _) slots
    · have total := (conserved other otherLink active).2
      have small := catalog.window_le other
      have moved := credits_creditStep wellformed other otherLink phase (by omega) succeeds
      have occupied : ((state.creditStep other succeeds phase).1.row other otherLink).occupied =
          (state.row other otherLink).occupied := congrArg (Pool.count · _) slots
      rw [rows]
      omega
  · obtain ⟨worker, service⟩ := others other same otherLink
    exact (conserved other otherLink).frame
      ((rows _ _).trans (row_creditStep_of_ne same succeeds phase otherLink)) worker service

/-- One step that meets the condition keeps every row conserved. -/
theorem RowConserved.step (wellformed : Wellformed state)
    (conserved : ∀ endpoint link, RowConserved state endpoint link)
    (safe : creditSafe state label = true) (stepped : Stepped state label next)
    (endpoint : catalog.Endpoint) (link : catalog.Link) : RowConserved next endpoint link := by
  have before := conserved endpoint link
  cases stepped with
  | @admittedInline _ target _ _ _ _ idle decoded stored inline change =>
    have moved := RowConserved.admitted conserved stored endpoint link
    have resting := wellformed.inline target inline (by rw [idle]; nofun)
    refine RowConserved.frame (moved.worker_moves target .scanning ?_ ?_)
      rfl rfl ?_
    · intro row
      show (state.worker target).owes link row = 0
      rw [resting]
      rfl
    · exact fun row => rfl
    · show _ = state.service.owes endpoint link _
      rw [idle]
      rfl
  | admittedDeferred idle decoded stored deferred change =>
    refine RowConserved.frame (RowConserved.admitted conserved stored endpoint link) rfl rfl ?_
    show _ = state.service.owes endpoint link _
    rw [idle]
    rfl
  | closed phase | abandoned phase =>
    refine RowConserved.frame (RowConserved.closed conserved endpoint link) rfl rfl ?_
    rw [service_closeRow, phase]
    rfl
  | installed phase => exact RowConserved.installed conserved phase safe endpoint link
  | submissionFailed phase =>
    exact RowConserved.withdrawn wellformed conserved phase safe endpoint link
  | woken idle deferred =>
    exact before.worker_moves _ _ (fun row => by rw [idle]; rfl) fun row => rfl
  | rested here | skipped here =>
    exact before.worker_moves _ _ (fun row => by rw [here]; rfl) fun row => rfl
  | delivered here current =>
    refine RowConserved.worker_moves ?_ _ _ (fun row => by rw [here]; rfl) fun row => rfl
    exact before.frame rfl rfl rfl
  | @took target _ targetLink index slot taken here found =>
    have moved : RowConserved (state.setRow target targetLink taken) endpoint link := by
      by_cases same : (endpoint, link) = (target, targetLink)
      · obtain ⟨⟩ := same
        have credits : taken.credits = (state.row endpoint link).credits := by
          obtain ⟨_, _, _, rfl⟩ := InStreamLink.take?_eq_some found
          rfl
        refine before.of_sum ?_ ?_ fun _ => ?_
        · rw [row_setRow_self]
          exact InStreamLink.header_take found
        · rw [row_setRow_self]
          exact fun current => current.take found
        · rw [row_setRow_self, InStreamLink.occupied_take found, credits]
          rfl
      · exact before.frame (row_setRow_of_ne _ _ _ _ same) rfl rfl
    exact moved.worker_moves _ _ (fun row => by
      show (state.worker target).owes link row = 0
      rw [here]
      rfl) fun row => rfl
  | released here change => exact RowConserved.released wellformed conserved here endpoint link
  | @credited succeeds target phase here =>
    refine RowConserved.credited target phase succeeds wellformed conserved (fun _ _ => ?_) ?_ ?_
      endpoint link
    · rfl
    · intro targetLink
      refine ⟨(state.worker target).owes targetLink (state.row target targetLink), ?_, ?_⟩
      · rw [returning, here, ServicePhase.owes, if_pos rfl]
      · rw [worker_creditStep, owes_afterCredit]
    · intro other different otherLink
      refine ⟨?_, ?_⟩
      · rw [worker_creditStep]
      · rw [here, ServicePhase.owes, if_neg different.symm]
        exact owes_afterCredit_of_ne different.symm _
  | @workerCredited target succeeds phase here =>
    refine RowConserved.credited target phase succeeds wellformed conserved (fun _ _ => ?_) ?_ ?_
      endpoint link
    · rfl
    · intro targetLink
      refine ⟨state.service.owes target targetLink (state.row target targetLink), ?_, ?_⟩
      · rw [returning, here, Nat.add_comm]
        rfl
      · show _ + (state.creditStep target _ phase).1.service.owes _ _ _ = _
        rw [worker_setWorker_self, service_creditStep, owes_afterWorkerCredit, Nat.add_comm]
    · intro other different otherLink
      refine ⟨?_, ?_⟩
      · rw [worker_setWorker_of_ne _ _ _ different, worker_creditStep]
      · show (state.creditStep target _ phase).1.service.owes _ _ _ = _
        rw [service_creditStep]
  | refused idle => exact before
  | rejected idle decoded failed notRate change => exact before.frame rfl rfl rfl
  | _ =>
    refine before.frame rfl rfl ?_
    simp [*, ServicePhase.owes, CreditPhase.owes]

/-! ### Whole runs -/

/-- In every run whose steps meet the condition, the window of an active stream is its credits,
its occupied slots and the credits on their way back. So credits never exceed the free slots,
and when no credit is on its way the credits are exactly the free slots: a stream whose slots
are all free has its full window. -/
theorem credit_conserved {state : InStreamRuntime catalog}
    (reached : (inStreamMachine catalog).ReachableWhere
      (fun state label => creditSafe state label = true) {} state)
    (endpoint : catalog.Endpoint) (link : catalog.Link)
    (active : (state.row endpoint link).active = true) :
    (state.row endpoint link).credits.toNat + (state.row endpoint link).occupied +
        state.returning endpoint link = catalog.window endpoint ∧
      (state.row endpoint link).credits.toNat ≤ (state.row endpoint link).free ∧
      (state.returning endpoint link = 0 →
        (state.row endpoint link).credits.toNat + (state.row endpoint link).occupied =
          catalog.window endpoint) ∧
      (state.returning endpoint link = 0 → (state.row endpoint link).occupied = 0 →
        (state.row endpoint link).credits.toNat = catalog.window endpoint) := by
  have standing : Wellformed state ∧ ∀ endpoint link, RowConserved state endpoint link := by
    refine reached.invariant (fun state =>
      Wellformed state ∧ ∀ endpoint link, RowConserved state endpoint link)
      ⟨wellformed_initial, fun _ _ => nofun⟩ ?_
    intro before label after holds safe stepped
    exact ⟨holds.1.step (step_stepped stepped),
      RowConserved.step holds.1 holds.2 safe (step_stepped stepped)⟩
  obtain ⟨_, total⟩ := standing.2 endpoint link active
  have divided := (state.row endpoint link).occupied_add_free
  refine ⟨total, ?_, ?_, ?_⟩
  · omega
  · intro none
    omega
  · intro none empty
    omega

/-- A run with two samples, one finished and one waiting. -/
theorem credit_conserved_solo :
    ∃ state : InStreamRuntime Solo.wide,
      (Solo.row state).active = true ∧ (Solo.row state).occupied = 1 ∧
        (Solo.row state).credits.toNat + (Solo.row state).occupied = 2 := by
  have reached := (inStreamMachine Solo.wide).reachableWhere_get
    (fun state label => creditSafe state label = true) {}
    (.clientHello Solo.link :: Solo.opens 1 7 ++
      [Solo.data 1 1 7 1, .service true, .wake Solo.endpoint] ++ Solo.works 8 ++
      [Solo.data 1 2 8 2, .service true]) (by decide) (by decide)
  exact ⟨_, by decide, by decide,
    (credit_conserved reached Solo.endpoint Solo.link (by decide)).2.2.1 (by decide)⟩

/-- Without the condition the equation fails for good, with every thread at rest. A stream
replaced while its only sample runs is left with every slot free and no credit; a submission
that fails after a worker has taken the sample leaves two credits for one slot. -/
theorem credit_not_conserved :
    (∃ state : InStreamRuntime Solo.narrow,
      (inStreamMachine Solo.narrow).Reachable {} state ∧ state.isIdle = true ∧
        (state.worker Solo.endpoint).isIdle = true ∧ (Solo.row state).active = true ∧
        (Solo.row state).occupied = 0 ∧ (Solo.row state).credits = 0) ∧
    ∃ state : InStreamRuntime Solo.narrow,
      (inStreamMachine Solo.narrow).Reachable {} state ∧ state.isIdle = true ∧
        (state.worker Solo.endpoint).isIdle = true ∧ (Solo.row state).active = true ∧
        (Solo.row state).free = 1 ∧ (Solo.row state).credits = 2 := by
  constructor
  · exact ⟨((inStreamMachine Solo.narrow).run {} (.clientHello Solo.link :: Solo.opens 1 7 ++
      [Solo.data 1 1 7 1, .service true, .wake Solo.endpoint] ++ Solo.works 1 ++ Solo.opens 2 6 ++
      Solo.works 5)).get (by decide), ⟨_, (Option.some_get _).symm⟩, by decide⟩
  · exact ⟨((inStreamMachine Solo.narrow).run {} (.clientHello Solo.link :: Solo.opens 1 7 ++
      [Solo.data 1 1 7 1, .service true, .wake Solo.endpoint] ++ Solo.works 7 ++
      [Solo.data 1 2 8 2] ++ Solo.works 1 ++ .service false :: Solo.serves 4 ++
      Solo.works 7)).get (by decide), ⟨_, (Option.some_get _).symm⟩, by decide⟩

end InStreamRuntime

end Solar.Remote
