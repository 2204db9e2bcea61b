/-
This file proves that a newly installed stream has a token nobody has seen:
every token in a row, in a slot, in a thread's hands or in the run's memory is
below the counter the next token is taken from. The counter is a `uint32_t` and
starts over after its last value, so the fact is about runs whose steps never
install a stream from an exhausted counter (`tokensLeft`).
-/

import Solar.Remote.InStream.Invariants

namespace Solar.Remote

open List Option

/-- The token of the stream a credit phase works for. -/
def CreditPhase.token {linkCount : Nat} : CreditPhase linkCount → UInt32
  | .checking _ token _ => token
  | .returning _ token _ => token
  | .restoring _ token _ => token
  | .sending _ _ _ accountedFor => accountedFor
  | .transmitting frame => frame.grant.token

namespace InStreamRuntime

variable {Value : Type} {catalog : InStreamCatalog Value}
  {state next : InStreamRuntime catalog} {label : InStreamLabel catalog}

/-- The token has been handed out. The counter stands at zero once all of them have. -/
def Issued (state : InStreamRuntime catalog) (token : UInt32) : Prop :=
  state.nextToken = 0 ∨ token < state.nextToken

/-- A stream is installed only while the counter has not run through its values. -/
def tokensLeft (state : InStreamRuntime catalog) (label : InStreamLabel catalog) : Bool :=
  match label, state.service with
  | .service _, .closing [] _ _ (.install _ _ _ _) => state.nextToken != 0
  | _, _ => true

theorem ne_issuedToken {token : UInt32} (left : state.nextToken ≠ 0)
    (issued : Issued state token) : token ≠ state.issuedToken := by
  obtain exhausted | below := issued
  · exact absurd exhausted left
  · rw [issuedToken, if_neg left]
    exact UInt32.ne_of_lt below

section

variable (state) (endpoint)

theorem nextToken_creditStep {succeeds : Bool} {phase : CreditPhase catalog.linkCount} :
    (state.creditStep endpoint succeeds phase).1.nextToken = state.nextToken := by
  cases phase <;> cases succeeds <;> rfl

theorem nextToken_closeRow {link : catalog.Link} {reason : InStreamCloseReason} {notified : Bool} :
    (state.closeRow endpoint link reason notified).nextToken = state.nextToken := by
  unfold closeRow
  split <;> rfl

end

theorem Stepped.nextToken (stepped : Stepped state label next) :
    next.nextToken = state.nextToken ∨
      ∃ endpoint link, Installs state label next endpoint link := by
  cases stepped with
  | installed phase => exact .inr ⟨_, _, _, _, _, _, _, rfl, phase, rfl⟩
  | closed | abandoned => exact .inl (nextToken_closeRow state _)
  | credited | workerCredited => exact .inl (nextToken_creditStep state _)
  | _ => exact .inl rfl

variable {endpoint : catalog.Endpoint} {phase : CreditPhase catalog.linkCount}
  {frame : CreditFrame catalog.linkCount} {link : catalog.Link} {target : catalog.Endpoint}

theorem issued_installStep {interval correlation token : UInt32} (left : state.nextToken ≠ 0)
    (within : Issued state token ∨ token = state.issuedToken) :
    Issued (state.installStep endpoint link interval correlation) token := by
  have next : (state.installStep endpoint link interval correlation).nextToken =
      state.nextToken + 1 := by
    show state.issuedToken + 1 = _
    rw [issuedToken, if_neg left]
  rw [Issued, next]
  by_cases last : state.nextToken + 1 = 0
  · exact .inl last
  · refine .inr (UInt32.lt_iff_toNat_lt.mpr ?_)
    have grows : (state.nextToken + 1).toNat = state.nextToken.toNat + 1 := by
      have bound := state.nextToken.toNat_lt
      have nonzero : (state.nextToken.toNat + 1) % 2 ^ 32 ≠ 0 := fun zero =>
        last (UInt32.toNat_inj.mp ((UInt32.toNat_add _ _).trans zero))
      rw [UInt32.toNat_add, UInt32.toNat_one]
      omega
    rw [grows]
    obtain (exhausted | below) | same := within
    · exact absurd exhausted left
    · exact Nat.lt_succ_of_lt (UInt32.lt_iff_toNat_lt.mp below)
    · rw [same, issuedToken, if_neg left]
      exact Nat.lt_succ_self _

theorem Installs.left (installs : Installs state label next endpoint link)
    (left : tokensLeft state label = true) : state.nextToken ≠ 0 := by
  obtain ⟨_, _, _, _, _, rfl, phase, _⟩ := installs
  simp only [tokensLeft, phase, bne_iff_ne, ne_eq] at left
  exact left

theorem Stepped.issued (stepped : Stepped state label next) (left : tokensLeft state label = true)
    {token : UInt32} (issued : Issued state token) : Issued next token := by
  obtain same | ⟨endpoint, link, installs⟩ := stepped.nextToken
  · rw [Issued, same]
    exact issued
  · have remains := installs.left left
    obtain ⟨_, _, _, _, _, _, _, rfl⟩ := installs
    exact issued_installStep remains (.inl issued)

/-! ### Where tokens are kept -/

/-- Every token the system holds has been handed out. -/
structure TokensIssued (state : InStreamRuntime catalog) : Prop where
  rows : ∀ endpoint link, (state.row endpoint link).active = true →
    Issued state (state.row endpoint link).token
  slots : ∀ endpoint link index slot, (state.row endpoint link).slots.get? index = some slot →
    slot.isOccupied = true → Issued state slot.token
  worker : ∀ endpoint phase, state.worker endpoint = .crediting phase → Issued state phase.token
  service : ∀ endpoint phase, state.service = .crediting endpoint phase → Issued state phase.token
  sent : ∀ endpoint frame, StreamFrame.credit endpoint frame ∈ state.sent →
    Issued state frame.grant.token
  dropped : ∀ endpoint frame, StreamFrame.credit endpoint frame ∈ state.dropped →
    Issued state frame.grant.token
  admissions : ∀ admission ∈ state.admissions, Issued state admission.token
  rateRejections : ∀ rejection ∈ state.rateRejections, Issued state rejection.2
  deliveries : ∀ delivery ∈ state.deliveries, Issued state delivery.token

theorem tokensIssued_initial : TokensIssued ({} : InStreamRuntime catalog) where
  rows _ _ active := nomatch active
  slots _ _ _ _ stored busy := by
    rw [Pool.eq_of_get?_fill stored] at busy
    exact nomatch busy
  worker _ _ here := nomatch here
  service _ _ here := nomatch here
  sent _ _ member := nomatch member
  dropped _ _ member := nomatch member
  admissions _ member := nomatch member
  rateRejections _ member := nomatch member
  deliveries _ member := nomatch member

theorem TokensIssued.rows_step (tokens : TokensIssued state) (stepped : Stepped state label next)
    (left : tokensLeft state label = true) (active : (next.row endpoint link).active = true) :
    Issued next (next.row endpoint link).token := by
  obtain same | ⟨inactive, _⟩ | installs := stepped.header endpoint link
  · obtain ⟨sameActive, rest⟩ := Prod.mk.inj same
    rw [show (next.row endpoint link).token = (state.row endpoint link).token from
      (Prod.mk.inj rest).1]
    exact stepped.issued left (tokens.rows endpoint link (sameActive.symm.trans active))
  · exact nomatch active.symm.trans inactive
  · have remains := installs.left left
    obtain ⟨_, _, _, _, _, _, _, rfl⟩ := installs
    refine issued_installStep remains (.inr ?_)
    exact congrArg InStreamLink.token (row_setRow_self state endpoint link _)

theorem tracesTo_closeRow {reason : InStreamCloseReason} {notified : Bool}
    {other : catalog.Endpoint} {otherLink : catalog.Link} :
    ((state.closeRow endpoint link reason notified).row other otherLink).TracesTo
      (state.row other otherLink) := by
  unfold closeRow
  split
  · exact row_setRow_induction (motive := fun other otherLink row =>
      row.TracesTo (state.row other otherLink)) other otherLink (InStreamLink.tracesTo_close _)
      fun _ => .of_slots rfl
  · exact .of_slots rfl

/-- A sample in a slot was there before, or has just been admitted under its link's stream. -/
theorem Stepped.slot (stepped : Stepped state label next) {index : Nat} {slot : InboundSlot Value}
    (stored : (next.row endpoint link).slots.get? index = some slot)
    (busy : slot.isOccupied = true) :
    (∃ old, (state.row endpoint link).slots.get? index = some old ∧ old.isOccupied = true ∧
      old.token = slot.token ∧ old.generation = slot.generation) ∨
      state.service = .idle ∧ (state.row endpoint link).active = true ∧
        slot.token = (state.row endpoint link).token ∧
        slot.generation = (state.row endpoint link).generation := by
  have traced : ∀ {target : catalog.Endpoint} {targetLink : catalog.Link}
      {replacement : InStreamLink Value (catalog.window target)},
      replacement.TracesTo (state.row target targetLink) →
      ((state.setRow target targetLink replacement).row endpoint link).slots.get? index =
        some slot →
      ∃ old, (state.row endpoint link).slots.get? index = some old ∧ old.isOccupied = true ∧
        old.token = slot.token ∧ old.generation = slot.generation := by
    intro target targetLink replacement traces
    refine row_setRow_induction (motive := fun endpoint link row =>
      row.slots.get? index = some slot →
        ∃ old, (state.row endpoint link).slots.get? index = some old ∧ old.isOccupied = true ∧
          old.token = slot.token ∧ old.generation = slot.generation) endpoint link ?_ ?_
    · exact fun here => traces index slot here busy
    · exact fun _ here => ⟨slot, here, busy, rfl, rfl⟩
  have admits : ∀ {target : catalog.Endpoint} {targetLink : catalog.Link} {frame : Decoded}
      {now : Tick} {value : Value} {admitted : InStreamLink Value (catalog.window target)},
      (state.row target targetLink).admitFrame catalog.ticksPerSecond frame.envelope value now =
        .ok admitted →
      ((state.setRow target targetLink admitted).row endpoint link).slots.get? index = some slot →
      (state.row endpoint link).slots.get? index = some slot ∨
        (state.row endpoint link).active = true ∧ slot.token = (state.row endpoint link).token ∧
          slot.generation = (state.row endpoint link).generation := by
    intro target targetLink frame now value admitted ok
    refine row_setRow_induction (motive := fun endpoint link row =>
      row.slots.get? index = some slot → (state.row endpoint link).slots.get? index = some slot ∨
          (state.row endpoint link).active = true ∧ slot.token = (state.row endpoint link).token ∧
            slot.generation = (state.row endpoint link).generation) endpoint link ?_ ?_
    · exact InStreamLink.traces_admitFrame ok
    · exact fun _ here => .inl here
  cases stepped with
  | admittedInline idle decoded ok | admittedDeferred idle decoded ok =>
    obtain kept | fresh := admits ok stored
    · exact .inl ⟨slot, kept, busy, rfl, rfl⟩
    · exact .inr ⟨idle, fresh⟩
  | closed | abandoned => exact .inl (tracesTo_closeRow _ _ stored busy)
  | @installed _ target targetLink _ _ interval _ phase =>
    have same : ((state.row target targetLink).install state.issuedToken interval).TracesTo
        (state.row target targetLink) := .of_slots rfl
    exact .inl (traced same stored)
  | submissionFailed phase => exact .inl (traced (InStreamLink.tracesTo_withdraw _ _) stored)
  | took here found => exact .inl (traced (InStreamLink.tracesTo_take found) stored)
  | released here change => exact .inl (traced (InStreamLink.tracesTo_release _ _) stored)
  | @credited succeeds target phase | @workerCredited target succeeds phase =>
    have same := slots_creditStep state target succeeds phase endpoint link
    exact .inl ⟨slot, (congrArg (Pool.get? · index) same).symm.trans stored, busy, rfl, rfl⟩
  | _ => exact .inl ⟨slot, stored, busy, rfl, rfl⟩

theorem TokensIssued.slots_step (tokens : TokensIssued state) (stepped : Stepped state label next)
    (left : tokensLeft state label = true) {index : Nat} {slot : InboundSlot Value}
    (stored : (next.row endpoint link).slots.get? index = some slot)
    (busy : slot.isOccupied = true) : Issued next slot.token := by
  obtain ⟨old, here, occupied, sameToken, _⟩ | ⟨_, active, sameToken, _⟩ := stepped.slot stored busy
  · exact stepped.issued left (sameToken ▸ tokens.slots endpoint link index old here occupied)
  · exact stepped.issued left (sameToken ▸ tokens.rows endpoint link active)

variable {moved : CreditPhase catalog.linkCount} {succeeds : Bool}

theorem token_creditStep (rest : (state.creditStep endpoint succeeds phase).2 = some moved) :
    moved.token = phase.token ∨ ∃ link, (state.row endpoint link).active = true ∧
        moved.token = (state.row endpoint link).token := by
  cases phase with
  | sending link credits correlation accountedFor =>
    simp only [creditStep, ite_none_right_eq_some] at rest
    exact .inr ⟨link, rest.1.2, some.inj rest.2 ▸ rfl⟩
  | transmitting frame => cases rest
  | _ =>
    simp only [creditStep, ite_none_right_eq_some] at rest
    exact .inl (some.inj rest.2 ▸ rfl)

theorem TokensIssued.creditStep (tokens : TokensIssued state) (issued : Issued state phase.token)
    (rest : (state.creditStep endpoint succeeds phase).2 = some moved) :
    Issued state moved.token := by
  obtain same | ⟨link, active, same⟩ := token_creditStep rest
  · exact same ▸ issued
  · exact same ▸ tokens.rows endpoint link active

theorem TokensIssued.worker_step (wellformed : Wellformed state) (tokens : TokensIssued state)
    (stepped : Stepped state label next) (left : tokensLeft state label = true)
    (held : next.worker endpoint = .crediting phase) : Issued next phase.token := by
  obtain before | ⟨link, index, token, generation, _, here, rfl⟩ | ⟨_, _, _, here, moved⟩ :=
    stepped.workerCredit held
  · exact stepped.issued left (tokens.worker endpoint phase before)
  · obtain ⟨slot, stored, running, sameToken, _⟩ :=
      wellformed.holds endpoint link index token generation (by rw [here]; rfl)
    have busy : slot.isOccupied = true := InboundSlot.isOccupied_of_running running
    exact stepped.issued left (sameToken ▸ tokens.slots endpoint link index slot stored busy)
  · exact stepped.issued left (tokens.creditStep (tokens.worker _ _ here) moved)

theorem TokensIssued.service_step (wellformed : Wellformed state) (tokens : TokensIssued state)
    (stepped : Stepped state label next) (left : tokensLeft state label = true)
    (held : next.service = .crediting endpoint phase) : Issued next phase.token := by
  refine stepped.issued left ?_
  obtain before | ⟨link, token, _, active, named, rfl⟩ | ⟨link, _, here, rfl⟩ |
    ⟨link, envelope, generation, here, rfl⟩ | ⟨_, _, _, here, moved⟩ := stepped.serviceCredit held
  · exact tokens.service endpoint phase before
  · exact named ▸ tokens.rows endpoint link active
  · exact tokens.rows endpoint link (wellformed.opening endpoint link (by rw [here]; rfl))
  · obtain ⟨active, rest⟩ := Prod.mk.inj (wellformed.submitting _ _ _ _ here)
    have named : (state.row endpoint link).token = envelope.requestId := (Prod.mk.inj rest).1
    exact named ▸ tokens.rows endpoint link active
  · exact tokens.creditStep (tokens.service _ _ here) moved

/-! ### What the run remembers -/

/-- Whether a frame was handed to the lanes or refused by them, the thread held it before. -/
theorem transmitted_creditStep
    (member : StreamFrame.credit target frame ∈ (state.creditStep endpoint succeeds phase).1.sent ∨
      StreamFrame.credit target frame ∈ (state.creditStep endpoint succeeds phase).1.dropped) :
    (StreamFrame.credit target frame ∈ state.sent ∨
      StreamFrame.credit target frame ∈ state.dropped) ∨
      phase = .transmitting frame := by
  cases phase with
  | transmitting held =>
    cases succeeds with
    | false =>
      obtain before | after := member
      · exact .inl (.inl before)
      · obtain before | last := mem_append.mp after
        · exact .inl (.inr before)
        · obtain ⟨_, rfl⟩ := StreamFrame.credit.inj (mem_singleton.mp last)
          exact .inr rfl
    | true =>
      obtain before | after := member
      · obtain before | last := mem_append.mp before
        · exact .inl (.inl before)
        · obtain ⟨_, rfl⟩ := StreamFrame.credit.inj (mem_singleton.mp last)
          exact .inr rfl
      · exact .inl (.inr after)
  | _ => exact .inl member

theorem transmitted_closeRow {reason : InStreamCloseReason} {notified : Bool}
    (member : StreamFrame.credit target frame ∈
      (state.closeRow endpoint link reason notified).sent ∨
      StreamFrame.credit target frame ∈ (state.closeRow endpoint link reason notified).dropped) :
    StreamFrame.credit target frame ∈ state.sent ∨
      StreamFrame.credit target frame ∈ state.dropped := by
  unfold closeRow at member
  split at member
  · obtain appended | after := member
    · refine .inl ?_
      cases notified with
      | false => exact appended
      | true =>
        obtain before | last := mem_append.mp appended
        · exact before
        · exact nomatch mem_singleton.mp last
    · exact .inr after
  · exact member

theorem Stepped.transmitted (stepped : Stepped state label next)
    (member : StreamFrame.credit target frame ∈ next.sent ∨
      StreamFrame.credit target frame ∈ next.dropped) :
    (StreamFrame.credit target frame ∈ state.sent ∨
      StreamFrame.credit target frame ∈ state.dropped) ∨
      ∃ endpoint, state.worker endpoint = .crediting (.transmitting frame) ∨
        state.service = .crediting endpoint (.transmitting frame) := by
  cases stepped with
  | credited here =>
    obtain before | rfl := transmitted_creditStep member
    · exact .inl before
    · exact .inr ⟨_, .inr here⟩
  | workerCredited here =>
    obtain before | rfl := transmitted_creditStep member
    · exact .inl before
    · exact .inr ⟨_, .inl here⟩
  | closed | abandoned => exact .inl (transmitted_closeRow member)
  | _ => exact .inl member

theorem TokensIssued.transmitted_step (tokens : TokensIssued state)
    (stepped : Stepped state label next) (left : tokensLeft state label = true)
    (member : StreamFrame.credit target frame ∈ next.sent ∨
      StreamFrame.credit target frame ∈ next.dropped) : Issued next frame.grant.token := by
  refine stepped.issued left ?_
  obtain (sent | dropped) | ⟨endpoint, here | here⟩ := stepped.transmitted member
  · exact tokens.sent target frame sent
  · exact tokens.dropped target frame dropped
  · exact tokens.worker endpoint _ here
  · exact tokens.service endpoint _ here

section

variable (state) (endpoint)

theorem memory_creditStep (succeeds : Bool) (phase : CreditPhase catalog.linkCount) :
    (state.creditStep endpoint succeeds phase).1.admissions = state.admissions ∧
      (state.creditStep endpoint succeeds phase).1.rateRejections = state.rateRejections ∧
      (state.creditStep endpoint succeeds phase).1.deliveries = state.deliveries := by
  cases phase <;> cases succeeds <;> exact ⟨rfl, rfl, rfl⟩

theorem memory_closeRow (link : catalog.Link) (reason : InStreamCloseReason) (notified : Bool) :
    (state.closeRow endpoint link reason notified).admissions = state.admissions ∧
      (state.closeRow endpoint link reason notified).rateRejections = state.rateRejections ∧
      (state.closeRow endpoint link reason notified).deliveries = state.deliveries := by
  unfold closeRow
  split <;> exact ⟨rfl, rfl, rfl⟩

end

section

variable (stepped : Stepped state label next)

include stepped

/-- The admissions grow by a sample that is given a slot, and change when one is taken back. -/
theorem Stepped.admissions :
    next.admissions = state.admissions ∨
      (∃ endpoint link frame now value admitted, label = .data link endpoint frame now ∧
        state.service = .idle ∧
        (state.row endpoint link).admitFrame catalog.ticksPerSecond frame.envelope value now =
          .ok admitted ∧
        next.row endpoint link = admitted ∧
        next.admissions = state.admissions ++
          [⟨endpoint, link, frame.envelope.requestId, frame.envelope.frameSequence, value,
            false⟩]) ∨
      ∃ endpoint link envelope generation, label = .service false ∧
        state.service = .submitting endpoint link envelope generation ∧
        ((state.row endpoint link).submitted? envelope.frameSequence).isSome = true ∧
        next.admissions = withdrawFrom state.admissions endpoint link envelope := by
  cases stepped with
  | admittedInline idle decoded ok | admittedDeferred idle decoded ok =>
    exact .inr (.inl ⟨_, _, _, _, _, _, rfl, idle, ok, row_setRow_self _ _ _ _, rfl⟩)
  | @submissionFailed endpoint link envelope generation phase =>
    by_cases found : ((state.row endpoint link).submitted? envelope.frameSequence).isSome = true
    · exact .inr (.inr ⟨_, _, _, _, rfl, phase, found, if_pos found⟩)
    · exact .inl (if_neg found)
  | closed | abandoned => exact .inl (memory_closeRow state _ _ _ _).1
  | credited | workerCredited => exact .inl (memory_creditStep state _ _ _).1
  | _ => exact .inl rfl

theorem Stepped.rateRejections :
    next.rateRejections = state.rateRejections ∨
      ∃ endpoint link frame now, label = .data link endpoint frame now ∧ state.service = .idle ∧
        (state.row endpoint link).active = true ∧
        (state.row endpoint link).token = frame.envelope.requestId ∧
        next.rateRejections =
          state.rateRejections ++ [((endpoint, link), frame.envelope.requestId)] := by
  cases stepped with
  | rateRejected idle decoded failed change =>
    obtain ⟨active, _, named, _⟩ := InStreamLink.admitFrame_eq_rate failed
    exact .inr ⟨_, _, _, _, rfl, idle, active, named, rfl⟩
  | closed | abandoned => exact .inl (memory_closeRow state _ _ _ _).2.1
  | credited | workerCredited => exact .inl (memory_creditStep state _ _ _).2.1
  | _ => exact .inl rfl

theorem Stepped.deliveries :
    next.deliveries = state.deliveries ∨ ∃ endpoint link index token generation value,
        state.worker endpoint = .holding link index token generation value ∧
        (state.row endpoint link).isCurrent index token generation = true ∧
        next.worker endpoint = .finishing link index token generation true ∧
        next.deliveries =
          state.deliveries ++ value.toList.map (Delivery.mk endpoint link token) := by
  cases stepped with
  | delivered here current =>
    exact .inr ⟨_, _, _, _, _, _, here, current, worker_setWorker_self _ _ _, rfl⟩
  | closed | abandoned => exact .inl (memory_closeRow state _ _ _ _).2.2
  | credited | workerCredited => exact .inl (memory_creditStep state _ _ _).2.2
  | _ => exact .inl rfl

end

section

variable (tokens : TokensIssued state)

include tokens

theorem TokensIssued.admissions_step (stepped : Stepped state label next)
    {admission : Admission catalog} (member : admission ∈ next.admissions) :
    Issued state admission.token := by
  obtain same | ⟨_, _, _, _, _, _, _, _, ok, _, grown⟩ | ⟨_, _, _, _, _, _, _, changed⟩ :=
    stepped.admissions
  · exact tokens.admissions admission (same ▸ member)
  · rw [grown] at member
    obtain before | last := mem_append.mp member
    · exact tokens.admissions admission before
    · obtain ⟨active, _, named, _⟩ := InStreamLink.admitFrame_eq_ok ok
      rw [mem_singleton.mp last]
      exact named ▸ tokens.rows _ _ active
  · rw [changed] at member
    obtain ⟨before, here, same⟩ := mem_map.mp member
    have sameToken : before.token = admission.token := by
      split at same <;> exact same ▸ rfl
    exact sameToken ▸ tokens.admissions before here

theorem TokensIssued.rateRejections_step (stepped : Stepped state label next)
    {rejection : catalog.Row × UInt32} (member : rejection ∈ next.rateRejections) :
    Issued state rejection.2 := by
  obtain same | ⟨_, _, _, _, _, _, active, named, grown⟩ := stepped.rateRejections
  · exact tokens.rateRejections rejection (same ▸ member)
  · rw [grown] at member
    obtain before | last := mem_append.mp member
    · exact tokens.rateRejections rejection before
    · rw [mem_singleton.mp last]
      exact named ▸ tokens.rows _ _ active

theorem TokensIssued.deliveries_step (stepped : Stepped state label next)
    {delivery : Delivery catalog} (member : delivery ∈ next.deliveries) :
    Issued state delivery.token := by
  obtain same | ⟨_, _, _, token, _, value, _, current, _, grown⟩ := stepped.deliveries
  · exact tokens.deliveries delivery (same ▸ member)
  · rw [grown] at member
    obtain before | last := mem_append.mp member
    · exact tokens.deliveries delivery before
    · obtain ⟨_, _, rfl⟩ := mem_map.mp last
      obtain ⟨active, named, _⟩ :=
        InStreamLink.matchesSample_iff.mp (Bool.and_eq_true_iff.mp current).1
      exact named ▸ tokens.rows _ _ active

theorem TokensIssued.step (wellformed : Wellformed state) (stepped : Stepped state label next)
    (left : tokensLeft state label = true) :
    TokensIssued next where
  rows _ _ active := tokens.rows_step stepped left active
  slots _ _ _ _ stored busy := tokens.slots_step stepped left stored busy
  worker _ _ held := tokens.worker_step wellformed stepped left held
  service _ _ held := tokens.service_step wellformed stepped left held
  sent _ _ member := tokens.transmitted_step stepped left (.inl member)
  dropped _ _ member := tokens.transmitted_step stepped left (.inr member)
  admissions _ member := stepped.issued left (tokens.admissions_step stepped member)
  rateRejections _ member := stepped.issued left (tokens.rateRejections_step stepped member)
  deliveries _ member := stepped.issued left (tokens.deliveries_step stepped member)

end

end InStreamRuntime

end Solar.Remote
