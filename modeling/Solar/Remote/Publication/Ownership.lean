/-
This file proves who has the buffers of a loaned stream. A handle that is armed and not
past the locked section of its commit has the buffer of its slot, and a slot is loaned
exactly as long as one handle has it. So a buffer is given to a producer only while no
handle has it and no committed record of it waits for the publisher.

Every loan is abandoned or released once, or has a slot. A slot's number with a generation
that is not its own changes nothing.
-/

import Solar.Library.Holding
import Solar.Library.Lending
import Solar.Remote.Publication.Loans

namespace Solar.Remote

open List Option Function

namespace LoanState

variable {pool : LoanedPool} {state : LoanState pool} {expected : LoanSlotState}
variable {slot generation : UInt16} {record : LoanSlot}

/-! ### Slots by number and generation -/

theorem current?_eq_some_iff :
    state.current? expected slot generation = some record ↔
      state.slots.get? slot.toNat = some record ∧ record.state = expected ∧
        record.generation = generation := by
  rw [current?, filter_eq_some_iff, decide_eq_true_iff]

/-- A slot is loaned under a number and a generation. -/
def Lends (state : LoanState pool) (key : UInt16 × UInt16) : Prop :=
  ∃ record, state.current? .loaned key.1 key.2 = some record

variable {key : UInt16 × UInt16}

theorem lends_iff :
    state.Lends key ↔ ∃ record, state.slots.get? key.1.toNat = some record ∧
      record.state = .loaned ∧ record.generation = key.2 :=
  exists_congr fun _ => current?_eq_some_iff

variable {index : Nat} {next : LoanState pool} {old : LoanSlot}

theorem lends_put (bound : index < pool.slots) (record : LoanSlot) (key : UInt16 × UInt16) :
    (state.put index record).Lends key ↔
      if key.1.toNat = index then record.state = .loaned ∧ record.generation = key.2
      else state.Lends key := by
  rw [lends_iff, lends_iff]
  split
  · next here =>
    rw [put, here, Pool.get?_put_self record bound]
    exact ⟨fun ⟨_, same, holds⟩ => some.inj same ▸ holds, fun holds => ⟨record, rfl, holds⟩⟩
  · next apart => rw [put, Pool.get?_put_of_ne apart]

theorem lends_put_of_not (stored : state.slots.get? index = some old) (before : old.state ≠ .loaned)
    (after : record.state ≠ .loaned) : (state.put index record).Lends key ↔ state.Lends key := by
  rw [lends_put (Pool.get?_lt stored)]
  split
  · next here =>
    rw [lends_iff, here, stored]
    constructor
    · exact fun holds => absurd holds.1 after
    · rintro ⟨_, held, loaned, _⟩
      exact absurd (some.inj held ▸ loaned) before
  · exact Iff.rfl

theorem lends_put_of_current (found : state.current? .loaned slot generation = some old)
    (after : record.state ≠ .loaned) :
    (state.put slot.toNat record).Lends key ↔ state.Lends key ∧ (slot, generation) ≠ key := by
  obtain ⟨stored, loaned, same⟩ := current?_eq_some_iff.mp found
  rw [lends_put (Pool.get?_lt stored)]
  split
  · next here =>
    constructor
    · exact fun holds => absurd holds.1 after
    · rintro ⟨lends, apart⟩
      obtain ⟨_, held, _, generations⟩ := lends_iff.mp lends
      rw [here, stored] at held
      obtain rfl := some.inj held
      exact absurd (Prod.ext (UInt16.toNat_inj.mp here).symm (same.symm.trans generations)) apart
  · next apart =>
    refine (and_iff_left ?_).symm
    rintro rfl
    exact apart rfl

/-- A slot is loaned. -/
theorem lends_put_loaned (reached : index < 65536) (stored : state.slots.get? index = some old)
    (before : old.state ≠ .loaned) (after : record.state = .loaned) :
    (state.put index record).Lends key ↔
      state.Lends key ∨ key = (UInt16.ofNat index, record.generation) := by
  have number : (UInt16.ofNat index).toNat = index := UInt16.toNat_ofNat_of_lt' reached
  rw [lends_put (Pool.get?_lt stored)]
  split
  · next here =>
    have first : key.1 = UInt16.ofNat index := UInt16.toNat_inj.mp (here.trans number.symm)
    have absent : ¬ state.Lends key := by
      intro lends
      obtain ⟨_, held, loaned, _⟩ := lends_iff.mp lends
      rw [here, stored] at held
      obtain rfl := some.inj held
      exact before loaned
    rw [or_iff_right absent]
    exact ⟨fun holds => Prod.ext first holds.2.symm,
      fun same => ⟨after, (congrArg Prod.snd same).symm⟩⟩
  · next apart =>
    refine (or_iff_left ?_).symm
    rintro rfl
    exact apart number

/-! ### The books -/

/-- The number of the loan that has a slot. -/
def tenant (state : LoanState pool) (index : Nat) : Option Nat :=
  ((state.slots.get? index).filter fun record => record.state ≠ .free).map LoanSlot.ticket

theorem tenant_of_free (stored : state.slots.get? index = some record)
    (isFree : record.state = .free) : state.tenant index = none := by
  rw [tenant, stored, filter_some_neg (by rw [isFree]; decide), map_none]

theorem tenant_of_not_free (stored : state.slots.get? index = some record)
    (taken : record.state ≠ .free) : state.tenant index = some record.ticket := by
  rw [tenant, stored, filter_some, if_pos (decide_eq_true taken), map_some]

theorem tenant_put (stored : state.slots.get? index = some old) (before : old.state ≠ .free)
    (after : record.state ≠ .free) (same : record.ticket = old.ticket) :
    (state.put index record).tenant = state.tenant := by
  funext other
  by_cases here : other = index
  · subst here
    rw [tenant_of_not_free stored before, ← same]
    exact tenant_of_not_free (Pool.get?_put_self record (Pool.get?_lt stored)) after
  · rw [tenant, put, Pool.get?_put_of_ne here, tenant]

/-- Every loan has ended or has a slot, and the counters of the state are those of the ended
loans. -/
structure Books (state : LoanState pool) : Prop where
  lent : Lending.Lent (range pool.slots) state.tenant state.granted (state.ended.map Prod.fst)
  abandoned : state.abandoned = UInt32.ofNat (state.ended.countP fun ended => ended.2 = .abandoned)
  released : state.released = UInt32.ofNat (state.ended.countP fun ended => ended.2 = .released)

namespace Books

variable {next : LoanState pool}

theorem initial : (({} : LoanState pool)).Books where
  lent := .initial fun index _ => by
    cases stored : ({} : LoanState pool).slots.get? index with
    | none => rw [tenant, stored, filter_none, map_none]
    | some record => exact tenant_of_free stored (Pool.eq_of_get?_fill stored ▸ rfl)
  abandoned := rfl
  released := rfl

theorem finish (books : state.Books) (stored : state.slots.get? index = some record)
    (taken : record.state ≠ .free) {after : LoanSlot} (isFree : after.state = .free)
    (slots : next.slots = state.slots.put index after) (granted : next.granted = state.granted)
    (how : LoanEnd) (ended : next.ended = state.ended ++ [(record.ticket, how)])
    (abandoned : next.abandoned = state.abandoned + if how = .abandoned then 1 else 0)
    (released : next.released = state.released + if how = .released then 1 else 0) :
    next.Books where
  lent := by
    have bound := Pool.get?_lt stored
    rw [granted, ended, map_append]
    refine books.lent.finish nodup_range (mem_range.mpr bound)
      (tenant_of_not_free stored taken) ?_ fun other _ apart => ?_
    · exact tenant_of_free (slots ▸ Pool.get?_put_self after bound) isFree
    · rw [tenant, slots, Pool.get?_put_of_ne apart, tenant]
  abandoned := by
    rw [abandoned, books.abandoned, ended, countP_append, UInt32.ofNat_add]
    cases how <;> rfl
  released := by
    rw [released, books.released, ended, countP_append, UInt32.ofNat_add]
    cases how <;> rfl

theorem grant (books : state.Books) (stored : state.slots.get? index = some record)
    (isFree : record.state = .free) {after : LoanSlot} (taken : after.state ≠ .free)
    (ticket : after.ticket = state.granted) (slots : next.slots = state.slots.put index after)
    (granted : next.granted = state.granted + 1) (ended : next.ended = state.ended)
    (abandoned : next.abandoned = state.abandoned) (released : next.released = state.released) :
    next.Books where
  lent := by
    have bound := Pool.get?_lt stored
    rw [granted, ended]
    refine books.lent.grant nodup_range (mem_range.mpr bound)
      (tenant_of_free stored isFree) ?_ fun other _ apart => ?_
    · rw [tenant_of_not_free (slots ▸ Pool.get?_put_self after bound) taken, ticket]
    · rw [tenant, slots, Pool.get?_put_of_ne apart, tenant]
  abandoned := by rw [abandoned, ended, books.abandoned]
  released := by rw [released, ended, books.released]

theorem keep (books : state.Books) (tenants : next.tenant = state.tenant)
    (granted : next.granted = state.granted) (ended : next.ended = state.ended)
    (abandoned : next.abandoned = state.abandoned) (released : next.released = state.released) :
    next.Books where
  lent := by
    rw [granted, ended]
    exact tenants ▸ books.lent
  abandoned := by rw [abandoned, ended, books.abandoned]
  released := by rw [released, ended, books.released]

end Books

/-! ### The operations -/

theorem abandonLoan_of_none (stale : state.current? .loaned slot generation = none) :
    state.abandonLoan slot generation = state := by
  rw [abandonLoan, stale]

theorem releaseReadyLoan_of_none (stale : state.current? .ready slot generation = none) :
    state.releaseReadyLoan slot generation = state := by
  rw [releaseReadyLoan, stale]

theorem Books.abandonLoan (books : state.Books) (slot generation : UInt16) :
    (state.abandonLoan slot generation).Books := by
  cases found : state.current? .loaned slot generation with
  | none => exact (abandonLoan_of_none found).symm ▸ books
  | some record =>
    obtain ⟨stored, loaned, _⟩ := current?_eq_some_iff.mp found
    rw [LoanState.abandonLoan, found]
    exact books.finish stored (fun isFree => by cases loaned.symm.trans isFree) rfl rfl rfl
      .abandoned rfl rfl (UInt32.add_zero _).symm

theorem Books.releaseReadyLoan (books : state.Books) (slot generation : UInt16) :
    (state.releaseReadyLoan slot generation).Books := by
  cases found : state.current? .ready slot generation with
  | none => exact (releaseReadyLoan_of_none found).symm ▸ books
  | some record =>
    obtain ⟨stored, ready, _⟩ := current?_eq_some_iff.mp found
    rw [LoanState.releaseReadyLoan, found]
    exact books.finish stored (fun isFree => by cases ready.symm.trans isFree) rfl rfl rfl
      .released rfl (UInt32.add_zero _).symm rfl

theorem lends_abandonLoan (slot generation : UInt16) (key : UInt16 × UInt16) :
    (state.abandonLoan slot generation).Lends key ↔ state.Lends key ∧ (slot, generation) ≠ key := by
  cases found : state.current? .loaned slot generation with
  | none =>
    rw [abandonLoan_of_none found]
    refine (and_iff_left_of_imp ?_).symm
    rintro ⟨record, held⟩ rfl
    exact absurd (found.symm.trans held) (some_ne_none _).symm
  | some record =>
    rw [abandonLoan, found]
    exact lends_put_of_current found (fun isFree => by cases isFree)

theorem lends_releaseReadyLoan (key : UInt16 × UInt16) :
    (state.releaseReadyLoan slot generation).Lends key ↔ state.Lends key := by
  cases found : state.current? .ready slot generation with
  | none => rw [releaseReadyLoan_of_none found]
  | some record =>
    obtain ⟨stored, ready, _⟩ := current?_eq_some_iff.mp found
    rw [releaseReadyLoan, found]
    exact lends_put_of_not stored (fun loaned => by cases ready.symm.trans loaned)
      (fun isFree => by cases isFree)

theorem scan_eq_some {wanted : LoanSlotState} (found : state.scan wanted = some (index, record)) :
    index < 65536 ∧ state.slots.get? index = some record ∧ record.state = wanted := by
  obtain ⟨first, reached⟩ := filter_eq_some_iff.mp found
  obtain ⟨stored, wanted, _⟩ := Pool.find?_eq_some_iff.mp first
  exact ⟨of_decide_eq_true reached, stored, of_decide_eq_true wanted⟩

theorem takeReadyLoan_snd {ready : Option ReadyLoan}
    (taken : state.takeReadyLoan = some (ready, next)) :
    next = { state with wakePending := false } := by
  unfold takeReadyLoan at taken
  split at taken
  · cases taken
    rfl
  · obtain ⟨_, same⟩ := ite_none_right_eq_some.mp taken
    cases same
    rfl

variable {result : Except LoanError Loan}

/-- `try_loan_data` fails and changes nothing, or a free slot is loaned. -/
theorem tryLoan_cases {context : LoanContext}
    (tried : state.tryLoan context = some (result, next)) :
    (∃ error, result = .error error ∧ next = state) ∨
      ∃ index record, index < 65536 ∧ state.slots.get? index = some record ∧ record.state = .free ∧
        result = .ok ⟨some index, UInt16.ofNat index, nextGeneration record.generation, true⟩ ∧
        next = state.lend index record := by
  unfold tryLoan at tried
  split at tried
  · cases tried
    exact .inl ⟨_, rfl, rfl⟩
  · split at tried
    · cases tried
      exact .inl ⟨_, rfl, rfl⟩
    · split at tried
      · next index record found =>
        obtain ⟨reached, stored, isFree⟩ := scan_eq_some found
        cases tried
        exact .inr ⟨index, record, reached, stored, isFree, rfl, rfl⟩
      · split at tried
        · cases tried
          exact .inl ⟨_, rfl, rfl⟩
        · cases tried

theorem commitLoan_cases (state : LoanState pool) (context : LoanContext) (loan : Loan)
    (size : Nat) :
    (∃ error, state.commitLoan context loan size = (.error error, state)) ∨
      ∃ record, loan.armed = true ∧ state.current? .loaned loan.slot loan.generation = some record ∧
        state.commitLoan context loan size =
          (.ok (state.sequence + 1), state.makeReady loan.slot.toNat record size) := by
  unfold commitLoan
  split
  · exact .inl ⟨_, rfl⟩
  · split
    · exact .inl ⟨_, rfl⟩
    · next valid =>
      split
      · exact .inl ⟨_, rfl⟩
      · split
        · next record found =>
          exact .inr ⟨record, not_not.mp fun unarmed => valid (.inl unarmed), found, rfl⟩
        · exact .inl ⟨_, rfl⟩

theorem not_lends_of_free (reached : index < 65536) (stored : state.slots.get? index = some record)
    (isFree : record.state = .free) : ¬ state.Lends (UInt16.ofNat index, generation) := by
  intro lends
  obtain ⟨_, held, loaned, _⟩ := lends_iff.mp lends
  rw [UInt16.toNat_ofNat_of_lt' reached, stored] at held
  cases (some.inj held ▸ isFree).symm.trans loaned

theorem lends_lend (reached : index < 65536) (stored : state.slots.get? index = some record)
    (isFree : record.state = .free) (key : UInt16 × UInt16) :
    (state.lend index record).Lends key ↔
      state.Lends key ∨ key = (UInt16.ofNat index, nextGeneration record.generation) :=
  lends_put_loaned reached stored (fun loaned => by cases isFree.symm.trans loaned) rfl

theorem lends_makeReady (found : state.current? .loaned slot generation = some record)
    {size : Nat} :
    (state.makeReady slot.toNat record size).Lends key ↔
      state.Lends key ∧ (slot, generation) ≠ key :=
  lends_put_of_current found (fun loaned => by cases loaned)

theorem Books.tryLoan (books : state.Books) {context : LoanContext}
    (tried : state.tryLoan context = some (result, next)) : next.Books := by
  obtain ⟨_, _, rfl⟩ | ⟨index, record, _, stored, isFree, _, rfl⟩ := tryLoan_cases tried
  · exact books
  · exact books.grant stored isFree (fun isFree => by cases isFree) rfl rfl rfl rfl rfl rfl

theorem Books.commitLoan (books : state.Books) (context : LoanContext) (loan : Loan)
    (size : Nat) : (state.commitLoan context loan size).2.Books := by
  obtain ⟨_, refused⟩ | ⟨record, _, found, committed⟩ := state.commitLoan_cases context loan size
  · rw [refused]
    exact books
  · obtain ⟨stored, loaned, _⟩ := current?_eq_some_iff.mp found
    rw [committed]
    exact books.keep (tenant_put stored (fun isFree => by cases loaned.symm.trans isFree)
      (fun isFree => by cases isFree) rfl) rfl rfl rfl rfl

/-! ### What a step does to the slots -/

/-- One slot is loaned, given back, released or, if the step is a commit, committed, or none
changes. -/
inductive Moved (commits : Bool) (state next : LoanState pool) : Prop
  | same (slots : next.slots = state.slots) (sequence : next.sequence = state.sequence)
      (ended : next.ended = state.ended)
  | lent (index : Nat) (record : LoanSlot) (stored : state.slots.get? index = some record)
      (moved : next = state.lend index record)
  | abandoned (slot generation : UInt16) (moved : next = state.abandonLoan slot generation)
  | committed (slot generation : UInt16) (record : LoanSlot) (size : Nat) (commit : commits = true)
      (found : state.current? .loaned slot generation = some record)
      (moved : next = state.makeReady slot.toNat record size)
  | released (slot generation : UInt16) (moved : next = state.releaseReadyLoan slot generation)

variable {commits : Bool}

theorem moved_self : Moved commits state state :=
  .same rfl rfl rfl

theorem moved_abandon {loan : Loan} : Moved commits state (state.abandon loan) := by
  unfold abandon
  split
  · exact .abandoned _ _ rfl
  · exact moved_self

theorem Moved.ended (moved : Moved commits state next) : state.ended <+: next.ended := by
  cases moved with
  | same _ _ ended => exact ended ▸ prefix_rfl
  | lent index record _ moved | committed slot generation record size _ _ moved =>
    exact moved ▸ prefix_rfl
  | abandoned slot generation moved =>
    rw [moved, abandonLoan]
    split
    · exact prefix_append _ _
    · exact prefix_rfl
  | released slot generation moved =>
    rw [moved, releaseReadyLoan]
    split
    · exact prefix_append _ _
    · exact prefix_rfl

end LoanState

def LoanLabel.isCommit : LoanLabel → Bool
  | .commit _ _ _ => true
  | _ => false

/-- What the publisher has taken, and whether it is published. -/
def PublishStage.taken? : PublishStage → Option (ReadyLoan × Bool)
  | .publishing ready => some (ready, false)
  | .releasing ready => some (ready, true)
  | .idle | .rearming | .waking | .notifying => none

namespace LoanedStream

variable {pool : LoanedPool} {label : LoanLabel} {stream next : LoanedStream pool}

/-- What a step does to the slots. What is published and what is taken stay, but for the steps that
take, publish and release. -/
structure Effect (label : LoanLabel) (stream next : LoanedStream pool) : Prop where
  moved : LoanState.Moved label.isCommit stream.state next.state
  steady : label = .take ∨ label = .publish ∨ label = .release ∨
    next.published = stream.published ∧ next.publisher.taken? = stream.publisher.taken?

theorem Effect.still (moved : LoanState.Moved label.isCommit stream.state next.state)
    (published : next.published = stream.published)
    (publisher : next.publisher.taken? = stream.publisher.taken?) : Effect label stream next :=
  ⟨moved, .inr (.inr (.inr ⟨published, publisher⟩))⟩

/-- One case for each step; the other proofs about runs use what is said here. -/
theorem effect_of_step (stepped : stream.step label = some next) : Effect label stream next := by
  cases label with
  | construct =>
    obtain ⟨_, same⟩ := ite_none_right_eq_some.mp stepped
    exact some.inj same ▸ .still LoanState.moved_self rfl rfl
  | rearm =>
    obtain ⟨rearming, same⟩ := ite_none_right_eq_some.mp stepped
    refine some.inj same ▸ .still LoanState.moved_self rfl ?_
    rw [rearming]
    split <;> rfl
  | tryLoan target context =>
    obtain ⟨_, tried⟩ := ite_none_right_eq_some.mp stepped
    obtain ⟨⟨result, state⟩, answered, rfl⟩ := map_eq_some_iff.mp tried
    obtain ⟨_, rfl, rfl⟩ | ⟨index, record, _, stored, _, rfl, rfl⟩ :=
      LoanState.tryLoan_cases answered
    · exact .still LoanState.moved_self rfl rfl
    · exact .still (.lent index record stored rfl) rfl rfl
  | fill target content =>
    obtain ⟨loan, _, filled⟩ := bind_eq_some_iff.mp stepped
    obtain ⟨_, same⟩ := ite_none_right_eq_some.mp filled
    obtain rfl := some.inj same
    refine .still ?_ rfl rfl
    unfold LoanState.fill
    split <;> exact .same rfl rfl rfl
  | moveConstruct source target =>
    obtain ⟨loan, _, moved⟩ := bind_eq_some_iff.mp stepped
    obtain ⟨_, same⟩ := ite_none_right_eq_some.mp moved
    exact some.inj same ▸ .still LoanState.moved_self rfl rfl
  | moveAssign source target =>
    obtain ⟨loan, _, there⟩ := bind_eq_some_iff.mp stepped
    obtain ⟨old, _, assigned⟩ := bind_eq_some_iff.mp there
    split at assigned
    · exact some.inj assigned ▸ .still LoanState.moved_self rfl rfl
    · exact some.inj assigned ▸ .still LoanState.moved_abandon rfl rfl
  | destroy target =>
    obtain ⟨loan, _, rfl⟩ := map_eq_some_iff.mp stepped
    exact .still LoanState.moved_abandon rfl rfl
  | commit target context size =>
    obtain ⟨loan, _, rfl⟩ := map_eq_some_iff.mp stepped
    obtain ⟨_, refused⟩ | ⟨record, _, found, committed⟩ :=
      stream.state.commitLoan_cases context loan size
    · rw [refused]
      exact .still LoanState.moved_self rfl rfl
    · rw [committed]
      exact .still (.committed _ _ record size rfl found rfl) rfl rfl
  | settle target interested =>
    simp only [step] at stepped
    split at stepped
    · cases stepped
      unfold settle
      split
      · exact .still (.released _ _ rfl) rfl rfl
      · split <;> exact .still (.same rfl rfl rfl) rfl rfl
    · cases stepped
  | notified target accepted =>
    simp only [step] at stepped
    split at stepped
    · cases stepped
      cases accepted <;> exact .still (.same rfl rfl rfl) rfl rfl
    · cases stepped
  | take =>
    obtain ⟨_, taken⟩ := ite_none_right_eq_some.mp stepped
    obtain ⟨⟨ready, state⟩, read, rfl⟩ := map_eq_some_iff.mp taken
    obtain rfl := LoanState.takeReadyLoan_snd read
    exact ⟨.same rfl rfl rfl, .inl rfl⟩
  | publish =>
    simp only [step] at stepped
    split at stepped
    · exact some.inj stepped ▸ ⟨LoanState.moved_self, .inr (.inl rfl)⟩
    · cases stepped
  | release =>
    simp only [step] at stepped
    split at stepped
    · exact some.inj stepped ▸ ⟨.released _ _ rfl, .inr (.inr (.inl rfl))⟩
    · cases stepped
  | wake =>
    obtain ⟨waking, woken⟩ := ite_none_right_eq_some.mp stepped
    have nothing : stream.publisher.taken? = none := by rw [waking]; rfl
    split at woken
    · exact some.inj woken ▸ .still LoanState.moved_self rfl nothing.symm
    · exact some.inj woken ▸ .still (.same rfl rfl rfl) rfl nothing.symm
  | woken accepted =>
    obtain ⟨notifying, same⟩ := ite_none_right_eq_some.mp stepped
    have nothing : stream.publisher.taken? = none := by rw [notifying]; rfl
    obtain rfl := some.inj same
    cases accepted <;> exact .still (.same rfl rfl rfl) rfl nothing.symm
  | commitOwnership target =>
    simp only [step] at stepped
    split at stepped
    · exact some.inj stepped ▸ .still LoanState.moved_self rfl rfl
    · cases stepped

end LoanedStream

/-! ### Who has a loan -/

/-- The slot and the generation that an armed handle releases. -/
def Loan.key? (loan : Loan) : Option (UInt16 × UInt16) :=
  if loan.armed then some (loan.slot, loan.generation) else none

/-- The handle of a commit is disarmed. -/
def CommitStage.isDisowned : CommitStage → Bool
  | .disowning _ => false
  | .settling _ | .notifying _ => true

namespace LoanedStream

variable {pool : LoanedPool} {stream next : LoanedStream pool} {target : Nat} {loan : Loan}

/-- The loan that a handle has. -/
def owner (stream : LoanedStream pool) (target : Nat) : Option (UInt16 × UInt16) :=
  (stream.idle? target).bind Loan.key?

theorem idle?_eq_some_iff :
    stream.idle? target = some loan ↔
      stream.commits target = none ∧ stream.loans target = some loan := by
  rw [idle?]
  split
  · next idle => rw [and_iff_right idle]
  · next busy =>
    exact ⟨fun absent => absurd absent.symm (some_ne_none _), fun both => absurd both.1 busy⟩

theorem afterNotify_loans (accepted : Bool) :
    (stream.afterNotify accepted).loans = stream.loans := by
  cases accepted <;> rfl

theorem afterNotify_commits (accepted : Bool) :
    (stream.afterNotify accepted).commits = stream.commits := by
  cases accepted <;> rfl

theorem owner_of_idle (idle : stream.idle? target = some loan) :
    stream.owner target = loan.key? := by
  rw [owner, idle, bind_some]

theorem owner_of_absent (absent : stream.loans target = none) : stream.owner target = none := by
  rw [owner, idle?, absent, ite_self, bind_none]

theorem owner_congr (loans : next.loans = stream.loans) (commits : next.commits = stream.commits) :
    next.owner = stream.owner := by
  funext target
  rw [owner, idle?, loans, commits, owner, idle?]

theorem owner_setLoan (stream : LoanedStream pool) (idle : stream.commits target = none)
    (loan : Option Loan) :
    (stream.setLoan target loan).owner =
      update stream.owner target (loan.bind Loan.key?) := by
  have loans : (stream.setLoan target loan).loans = update stream.loans target loan := rfl
  have commits : (stream.setLoan target loan).commits = stream.commits := rfl
  funext other
  rw [owner, idle?, loans, commits]
  by_cases here : other = target
  · subst here
    rw [update_self, update_self, if_pos idle]
  · rw [update_of_ne here, update_of_ne here, owner, idle?]

theorem owner_setCommit (stage : CommitStage) :
    (stream.setCommit target (some stage)).owner = update stream.owner target none := by
  have loans : (stream.setCommit target (some stage)).loans = stream.loans := rfl
  have commits : (stream.setCommit target (some stage)).commits =
    update stream.commits target (some stage) := rfl
  funext other
  rw [owner, idle?, loans, commits]
  by_cases here : other = target
  · subst here
    rw [update_self, update_self, if_neg (some_ne_none _), bind_none]
  · rw [update_of_ne here, update_of_ne here, owner, idle?]

/-- A slot is loaned exactly as long as one handle has it, and the books are in order. A handle
stays where it is while it is committed. -/
structure Owned (stream : LoanedStream pool) : Prop where
  books : stream.state.Books
  owners : Holding.Balanced stream.owner stream.state.Lends
  staged : ∀ target stage, stream.commits target = some stage →
    ∃ loan, stream.loans target = some loan ∧ (stage.isDisowned = true → loan.armed = false)

namespace Owned

theorem initial : ({} : LoanedStream pool).Owned where
  books := .initial
  owners := by
    have nobody (target : Nat) : ({} : LoanedStream pool).owner target = none :=
      owner_of_absent rfl
    constructor
    · intro key
      constructor
      · intro lends
        obtain ⟨record, stored, loaned, _⟩ := LoanState.lends_iff.mp lends
        rw [Pool.eq_of_get?_fill stored] at loaned
        cases loaned
      · rintro ⟨target, has⟩
        exact absurd ((nobody target).symm.trans has) (some_ne_none _).symm
    · intro first _ _ has _
      exact absurd ((nobody first).symm.trans has) (some_ne_none _).symm
  staged _ _ committing := absurd committing.symm (some_ne_none _)

section

variable (owned : stream.Owned)

include owned

theorem idle_of_absent (absent : stream.loans target = none) : stream.commits target = none := by
  cases committing : stream.commits target with
  | none => rfl
  | some stage =>
    obtain ⟨_, present, _⟩ := owned.staged target stage committing
    exact absurd (absent.symm.trans present) (some_ne_none _).symm

theorem keep (loans : next.loans = stream.loans) (commits : next.commits = stream.commits)
    (books : next.state.Books) (lends : ∀ key, next.state.Lends key ↔ stream.state.Lends key) :
    next.Owned where
  books
  owners := owned.owners.congr (congrFun (owner_congr loans commits)) lends
  staged target stage committing := by
    rw [loans]
    rw [commits] at committing
    exact owned.staged target stage committing

theorem staged_setLoan (idle : stream.commits target = none) {loan : Option Loan} (other : Nat)
    (stage : CommitStage) (committing : (stream.setLoan target loan).commits other = some stage) :
    ∃ handle, (stream.setLoan target loan).loans other = some handle ∧
      (stage.isDisowned = true → handle.armed = false) := by
  have apart : other ≠ target := by
    rintro rfl
    exact absurd (idle.symm.trans committing) (some_ne_none _).symm
  obtain ⟨handle, present, disarmed⟩ := owned.staged other stage committing
  exact ⟨handle, (update_of_ne apart ..).trans present, disarmed⟩

theorem construct (absent : stream.loans target = none) :
    (stream.setLoan target (some {})).Owned where
  books := owned.books
  owners := by
    have idle := owned.idle_of_absent absent
    refine owned.owners.congr (fun other => ?_) fun _ => Iff.rfl
    rw [owner_setLoan stream idle]
    by_cases here : other = target
    · subst here
      rw [update_self, owner_of_absent absent]
      rfl
    · rw [update_of_ne here]
  staged := owned.staged_setLoan (owned.idle_of_absent absent)

theorem grant (absent : stream.loans target = none) {index : Nat} {record : LoanSlot}
    (reached : index < 65536) (stored : stream.state.slots.get? index = some record)
    (isFree : record.state = .free) (books : (stream.state.lend index record).Books) :
    ({ stream with state := stream.state.lend index record }.setLoan target
      (some ⟨some index, UInt16.ofNat index, nextGeneration record.generation, true⟩)).Owned where
  books
  owners := by
    have owner := owner_setLoan { stream with state := stream.state.lend index record }
      (owned.idle_of_absent absent)
      (some ⟨some index, UInt16.ofNat index, nextGeneration record.generation, true⟩)
    refine owned.owners.add (owner_of_absent absent)
      (LoanState.not_lends_of_free reached stored isFree)
      ((congrFun owner target).trans (update_self ..)) (fun other apart => ?_)
      (LoanState.lends_lend reached stored isFree)
    rw [owner, update_of_ne apart]
    rfl
  staged := owned.staged_setLoan (owned.idle_of_absent absent)

/-- A handle abandons what it has, and is exchanged for one that has nothing. -/
theorem abandon (idle : stream.idle? target = some loan) {after : Option Loan}
    (nothing : after.bind Loan.key? = none) :
    ({ stream with state := stream.state.abandon loan }.setLoan target after).Owned where
  books := by
    rw [LoanState.abandon]
    split
    · exact owned.books.abandonLoan _ _
    · exact owned.books
  owners := by
    have free := (idle?_eq_some_iff.mp idle).1
    have owner : ({ stream with state := stream.state.abandon loan }.setLoan target after).owner =
        update stream.owner target none :=
      nothing ▸ owner_setLoan { stream with state := stream.state.abandon loan } free after
    have gone := (congrFun owner target).trans (update_self ..)
    refine owned.owners.drop gone (fun other apart => ?_) fun key => ?_
    · rw [owner, update_of_ne apart]
    · show (stream.state.abandon loan).Lends key ↔ _
      rw [owner_of_idle idle, LoanState.abandon, Loan.key?]
      split
      · rw [LoanState.lends_abandonLoan, ne_eq, ne_eq, some_inj]
      · exact (and_iff_left (some_ne_none _).symm).symm
  staged := owned.staged_setLoan (idle?_eq_some_iff.mp idle).1

/-- What a handle has goes to one that has nothing. -/
theorem move {source : Nat} (idle : stream.idle? source = some loan)
    (free : stream.commits target = none) (vacant : stream.owner target = none)
    (apart : source ≠ target) : (stream.move source target loan).Owned where
  books := owned.books
  owners := by
    have owner : (stream.move source target loan).owner =
        update (update stream.owner source none) target loan.key? :=
      (owner_setLoan (stream.setLoan source (some { loan with armed := false })) free _).trans
        (congrArg (update · target loan.key?)
          (owner_setLoan stream (idle?_eq_some_iff.mp idle).1 _))
    refine owned.owners.move apart vacant ?_ ?_ fun other first second => ?_
    · rw [owner, update_of_ne apart, update_self]
    · rw [owner, update_self, owner_of_idle idle]
    · rw [owner, update_of_ne second, update_of_ne first]
  staged other stage committing := by
    obtain ⟨unstaged, _⟩ := idle?_eq_some_iff.mp idle
    have first : other ≠ source := by
      rintro rfl
      exact absurd (unstaged.symm.trans committing) (some_ne_none _).symm
    have second : other ≠ target := by
      rintro rfl
      exact absurd (free.symm.trans committing) (some_ne_none _).symm
    obtain ⟨handle, present, disarmed⟩ := owned.staged other stage committing
    refine ⟨handle, ?_, disarmed⟩
    exact (update_of_ne second ..).trans ((update_of_ne first ..).trans present)

theorem moveAssign {source : Nat} {old : Loan} (idle : stream.idle? source = some loan)
    (other : stream.idle? target = some old) (apart : source ≠ target) :
    ({ stream with state := stream.state.abandon old }.move source target loan).Owned := by
  have dropped : ({ stream with state := stream.state.abandon old }.setLoan target none).Owned :=
    owned.abandon other rfl
  obtain ⟨free, present⟩ := idle?_eq_some_iff.mp idle
  have still : ({ stream with state := stream.state.abandon old }.setLoan target none).idle?
      source = some loan :=
    idle?_eq_some_iff.mpr ⟨free, (update_of_ne apart ..).trans present⟩
  have moved := dropped.move still (idle?_eq_some_iff.mp other).1
    (owner_of_absent (update_self ..)) apart
  have same : ({ stream with state := stream.state.abandon old }.setLoan target none).move source
      target loan = { stream with state := stream.state.abandon old }.move source target loan := by
    simp only [LoanedStream.move, setLoan, update_comm apart, update_idem]
  exact same ▸ moved

/-- The slot of a handle is committed. -/
theorem commit (idle : stream.idle? target = some loan) (armed : loan.armed = true)
    {record : LoanSlot}
    (found : stream.state.current? .loaned loan.slot loan.generation = some record) {size : Nat}
    (books : (stream.state.makeReady loan.slot.toNat record size).Books) (sequence : UInt64) :
    ({ stream with state := stream.state.makeReady loan.slot.toNat record size }.setCommit target
      (some (.disowning sequence))).Owned where
  books
  owners := by
    have owner : ({ stream with
        state := stream.state.makeReady loan.slot.toNat record size }.setCommit target
          (some (.disowning sequence))).owner = update stream.owner target none :=
      owner_setCommit _
    have gone := (congrFun owner target).trans (update_self ..)
    refine owned.owners.drop gone (fun other apart => ?_) fun key => ?_
    · rw [owner, update_of_ne apart]
    · rw [owner_of_idle idle, Loan.key?, if_pos armed, ne_eq, some_inj]
      exact LoanState.lends_makeReady found
  staged other stage committing := by
    by_cases here : other = target
    · subst here
      have same : update stream.commits other (some (.disowning sequence)) other =
        some stage := committing
      rw [update_self] at same
      obtain rfl := some.inj same
      exact ⟨loan, (idle?_eq_some_iff.mp idle).2, fun disowned => by cases disowned⟩
    · exact owned.staged other stage ((update_of_ne here ..).symm.trans committing)

/-- A commit goes on behind its locked section. -/
theorem advance {stage : CommitStage} (committing : stream.commits target = some stage)
    {handle : Loan} {after : Option CommitStage}
    (loans : next.loans = update stream.loans target (some handle))
    (disarmed : handle.armed = false)
    (commits : next.commits = update stream.commits target after)
    (books : next.state.Books) (lends : ∀ key, next.state.Lends key ↔ stream.state.Lends key) :
    next.Owned where
  books
  owners := by
    refine owned.owners.congr (fun other => ?_) lends
    rw [owner, idle?, loans, commits, owner, idle?]
    by_cases here : other = target
    · subst here
      rw [update_self, update_self, committing, if_neg (some_ne_none _)]
      split
      · rw [bind_some, Loan.key?, disarmed, if_neg Bool.false_ne_true, bind_none]
      · rfl
    · rw [update_of_ne here, update_of_ne here]
  staged other stage committing := by
    rw [loans]
    rw [commits] at committing
    by_cases here : other = target
    · subst here
      exact ⟨handle, update_self .., fun _ => disarmed⟩
    · rw [update_of_ne here] at committing ⊢
      exact owned.staged other stage committing

theorem setWake (loans : next.loans = stream.loans) (commits : next.commits = stream.commits)
    {wakePending : Bool} (state : next.state = { stream.state with wakePending }) : next.Owned :=
  owned.keep loans commits (state ▸ ⟨owned.books.lent, owned.books.abandoned, owned.books.released⟩)
    (fun _ => by rw [state]; exact Iff.rfl)

theorem settle {sequence : UInt64} (settling : stream.commits target = some (.settling sequence))
    (present : stream.loans target = some loan) (interested : UInt32) :
    (stream.settle target loan sequence interested).Owned := by
  obtain ⟨handle, same, disarmed⟩ := owned.staged target _ settling
  obtain rfl := some.inj (present.symm.trans same)
  have loans : stream.loans = update stream.loans target (some loan) := by
    rw [← present, update_eq_self]
  unfold LoanedStream.settle
  split
  · exact owned.advance settling loans (disarmed rfl) rfl (owned.books.releaseReadyLoan _ _)
      LoanState.lends_releaseReadyLoan
  · split
    · exact owned.advance settling loans (disarmed rfl) rfl owned.books fun _ => Iff.rfl
    · exact owned.advance settling loans (disarmed rfl) rfl
        ⟨owned.books.lent, owned.books.abandoned, owned.books.released⟩ fun _ => Iff.rfl

theorem afterNotify (accepted : Bool) : (stream.afterNotify accepted).Owned := by
  unfold LoanedStream.afterNotify
  split
  · exact owned
  · exact owned.setWake rfl rfl rfl

end

end Owned

/-- Every step keeps that a slot is loaned exactly as long as one handle has it. -/
theorem Owned.step (owned : stream.Owned) {label : LoanLabel}
    (stepped : stream.step label = some next) : next.Owned := by
  cases label with
  | construct target =>
    obtain ⟨absent, same⟩ := ite_none_right_eq_some.mp stepped
    exact some.inj same ▸ owned.construct absent
  | tryLoan target context =>
    obtain ⟨absent, tried⟩ := ite_none_right_eq_some.mp stepped
    obtain ⟨⟨result, state⟩, answered, rfl⟩ := map_eq_some_iff.mp tried
    have books := owned.books.tryLoan answered
    obtain ⟨error, rfl, rfl⟩ | ⟨index, record, reached, stored, isFree, rfl, rfl⟩ :=
      LoanState.tryLoan_cases answered
    · exact owned
    · exact owned.grant absent reached stored isFree books
  | fill target content =>
    obtain ⟨loan, _, filled⟩ := bind_eq_some_iff.mp stepped
    obtain ⟨_, same⟩ := ite_none_right_eq_some.mp filled
    obtain rfl := some.inj same
    unfold LoanState.fill
    split
    · exact owned.keep rfl rfl ⟨owned.books.lent, owned.books.abandoned, owned.books.released⟩
        fun _ => Iff.rfl
    · exact owned
  | moveConstruct source target =>
    obtain ⟨loan, idle, moved⟩ := bind_eq_some_iff.mp stepped
    obtain ⟨absent, same⟩ := ite_none_right_eq_some.mp moved
    obtain rfl := some.inj same
    refine owned.move idle (owned.idle_of_absent absent) (owner_of_absent absent) ?_
    rintro rfl
    exact absurd (absent.symm.trans (idle?_eq_some_iff.mp idle).2) (some_ne_none _).symm
  | moveAssign source target =>
    obtain ⟨loan, idle, there⟩ := bind_eq_some_iff.mp stepped
    obtain ⟨old, other, assigned⟩ := bind_eq_some_iff.mp there
    by_cases apart : source = target
    · rw [if_pos apart] at assigned
      exact some.inj assigned ▸ owned
    · rw [if_neg apart] at assigned
      exact some.inj assigned ▸ owned.moveAssign idle other apart
  | destroy target =>
    obtain ⟨loan, idle, rfl⟩ := map_eq_some_iff.mp stepped
    exact owned.abandon idle rfl
  | commit target context size =>
    obtain ⟨loan, idle, rfl⟩ := map_eq_some_iff.mp stepped
    have books := owned.books.commitLoan context loan size
    obtain ⟨error, refused⟩ | ⟨record, armed, found, committed⟩ :=
      stream.state.commitLoan_cases context loan size
    · rw [refused]
      exact owned
    · rw [committed] at books ⊢
      exact owned.commit idle armed found books _
  | commitOwnership target =>
    simp only [LoanedStream.step] at stepped
    split at stepped
    · next sequence loan committing present =>
      cases stepped
      exact owned.advance committing rfl rfl rfl owned.books fun _ => Iff.rfl
    · cases stepped
  | settle target interested =>
    simp only [LoanedStream.step] at stepped
    split at stepped
    · next sequence loan settling present =>
      exact some.inj stepped ▸ owned.settle settling present interested
    · cases stepped
  | notified target accepted =>
    simp only [LoanedStream.step] at stepped
    split at stepped
    · next sequence notifying =>
      cases stepped
      have told := owned.afterNotify accepted
      obtain ⟨loan, present, disarmed⟩ := owned.staged target _ notifying
      have loans : (stream.afterNotify accepted).loans =
          update (stream.afterNotify accepted).loans target (some loan) := by
        rw [afterNotify_loans, ← present, update_eq_self]
      have commits := (congrFun (afterNotify_commits accepted) target).trans notifying
      exact told.advance commits loans (disarmed rfl) rfl told.books fun _ => Iff.rfl
    · cases stepped
  | take =>
    obtain ⟨_, taken⟩ := ite_none_right_eq_some.mp stepped
    obtain ⟨⟨ready, state⟩, read, rfl⟩ := map_eq_some_iff.mp taken
    exact owned.setWake rfl rfl (LoanState.takeReadyLoan_snd read)
  | publish =>
    simp only [LoanedStream.step] at stepped
    split at stepped
    · exact some.inj stepped ▸ owned.keep rfl rfl owned.books fun _ => Iff.rfl
    · cases stepped
  | release =>
    simp only [LoanedStream.step] at stepped
    split at stepped
    · next ready _ =>
      exact some.inj stepped ▸ owned.keep rfl rfl (owned.books.releaseReadyLoan _ _)
        LoanState.lends_releaseReadyLoan
    · cases stepped
  | rearm =>
    obtain ⟨_, same⟩ := ite_none_right_eq_some.mp stepped
    exact some.inj same ▸ owned.keep rfl rfl owned.books fun _ => Iff.rfl
  | wake =>
    obtain ⟨_, woken⟩ := ite_none_right_eq_some.mp stepped
    split at woken
    · exact some.inj woken ▸ owned.keep rfl rfl owned.books fun _ => Iff.rfl
    · exact some.inj woken ▸ owned.setWake rfl rfl rfl
  | woken accepted =>
    obtain ⟨_, same⟩ := ite_none_right_eq_some.mp stepped
    have told := owned.afterNotify accepted
    exact some.inj same ▸ told.keep rfl rfl told.books fun _ => Iff.rfl

end LoanedStream

/-! ### What becomes of a loan -/

namespace LoanState

variable {pool : LoanedPool} {state : LoanState pool}

section

variable (state)

end

end LoanState

namespace LoanedStream

variable {pool : LoanedPool} {stream next : LoanedStream pool}

/-- Two buffers of four bytes. -/
def twoBuffers : LoanedPool where
  slots := 2
  bytes := 4
  slots_pos := Nat.two_pos
  bytes_pos := by decide

end LoanedStream

end Solar.Remote
