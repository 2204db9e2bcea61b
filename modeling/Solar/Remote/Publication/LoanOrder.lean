/-
This file is about the order in which the committed buffers of a loaned stream are
published. The publisher takes the ready slot of the lowest number, whichever was
committed first, so the sequence numbers of the receipts come out of order as soon as
slots are committed in another order than that of their numbers.

They come in order in every run whose publications each find the earliest commit in the
lowest of the ready slots, as long as the 64 bits of the sequence number last.
-/

import Solar.Remote.Publication.Ownership

namespace Solar.Remote

open List Option

variable {pool : LoanedPool}

namespace LoanState

variable {state next : LoanState pool}

/-- A slot has a committed record. -/
def HasReady (state : LoanState pool) (index : Nat) (record : LoanSlot) : Prop :=
  state.slots.get? index = some record ∧ record.state = .ready

variable {record : LoanSlot}

theorem hasReady_put {place index : Nat} {written : LoanSlot} (unready : written.state ≠ .ready)
    (has : (state.put place written).HasReady index record) :
    state.HasReady index record ∧ index ≠ place := by
  obtain ⟨stored, ready⟩ := has
  rcases Pool.get?_put stored with ⟨_, rfl⟩ | ⟨apart, kept⟩
  · exact absurd ready unready
  · exact ⟨⟨kept, ready⟩, apart⟩

variable {slot generation : UInt16}

theorem hasReady_abandonLoan {index : Nat}
    (has : (state.abandonLoan slot generation).HasReady index record) :
    state.HasReady index record := by
  cases found : state.current? .loaned slot generation with
  | none => exact abandonLoan_of_none found ▸ has
  | some old =>
    rw [abandonLoan, found] at has
    exact (hasReady_put (fun unready => by cases unready) has).1

theorem sequence_abandonLoan : (state.abandonLoan slot generation).sequence = state.sequence := by
  unfold abandonLoan
  split <;> rfl

theorem sequence_releaseReadyLoan (state : LoanState pool) (slot generation : UInt16) :
    (state.releaseReadyLoan slot generation).sequence = state.sequence := by
  unfold releaseReadyLoan
  split <;> rfl

theorem hasReady_releaseReadyLoan {index : Nat}
    (has : (state.releaseReadyLoan slot generation).HasReady index record) :
    state.HasReady index record ∧ ¬ (index = slot.toNat ∧ record.generation = generation) := by
  cases found : state.current? .ready slot generation with
  | none =>
    rw [releaseReadyLoan_of_none found] at has
    refine ⟨has, ?_⟩
    rintro ⟨rfl, same⟩
    exact absurd (found.symm.trans (current?_eq_some_iff.mpr ⟨has.1, has.2, same⟩))
      (some_ne_none _).symm
  | some old =>
    rw [releaseReadyLoan, found] at has
    obtain ⟨before, apart⟩ := hasReady_put (fun unready => by cases unready) has
    exact ⟨before, fun both => apart both.1⟩

/-- A step makes no record ready, or a commit makes one under the next sequence number. -/
theorem Moved.hasReady {commits : Bool} (moved : Moved commits state next) :
    next.sequence = state.sequence ∧
        (∀ index record, next.HasReady index record → state.HasReady index record) ∨
      commits = true ∧ next.sequence = state.sequence + 1 ∧
        ∃ place, ∀ index record, next.HasReady index record →
          index ≠ place ∧ state.HasReady index record ∨
            index = place ∧ record.sequence = state.sequence + 1 := by
  cases moved with
  | same slots sequence _ => exact .inl ⟨sequence, fun _ _ has => ⟨slots ▸ has.1, has.2⟩⟩
  | lent place old _ moved =>
    subst moved
    exact .inl ⟨rfl, fun _ _ has => (hasReady_put (fun unready => by cases unready) has).1⟩
  | abandoned slot generation moved =>
    subst moved
    exact .inl ⟨sequence_abandonLoan, fun _ _ has => hasReady_abandonLoan has⟩
  | committed slot generation old size commit _ moved =>
    subst moved
    refine .inr ⟨commit, rfl, slot.toNat, fun index record has => ?_⟩
    rcases Pool.get?_put has.1 with ⟨here, rfl⟩ | ⟨apart, kept⟩
    · exact .inr ⟨here, rfl⟩
    · exact .inl ⟨apart, kept, has.2⟩
  | released slot generation moved =>
    subst moved
    exact .inl ⟨sequence_releaseReadyLoan state slot generation,
      fun _ _ has => (hasReady_releaseReadyLoan has).1⟩

end LoanState

/-! ### The order of the publications -/

/-- The publisher has taken the record of a slot. -/
def PublishStage.Has (stage : PublishStage) (index : Nat) (record : LoanSlot) : Prop :=
  ∃ ready published, stage.taken? = some (ready, published) ∧ index = ready.slot.toNat ∧
    record.generation = ready.generation

namespace LoanedStream

variable {stream next : LoanedStream pool}

/-- The condition: what a publication takes was committed before the other records that are ready,
and the sequence number of a commit does not wrap. -/
def InOrder (stream : LoanedStream pool) : LoanLabel → Prop
  | .take =>
      ∀ found ∈ stream.state.scan .ready, ∀ record ∈ stream.state.slots.slots,
        record.state = .ready → found.2.sequence ≤ record.sequence
  | .commit _ _ _ => stream.state.sequence + 1 ≠ 0
  | _ => True

instance (stream : LoanedStream pool) : (label : LoanLabel) → Decidable (stream.InOrder label)
  | .take => inferInstanceAs (Decidable (∀ found ∈ _, ∀ record ∈ _, _ → _))
  | .commit _ _ _ => inferInstanceAs (Decidable (_ ≠ _))
  | .construct _ | .tryLoan _ _ | .fill _ _ | .moveConstruct _ _ | .moveAssign _ _ | .destroy _
  | .commitOwnership _ | .settle _ _ | .notified _ _ | .publish | .release | .rearm | .wake
  | .woken _ => isTrue trivial

/-- What was published, what the publisher has taken and what waits for it have their sequence
numbers in this order, and no number twice. -/
structure Ordered (stream : LoanedStream pool) : Prop where
  increasing : (stream.published.map Prod.fst).Pairwise (· < ·)
  past : ∀ number ∈ stream.published.map Prod.fst, number ≤ stream.state.sequence
  bounded : ∀ index record, stream.state.HasReady index record →
    record.sequence ≤ stream.state.sequence
  distinct : ∀ first second record other, stream.state.HasReady first record →
    stream.state.HasReady second other → record.sequence = other.sequence → first = second
  waiting : ∀ number ∈ stream.published.map Prod.fst, ∀ index record,
    stream.state.HasReady index record → ¬ stream.publisher.Has index record →
      number < record.sequence
  taken : ∀ ready published, stream.publisher.taken? = some (ready, published) →
    ready.sequence ≤ stream.state.sequence ∧
      (published = false → ∀ number ∈ stream.published.map Prod.fst, number < ready.sequence) ∧
      ∀ index record, stream.state.HasReady index record → ¬ stream.publisher.Has index record →
        ready.sequence < record.sequence

namespace Ordered

theorem initial : ({} : LoanedStream pool).Ordered where
  increasing := Pairwise.nil
  past _ member := absurd member not_mem_nil
  bounded index record has := by
    have isFree := Pool.eq_of_get?_fill has.1 ▸ has.2
    cases isFree
  distinct first second record other has _ _ := by
    have isFree := Pool.eq_of_get?_fill has.1 ▸ has.2
    cases isFree
  waiting _ member := absurd member not_mem_nil
  taken _ _ taken := absurd taken.symm (some_ne_none _)

theorem lt_next {sequence : UInt64} (room : sequence + 1 ≠ 0) : sequence < sequence + 1 := by
  have wraps : (sequence + 1).toNat = (sequence.toNat + 1) % 2 ^ 64 := UInt64.toNat_add ..
  have nonzero : (sequence + 1).toNat ≠ 0 := fun zero => room (UInt64.toNat_inj.mp zero)
  have small : sequence.toNat + 1 < 2 ^ 64 := by
    refine Nat.lt_of_le_of_ne sequence.toNat_lt fun full => nonzero ?_
    rw [wraps, full, Nat.mod_self]
  rw [UInt64.lt_iff_toNat_lt, wraps, Nat.mod_eq_of_lt small]
  exact Nat.lt_succ_self _

section

variable (ordered : stream.Ordered)

include ordered

/-- A step that publishes nothing and takes nothing. -/
theorem keep {commits : Bool} (moved : LoanState.Moved commits stream.state next.state)
    (room : commits = true → stream.state.sequence + 1 ≠ 0)
    (published : next.published = stream.published)
    (taken : next.publisher.taken? = stream.publisher.taken?) : next.Ordered := by
  have same (index : Nat) (record : LoanSlot) :
      next.publisher.Has index record ↔ stream.publisher.Has index record := by
    rw [PublishStage.Has, taken, PublishStage.Has]
  obtain ⟨sequence, fewer⟩ | ⟨commit, sequence, place, ready⟩ := moved.hasReady
  · refine ⟨published ▸ ordered.increasing, ?_, ?_, ?_, ?_, ?_⟩
    · rw [published, sequence]
      exact ordered.past
    · rw [sequence]
      exact fun index record has => ordered.bounded index record (fewer index record has)
    · exact fun first second record other has also =>
        ordered.distinct first second record other (fewer _ _ has) (fewer _ _ also)
    · rw [published]
      exact fun number member index record has apart =>
        ordered.waiting number member index record (fewer _ _ has) (mt (same _ _).mpr apart)
    · rw [taken, published, sequence]
      intro ready done held
      obtain ⟨known, before, behind⟩ := ordered.taken ready done held
      exact ⟨known, before, fun index record has apart =>
        behind index record (fewer _ _ has) (mt (same _ _).mpr apart)⟩
  · have grows := lt_next (room commit)
    refine ⟨published ▸ ordered.increasing, ?_, ?_, ?_, ?_, ?_⟩
    · rw [published, sequence]
      exact fun number member =>
        UInt64.le_of_lt (UInt64.lt_of_le_of_lt (ordered.past number member) grows)
    · rw [sequence]
      intro index record has
      rcases ready index record has with ⟨_, kept⟩ | ⟨_, new⟩
      · exact UInt64.le_of_lt (UInt64.lt_of_le_of_lt (ordered.bounded index record kept) grows)
      · exact UInt64.le_of_eq new
    · intro first second record other has also equal
      rcases ready first record has with ⟨_, kept⟩ | ⟨here, new⟩
      · rcases ready second other also with ⟨_, still⟩ | ⟨_, newer⟩
        · exact ordered.distinct first second record other kept still equal
        · have less := UInt64.lt_of_le_of_lt (ordered.bounded first record kept) grows
          rw [equal, newer] at less
          exact absurd less (UInt64.lt_irrefl _)
      · rcases ready second other also with ⟨_, still⟩ | ⟨there, _⟩
        · have less := UInt64.lt_of_le_of_lt (ordered.bounded second other still) grows
          rw [← equal, new] at less
          exact absurd less (UInt64.lt_irrefl _)
        · exact here.trans there.symm
    · rw [published]
      intro number member index record has apart
      rcases ready index record has with ⟨_, kept⟩ | ⟨_, new⟩
      · exact ordered.waiting number member index record kept (mt (same _ _).mpr apart)
      · exact new ▸ UInt64.lt_of_le_of_lt (ordered.past number member) grows
    · rw [taken, published, sequence]
      intro held done stage
      obtain ⟨known, before, behind⟩ := ordered.taken held done stage
      have less := UInt64.lt_of_le_of_lt known grows
      refine ⟨UInt64.le_of_lt less, before, fun index record has apart => ?_⟩
      rcases ready index record has with ⟨_, kept⟩ | ⟨_, new⟩
      · exact behind index record kept (mt (same _ _).mpr apart)
      · exact new ▸ less

/-- The publisher takes the record that was committed first. -/
theorem take (idle : stream.publisher = .idle) (inOrder : stream.InOrder .take)
    (stepped : stream.step .take = some next) : next.Ordered := by
  obtain ⟨_, taken⟩ := ite_none_right_eq_some.mp stepped
  obtain ⟨⟨ready?, state⟩, read, rfl⟩ := map_eq_some_iff.mp taken
  have free (index : Nat) (record : LoanSlot) : ¬ stream.publisher.Has index record := by
    rintro ⟨ready, published, held, _⟩
    rw [idle] at held
    cases held
  cases found : stream.state.scan .ready with
  | none =>
    rw [LoanState.takeReadyLoan, found] at read
    obtain ⟨_, same⟩ := ite_none_right_eq_some.mp read
    cases same
    have moved : LoanState.Moved false stream.state { stream.state with wakePending := false } :=
      .same rfl rfl rfl
    exact ordered.keep moved (fun commit => absurd commit Bool.false_ne_true) rfl (by rw [idle])
  | some pair =>
    obtain ⟨place, first⟩ := pair
    obtain ⟨reached, stored, ready⟩ := LoanState.scan_eq_some found
    have earliest := inOrder (place, first) found
    rw [LoanState.takeReadyLoan, found] at read
    cases read
    refine ⟨ordered.increasing, ordered.past, ordered.bounded, ordered.distinct, ?_, ?_⟩
    · exact fun number member index record has _ =>
        ordered.waiting number member index record has (free index record)
    · intro held done stage
      cases stage
      refine ⟨ordered.bounded place first ⟨stored, ready⟩, ?_, ?_⟩
      · exact fun _ number member =>
          ordered.waiting number member place first ⟨stored, ready⟩ (free place first)
      · intro index record has apart
        have before := earliest record (Pool.mem_slots_iff.mpr ⟨index, has.1⟩) has.2
        refine UInt64.lt_of_le_of_ne before fun equal => ?_
        obtain rfl := ordered.distinct place index first record ⟨stored, ready⟩ has equal
        obtain rfl := some.inj (stored.symm.trans has.1)
        exact apart ⟨_, _, rfl, (UInt16.toNat_ofNat_of_lt' reached).symm, rfl⟩

/-- What was taken is published. -/
theorem publish {ready : ReadyLoan} (publishing : stream.publisher = .publishing ready)
    (payload : Bytes) :
    ({ stream with
      publisher := .releasing ready
      published := stream.published ++ [(ready.sequence, payload)] } :
        LoanedStream pool).Ordered := by
  obtain ⟨known, before, behind⟩ := ordered.taken ready false (by rw [publishing]; rfl)
  have same (index : Nat) (record : LoanSlot) :
      stream.publisher.Has index record → (PublishStage.releasing ready).Has index record := by
    rintro ⟨_, _, held, here, generation⟩
    rw [publishing] at held
    cases held
    exact ⟨ready, true, rfl, here, generation⟩
  have numbers : (stream.published ++ [(ready.sequence, payload)]).map Prod.fst =
      stream.published.map Prod.fst ++ [ready.sequence] := map_append
  refine ⟨?_, ?_, ordered.bounded, ordered.distinct, ?_, ?_⟩
  · rw [numbers, pairwise_append]
    refine ⟨ordered.increasing, pairwise_singleton _ _, fun number member last ends => ?_⟩
    exact mem_singleton.mp ends ▸ before rfl number member
  · rw [numbers]
    intro number member
    rcases mem_append.mp member with earlier | last
    · exact ordered.past number earlier
    · exact mem_singleton.mp last ▸ known
  · rw [numbers]
    intro number member index record has apart
    rcases mem_append.mp member with earlier | last
    · exact ordered.waiting number earlier index record has (mt (same index record) apart)
    · exact mem_singleton.mp last ▸ behind index record has (mt (same index record) apart)
  · intro held done stage
    cases stage
    exact ⟨known, fun unpublished => absurd unpublished.symm Bool.false_ne_true,
      fun index record has apart => behind index record has (mt (same index record) apart)⟩

/-- What was taken is released. -/
theorem release {ready : ReadyLoan} (releasing : stream.publisher = .releasing ready) :
    ({ stream with
      state := stream.state.releaseReadyLoan ready.slot ready.generation
      publisher := .rearming } : LoanedStream pool).Ordered := by
  have sequence := stream.state.sequence_releaseReadyLoan ready.slot ready.generation
  have left (index : Nat) (record : LoanSlot)
      (has : (stream.state.releaseReadyLoan ready.slot ready.generation).HasReady index record) :
      stream.state.HasReady index record ∧ ¬ stream.publisher.Has index record := by
    obtain ⟨before, apart⟩ := LoanState.hasReady_releaseReadyLoan has
    refine ⟨before, ?_⟩
    rintro ⟨_, _, held, here, generation⟩
    rw [releasing] at held
    cases held
    exact apart ⟨here, generation⟩
  refine ⟨ordered.increasing, ?_, ?_, ?_, ?_, ?_⟩
  · exact fun number member => sequence ▸ ordered.past number member
  · exact fun index record has => sequence ▸ ordered.bounded index record (left _ _ has).1
  · exact fun first second record other has also =>
      ordered.distinct first second record other (left _ _ has).1 (left _ _ also).1
  · exact fun number member index record has _ =>
      ordered.waiting number member index record (left _ _ has).1 (left _ _ has).2
  · exact fun _ _ stage => absurd stage.symm (some_ne_none _)

end

end Ordered

theorem Ordered.step (ordered : stream.Ordered) {label : LoanLabel} (inOrder : stream.InOrder label)
    (stepped : stream.step label = some next) : next.Ordered := by
  obtain ⟨moved, steady⟩ := effect_of_step stepped
  rcases steady with rfl | rfl | rfl | ⟨published, taken⟩
  · exact ordered.take (ite_none_right_eq_some.mp stepped).1 inOrder stepped
  · simp only [LoanedStream.step] at stepped
    split at stepped
    · next ready publishing => exact some.inj stepped ▸ ordered.publish publishing _
    · cases stepped
  · simp only [LoanedStream.step] at stepped
    split at stepped
    · next ready releasing => exact some.inj stepped ▸ ordered.release releasing
    · cases stepped
  · refine ordered.keep moved (fun commits => ?_) published taken
    cases label with
    | commit target context size => exact inOrder
    | _ => exact absurd commits Bool.false_ne_true

/-- The buffers of a loaned stream are published in the order of the sequence numbers of their
commits, in every run whose publications each take what was committed first and whose sequence
numbers do not wrap. -/
theorem published_in_commit_order (reached : (loanMachine pool).ReachableWhere InOrder {} stream) :
    (stream.published.map Prod.fst).Pairwise (· < ·) := by
  have ordered : stream.Ordered :=
    reached.invariant _ .initial fun _ _ _ ordered inOrder => ordered.step inOrder
  exact ordered.increasing

/-- Two buffers are borrowed and committed in the order of their slots. -/
def straight : List LoanLabel :=
  [.tryLoan 0 {}, .tryLoan 1 {}, .commit 0 {} 2, .commitOwnership 0, .settle 0 1, .notified 0 true,
    .commit 1 {} 4, .take, .publish, .release, .rearm, .wake, .woken true, .take, .publish]

theorem published_in_commit_order_straight :
    ((((loanMachine twoBuffers).run {} straight).get (by decide)).published.map
      Prod.fst).Pairwise (· < ·) :=
  published_in_commit_order
    ((loanMachine twoBuffers).reachableWhere_get _ _ _ (by decide) (by decide))

/-- Both buffers of a pool are borrowed and committed, the second one first. -/
def crossed : List LoanLabel :=
  [.tryLoan 0 {}, .tryLoan 1 {}, .commit 1 {} 4, .commitOwnership 1, .settle 1 1, .notified 1 true,
    .commit 0 {} 2, .commitOwnership 0, .settle 0 1, .take, .publish, .release, .rearm, .wake,
    .woken true, .take, .publish]

/-- The buffer that was committed second is published first. -/
theorem second_commit_published_first :
    ∃ stream, (loanMachine twoBuffers).Reachable {} stream ∧
      stream.receipts = [⟨.accepted, 1, true⟩, ⟨.coalesced, 2, true⟩] ∧
      stream.published = [(2, [0, 0]), (1, [0, 0, 0, 0])] ∧
      ¬ (stream.published.map Prod.fst).Pairwise (· < ·) :=
  ⟨_, (loanMachine twoBuffers).reachable_get {} crossed (by decide), by decide, by decide,
    by decide⟩

end LoanedStream

end Solar.Remote
