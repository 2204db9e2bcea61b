/-
This file proves what the mean of a window keeps. The stored values are at all
times the last accepted ones. Their sum is kept by subtracting the value that goes
out from a total that may have been clamped or wrapped: it is right as long as a
clamped total is not built upon and the subtraction stays in the range of the
accumulator.
-/

import Solar.Library.Transition
import Solar.Metrics.Reducers

namespace Solar.Metrics

open List Option

/-! ### Windows -/

/-- The last values, as many as the window holds. -/
def lastValues (size : Nat) (values : List Int) : List Int := values.drop (values.length - size)

/-- The values a window stores, the oldest first. -/
def WindowState.stored (state : WindowState) (size : Nat) : List Int :=
  if state.count = size then state.values.drop state.next ++ state.values.take state.next
  else state.values.take state.count

section Values

variable {size : Nat} {state : WindowState} {values : List Int}

/-- The array is the window of the values, written around. -/
structure Windowed (size : Nat) (values : List Int) (state : WindowState) : Prop where
  length : state.values.length = size
  next : state.next = values.length % size
  count : state.count = min values.length size
  stored : state.stored size = lastValues size values
  latest : state.latest = values.getLast?.getD 0

theorem lastValues_concat_of_lt (room : values.length < size) (value : Int) :
    lastValues size (values ++ [value]) = lastValues size values ++ [value] := by
  unfold lastValues
  rw [length_append, length_singleton, Nat.sub_eq_zero_of_le room,
    Nat.sub_eq_zero_of_le room.le, drop_zero, drop_zero]

theorem lastValues_concat_of_le (full : size ≤ values.length) (positive : 0 < size) (value : Int) :
    lastValues size (values ++ [value]) = (lastValues size values).tail ++ [value] := by
  unfold lastValues
  rw [length_append, length_singleton, tail_drop, Nat.sub_add_comm full,
    drop_append_of_le_length (by omega)]

theorem take_set {items : List Int} {place : Nat} (bound : place < items.length) (value : Int) :
    (items.set place value).take (place + 1) = items.take place ++ [value] := by
  rw [take_add_one, take_set_of_le le_rfl, getElem?_set_self bound, toList_some]

/-- The next value takes the place of the oldest one. -/
theorem Windowed.put (windowed : Windowed size values state) (positive : 0 < size) (value sum : Int) :
    Windowed size (values ++ [value]) {
      values := state.values.set state.next value
      sum
      latest := value
      next := (state.next + 1) % size
      count := if state.count = size then state.count else state.count + 1 } := by
  obtain ⟨length, next, count, stored, -⟩ := windowed
  have small : values.length % size < size := Nat.mod_lt _ positive
  have bound : state.next < state.values.length := by rw [next, length]; exact small
  have put := take_set bound value
  have whole : (state.values.set state.next value).length = size := by rw [length_set, length]
  refine ⟨whole, ?_, ?_, ?_, by simp⟩
  · rw [length_append, length_singleton, next, Nat.mod_add_mod]
  · rw [length_append, length_singleton]
    show (if state.count = size then state.count else state.count + 1) = _
    split_ifs <;> omega
  · unfold WindowState.stored at stored ⊢
    dsimp only
    by_cases room : values.length < size
    · have short : state.count ≠ size := by omega
      have here : state.next = state.count := by
        rw [next, count, Nat.mod_eq_of_lt room, Nat.min_eq_left room.le]
      rw [if_neg short] at stored
      rw [if_neg short, lastValues_concat_of_lt room, ← stored, ← here, ← put]
      split_ifs with last
      · rw [last, Nat.mod_self, drop_zero, take_zero, append_nil, take_of_length_le whole.le]
      · rfl
    · have full : state.count = size := by omega
      rw [if_pos full] at stored
      have tail : (lastValues size values).tail ++ [value] =
          (state.values.set state.next value).drop (state.next + 1) ++
            (state.values.set state.next value).take (state.next + 1) := by
        rw [← stored, drop_eq_getElem_cons bound, cons_append, tail_cons, put,
          drop_set_of_lt (Nat.lt_succ_self _), append_assoc]
      rw [if_pos full, if_pos full, lastValues_concat_of_le (Nat.not_lt.mp room) positive, tail]
      obtain inside | last := Nat.lt_or_eq_of_le (show state.next + 1 ≤ size by omega)
      · rw [Nat.mod_eq_of_lt inside]
      · rw [last, Nat.mod_self, drop_zero, take_zero, append_nil,
          take_of_length_le whole.le, drop_eq_nil_of_le whole.le, nil_append]

end Values

/-! ### Totals -/

/-- What the policy keeps of a sum. -/
def Overflow.keep (overflow : Overflow) (type : IntegerType) (sum : Int) : Int :=
  match overflow with
  | .reject => sum
  | .saturate => type.accumulator.clamp sum
  | .wrap => type.accumulator.convert sum

variable {type : IntegerType} {overflow : Overflow}

section Totals

variable {current value sum : Int}

theorem keep_of_holds (holds : type.accumulator.Holds sum) : overflow.keep type sum = sum := by
  cases overflow with
  | reject => rfl
  | saturate =>
    show max _ (min _ sum) = sum
    rw [min_eq_right holds.2, max_eq_right holds.1]
  | wrap => exact convert_of_holds holds

theorem holds_zero : type.accumulator.Holds 0 := by
  rw [IntegerType.Holds, minimum_accumulator, maximum_accumulator]
  split_ifs <;> decide

theorem addSum_keep (here : type.accumulator.Holds current)
    (holds : type.accumulator.Holds value) :
    (addSum type.accumulator overflow current value = none →
      overflow = .reject ∧ ¬ type.accumulator.Holds (current + value)) ∧
    ∀ stored, addSum type.accumulator overflow current value = some stored →
      stored.1 = overflow.keep type (current + value) ∧
        (overflow = .reject → type.accumulator.Holds (current + value)) := by
  rw [addSum_eq here holds]
  split_ifs with within
  · refine ⟨nofun, fun stored same => ?_⟩
    cases same
    exact ⟨(keep_of_holds within).symm, fun _ => within⟩
  · cases overflow with
    | reject => exact ⟨fun _ => ⟨rfl, within⟩, nofun⟩
    | _ => exact ⟨nofun, fun stored same => by cases same; exact ⟨rfl, nofun⟩⟩

end Totals

/-! ### Runs -/

/-- A metric with the mean of a window. -/
def windowMetric (type : IntegerType) (overflow : Overflow) (size : Nat) (positive : 0 < size) :
    Metric := ⟨type, overflow, .windowMean size positive⟩

variable {size : Nat} {positive : 0 < size}

/-- The slot of the metric and the values it has accepted since the reset. -/
structure WindowSystem (type : IntegerType) (overflow : Overflow) (size : Nat)
    (positive : 0 < size) where
  slot : SlotState (windowMetric type overflow size positive)
  accepted : List Int := []

namespace WindowSystem

section

variable (system : WindowSystem type overflow size positive)

/-- The instrument of the slot. -/
def window : WindowState :=
  system.slot.instrument

/-- The values of the window. -/
def stored : List Int :=
  lastValues size system.accepted

/-- The value that the next one takes the place of; nothing goes out of a window with room. -/
def outgoing : Int :=
  if size ≤ system.accepted.length then system.stored.headD 0 else 0

end

/-- One observation of a value of the type. -/
def machine (type : IntegerType) (overflow : Overflow) (size : Nat) (positive : 0 < size) :
    Transition.Machine (WindowSystem type overflow size positive) Int where
  step system value :=
    if type.Holds value then
      let observed := observeDistribution system.slot value
      some ⟨observed.1,
        if observed.2.isSome then system.accepted ++ [value] else system.accepted⟩
    else none

/-- The slot after a reset. -/
def reset (slot : SlotState (windowMetric type overflow size positive)) :
    WindowSystem type overflow size positive := ⟨resetState slot, []⟩

/-- What is asked of an observation: without the value that goes out, the total stays in the range
of the accumulator, and where the exact sum was clamped the window does not move back. -/
def Steady (system : WindowSystem type overflow size positive) (value : Int) : Prop :=
  type.accumulator.Holds (overflow.keep type system.stored.sum - system.outgoing) ∧
    (overflow = .saturate → type.accumulator.Holds system.stored.sum ∨
      type.accumulator.maximum < system.stored.sum ∧ system.outgoing ≤ value ∨
      system.stored.sum < type.accumulator.minimum ∧ value ≤ system.outgoing)

instance (system : WindowSystem type overflow size positive) (value : Int) :
    Decidable (system.Steady value) :=
  inferInstanceAs (Decidable (_ ∧ _))

/-- The window stores the last values and what is kept of their sum. -/
structure Means (system : WindowSystem type overflow size positive) : Prop where
  windowed : Windowed size system.accepted system.window
  sum : system.window.sum = overflow.keep type system.stored.sum
  within : overflow = .reject → type.accumulator.Holds system.stored.sum

variable {system next : WindowSystem type overflow size positive} {value : Int}

theorem sum_concat :
    (lastValues size (system.accepted ++ [value])).sum =
      system.stored.sum - system.outgoing + value := by
  have split : system.stored.sum = system.stored.headD 0 + system.stored.tail.sum := by
    cases system.stored <;> simp
  unfold outgoing
  split_ifs with full
  · rw [lastValues_concat_of_le full positive, sum_append, sum_singleton]
    unfold stored at split ⊢
    omega
  · rw [lastValues_concat_of_lt (Nat.not_le.mp full), sum_append, sum_singleton, sub_zero, stored]

theorem Steady.keep_eq (steady : system.Steady value) :
    overflow.keep type (overflow.keep type system.stored.sum - system.outgoing + value) =
      overflow.keep type (lastValues size (system.accepted ++ [value])).sum := by
  rw [sum_concat]
  cases overflow with
  | reject => rfl
  | saturate =>
    show max _ (min _ (max _ (min _ _) - _ + _)) = max _ (min _ _)
    obtain ⟨low, high⟩ | ⟨above, rises⟩ | ⟨below, falls⟩ := steady.2 rfl <;> omega
  | wrap =>
    show type.accumulator.convert (type.accumulator.convert _ - _ + _) = _
    rw [sub_add, sub_eq_add_neg, convert_add, ← sub_eq_add_neg, ← sub_add]
    rfl

/-- What `prepare` has of the sum without the outgoing value. -/
def total (system : WindowSystem type overflow size positive) : Int :=
  if system.window.count = size then type.accumulator.convert
    (system.window.sum - system.window.values.getD system.window.next 0)
  else system.window.sum

theorem prepare_eq (system : WindowSystem type overflow size positive) (value : Int) :
    prepare type overflow (.windowMean size positive) system.window value =
      (addSum type.accumulator overflow system.total value).map fun sum => (({
          values := system.window.values.set system.window.next value
          sum := sum.1
          latest := value
          next := (system.window.next + 1) % size
          count := if system.window.count = size then system.window.count
            else system.window.count + 1 } : WindowState), sum.2) := rfl

/-- Whatever the sum is, the window stores the last accepted values. -/
theorem windowed_step (windowed : Windowed size system.accepted system.window)
    (step : (machine type overflow size positive).step system value = some next) :
    Windowed size next.accepted next.window := by
  obtain ⟨-, step⟩ := ite_none_right_eq_some.mp step
  cases step
  unfold observeDistribution
  split
  · exact windowed
  · rename_i prepared disposition same
    obtain ⟨stored, -, made⟩ := map_eq_some_iff.mp ((prepare_eq system value).symm.trans same)
    cases made
    exact windowed.put positive value stored.1

section

variable (means : system.Means)

include means

theorem Means.outgoing_eq (full : system.window.count = size) :
    system.window.values.getD system.window.next 0 = system.outgoing := by
  obtain ⟨length, next, count, stored, -⟩ := means.windowed
  have bound : system.window.next < system.window.values.length := by
    rw [next, length]
    exact Nat.mod_lt _ positive
  unfold outgoing
  rw [if_pos (by omega), WindowSystem.stored, ← stored, WindowState.stored, if_pos full,
    drop_eq_getElem_cons bound, getD_eq_getElem?_getD, getElem?_eq_getElem bound]
  rfl

section

variable (steady : system.Steady value)

include steady

theorem total_eq : system.total = overflow.keep type system.stored.sum - system.outgoing := by
  unfold total
  rw [means.sum]
  split_ifs with full
  · rw [means.outgoing_eq full]
    exact convert_of_holds steady.1
  · have count := means.windowed.count
    rw [outgoing, if_neg (by omega), sub_zero]

theorem Means.refused (holds : type.Holds value)
    (refused : (observeDistribution system.slot value).2 = none) :
    ¬ type.accumulator.Holds (lastValues size (system.accepted ++ [value])).sum := by
  unfold observeDistribution at refused
  split at refused
  · rename_i prepared
    have refused := map_eq_none_iff.mp ((prepare_eq system value).symm.trans prepared)
    rw [total_eq means steady] at refused
    obtain ⟨policy, outside⟩ :=
      (addSum_keep steady.1 (holds_accumulator holds)).1 refused
    rw [sum_concat]
    subst policy
    exact outside
  · cases refused

theorem Means.step (step : (machine type overflow size positive).step system value = some next) :
    next.Means := by
  have windowed := windowed_step means.windowed step
  obtain ⟨holds, step⟩ := ite_none_right_eq_some.mp step
  cases step
  revert windowed
  unfold observeDistribution
  split
  · exact fun windowed => ⟨windowed, means.sum, means.within⟩
  · rename_i prepared disposition same
    intro windowed
    obtain ⟨stored, added, made⟩ := map_eq_some_iff.mp ((prepare_eq system value).symm.trans same)
    cases made
    rw [total_eq means steady] at added
    obtain ⟨sum, within⟩ := (addSum_keep steady.1 (holds_accumulator holds)).2 stored added
    refine ⟨windowed, sum.trans steady.keep_eq, fun policy => ?_⟩
    have within := within policy
    subst policy
    exact sum_concat.symm ▸ within

end

end

theorem means_reset {slot : SlotState (windowMetric type overflow size positive)} :
    (reset slot).Means := by
  have empty : lastValues size [] = [] := drop_nil
  refine ⟨⟨length_replicate, (Nat.zero_mod size).symm, (Nat.zero_min size).symm, ?_, rfl⟩, ?_,
    fun _ => ?_⟩
  · exact (if_neg positive.ne).trans empty.symm
  · exact (keep_of_holds holds_zero).symm.trans (congrArg (fun values => overflow.keep type
      (sum values)) empty.symm)
  · exact (congrArg sum empty).symm ▸ holds_zero

/-- The window stores the last accepted values in every run. Where every observation is steady, their
sum is stored if the accumulator can have it, and for every further steady observation the window
that it is refused for has no such sum and the subtraction stays in the range. -/
theorem windows_depend_on_their_values (slot : SlotState (windowMetric type overflow size positive))
    (system : WindowSystem type overflow size positive) :
    ((machine type overflow size positive).Reachable (reset slot) system →
      system.window.stored size = lastValues size system.accepted ∧
        system.window.count = min system.accepted.length size ∧
        system.window.latest = system.accepted.getLast?.getD 0) ∧
    ((machine type overflow size positive).ReachableWhere Steady (reset slot) system →
      (type.accumulator.Holds (system.window.stored size).sum →
        system.window.sum = (system.window.stored size).sum) ∧
      ∀ value, type.Holds value → system.Steady value →
        ((observeDistribution system.slot value).2 = none →
          ¬ type.accumulator.Holds (lastValues size (system.accepted ++ [value])).sum) ∧
        (system.window.count = size → type.accumulator.Holds
          (system.window.sum - system.window.values.getD system.window.next 0))) := by
  constructor
  · intro reached
    have windowed := reached.invariant
      (fun system => Windowed size system.accepted system.window) means_reset.windowed
      fun _ _ _ windowed step => windowed_step windowed step
    exact ⟨windowed.stored, windowed.count, windowed.latest⟩
  · intro reached
    have means : system.Means := reached.invariant Means means_reset
      fun _ _ _ means steady step => means.step steady step
    refine ⟨fun holds => ?_, fun value holds steady =>
      ⟨means.refused steady holds, fun full => ?_⟩⟩
    · rw [means.windowed.stored] at holds ⊢
      rw [means.sum]
      exact keep_of_holds holds
    · rw [means.sum, means.outgoing_eq full]
      exact steady.1

/-- A system of a mean over two values. -/
abbrev PairSystem (type : IntegerType) : Type := WindowSystem type .saturate 2 Nat.two_pos

/-- The slot that the storage starts with, after a reset. -/
def pairSystem (type : IntegerType) : PairSystem type := reset ⟨initializeInstrument _, {}⟩

theorem pair_stores_the_last_two : ∃ system : PairSystem ⟨true, 8, by decide⟩,
    (machine ..).run (pairSystem ⟨true, 8, by decide⟩) [5, 7, 9] = some system ∧
      system.window.stored 2 = lastValues 2 system.accepted ∧
      system.window.sum = (system.window.stored 2).sum ∧ system.window.sum = 16 :=
  have reached := (machine ..).reachableWhere_get Steady (pairSystem ⟨true, 8, by decide⟩)
    [5, 7, 9] (by decide) (by decide)
  have holds := windows_depend_on_their_values _ _
  ⟨_, (some_get _).symm, (holds.1 ((machine ..).reachable_get _ [5, 7, 9] (by decide))).1,
    (holds.2 reached).1 (by decide), by decide⟩

theorem clamped_sum_is_built_upon : ∃ system : PairSystem ⟨true, 64, by decide⟩,
    (machine ..).run (pairSystem ⟨true, 64, by decide⟩) [2 ^ 63 - 1, 1, 0] = some system ∧
      system.window.stored 2 = [1, 0] ∧ system.window.sum = 0 ∧
      ¬ ((IntegerType.accumulator ⟨true, 64, by decide⟩).Holds (system.window.stored 2).sum →
        system.window.sum = (system.window.stored 2).sum) :=
  ⟨_, rfl, by decide, by decide, by decide⟩

end WindowSystem

end Solar.Metrics
