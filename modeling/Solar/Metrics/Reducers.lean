/-
This file models the reducers of a metric's distribution over integer values. An
observation is first applied to a copy of the instrument, whose sum is kept in 64
bits and overflows as the policy says; the copy is stored unless the observation is
rejected. The reducer with a floating-point mean is left out.
-/

import Mathlib

namespace Solar.Metrics

/-! ### Integer types -/

/-- An integer type of the language. -/
structure IntegerType where
  signed : Bool
  bits : Nat
  small : bits ≤ 64

namespace IntegerType

section

variable (type : IntegerType)

def minimum : Int := if type.signed then -2 ^ (type.bits - 1) else 0

def maximum : Int :=
  if type.signed then 2 ^ (type.bits - 1) - 1 else 2 ^ type.bits - 1

/-- The type has the value. -/
def Holds (value : Int) : Prop :=
  type.minimum ≤ value ∧ value ≤ type.maximum

end

instance (type : IntegerType) (value : Int) : Decidable (type.Holds value) :=
  inferInstanceAs (Decidable (_ ∧ _))

section

variable (type : IntegerType)

/-- The conversion to the type, which is modular. -/
def convert (value : Int) : Int :=
  if type.signed then value.bmod (2 ^ type.bits) else value % (2 ^ type.bits : Nat)

/-- `accumulator_t`. -/
def accumulator : IntegerType := ⟨type.signed, 64, le_rfl⟩

/-- The integral promotion. -/
def promoted : IntegerType :=
  if type.bits < 32 then ⟨true, 32, by decide⟩ else type

end

/-- The type in which two values are compared: the usual arithmetic conversions. -/
def common (first second : IntegerType) : IntegerType :=
  let left := first.promoted
  let right := second.promoted
  if left.signed = right.signed then if left.bits < right.bits then right else left
  else
    let signed := if left.signed then left else right
    let unsigned := if left.signed then right else left
    if unsigned.bits < signed.bits then signed else unsigned

end IntegerType

/-! ### Sums -/

inductive Overflow
  | saturate | reject | wrap
  deriving DecidableEq

inductive Disposition
  | updated | saturated | wrapped
  deriving DecidableEq

/-- `checked_add`. -/
def checkedAdd (type : IntegerType) (overflow : Overflow) (current amount : Int) :
    Option (Int × Disposition) :=
  if amount ≤ type.maximum - current then some (current + amount, .updated)
  else
    match overflow with
    | .reject => none
    | .wrap => some (type.convert (current + amount), .wrapped)
    | .saturate => some (type.maximum, .saturated)

/-- `add_sum`. The sum has 64 bits, so the cast to its type keeps the value. -/
def addSum (type : IntegerType) (overflow : Overflow) (current value : Int) :
    Option (Int × Disposition) :=
  if type.signed then
    if 0 < value ∧ type.maximum - value < current ∨ value < 0 ∧ current < type.minimum - value then
      match overflow with
      | .reject => none
      | .saturate => some (if value < 0 then type.minimum else type.maximum, .saturated)
      | .wrap => some (type.convert (current + value), .wrapped)
    else some (current + value, .updated)
  else checkedAdd type overflow current value

/-! ### Reducers -/

/-- The boundaries of a histogram, constants of one type that are strictly increasing. -/
structure Boundaries where
  type : IntegerType
  values : List Int
  held : ∀ boundary ∈ values, type.Holds boundary
  ordered : values.Pairwise (· < ·)

inductive Reducer
  | last | minimum | maximum | summary
  | windowMean (size : Nat) (positive : 0 < size)
  | histogram (boundaries : Boundaries)

/-- `ReducerState` of the last value, the least and the greatest. -/
structure PointState where
  value : Int := 0
  count : Nat := 0
  initialized : Bool := false

structure SummaryState where
  count : Nat := 0
  sum : Int := 0
  minimum : Int := 0
  maximum : Int := 0
  initialized : Bool := false

structure WindowState where
  values : List Int
  sum : Int := 0
  latest : Int := 0
  next : Nat := 0
  count : Nat := 0

structure HistogramState where
  buckets : List Nat
  count : Nat := 0
  sum : Int := 0

/-- `InstrumentState`. -/
def InstrumentState : Reducer → Type
  | .last | .minimum | .maximum => PointState
  | .summary => SummaryState
  | .windowMean _ _ => WindowState
  | .histogram _ => HistogramState

/-- `initialize_instrument`. -/
def initializeInstrument : (reducer : Reducer) → InstrumentState reducer
  | .last | .minimum | .maximum => ({} : PointState)
  | .summary => ({} : SummaryState)
  | .windowMean size _ => ({ values := List.replicate size 0 } : WindowState)
  | .histogram boundaries =>
      ({ buckets := List.replicate (boundaries.values.length + 1) 0 } : HistogramState)

/-- A metric with a distribution. -/
structure Metric where
  type : IntegerType
  overflow : Overflow
  reducer : Reducer

/-- The value exceeds the boundary, as the language compares them. -/
def Boundaries.exceeded (boundaries : Boundaries) (type : IntegerType) (value boundary : Int) :
    Bool :=
  (type.common boundaries.type).convert boundary < (type.common boundaries.type).convert value

/-- The bucket that the loop over the boundaries ends at. -/
def bucketOf (exceeded : Int → Bool) : List Int → Nat
  | [] => 0
  | boundary :: rest => if exceeded boundary then bucketOf exceeded rest + 1 else 0

/-- What an observation makes of the instrument, in `observe_distribution`. -/
def prepare (type : IntegerType) (overflow : Overflow) : (reducer : Reducer) →
    InstrumentState reducer → Int → Option (InstrumentState reducer × Disposition)
  | .last, (state : PointState), value =>
      some (({ value, count := state.count + 1, initialized := true } : PointState), .updated)
  | .minimum, (state : PointState), value =>
      some (({
        value := if !state.initialized || value < state.value then value else state.value
        count := state.count + 1
        initialized := true } : PointState), .updated)
  | .maximum, (state : PointState), value =>
      some (({
        value := if !state.initialized || state.value < value then value else state.value
        count := state.count + 1
        initialized := true } : PointState), .updated)
  | .summary, (state : SummaryState), value =>
      (addSum type.accumulator overflow state.sum value).map fun sum => (({
        count := state.count + 1
        sum := sum.1
        minimum := if state.initialized then min state.minimum value else value
        maximum := if state.initialized then max state.maximum value else value
        initialized := true } : SummaryState), sum.2)
  | .windowMean size _, (state : WindowState), value =>
      -- The subtraction is the processor's, which is modular also where the language leaves it open.
      let nextSum :=
        if state.count = size then
          type.accumulator.convert (state.sum - state.values.getD state.next 0)
        else state.sum
      (addSum type.accumulator overflow nextSum value).map fun sum => (({
        values := state.values.set state.next value
        sum := sum.1
        latest := value
        next := (state.next + 1) % size
        count := if state.count = size then state.count else state.count + 1 } : WindowState),
        sum.2)
  | .histogram boundaries, (state : HistogramState), value =>
      (addSum type.accumulator overflow state.sum value).map fun sum => (({
        buckets := state.buckets.modify
          (bucketOf (boundaries.exceeded type value) boundaries.values) (· + 1)
        count := state.count + 1
        sum := sum.1 } : HistogramState), sum.2)

/-! ### Slots -/

inductive Status
  | notReady | ok | overflow

inductive Reason
  | none | overflow

/-- `MetricRecord`. -/
structure MetricRecord where
  lastStatus : Status := .notReady
  lastFailure : Reason := .none
  epoch : Nat := 0
  revision : Nat := 0
  updates : Nat := 0
  rejected : Nat := 0
  overflows : Nat := 0
  saturations : Nat := 0
  resets : Nat := 0
  initialized : Bool := false
  saturated : Bool := false
  wrapped : Bool := false
  degraded : Bool := false

/-- `SlotState`. -/
structure SlotState (metric : Metric) where
  instrument : InstrumentState metric.reducer
  record : MetricRecord

variable {metric : Metric}

/-- `observe_distribution`, with the disposition of an accepted observation. -/
def observeDistribution (slot : SlotState metric) (value : Int) :
    SlotState metric × Option Disposition :=
  match prepare metric.type metric.overflow metric.reducer slot.instrument value with
  | none =>
      ({ slot with record := { slot.record with
          lastStatus := .overflow
          lastFailure := .overflow
          rejected := slot.record.rejected + 1
          overflows := slot.record.overflows + 1 } }, none)
  | some (prepared, disposition) =>
      ({ instrument := prepared
         record := { slot.record with
          lastStatus := .ok
          revision := slot.record.revision + 1
          updates := slot.record.updates + 1
          initialized := true
          saturated := slot.record.saturated || disposition = .saturated
          wrapped := slot.record.wrapped || disposition = .wrapped
          degraded := slot.record.degraded || disposition ≠ .updated
          saturations := slot.record.saturations + if disposition = .saturated then 1 else 0
          overflows := slot.record.overflows + if disposition = .wrapped then 1 else 0 } },
        some disposition)

/-- `reset_state`. -/
def resetState (slot : SlotState metric) : SlotState metric where
  instrument := initializeInstrument metric.reducer
  record := { slot.record with
    lastStatus := .ok
    lastFailure := .none
    epoch := slot.record.epoch + 1
    revision := 0
    updates := 0
    saturated := false
    wrapped := false
    degraded := false
    initialized := false
    resets := slot.record.resets + 1 }

/-! ### The accumulator -/

/-- The value of the type next to the number. -/
def IntegerType.clamp (type : IntegerType) (number : Int) : Int :=
  max type.minimum (min type.maximum number)

section Accumulator

variable {type : IntegerType} {overflow : Overflow} {current value : Int}

theorem minimum_accumulator :
    type.accumulator.minimum = if type.signed then -2 ^ 63 else 0 := rfl

theorem maximum_accumulator :
    type.accumulator.maximum = if type.signed then 2 ^ 63 - 1 else 2 ^ 64 - 1 := rfl

theorem holds_accumulator (holds : type.Holds value) : type.accumulator.Holds value := by
  have wide : (2 : Int) ^ (type.bits - 1) ≤ 2 ^ (64 - 1) :=
    pow_le_pow_right₀ (by decide) (Nat.sub_le_sub_right type.small 1)
  have whole : (2 : Int) ^ type.bits ≤ 2 ^ 64 := pow_le_pow_right₀ (by decide) type.small
  obtain ⟨above, below⟩ := holds
  rw [IntegerType.Holds, minimum_accumulator, maximum_accumulator]
  unfold IntegerType.minimum at above
  unfold IntegerType.maximum at below
  split_ifs at * with signed
  · omega
  · omega

/-- A sum that stays in the range is stored as it is; else the policy says what is stored. -/
theorem addSum_eq (here : type.accumulator.Holds current) (holds : type.accumulator.Holds value) :
    addSum type.accumulator overflow current value =
      if type.accumulator.Holds (current + value) then some (current + value, .updated)
      else
        match overflow with
        | .reject => none
        | .saturate => some (type.accumulator.clamp (current + value), .saturated)
        | .wrap => some (type.accumulator.convert (current + value), .wrapped) := by
  have low : type.accumulator.minimum = if type.signed then -2 ^ 63 else 0 := rfl
  have high : type.accumulator.maximum = if type.signed then 2 ^ 63 - 1 else 2 ^ 64 - 1 := rfl
  have sign : type.accumulator.signed = type.signed := rfl
  generalize type.accumulator = sum at *
  unfold IntegerType.Holds at here holds
  unfold addSum checkedAdd IntegerType.clamp
  by_cases within : sum.Holds (current + value)
  · rw [if_pos within]
    unfold IntegerType.Holds at within
    cases signed : type.signed with
    | true => rw [sign, signed, if_pos rfl, if_neg (by omega)]
    | false => rw [sign, signed, if_neg nofun, if_pos (by omega)]
  · rw [if_neg within]
    unfold IntegerType.Holds at within
    cases signed : type.signed with
    | true =>
      rw [sign, signed, if_pos rfl, if_pos (by omega)]
      cases overflow with
      | saturate =>
        by_cases negative : value < 0
        · rw [if_pos negative, min_eq_right (by omega), max_eq_left (by omega)]
        · rw [if_neg negative, min_eq_left (by omega), max_eq_right (by omega)]
      | _ => rfl
    | false =>
      rw [signed] at low high
      rw [sign, signed, if_neg nofun, if_neg (by simp at low; omega)]
      cases overflow with
      | saturate => simp only [min_eq_left (show sum.maximum ≤ current + value by simp at low; omega),
          max_eq_right (show sum.minimum ≤ sum.maximum by omega)]
      | _ => rfl

theorem convert_accumulator (number : Int) : type.accumulator.convert number =
    if type.signed then number.bmod (2 ^ 64) else number % (2 ^ 64 : Nat) := rfl

theorem convert_of_holds (holds : type.accumulator.Holds value) :
    type.accumulator.convert value = value := by
  rw [IntegerType.Holds, minimum_accumulator, maximum_accumulator] at holds
  rw [convert_accumulator]
  split_ifs at holds ⊢
  · exact Int.bmod_eq_of_le (by omega) (by omega)
  · exact Int.emod_eq_of_lt holds.1 (by omega)

theorem holds_convert (number : Int) :
    type.accumulator.Holds (type.accumulator.convert number) := by
  rw [IntegerType.Holds, minimum_accumulator, maximum_accumulator, convert_accumulator]
  split_ifs
  · have low : -((2 ^ 64 : Nat) / 2 : Int) ≤ number.bmod (2 ^ 64) := Int.le_bmod (by decide)
    have high : number.bmod (2 ^ 64) < ((2 ^ 64 : Nat) + 1) / 2 := Int.bmod_lt (by decide)
    omega
  · omega

theorem convert_add (first second : Int) :
    type.accumulator.convert (type.accumulator.convert first + second) =
      type.accumulator.convert (first + second) := by
  simp only [convert_accumulator]
  split_ifs
  · exact Int.bmod_add_bmod
  · exact Int.emod_add_emod ..

theorem holds_clamp (number : Int) :
    type.accumulator.Holds (type.accumulator.clamp number) := by
  have ordered : type.accumulator.minimum ≤ type.accumulator.maximum := by
    rw [minimum_accumulator, maximum_accumulator]
    split_ifs <;> decide
  exact ⟨le_max_left .., max_le ordered (min_le_left ..)⟩

end Accumulator

end Solar.Metrics
