/-
This file proves what the reducers over the whole history keep: they are the
functions of the accepted values that their names say, the sum overflows as the
policy says, and a rejected value leaves the instrument as it was. A histogram
counts each value in its own bucket as long as the comparisons with the
boundaries, which are made in a common type, compare the numbers.
-/

import Solar.Library.Prefixes
import Solar.Metrics.Reducers

namespace Solar.Metrics

open List hiding map_eq_map
open Option hiding map map_eq_map

/-! ### What the instruments are for -/

/-- The number is in the bucket: above the boundary before it and not above its own. -/
def Boundaries.inBucket (boundaries : Boundaries) (bucket : Nat) (value : Int) : Bool :=
  (bucket = 0 || boundaries.values[bucket - 1]?.all (· < value)) &&
    boundaries.values[bucket]?.all (value ≤ ·)

namespace Metric

variable (metric : Metric)

section

variable (values : List Int)

/-- The sum of the values, as the policy keeps it. -/
def sumOf : Int :=
  match metric.overflow with
  | .reject => values.sum
  | .wrap => metric.type.accumulator.convert values.sum
  | .saturate => values.foldl (fun sum value => metric.type.accumulator.clamp (sum + value)) 0

/-- No addition of a value to the sum of those before it leaves the range. -/
def Stays : Prop :=
  Prefixes.Each (fun done value => metric.type.accumulator.Holds (metric.sumOf done + value)) values

/-- The instrument is the function of the values that its reducer stands for. The mean of a window
is not one of the whole history. -/
def Reads : (reducer : Reducer) → InstrumentState reducer → Prop
  | .last, (state : PointState) =>
      state = ⟨values.getLast?.getD 0, values.length, !values.isEmpty⟩
  | .minimum, (state : PointState) =>
      state = ⟨values.min?.getD 0, values.length, !values.isEmpty⟩
  | .maximum, (state : PointState) =>
      state = ⟨values.max?.getD 0, values.length, !values.isEmpty⟩
  | .summary, (state : SummaryState) =>
      state = ⟨values.length, metric.sumOf values, values.min?.getD 0, values.max?.getD 0,
        !values.isEmpty⟩
  | .windowMean _ _, _ => True
  | .histogram boundaries, (state : HistogramState) =>
      state.buckets = (range (boundaries.values.length + 1)).map
        (fun bucket => values.countP (boundaries.inBucket bucket)) ∧
      state.buckets.sum = state.count ∧ state.count = values.length ∧
      state.sum = metric.sumOf values

end

/-- The reducer keeps a sum of the whole history. -/
def sums : Bool :=
  match metric.reducer with
  | .summary | .histogram _ => true
  | _ => false

/-- The comparisons that decide the bucket of a value compare the numbers: those with the boundaries
up to the first that is not below the value. -/
def Comparable : Prop :=
  ∀ boundaries, metric.reducer = .histogram boundaries → ∀ value, metric.type.Holds value →
    Prefixes.Each (fun before boundary => (∀ earlier ∈ before, earlier < value) →
      boundaries.exceeded metric.type value boundary = decide (boundary < value)) boundaries.values

end Metric

variable {metric : Metric}

/-- The observations one after another, and the accepted ones of them. -/
def observeAll (slot : SlotState metric) : List Int → SlotState metric × List Int
  | [] => (slot, [])
  | value :: rest =>
      let observed := observeDistribution slot value
      let later := observeAll observed.1 rest
      (later.1, if observed.2.isSome then value :: later.2 else later.2)

/-- The slot is exact for the values that it accepted. -/
structure Exact (values : List Int) (slot : SlotState metric) : Prop where
  instrument : metric.Reads values metric.reducer slot.instrument
  saturated : metric.sums = true →
    (slot.record.saturated = true ↔ metric.overflow = .saturate ∧ ¬ metric.Stays values)
  wrapped : metric.sums = true →
    (slot.record.wrapped = true ↔ metric.overflow = .wrap ∧ ¬ metric.Stays values)

/-! ### The sum -/

variable {values : List Int}

section Sum

variable {value sum : Int} {disposition : Disposition}

/-- The sum is that of the values, and in its range. -/
def Metric.Sums (metric : Metric) (values : List Int) (sum : Int) : Prop :=
  sum = metric.sumOf values ∧ metric.type.accumulator.Holds sum

theorem sums_nil : metric.Sums [] 0 := by
  have zero : metric.type.accumulator.Holds 0 := by
    rw [IntegerType.Holds, minimum_accumulator, maximum_accumulator]
    split_ifs <;> decide
  refine ⟨?_, zero⟩
  unfold Metric.sumOf
  cases metric.overflow with
  | wrap => exact (convert_of_holds zero).symm
  | _ => rfl

theorem sumOf_concat_of_holds (sums : metric.Sums values sum)
    (within : metric.type.accumulator.Holds (sum + value)) :
    metric.Sums (values ++ [value]) (sum + value) := by
  refine ⟨?_, within⟩
  obtain ⟨rfl, -⟩ := sums
  unfold Metric.sumOf at within ⊢
  cases policy : metric.overflow with
  | reject => simp
  | wrap =>
    simp only [policy] at within ⊢
    rw [sum_append, sum_singleton, ← convert_add, convert_of_holds within]
  | saturate =>
    simp only [policy] at within ⊢
    rw [foldl_append, foldl_cons, foldl_nil, IntegerType.clamp,
      min_eq_right within.2, max_eq_right within.1]

/-- An accepted value is added, and the disposition tells whether the sum left the range. -/
theorem sums_addSum (sums : metric.Sums values sum) (holds : metric.type.Holds value) {next : Int}
    (added : addSum metric.type.accumulator metric.overflow sum value = some (next, disposition)) :
    metric.Sums (values ++ [value]) next ∧ (disposition = .saturated ↔ metric.overflow = .saturate ∧
        ¬ metric.type.accumulator.Holds (metric.sumOf values + value)) ∧
      (disposition = .wrapped ↔ metric.overflow = .wrap ∧
        ¬ metric.type.accumulator.Holds (metric.sumOf values + value)) := by
  rw [addSum_eq sums.2 (holds_accumulator holds)] at added
  rw [← sums.1]
  split_ifs at added with within
  · obtain ⟨⟩ := added
    exact ⟨sumOf_concat_of_holds sums within, by simp [within]⟩
  · obtain ⟨rfl, -⟩ := sums
    cases policy : metric.overflow with
    | reject => simp [policy] at added
    | wrap =>
      simp only [policy] at added
      obtain ⟨⟩ := added
      refine ⟨⟨?_, holds_convert _⟩, by simp [within]⟩
      simp [Metric.sumOf, policy, convert_add]
    | saturate =>
      simp only [policy] at added
      obtain ⟨⟩ := added
      refine ⟨⟨?_, holds_clamp _⟩, by simp [within]⟩
      simp [Metric.sumOf, policy, foldl_append]

end Sum

/-! ### Buckets -/

section Buckets

variable {items : List Int} {value : Int}

theorem bucketOf_le {exceeded : Int → Bool} : bucketOf exceeded items ≤ items.length := by
  induction items with
  | nil => exact le_rfl
  | cons item rest ih =>
    rw [bucketOf]
    split
    · exact Nat.succ_le_succ ih
    · exact Nat.zero_le _

/-- Two comparisons lead to one bucket iff they agree up to where the second one ends. -/
theorem bucketOf_eq_iff {first second : Int → Bool} :
    bucketOf first items = bucketOf second items ↔
      Prefixes.Each (fun before item => (∀ earlier ∈ before, second earlier = true) →
        first item = second item) items := by
  induction items with
  | nil => exact iff_of_true rfl .nil
  | cons item rest ih =>
    rw [Prefixes.Each.cons_iff, bucketOf, bucketOf]
    cases one : first item with
    | false =>
      cases other : second item with
      | false =>
        refine iff_of_true rfl ⟨fun _ => rfl, fun _ _ _ _ exceeded => ?_⟩
        exact absurd (exceeded item mem_cons_self) (by simp [other])
      | true => simp
    | true =>
      cases other : second item with
      | false => simp
      | true =>
        simp [Nat.add_right_cancel_iff, ih, other]

/-- In increasing boundaries, the bucket of a number is where the comparisons end. -/
theorem inBucket_eq (ordered : items.Pairwise (· < ·)) {bucket : Nat}
    (bound : bucket ≤ items.length) :
    ((bucket = 0 || items[bucket - 1]?.all (· < value)) && items[bucket]?.all (value ≤ ·)) =
      decide (bucketOf (fun boundary => boundary < value) items = bucket) := by
  induction items generalizing bucket with
  | nil =>
    obtain rfl := Nat.le_zero.mp bound
    rfl
  | cons item rest ih =>
    rw [pairwise_cons] at ordered
    rw [bucketOf]
    match bucket, bound with
    | 0, _ =>
      by_cases below : item < value
      · simp [below]
      · simp [below, Int.not_lt.mp below]
    | 1, bound =>
      have later := ih ordered.2 (Nat.zero_le _)
      by_cases below : item < value
      · simpa [below] using later
      · simp [below]
    | bucket + 2, bound =>
      have inner : bucket + 1 ≤ rest.length := Nat.le_of_succ_le_succ bound
      have later := ih ordered.2 inner
      by_cases below : item < value
      · simpa [below] using later
      · have higher : ¬ rest[bucket] < value := fun less =>
          below ((ordered.1 _ (getElem_mem _)).trans less)
        simp [below, getElem?_eq_getElem (show bucket < rest.length by omega), higher]

theorem sum_modify {counts : List Nat} {bucket : Nat} (bound : bucket < counts.length) :
    (counts.modify bucket (· + 1)).sum = counts.sum + 1 := by
  induction counts generalizing bucket with
  | nil => exact absurd bound (Nat.not_lt_zero _)
  | cons count rest ih =>
    cases bucket with
    | zero => simp; omega
    | succ bucket =>
      rw [modify_succ_cons, sum_cons, sum_cons,
        ih (Nat.lt_of_succ_lt_succ bound), Nat.add_assoc]

theorem buckets_modify {boundaries : Boundaries} :
    ((range (boundaries.values.length + 1)).map
        (fun bucket => values.countP (boundaries.inBucket bucket))).modify
      (bucketOf (fun boundary => boundary < value) boundaries.values) (· + 1) =
      (range (boundaries.values.length + 1)).map
        (fun bucket => (values ++ [value]).countP (boundaries.inBucket bucket)) := by
  refine ext_getElem? fun bucket => ?_
  rw [getElem?_modify, getElem?_map, getElem?_map]
  by_cases bound : bucket < boundaries.values.length + 1
  · have here : boundaries.inBucket bucket value =
        decide (bucketOf (fun boundary => boundary < value) boundaries.values = bucket) :=
      inBucket_eq boundaries.ordered (Nat.le_of_lt_succ bound)
    rw [getElem?_range bound, map_some, map_some, countP_append, countP_singleton, here]
    by_cases same : bucketOf (fun boundary => boundary < value) boundaries.values = bucket <;>
      simp [same]
  · rw [getElem?_eq_none (by simpa using bound)]
    rfl

end Buckets

/-! ### Observations -/

section Observations

variable {value : Int} {slot : SlotState metric}

theorem least_concat (values : List Int) (value : Int) :
    (values ++ [value]).min?.getD 0 =
      if values.isEmpty then value else min (values.min?.getD 0) value := by
  cases values with
  | nil => rfl
  | cons first rest =>
    rw [cons_append, min?_cons', foldl_append]
    rfl

theorem greatest_concat (values : List Int) (value : Int) :
    (values ++ [value]).max?.getD 0 =
      if values.isEmpty then value else max (values.max?.getD 0) value := by
  cases values with
  | nil => rfl
  | cons first rest =>
    rw [cons_append, max?_cons', foldl_append]
    rfl

/-- The sum that the instrument keeps, if it keeps one, is that of the values. -/
def Metric.Bounded (metric : Metric) (values : List Int) : Prop :=
  metric.sums = true → metric.type.accumulator.Holds (metric.sumOf values)

theorem exact_resetState : Exact [] (resetState slot) := by
  refine ⟨?_, fun _ => ?_, fun _ => ?_⟩
  · show metric.Reads [] metric.reducer (initializeInstrument metric.reducer)
    cases metric.reducer with
    | summary => simp [Metric.Reads, initializeInstrument, ← sums_nil.1]
    | windowMean size positive => trivial
    | histogram boundaries =>
      refine ⟨?_, ?_, rfl, sums_nil.1⟩
      · simp [initializeInstrument, map_const']
      · simp [initializeInstrument]
    | _ => rfl
  · simp [resetState, Metric.Stays, Prefixes.Each.nil]
  · simp [resetState, Metric.Stays, Prefixes.Each.nil]

/-- An accepted observation, by what it makes of the instrument. -/
theorem reads_prepare (comparable : metric.Comparable) (bounded : metric.Bounded values)
    (holds : metric.type.Holds value) {state next : InstrumentState metric.reducer}
    {disposition : Disposition} (reads : metric.Reads values metric.reducer state)
    (prepared : prepare metric.type metric.overflow metric.reducer state value =
      some (next, disposition)) :
    metric.Reads (values ++ [value]) metric.reducer next ∧
      (metric.sums = true → metric.Sums (values ++ [value]) (metric.sumOf (values ++ [value])) ∧
        (disposition = .saturated ↔ metric.overflow = .saturate ∧
          ¬ metric.type.accumulator.Holds (metric.sumOf values + value)) ∧
        (disposition = .wrapped ↔ metric.overflow = .wrap ∧
          ¬ metric.type.accumulator.Holds (metric.sumOf values + value))) := by
  obtain ⟨type, overflow, reducer⟩ := metric
  cases reducer with
  | last =>
    obtain rfl : state = _ := reads
    obtain ⟨rfl, -⟩ := Prod.mk.inj (some.inj prepared)
    exact ⟨by simp [Metric.Reads], nofun⟩
  | minimum =>
    obtain rfl : state = _ := reads
    obtain ⟨rfl, -⟩ := Prod.mk.inj (some.inj prepared)
    refine ⟨?_, nofun⟩
    rw [Metric.Reads, least_concat]
    cases empty : values.isEmpty with
    | true => simp
    | false =>
      by_cases less : value < values.min?.getD 0
      · simp [less, min_eq_right less.le]
      · simp [less, min_eq_left (Int.not_lt.mp less)]
  | maximum =>
    obtain rfl : state = _ := reads
    obtain ⟨rfl, -⟩ := Prod.mk.inj (some.inj prepared)
    refine ⟨?_, nofun⟩
    rw [Metric.Reads, greatest_concat]
    cases empty : values.isEmpty with
    | true => simp
    | false =>
      by_cases more : values.max?.getD 0 < value
      · simp [more, max_eq_right more.le]
      · simp [more, max_eq_left (Int.not_lt.mp more)]
  | summary =>
    obtain rfl : state = _ := reads
    obtain ⟨⟨sum, left⟩, added, same⟩ := map_eq_some_iff.mp prepared
    obtain ⟨⟩ := same
    obtain ⟨⟨rfl, within⟩, disposed⟩ := sums_addSum ⟨rfl, bounded rfl⟩ holds added
    refine ⟨?_, fun _ => ⟨⟨rfl, within⟩, disposed⟩⟩
    rw [Metric.Reads, least_concat, greatest_concat]
    cases empty : values.isEmpty with
    | true | false => simp
  | windowMean size positive => exact ⟨trivial, nofun⟩
  | histogram boundaries =>
    obtain ⟨stored, total, count, sumSame⟩ := reads
    obtain ⟨⟨sum, left⟩, added, same⟩ := map_eq_some_iff.mp prepared
    obtain ⟨⟩ := same
    rw [show HistogramState.sum state = _ from sumSame] at added
    obtain ⟨⟨rfl, within⟩, disposed⟩ := sums_addSum ⟨rfl, bounded rfl⟩ holds added
    have bucket : bucketOf (boundaries.exceeded type value) boundaries.values =
        bucketOf (fun boundary => boundary < value) boundaries.values := by
      refine bucketOf_eq_iff.mpr fun before boundary after split below => ?_
      exact comparable boundaries rfl value holds before boundary after split
        fun earlier listed => of_decide_eq_true (below earlier listed)
    refine ⟨⟨?_, ?_, ?_, rfl⟩, fun _ => ⟨⟨rfl, within⟩, disposed⟩⟩
    · show modify _ _ _ = _
      rw [bucket, stored]
      exact buckets_modify
    · show (modify _ _ _).sum = _
      rw [sum_modify, total]
      rw [stored, length_map, length_range, bucket]
      exact Nat.lt_succ_of_le bucketOf_le
    · show HistogramState.count state + 1 = _
      rw [count, length_append, length_singleton]

theorem exact_observeDistribution (comparable : metric.Comparable)
    (bounded : metric.Bounded values) (holds : metric.type.Holds value)
    (exact : Exact values slot) {accepted : List Int}
    (after : accepted = if (observeDistribution slot value).2.isSome then values ++ [value]
      else values) :
    Exact accepted (observeDistribution slot value).1 ∧ metric.Bounded accepted := by
  subst after
  unfold observeDistribution
  cases prepared : prepare metric.type metric.overflow metric.reducer slot.instrument value with
  | none => exact ⟨⟨exact.instrument, exact.saturated, exact.wrapped⟩, bounded⟩
  | some result =>
    obtain ⟨reads, sums⟩ := reads_prepare comparable bounded holds exact.instrument prepared
    refine ⟨⟨reads, fun keeps => ?_, fun keeps => ?_⟩, fun keeps => (sums keeps).1.2⟩
    · obtain ⟨-, left, -⟩ := sums keeps
      simp only [isSome_some, if_true, Metric.Stays, Prefixes.Each.concat_iff,
        Bool.or_eq_true, exact.saturated keeps, decide_eq_true_eq, left]
      tauto
    · obtain ⟨-, -, left⟩ := sums keeps
      simp only [isSome_some, if_true, Metric.Stays, Prefixes.Each.concat_iff,
        Bool.or_eq_true, exact.wrapped keeps, decide_eq_true_eq, left]
      tauto

theorem exact_observeAll (comparable : metric.Comparable) (bounded : metric.Bounded values)
    (exact : Exact values slot) {later : List Int} (holds : ∀ value ∈ later, metric.type.Holds value) :
    Exact (values ++ (observeAll slot later).2) (observeAll slot later).1 := by
  induction later generalizing slot values with
  | nil => simpa [observeAll] using exact
  | cons value rest ih =>
    rw [forall_mem_cons] at holds
    obtain ⟨next, still⟩ := exact_observeDistribution comparable bounded holds.1 exact rfl
    have ended := ih still next holds.2
    rw [observeAll]
    split_ifs at ended ⊢ with accepted
    · rwa [append_assoc, singleton_append] at ended
    · exact ended

/-- The bucket that one value is counted in shows whether its comparisons are exact. -/
theorem comparable_of_exact (slot : SlotState metric)
    (exact : ∀ value, metric.type.Holds value →
      Exact (observeAll (resetState slot) [value]).2 (observeAll (resetState slot) [value]).1) :
    metric.Comparable := by
  obtain ⟨type, overflow, reducer⟩ := metric
  rintro boundaries rfl value holds
  have zero : type.accumulator.Holds 0 :=
    (sums_nil : Metric.Sums ⟨type, overflow, .last⟩ [] 0).2
  have added : addSum type.accumulator overflow 0 value = some (value, .updated) := by
    rw [addSum_eq zero (holds_accumulator holds), Int.zero_add, if_pos (holds_accumulator holds)]
  have prepared : prepare type overflow (.histogram boundaries)
      (initializeInstrument (.histogram boundaries)) value = some ((⟨(replicate
        (boundaries.values.length + 1) 0).modify
          (bucketOf (boundaries.exceeded type value) boundaries.values) (· + 1), 1, value⟩ :
        HistogramState), .updated) := by
    show (addSum type.accumulator overflow 0 value).map _ = _
    rw [added]
    rfl
  have counted := (exact value holds).instrument
  simp only [observeAll, observeDistribution, resetState, prepared, isSome_some, if_true] at counted
  -- The count that was increased is that of the bucket the number is in.
  have here := congrArg (·[bucketOf (boundaries.exceeded type value) boundaries.values]?) counted.1
  have bound : bucketOf (boundaries.exceeded type value) boundaries.values <
      boundaries.values.length + 1 := Nat.lt_succ_of_le bucketOf_le
  have inside := @inBucket_eq _ value boundaries.ordered _ (Nat.le_of_lt_succ bound)
  simp only [getElem?_modify_eq, getElem?_replicate, getElem?_map,
    getElem?_range, bound, if_true, map_some, countP_singleton,
    Boundaries.inBucket, inside] at here
  refine fun before boundary after split below => ?_
  have same : bucketOf (boundaries.exceeded type value) boundaries.values =
      bucketOf (fun boundary => boundary < value) boundaries.values := by
    by_contra different
    simp [Ne.symm different] at here
  exact bucketOf_eq_iff.mp same before boundary after split
    fun earlier listed => decide_eq_true (below earlier listed)

end Observations

/-! ### The whole history -/

theorem reducers_follow_their_history (metric : Metric) :
    (∀ (slot : SlotState metric) (values : List Int), (∀ value ∈ values, metric.type.Holds value) →
      Exact (observeAll (resetState slot) values).2 (observeAll (resetState slot) values).1 ∧
        ∀ value, (observeDistribution (observeAll (resetState slot) values).1 value).2 = none →
          (observeDistribution (observeAll (resetState slot) values).1 value).1.instrument =
            (observeAll (resetState slot) values).1.instrument) ↔
      metric.Comparable := by
  refine ⟨fun follows => ?_, fun comparable slot values holds => ⟨?_, fun value rejected => ?_⟩⟩
  · refine comparable_of_exact ⟨initializeInstrument metric.reducer, {}⟩ fun value holds => ?_
    exact (follows _ [value] (forall_mem_singleton.mpr holds)).1
  · have bounded : metric.Bounded [] := fun _ => sums_nil.1 ▸ (sums_nil : metric.Sums [] 0).2
    exact exact_observeAll comparable bounded exact_resetState holds
  · unfold observeDistribution at rejected ⊢
    split at rejected
    · rfl
    · cases rejected

theorem int_bits_le : 32 ≤ 64 := by decide

/-- A signed metric whose boundaries, `10U` and `20U`, are unsigned. -/
def mixedLevels : Metric where
  type := ⟨true, 32, int_bits_le⟩
  overflow := .saturate
  reducer := .histogram ⟨⟨false, 32, int_bits_le⟩, [10, 20], by decide, by decide⟩

theorem negative_value_in_the_last_bucket :
    mixedLevels.type.Holds (-1) ∧
      (observeAll (resetState ⟨initializeInstrument mixedLevels.reducer, {}⟩) [-1]).2 = [-1] ∧
      ¬ mixedLevels.Reads [-1] mixedLevels.reducer
        (observeAll (resetState ⟨initializeInstrument mixedLevels.reducer, {}⟩) [-1]).1.instrument := by
  refine ⟨by decide, by decide, fun reads => ?_⟩
  have buckets : ([0, 0, 1] : List Nat) = [1, 0, 0] := reads.1
  exact absurd buckets (by decide)

end Solar.Metrics
