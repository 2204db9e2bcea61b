/-
This file is about conditions. A processed record raises the condition of its event for
its source and lowers that of the event it resolves. An event finds the entry of a source
by going through its table, where a source that is new takes the first entry that is
free. The table is made for the components that the user registers, but any component of
the system can be a source, the builtin facilities and the generated services as well.
-/

import Solar.Events.Capture
import Solar.Library.Pool

namespace Solar.Events

open Option Function Pool List

/-! ### Tables -/

/-- The owner of a declaration, in a system with this many components: those of the user, the
builtin facilities and the generated services. A builtin owner is the facility that declares. -/
inductive Owner (components : Nat)
  | application
  | builtin (index : Fin components)
  | component (index : Fin components)

/-- `source_from_owner`. The source of `observe_from` is that of a component. -/
def sourceFromOwner {components : Nat} : Owner components → Nat
  | .application => 0
  | .component index => 2 * index + 1
  | .builtin index => 2 * index + 2

structure ConditionRecord where
  event : Nat
  source : Nat
  consecutive : Nat := 0
  lastSequence : Nat := 0
  lastTimestamp : Int := 0
  active : Bool := false

/-- A record of the source resolves the event. -/
def ConditionRecord.lower (source : Nat) (condition : ConditionRecord) : ConditionRecord :=
  if condition.source = source then { condition with active := false, consecutive := 0 }
  else condition

/-- What an event keeps of its conditions: its table is a `ConditionTable` for the components of the
events' architecture, which are the user's. An entry that is not occupied is `none`. -/
structure EventConditions (userComponents : Nat) where
  entries : Pool (Option ConditionRecord) (userComponents + 2) := .fill _ none
  consecutive : Nat := 0
  conditionActive : Bool := false

variable {Payload : Type} {userComponents : Nat}

namespace EventConditions

variable (state : EventConditions userComponents)

/-- `condition_record`. -/
def find (source : Nat) : Option (Nat × Option ConditionRecord) :=
  state.entries.find? fun entry => entry.any (·.source = source)

/-- A record of the event has been processed. The count is of 32 bits. -/
def raise (stored : StoredRecord Payload) : EventConditions userComponents :=
  match state.find stored.source <|> state.entries.find? isNone with
  | none => state
  | some (index, entry) =>
      let consecutive := ((entry.map (·.consecutive)).getD 0 + 1) % 2 ^ 32
      let condition : ConditionRecord :=
        { event := stored.event
          source := stored.source
          consecutive
          lastSequence := stored.sequence
          lastTimestamp := stored.timestamp
          active := true }
      { entries := state.entries.put index (some condition), consecutive, conditionActive := true }

/-- A record that resolves the event has been processed. -/
def resolve (source : Nat) : EventConditions userComponents :=
  let entries := state.entries.map (·.map (ConditionRecord.lower source))
  let conditionActive := entries.slots.any (·.any (·.active))
  { entries, conditionActive, consecutive := if conditionActive then state.consecutive else 0 }

end EventConditions

open EventConditions

/-- The last locked section of `process_record_for`: what it leaves of each event. -/
def processConditions (resolves : Nat → Option Nat)
    (conditions : Nat → EventConditions userComponents) (stored : StoredRecord Payload)
    (event : Nat) : EventConditions userComponents :=
  let own := conditions event
  let raised := if stored.event = event then own.raise stored else own
  if resolves stored.event = some event then raised.resolve stored.source else raised

def conditionRecord (conditions : Nat → EventConditions userComponents) (event source : Nat) :
    Option ConditionRecord := ((conditions event).find source).bind (·.2)

/-! ### What the records say -/

variable {event : Nat} {resolves : Nat → Option Nat} {count : Nat → Nat} {seen : Nat → Prop}
  {known : Finset Nat}
  {state : EventConditions userComponents} {stored : StoredRecord Payload}

/-- The records since the last one of a source that resolves an event, the newest first. -/
def sinceResolved (resolves : Nat → Option Nat) (event source : Nat)
    (records : List (StoredRecord Payload)) : List (StoredRecord Payload) :=
  records.reverse.takeWhile fun record =>
    ¬ (record.source = source ∧ resolves record.event = some event)

/-- The records of an event from a source since it was last resolved there. -/
def occurrencesSince (resolves : Nat → Option Nat) (event : Nat)
    (records : List (StoredRecord Payload)) (source : Nat) : Nat :=
  (sinceResolved resolves event source records).countP fun record =>
    record.event = event ∧ record.source = source

theorem occurrencesSince_append (records : List (StoredRecord Payload)) (source : Nat) :
    occurrencesSince resolves event (records ++ [stored]) source =
      if stored.source = source ∧ resolves stored.event = some event then 0
      else occurrencesSince resolves event records source +
        if stored.event = event ∧ stored.source = source then 1 else 0 := by
  unfold occurrencesSince sinceResolved
  rw [reverse_append, reverse_singleton, singleton_append, takeWhile_cons]
  split
  · rename_i going
    rw [if_neg (of_decide_eq_true going), countP_cons]
    simp
  · rename_i ends
    rw [if_pos (by simpa using ends), countP_nil]

/-- A table has one entry for each source that has been seen, which counts its records; the sources
are among those that are known. -/
structure Counts (known : Finset Nat) (event : Nat) (state : EventConditions userComponents)
    (count : Nat → Nat) (seen : Nat → Prop) : Prop where
  unique : ∀ {first second condition other},
    state.entries.get? first = some (some condition) →
    state.entries.get? second = some (some other) → condition.source = other.source →
    first = second
  counted : ∀ {index condition}, state.entries.get? index = some (some condition) →
    condition.event = event ∧ condition.source ∈ known ∧
      condition.consecutive = count condition.source % 2 ^ 32 ∧
      (condition.active = true ↔ 0 < count condition.source)
  present : ∀ source, (∃ index condition, state.entries.get? index = some (some condition) ∧
    condition.source = source) ∨ ¬ seen source ∧ count source = 0
  active : state.conditionActive = true ↔ ∃ index condition,
    state.entries.get? index = some (some condition) ∧ condition.active = true

section

variable (counts : Counts known event state count seen)

include counts

/-- The entries are not all taken by other sources if no more are known than there are entries. -/
theorem Counts.exists_free (room : known.card ≤ userComponents + 2) {source : Nat}
    (bound : source ∈ known)
    (new : ∀ index condition, state.entries.get? index = some (some condition) →
      condition.source ≠ source) : ∃ index, state.entries.get? index = some none := by
  by_contra full
  have taken (index : Fin (userComponents + 2)) :
      ∃ condition, state.entries.get? index = some (some condition) := by
    have within : index.val < state.entries.slots.length :=
      state.entries.length_slots.symm ▸ index.2
    cases here : state.entries.slots[index.val] with
    | none => exact absurd ⟨index, here ▸ getElem?_eq_getElem within⟩ full
    | some condition => exact ⟨condition, here ▸ getElem?_eq_getElem within⟩
  choose condition listed using taken
  have injective : Injective fun index =>
      (⟨(condition index).source, (counts.counted (listed index)).2.1⟩ : known) :=
    fun first second same =>
      Fin.ext (counts.unique (listed first) (listed second) (congrArg Subtype.val same))
  obtain ⟨index, same⟩ := (injective.bijective_of_nat_card_le
    (by rwa [Nat.card_eq_finsetCard, Nat.card_eq_fintype_card, Fintype.card_fin])).2 ⟨source, bound⟩
  exact new index _ (listed index) (congrArg Subtype.val same)

/-- A source finds the entry it has, or else a free one. -/
theorem Counts.select (room : known.card ≤ userComponents + 2) {source : Nat}
    (bound : source ∈ known) :
    ∃ index entry, (state.find source <|> state.entries.find? isNone) = some (index, entry) ∧
      state.entries.get? index = some entry ∧
      (entry.map (·.consecutive)).getD 0 = count source % 2 ^ 32 ∧
      (∀ condition ∈ entry, condition.source = source) ∧
      ∀ other condition, state.entries.get? other = some (some condition) →
        condition.source = source → other = index := by
  cases own : state.find source with
  | some found =>
    obtain ⟨index, entry⟩ := found
    obtain ⟨listed, mine, _⟩ := find?_eq_some_iff.mp own
    obtain ⟨condition, rfl, same⟩ := (any_eq_true _ _).mp mine
    have same := of_decide_eq_true same
    refine ⟨index, some condition, rfl, listed, ?_, ?_, fun other found there is => ?_⟩
    · exact same ▸ (counts.counted listed).2.2.1
    · rintro _ ⟨⟩
      exact same
    · exact counts.unique there listed (is.trans same.symm)
  | none =>
    have new (index : Nat) (condition : ConditionRecord)
        (listed : state.entries.get? index = some (some condition)) : condition.source ≠ source :=
      of_decide_eq_false (find?_eq_none_iff.mp own index _ listed)
    cases free : state.entries.find? isNone with
    | none =>
      obtain ⟨index, listed⟩ := counts.exists_free room bound new
      exact nomatch find?_eq_none_iff.mp free index none listed
    | some found =>
      obtain ⟨index, entry⟩ := found
      obtain ⟨listed, isFree, _⟩ := find?_eq_some_iff.mp free
      obtain rfl := isNone_iff_eq_none.mp isFree
      refine ⟨index, none, rfl, listed, ?_, nofun,
        fun other condition there same => absurd same (new other condition there)⟩
      obtain ⟨_, _, there, same⟩ | ⟨_, none⟩ := counts.present source
      · exact absurd same (new _ _ there)
      · rw [none]
        rfl

/-- A source that raises the condition is counted, in an entry of its own or a free one. -/
theorem Counts.raise (room : known.card ≤ userComponents + 2) (mine : stored.event = event)
    (bound : stored.source ∈ known) :
    Counts known event (state.raise stored)
      (update count stored.source (count stored.source + 1))
      fun source => stored.source = source ∨ seen source := by
  obtain ⟨index, entry, selected, listed, consecutive, same, only⟩ := counts.select room bound
  unfold EventConditions.raise
  rw [selected]
  dsimp only
  rw [consecutive, Nat.mod_add_mod]
  have kept {place : Nat} {condition : ConditionRecord} (differ : place ≠ index)
      (there : state.entries.get? place = some (some condition)) :
      condition.source ≠ stored.source := fun same => differ (only place condition there same)
  refine ⟨fun first second is => ?_, fun {place condition} there => ?_, fun source => ?_,
    iff_of_true rfl ⟨index, _, get?_put_self _ (get?_lt listed), rfl⟩⟩
  · obtain ⟨rfl, here⟩ | ⟨differ, there⟩ := get?_put first <;>
      obtain ⟨rfl, other⟩ | ⟨others, that⟩ := get?_put second
    · rfl
    · cases here
      exact absurd is.symm (kept others that)
    · cases other
      exact absurd is (kept differ there)
    · exact counts.unique there that is
  · obtain ⟨rfl, ⟨⟩⟩ | ⟨differ, there⟩ := get?_put there
    · rw [update_self]
      exact ⟨mine, bound, rfl, iff_of_true rfl (Nat.succ_pos _)⟩
    · rw [update_of_ne (kept differ there)]
      exact counts.counted there
  · by_cases own : source = stored.source
    · exact .inl ⟨index, _, get?_put_self _ (get?_lt listed), own.symm⟩
    · rw [update_of_ne own]
      refine (counts.present source).imp (fun ⟨place, condition, there, is⟩ => ?_)
        fun ⟨unseen, zero⟩ => ⟨not_or.mpr ⟨Ne.symm own, unseen⟩, zero⟩
      refine ⟨place, condition, (get?_put_of_ne fun here => ?_).trans there, is⟩
      subst here
      exact own (is ▸ same condition (some.inj (listed.symm.trans there)))

/-- A source that resolves the condition is back at zero. -/
theorem Counts.resolve (source : Nat) :
    Counts known event (state.resolve source) (update count source 0) seen := by
  have entry (index : Nat) : (state.resolve source).entries.get? index =
      (state.entries.get? index).map (·.map (ConditionRecord.lower source)) := getElem?_map
  have lowered {index : Nat} {condition : ConditionRecord}
      (there : (state.resolve source).entries.get? index = some (some condition)) :
      ∃ before, state.entries.get? index = some (some before) ∧
        condition = before.lower source := by
    obtain ⟨found, listed, is⟩ := map_eq_some_iff.mp ((entry index).symm.trans there)
    obtain ⟨before, rfl, is⟩ := map_eq_some_iff.mp is
    exact ⟨before, listed, (some.inj is).symm⟩
  have keeps (condition : ConditionRecord) :
      (condition.lower source).source = condition.source ∧
        (condition.lower source).event = condition.event := by
    unfold ConditionRecord.lower
    split <;> exact ⟨rfl, rfl⟩
  refine ⟨fun first second is => ?_, fun there => ?_, fun other => ?_, ?_⟩
  · obtain ⟨_, here, rfl⟩ := lowered first
    obtain ⟨_, that, rfl⟩ := lowered second
    rw [(keeps _).1, (keeps _).1] at is
    exact counts.unique here that is
  · obtain ⟨before, listed, rfl⟩ := lowered there
    obtain ⟨mine, bound, rest⟩ := counts.counted listed
    rw [(keeps before).1, (keeps before).2]
    refine ⟨mine, bound, ?_⟩
    unfold ConditionRecord.lower
    split
    · rename_i own
      rw [own, update_self]
      exact ⟨rfl, iff_of_false Bool.false_ne_true (Nat.lt_irrefl 0)⟩
    · rename_i differ
      rw [update_of_ne differ]
      exact rest
  · refine (counts.present other).imp (fun ⟨index, condition, listed, is⟩ => ?_)
      fun ⟨unseen, zero⟩ => ⟨unseen, ?_⟩
    · have there := (entry index).trans (congrArg _ listed)
      exact ⟨index, condition.lower source, there, (keeps condition).1.trans is⟩
    · rw [update_apply]
      split
      · rfl
      · exact zero
  · refine any_eq_true.trans ⟨?_, ?_⟩
    · rintro ⟨slot, member, active⟩
      obtain ⟨index, listed⟩ := mem_slots_iff.mp member
      obtain ⟨condition, rfl, active⟩ := (any_eq_true _ _).mp active
      exact ⟨index, condition, listed, active⟩
    · rintro ⟨index, condition, listed, active⟩
      exact ⟨some condition, mem_slots_iff.mpr ⟨index, listed⟩, active⟩

theorem Counts.of_eq {other : Nat → Nat} {sees : Nat → Prop}
    (same : ∀ source, other source = count source) (old : ∀ source, sees source → seen source) :
    Counts known event state other sees where
  unique := counts.unique
  counted {_ condition} listed := (same condition.source).symm ▸ counts.counted listed
  present source := (counts.present source).imp_right fun ⟨unseen, zero⟩ =>
    ⟨fun seen => unseen (old source seen), (same source).trans zero⟩
  active := counts.active

/-- What is found for a source is its entry. -/
theorem Counts.find (conditions : Nat → EventConditions userComponents)
    (same : conditions event = state) (source : Nat) :
    (∃ index condition, state.entries.get? index = some (some condition) ∧
      condition.source = source ∧ conditionRecord conditions event source = some condition) ∨
    ¬ seen source ∧ count source = 0 ∧ conditionRecord conditions event source = none := by
  subst same
  unfold conditionRecord
  cases own : (conditions event).find source with
  | some found =>
    obtain ⟨listed, mine, _⟩ := find?_eq_some_iff.mp own
    obtain ⟨condition, isCondition, same⟩ := (any_eq_true _ _).mp mine
    exact .inl ⟨found.1, condition, isCondition ▸ listed, of_decide_eq_true same, isCondition⟩
  | none =>
    obtain ⟨index, condition, listed, same⟩ | ⟨unseen, none⟩ := counts.present source
    · exact absurd same (of_decide_eq_false (find?_eq_none_iff.mp own index _ listed))
    · exact .inr ⟨unseen, none, rfl⟩

end

/-! ### Runs -/

/-- The sources from which an event has been processed. -/
def Observed (event : Nat) (records : List (StoredRecord Payload)) (source : Nat) : Prop :=
  ∃ record ∈ records, record.event = event ∧ record.source = source

variable {records : List (StoredRecord Payload)}

/-- A processed record counts for the condition of its event as the history says. -/
theorem Counts.process {conditions : Nat → EventConditions userComponents}
    (room : known.card ≤ userComponents + 2)
    (counts : Counts known event (conditions event) (occurrencesSince resolves event records)
      (Observed event records)) (bound : stored.event = event → stored.source ∈ known) :
    Counts known event (processConditions resolves conditions stored event)
      (occurrencesSince resolves event (records ++ [stored]))
      (Observed event (records ++ [stored])) := by
  have observed (source : Nat) (observed : Observed event (records ++ [stored]) source) :
      Observed event records source ∨ stored.event = event ∧ stored.source = source := by
    obtain ⟨record, member, is⟩ := observed
    obtain old | new := mem_append.mp member
    · exact .inl ⟨record, old, is⟩
    · exact .inr (mem_singleton.mp new ▸ is)
  have raised : Counts known event
      (if stored.event = event then (conditions event).raise stored else conditions event)
      (fun source => occurrencesSince resolves event records source +
        if stored.event = event ∧ stored.source = source then 1 else 0)
      (Observed event (records ++ [stored])) := by
    split
    · rename_i mine
      refine (counts.raise room mine (bound mine)).of_eq (fun source => ?_)
        fun source seen => (observed source seen).symm.imp_left And.right
      rw [update_apply]
      split
      · rename_i own
        rw [own.2, if_pos rfl]
      · rename_i other
        rw [if_neg fun same => other ⟨mine, same.symm⟩, Nat.add_zero]
    · rename_i other
      refine counts.of_eq (fun source => ?_)
        fun source seen => (observed source seen).resolve_right fun both => other both.1
      rw [if_neg fun both => other both.1, Nat.add_zero]
  unfold processConditions
  dsimp only
  split
  · rename_i resolved
    refine (raised.resolve stored.source).of_eq (fun source => ?_) fun _ => id
    rw [occurrencesSince_append, update_apply]
    by_cases own : source = stored.source
    · rw [if_pos own, if_pos ⟨own.symm, resolved⟩]
    · rw [if_neg own, if_neg fun both => own both.1.symm]
  · rename_i unresolved
    refine raised.of_eq (fun source => ?_) fun _ => id
    rw [occurrencesSince_append, if_neg fun both => unresolved both.2]

/-- The tables after a sequence of records. -/
def processAll (userComponents : Nat) (resolves : Nat → Option Nat)
    (records : List (StoredRecord Payload)) : Nat → EventConditions userComponents :=
  records.foldl (processConditions resolves) fun _ => {}

theorem get?_empty {index : Nat} {condition : ConditionRecord} :
    ({} : EventConditions userComponents).entries.get? index ≠ some (some condition) :=
  fun listed => nomatch eq_of_get?_fill listed

theorem counts_processAll (room : known.card ≤ userComponents + 2) (resolves : Nat → Option Nat)
    (records : List (StoredRecord Payload))
    (bound : ∀ record ∈ records, record.event = event → record.source ∈ known) :
    Counts known event (processAll userComponents resolves records event)
      (occurrencesSince resolves event records) (Observed event records) := by
  induction records using reverseRecOn with
  | nil =>
    exact ⟨fun listed => absurd listed get?_empty, fun listed => absurd listed get?_empty,
      fun _ => .inr ⟨nofun, rfl⟩,
      iff_of_false Bool.false_ne_true fun ⟨_, _, listed, _⟩ => get?_empty listed⟩
  | append_singleton records stored ih =>
    unfold processAll
    rw [foldl_append]
    exact (ih fun record member => bound record (mem_append_left _ member)).process room
      (bound stored (mem_append_right _ (mem_singleton_self _)))

/-- The sources from which an event has been processed, each once. -/
def sources (event : Nat) (records : List (StoredRecord Payload)) : Finset Nat :=
  ((records.filter fun record => record.event = event).map (·.source)).toFinset

theorem mem_sources {source : Nat} :
    source ∈ sources event records ↔ Observed event records source := by
  simp [sources, Observed, and_assoc]

/-- Each source of the event has an entry, whose condition is active if and only if there is a
record since the last one that resolves it, and counts those; the event is active if and only if a
source is. -/
structure FollowsRecords (resolves : Nat → Option Nat) (records : List (StoredRecord Payload))
    (event : Nat) (conditions : Nat → EventConditions userComponents) : Prop where
  active : ∀ source, (conditionRecord conditions event source).any (·.active) = true ↔
    ∃ record ∈ sinceResolved resolves event source records,
      record.event = event ∧ record.source = source
  counted : ∀ source, ∀ condition ∈ conditionRecord conditions event source,
    condition.event = event ∧ condition.source = source ∧
      condition.consecutive = occurrencesSince resolves event records source
  tracked : ∀ source, Observed event records source →
    (conditionRecord conditions event source).isSome = true
  anyActive : (conditions event).conditionActive = true ↔
    ∃ source, (conditionRecord conditions event source).any (·.active) = true

/-- The sources that have an entry are no more than there are entries. -/
theorem FollowsRecords.card_le {conditions : Nat → EventConditions userComponents}
    (follows : FollowsRecords resolves records event conditions) :
    (sources event records).card ≤ userComponents + 2 := by
  have listed : sources event records ⊆
      ((conditions event).entries.slots.filterMap (·.map (·.source))).toFinset := by
    intro source member
    obtain ⟨condition, is⟩ := isSome_iff_exists.mp (follows.tracked source (mem_sources.mp member))
    obtain ⟨⟨index, entry⟩, found, rfl⟩ := bind_eq_some_iff.mp is
    obtain ⟨there, _, _⟩ := find?_eq_some_iff.mp found
    rw [List.mem_toFinset, mem_filterMap]
    exact ⟨_, mem_slots_iff.mpr ⟨index, there⟩,
      congrArg some (follows.counted source condition is).2.1⟩
  calc (sources event records).card
      ≤ _ := Finset.card_le_card listed
    _ ≤ _ := List.toFinset_card_le _
    _ ≤ (conditions event).entries.slots.length := length_filterMap_le _ _
    _ = userComponents + 2 := (conditions event).entries.length_slots

/-- The conditions of an event follow its records if and only if these come from no more sources
than its table has entries, and fewer than 2 ^ 32 of them from a source since the last one that
resolves it there. -/
theorem conditions_follow_records (userComponents : Nat) (resolves : Nat → Option Nat)
    (records : List (StoredRecord Payload)) (event : Nat) :
    FollowsRecords resolves records event (processAll userComponents resolves records) ↔
      (sources event records).card ≤ userComponents + 2 ∧
      ∀ source, occurrencesSince resolves event records source < 2 ^ 32 := by
  have counts (room : (sources event records).card ≤ userComponents + 2) :=
    counts_processAll room resolves records
      fun record member mine => mem_sources.mpr ⟨record, member, mine, rfl⟩
  constructor
  · intro follows
    have counts := counts follows.card_le
    refine ⟨follows.card_le, fun source => ?_⟩
    obtain ⟨index, condition, listed, rfl, is⟩ | ⟨_, zero, _⟩ := counts.find _ rfl source
    · rw [← (follows.counted _ condition is).2.2, (counts.counted listed).2.2.1]
      exact Nat.mod_lt _ (Nat.two_pow_pos 32)
    · rw [zero]
      exact Nat.two_pow_pos 32
  · rintro ⟨room, few⟩
    have counts := counts room
    have found := counts.find (processAll userComponents resolves records) rfl
    have occurs (source : Nat) : 0 < occurrencesSince resolves event records source ↔
        ∃ record ∈ sinceResolved resolves event source records,
          record.event = event ∧ record.source = source :=
      countP_pos_iff.trans (exists_congr fun _ => and_congr_right' decide_eq_true_iff)
    refine ⟨fun source => ?_, fun source condition mine => ?_, fun source seen => ?_,
      counts.active.trans ⟨?_, ?_⟩⟩
    · rw [← occurs source]
      obtain ⟨index, condition, listed, rfl, is⟩ | ⟨_, zero, is⟩ := found source <;> rw [is]
      · exact (counts.counted listed).2.2.2
      · rw [zero]
        exact iff_of_false Bool.false_ne_true (Nat.lt_irrefl 0)
    · obtain ⟨index, other, listed, rfl, is⟩ | ⟨_, _, is⟩ := found source
      · obtain rfl := some.inj (is.symm.trans mine)
        obtain ⟨own, _, consecutive, _⟩ := counts.counted listed
        exact ⟨own, rfl, consecutive.trans (Nat.mod_eq_of_lt (few _))⟩
      · exact ((Option.not_mem_none _).elim (is ▸ mine))
    · obtain ⟨_, _, _, _, is⟩ | ⟨unseen, _, _⟩ := found source
      · exact isSome_of_eq_some is
      · exact absurd seen unseen
    · rintro ⟨index, condition, listed, active⟩
      refine ⟨condition.source, ?_⟩
      obtain ⟨place, other, there, same, is⟩ | ⟨_, zero, _⟩ := found condition.source
      · rw [is]
        exact (counts.counted there).2.2.2.mpr (same ▸ (counts.counted listed).2.2.2.mp active)
      · exact absurd ((counts.counted listed).2.2.2.mp active) (zero ▸ Nat.lt_irrefl 0)
    · rintro ⟨source, active⟩
      obtain ⟨index, condition, listed, _, is⟩ | ⟨_, _, is⟩ := found source <;> rw [is] at active
      · exact ⟨index, condition, listed, active⟩
      · exact absurd active Bool.false_ne_true

/-- A record of an event. -/
abbrev fault {components : Nat} (event : Nat) (owner : Owner components) : StoredRecord Unit where
  event
  source := sourceFromOwner owner
  timestamp := 0
  isr := false
  correlation := 0
  logIntent := .default
  lostBefore := 0
  flags := {}
  payload := ()

/-- With no component of the user there are two entries. An event of the application that two
facilities observe as well has none for the second of them. -/
theorem third_source_is_not_tracked :
    let records := [fault 0 (.application : Owner 2), fault 0 (.component (0 : Fin 2)),
      fault 0 (.component (1 : Fin 2))]
    let conditions := processAll 0 (fun _ => none) records
    ¬ FollowsRecords (fun _ => none) records 0 conditions ∧
      conditionRecord conditions 0 (sourceFromOwner (.component (1 : Fin 2))) = none ∧
      ∀ owner ∈ [(.application : Owner 2), .component 0],
        (conditionRecord conditions 0 (sourceFromOwner owner)).any (·.active) = true := by
  refine ⟨fun follows => ?_, by decide, by decide⟩
  exact absurd follows.card_le (by decide)

end Solar.Events
