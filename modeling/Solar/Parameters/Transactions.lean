/-
This file takes a transaction apart: what is captured of each assigned
parameter, how `set_all_parameters` can end, and what the passes over the
captured states do to one slot. A pass touches the slot of each state's own
parameter, and the parameters of a transaction are distinct, so after the pass
a slot holds what its own state made of it.
-/

import Solar.Parameters.Effects

namespace Solar.Parameters

open List Function Words

namespace Facility

variable {A : Architecture}

/-! ### Captured states -/

/-- What `capture_transaction` notes of an assigned parameter. -/
def captureState (facility : Facility A) (parameter : A.Parameter)
    (normalized : Normalized (A.Value parameter)) : TransactionState A where
  parameter
  normalized
  oldValue := (facility.slot parameter).value
  before := (facility.slot parameter).revision
  changed := decide ((facility.slot parameter).value ≠ normalized.value)

/-- The states are those of the assignments, each normalized and captured. -/
def Captures (facility : Facility A) : List (Assignment A) → List (TransactionState A) → Prop :=
  Forall₂ fun assignment state => ∃ normalized,
    (A.declaration assignment.parameter).normalize assignment.value = some normalized ∧
      state = facility.captureState assignment.parameter normalized

variable {states : List (TransactionState A)} {environment : Environment A} {facility : Facility A}
  {assignments : List (Assignment A)} {parameter : A.Parameter} {group : A.Group}
  {state : TransactionState A} {motive : Facility A → Prop}

theorem captures_of_capture {normalized : List (NormalizedAssignment A)}
    (normalizes : normalizeTransaction assignments = .ok normalized)
    (captured : facility.captureTransaction environment normalized = .ok states) :
    facility.Captures assignments states := by
  induction assignments generalizing normalized states with
  | nil =>
    obtain rfl := Except.ok.inj normalizes
    obtain rfl := Except.ok.inj captured
    exact .nil
  | cons assignment rest ih =>
    unfold normalizeTransaction at normalizes
    split at normalizes
    · exact nomatch normalizes
    next value accepted =>
    split at normalizes
    · exact nomatch normalizes
    next more later =>
    obtain rfl := Except.ok.inj normalizes
    unfold captureTransaction at captured
    split at captured
    · exact nomatch captured
    next old read =>
    split at captured
    · exact nomatch captured
    next moreStates laterStates =>
    obtain rfl := peek_eq_ok read
    obtain rfl := Except.ok.inj captured
    exact .cons ⟨value, accepted, rfl⟩ (ih later laterStates)

section

variable (captures : facility.Captures assignments states)

include captures

theorem Captures.map_parameter : states.map (·.parameter) = assignments.map (·.parameter) := by
  induction captures with
  | nil => rfl
  | cons captured _ ih =>
    obtain ⟨normalized, _, rfl⟩ := captured
    rw [map_cons, ih]
    rfl

theorem Captures.exists_of_mem (listed : state ∈ states) :
    ∃ assignment ∈ assignments, ∃ normalized,
      (A.declaration assignment.parameter).normalize assignment.value = some normalized ∧
        state = facility.captureState assignment.parameter normalized := by
  induction captures with
  | nil => exact absurd listed not_mem_nil
  | cons captured _ ih =>
    obtain rfl | listed := mem_cons.mp listed
    · exact ⟨_, mem_cons_self, captured⟩
    · obtain ⟨assignment, later, found⟩ := ih listed
      exact ⟨assignment, mem_cons_of_mem _ later, found⟩

theorem Captures.exists_of_assignment {assignment : Assignment A}
    (listed : assignment ∈ assignments) :
    ∃ normalized, (A.declaration assignment.parameter).normalize assignment.value =
      some normalized ∧ facility.captureState assignment.parameter normalized ∈ states := by
  induction captures with
  | nil => exact absurd listed not_mem_nil
  | cons captured _ ih =>
    obtain rfl | listed := mem_cons.mp listed
    · obtain ⟨normalized, accepted, rfl⟩ := captured
      exact ⟨normalized, accepted, mem_cons_self⟩
    · obtain ⟨normalized, accepted, later⟩ := ih listed
      exact ⟨normalized, accepted, mem_cons_of_mem _ later⟩

end

theorem Captures.distinct {transaction : Transaction A}
    (captures : facility.Captures transaction.assignments states) :
    (states.map (·.parameter)).Nodup := captures.map_parameter ▸ transaction.distinct

/-! ### Passes over the states -/

/-- The pass step changes the slot of the state's parameter as `own` says, and no other slot. -/
structure ActsOnOwn (apply : Facility A → TransactionState A → Facility A)
    (own : (state : TransactionState A) → Slot (A.Value state.parameter) →
      Slot (A.Value state.parameter)) : Prop where
  self : ∀ facility state,
    (apply facility state).slot state.parameter = own state (facility.slot state.parameter)
  other : ∀ facility state parameter, parameter ≠ state.parameter →
    (apply facility state).slot parameter = facility.slot parameter

section

variable {apply : Facility A → TransactionState A → Facility A}
  {own : (state : TransactionState A) → Slot (A.Value state.parameter) → Slot (A.Value state.parameter)}

theorem ActsOnOwn.foldl_of_not_mem (acts : ActsOnOwn apply own)
    (absent : parameter ∉ states.map (·.parameter)) (facility : Facility A) :
    (states.foldl apply facility).slot parameter = facility.slot parameter := by
  induction states generalizing facility with
  | nil => rfl
  | cons state rest ih =>
    rw [map_cons, mem_cons, not_or] at absent
    rw [foldl_cons, ih absent.2, acts.other _ _ _ absent.1]

theorem ActsOnOwn.foldl_of_mem (acts : ActsOnOwn apply own)
    (distinct : (states.map (·.parameter)).Nodup)
    (listed : state ∈ states) (facility : Facility A) :
    (states.foldl apply facility).slot state.parameter =
      own state (facility.slot state.parameter) := by
  induction states generalizing facility with
  | nil => exact absurd listed not_mem_nil
  | cons first rest ih =>
    rw [map_cons, nodup_cons] at distinct
    rw [foldl_cons]
    obtain rfl | later := mem_cons.mp listed
    · rw [acts.foldl_of_not_mem distinct.1, acts.self]
    · have different : state.parameter ≠ first.parameter := fun same =>
        distinct.1 (same ▸ mem_map_of_mem later)
      rw [ih distinct.2 later, acts.other _ _ _ different]

end

theorem foldl_congr {Part Item : Type} {apply : Facility A → Item → Facility A}
    (part : Facility A → Part) (keeps : ∀ facility item, part (apply facility item) =
      part facility) (items : List Item) (facility : Facility A) :
    part (items.foldl apply facility) = part facility := by
  induction items generalizing facility with
  | nil => rfl
  | cons item rest ih => rw [foldl_cons, ih, keeps]

theorem actsOnOwn_ite (condition : TransactionState A → Prop) [DecidablePred condition]
    (own : (state : TransactionState A) → Slot (A.Value state.parameter) →
      Slot (A.Value state.parameter)) :
    ActsOnOwn (fun facility state => if condition state then
        facility.updateSlot state.parameter (own state) else facility)
      (fun state slot => if condition state then own state slot else slot) where
  self facility state := by
    split_ifs with met
    · exact slot_updateSlot_self ..
    · rfl
  other facility state parameter different := by
    split_ifs with met
    · exact slot_updateSlot_of_ne _ _ _ different
    · rfl

/-- The write of the value of one state. -/
def writeValue (facility : Facility A) (state : TransactionState A) : Facility A :=
  if state.changed then
    facility.updateSlot state.parameter fun slot => { slot with value := state.normalized.value }
  else facility

theorem actsOnOwn_writeValue : ActsOnOwn (A := A) writeValue fun state slot =>
    if state.changed then { slot with value := state.normalized.value } else slot :=
  actsOnOwn_ite _ fun state slot => { slot with value := state.normalized.value }

theorem actsOnOwn_markCommitted (now : Nat) : ActsOnOwn (A := A)
    (fun facility state => if state.changed then
      (facility.markCommittedPersistence now state.parameter (state.before + 1) false).1
      else facility)
    (fun state slot => if state.changed then
      commitSlot (A.commit state.parameter) now (state.before + 1) false slot else slot) where
  self facility state := by
    split_ifs with changed
    · exact slot_markCommitted_self ..
    · rfl
  other facility state parameter different := by
    split_ifs with changed
    · exact slot_markCommitted_of_ne _ _ _ _ _ different
    · rfl

/-! ### Writing the values -/

/-- The values are written in order until a write is refused. -/
theorem writeTransactionValues_cases (environment : Environment A)
    (states : List (TransactionState A)) (facility : Facility A) :
    (writeTransactionValues environment states facility =
        (states.foldl writeValue facility, .ok ()) ∧
      ∀ state ∈ states, state.changed = true → (environment.write state.parameter).isOk = true) ∨
    (∃ done rest error, states = done ++ rest ∧ writeTransactionValues environment states facility =
        (done.foldl writeValue facility, .error error) ∧
      ∃ state ∈ states, state.changed = true ∧
        (environment.write state.parameter).isOk = false) := by
  induction states generalizing facility with
  | nil => exact .inl ⟨rfl, fun _ listed => absurd listed not_mem_nil⟩
  | cons state rest ih =>
    by_cases changed : state.changed = true
    · cases written : environment.write state.parameter with
      | error status =>
        have stops : writeTransactionValues environment (state :: rest) facility =
            (facility, .error {
              status, reason := .internalInvariant, operation := .transaction
              parameter := some state.parameter }) := by
          simp [writeTransactionValues, changed, written]
        exact .inr ⟨[], state :: rest, _, rfl, stops, state, mem_cons_self, changed,
          by rw [written]; rfl⟩
      | ok _ =>
        have first : writeValue facility state = facility.updateSlot state.parameter
            fun slot => { slot with value := state.normalized.value } := if_pos changed
        obtain ⟨same, granted⟩ | ⟨done, more, error, split, same, refused⟩ :=
          ih (writeValue facility state)
        · refine .inl ⟨?_, ?_⟩
          · simp only [writeTransactionValues, changed, if_true, written]
            rw [← first, same]
            rfl
          · intro other listed otherChanged
            obtain rfl | later := mem_cons.mp listed
            · rw [written]
              rfl
            · exact granted other later otherChanged
        · obtain ⟨other, later, otherRefused⟩ := refused
          refine .inr ⟨state :: done, more, error, by rw [split]; rfl, ?_, other,
            mem_cons_of_mem _ later, otherRefused⟩
          simp only [writeTransactionValues, changed, if_true, written]
          rw [← first, same]
          rfl
    · have first : writeValue facility state = facility := if_neg changed
      obtain ⟨same, granted⟩ | ⟨done, more, error, split, same, refused⟩ :=
        ih facility
      · refine .inl ⟨?_, ?_⟩
        · simp only [writeTransactionValues, changed, foldl_cons, first]
          exact same
        · intro other listed otherChanged
          obtain rfl | later := mem_cons.mp listed
          · exact absurd otherChanged changed
          · exact granted other later otherChanged
      · obtain ⟨other, later, otherRefused⟩ := refused
        refine .inr ⟨state :: done, more, error, by rw [split]; rfl, ?_, other,
          mem_cons_of_mem _ later, otherRefused⟩
        simp only [writeTransactionValues, changed, foldl_cons, first]
        exact same

/-! ### Preparing the records -/

/-- What holds of the facility and is kept by the preparation of each changed parameter that is
written at once holds after the first half of the preparation. -/
theorem prepareTransactionParameters_rule (keeps : ∀ facility, motive facility → ∀ state ∈ states,
      A.persistence state.parameter = .single .immediate → state.changed = true →
      ∀ outcome, Prepares environment state.parameter state.normalized.value false facility
        outcome → motive outcome.1)
    (facility : Facility A) (initially : motive facility) :
    motive (facility.prepareTransactionParameters environment states).1 := by
  induction states generalizing facility with
  | nil => exact initially
  | cons state rest ih =>
    have later := ih fun facility holds state listed =>
      keeps facility holds state (mem_cons_of_mem _ listed)
    unfold prepareTransactionParameters
    split_ifs with atOnce
    · have ended := keeps facility initially state mem_cons_self atOnce.1 atOnce.2 _
        (prepares environment state.parameter state.normalized.value false facility)
      generalize facility.prepareImmediatePersistence environment state.parameter
        state.normalized.value false = outcome at ended ⊢
      obtain ⟨prepared, _ | _⟩ := outcome
      · exact ended
      · exact later _ ended
    · exact later _ initially

/-- The same for the groups. -/
theorem prepareTransactionGroups_rule {groups : List A.Group}
    (keeps : ∀ facility, motive facility → ∀ group ∈ groups, touchesGroup states group = true →
      ∀ payload record, encodeGroupPayload A (facility.transactionProvider environment states)
        (A.group group).members = .ok payload → encodeGroupRecord A group payload = .ok record →
      motive (facility.putGroup group record))
    (facility : Facility A) (initially : motive facility) :
    motive (facility.prepareTransactionGroups environment states groups).1 := by
  induction groups generalizing facility with
  | nil => exact initially
  | cons group rest ih =>
    have later := ih fun facility holds group listed =>
      keeps facility holds group (mem_cons_of_mem _ listed)
    unfold prepareTransactionGroups
    split_ifs with touched
    · cases environment.persistenceGate (A.groupKey group) with
      | error status => exact initially
      | ok _ =>
        obtain ⟨status, failed⟩ | ⟨payload, record, _, image, encoded, saved⟩ :=
          facility.persistGroupImage_cases environment group
            (facility.transactionProvider environment states)
        · simp only [failed]
          exact initially
        · simp only [saved]
          exact later _ (keeps facility initially group mem_cons_self touched payload record
            image encoded)
    · exact later _ initially

theorem prepareTransactionPersistence_rule
    (keepsOwn : ∀ facility, motive facility → ∀ state ∈ states,
      A.persistence state.parameter = .single .immediate → state.changed = true →
      ∀ outcome, Prepares environment state.parameter state.normalized.value false facility
        outcome → motive outcome.1)
    (keepsGroup : ∀ facility, motive facility → ∀ group ∈ A.groups,
      touchesGroup states group = true →
      ∀ payload record, encodeGroupPayload A (facility.transactionProvider environment states)
        (A.group group).members = .ok payload → encodeGroupRecord A group payload = .ok record →
      motive (facility.putGroup group record))
    (initially : motive facility) :
    motive (facility.prepareTransactionPersistence environment states).1 := by
  unfold prepareTransactionPersistence
  have first := prepareTransactionParameters_rule keepsOwn facility initially
  generalize facility.prepareTransactionParameters environment states = outcome at first ⊢
  obtain ⟨prepared, _ | _⟩ := outcome
  · exact first
  · exact prepareTransactionGroups_rule keepsGroup prepared first

theorem slot_prepareTransactionPersistence
    (notAtOnce : A.persistence parameter ≠ .single .immediate) :
    (facility.prepareTransactionPersistence environment states).1.slot parameter =
      facility.slot parameter := by
  refine prepareTransactionPersistence_rule
    (motive := fun next => next.slot parameter = facility.slot parameter) ?_ ?_ rfl
  · intro next holds state _ single _ outcome ended
    have different : parameter ≠ state.parameter := fun same => notAtOnce (same ▸ single)
    cases ended with
    | failed => rw [slot_updateSlot_of_ne _ _ _ different, holds]
    | _ => exact holds
  · exact fun next holds _ _ _ _ _ _ _ => holds

section

variable (environment : Environment A) (states : List (TransactionState A))

theorem group_prepareTransactionPersistence (facility : Facility A) :
    (facility.prepareTransactionPersistence environment states).1.group = facility.group := by
  refine prepareTransactionPersistence_rule
    (motive := fun next => next.group = facility.group) ?_ ?_ rfl
  · intro next holds state _ _ _ outcome ended
    cases ended <;> exact holds
  · exact fun next holds _ _ _ _ _ _ _ => holds

/-! ### The images of the groups -/

/-- The record the transaction writes for a group, when the gate, the encoding and the store grant
it. -/
def transactionImage (facility : Facility A) (group : A.Group) : Option Bytes :=
  if (environment.persistenceGate (A.groupKey group)).isOk ∧
      (environment.store (A.groupKey group)).isOk then
    match encodeGroupPayload A (facility.transactionProvider environment states)
        (A.group group).members with
    | .error _ => none
    | .ok payload => (encodeGroupRecord A group payload).toOption
  else none

/-- Put the image of a touched group in its store. -/
def putImage (origin facility : Facility A) (group : A.Group) : Facility A :=
  match touchesGroup states group, transactionImage environment states origin group with
  | true, some record => facility.putGroup group record
  | _, _ => facility

end

theorem putImage_of_untouched (untouched : ¬ touchesGroup states group = true)
    (origin facility : Facility A) :
    putImage environment states origin facility group = facility := by
  unfold putImage
  simp only [Bool.eq_false_iff.mpr untouched]

variable {origin : Facility A}

theorem putImage_of_image {record : Bytes}
    (touched : touchesGroup states group = true)
    (image : transactionImage environment states origin group = some record)
    (facility : Facility A) :
    putImage environment states origin facility group = facility.putGroup group record := by
  unfold putImage
  simp only [touched, image]

theorem transactionImage_eq_some {record : Bytes}
    (image : transactionImage environment states facility group = some record) :
    ∃ payload, encodeGroupPayload A (facility.transactionProvider environment states)
      (A.group group).members = .ok payload ∧ encodeGroupRecord A group payload = .ok record := by
  unfold transactionImage at image
  split_ifs at image
  split at image
  · exact nomatch image
  next payload encoded =>
  refine ⟨payload, encoded, ?_⟩
  cases written : encodeGroupRecord A group payload with rw [written] at image
  | error status => exact nomatch image
  | ok bytes => rw [Option.some.inj image]

theorem transactionImage_congr {first second : Facility A} (same : first.slot = second.slot)
    (group : A.Group) :
    transactionImage environment states first group =
      transactionImage environment states second group := by
  have peeks : first.peek environment = second.peek environment := by
    funext parameter
    simp only [peek, same]
  have providers : first.transactionProvider environment states =
      second.transactionProvider environment states := by
    funext parameter
    simp only [transactionProvider, peeks]
  simp only [transactionImage, providers]

/-- How the preparation of one touched group ends. -/
theorem prepareTransactionGroups_cons {rest : List A.Group}
    (touched : touchesGroup states group = true) :
    (∃ record, transactionImage environment states facility group = some record ∧
      facility.prepareTransactionGroups environment states (group :: rest) =
        (facility.putGroup group record).prepareTransactionGroups environment states rest) ∨
    (∃ error, transactionImage environment states facility group = none ∧
      facility.prepareTransactionGroups environment states (group :: rest) =
        (facility, .error error)) := by
  rw [prepareTransactionGroups, if_pos touched, transactionImage]
  cases environment.persistenceGate (A.groupKey group) with
  | error status => exact .inr ⟨_, rfl, rfl⟩
  | ok _ =>
  unfold persistGroupImage
  cases encodeGroupPayload A (facility.transactionProvider environment states)
      (A.group group).members with
  | error status =>
    refine .inr ⟨_, ?_, rfl⟩
    split_ifs <;> rfl
  | ok payload =>
  unfold saveGroupPayload
  simp only
  cases encodeGroupRecord A group payload with
  | error status =>
    refine .inr ⟨_, ?_, rfl⟩
    split_ifs <;> rfl
  | ok record =>
  unfold writeStore
  cases environment.store (A.groupKey group) with
  | error status => exact .inr ⟨_, rfl, rfl⟩
  | ok _ => exact .inl ⟨record, rfl, rfl⟩

/-- How the preparation of the groups can end: the images are put in order, until one is not
granted. They are the images over the slots of the origin. -/
inductive PreparesGroups (environment : Environment A) (states : List (TransactionState A))
    (origin facility : Facility A) (groups : List A.Group) :
    Facility A × Except (Error A) Unit → Prop
  | all (granted : ∀ group ∈ groups, touchesGroup states group = true →
        (transactionImage environment states origin group).isSome = true) :
      PreparesGroups environment states origin facility groups
        (groups.foldl (putImage environment states origin) facility, .ok ())
  | stopped {done rest : List A.Group} {failing : A.Group} (error : Error A)
      (split : groups = done ++ failing :: rest)
      (granted : ∀ group ∈ done, touchesGroup states group = true →
        (transactionImage environment states origin group).isSome = true)
      (touched : touchesGroup states failing = true)
      (refused : transactionImage environment states origin failing = none) :
      PreparesGroups environment states origin facility groups
        (done.foldl (putImage environment states origin) facility, .error error)

theorem PreparesGroups.cons {rest : List A.Group} {outcome : Facility A × Except (Error A) Unit}
    (granted : touchesGroup states group = true →
      (transactionImage environment states origin group).isSome = true)
    (later : PreparesGroups environment states origin
      (putImage environment states origin facility group) rest outcome) :
    PreparesGroups environment states origin facility (group :: rest) outcome := by
  cases later with
  | all others =>
    refine .all fun other listed => ?_
    obtain rfl | inRest := mem_cons.mp listed
    · exact granted
    · exact others other inRest
  | @stopped done more failing error split others touched refused =>
    have longer : group :: rest = (group :: done) ++ failing :: more := by rw [split]; rfl
    refine .stopped error longer (fun other listed => ?_) touched refused
    obtain rfl | inDone := mem_cons.mp listed
    · exact granted
    · exact others other inDone

theorem preparesGroups {groups : List A.Group} (same : facility.slot = origin.slot) :
    PreparesGroups environment states origin facility groups
      (facility.prepareTransactionGroups environment states groups) := by
  induction groups generalizing facility with
  | nil => exact .all fun _ listed => absurd listed not_mem_nil
  | cons group rest ih =>
    by_cases touched : touchesGroup states group = true
    · obtain ⟨record, image, continues⟩ | ⟨error, image, ended⟩ :=
        prepareTransactionGroups_cons touched
      · rw [transactionImage_congr same] at image
        rw [continues]
        refine .cons (fun _ => by rw [image]; rfl) ?_
        rw [putImage_of_image touched image]
        exact ih same
      · rw [transactionImage_congr same] at image
        rw [ended]
        have split : group :: rest = [] ++ group :: rest := rfl
        exact .stopped error split (fun _ listed => absurd listed not_mem_nil) touched image
    · rw [prepareTransactionGroups, if_neg touched]
      refine .cons (fun contrary => absurd contrary touched) ?_
      rw [putImage_of_untouched touched]
      exact ih same

/-- No other group has the record of this one. -/
def OwnsRecord (A : Architecture) (group : A.Group) : Prop :=
  ∀ other, A.groupStore other = A.groupStore group → A.groupKey other = A.groupKey group →
    other = group

theorem groupRecord_putGroup_self (facility : Facility A) (group : A.Group) (record : Bytes) :
    (facility.putGroup group record).groupRecord group = some record :=
  stored_putRecord_self ..

theorem groupRecord_putGroup_of_ne {other : A.Group} (owns : OwnsRecord A group)
    (different : other ≠ group) (facility : Facility A) (record : Bytes) :
    (facility.putGroup other record).groupRecord group = facility.groupRecord group := by
  refine stored_putRecord_of_ne _ _ _ _ fun same => different ?_
  exact owns other (congrArg Prod.fst same).symm (congrArg Prod.snd same).symm

section

variable {origin : Facility A}

theorem groupRecord_putImages_of_ne (owns : OwnsRecord A group)
    {groups : List A.Group} (apart : group ∈ groups → ¬ touchesGroup states group = true)
    (facility : Facility A) :
    (groups.foldl (putImage environment states origin) facility).groupRecord group =
      facility.groupRecord group := by
  induction groups generalizing facility with
  | nil => rfl
  | cons first rest ih =>
    rw [foldl_cons, ih fun listed => apart (mem_cons_of_mem _ listed)]
    by_cases same : first = group
    · subst same
      rw [putImage_of_untouched (apart mem_cons_self)]
    · unfold putImage
      split
      · exact groupRecord_putGroup_of_ne owns same _ _
      · rfl

theorem groupRecord_putImages (owns : OwnsRecord A group)
    {groups : List A.Group} (listed : group ∈ groups)
    (touched : touchesGroup states group = true) {record : Bytes}
    (image : transactionImage environment states origin group = some record)
    (facility : Facility A) :
    (groups.foldl (putImage environment states origin) facility).groupRecord group =
      some record := by
  induction groups generalizing facility with
  | nil => exact absurd listed not_mem_nil
  | cons first rest ih =>
    rw [foldl_cons]
    by_cases later : group ∈ rest
    · exact ih later _
    · obtain rfl := (mem_cons.mp listed).resolve_right later
      rw [groupRecord_putImages_of_ne owns (fun inRest => absurd inRest later),
        putImage_of_image touched image, groupRecord_putGroup_self]

end

section

variable (later : ∀ state ∈ states, A.persistence state.parameter ≠ .single .immediate)
  (environment : Environment A) (facility : Facility A)

include later

theorem prepareTransactionParameters_of_later :
    facility.prepareTransactionParameters environment states = (facility, .ok ()) := by
  induction states with
  | nil => rfl
  | cons state rest ih =>
    rw [prepareTransactionParameters, if_neg fun both => later state mem_cons_self both.1]
    exact ih fun other listed => later other (mem_cons_of_mem _ listed)

theorem prepareTransactionPersistence_of_later :
    PreparesGroups environment states facility facility A.groups
      (facility.prepareTransactionPersistence environment states) := by
  unfold prepareTransactionPersistence
  rw [prepareTransactionParameters_of_later later]
  exact preparesGroups rfl

end

/-! ### The values of an image -/

theorem transactionProvider_of_not_mem (absent : parameter ∉ states.map (·.parameter))
    (environment : Environment A) (facility : Facility A) :
    facility.transactionProvider environment states parameter =
      facility.peek environment parameter := by
  induction states with
  | nil => rfl
  | cons state rest ih =>
    rw [map_cons, mem_cons, not_or] at absent
    unfold transactionProvider
    rw [foldr_cons, update_of_ne absent.1]
    exact ih absent.2

section

variable (distinct : (states.map (·.parameter)).Nodup)

include distinct

theorem transactionProvider_of_mem (listed : state ∈ states) (environment : Environment A)
    (facility : Facility A) :
    facility.transactionProvider environment states state.parameter =
      .ok state.normalized.value := by
  induction states with
  | nil => exact absurd listed not_mem_nil
  | cons first rest ih =>
    rw [map_cons, nodup_cons] at distinct
    unfold transactionProvider
    rw [foldr_cons]
    obtain rfl | later := mem_cons.mp listed
    · exact update_self ..
    · have different : state.parameter ≠ first.parameter := fun same =>
        distinct.1 (same ▸ mem_map_of_mem later)
      rw [update_of_ne different]
      exact ih distinct.2 later

/-! ### After the preparation -/

/-- The facility after a transaction whose changes have all been written. -/
abbrev committed (prepared : Facility A) (now : Nat) (states : List (TransactionState A)) :
    Facility A :=
  ((states.foldl writeValue prepared).updateTransactionRecords states).markTransactionPersistence
    now states

/-- The facility after a transaction that is taken back. -/
abbrev undone (prepared : Facility A) (environment : Environment A)
    (done states : List (TransactionState A)) : Facility A :=
  (done.foldl writeValue prepared).restoreTransactionValues environment states

theorem slot_committed (listed : state ∈ states) (now : Nat) (prepared : Facility A) :
    (prepared.committed now states).slot state.parameter =
      if state.changed then
        commitSlot (A.commit state.parameter) now (state.before + 1) false
          ((prepared.slot state.parameter).commitValue state.normalized.value (state.before + 1))
      else prepared.slot state.parameter := by
  have written := actsOnOwn_writeValue.foldl_of_mem distinct listed prepared
  have updated := (actsOnOwn_ite (fun state : TransactionState A => state.changed)
    fun state slot => slot.commitValue state.normalized.value (state.before + 1)).foldl_of_mem
    distinct listed (states.foldl writeValue prepared)
  have marked := (actsOnOwn_markCommitted now).foldl_of_mem distinct listed
    ((states.foldl writeValue prepared).updateTransactionRecords states)
  unfold updateTransactionRecords at marked
  unfold committed updateTransactionRecords markTransactionPersistence
  rw [marked, updated, written]
  split_ifs with changed <;> rfl

theorem slot_committed_captured {normalized : Normalized (A.Value parameter)}
    (listed : facility.captureState parameter normalized ∈ states) (now : Nat)
    (prepared : Facility A) :
    (prepared.committed now states).slot parameter =
      if (facility.slot parameter).value ≠ normalized.value then
        commitSlot (A.commit parameter) now ((facility.slot parameter).revision + 1) false
          ((prepared.slot parameter).commitValue normalized.value
            ((facility.slot parameter).revision + 1))
      else prepared.slot parameter := by
  refine (slot_committed distinct listed now prepared).trans ?_
  by_cases changes : (facility.slot parameter).value ≠ normalized.value
  · rw [if_pos changes]
    exact if_pos (decide_eq_true changes)
  · rw [if_neg changes]
    exact if_neg fun changed => changes (of_decide_eq_true changed)

end

theorem slot_committed_of_not_mem (absent : parameter ∉ states.map (·.parameter)) (now : Nat)
    (prepared : Facility A) :
    (prepared.committed now states).slot parameter =
      prepared.slot parameter := by
  have written := actsOnOwn_writeValue.foldl_of_not_mem absent prepared
  have updated := (actsOnOwn_ite (fun state : TransactionState A => state.changed)
    fun state slot => slot.commitValue state.normalized.value
      (state.before + 1)).foldl_of_not_mem absent (states.foldl writeValue prepared)
  have marked := (actsOnOwn_markCommitted now).foldl_of_not_mem absent
    ((states.foldl writeValue prepared).updateTransactionRecords states)
  unfold updateTransactionRecords at marked
  unfold committed updateTransactionRecords markTransactionPersistence
  rw [marked, updated, written]

theorem stored_committed (states : List (TransactionState A)) (now : Nat)
    (prepared : Facility A) :
    (prepared.committed now states).stored = prepared.stored := by
  unfold committed updateTransactionRecords markTransactionPersistence
  rw [foldl_congr (·.stored) fun facility state => ?_,
    foldl_congr (·.stored) fun facility state => ?_,
    foldl_congr (·.stored) fun facility state => ?_]
  · unfold writeValue
    split_ifs <;> rfl
  · split_ifs <;> rfl
  · split_ifs
    · exact stored_markCommitted ..
    · rfl

section

variable {states done rest : List (TransactionState A)} {prepared : Facility A}

theorem setValue_writeValue {value : A.Value parameter} (facility : Facility A)
    (state : TransactionState A) :
    ({ (writeValue facility state).slot parameter with value } :
      Slot (A.Value parameter)) = { facility.slot parameter with value } := by
  by_cases same : parameter = state.parameter
  · subst same
    unfold writeValue
    split_ifs
    · rw [slot_updateSlot_self]
    · rfl
  · rw [actsOnOwn_writeValue.other _ _ _ same]

/-- An undone transaction: the values are as before where the second write is granted. -/
theorem slot_restored (distinct : (states.map (·.parameter)).Nodup)
    (listed : state ∈ states) (split : states = done ++ rest)
    (old : state.oldValue = (prepared.slot state.parameter).value)
    (granted : state.changed = true → (environment.restore state.parameter).isOk = true) :
    (prepared.undone environment done states).slot state.parameter = prepared.slot state.parameter := by
  have restored := (actsOnOwn_ite (fun state : TransactionState A =>
      state.changed ∧ (environment.restore state.parameter).isOk)
    fun state slot => { slot with value := state.oldValue }).foldl_of_mem distinct listed
    (done.foldl writeValue prepared)
  unfold undone restoreTransactionValues
  rw [restored]
  by_cases changed : state.changed = true
  · rw [if_pos ⟨changed, granted changed⟩]
    rw [foldl_congr (fun facility => ({ facility.slot state.parameter with
      value := state.oldValue } : Slot (A.Value state.parameter)))
      setValue_writeValue done prepared, old]
  · rw [if_neg fun both => changed both.1]
    by_cases written : state ∈ done
    · have sub : (done.map (·.parameter)).Nodup := by
        rw [split, map_append] at distinct
        exact distinct.of_append_left
      rw [actsOnOwn_writeValue.foldl_of_mem sub written, if_neg changed]
    · have absent : state.parameter ∉ done.map (·.parameter) := by
        intro found
        obtain ⟨other, inDone, same⟩ := mem_map.mp found
        have inRest : state ∈ rest := by
          rw [split] at listed
          exact (mem_append.mp listed).resolve_left written
        rw [split, map_append, nodup_append] at distinct
        exact distinct.2.2 _ (mem_map_of_mem inDone) _ (mem_map_of_mem inRest) same
      rw [actsOnOwn_writeValue.foldl_of_not_mem absent]

theorem slot_restored_of_not_mem (absent : parameter ∉ states.map (·.parameter))
    (split : states = done ++ rest) :
    (prepared.undone environment done states).slot parameter = prepared.slot parameter := by
  have restored := (actsOnOwn_ite (fun state : TransactionState A =>
      state.changed ∧ (environment.restore state.parameter).isOk)
    fun state slot => { slot with value := state.oldValue }).foldl_of_not_mem absent
    (done.foldl writeValue prepared)
  have before : parameter ∉ done.map (·.parameter) := by
    rw [split, map_append] at absent
    exact fun found => absent (mem_append_left _ found)
  unfold undone restoreTransactionValues
  rw [restored, actsOnOwn_writeValue.foldl_of_not_mem before]

/-- A parameter keeps its slot over an undone transaction if its old value may be written again. -/
theorem Captures.slot_undone (captures : facility.Captures assignments states)
    (distinct : (states.map (·.parameter)).Nodup) (split : states = done ++ rest)
    (value : (prepared.slot parameter).value = (facility.slot parameter).value)
    (granted : ∀ state ∈ states, state.parameter = parameter → state.changed = true →
      (environment.restore parameter).isOk = true) :
    (prepared.undone environment done states).slot parameter = prepared.slot parameter := by
  by_cases assigned : parameter ∈ states.map (·.parameter)
  · obtain ⟨state, listed, rfl⟩ := mem_map.mp assigned
    refine slot_restored distinct listed split ?_ (granted state listed rfl)
    obtain ⟨_, _, _, _, rfl⟩ := captures.exists_of_mem listed
    exact value.symm
  · exact slot_restored_of_not_mem assigned split

theorem stored_restored :
    (prepared.undone environment done states).stored =
      prepared.stored := by
  unfold undone restoreTransactionValues
  rw [foldl_congr (·.stored) fun facility state => ?_,
    foldl_congr (·.stored) fun facility state => ?_]
  · unfold writeValue
    split_ifs <;> rfl
  · split_ifs <;> rfl

theorem group_restored :
    (prepared.undone environment done states).group =
      prepared.group := by
  unfold undone restoreTransactionValues
  rw [foldl_congr (·.group) fun facility state => ?_,
    foldl_congr (·.group) fun facility state => ?_]
  · unfold writeValue
    split_ifs <;> rfl
  · split_ifs <;> rfl

end

/-! ### How a transaction ends -/

/-- How `set_all_parameters` can end. -/
inductive SetsAll (environment : Environment A) (now : Nat) (transaction : Transaction A)
    (facility : Facility A) : Facility A × Except (Error A) TransactionUpdate → Prop
  | refused (error : Error A) :
      SetsAll environment now transaction facility (facility, .error error)
  | unprepared {states : List (TransactionState A)} {prepared : Facility A} {error : Error A}
      (captures : facility.Captures transaction.assignments states)
      (prepares : facility.prepareTransactionPersistence environment states =
        (prepared, .error error)) :
      SetsAll environment now transaction facility (prepared, .error error)
  | unwritten {states done rest : List (TransactionState A)} {prepared : Facility A}
      {error : Error A} (captures : facility.Captures transaction.assignments states)
      (prepares : facility.prepareTransactionPersistence environment states = (prepared, .ok ()))
      (split : states = done ++ rest)
      (refused : ∃ state ∈ states, state.changed = true ∧
        (environment.write state.parameter).isOk = false) :
      SetsAll environment now transaction facility
        (prepared.undone environment done states, .error error)
  | committed {states : List (TransactionState A)} {prepared : Facility A}
      (captures : facility.Captures transaction.assignments states)
      (prepares : facility.prepareTransactionPersistence environment states = (prepared, .ok ()))
      (granted : ∀ state ∈ states, state.changed = true →
        (environment.write state.parameter).isOk = true) (update : TransactionUpdate) :
      SetsAll environment now transaction facility
        (prepared.committed now states, .ok update)

theorem setsAll (environment : Environment A) (now : Nat) (transaction : Transaction A)
    (facility : Facility A) : SetsAll environment now transaction facility
      (facility.setAllParameters environment now transaction) := by
  unfold setAllParameters
  cases environment.entry with
  | error refusal => exact .refused _
  | ok _ =>
  cases normalizes : normalizeTransaction transaction.assignments with
  | error error => exact .refused _
  | ok normalized =>
  cases environment.writeGate with
  | error status => exact .refused _
  | ok _ =>
  simp only
  cases captured : facility.captureTransaction environment normalized with
  | error error => exact .refused _
  | ok states =>
  have captures := captures_of_capture normalizes captured
  simp only
  rcases prepares : facility.prepareTransactionPersistence environment states with
    ⟨prepared, error | _⟩
  · exact .unprepared captures prepares
  · simp only
    obtain ⟨written, granted⟩ | ⟨done, rest, error, split, written, refused⟩ :=
      writeTransactionValues_cases environment states prepared
    · rw [written]
      exact .committed captures prepares granted _
    · rw [written]
      exact .unwritten captures prepares split refused

end Facility

end Solar.Parameters
