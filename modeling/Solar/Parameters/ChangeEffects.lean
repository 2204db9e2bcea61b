/-
This file says what the committed part of a call does to the values and revisions,
and what it has to dispatch. A parameter keeps both, or it has the next revision;
in the second case each of its registrations is owed exactly one change, from the
value before to the value after, and in the first case none.
-/

import Solar.Parameters.Changes
import Solar.Parameters.GroupRuns

namespace Solar.Parameters

open List Option

variable {A : Architecture}

namespace Facility

/-! ### Values and revisions -/

/-- The value and the revision of a parameter are as before. -/
structure Keeps (before after : Facility A) (parameter : A.Parameter) : Prop where
  value : (after.slot parameter).value = (before.slot parameter).value
  revision : (after.slot parameter).revision = (before.slot parameter).revision

namespace Keeps

variable {before middle after : Facility A} {parameter : A.Parameter}

theorem refl (facility : Facility A) (parameter : A.Parameter) :
    Keeps facility facility parameter := ⟨rfl, rfl⟩

theorem of_slot (same : after.slot parameter = before.slot parameter) :
    Keeps before after parameter :=
  ⟨congrArg Slot.value same, congrArg Slot.revision same⟩

theorem trans (first : Keeps before middle parameter) (second : Keeps middle after parameter) :
    Keeps before after parameter :=
  ⟨second.value.trans first.value, second.revision.trans first.revision⟩

theorem updateSlot (facility : Facility A) {other : A.Parameter}
    {update : Slot (A.Value other) → Slot (A.Value other)}
    (value : (update (facility.slot other)).value = (facility.slot other).value)
    (revision : (update (facility.slot other)).revision = (facility.slot other).revision) :
    Keeps facility (facility.updateSlot other update) parameter := by
  by_cases same : parameter = other
  · subst same
    exact ⟨by rw [slot_updateSlot_self, value], by rw [slot_updateSlot_self, revision]⟩
  · exact of_slot (slot_updateSlot_of_ne _ _ _ same)

end Keeps

theorem revision_commitSlot {Value : Type} (commit : Option Commit) (now : Nat) (revision : UInt64)
    (reset : Bool) (slot : Slot Value) :
    (commitSlot commit now revision reset slot).value = slot.value ∧
      (commitSlot commit now revision reset slot).revision = slot.revision := by
  rcases commit with _ | _ | _ | _ <;> exact ⟨rfl, rfl⟩

theorem keeps_markCommitted (facility : Facility A) (now : Nat) (marked : A.Parameter)
    (revision : UInt64) (reset : Bool) (parameter : A.Parameter) :
    Keeps facility (facility.markCommittedPersistence now marked revision reset).1 parameter := by
  by_cases same : parameter = marked
  · subst same
    obtain ⟨value, kept⟩ := revision_commitSlot (A.commit parameter) now revision reset
      (facility.slot parameter)
    exact ⟨by rw [slot_markCommitted_self, value], by rw [slot_markCommitted_self, kept]⟩
  · exact .of_slot (slot_markCommitted_of_ne _ _ _ _ _ same)

theorem Prepares.keeps {environment : Environment A} {parameter : A.Parameter}
    {value : A.Value parameter} {reset : Bool} {facility : Facility A}
    {ended : Facility A × Except (Error A) Unit}
    (prepares : Prepares environment parameter value reset facility ended) (other : A.Parameter) :
    Keeps facility ended.1 other := by
  cases prepares with
  | refused | later => exact .refl _ _
  | failed error => exact .updateSlot facility rfl rfl
  | _ => exact .of_slot rfl

/-- What a set does to the values and revisions, and what it returns. -/
inductive SetsValue (parameter : A.Parameter) (before after : Facility A) :
    Except (Error A) (Update (A.Value parameter)) → Prop
  | failed {error : Error A} (keeps : ∀ other, Keeps before after other) :
      SetsValue parameter before after (.error error)
  | unchanged {update : Update (A.Value parameter)} (unchanged : update.changed = false)
      (keeps : ∀ other, Keeps before after other) :
      SetsValue parameter before after (.ok update)
  | changed {update : Update (A.Value parameter)} (changed : update.changed = true)
      (value : (after.slot parameter).value = update.effectiveValue)
      (revision : (after.slot parameter).revision = update.revision)
      (next : update.revision = (before.slot parameter).revision + 1)
      (keeps : ∀ other, other ≠ parameter → Keeps before after other) :
      SetsValue parameter before after (.ok update)

section

variable (environment : Environment A)

variable {environment} in
theorem Sets.value {now : Nat} {parameter : A.Parameter} {candidate : A.Value parameter}
    {reset : Bool} {facility after : Facility A} {result}
    (sets : Sets environment now parameter candidate reset facility after result) :
    SetsValue parameter facility after result := by
  cases sets with
  | unchanged settled =>
    cases result with
    | error error => exact .failed fun _ => .refl _ _
    | ok update => exact .unchanged (settled update rfl).1 fun _ => .refl _ _
  | failed => exact .failed fun _ => .updateSlot facility rfl rfl
  | unwritten accepted changes prepares refused => exact .failed prepares.keeps
  | marked accepted same resets prepares unchanged =>
    exact .unchanged unchanged fun other =>
      (prepares.keeps other).trans (keeps_markCommitted _ _ _ _ _ _)
  | @committed normalized prepared accepted changes prepares granted update changed value
      revision =>
    have marked := keeps_markCommitted (prepared.updateSlot parameter
      (·.commitValue normalized.value ((facility.slot parameter).revision + 1))) now parameter
      ((facility.slot parameter).revision + 1) reset
    refine .changed changed ?_ ?_ revision fun other different => ?_
    · rw [(marked parameter).value, slot_updateSlot_self, value]
      rfl
    · rw [(marked parameter).revision, slot_updateSlot_self, revision]
      rfl
    · exact (prepares.keeps other).trans
        (Keeps.trans (.of_slot (slot_updateSlot_of_ne _ _ _ different)) (marked other))

/-- The values of a transaction are all written, or all that were are undone. -/
def Unwinds (transaction : Transaction A) : Prop :=
  (∀ assignment ∈ transaction.assignments, (environment.write assignment.parameter).isOk = true) ∨
  ∀ assignment ∈ transaction.assignments, (environment.restore assignment.parameter).isOk = true

theorem keeps_prepareTransactionPersistence (states : List (TransactionState A))
    (facility : Facility A) (parameter : A.Parameter) :
    Keeps facility (facility.prepareTransactionPersistence environment states).1 parameter := by
  refine prepareTransactionPersistence_rule
    (motive := fun next => Keeps facility next parameter) ?_ ?_ (.refl _ _)
  · intro next holds state _ _ _ outcome ended
    exact holds.trans (ended.keeps parameter)
  · exact fun next holds _ _ _ _ _ _ _ => holds.trans (.of_slot rfl)

end

/-- What a call makes of a parameter, and the change it has for the registrations of it. -/
inductive Moves (before after : Facility A) (parameter : A.Parameter) :
    Option (Change (A.Value parameter)) → Prop
  | kept (keeps : Keeps before after parameter) : Moves before after parameter none
  | changed {change : Change (A.Value parameter)}
      (old : change.oldValue = (before.slot parameter).value)
      (new : change.newValue = (after.slot parameter).value)
      (revision : change.revision = (after.slot parameter).revision)
      (next : (after.slot parameter).revision = (before.slot parameter).revision + 1) :
      Moves before after parameter (some change)

/-! ### Transactions -/

/-- The change that an assignment makes of the parameter. -/
def changeOf (parameter : A.Parameter) (state : TransactionState A) :
    Option (Change (A.Value parameter)) :=
  if same : parameter = state.parameter then
    if state.changed then some (same ▸ state.change) else none
  else none

/-- The change that a transaction makes of the parameter. -/
def transactionChange (states : List (TransactionState A)) (parameter : A.Parameter) :
    Option (Change (A.Value parameter)) :=
  states.findSome? (changeOf parameter)

variable {states : List (TransactionState A)}

theorem transactionChange_of_not_mem {parameter : A.Parameter}
    (absent : parameter ∉ states.map (·.parameter)) :
    transactionChange states parameter = none := by
  unfold transactionChange
  rw [findSome?_eq_none_iff]
  exact fun state listed => dif_neg fun same : parameter = state.parameter =>
    absent (same ▸ mem_map_of_mem listed)

theorem transactionChange_of_mem (distinct : (states.map (·.parameter)).Nodup)
    {state : TransactionState A} (listed : state ∈ states) :
    transactionChange states state.parameter =
      if state.changed then some state.change else none := by
  induction states with
  | nil => exact absurd listed not_mem_nil
  | cons first rest ih =>
    rw [map_cons, nodup_cons] at distinct
    have later := ih distinct.2
    unfold transactionChange at later ⊢
    rw [findSome?_cons]
    obtain rfl | inRest := mem_cons.mp listed
    · rw [changeOf, dif_pos rfl]
      split_ifs with changed
      · rfl
      · exact transactionChange_of_not_mem distinct.1
    · have different : ¬ state.parameter = first.parameter := fun same =>
        distinct.1 (same ▸ mem_map_of_mem inRest)
      rw [changeOf, dif_neg different]
      exact later inRest

theorem Captures.unique {facility : Facility A} {assignments : List (Assignment A)}
    {first second : List (TransactionState A)} (captures : facility.Captures assignments first)
    (again : facility.Captures assignments second) : first = second := by
  induction captures generalizing second with
  | nil => exact (forall₂_nil_left_iff.mp again).symm
  | cons captured _ ih =>
    cases again with
    | cons recaptured rest =>
    obtain ⟨normalized, accepted, rfl⟩ := captured
    obtain ⟨other, acceptedToo, rfl⟩ := recaptured
    obtain ⟨⟩ := accepted.symm.trans acceptedToo
    rw [ih rest]

/-- The states of a transaction that is committed are the captured ones. -/
theorem captures_transactionStates (environment : Environment A) (now : Nat)
    (transaction : Transaction A) (facility : Facility A) {update : TransactionUpdate}
    (committed : (facility.setAllParameters environment now transaction).2 = .ok update) :
    facility.Captures transaction.assignments
      (facility.transactionStates environment transaction) := by
  unfold setAllParameters at committed
  unfold transactionStates
  cases entry : environment.entry with
  | error refusal =>
    simp only [entry] at committed
    cases committed
  | ok _ =>
  simp only [entry] at committed
  cases normalizes : normalizeTransaction transaction.assignments with
  | error error =>
    simp only [normalizes] at committed
    cases committed
  | ok normalized =>
  simp only [normalizes] at committed ⊢
  cases gate : environment.writeGate with
  | error status =>
    simp only [gate] at committed
    cases committed
  | ok _ =>
  simp only [gate] at committed
  cases captured : facility.captureTransaction environment normalized with
  | error error =>
    simp only [captured] at committed
    cases committed
  | ok states => exact captures_of_capture normalizes captured

section

variable {environment : Environment A} {now : Nat} {transaction : Transaction A}
  {before : Facility A} {outcome : Facility A × Except (Error A) TransactionUpdate}

/-- A transaction that fails keeps the values and revisions. -/
theorem keeps_setAll_failed (unwinds : Unwinds environment transaction) {error : Error A}
    (failed : outcome.2 = .error error)
    (ended : SetsAll environment now transaction before outcome) (parameter : A.Parameter) :
    Keeps before outcome.1 parameter := by
  have prepared := fun states => keeps_prepareTransactionPersistence environment states before
  cases ended with
  | refused => exact .refl _ _
  | @unprepared states _ _ captures prepares =>
    have kept := prepared states parameter
    rwa [prepares] at kept
  | @unwritten states done rest _ _ captures prepares split refused =>
    have kept := prepared states parameter
    rw [prepares] at kept
    refine kept.trans (.of_slot (captures.slot_undone captures.distinct split kept.value ?_))
    rintro state listed rfl _
    obtain written | undone := unwinds
    · exact absurd written (captures.write_refused refused)
    · obtain ⟨assignment, inAssignments, _, _, rfl⟩ := captures.exists_of_mem listed
      exact undone assignment inAssignments
  | committed => exact nomatch failed

/-- A transaction that is committed gives each changed parameter its next revision. -/
theorem moves_setAll_committed {update : TransactionUpdate} (committed : outcome.2 = .ok update)
    (ended : SetsAll environment now transaction before outcome)
    (captures : before.Captures transaction.assignments states) (parameter : A.Parameter) :
    Moves before outcome.1 parameter (transactionChange states parameter) := by
  cases ended with
  | @committed _ prepared recaptured prepares granted update =>
    obtain rfl := captures.unique recaptured
    have distinct : (states.map (·.parameter)).Nodup :=
      captures.map_parameter ▸ transaction.distinct
    have kept := keeps_prepareTransactionPersistence environment states before parameter
    rw [prepares] at kept
    by_cases assigned : parameter ∈ states.map (·.parameter)
    · obtain ⟨state, listed, rfl⟩ := mem_map.mp assigned
      have slot := slot_committed distinct listed now prepared
      rw [transactionChange_of_mem distinct listed]
      obtain ⟨assignment, _, normalized, _, rfl⟩ := captures.exists_of_mem listed
      split_ifs at slot ⊢ with changed
      · obtain ⟨value, revision⟩ := revision_commitSlot (A.commit assignment.parameter) now
          ((before.slot assignment.parameter).revision + 1) false
          ((prepared.slot assignment.parameter).commitValue normalized.value
            ((before.slot assignment.parameter).revision + 1))
        refine .changed rfl ?_ ?_ ?_
        · exact (congrArg Slot.value slot).trans value |>.symm
        · exact (congrArg Slot.revision slot).trans revision |>.symm
        · exact (congrArg Slot.revision slot).trans revision
      · exact .kept (kept.trans (.of_slot slot))
    · rw [transactionChange_of_not_mem assigned]
      exact .kept (kept.trans (.of_slot (slot_committed_of_not_mem assigned now prepared)))
  | _ => exact nomatch committed

end

end Facility

/-! ### What is owed to a registration -/

section

variable {C : ChangeCatalog A}

/-- The change of a dispatch, when it is for the registration. -/
def Dispatch.changeFor (registration : C.Registration) (dispatch : Dispatch C) :
    Option (Change (A.Value (C.parameterType registration))) :=
  if same : dispatch.registration = registration then some (same ▸ dispatch.change) else none

/-- The changes for the registration. -/
def changesFor (registration : C.Registration) (todo : List (Dispatch C)) :
    List (Change (A.Value (C.parameterType registration))) :=
  todo.filterMap (·.changeFor registration)

variable (registration : C.Registration)

/-- A pass over the change types dispatches to each registration at most once. -/
theorem changesFor_filterMap {dispatchFor : C.Registration → Option (Dispatch C)}
    (own : ∀ other dispatch, dispatchFor other = some dispatch → dispatch.registration = other) :
    changesFor registration (C.changeTypes.filterMap dispatchFor) =
      ((dispatchFor registration).bind (·.changeFor registration)).toList := by
  obtain ⟨earlier, later, split⟩ := append_of_mem (C.mem_changeTypes registration)
  have nodup := C.nodup_changeTypes
  rw [split, nodup_append, nodup_cons] at nodup
  have apart : ∀ others : List C.Registration, registration ∉ others →
      (others.filterMap fun other =>
        (dispatchFor other).bind (·.changeFor registration)) = [] := by
    intro others absent
    rw [filterMap_eq_nil_iff]
    intro other listed
    rw [bind_eq_none_iff]
    intro dispatch found
    refine dif_neg fun same => absent ?_
    rw [← same, own other dispatch found]
    exact listed
  have notEarlier : registration ∉ earlier := fun listed =>
    nodup.2.2 _ listed _ mem_cons_self rfl
  unfold changesFor
  rw [filterMap_filterMap, split, filterMap_append, filterMap_cons,
    apart earlier notEarlier, apart later nodup.2.1.1]
  cases (dispatchFor registration).bind (·.changeFor registration) <;> rfl

theorem changesFor_dispatches (parameter : A.Parameter) (change : Change (A.Value parameter)) :
    changesFor registration (dispatches C parameter change) =
      if same : C.parameterType registration = parameter then [same ▸ change] else [] := by
  unfold dispatches
  rw [changesFor_filterMap]
  · by_cases same : C.parameterType registration = parameter
    · subst same
      rw [dif_pos rfl, dif_pos rfl, bind_some, Dispatch.changeFor, dif_pos rfl]
      rfl
    · rw [dif_neg same, dif_neg same]
      rfl
  · intro other dispatch found
    split_ifs at found
    exact congrArg Dispatch.registration (some.inj found).symm

theorem changesFor_transactionDispatches (states : List (TransactionState A)) :
    changesFor registration (transactionDispatches C states) =
      (Facility.transactionChange states (C.parameterType registration)).toList := by
  unfold transactionDispatches
  rw [changesFor_filterMap]
  · congr 1
    unfold transactionDispatch Facility.transactionChange
    induction states with
    | nil => rfl
    | cons state rest ih =>
      rw [findSome?_cons, findSome?_cons, Facility.changeOf]
      by_cases same : C.parameterType registration = state.parameter
      · rw [dif_pos same, dif_pos same]
        by_cases changed : state.changed = true
        · rw [if_pos changed, if_pos changed]
          exact dif_pos rfl
        · rw [if_neg changed, if_neg changed]
          exact ih
      · rw [dif_neg same, dif_neg same]
        exact ih
  · intro other dispatch found
    obtain ⟨state, _, here⟩ := exists_of_findSome?_eq_some found
    split_ifs at here
    exact congrArg Dispatch.registration (some.inj here).symm

/-! ### What a call does -/

/-- The parameters that the call may change. -/
def Request.parameters : Request A → List A.Parameter
  | .set parameter _ _ _ => [parameter]
  | .reset parameter _ => [parameter]
  | .setAll transaction => transaction.assignments.map (·.parameter)

section

variable (environment : Environment A)

/-- The values of a transaction are written or undone. -/
def Request.Unwinds : Request A → Prop
  | .setAll transaction => Facility.Unwinds environment transaction
  | _ => True

theorem moves_setParameter (now : Nat) (parameter : A.Parameter) (candidate : A.Value parameter)
    (noWait reset : Bool) (origin : UpdateOrigin) (facility : Facility A) :
    ∃ change, Facility.Moves facility
        (facility.setParameter environment now parameter candidate noWait reset).1
        (C.parameterType registration) change ∧
      changesFor registration (setDispatches C facility parameter origin reset
        (facility.setParameter environment now parameter candidate noWait reset).2) =
          change.toList ∧
      (change.isSome = true → C.parameterType registration = parameter) := by
  have ended := (Facility.sets environment now parameter candidate noWait reset facility).value
  generalize facility.setParameter environment now parameter candidate noWait reset = outcome
    at ended ⊢
  obtain ⟨after, result⟩ := outcome
  cases ended with
  | failed keeps => exact ⟨none, .kept (keeps _), rfl, nofun⟩
  | unchanged unchanged keeps =>
    refine ⟨none, .kept (keeps _), ?_, nofun⟩
    simp only [setDispatches, unchanged]
    rfl
  | @changed update changed value revision next keeps =>
    simp only [setDispatches, if_pos changed, changesFor_dispatches]
    by_cases same : C.parameterType registration = parameter
    · subst same
      rw [dif_pos rfl]
      exact ⟨some _, .changed rfl value.symm revision.symm (revision.trans next), rfl, fun _ => rfl⟩
    · refine ⟨none, .kept (keeps _ same), ?_, nofun⟩
      rw [dif_neg same]
      rfl

/-- Every call keeps a parameter, or it gives it the next revision and each of its registrations one
change. -/
theorem moves_commit (now : Nat) (facility : Facility A) (request : Request A)
    (unwinds : request.Unwinds environment) :
    ∃ change, Facility.Moves facility (request.commit C environment now facility).1
        (C.parameterType registration) change ∧
      changesFor registration (request.commit C environment now facility).2 = change.toList ∧
      (change.isSome = true → C.parameterType registration ∈ request.parameters) := by
  cases request with
  | set parameter candidate noWait origin =>
    obtain ⟨change, moves, owed, assigned⟩ := moves_setParameter registration environment now
      parameter candidate noWait false origin facility
    exact ⟨change, moves, owed, fun some => mem_singleton.mpr (assigned some)⟩
  | reset parameter noWait =>
    obtain ⟨change, moves, owed, assigned⟩ := moves_setParameter registration environment now
      parameter (A.declaration parameter).defaultValue noWait true .reset facility
    exact ⟨change, moves, owed, fun some => mem_singleton.mpr (assigned some)⟩
  | setAll transaction =>
    have ended := Facility.setsAll environment now transaction facility
    have captures := @Facility.captures_transactionStates A environment now transaction facility
    simp only [Request.commit]
    generalize facility.setAllParameters environment now transaction = outcome at ended captures ⊢
    obtain ⟨after, error | update⟩ := outcome
    · exact ⟨none, .kept (Facility.keeps_setAll_failed unwinds rfl ended _), rfl, nofun⟩
    · have captured := captures rfl
      refine ⟨_, Facility.moves_setAll_committed rfl ended captured _,
        changesFor_transactionDispatches _ _, fun some => ?_⟩
      by_contra absent
      rw [Facility.transactionChange_of_not_mem (captured.map_parameter ▸ absent)] at some
      exact nomatch some

end

end

end Solar.Parameters
