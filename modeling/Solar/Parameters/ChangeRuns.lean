/-
This file follows the change hooks through whole runs, for one registration at a
time. The changes that are committed and not yet dispatched are owed to it. While
the oldest of them is always dispatched first, and the activation and the calls do
not overtake each other, the registration hears of every value or of one that
stands for it, and in the end it has heard of the current one. It ends with the two
ways in which the hooks go wrong.
-/

import Solar.Library.Owing
import Solar.Parameters.ChangeEffects

namespace Solar.Parameters

open List Option Function

open Lifecycle (SystemState)

variable {A : Architecture} {C : ChangeCatalog A}

/-! ### Steps in time -/

namespace BootStage

/-- The activation has come to the registration. -/
def Passed (registration : C.Registration) : BootStage C → Prop
  | .activating remaining => registration ∉ remaining
  | .invoking _ remaining => registration ∉ remaining
  | .activated => True
  | .ended => True
  | _ => False

/-- The activation has taken a change of the registration and not yet delivered it. -/
def Invokes (registration : C.Registration) : BootStage C → Prop
  | .invoking dispatch _ => dispatch.registration = registration
  | _ => False

/-- The activation comes to a registration once. -/
def Ordered : BootStage C → Prop
  | .activating remaining => remaining.Nodup
  | .invoking dispatch remaining => dispatch.registration ∉ remaining ∧ remaining.Nodup
  | _ => True

theorem Ordered.passed {stage : BootStage C} (ordered : stage.Ordered)
    {registration : C.Registration} (invokes : stage.Invokes registration) :
    stage.Passed registration := by
  cases stage with
  | invoking dispatch remaining =>
    obtain rfl := invokes
    exact ordered.1
  | _ => exact invokes.elim

end BootStage

namespace ChangeSystem

section

variable (system : ChangeSystem C)

/-- No call has an older change left for the same registration. -/
def Precedes (dispatch : Dispatch C) : Prop :=
  ∀ call ∈ system.calls, ∀ other ∈ call.todo, other.registration = dispatch.registration →
    dispatch.change.revision ≤ other.change.revision

/-- What is asked of the commit of a call: a transaction that fails undoes what it has written, and
the revisions do not run out. -/
def CommitsInTime (environment : Environment A) : Option (Call C) → Prop
  | some (.entered _ request) => request.Unwinds environment ∧
      ∀ parameter ∈ request.parameters, (system.facility.slot parameter).revision.toNat + 1 < 2 ^ 64
  | _ => True

/-- What is asked of a dispatch: the oldest change that is owed to the registration comes first. It
is left behind only for an activation that has yet to come to the registration, and delivered only
when none waits. -/
def DispatchesInTime : Option (Call C) → Prop
  | some (.dispatching deferred (dispatch :: _)) => system.Precedes dispatch ∧
      if deferred then ¬ system.stage.Passed dispatch.registration
      else system.pending dispatch.registration = none ∧
        ¬ system.stage.Invokes dispatch.registration
  | _ => True

def Timely : ChangeStep A → Prop
  | .commit environment index => system.CommitsInTime environment system.calls[index]?
  | .dispatch index => system.DispatchesInTime system.calls[index]?
  | _ => True

end

/-- The value that the registration was told last, or the one at the start. -/
def lastSeen (start : Facility A) (system : ChangeSystem C) (registration : C.Registration) :
    A.Value (C.parameterType registration) :=
  ((system.delivered registration).getLast?.map (·.newValue)).getD
    (start.slot (C.parameterType registration)).value

end ChangeSystem

/-! ### What the calls owe -/

/-- The changes for the registration that the calls have left. -/
def owedChanges (registration : C.Registration) (calls : List (Call C)) :
    List (Change (A.Value (C.parameterType registration))) :=
  calls.flatMap fun call => changesFor registration call.todo

variable {registration : C.Registration}

section

variable {calls : List (Call C)} {call other : Call C} {index : Nat}

theorem changesFor_cons_self (dispatch : Dispatch C) (rest : List (Dispatch C)) :
    changesFor dispatch.registration (dispatch :: rest) =
      dispatch.change :: changesFor dispatch.registration rest := by
  unfold changesFor
  rw [filterMap_cons, Dispatch.changeFor, dif_pos rfl]

theorem changesFor_cons_of_ne {dispatch : Dispatch C}
    (different : dispatch.registration ≠ registration) (rest : List (Dispatch C)) :
    changesFor registration (dispatch :: rest) = changesFor registration rest := by
  unfold changesFor
  rw [filterMap_cons, Dispatch.changeFor, dif_neg different]

theorem mem_owedChanges {change : Change (A.Value (C.parameterType registration))}
    (owed : change ∈ owedChanges registration calls) :
    ∃ call ∈ calls, ⟨registration, change⟩ ∈ call.todo := by
  obtain ⟨call, listed, found⟩ := mem_flatMap.mp owed
  obtain ⟨dispatch, inTodo, same⟩ := mem_filterMap.mp found
  refine ⟨call, listed, ?_⟩
  unfold Dispatch.changeFor at same
  split_ifs at same with own
  subst own
  obtain ⟨⟩ := same
  exact inTodo

theorem owedChanges_get (found : calls[index]? = some call) :
    (owedChanges registration calls).Perm
      (changesFor registration call.todo ++ owedChanges registration (calls.eraseIdx index)) := by
  obtain ⟨bound, rfl⟩ := List.getElem?_eq_some_iff.mp found
  exact (getElem_cons_eraseIdx_perm bound).symm.flatMap_right _

theorem owedChanges_set (found : calls[index]? = some call) :
    (owedChanges registration (calls.set index other)).Perm
      (changesFor registration other.todo ++ owedChanges registration (calls.eraseIdx index)) := by
  obtain ⟨bound, _⟩ := List.getElem?_eq_some_iff.mp found
  exact (set_perm_cons_eraseIdx bound other).flatMap_right _

end

/-! ### What a registration knows -/

/-- The values of the parameter are counted by its revisions. A registration was told of them up to
one, and of each later one it is owed the change. -/
structure News (registration : C.Registration) (facility : Facility A) (calls : List (Call C))
    (history : Nat → A.Value (C.parameterType registration)) (told : Nat) : Prop where
  current : (facility.slot (C.parameterType registration)).value =
    history (facility.slot (C.parameterType registration)).revision.toNat
  owes : Owing.Owes ((owedChanges registration calls).map (·.revision.toNat)) told
    (facility.slot (C.parameterType registration)).revision.toNat
  exact : ∀ change ∈ owedChanges registration calls,
    change.oldValue = history (change.revision.toNat - 1) ∧
      change.newValue = history change.revision.toNat

/-- The value of the revision that a registration was told of was delivered, or it waits, or the
activation is about to deliver it. -/
inductive Hears (registration : C.Registration) (start : Facility A) (system : ChangeSystem C)
    (value : A.Value (C.parameterType registration)) (told : Nat) : Prop
  | idle (none : system.pending registration = none)
      (apart : ¬ system.stage.Invokes registration)
      (heard : system.lastSeen start registration = value)
      (past : ∀ change ∈ system.delivered registration, change.revision.toNat ≤ told)
  | waits (change : Change (A.Value (C.parameterType registration)))
      (waiting : system.pending registration = some change)
      (ahead : ¬ system.stage.Passed registration) (revision : change.revision.toNat = told)
      (new : change.newValue = value) (old : change.oldValue = system.lastSeen start registration)
      (past : ∀ change ∈ system.delivered registration, change.revision.toNat < told)
  | taken (change : Change (A.Value (C.parameterType registration)))
      (remaining : List C.Registration) (none : system.pending registration = none)
      (stage : system.stage = .invoking ⟨registration, change⟩ remaining)
      (revision : change.revision.toNat = told) (new : change.newValue = value)
      (past : ∀ change ∈ system.delivered registration, change.revision.toNat < told)

/-- The invariant of a run, for one registration. -/
structure Follows (registration : C.Registration) (start : Facility A)
    (system : ChangeSystem C) : Prop where
  ordered : system.stage.Ordered
  ended : system.systemState = .running → system.stage = .ended
  increasing : ((system.delivered registration).map (·.revision)).Pairwise (· < ·)
  follows : ∃ history told, News registration system.facility system.calls history told ∧
    Hears registration start system (history told) told

variable {start : Facility A} {change : Change (A.Value (C.parameterType registration))}

section

variable {system next : ChangeSystem C} {value : A.Value (C.parameterType registration)}
  {told : Nat}

theorem lastSeen_eq (delivered : next.delivered registration = system.delivered registration) :
    next.lastSeen start registration = system.lastSeen start registration := by
  unfold ChangeSystem.lastSeen
  rw [delivered]

theorem lastSeen_append
    (delivered : next.delivered registration = system.delivered registration ++ [change]) :
    next.lastSeen start registration = change.newValue := by
  unfold ChangeSystem.lastSeen
  rw [delivered, getLast?_concat]
  rfl

theorem Hears.of_stage (hears : Hears registration start system value told)
    (apart : ¬ system.stage.Invokes registration → ¬ next.stage.Invokes registration)
    (ahead : next.stage.Passed registration → system.stage.Passed registration)
    (invokes : system.stage.Invokes registration → next.stage = system.stage)
    (pending : next.pending registration = system.pending registration)
    (delivered : next.delivered registration = system.delivered registration) :
    Hears registration start next value told := by
  cases hears with
  | idle none elsewhere heard past =>
    exact .idle (pending.trans none) (apart elsewhere) ((lastSeen_eq delivered).trans heard)
      (delivered ▸ past)
  | waits change waiting notPassed revision new old past =>
    exact .waits change (pending.trans waiting) (fun passed => notPassed (ahead passed)) revision
      new (old.trans (lastSeen_eq delivered).symm) (delivered ▸ past)
  | taken change remaining none invoking revision new past =>
    exact .taken change remaining (pending.trans none)
      ((invokes (by rw [invoking]; rfl)).trans invoking) revision new (delivered ▸ past)

theorem Hears.of_eq (hears : Hears registration start system value told)
    (stage : next.stage = system.stage)
    (pending : next.pending registration = system.pending registration)
    (delivered : next.delivered registration = system.delivered registration) :
    Hears registration start next value told :=
  hears.of_stage (stage ▸ id) (stage ▸ id) (fun _ => stage) pending delivered

theorem Hears.of_delivered (none : next.pending registration = none)
    (apart : ¬ next.stage.Invokes registration)
    (delivered : next.delivered registration = system.delivered registration ++ [change])
    (past : ∀ other ∈ system.delivered registration, other.revision.toNat < change.revision.toNat) :
    Hears registration start next change.newValue change.revision.toNat := by
  refine .idle none apart (lastSeen_append delivered) fun other listed => ?_
  rw [delivered, mem_append, mem_singleton] at listed
  obtain earlier | rfl := listed
  · exact Nat.le_of_lt (past other earlier)
  · exact le_rfl

theorem pairwise_append_revision
    {delivered : List (Change (A.Value (C.parameterType registration)))}
    (increasing : (delivered.map (·.revision)).Pairwise (· < ·))
    (past : ∀ other ∈ delivered, other.revision.toNat < change.revision.toNat) :
    ((delivered ++ [change]).map (·.revision)).Pairwise (· < ·) := by
  rw [map_append, pairwise_append]
  refine ⟨increasing, pairwise_singleton _ _, fun revision listed last same => ?_⟩
  obtain ⟨other, earlier, rfl⟩ := mem_map.mp listed
  obtain rfl := mem_singleton.mp same
  exact UInt64.lt_iff_toNat_lt.mpr (past other earlier)

end

/-! ### The steps of the boot -/

section

variable {system next : ChangeSystem C}

theorem Follows.of_hears (follows : Follows registration start system)
    (facility : next.facility = system.facility)
    (owed : (owedChanges registration next.calls).Perm (owedChanges registration system.calls))
    (ordered : next.stage.Ordered) (ended : next.systemState = .running → next.stage = .ended)
    (increasing : ((next.delivered registration).map (·.revision)).Pairwise (· < ·))
    (hears : ∀ value told, Hears registration start system value told →
      Hears registration start next value told) : Follows registration start next := by
  obtain ⟨history, told, news, heard⟩ := follows.follows
  refine ⟨ordered, ended, increasing, history, told, ⟨?_, ?_, ?_⟩, hears _ _ heard⟩
  · rw [facility]
    exact news.current
  · rw [facility]
    exact news.owes.of_perm (owed.map _)
  · exact fun change listed => news.exact change (owed.subset listed)

theorem Follows.of_stage (follows : Follows registration start system)
    (facility : next.facility = system.facility) (calls : next.calls = system.calls)
    (ordered : next.stage.Ordered) (ended : next.systemState = .running → next.stage = .ended)
    (before : ¬ system.stage.Invokes registration) (after : ¬ next.stage.Invokes registration)
    (ahead : next.stage.Passed registration → system.stage.Passed registration)
    (pending : next.pending registration = system.pending registration)
    (delivered : next.delivered registration = system.delivered registration) :
    Follows registration start next :=
  follows.of_hears facility (by rw [calls]) ordered ended (delivered ▸ follows.increasing)
    fun _ _ hears => hears.of_stage (fun _ => after) ahead (absurd · before) pending delivered

theorem take_cases (system : ChangeSystem C) (other : C.Registration)
    (remaining : List C.Registration) :
    ∃ stage, system.take other remaining = { system with
        pending := update system.pending other none
        stage } ∧
      (stage = .activating remaining ∧ (∀ change, system.pending other = some change →
          change.oldValue = change.newValue) ∨
        ∃ change, system.pending other = some change ∧
          stage = .invoking ⟨other, change⟩ remaining) := by
  unfold ChangeSystem.take
  cases waiting : system.pending other with
  | none => exact ⟨_, rfl, .inl ⟨rfl, nofun⟩⟩
  | some change =>
    by_cases same : change.oldValue = change.newValue
    · simp only [if_pos same]
      exact ⟨_, rfl, .inl ⟨rfl, fun other found => some.inj found ▸ same⟩⟩
    · simp only [if_neg same]
      exact ⟨_, rfl, .inr ⟨change, rfl, rfl⟩⟩

variable {remaining : List C.Registration}

/-- The activation takes what waits for the registration. -/
theorem Hears.of_take {value : A.Value (C.parameterType registration)} {told : Nat}
    (hears : Hears registration start system value told)
    (stage : system.stage = .activating (registration :: remaining)) :
    Hears registration start (system.take registration remaining) value told := by
  obtain ⟨taking, taken, outcome⟩ := take_cases system registration remaining
  rw [taken]
  have empty : update system.pending registration none registration = none :=
    update_self ..
  cases hears with
  | idle none apart heard past =>
    obtain ⟨rfl, _⟩ | ⟨change, waiting, _⟩ := outcome
    · exact .idle empty not_false heard past
    · rw [none] at waiting
      exact nomatch waiting
  | waits change waiting ahead revision new old past =>
    obtain ⟨rfl, unchanged⟩ | ⟨other, found, rfl⟩ := outcome
    · refine .idle empty not_false ?_ fun change listed => Nat.le_of_lt (past change listed)
      exact old.symm.trans ((unchanged change waiting).trans new)
    · obtain ⟨⟩ := waiting.symm.trans found
      exact .taken change remaining empty rfl revision new past
  | taken change remaining none invoking revision new past =>
    rw [stage] at invoking
    exact nomatch invoking

section

variable (follows : Follows registration start system)

include follows

theorem Follows.not_running (stage : system.stage ≠ .ended) : system.systemState ≠ .running :=
  fun running => stage (follows.ended running)

theorem Follows.of_take {other : C.Registration}
    (stage : system.stage = .activating (other :: remaining)) :
    Follows registration start (system.take other remaining) := by
  have ordered := follows.ordered
  rw [stage] at ordered
  obtain ⟨absent, nodup⟩ := nodup_cons.mp ordered
  have notRunning := follows.not_running (by rw [stage]; exact nofun)
  obtain ⟨taking, taken, outcome⟩ := take_cases system other remaining
  have ordered : taking.Ordered := by
    obtain ⟨rfl, _⟩ | ⟨change, _, rfl⟩ := outcome
    · exact nodup
    · exact ⟨absent, nodup⟩
  by_cases same : other = registration
  · subst same
    refine follows.of_hears ?_ ?_ ?_ ?_ ?_ fun value told hears => hears.of_take stage
    all_goals rw [taken]
    · exact ordered
    · exact fun running => absurd running notRunning
    · exact follows.increasing
  · rw [taken]
    refine follows.of_stage rfl rfl ordered (fun running => absurd running notRunning) ?_ ?_ ?_
      (update_of_ne (Ne.symm same) _ _) rfl
    · rw [stage]
      exact not_false
    · obtain ⟨rfl, _⟩ | ⟨change, _, rfl⟩ := outcome
      · exact not_false
      · exact same
    · rw [stage]
      have later : registration ∉ remaining → registration ∉ other :: remaining :=
        fun notLater listed => notLater ((mem_cons.mp listed).resolve_left (Ne.symm same))
      obtain ⟨rfl, _⟩ | ⟨change, _, rfl⟩ := outcome
      · exact later
      · exact later

/-- The activation delivers what it took. -/
theorem Follows.of_invoke {dispatch : Dispatch C}
    (stage : system.stage = .invoking dispatch remaining) :
    Follows registration start { system.deliver dispatch with stage := .activating remaining } := by
  have ordered := follows.ordered
  rw [stage] at ordered
  have notRunning := follows.not_running (by rw [stage]; exact nofun)
  obtain ⟨other, change⟩ := dispatch
  by_cases same : other = registration
  · subst same
    have delivered : (system.deliver ⟨other, change⟩).delivered other =
        system.delivered other ++ [change] := update_self ..
    obtain ⟨history, told, news, hears⟩ := follows.follows
    cases hears with
    | idle none apart heard past =>
      rw [stage] at apart
      exact absurd rfl apart
    | waits waiting found ahead revision new old past =>
      rw [stage] at ahead
      exact absurd ordered.1 ahead
    | taken taken later none invoking revision new past =>
      rw [stage] at invoking
      obtain ⟨same, rfl⟩ := BootStage.invoking.inj invoking
      obtain rfl := eq_of_heq (Dispatch.mk.inj same).2
      rw [← revision] at past
      refine ⟨ordered.2, fun running => absurd running notRunning, ?_, history, told, news, ?_⟩
      · exact (congrArg (Pairwise _ <| map _ ·) delivered).mpr
          (pairwise_append_revision follows.increasing past)
      · rw [← new, ← revision]
        exact .of_delivered none not_false delivered past
  · refine follows.of_stage rfl rfl ordered.2 (fun running => absurd running notRunning) ?_
      not_false ?_ rfl (update_of_ne (Ne.symm same) _ _)
    · rw [stage]
      exact same
    · rw [stage]
      exact id

end

end

/-! ### The steps of the calls -/

section

variable {system : ChangeSystem C} {index : Nat}

theorem Follows.of_calls (follows : Follows registration start system) {calls : List (Call C)}
    (owed : (owedChanges registration calls).Perm (owedChanges registration system.calls)) :
    Follows registration start { system with calls } :=
  follows.of_hears rfl owed follows.ordered follows.ended follows.increasing
    fun _ _ hears => hears.of_eq rfl rfl rfl

/-- A call commits. -/
theorem Follows.of_commit (follows : Follows registration start system) {call other : Call C}
    {facility : Facility A} {change : Option (Change (A.Value (C.parameterType registration)))}
    (found : system.calls[index]? = some call) (nothing : call.todo = [])
    (moves : Facility.Moves system.facility facility (C.parameterType registration) change)
    (owed : changesFor registration other.todo = change.toList)
    (lasts : change.isSome = true →
      (system.facility.slot (C.parameterType registration)).revision.toNat + 1 < 2 ^ 64) :
    Follows registration start
      { system with facility, calls := system.calls.set index other } := by
  obtain ⟨history, told, news, hears⟩ := follows.follows
  have perm : (owedChanges registration (system.calls.set index other)).Perm
      (change.toList ++ owedChanges registration system.calls) := by
    have before := @owedChanges_get A C registration _ _ _ found
    have after := @owedChanges_set A C registration _ _ other _ found
    rw [nothing] at before
    rw [owed] at after
    exact after.trans (before.symm.append_left _)
  cases moves with
  | kept keeps =>
    refine ⟨follows.ordered, follows.ended, follows.increasing, history, told, ⟨?_, ?_, ?_⟩,
      hears.of_eq rfl rfl rfl⟩
    · exact keeps.value.trans (keeps.revision ▸ news.current)
    · rw [keeps.revision]
      exact news.owes.of_perm (perm.map _)
    · exact fun change listed => news.exact change (perm.subset listed)
  | @changed change old new revision next =>
    have counts : (facility.slot (C.parameterType registration)).revision.toNat =
        (system.facility.slot (C.parameterType registration)).revision.toNat + 1 := by
      rw [next]
      exact Nat.mod_eq_of_lt (lasts rfl)
    have within := news.owes.le
    generalize latest : (system.facility.slot (C.parameterType registration)).revision.toNat = last
      at counts within
    have newest : change.revision.toNat = last + 1 := (congrArg UInt64.toNat revision).trans counts
    refine ⟨follows.ordered, follows.ended, follows.increasing,
      update history (last + 1) change.newValue, told, ⟨?_, ?_, ?_⟩, ?_⟩
    · rw [counts, update_self]
      exact new.symm
    · have grown := latest ▸ news.owes.grow
      rw [counts]
      refine grown.of_perm ((perm.map _).trans ?_)
      rw [toList_some, singleton_append, map_cons, newest]
      exact (perm_append_singleton _ _).symm
    · intro other listed
      obtain rfl | earlier := mem_cons.mp (perm.subset listed)
      · rw [newest, update_self, Nat.add_sub_cancel,
          update_of_ne (Nat.lt_succ_self last).ne, old, news.current, latest]
        exact ⟨rfl, rfl⟩
      · obtain ⟨positive, bounded⟩ := news.owes.mem_iff.mp (mem_map_of_mem earlier)
        rw [update_of_ne (by omega), update_of_ne (by omega)]
        exact news.exact other earlier
    · rw [update_of_ne (by omega)]
      exact hears.of_eq rfl rfl rfl

theorem News.next {facility : Facility A} {calls others : List (Call C)}
    {history : Nat → A.Value (C.parameterType registration)} {told : Nat}
    (news : News registration facility calls history told)
    (perm : (owedChanges registration calls).Perm (change :: owedChanges registration others))
    (first : ∀ other ∈ owedChanges registration calls, change.revision ≤ other.revision) :
    change.revision.toNat = told + 1 ∧ change.oldValue = history told ∧
      change.newValue = history (told + 1) ∧
      News registration facility others history (told + 1) := by
  have owes := news.owes.of_perm (perm.map (·.revision.toNat)).symm
  obtain ⟨revision, later⟩ := owes.next fun other listed => by
    obtain ⟨owed, inOthers, rfl⟩ := mem_map.mp listed
    exact UInt64.le_iff_toNat_le.mp (first owed (perm.symm.subset (mem_cons_of_mem _ inOthers)))
  have revision : change.revision.toNat = told + 1 := revision
  obtain ⟨old, new⟩ := news.exact change (perm.symm.subset mem_cons_self)
  rw [revision] at old new
  exact ⟨revision, old, new, news.current, later,
    fun other listed => news.exact other (perm.symm.subset (mem_cons_of_mem _ listed))⟩

section

variable (follows : Follows registration start system)

include follows

/-- A call dispatches to another registration. -/
theorem Follows.of_dispatch_of_ne {deferred : Bool} {dispatch : Dispatch C}
    {rest : List (Dispatch C)}
    (found : system.calls[index]? = some (.dispatching deferred (dispatch :: rest)))
    (different : dispatch.registration ≠ registration)
    {pending : (registration : C.Registration) →
      Option (Change (A.Value (C.parameterType registration)))}
    (samePending : pending registration = system.pending registration)
    {delivered : (registration : C.Registration) →
      List (Change (A.Value (C.parameterType registration)))}
    (sameDelivered : delivered registration = system.delivered registration) :
    Follows registration start { system with
      calls := system.calls.set index (.dispatching deferred rest)
      pending
      delivered } := by
  have increasing := follows.increasing
  rw [← sameDelivered] at increasing
  refine follows.of_hears rfl ?_ follows.ordered follows.ended increasing
    fun _ _ hears => hears.of_eq rfl samePending sameDelivered
  have before := @owedChanges_get A C registration _ _ _ found
  rw [Call.todo, changesFor_cons_of_ne different] at before
  exact (owedChanges_set found).trans before.symm

/-- A call dispatches to the registration. -/
theorem Follows.of_dispatch {deferred : Bool} {rest : List (Dispatch C)}
    (found : system.calls[index]? = some (.dispatching deferred (⟨registration, change⟩ :: rest)))
    (precedes : system.Precedes ⟨registration, change⟩)
    (timely : if deferred then ¬ system.stage.Passed registration
      else system.pending registration = none ∧ ¬ system.stage.Invokes registration)
    {moved : ChangeSystem C}
    (movedEq : moved =
      { system with calls := system.calls.set index (.dispatching deferred rest) }) :
    Follows registration start (if deferred then moved.defer ⟨registration, change⟩
      else moved.deliver ⟨registration, change⟩) := by
  subst movedEq
  obtain ⟨history, told, news, hears⟩ := follows.follows
  have perm : (owedChanges registration system.calls).Perm (change ::
      owedChanges registration (system.calls.set index (.dispatching deferred rest))) := by
    have before := @owedChanges_get A C registration _ _ _ found
    have after := @owedChanges_set A C registration _ _ (.dispatching deferred rest) _ found
    rw [Call.todo, changesFor_cons_self ⟨registration, change⟩] at before
    exact before.trans (after.symm.cons change)
  obtain ⟨revision, old, new, later⟩ := news.next perm fun other owed => by
    obtain ⟨call, listed, inTodo⟩ := mem_owedChanges owed
    exact precedes call listed _ inTodo rfl
  cases deferred with
  | true =>
    refine ⟨follows.ordered, follows.ended, follows.increasing, history, told + 1, later, ?_⟩
    cases hears with
    | idle none apart heard past =>
      refine .waits change ?_ timely revision new (old.trans heard.symm) fun other listed =>
        Nat.lt_succ_of_le (past other listed)
      exact (update_self ..).trans (by rw [none])
    | waits waiting found ahead _ _ oldest past =>
      refine .waits (waiting.coalesce change) ?_ timely revision new oldest fun other listed =>
        Nat.lt_succ_of_lt (past other listed)
      exact (update_self ..).trans (by rw [found])
    | taken taken remaining none invoking _ _ past =>
      refine absurd (follows.ordered.passed ?_) timely
      rw [invoking]
      rfl
  | false =>
    obtain ⟨none, apart⟩ := timely
    have delivered : (ChangeSystem.deliver { system with
        calls := system.calls.set index (.dispatching false rest) }
          ⟨registration, change⟩).delivered registration =
        system.delivered registration ++ [change] := update_self ..
    cases hears with
    | idle _ _ heard past =>
      have past : ∀ other ∈ system.delivered registration,
          other.revision.toNat < change.revision.toNat := fun other listed =>
        revision ▸ Nat.lt_succ_of_le (past other listed)
      refine ⟨follows.ordered, follows.ended, ?_, history, told + 1, later, ?_⟩
      · exact (congrArg (Pairwise _ <| map _ ·) delivered).mpr
          (pairwise_append_revision follows.increasing past)
      · rw [← new, ← revision]
        exact .of_delivered none apart delivered past
    | waits waiting found =>
      rw [none] at found
      exact nomatch found
    | taken taken remaining _ invoking =>
      rw [invoking] at apart
      exact absurd rfl apart

/-- Every step in time keeps the invariant. -/
theorem Follows.of_step {step : ChangeStep A} (timely : system.Timely step) {next : ChangeSystem C}
    (stepped : system.step step = some next) : Follows registration start next := by
  cases step with simp only [ChangeSystem.step] at stepped
  | elapse ticks =>
    cases stepped
    exact follows.of_hears rfl (.refl _) follows.ordered follows.ended follows.increasing
      fun _ _ hears => hears.of_eq rfl rfl rfl
  | openFacility =>
    split at stepped
    next stage =>
      have notRunning := follows.not_running (by rw [stage]; exact nofun)
      cases stepped
      exact follows.of_stage rfl rfl trivial (fun running => absurd running notRunning)
        (by rw [stage]; exact not_false) not_false False.elim rfl rfl
    · exact nomatch stepped
  | activate =>
    split at stepped
    next stage =>
      have notRunning := follows.not_running (by rw [stage]; exact nofun)
      cases stepped
      exact follows.of_stage rfl rfl C.nodup_changeTypes (fun running => absurd running notRunning)
        (by rw [stage]; exact not_false) not_false
        (fun passed => absurd (C.mem_changeTypes registration) passed) rfl rfl
    · exact nomatch stepped
  | take =>
    split at stepped
    next stage =>
      cases stepped
      exact follows.of_take stage
    · exact nomatch stepped
  | invoke =>
    split at stepped
    next stage =>
      cases stepped
      exact follows.of_invoke stage
    · exact nomatch stepped
  | finish =>
    split at stepped
    next stage =>
      have notRunning := follows.not_running (by rw [stage]; exact nofun)
      cases stepped
      exact follows.of_stage rfl rfl trivial (fun running => absurd running notRunning)
        (by rw [stage]; exact not_false) not_false
        (fun _ => by rw [stage]; exact not_mem_nil) rfl rfl
    · exact nomatch stepped
  | run =>
    split at stepped
    next stage =>
      cases stepped
      exact follows.of_stage rfl rfl trivial (fun _ => rfl) (by rw [stage]; exact not_false)
        not_false (fun _ => by rw [stage]; exact trivial) rfl rfl
    · exact nomatch stepped
  | halt state closes =>
    split_ifs at stepped with halted
    cases stepped
    refine follows.of_hears rfl (.refl _) follows.ordered ?_ follows.increasing
      fun _ _ hears => hears.of_eq rfl rfl rfl
    rintro rfl
    exact nomatch halted
  | enter request =>
    split_ifs at stepped
    · cases stepped
      refine follows.of_calls ?_
      rw [owedChanges, flatMap_append]
      exact .of_eq (append_nil _)
    · cases stepped
      exact follows
  | commit environment index =>
    split at stepped
    next observed request found =>
      have timely : system.CommitsInTime environment system.calls[index]? := timely
      rw [found] at timely
      obtain ⟨unwinds, lasts⟩ := timely
      obtain ⟨change, moves, owed, assigned⟩ := moves_commit registration
        { environment with entry := .ok () } system.now system.facility request
        (by cases request <;> exact unwinds)
      cases stepped
      exact follows.of_commit found rfl moves owed fun some => lasts _ (assigned some)
    · exact nomatch stepped
  | decideDeferred index =>
    split at stepped
    next observed todo found =>
      cases stepped
      exact follows.of_calls ((owedChanges_set found).trans (owedChanges_get found).symm)
    · exact nomatch stepped
  | dispatch index =>
    simp only [ChangeSystem.dispatchCall] at stepped
    split at stepped
    next deferred dispatch rest found =>
      have timely : system.DispatchesInTime system.calls[index]? := timely
      rw [found] at timely
      obtain ⟨precedes, inTime⟩ := timely
      cases stepped
      obtain ⟨other, change⟩ := dispatch
      by_cases same : other = registration
      · subst same
        exact follows.of_dispatch found precedes inTime rfl
      · split_ifs
        · exact follows.of_dispatch_of_ne found same (update_of_ne (Ne.symm same) _ _) rfl
        · exact follows.of_dispatch_of_ne found same rfl (update_of_ne (Ne.symm same) _ _)
    next deferred found =>
      cases stepped
      exact follows.of_calls (owedChanges_get found).symm
    · exact nomatch stepped
  | _ =>
    split at stepped
    next stage =>
      cases stepped
      exact follows.of_stage rfl rfl trivial nofun (by rw [stage]; exact not_false) not_false
        False.elim rfl rfl
    · exact nomatch stepped

end

theorem follows_start : Follows registration start ({ facility := start } : ChangeSystem C) where
  ordered := trivial
  ended := nofun
  increasing := .nil
  follows := ⟨fun _ => (start.slot (C.parameterType registration)).value, _,
    ⟨rfl, .refl _, fun _ listed => absurd listed not_mem_nil⟩, .idle rfl not_false rfl nofun⟩

/-- The change hooks end with the current value: in every run whose steps are in time, the revisions
that a registration is told grow, and once the system runs and no call is under way, nothing waits
and the value told last, or the one at the start, is the parameter's. -/
theorem hooks_end_with_the_current_value {start : Facility A} {system : ChangeSystem C}
    (reached : (changeMachine C).ReachableWhere ChangeSystem.Timely { facility := start } system)
    (registration : C.Registration) :
    ((system.delivered registration).map (·.revision)).Pairwise (· < ·) ∧
      (system.systemState = .running → system.calls = [] →
        system.pending registration = none ∧ system.lastSeen start registration =
          (system.facility.slot (C.parameterType registration)).value) := by
  have follows : Follows registration start system :=
    reached.invariant (Follows registration start) follows_start
      fun _ _ _ holds timely stepped => holds.of_step timely stepped
  refine ⟨follows.increasing, fun running idle => ?_⟩
  have stage := follows.ended running
  obtain ⟨history, told, news, hears⟩ := follows.follows
  have owes := news.owes
  rw [idle] at owes
  cases hears with
  | idle none _ heard => exact ⟨none, by rw [heard, news.current, owes.eq_of_nil]⟩
  | waits change _ ahead =>
    rw [stage] at ahead
    exact absurd trivial ahead
  | taken change remaining _ invoking =>
    rw [stage] at invoking
    exact nomatch invoking

end

/-! ### Hooks of one parameter -/

namespace ChangeSystem

/-- Two handlers for one of the two limits. -/
abbrev limitsChanges : ChangeCatalog System.limitsArchitecture where
  Registration := Bool
  changeTypes := [false, true]
  parameterType _ := true
  mem_changeTypes := System.mem_bools
  nodup_changeTypes := System.nodup_bools

section

variable (system : ChangeSystem C)

instance decidableUnwinds (environment : Environment A) :
    ∀ request : Request A, Decidable (request.Unwinds environment)
  | .set .. => isTrue trivial
  | .reset .. => isTrue trivial
  | .setAll _ => inferInstanceAs (Decidable (_ ∨ _))

instance decidablePassed (registration : C.Registration) :
    ∀ stage : BootStage C, Decidable (stage.Passed registration)
  | .activating _ => inferInstanceAs (Decidable (_ ∉ _))
  | .invoking _ _ => inferInstanceAs (Decidable (_ ∉ _))
  | .activated => isTrue trivial
  | .ended => isTrue trivial
  | .dormant => isFalse not_false
  | .initializing => isFalse not_false
  | .opened => isFalse not_false
  | .starting => isFalse not_false

instance decidableInvokes (registration : C.Registration) :
    ∀ stage : BootStage C, Decidable (stage.Invokes registration)
  | .invoking _ _ => inferInstanceAs (Decidable (_ = _))
  | .activating _ => isFalse not_false
  | .activated => isFalse not_false
  | .ended => isFalse not_false
  | .dormant => isFalse not_false
  | .initializing => isFalse not_false
  | .opened => isFalse not_false
  | .starting => isFalse not_false

instance decidablePrecedes (dispatch : Dispatch C) : Decidable (system.Precedes dispatch) :=
  inferInstanceAs (Decidable (∀ call ∈ system.calls, ∀ other ∈ call.todo, _ → _))

instance decidableCommitsInTime (environment : Environment A) :
    ∀ call, Decidable (system.CommitsInTime environment call)
  | some (.entered _ _) => inferInstanceAs (Decidable (_ ∧ _))
  | some (.committed _ _) => isTrue trivial
  | some (.dispatching _ _) => isTrue trivial
  | none => isTrue trivial

instance decidableDispatchesInTime : ∀ call, Decidable (system.DispatchesInTime call)
  | some (.dispatching _ (_ :: _)) => inferInstanceAs (Decidable (_ ∧ _))
  | some (.dispatching _ []) => isTrue trivial
  | some (.entered _ _) => isTrue trivial
  | some (.committed _ _) => isTrue trivial
  | none => isTrue trivial

instance decidableTimely : ∀ label, Decidable (system.Timely label)
  | .commit environment _ => system.decidableCommitsInTime environment _
  | .dispatch _ => system.decidableDispatchesInTime _
  | .elapse _ => isTrue trivial
  | .initializes => isTrue trivial
  | .openFacility => isTrue trivial
  | .start => isTrue trivial
  | .activate => isTrue trivial
  | .take => isTrue trivial
  | .invoke => isTrue trivial
  | .finish => isTrue trivial
  | .run => isTrue trivial
  | .halt _ _ => isTrue trivial
  | .enter _ => isTrue trivial
  | .decideDeferred _ => isTrue trivial

end

def limitsDormant : ChangeSystem limitsChanges where
  facility := System.limitsStart.facility

/-- The boot before the activation, the activation, and the end of the boot. -/
def limitsOpened : List (ChangeStep System.limitsArchitecture) :=
  [.initializes, .openFacility, .start]

def limitsActivated : List (ChangeStep System.limitsArchitecture) :=
  [.activate, .take, .take, .finish, .run]

/-- A call of the running system dispatches to both handlers. -/
def limitsTold : List (ChangeStep System.limitsArchitecture) :=
  limitsOpened ++ limitsActivated ++
    [.enter (.set true (20 : UInt8) false .localSet), .commit {} 0, .decideDeferred 0, .dispatch 0,
      .dispatch 0, .dispatch 0]

theorem hooks_end_with_the_current_limit :
    ∃ system, (changeMachine limitsChanges).ReachableWhere Timely limitsDormant system ∧
      system.systemState = .running ∧ system.calls = [] ∧
      (system.delivered true).map (·.newValue) = [(20 : UInt8)] ∧
      (((system.delivered true).map (·.revision)).Pairwise (· < ·) ∧
        (system.systemState = .running → system.calls = [] →
          system.pending true = none ∧ system.lastSeen System.limitsStart.facility true =
            (system.facility.slot (limitsChanges.parameterType true)).value)) := by
  have reached := (changeMachine limitsChanges).reachableWhere_get Timely limitsDormant limitsTold
    (by decide) (by decide)
  exact ⟨_, reached, by decide, length_eq_zero_iff.mp (by decide), by decide,
    hooks_end_with_the_current_value reached true⟩

/-- In the first delivery the handler makes another call. -/
def limitsNested : List (ChangeStep System.limitsArchitecture) :=
  limitsOpened ++ limitsActivated ++
    [.enter (.set true (20 : UInt8) false .localSet), .commit {} 0, .decideDeferred 0, .dispatch 0,
      .enter (.set true (30 : UInt8) false .localSet), .commit {} 1, .decideDeferred 1, .dispatch 1,
      .dispatch 1, .dispatch 1, .dispatch 0, .dispatch 0]

/-- Of two calls before the activation, the second leaves its changes behind first. -/
def limitsReversed : List (ChangeStep System.limitsArchitecture) :=
  limitsOpened ++ [.enter (.set true (20 : UInt8) false .localSet), .commit {} 0, .decideDeferred 0,
      .enter (.set true (30 : UInt8) false .localSet), .commit {} 1, .decideDeferred 1, .dispatch 1,
      .dispatch 1, .dispatch 1, .dispatch 0, .dispatch 0, .dispatch 0] ++ limitsActivated

/-- A call that has begun before the activation commits after it. -/
def limitsOverdue : List (ChangeStep System.limitsArchitecture) :=
  limitsOpened ++ [.enter (.set true (20 : UInt8) false .localSet)] ++ limitsActivated ++
    [.commit {} 0, .decideDeferred 0, .dispatch 0, .dispatch 0, .dispatch 0]

theorem hooks_miss_the_current_value :
    (∃ system, (changeMachine limitsChanges).Reachable limitsDormant system ∧
      system.systemState = .running ∧ system.calls = [] ∧
      ¬ ((system.delivered true).map (·.revision)).Pairwise (· < ·) ∧
      (system.lastSeen System.limitsStart.facility true : UInt8) ≠
        (system.facility.slot true).value) ∧
    (∃ system, (changeMachine limitsChanges).Reachable limitsDormant system ∧
      system.systemState = .running ∧ system.calls = [] ∧
      (system.lastSeen System.limitsStart.facility true : UInt8) ≠
        (system.facility.slot true).value) ∧
    ∃ system, (changeMachine limitsChanges).Reachable limitsDormant system ∧
      system.systemState = .running ∧ system.calls = [] ∧
      (system.pending true).isSome = true :=
  ⟨⟨_, (changeMachine limitsChanges).reachable_get limitsDormant limitsNested (by decide),
      by decide, length_eq_zero_iff.mp (by decide), by decide, by decide⟩,
    ⟨_, (changeMachine limitsChanges).reachable_get limitsDormant limitsReversed (by decide),
      by decide, length_eq_zero_iff.mp (by decide), by decide⟩,
    _, (changeMachine limitsChanges).reachable_get limitsDormant limitsOverdue (by decide),
      by decide, length_eq_zero_iff.mp (by decide), by decide⟩

end ChangeSystem

end Solar.Parameters
