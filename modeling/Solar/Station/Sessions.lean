/-
This file is about what the connection supervisor holds in each stage of its loop. The
stage says which of the session, the connection, the manifest, the sources and the row of
the database it may have; past the `finally` block it has none of them. A call of
`reconnect` is answered by the first session that goes online after it: the answer is
right if no request falls into the making of a session, and if no session goes before the
calls that it answers have returned.
-/

import Solar.Library.Progress
import Solar.Station.Boundaries
import Solar.Station.Connection

namespace Solar.Station

open List hiding map_map
open Option hiding map map_map

/-! ### Rows -/

/-- The rows of a run: the one of the session is open, the others have been ended once. -/
structure Booked (rows : List RobotSessionRow) (endings : List Nat) (sessionId : Option Nat) :
    Prop where
  distinct : (rows.map RobotSessionRow.id).Nodup
  once : endings.Nodup
  ended : ∀ id, id ∈ endings ↔ ∃ row ∈ rows, row.id = id ∧ row.isOpen = false
  current : ∀ row ∈ rows, row.isOpen = true ↔ sessionId = some row.id
  present : ∀ id, sessionId = some id → ∃ row ∈ rows, row.id = id

namespace Booked

variable {rows : List RobotSessionRow} {endings : List Nat} {sessionId : Option Nat}

theorem unique (booked : Booked rows endings sessionId) {row other : RobotSessionRow}
    (member : row ∈ rows) (present : other ∈ rows) (same : row.id = other.id) : row = other :=
  inj_on_of_nodup_map booked.distinct member present same

theorem begins (booked : Booked rows endings none) (target : String) (buildId : Option Nat)
    (digest : Nat) :
    let id := (rows.map RobotSessionRow.id).foldr max 0 + 1
    Booked (rows ++ [⟨id, target, buildId, digest, none⟩]) endings (some id) := by
  intro id
  have fresh : ∀ row ∈ rows, row.id < id := fun row member =>
    Nat.lt_succ_of_le (StationDatabase.le_foldr_max (mem_map_of_mem member))
  refine ⟨?_, booked.once, fun number => ?_, fun row member => ?_, fun number same => ?_⟩
  · rw [map_append, nodup_append]
    refine ⟨booked.distinct, pairwise_singleton _ _, fun number member other single => ?_⟩
    obtain ⟨row, inside, rfl⟩ := mem_map.mp member
    rw [mem_singleton.mp single]
    exact Nat.ne_of_lt (fresh row inside)
  · rw [booked.ended]
    constructor
    · rintro ⟨row, member, same, closed⟩
      exact ⟨row, mem_append_left _ member, same, closed⟩
    · rintro ⟨row, member, same, closed⟩
      rcases mem_append.mp member with old | new
      · exact ⟨row, old, same, closed⟩
      · rw [mem_singleton.mp new] at closed
        exact nomatch closed
  · rcases mem_append.mp member with old | new
    · refine ⟨fun opened => (nomatch (booked.current row old).mp opened), fun same => ?_⟩
      exact absurd (some.inj same).symm (Nat.ne_of_lt (fresh row old))
    · rw [mem_singleton.mp new]
      exact ⟨fun _ => rfl, fun _ => rfl⟩
  · obtain rfl := some.inj same
    exact ⟨_, mem_append_right _ (mem_singleton_self _), rfl⟩

/-- The open row is ended once. -/
theorem ends {id : Nat} (booked : Booked rows endings (some id)) (reason : String) :
    Booked (rows.map fun row =>
        if row.id = id ∧ row.isOpen then { row with disconnectReason := some reason } else row)
      (endings ++ (rows.filter fun row => row.id = id ∧ row.isOpen).map RobotSessionRow.id)
      none := by
  have sameId : ∀ row : RobotSessionRow,
      (if row.id = id ∧ row.isOpen then { row with disconnectReason := some reason }
        else row).id = row.id := by
    intro row
    split_ifs <;> rfl
  have closed : ∀ row ∈ rows,
      (if row.id = id ∧ row.isOpen then { row with disconnectReason := some reason }
        else row).isOpen = false := by
    intro row member
    split_ifs with here
    · rfl
    · refine Bool.eq_false_iff.mpr fun opened => here ⟨?_, opened⟩
      exact (some.inj ((booked.current row member).mp opened)).symm
  have closing : ∀ number, number ∈ (rows.filter fun row => row.id = id ∧ row.isOpen).map
      RobotSessionRow.id ↔ ∃ row ∈ rows, row.id = number ∧ row.isOpen = true := by
    intro number
    rw [List.mem_map]
    constructor
    · rintro ⟨row, member, same⟩
      obtain ⟨inside, here⟩ := mem_filter.mp member
      exact ⟨row, inside, same, (of_decide_eq_true here).2⟩
    · rintro ⟨row, member, same, opened⟩
      refine ⟨row, mem_filter.mpr ⟨member, decide_eq_true ⟨?_, opened⟩⟩, same⟩
      exact (some.inj ((booked.current row member).mp opened)).symm
  refine ⟨?_, ?_, fun number => ?_, fun row member => ?_, nofun⟩
  · rw [List.map_map]
    exact (map_congr_left fun row _ => sameId row) ▸ booked.distinct
  · rw [nodup_append]
    refine ⟨booked.once, Nodup.sublist (filter_sublist.map _) booked.distinct, ?_⟩
    rintro number earlier other later rfl
    obtain ⟨row, member, same, isClosed⟩ := (booked.ended number).mp earlier
    obtain ⟨last, present, equal, opened⟩ := (closing number).mp later
    rw [booked.unique member present (same.trans equal.symm), opened] at isClosed
    exact nomatch isClosed
  · rw [mem_append, booked.ended, closing]
    constructor
    · intro either
      obtain ⟨row, member, same⟩ : ∃ row ∈ rows, row.id = number :=
        either.elim (fun ⟨row, member, same, _⟩ => ⟨row, member, same⟩)
          fun ⟨row, member, same, _⟩ => ⟨row, member, same⟩
      exact ⟨_, mem_map_of_mem member, (sameId row).trans same, closed row member⟩
    · rintro ⟨_, member, same, -⟩
      obtain ⟨row, inside, rfl⟩ := mem_map.mp member
      cases opened : row.isOpen with
      | false => exact .inl ⟨row, inside, (sameId row).symm.trans same, opened⟩
      | true => exact .inr ⟨row, inside, (sameId row).symm.trans same, opened⟩
  · obtain ⟨old, inside, rfl⟩ := mem_map.mp member
    exact ⟨fun opened => (nomatch (closed old inside).symm.trans opened), nofun⟩

end Booked

/-! ### What the loop holds -/

/-- What an attempt may leave behind. -/
inductive Holding
  | session | connection | manifest | sources | row

namespace RunStage

/-- What the loop may hold in a stage. -/
def mayHold : RunStage → Holding → Bool
  | .created, _ | .connecting, _ | .resolvingTarget, _ | .openingTarget _, _ => false
  | .starting _, holding | .abandoning _, holding =>
      match holding with
      | .connection => true
      | _ => false
  | .resolvingManifest _, holding =>
      match holding with
      | .session | .connection => true
      | _ => false
  | .storingManifest _ _, holding | .beginning _ _, holding =>
      match holding with
      | .session | .connection | .manifest => true
      | _ => false
  | .restoring _, holding | .sourcesOffline _, holding =>
      match holding with
      | .sources => false
      | _ => true
  | .startingSources _, _ | .goingOnline _, _ | .online _, _ | .leaving, _ | .inputsOffline _, _ =>
      true
  | .stoppingSession _, holding =>
      match holding with
      | .manifest | .row => true
      | _ => false
  | .endingSession _ _, holding =>
      match holding with
      | .row => true
      | _ => false
  | .disconnecting, _ | .delaying, _ | .finished, _ => false

/-- No attempt is being made. -/
def isOver : RunStage → Bool
  | .created | .connecting | .resolvingTarget | .disconnecting | .delaying | .finished => true
  | _ => false

/-- A session is being made. -/
def isUnderway : RunStage → Bool
  | .openingTarget _ | .starting _ | .resolvingManifest _ | .storingManifest _ _ | .beginning _ _
  | .restoring _ | .startingSources _ => true
  | _ => false

/-- The session that is being made, once it is started. -/
def session? : RunStage → Option RobotSession
  | .resolvingManifest session | .storingManifest session _ | .beginning session _
  | .restoring session | .startingSources session => some session
  | _ => none

/-- The loop is online, or has been and still has its session. -/
def isAnswering : RunStage → Bool
  | .goingOnline _ | .online _ | .leaving | .inputsOffline _ | .sourcesOffline _ => true
  | _ => false

/-- The session goes, or is gone, and its row is still to be ended. -/
def isEnding : RunStage → Bool
  | .leaving | .inputsOffline _ | .sourcesOffline _ | .stoppingSession _ | .endingSession _ _ => true
  | _ => false

/-- How many suspensions the `finally` block has still. -/
def left : RunStage → Nat
  | .leaving => 5
  | .inputsOffline _ => 4
  | .sourcesOffline _ => 3
  | .stoppingSession _ => 2
  | .endingSession _ _ => 1
  | _ => 0

theorem mayHold_of_isOver {stage : RunStage} (isOver : stage.isOver = true) {holding : Holding} :
    stage.mayHold holding = false := by
  cases stage <;> first | rfl | exact nomatch isOver

end RunStage

namespace ConnectionSupervisor

variable {supervisor next : ConnectionSupervisor}

/-- A thing is not held. -/
def Lacks (supervisor : ConnectionSupervisor) : Holding → Prop
  | .session => supervisor.session = none
  | .connection => supervisor.connection = none
  | .manifest => supervisor.manifest = none ∧ supervisor.buildId = none
  | .sources => supervisor.sources = none
  | .row => supervisor.sessionId = none

/-- The rows are in order, and nothing is held but what the stage allows. -/
structure Kept (supervisor : ConnectionSupervisor) : Prop where
  booked : Booked supervisor.rows supervisor.endings supervisor.sessionId
  tagged : supervisor.taggedId = supervisor.sessionId
  lacks : ∀ holding, supervisor.stage.mayHold holding = false → supervisor.Lacks holding
  ending : ∀ reason id, supervisor.stage = .endingSession reason id →
    supervisor.sessionId = some id

section

variable (kept : supervisor.Kept)

include kept

theorem Kept.move (rows : next.rows = supervisor.rows) (endings : next.endings = supervisor.endings)
    (sessionId : next.sessionId = supervisor.sessionId)
    (taggedId : next.taggedId = supervisor.taggedId)
    (lacks : ∀ holding, next.stage.mayHold holding = false → next.Lacks holding)
    (ending : ∀ reason id, next.stage = .endingSession reason id → next.sessionId = some id) :
    next.Kept where
  booked := by
    rw [rows, endings, sessionId]
    exact kept.booked
  tagged := by
    rw [taggedId, sessionId]
    exact kept.tagged
  lacks
  ending

theorem Kept.tearDown : supervisor.tearDown.Kept := by
  refine kept.move rfl rfl rfl rfl (fun holding free => ?_) kept.ending
  cases holding with
  | manifest => exact kept.lacks .manifest free
  | sources => exact kept.lacks .sources free
  | row => exact kept.lacks .row free
  | _ => rfl

theorem Kept.aside {state : RobotState} {target lastError : Option String}
    {stop reconnects cancelling : Bool} {onlineGeneration attempts : Nat} {lost : List Nat}
    {calls : List (Nat × ReconnectCall)} {closing : Option CloseStage}
    {answers : List ReconnectAnswer} :
    Kept { supervisor with
      state, target, lastError, stop, reconnects, cancelling, onlineGeneration, attempts, lost,
      calls, closing, answers } := by
  refine kept.move rfl rfl rfl rfl (fun holding free => ?_) kept.ending
  cases holding <;> exact kept.lacks _ free

theorem Kept.stage {stage : RunStage}
    (more : ∀ holding, stage.mayHold holding = false → supervisor.stage.mayHold holding = false)
    (other : ∀ reason id, stage ≠ .endingSession reason id) : Kept { supervisor with stage } := by
  refine kept.move rfl rfl rfl rfl (fun holding free => ?_)
    fun reason id same => absurd same (other reason id)
  cases holding <;> exact kept.lacks _ (more _ free)

theorem Kept.clearUp (reason : String) : (supervisor.clearUp reason).Kept := kept.stage nofun nofun

theorem Kept.raises (error : String) : (supervisor.raises error).Kept :=
  (kept.clearUp error).aside

section

variable (atEnd : ∀ holding, supervisor.stage.mayHold holding = false)

include atEnd

theorem Kept.finished : Kept { supervisor with stage := .finished } :=
  kept.stage (fun holding _ => atEnd holding) nofun

theorem Kept.attempt : supervisor.attempt.Kept := by
  unfold ConnectionSupervisor.attempt
  split_ifs
  · exact kept.finished atEnd
  · exact (@Kept.stage _ kept .connecting (fun holding _ => atEnd holding) nofun).aside

end

theorem Kept.beginRobotSession (free : supervisor.sessionId = none)
    (offline : supervisor.sources = none) (session : RobotSession) (digest : Nat) :
    Kept { (supervisor.beginRobotSession session digest).setState .restoringSources with
      stage := .restoring session } where
  booked := (free ▸ kept.booked).begins session.target supervisor.buildId digest
  tagged := rfl
  lacks holding free := by
    cases holding with
    | sources => exact offline
    | _ => exact nomatch free
  ending := nofun

end

theorem Kept.leave {rows : List RobotSessionRow} {endings : List Nat}
    (booked : Booked rows endings none)
    (lacks : ∀ holding, holding = .row ∨ supervisor.Lacks holding) :
    ({ supervisor with rows, endings } : ConnectionSupervisor).leave.Kept := by
  unfold ConnectionSupervisor.leave
  split_ifs
  all_goals
    refine ⟨booked, rfl, fun holding _ => ?_, nofun⟩
    cases holding with
    | row => rfl
    | session => exact (lacks .session).resolve_left nofun
    | connection => exact (lacks .connection).resolve_left nofun
    | manifest => exact (lacks .manifest).resolve_left nofun
    | sources => exact (lacks .sources).resolve_left nofun

section

variable (kept : supervisor.Kept)

include kept

/-- The loop goes on with its row and its sources in hand. -/
theorem Kept.resume (resumed : supervisor.resume = some next) : next.Kept := by
  unfold ConnectionSupervisor.resume at resumed
  have lacks := kept.lacks
  have ending := kept.ending
  cases stage : supervisor.stage <;> rw [stage] at resumed lacks ending
  case created =>
    cases resumed
    exact kept.attempt fun holding => stage ▸ rfl
  case connecting =>
    cases resumed
    exact (@Kept.stage _ kept .resolvingTarget (fun _ _ => stage ▸ rfl) nofun).aside
  case openingTarget target =>
    cases resumed
    refine kept.move rfl rfl rfl rfl (fun holding free => ?_) nofun
    cases holding with
    | connection => exact nomatch free
    | session => exact lacks .session rfl
    | manifest => exact lacks .manifest rfl
    | sources => exact lacks .sources rfl
    | row => exact lacks .row rfl
  case abandoning error =>
    have gone : ({ supervisor with connection := none } : ConnectionSupervisor).Kept := by
      refine kept.move rfl rfl rfl rfl (fun holding free => ?_) kept.ending
      cases holding with
      | connection => rfl
      | session => exact kept.lacks .session free
      | manifest => exact kept.lacks .manifest free
      | sources => exact kept.lacks .sources free
      | row => exact kept.lacks .row free
    cases error with
    | none =>
      cases resumed
      exact gone.clearUp _
    | some error =>
      cases resumed
      exact gone.raises error
  case resolvingManifest session =>
    cases provided : session.manifest with dsimp only at resumed
    | none =>
      rw [provided] at resumed
      cases resumed
      exact (kept.aside : supervisor.notifyAll.Kept).raises _
    | some digest =>
      rw [provided] at resumed
      cases resumed
      refine kept.move rfl rfl rfl rfl (fun holding free => ?_) nofun
      cases holding with
      | sources => exact lacks .sources rfl
      | row => exact lacks .row rfl
      | _ => exact nomatch free
  case storingManifest session digest =>
    cases resumed
    exact @Kept.stage _ kept (.beginning session digest) (fun _ free => stage ▸ free) nofun
  case beginning session digest =>
    cases resumed
    exact kept.beginRobotSession (lacks .row rfl) (lacks .sources rfl) session digest
  case restoring session =>
    cases resumed
    exact kept.move rfl rfl rfl rfl nofun nofun
  case startingSources session =>
    cases resumed
    exact kept.move rfl rfl rfl rfl nofun nofun
  case goingOnline session =>
    cases resumed
    exact kept.move rfl rfl rfl rfl nofun nofun
  case online session =>
    obtain ⟨-, ⟨⟩⟩ := ite_none_right_eq_some.mp resumed
    exact kept.move rfl rfl rfl rfl nofun nofun
  case leaving =>
    cases resumed
    exact kept.clearUp _
  case inputsOffline reason =>
    cases resumed
    refine kept.move rfl rfl rfl rfl (fun holding free => ?_) nofun
    cases holding with
    | sources => rfl
    | _ => exact nomatch free
  case sourcesOffline reason =>
    cases resumed
    refine kept.move rfl rfl rfl rfl (fun holding free => ?_) nofun
    cases holding with
    | session | connection => rfl
    | sources => exact lacks .sources rfl
    | _ => exact nomatch free
  case stoppingSession reason =>
    have left : ∀ holding, holding = .row ∨
        ({ supervisor with manifest := none, buildId := none } : ConnectionSupervisor).Lacks
          holding := by
      intro holding
      cases holding with
      | row => exact .inl rfl
      | manifest => exact .inr ⟨rfl, rfl⟩
      | session => exact .inr (lacks .session rfl)
      | connection => exact .inr (lacks .connection rfl)
      | sources => exact .inr (lacks .sources rfl)
    cases row : supervisor.sessionId with rw [row] at resumed
    | none =>
      cases resumed
      exact Kept.leave (row ▸ kept.booked) left
    | some id =>
      cases resumed
      refine kept.move rfl rfl row.symm rfl (fun holding free => ?_) fun reason other same => ?_
      · cases holding with
        | row => exact nomatch free
        | manifest => exact ⟨rfl, rfl⟩
        | session => exact lacks .session rfl
        | connection => exact lacks .connection rfl
        | sources => exact lacks .sources rfl
      · obtain ⟨-, rfl⟩ := RunStage.endingSession.inj same
        rfl
  case endingSession reason id =>
    cases resumed
    refine Kept.leave ((ending reason id rfl ▸ kept.booked).ends reason) fun holding => ?_
    cases holding with
    | row => exact .inl rfl
    | session => exact .inr (lacks .session rfl)
    | connection => exact .inr (lacks .connection rfl)
    | manifest => exact .inr (lacks .manifest rfl)
    | sources => exact .inr (lacks .sources rfl)
  case disconnecting =>
    cases resumed
    have atEnd : ∀ holding, supervisor.stage.mayHold holding = false := fun _ => stage ▸ rfl
    refine (@Kept.stage _ kept (if supervisor.stop then .finished else .delaying)
      (fun holding _ => atEnd holding) fun _ _ => ?_).aside
    split_ifs <;> exact nofun
  case delaying =>
    cases resumed
    exact kept.attempt fun holding => stage ▸ rfl
  all_goals exact nomatch resumed

theorem Kept.abandon (error : String) {target : String}
    (stage : supervisor.stage = .starting target) : (supervisor.abandon error).Kept := by
  unfold ConnectionSupervisor.abandon
  split_ifs
  · exact kept.raises error
  · cases here : supervisor.connection with
    | none => exact kept.raises _
    | some connection =>
      dsimp only
      rw [← here]
      exact @Kept.stage _ kept (.abandoning error) (fun _ free => stage ▸ free) nofun

theorem Kept.failed {error : String} (failed : supervisor.failed error = some next) :
    next.Kept := by
  unfold ConnectionSupervisor.failed at failed
  cases stage : supervisor.stage <;> rw [stage] at failed
  case starting target =>
    obtain rfl := some.inj failed
    exact kept.abandon error stage
  all_goals first
    | exact some.inj failed ▸ kept.raises error
    | exact nomatch failed

/-- A cancellation that does not fall into the `finally` block before the row is ended. -/
def Spares (stage : RunStage) (swallowed : Bool) : Prop :=
  match stage with
  | .inputsOffline _ | .endingSession _ _ => False
  | .sourcesOffline _ => swallowed = true
  | _ => True

/-- A cancellation that spares the finally block keeps the balance. -/
theorem Kept.cancelled {swallowed : Bool} (spares : Spares supervisor.stage swallowed)
    (cancelled : supervisor.cancelled swallowed = some next) : next.Kept := by
  have thrown : ({ supervisor with cancelling := false } : ConnectionSupervisor).Kept := kept.aside
  have stopped (atEnd : ∀ holding, supervisor.stage.mayHold holding = false) :
      Kept { supervisor with cancelling := false, stage := .finished } := thrown.finished atEnd
  unfold ConnectionSupervisor.cancelled at cancelled
  cases stage : supervisor.stage <;> rw [stage] at cancelled spares <;> dsimp only at cancelled
  case created | disconnecting | delaying =>
    exact some.inj cancelled ▸ stopped fun _ => stage ▸ rfl
  case inputsOffline | endingSession => exact spares.elim
  case sourcesOffline reason =>
    rw [if_pos (show swallowed = true from spares)] at cancelled
    cases cancelled
    rw [← stage]
    exact thrown
  case stoppingSession reason =>
    cases cancelled
    rw [← stage]
    exact thrown
  case startingSources session =>
    cases cancelled
    split_ifs
    · rw [← stage]
      exact thrown
    · exact thrown.clearUp _
  case starting target =>
    cases cancelled
    split
    · exact @Kept.stage _ thrown (.abandoning none) (fun _ free => stage ▸ free) nofun
    · exact thrown.abandon _ stage
    · exact thrown.clearUp _
  case finished => exact nomatch cancelled
  all_goals exact some.inj cancelled ▸ thrown.clearUp _

/-! ### Balance -/

/-- The condition under which every row is ended. -/
def Orderly (supervisor : ConnectionSupervisor) : ConnectionLabel → Prop
  | .deliver swallowed => Spares supervisor.stage swallowed
  | _ => True

theorem Kept.check (number : Nat) (call : ReconnectCall) : (supervisor.check number call).Kept := by
  unfold ConnectionSupervisor.check
  split_ifs
  · exact kept.aside
  · exact kept.aside
  · exact kept.aside

/-- Every orderly step keeps the balance. -/
theorem Kept.step {label : ConnectionLabel} (orderly : Orderly supervisor label)
    (stepped : supervisor.step label = some next) : next.Kept := by
  cases label with unfold ConnectionSupervisor.step at stepped
  | resume =>
    obtain ⟨-, resumed⟩ := ite_none_left_eq_some.mp stepped
    exact kept.resume resumed
  | resolved target =>
    have lacks := kept.lacks
    cases stage : supervisor.stage <;> rw [stage] at stepped lacks
    case resolvingTarget =>
      obtain ⟨-, ⟨⟩⟩ := ite_none_left_eq_some.mp stepped
      have atEnd : ∀ holding, supervisor.stage.mayHold holding = false := fun _ => stage ▸ rfl
      refine (@Kept.stage _ kept (if supervisor.hasFactory then .starting target
        else .openingTarget target) (fun holding _ => atEnd holding) fun _ _ => ?_).aside
      split_ifs <;> exact nofun
    all_goals exact nomatch stepped
  | started manifest buildId =>
    have lacks := kept.lacks
    cases stage : supervisor.stage <;> rw [stage] at stepped lacks
    case starting target =>
      obtain ⟨-, ⟨⟩⟩ := ite_none_left_eq_some.mp stepped
      refine kept.move rfl rfl rfl rfl (fun holding free => ?_) nofun
      cases holding with
      | manifest => exact lacks .manifest rfl
      | sources => exact lacks .sources rfl
      | row => exact lacks .row rfl
      | _ => exact nomatch free
    all_goals exact nomatch stepped
  | fail error =>
    obtain ⟨-, failed⟩ := ite_none_left_eq_some.mp stepped
    exact kept.failed failed
  | deliver swallowed =>
    obtain ⟨-, cancelled⟩ := ite_none_right_eq_some.mp stepped
    exact kept.cancelled orderly cancelled
  | lose attempt =>
    cases stepped
    exact kept.aside
  | reconnect number =>
    dsimp only at stepped
    cases free : supervisor.call? number with rw [free] at stepped
    | none =>
      cases stepped
      exact kept.tearDown.aside
    | some call => exact nomatch stepped
  | check number =>
    dsimp only at stepped
    cases here : supervisor.call? number with rw [here] at stepped
    | none => exact nomatch stepped
    | some call =>
      obtain ⟨-, ⟨⟩⟩ := ite_none_right_eq_some.mp stepped
      exact kept.check number call
  | timeout number =>
    dsimp only at stepped
    cases here : supervisor.call? number with rw [here] at stepped
    | none => exact nomatch stepped
    | some call =>
      obtain ⟨-, ⟨⟩⟩ := ite_none_left_eq_some.mp stepped
      exact kept.aside
  | close =>
    cases closing : supervisor.closing <;> rw [closing] at stepped
    case none =>
      cases stepped
      exact kept.tearDown.aside
    case some => exact nomatch stepped
  | closed =>
    dsimp only at stepped
    split at stepped
    case h_1 =>
      obtain ⟨-, ⟨⟩⟩ := ite_none_right_eq_some.mp stepped
      exact kept.aside
    case h_2 => exact nomatch stepped
  | _ =>
    dsimp only at stepped
    split at stepped
    case h_1 =>
      cases stepped
      exact kept.aside
    case h_2 => exact nomatch stepped

end

/-- Every row that is begun is ended once, at most one is open, events are tagged with its id only,
and an attempt leaves nothing behind. -/
structure Balanced (supervisor : ConnectionSupervisor) : Prop where
  distinct : (supervisor.rows.map RobotSessionRow.id).Nodup
  once : supervisor.endings.Nodup
  ended : ∀ id, id ∈ supervisor.endings ↔
    ∃ row ∈ supervisor.rows, row.id = id ∧ row.isOpen = false
  single : ∀ row ∈ supervisor.rows, ∀ other ∈ supervisor.rows,
    row.isOpen = true → other.isOpen = true → row = other
  tagged : ∀ id, supervisor.taggedId = some id →
    ∃ row ∈ supervisor.rows, row.id = id ∧ row.isOpen = true
  cleared : supervisor.stage.isOver = true →
    supervisor.session = none ∧ supervisor.connection = none ∧ supervisor.manifest = none ∧
      supervisor.sources = none ∧ ∀ row ∈ supervisor.rows, row.isOpen = false

theorem Kept.balanced (kept : supervisor.Kept) : supervisor.Balanced where
  distinct := kept.booked.distinct
  once := kept.booked.once
  ended := kept.booked.ended
  single row member other present opened open' := by
    have first := (kept.booked.current row member).mp opened
    have second := (kept.booked.current other present).mp open'
    exact kept.booked.unique member present (some.inj (first.symm.trans second))
  tagged id same := by
    have current := kept.tagged.symm.trans same
    obtain ⟨row, member, rfl⟩ := kept.booked.present id current
    exact ⟨row, member, rfl, (kept.booked.current row member).mpr current⟩
  cleared isOver := by
    have lacks := fun holding => kept.lacks holding (RunStage.mayHold_of_isOver isOver)
    refine ⟨lacks .session, lacks .connection, (lacks .manifest).1, lacks .sources, ?_⟩
    intro row member
    refine Bool.eq_false_iff.mpr fun opened => ?_
    exact nomatch (lacks .row).symm.trans ((kept.booked.current row member).mp opened)

theorem kept_start (hasFactory : Bool) : Kept { hasFactory } where
  booked := ⟨.nil, .nil, fun _ => ⟨nofun, nofun⟩, nofun, nofun⟩
  tagged := rfl
  lacks holding _ := by
    cases holding with
    | manifest => exact ⟨rfl, rfl⟩
    | _ => rfl
  ending := nofun

/-! ### The end of an attempt -/

theorem isOver_leave :
    supervisor.leave.stage.isOver = true ∧ supervisor.leave.stage.left = 0 ∧
      supervisor.leave.cancelling = supervisor.cancelling := by
  unfold ConnectionSupervisor.leave
  split_ifs <;> exact ⟨rfl, rfl, rfl⟩

/-- A resumption goes on to the next part of the `finally` block. -/
theorem resume_ending (isEnding : supervisor.stage.isEnding = true) :
    ∃ next, supervisor.resume = some next ∧ next.cancelling = supervisor.cancelling ∧
      (next.stage.isOver = true ∨ next.stage.isEnding = true) ∧
        next.stage.left < supervisor.stage.left := by
  unfold ConnectionSupervisor.resume
  cases stage : supervisor.stage <;> rw [stage] at isEnding
  case leaving => exact ⟨_, rfl, rfl, .inr rfl, Nat.lt_succ_self _⟩
  case inputsOffline => exact ⟨_, rfl, rfl, .inr rfl, Nat.lt_succ_self _⟩
  case sourcesOffline => exact ⟨_, rfl, rfl, .inr rfl, Nat.lt_succ_self _⟩
  case stoppingSession =>
    cases supervisor.sessionId with
    | none =>
      obtain ⟨isOver, left, cancelling⟩ := isOver_leave
      exact ⟨_, rfl, cancelling, .inl isOver, left ▸ Nat.succ_pos _⟩
    | some id => exact ⟨_, rfl, rfl, .inr rfl, Nat.lt_succ_self _⟩
  case endingSession reason id =>
    obtain ⟨isOver, left, cancelling⟩ := isOver_leave
    exact ⟨_, rfl, cancelling, .inl isOver, left ▸ Nat.succ_pos _⟩
  all_goals exact nomatch isEnding

theorem Kept.leads (kept : supervisor.Kept) (calm : supervisor.cancelling = false)
    (isEnding : supervisor.stage.isEnding = true) :
    connectionMachine.Leads (· = .resume) (fun final => final.stage.isOver = true ∧ final.Balanced)
      supervisor := by
  refine Transition.Machine.Leads.descend (fun current => current.stage.left)
    (?_ : ∀ current, (current.Kept ∧ current.cancelling = false ∧
      (current.stage.isOver = true ∨ current.stage.isEnding = true)) → _)
    ⟨kept, calm, .inr isEnding⟩
  rintro current ⟨keeps, free, atEnd | ending⟩
  · exact .inl ⟨atEnd, keeps.balanced⟩
  · obtain ⟨next, resumed, same, goes, nearer⟩ := resume_ending ending
    have stepped : current.step .resume = some next :=
      (if_neg (Bool.eq_false_iff.mp free)).trans resumed
    exact .inr ⟨.resume, next, rfl, stepped, ⟨keeps.resume resumed, same.trans free, goes⟩, nearer⟩

end ConnectionSupervisor

end Solar.Station
