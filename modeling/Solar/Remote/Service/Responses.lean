/-
This file models the response table of a link: a fixed pool of slots, each empty,
reserved for a request that is being handled, or holding the cached response of
one. The operations search the pool from the front, as the source does.

No operation lets two live slots name one request, nor a slot be reserved and
valid at once. These two facts are fields of `Responses`, so the table is a
finite map from requests to slots, `lookup`, and every operation is described by
what it does to that map.
-/

import Solar.Library.Pool
import Solar.Remote.Protocol

namespace Solar.Remote

open Option

structure ResponseSlot where
  reserved : Bool := false
  valid : Bool := false
  staged : Bool := false
  error : Bool := false
  request : UInt32 := 0
  target : UInt32 := 0
  payload : Bytes := []
  deriving DecidableEq

namespace ResponseSlot

section

variable (slot : ResponseSlot)

/-- A slot that belongs to a request. -/
def isLive : Bool := slot.reserved || slot.valid

def isFor (request : UInt32) (slot : ResponseSlot) : Bool :=
  slot.isLive && slot.request == request

def isCachedFor (request : UInt32) (slot : ResponseSlot) : Bool :=
  slot.valid && slot.request == request

def isReservedFor (request : UInt32) (slot : ResponseSlot) : Bool :=
  slot.reserved && slot.request == request

/-- A cached response that is not queued for the peer. -/
def isUnstaged : Bool := slot.valid && !slot.staged

/-- A reservation whose response has not come. -/
def isReservation : Bool := slot.reserved && !slot.valid

end

variable {slot : ResponseSlot}

theorem isFor_iff {request : UInt32} :
    slot.isFor request = true ↔ slot.isLive = true ∧ slot.request = request := by
  rw [isFor, Bool.and_eq_true, beq_iff_eq]

theorem isLive_of_reserved (reserved : slot.reserved = true) : slot.isLive = true := by
  rw [isLive, reserved, Bool.true_or]

theorem isLive_of_valid (valid : slot.valid = true) : slot.isLive = true := by
  rw [isLive, valid, Bool.or_true]

end ResponseSlot

open ResponseSlot

/-- What `replay_response` finds: the cached response, a handler still at work, or nothing. -/
inductive Replay
  | replayed | busy | missing

/-- A response as `respond` is given it. -/
structure Answer where
  payload : Bytes
  domainError : Bool := false

/-- The slot that caches a response. -/
def Answer.slot (answer : Answer) (request target : UInt32) : ResponseSlot where
  reserved := false
  valid := true
  staged := false
  error := answer.domainError
  request
  target
  payload := answer.payload

/-! ### The operations on the pool -/

variable {capacity : Nat} {index : Nat}

namespace ResponsePool

variable (slots : Pool ResponseSlot capacity)

/-- `reserve_response`: the flag says whether the request has a slot. -/
def reserve (request target : UInt32) : Pool ResponseSlot capacity × Bool :=
  match slots.find? (isFor request) with
  | some _ => (slots, true)
  | none =>
      match slots.find? fun slot => !slot.reserved && !slot.valid with
      | none => (slots, false)
      | some (index, slot) =>
          (slots.put index { slot with reserved := true, request, target },
            true)

/-- `release_response`. -/
def release (request : UInt32) : Pool ResponseSlot capacity :=
  match slots.find? (isFor request) with
  | none => slots
  | some (index, _) => slots.put index {}

/-- The slot `respond` writes: the request's own, else the first that is not valid. -/
def respondSlot? (request : UInt32) : Option (Nat × ResponseSlot) :=
  (slots.find? (isFor request)).or (slots.find? fun slot => !slot.valid)

/-- The section of `respond`; the flag says whether a slot was found. -/
def respond (request target : UInt32) (answer : Answer) : Pool ResponseSlot capacity × Bool :=
  match respondSlot? slots request with
  | none => (slots, false)
  | some (index, _) => (slots.put index (answer.slot request target), true)

/-- `replay_response`: a cached response is marked for staging again. -/
def replay (request : UInt32) : Pool ResponseSlot capacity × Replay :=
  match slots.find? (isCachedFor request) with
  | some (index, slot) => (slots.put index { slot with staged := false }, .replayed)
  | none =>
      match slots.find? (isReservedFor request) with
      | some _ => (slots, .busy)
      | none => (slots, .missing)

/-- The response `stage_response` offers to the output. -/
def unstaged? : Option (Nat × ResponseSlot) := slots.find? isUnstaged

/-- The end of `stage_response`: the offered response was queued. -/
def stage : Pool ResponseSlot capacity :=
  match unstaged? slots with
  | none => slots
  | some (index, slot) => slots.put index { slot with staged := true }

/-- `acknowledge_response`. -/
def acknowledge (request : UInt32) : Pool ResponseSlot capacity :=
  match slots.find? (isCachedFor request) with
  | none => slots
  | some (index, _) => slots.put index {}

/-- No slot is reserved and valid, and no two live slots name one request. -/
structure Coherent : Prop where
  exclusive : ∀ index slot, slots.get? index = some slot → slot.reserved = true → slot.valid = false
  distinct : ∀ first second slot other, slots.get? first = some slot →
    slots.get? second = some other → slot.isLive = true → other.isLive = true →
    slot.request = other.request → first = second

variable {slots}

theorem coherent_fill : Coherent (Pool.fill capacity ({} : ResponseSlot)) where
  exclusive := by
    intro index slot stored reserved
    rw [Pool.eq_of_get?_fill stored] at reserved
    exact nomatch reserved
  distinct := by
    intro first second slot other stored _ live _ _
    rw [Pool.eq_of_get?_fill stored] at live
    exact nomatch live

theorem Coherent.put (coherent : Coherent slots) {content : ResponseSlot}
    (exclusive : content.reserved = true → content.valid = false)
    (fresh : content.isLive = true → ∀ place slot, slots.get? place = some slot →
      slot.isLive = true → slot.request = content.request → place = index) :
    Coherent (slots.put index content) where
  exclusive := by
    intro place slot stored reserved
    obtain ⟨_, rfl⟩ | ⟨_, kept⟩ := Pool.get?_put stored
    · exact exclusive reserved
    · exact coherent.exclusive place slot kept reserved
  distinct := by
    intro first second slot other stored otherStored live otherLive same
    obtain ⟨rfl, rfl⟩ | ⟨_, kept⟩ := Pool.get?_put stored
    · obtain ⟨rfl, rfl⟩ | ⟨_, otherKept⟩ := Pool.get?_put otherStored
      · rfl
      · exact (fresh live second other otherKept otherLive same.symm).symm
    · obtain ⟨rfl, rfl⟩ | ⟨_, otherKept⟩ := Pool.get?_put otherStored
      · exact fresh otherLive first slot kept live same
      · exact coherent.distinct first second slot other kept otherKept live otherLive same

theorem Coherent.put_empty (coherent : Coherent slots) : Coherent (slots.put index {}) :=
  coherent.put nofun nofun

theorem Coherent.put_same (coherent : Coherent slots) {old content : ResponseSlot}
    (here : slots.get? index = some old) (live : old.isLive = true)
    (same : content.request = old.request)
    (exclusive : content.reserved = true → content.valid = false) :
    Coherent (slots.put index content) :=
  coherent.put exclusive fun _ place slot stored otherLive named =>
    coherent.distinct place index slot old stored here otherLive live (named.trans same)

theorem not_isFor_of_find?_eq_none {request : UInt32} (missing : slots.find? (isFor request) = none)
    {slot : ResponseSlot} (stored : slots.get? index = some slot) (live : slot.isLive = true) :
    slot.request ≠ request := by
  intro same
  have rejected := Pool.find?_eq_none_iff.mp missing index slot stored
  rw [isFor_iff.mpr ⟨live, same⟩] at rejected
  exact nomatch rejected

section

variable (coherent : Coherent slots)

include coherent

theorem Coherent.reserve (request target : UInt32) : Coherent (reserve slots request target).1 := by
  unfold ResponsePool.reserve
  split
  · exact coherent
  · rename_i missing
    split
    · exact coherent
    · rename_i index slot free
      obtain ⟨_, empty, _⟩ := Pool.find?_eq_some_iff.mp free
      refine coherent.put (fun _ => ?_) fun _ place other stored live same => ?_
      · rw [Bool.and_eq_true, Bool.not_eq_true', Bool.not_eq_true'] at empty
        exact empty.2
      · exact absurd same (not_isFor_of_find?_eq_none missing stored live)

theorem Coherent.release (request : UInt32) : Coherent (release slots request) := by
  unfold ResponsePool.release
  split
  · exact coherent
  · exact coherent.put_empty

theorem Coherent.respond (request target : UInt32) (answer : Answer) :
    Coherent (respond slots request target answer).1 := by
  unfold ResponsePool.respond
  split
  · exact coherent
  rename_i index slot picked
  refine coherent.put nofun fun _ place other stored live same => ?_
  cases own : slots.find? (isFor request) with
  | some found =>
    rw [respondSlot?, own] at picked
    obtain ⟨here, mine, _⟩ := Pool.find?_eq_some_iff.mp (own.trans picked)
    obtain ⟨mineLive, named⟩ := isFor_iff.mp mine
    exact coherent.distinct place index other slot stored here live mineLive (same.trans named.symm)
  | none => exact absurd same (not_isFor_of_find?_eq_none own stored live)

theorem Coherent.replay (request : UInt32) : Coherent (replay slots request).1 := by
  unfold ResponsePool.replay
  split
  · rename_i index slot found
    obtain ⟨here, cached, _⟩ := Pool.find?_eq_some_iff.mp found
    have valid : slot.valid = true := (Bool.and_eq_true_iff.mp cached).1
    exact coherent.put_same here (isLive_of_valid valid) rfl
      (coherent.exclusive index slot here)
  · split <;> exact coherent

theorem Coherent.stage : Coherent (stage slots) := by
  unfold ResponsePool.stage
  split
  · exact coherent
  · rename_i index slot found
    obtain ⟨here, unstaged, _⟩ := Pool.find?_eq_some_iff.mp found
    have valid : slot.valid = true := (Bool.and_eq_true_iff.mp unstaged).1
    exact coherent.put_same here (isLive_of_valid valid) rfl
      (coherent.exclusive index slot here)

theorem Coherent.acknowledge (request : UInt32) : Coherent (acknowledge slots request) := by
  unfold ResponsePool.acknowledge
  split
  · exact coherent
  · exact coherent.put_empty

end

end ResponsePool

/-! ### The table -/

/-- The response table of a link. -/
@[ext]
structure Responses (capacity : Nat) where
  slots : Pool ResponseSlot capacity := Pool.fill capacity {}
  coherent : ResponsePool.Coherent slots := by exact ResponsePool.coherent_fill

namespace Responses

section

variable (responses : Responses capacity)

def reserve (request target : UInt32) : Responses capacity × Bool :=
  (⟨(ResponsePool.reserve responses.slots request target).1,
    responses.coherent.reserve request target⟩,
    (ResponsePool.reserve responses.slots request target).2)

section

variable (request : UInt32)

def release : Responses capacity :=
  ⟨ResponsePool.release responses.slots request, responses.coherent.release request⟩

/-- `respond`: a response longer than the cache's slots is refused. -/
def respond (cacheBytes : Nat) (request target : UInt32) (answer : Answer) :
    Responses capacity × Bool :=
  if answer.payload.length > cacheBytes then (responses, false)
  else
    (⟨(ResponsePool.respond responses.slots request target answer).1,
      responses.coherent.respond request target answer⟩,
      (ResponsePool.respond responses.slots request target answer).2)

def replay : Responses capacity × Replay :=
  (⟨(ResponsePool.replay responses.slots request).1, responses.coherent.replay request⟩,
    (ResponsePool.replay responses.slots request).2)

def unstaged? : Option (Nat × ResponseSlot) :=
  ResponsePool.unstaged? responses.slots

def stage : Responses capacity :=
  ⟨ResponsePool.stage responses.slots, responses.coherent.stage⟩

def acknowledge : Responses capacity :=
  ⟨ResponsePool.acknowledge responses.slots request, responses.coherent.acknowledge request⟩

/-- The slot of a request. -/
def lookup : Option ResponseSlot :=
  (responses.slots.find? (isFor request)).map Prod.snd

end

end

/-! ### The table as a map -/

variable {responses next : Responses capacity} {request other target : UInt32}
  {slot : ResponseSlot} {answer : Answer} {cacheBytes : Nat}

theorem lookup_eq_none_iff :
    responses.lookup request = none ↔
      ∀ index slot, responses.slots.get? index = some slot → slot.isFor request = false := by
  rw [lookup, map_eq_none_iff, Pool.find?_eq_none_iff]

variable {held : Option ResponseSlot}

theorem find?_isFor_of_get? (stored : responses.slots.get? index = some slot)
    (mine : slot.isFor request = true) :
    responses.slots.find? (isFor request) = some (index, slot) := by
  obtain ⟨live, named⟩ := isFor_iff.mp mine
  refine Pool.find?_eq_some_iff.mpr ⟨stored, mine, fun earlier smaller content kept => ?_⟩
  by_contra accepted
  obtain ⟨otherLive, otherNamed⟩ := isFor_iff.mp (eq_true_of_ne_false accepted)
  exact Nat.ne_of_lt smaller (responses.coherent.distinct earlier index content slot kept stored
    otherLive live (otherNamed.trans named.symm))

theorem lookup_eq_some_iff :
    responses.lookup request = some slot ↔
      ∃ index, responses.slots.get? index = some slot ∧ slot.isFor request = true := by
  constructor
  · intro found
    obtain ⟨⟨index, content⟩, here, same⟩ := map_eq_some_iff.mp found
    obtain ⟨stored, mine, _⟩ := Pool.find?_eq_some_iff.mp here
    exact ⟨index, same ▸ stored, same ▸ mine⟩
  · rintro ⟨index, stored, mine⟩
    exact map_eq_some_iff.mpr ⟨(index, slot), find?_isFor_of_get? stored mine, rfl⟩

theorem lookup_request (found : responses.lookup request = some slot) :
    slot.isLive = true ∧ slot.request = request := by
  obtain ⟨_, _, mine⟩ := lookup_eq_some_iff.mp found
  exact isFor_iff.mp mine

theorem lookup_of_get? (stored : responses.slots.get? index = some slot)
    (live : slot.isLive = true) : responses.lookup slot.request = some slot :=
  lookup_eq_some_iff.mpr ⟨index, stored, isFor_iff.mpr ⟨live, rfl⟩⟩

/-- What overwriting a slot does to the requests it belonged to and belongs to. -/
theorem lookup_of_put {old content : ResponseSlot}
    (slots : next.slots = responses.slots.put index content)
    (here : responses.slots.get? index = some old) (request : UInt32) :
    next.lookup request =
      if content.isFor request then some content
      else if old.isFor request then none else responses.lookup request := by
  have entered : next.slots.get? index = some content := by
    rw [slots]
    exact Pool.get?_put_self content (Pool.get?_lt here)
  split
  · rename_i mine
    exact lookup_eq_some_iff.mpr ⟨index, entered, mine⟩
  rename_i foreign
  split
  · rename_i left
    obtain ⟨leftLive, leftNamed⟩ := isFor_iff.mp left
    refine lookup_eq_none_iff.mpr fun place slot stored => ?_
    rw [slots] at stored
    obtain ⟨rfl, rfl⟩ | ⟨apart, kept⟩ := Pool.get?_put stored
    · exact Bool.eq_false_iff.mpr foreign
    · refine Bool.eq_false_iff.mpr fun mine => apart ?_
      obtain ⟨live, named⟩ := isFor_iff.mp mine
      exact responses.coherent.distinct place index slot old kept here live leftLive
        (named.trans leftNamed.symm)
  · rename_i stays
    refine ext fun slot => ?_
    rw [lookup_eq_some_iff, lookup_eq_some_iff, slots]
    constructor
    · rintro ⟨place, stored, mine⟩
      obtain ⟨rfl, rfl⟩ | ⟨_, kept⟩ := Pool.get?_put stored
      · exact absurd mine foreign
      · exact ⟨place, kept, mine⟩
    · rintro ⟨place, stored, mine⟩
      refine ⟨place, ?_, mine⟩
      have apart : place ≠ index := by
        rintro rfl
        rw [here] at stored
        exact stays (some.inj stored ▸ mine)
      rw [Pool.get?_put_of_ne apart]
      exact stored

theorem isFor_empty (request : UInt32) : ({} : ResponseSlot).isFor request = false := rfl

theorem isFor_eq_decide (live : slot.isLive = true) :
    slot.isFor request = decide (request = slot.request) := by
  rw [isFor, live, Bool.beq_comm]
  rfl

theorem reserve_of_lookup (held : responses.lookup request = some slot) :
    responses.reserve request target = (responses, true) := by
  obtain ⟨⟨index, content⟩, here, _⟩ := map_eq_some_iff.mp held
  have found : ResponsePool.reserve responses.slots request target = (responses.slots, true) := by
    rw [ResponsePool.reserve, here]
  refine Prod.ext (Responses.ext ?_) ?_
  · show (ResponsePool.reserve responses.slots request target).1 = responses.slots
    rw [found]
  · show (ResponsePool.reserve responses.slots request target).2 = true
    rw [found]

/-- A successful reservation of a request that has no slot. -/
theorem reserve_of_missing (missing : responses.lookup request = none)
    (reserved : (responses.reserve request target).2 = true) :
    (∃ slot, slot.isReservation = true ∧ slot.request = request ∧
      (responses.reserve request target).1.lookup request = some slot) ∧
      ∀ other, other ≠ request →
        (responses.reserve request target).1.lookup other = responses.lookup other := by
  have absent : responses.slots.find? (isFor request) = none :=
    map_eq_none_iff.mp missing
  cases free : responses.slots.find? fun slot => !slot.reserved && !slot.valid with
  | none =>
    simp only [reserve, ResponsePool.reserve, absent, free] at reserved
    exact nomatch reserved
  | some found =>
    obtain ⟨index, old⟩ := found
    obtain ⟨here, empty, _⟩ := Pool.find?_eq_some_iff.mp free
    rw [Bool.and_eq_true, Bool.not_eq_true', Bool.not_eq_true'] at empty
    have slots : (responses.reserve request target).1.slots = responses.slots.put index
          { old with reserved := true, request, target } := by
      simp only [reserve, ResponsePool.reserve, absent, free]
    have moved := lookup_of_put slots here
    have dead : ∀ other, old.isFor other = false := fun other => by
      rw [isFor, isLive, empty.1, empty.2]
      rfl
    refine ⟨⟨_, ?_, rfl, (moved request).trans (if_pos ?_)⟩, fun other apart => ?_⟩
    · rw [empty.2]
      rfl
    · exact isFor_iff.mpr ⟨rfl, rfl⟩
    · rw [moved other, if_neg, if_neg]
      · rw [dead other]
        exact Bool.false_ne_true
      · intro mine
        exact apart (isFor_iff.mp mine).2.symm

theorem reserve_eq_false (refused : (responses.reserve request target).2 = false) :
    (responses.reserve request target).1 = responses := by
  refine Responses.ext ?_
  cases own : responses.slots.find? (isFor request) with
  | some _ => simp only [reserve, ResponsePool.reserve, own]
  | none =>
    cases free : responses.slots.find? fun slot => !slot.reserved && !slot.valid with
    | none => simp only [reserve, ResponsePool.reserve, own, free]
    | some _ =>
      simp only [reserve, ResponsePool.reserve, own, free] at refused
      exact nomatch refused

theorem lookup_release (responses : Responses capacity) :
    (responses.release request).lookup other =
      if other = request then none else responses.lookup other := by
  cases found : responses.slots.find? (isFor request) with
  | none =>
    have same : responses.release request = responses := by
      refine Responses.ext ?_
      simp only [release, ResponsePool.release, found]
    rw [same]
    split
    · rename_i named
      rw [named, lookup, found]
      rfl
    · rfl
  | some pair =>
    obtain ⟨index, old⟩ := pair
    obtain ⟨here, mine, _⟩ := Pool.find?_eq_some_iff.mp found
    obtain ⟨live, rfl⟩ := isFor_iff.mp mine
    have slots : (responses.release old.request).slots = responses.slots.put index {} := by
      simp only [release, ResponsePool.release, found]
    rw [lookup_of_put slots here, isFor_empty, if_neg Bool.false_ne_true, isFor_eq_decide live]
    simp

/-! #### Responding -/

theorem respond_of_long (long : answer.payload.length > cacheBytes) :
    responses.respond cacheBytes request target answer = (responses, false) := if_pos long

theorem respond_of_fits (responses : Responses capacity)
    (fits : answer.payload.length ≤ cacheBytes) :
    (responses.respond cacheBytes request target answer).1.slots =
        (ResponsePool.respond responses.slots request target answer).1 ∧
      (responses.respond cacheBytes request target answer).2 =
        (ResponsePool.respond responses.slots request target answer).2 := by
  rw [respond, if_neg (Nat.not_lt.mpr fits)]
  exact ⟨rfl, rfl⟩

theorem isFor_slot (answer : Answer) (request target other : UInt32) :
    (answer.slot request target).isFor other = decide (other = request) :=
  isFor_eq_decide rfl

theorem respond_eq_false
    (refused : (responses.respond cacheBytes request target answer).2 = false) :
    (responses.respond cacheBytes request target answer).1 = responses := by
  by_cases fits : answer.payload.length ≤ cacheBytes
  · obtain ⟨slots, flag⟩ := responses.respond_of_fits fits
    refine Responses.ext (slots.trans ?_)
    rw [flag] at refused
    unfold ResponsePool.respond at refused ⊢
    split at refused
    · rfl
    · exact nomatch refused
  · rw [respond_of_long (Nat.lt_of_not_le fits)]

/-- A response that fits goes into the slot of its request. -/
theorem respond_of_lookup (fits : answer.payload.length ≤ cacheBytes)
    (held : responses.lookup request = some slot) :
    (responses.respond cacheBytes request target answer).2 = true ∧
      ∀ other, (responses.respond cacheBytes request target answer).1.lookup other =
        if other = request then some (answer.slot request target)
        else responses.lookup other := by
  obtain ⟨⟨index, old⟩, own, _⟩ := map_eq_some_iff.mp held
  obtain ⟨here, mine, _⟩ := Pool.find?_eq_some_iff.mp own
  obtain ⟨live, named⟩ := isFor_iff.mp mine
  have written : ResponsePool.respond responses.slots request target answer =
      (responses.slots.put index (answer.slot request target), true) := by
    rw [ResponsePool.respond, ResponsePool.respondSlot?, own]
    rfl
  obtain ⟨slots, flag⟩ := responses.respond_of_fits fits
  rw [written] at slots flag
  refine ⟨flag, fun other => ?_⟩
  rw [lookup_of_put slots here, isFor_slot, isFor_eq_decide live, named]
  simp only [decide_eq_true_eq]
  split
  · rfl
  · rfl

/-! #### Replaying, staging and acknowledging -/

theorem find?_isCachedFor_eq_none (missing : ∀ slot, responses.lookup request = some slot →
    slot.valid = false) : responses.slots.find? (isCachedFor request) = none := by
  refine Pool.find?_eq_none_iff.mpr fun index slot stored => Bool.eq_false_iff.mpr fun cached => ?_
  obtain ⟨valid, named⟩ := Bool.and_eq_true_iff.mp cached
  have found := lookup_of_get? stored (isLive_of_valid valid)
  rw [beq_iff_eq.mp named] at found
  rw [missing slot found] at valid
  exact nomatch valid

section

variable (found : responses.lookup request = some slot)

include found

theorem find?_isCachedFor_of_lookup (valid : slot.valid = true) :
    ∃ index, responses.slots.get? index = some slot ∧
      responses.slots.find? (isCachedFor request) = some (index, slot) := by
  obtain ⟨index, stored, mine⟩ := lookup_eq_some_iff.mp found
  obtain ⟨live, named⟩ := isFor_iff.mp mine
  refine ⟨index, stored, Pool.find?_eq_some_iff.mpr ⟨stored, ?_, ?_⟩⟩
  · rw [isCachedFor, valid, Bool.true_and, beq_iff_eq]
    exact named
  · intro earlier smaller other kept
    refine Bool.eq_false_iff.mpr fun cached => ?_
    obtain ⟨otherValid, otherNamed⟩ := Bool.and_eq_true_iff.mp cached
    exact Nat.ne_of_lt smaller (responses.coherent.distinct earlier index other slot kept stored
      (isLive_of_valid otherValid) live
      ((beq_iff_eq.mp otherNamed).trans named.symm))

theorem replay_of_cached (valid : slot.valid = true) :
    (responses.replay request).2 = .replayed ∧ ∀ other, (responses.replay request).1.lookup other =
        if other = request then some { slot with staged := false }
        else responses.lookup other := by
  obtain ⟨live, named⟩ := lookup_request found
  obtain ⟨index, here, cached⟩ := find?_isCachedFor_of_lookup found valid
  have replayed : ResponsePool.replay responses.slots request =
      (responses.slots.put index { slot with staged := false }, .replayed) := by
    rw [ResponsePool.replay, cached]
  refine ⟨congrArg Prod.snd replayed, fun other => ?_⟩
  have slots : (responses.replay request).1.slots =
      responses.slots.put index { slot with staged := false } := congrArg Prod.fst replayed
  have restaged : ({ slot with staged := false } : ResponseSlot).isFor other = slot.isFor other := rfl
  rw [lookup_of_put slots here, restaged, isFor_eq_decide live, named]
  simp only [decide_eq_true_eq]
  split
  · rfl
  · rfl

theorem replay_of_reserved (reserved : slot.valid = false) :
    responses.replay request = (responses, .busy) := by
  obtain ⟨index, stored, mine⟩ := lookup_eq_some_iff.mp found
  obtain ⟨live, named⟩ := isFor_iff.mp mine
  have cached : responses.slots.find? (isCachedFor request) = none := by
    refine find?_isCachedFor_eq_none fun other held => ?_
    rw [found] at held
    exact some.inj held ▸ reserved
  have pending : (responses.slots.find? (isReservedFor request)).isSome = true := by
    refine isSome_iff_ne_none.mpr fun absent => ?_
    have rejected := Pool.find?_eq_none_iff.mp absent index slot stored
    rw [isLive, reserved, Bool.or_false] at live
    rw [isReservedFor, live, named, beq_self_eq_true] at rejected
    exact nomatch rejected
  obtain ⟨held, same⟩ := isSome_iff_exists.mp pending
  have busy : ResponsePool.replay responses.slots request = (responses.slots, .busy) := by
    rw [ResponsePool.replay, cached, same]
  exact Prod.ext (Responses.ext (congrArg Prod.fst busy)) (congrArg (fun pair => pair.2) busy)

end

theorem replay_of_missing (missing : responses.lookup request = none) :
    responses.replay request = (responses, .missing) := by
  have cached : responses.slots.find? (isCachedFor request) = none :=
    find?_isCachedFor_eq_none fun slot held => nomatch missing.symm.trans held
  have pending : responses.slots.find? (isReservedFor request) = none := by
    refine Pool.find?_eq_none_iff.mpr fun index slot stored =>
      Bool.eq_false_iff.mpr fun reserved => ?_
    obtain ⟨held, named⟩ := Bool.and_eq_true_iff.mp reserved
    have found := lookup_of_get? stored (isLive_of_reserved held)
    rw [beq_iff_eq.mp named, missing] at found
    exact nomatch found
  have absent : ResponsePool.replay responses.slots request = (responses.slots, .missing) := by
    rw [ResponsePool.replay, cached, pending]
  exact Prod.ext (Responses.ext (congrArg Prod.fst absent)) (congrArg (fun pair => pair.2) absent)

theorem stage_of_none (none : responses.unstaged? = none) : responses.stage = responses := by
  refine Responses.ext ?_
  simp only [stage, ResponsePool.stage, show ResponsePool.unstaged? responses.slots = _ from none]

theorem stage_of_unstaged (found : responses.unstaged? = some (index, slot)) :
    responses.lookup slot.request = some slot ∧ slot.valid = true ∧ slot.staged = false ∧
      ∀ other, responses.stage.lookup other =
        if other = slot.request then some { slot with staged := true }
        else responses.lookup other := by
  obtain ⟨here, unstaged, _⟩ := Pool.find?_eq_some_iff.mp found
  obtain ⟨valid, waits⟩ := Bool.and_eq_true_iff.mp unstaged
  have live := isLive_of_valid valid
  refine ⟨lookup_of_get? here live, valid, by simpa using waits, fun other => ?_⟩
  have slots : responses.stage.slots = responses.slots.put index { slot with staged := true } := by
    simp only [stage, ResponsePool.stage,
      show ResponsePool.unstaged? responses.slots = _ from found]
  have restaged : ({ slot with staged := true } : ResponseSlot).isFor other = slot.isFor other := rfl
  rw [lookup_of_put slots here, restaged, isFor_eq_decide live]
  simp only [decide_eq_true_eq]
  split
  · rfl
  · rfl

theorem acknowledge_of_cached (found : responses.lookup request = some slot)
    (valid : slot.valid = true) (other : UInt32) :
    (responses.acknowledge request).lookup other =
      if other = request then none else responses.lookup other := by
  obtain ⟨live, named⟩ := lookup_request found
  obtain ⟨index, here, cached⟩ := find?_isCachedFor_of_lookup found valid
  have slots : (responses.acknowledge request).slots = responses.slots.put index {} := by
    simp only [acknowledge, ResponsePool.acknowledge, cached]
  rw [lookup_of_put slots here, isFor_empty, if_neg Bool.false_ne_true, isFor_eq_decide live, named]
  simp

theorem acknowledge_of_not_cached (missing : ∀ slot, responses.lookup request = some slot →
    slot.valid = false) : responses.acknowledge request = responses := by
  refine Responses.ext ?_
  simp only [acknowledge, ResponsePool.acknowledge, find?_isCachedFor_eq_none missing]

/-! ### Reservations -/

section

variable (responses : Responses capacity) (request : UInt32)

/-- A request has a slot that is reserved and not valid. -/
def Reserved : Prop :=
  ∃ slot, responses.lookup request = some slot ∧ slot.isReservation = true

/-- A request has a slot. -/
def Has : Prop :=
  (responses.lookup request).isSome = true

end

theorem reserved_iff :
    responses.Reserved request ↔
      ∃ index slot, responses.slots.get? index = some slot ∧ slot.reserved = true ∧
        slot.valid = false ∧ slot.request = request := by
  constructor
  · rintro ⟨slot, found, reservation⟩
    obtain ⟨index, stored, mine⟩ := lookup_eq_some_iff.mp found
    rw [isReservation, Bool.and_eq_true, Bool.not_eq_true'] at reservation
    exact ⟨index, slot, stored, reservation.1, reservation.2, (isFor_iff.mp mine).2⟩
  · rintro ⟨index, slot, stored, reserved, invalid, rfl⟩
    refine ⟨slot, lookup_of_get? stored (isLive_of_reserved reserved), ?_⟩
    rw [isReservation, reserved, invalid]
    rfl

theorem has_of_reserved (reserved : responses.Reserved request) : responses.Has request := by
  obtain ⟨slot, found, _⟩ := reserved
  rw [Has, found]
  rfl

theorem not_isReservation_of_valid (valid : slot.valid = true) : slot.isReservation = false := by
  rw [isReservation, valid]
  exact Bool.and_false _

section

variable
  (lookups : ∀ other, next.lookup other = if other = request then held else responses.lookup other)

include lookups

theorem reserved_of_answered (settled : ∀ slot, held = some slot → slot.valid = true) :
    next.Reserved other ↔ responses.Reserved other ∧ other ≠ request := by
  unfold Reserved
  rw [lookups]
  split
  · rename_i same
    constructor
    · rintro ⟨slot, found, reservation⟩
      rw [not_isReservation_of_valid (settled slot found)] at reservation
      exact nomatch reservation
    · rintro ⟨_, different⟩
      exact absurd same different
  · rename_i different
    exact ⟨fun reserved => ⟨reserved, different⟩, And.left⟩

theorem reserved_of_rewritten (before : responses.lookup request = some slot)
    (valid : slot.valid = true) (settled : ∀ slot, held = some slot → slot.valid = true) :
    next.Reserved other ↔ responses.Reserved other := by
  rw [reserved_of_answered lookups settled, and_iff_left_iff_imp]
  rintro ⟨content, found, reservation⟩ rfl
  rw [before] at found
  rw [← some.inj found, not_isReservation_of_valid valid] at reservation
  exact nomatch reservation

end

theorem reserved_release :
    (responses.release request).Reserved other ↔ responses.Reserved other ∧ other ≠ request :=
  reserved_of_answered (fun _ => responses.lookup_release) nofun

theorem reserved_reserve (missing : responses.lookup request = none)
    (reserved : (responses.reserve request target).2 = true) :
    (responses.reserve request target).1.Reserved other ↔
      responses.Reserved other ∨ other = request := by
  obtain ⟨⟨slot, reservation, named, found⟩, others⟩ := reserve_of_missing missing reserved
  by_cases same : other = request
  · subst same
    simp only [or_true, iff_true]
    exact ⟨slot, found, reservation⟩
  · unfold Reserved
    rw [others other same]
    simp [same]

theorem reserved_respond (fits : answer.payload.length ≤ cacheBytes)
    (held : responses.lookup request = some slot) :
    (responses.respond cacheBytes request target answer).1.Reserved other ↔
      responses.Reserved other ∧ other ≠ request :=
  reserved_of_answered (respond_of_lookup fits held).2 fun _ same => some.inj same ▸ rfl

theorem reserved_stage : responses.stage.Reserved other ↔ responses.Reserved other := by
  cases waiting : responses.unstaged? with
  | none => rw [stage_of_none waiting]
  | some found =>
    obtain ⟨held, valid, _, lookups⟩ := stage_of_unstaged waiting
    exact reserved_of_rewritten lookups held valid fun _ same => some.inj same ▸ valid

theorem reserved_replay : (responses.replay request).1.Reserved other ↔ responses.Reserved other := by
  cases held : responses.lookup request with
  | none => rw [replay_of_missing held]
  | some slot =>
    cases valid : slot.valid with
    | false => rw [replay_of_reserved held valid]
    | true =>
      exact reserved_of_rewritten (replay_of_cached held valid).2 held valid
        fun _ same => some.inj same ▸ valid

theorem reserved_acknowledge :
    (responses.acknowledge request).Reserved other ↔ responses.Reserved other := by
  by_cases cached : ∃ slot, responses.lookup request = some slot ∧ slot.valid = true
  · obtain ⟨slot, held, valid⟩ := cached
    exact reserved_of_rewritten (acknowledge_of_cached held valid) held valid nofun
  · rw [acknowledge_of_not_cached fun slot held =>
      eq_false_of_ne_true fun valid => cached ⟨slot, held, valid⟩]

/-! ### The requests with a slot -/

theorem has_of_lookups (lookups : ∀ other, next.lookup other =
      if other = request then held else responses.lookup other)
    (named : held.isSome = true → responses.Has request) (has : next.Has other) :
    responses.Has other := by
  rw [Has, lookups] at has
  split at has
  · rename_i same
    exact same ▸ named has
  · exact has

theorem has_release (has : (responses.release request).Has other) : responses.Has other :=
  has_of_lookups (fun _ => responses.lookup_release) nofun has

theorem has_reserve (has : (responses.reserve request target).1.Has other) :
    responses.Has other ∨ other = request := by
  cases held : responses.lookup request with
  | some slot =>
    rw [reserve_of_lookup held] at has
    exact .inl has
  | none =>
    cases reserved : (responses.reserve request target).2 with
    | false =>
      rw [reserve_eq_false reserved] at has
      exact .inl has
    | true =>
      by_cases same : other = request
      · exact .inr same
      · rw [Has, (reserve_of_missing held reserved).2 other same] at has
        exact .inl has

theorem has_respond (held : responses.lookup request = some slot)
    (has : (responses.respond cacheBytes request target answer).1.Has other) :
    responses.Has other := by
  by_cases fits : answer.payload.length ≤ cacheBytes
  · refine has_of_lookups (respond_of_lookup fits held).2 (fun _ => ?_) has
    rw [Has, held]
    rfl
  · rw [respond_of_long (Nat.lt_of_not_le fits)] at has
    exact has

theorem has_stage (has : responses.stage.Has other) : responses.Has other := by
  cases waiting : responses.unstaged? with
  | none =>
    rw [stage_of_none waiting] at has
    exact has
  | some found =>
    obtain ⟨held, _, _, lookups⟩ := stage_of_unstaged waiting
    refine has_of_lookups lookups (fun _ => ?_) has
    rw [Has, held]
    rfl

theorem has_replay (has : (responses.replay request).1.Has other) : responses.Has other := by
  cases held : responses.lookup request with
  | none =>
    rw [replay_of_missing held] at has
    exact has
  | some slot =>
    cases valid : slot.valid with
    | false =>
      rw [replay_of_reserved held valid] at has
      exact has
    | true =>
      refine has_of_lookups (replay_of_cached held valid).2 (fun _ => ?_) has
      rw [Has, held]
      rfl

theorem has_acknowledge (has : (responses.acknowledge request).Has other) :
    responses.Has other := by
  by_cases cached : ∃ slot, responses.lookup request = some slot ∧ slot.valid = true
  · obtain ⟨slot, held, valid⟩ := cached
    exact has_of_lookups (acknowledge_of_cached held valid) nofun has
  · rw [acknowledge_of_not_cached fun slot held =>
      eq_false_of_ne_true fun valid => cached ⟨slot, held, valid⟩] at has
    exact has

theorem not_has_empty (request : UInt32) : ¬ ({} : Responses capacity).Has request := by
  intro has
  obtain ⟨slot, found⟩ := isSome_iff_exists.mp has
  obtain ⟨index, stored, mine⟩ := lookup_eq_some_iff.mp found
  rw [Pool.eq_of_get?_fill stored] at mine
  exact nomatch mine

theorem not_reserved_empty (request : UInt32) : ¬ ({} : Responses capacity).Reserved request :=
  fun reserved => not_has_empty request (has_of_reserved reserved)

end Responses

end Solar.Remote
