/-
This file models the inbound-stream state of one Data endpoint and the bodies of
its lock-protected sections. The source keeps one array per field, indexed by
link, and one flat slot array whose row `link * window ..` belongs to the link;
the model keeps one record per link, with that link's row of slots. Every
section is a function of the record of the one link it works on.
-/

import Solar.Library.Pool
import Solar.Remote.Protocol

namespace Solar.Remote

inductive InboundSlotState
  | free | pending | running
  deriving DecidableEq

structure InboundSlot (Value : Type) where
  value : Option Value := none
  envelope : Envelope := {}
  token : UInt32 := 0
  generation : UInt32 := 0
  state : InboundSlotState := .free

variable {Value : Type}

namespace InboundSlot

def isFree (slot : InboundSlot Value) : Bool := slot.state = .free
def isPending (slot : InboundSlot Value) : Bool := slot.state = .pending
def isRunning (slot : InboundSlot Value) : Bool := slot.state = .running

/-- A slot that holds a sample, waiting or running. -/
def isOccupied (slot : InboundSlot Value) : Bool := !slot.isFree

theorem isOccupied_of_isPending {slot : InboundSlot Value} (pending : slot.isPending = true) :
    slot.isOccupied = true := by
  simp only [isPending, decide_eq_true_eq] at pending
  simp [isOccupied, isFree, pending]

theorem isOccupied_of_running {slot : InboundSlot Value} (running : slot.state = .running) :
    slot.isOccupied = true := by
  simp [isOccupied, isFree, running]

end InboundSlot

/-- One link's row of the stream state: its window of slots and its entry of each array. -/
structure InStreamLink (Value : Type) (window : Nat) where
  slots : Pool (InboundSlot Value) window := Pool.fill window {}
  active : Bool := false
  token : UInt32 := 0
  generation : UInt32 := 0
  credits : UInt16 := 0
  lastSequence : UInt32 := 0
  lastAdmitted : Tick := 0
  minimumIntervalUs : UInt32 := 0

/-- The diagnostic counters of one endpoint. -/
structure InStreamCounters where
  admitted : UInt32 := 0
  completed : UInt32 := 0
  rejected : UInt32 := 0
  consumerFailures : UInt32 := 0

/-- Which check turned a sample away. -/
inductive Rejection
  | token | credit | sequence | rate
  deriving DecidableEq

/-- The code the peer is told for a rejected sample. -/
def Rejection.errorCode : Rejection → ErrorCode
  | .rate => .rateRejected
  | .sequence => .requestExpired
  | .token => .requestExpired
  | .credit => .creditViolation

/-- Microseconds in kernel ticks, rounded up. -/
def toTicksCeil (ticksPerSecond : Nat) (microseconds : UInt32) : Tick :=
  ((microseconds.toNat * ticksPerSecond + 999999) / 1000000 : Nat)

namespace InStreamLink

variable {window : Nat}

section

variable (link : InStreamLink Value window)

/-- The number of slots of the link that hold a sample. -/
def occupied : Nat := link.slots.count InboundSlot.isOccupied

/-- The number of slots of the link that hold none. -/
def free : Nat := link.slots.count InboundSlot.isFree

/-- The section of `close_in_stream_link`: pending samples are dropped, a running one keeps
its slot. -/
def close : InStreamLink Value window :=
  { link with
    active := false
    token := 0
    credits := 0
    lastSequence := 0
    lastAdmitted := 0
    generation := link.generation + 1
    slots := link.slots.map fun slot => if slot.isPending then {} else slot }

/-- The section of `open_in_stream`: a new generation whose credit is the free slots. -/
def install (token minimumIntervalUs : UInt32) : InStreamLink Value window :=
  { link with
    generation := link.generation + 1
    active := true
    token
    lastSequence := 0
    lastAdmitted := 0
    minimumIntervalUs
    credits := UInt16.ofNat link.free }

/-- The section of `execute_in_stream_frame`: the checks in the source's order, then the first
free slot of the link. -/
def admitFrame (ticksPerSecond : Nat) (envelope : Envelope) (value : Value) (now : Tick) :
    Except Rejection (InStreamLink Value window) :=
  let interval := toTicksCeil ticksPerSecond link.minimumIntervalUs
  if link.active = false ∨ envelope.requestId = 0 ∨ link.token ≠ envelope.requestId then
    .error .token
  else if link.credits = 0 then .error .credit
  else if envelope.frameSequence ≤ link.lastSequence then .error .sequence
  else if link.lastAdmitted ≠ 0 ∧ interval ≠ 0 ∧ now - link.lastAdmitted < interval then
    .error .rate
  else
    match link.slots.find? InboundSlot.isFree with
    | none => .error .credit
    | some (index, _) => .ok { link with
        credits := link.credits - 1
        lastSequence := envelope.frameSequence
        lastAdmitted := now
        slots := link.slots.put index {
          value := some value
          envelope
          token := envelope.requestId
          generation := link.generation
          state := .pending } }

/-- The pending slot with a frame's sequence, which a failed submission looks for. -/
def submitted? (frameSequence : UInt32) : Option (Nat × InboundSlot Value) :=
  link.slots.find? fun slot => slot.isPending && slot.envelope.frameSequence == frameSequence

/-- The failed-submission section of `execute_in_stream_frame`: that slot is emptied. -/
def withdraw (frameSequence : UInt32) : InStreamLink Value window :=
  match link.submitted? frameSequence with
  | none => link
  | some (index, _) => { link with slots := link.slots.put index {} }

/-- The token and generation the link's stream currently has, tested against a sample's. -/
def matchesSample (token generation : UInt32) : Bool :=
  link.active && link.token == token && link.generation == generation

/-- The section of `return_in_stream_credit`; the flag says whether a credit was returned. -/
def returnCredit (token generation : UInt32) : InStreamLink Value window × Bool :=
  if link.matchesSample token generation then
    ({ link with credits := link.credits + 1 }, true)
  else (link, false)

/-- The last section of `run_pending_in_stream`: the sample's slot is emptied. -/
def release (index : Nat) : InStreamLink Value window :=
  { link with slots := link.slots.put index {} }

/-- The first pending sample of the link starts to run and its value leaves the slot. -/
def take? : Option (Nat × InboundSlot Value × InStreamLink Value window) :=
  (link.slots.find? InboundSlot.isPending).map fun found =>
    (found.1, found.2, { link with
      slots := link.slots.put found.1 { found.2 with value := none, state := .running } })

/-- The second section of `run_pending_in_stream`: whether the taken sample is still the
current stream's. -/
def isCurrent (index : Nat) (token generation : UInt32) : Bool :=
  link.matchesSample token generation &&
    ((link.slots.get? index).map InboundSlot.isRunning).getD false

/-- The samples that wait for the worker, in the order it takes them. -/
def waiting : List (InboundSlot Value) :=
  link.slots.select InboundSlot.isPending

/-- Whether no sample waits behind the slot the next one is stored in. -/
def storesLast : Bool :=
  match link.slots.find? InboundSlot.isFree with
  | none => true
  | some (index, _) => (link.slots.slots.drop (index + 1)).all fun slot => !slot.isPending

end

/-! ### What the sections do to the slots -/

variable {link admitted : InStreamLink Value window} {index : Nat} {slot : InboundSlot Value}

theorem occupied_add_free (link : InStreamLink Value window) :
    link.occupied + link.free = window := by
  have split := link.slots.count_add_count_not InboundSlot.isFree
  rw [Nat.add_comm]
  exact split

theorem occupied_eq_zero_iff :
    link.occupied = 0 ↔ ∀ index slot, link.slots.get? index = some slot → slot.isFree = true := by
  unfold occupied
  rw [Pool.count_eq_zero_iff]
  simp only [InboundSlot.isOccupied, Bool.not_eq_false']

/-- The content a sample is stored with. -/
def stored (link : InStreamLink Value window) (envelope : Envelope) (value : Value) :
    InboundSlot Value :=
  { value := some value
    envelope
    token := envelope.requestId
    generation := link.generation
    state := .pending }

variable {taken : InStreamLink Value window} {ticksPerSecond : Nat} {envelope : Envelope}
  {after : InStreamLink Value window} {value : Value} {now : Tick} {content old : InboundSlot Value}

/-- What an admission tested and what it left. -/
theorem admitFrame_eq_ok (ok : link.admitFrame ticksPerSecond envelope value now = .ok admitted) :
    link.active = true ∧ envelope.requestId ≠ 0 ∧ link.token = envelope.requestId ∧
      link.credits ≠ 0 ∧ link.lastSequence < envelope.frameSequence ∧
      ∃ index slot, link.slots.find? InboundSlot.isFree = some (index, slot) ∧
        admitted = { link with
          credits := link.credits - 1
          lastSequence := envelope.frameSequence
          lastAdmitted := now
          slots := link.slots.put index (link.stored envelope value) } := by
  simp only [admitFrame] at ok
  split at ok
  · exact absurd ok (by simp)
  rename_i tokenHeld
  split at ok
  · exact absurd ok (by simp)
  rename_i creditHeld
  split at ok
  · exact absurd ok (by simp)
  rename_i sequenceHeld
  split at ok
  · exact absurd ok (by simp)
  split at ok
  · exact absurd ok (by simp)
  rename_i index slot found
  simp only [not_or, Bool.not_eq_false, Decidable.not_not] at tokenHeld
  exact ⟨tokenHeld.1, tokenHeld.2.1, tokenHeld.2.2, creditHeld, UInt32.not_le.mp sequenceHeld,
    index, slot, found, (Except.ok.inj ok).symm⟩

theorem admitFrame_eq_rate
    (error : link.admitFrame ticksPerSecond envelope value now = .error .rate) :
    link.active = true ∧ envelope.requestId ≠ 0 ∧ link.token = envelope.requestId ∧
      link.credits ≠ 0 := by
  simp only [admitFrame] at error
  split at error
  · exact absurd error (by simp)
  rename_i tokenHeld
  split at error
  · exact absurd error (by simp)
  rename_i creditHeld
  simp only [not_or, Bool.not_eq_false, Decidable.not_not] at tokenHeld
  exact ⟨tokenHeld.1, tokenHeld.2.1, tokenHeld.2.2, creditHeld⟩

theorem occupied_put (link row : InStreamLink Value window)
    (here : link.slots.get? index = some old) (slots : row.slots = link.slots.put index content) :
    row.occupied + (if old.isOccupied = true then 1 else 0) =
      link.occupied + (if content.isOccupied = true then 1 else 0) := by
  unfold occupied
  rw [slots]
  exact Pool.count_put content InboundSlot.isOccupied here

theorem occupied_admitFrame
    (ok : link.admitFrame ticksPerSecond envelope value now = .ok admitted) :
    admitted.occupied = link.occupied + 1 ∧ admitted.credits.toNat + 1 = link.credits.toNat := by
  obtain ⟨_, _, _, credit, _, index, slot, found, rfl⟩ := admitFrame_eq_ok ok
  obtain ⟨here, free, _⟩ := Pool.find?_eq_some_iff.mp found
  constructor
  · have moved := occupied_put link { link with
      credits := link.credits - 1
      lastSequence := envelope.frameSequence
      lastAdmitted := now
      slots := link.slots.put index (link.stored envelope value) } here rfl
    have empty : slot.isOccupied = false := by rw [InboundSlot.isOccupied, free]; rfl
    rw [empty] at moved
    exact moved
  · have positive : 1 ≤ link.credits.toNat :=
      Nat.one_le_iff_ne_zero.mpr fun zero => credit (UInt16.toNat_inj.mp zero)
    have covered : (1 : UInt16) ≤ link.credits := UInt16.le_iff_toNat_le.mpr positive
    rw [UInt16.toNat_sub_of_le _ _ covered]
    exact Nat.sub_add_cancel positive

/-- What identifies the stream a row carries. -/
def header (link : InStreamLink Value window) : Bool × UInt32 × UInt32 :=
  (link.active, link.token, link.generation)

/-- A sample that runs in the first row still runs, in the same slot, in the second. -/
def KeepsRunning (link after : InStreamLink Value window) : Prop :=
  ∀ index slot, link.slots.get? index = some slot → slot.state = .running →
    after.slots.get? index = some slot

theorem KeepsRunning.of_put (slots : after.slots = link.slots.put index content)
    (here : link.slots.get? index = some old) (waits : old.state ≠ .running) :
    link.KeepsRunning after := by
  intro place slot stored running
  have different : place ≠ index := by
    rintro rfl
    rw [here] at stored
    exact waits (Option.some.inj stored ▸ running)
  rw [slots, Pool.get?_put_of_ne different]
  exact stored

section

variable (link)

theorem keepsRunning_close : link.KeepsRunning link.close := by
  intro index slot stored running
  show (link.slots.slots.map _)[index]? = some slot
  rw [List.getElem?_map]
  show (link.slots.get? index).map _ = some slot
  rw [stored]
  simp [InboundSlot.isPending, running]

theorem keepsRunning_install (token interval : UInt32) :
    link.KeepsRunning (link.install token interval) := fun _ _ stored _ => stored

end

section

variable (ok : link.admitFrame ticksPerSecond envelope value now = .ok admitted)

include ok

theorem keepsRunning_admitFrame : link.KeepsRunning admitted := by
  obtain ⟨_, _, _, _, _, index, slot, found, rfl⟩ := admitFrame_eq_ok ok
  obtain ⟨here, free, _⟩ := Pool.find?_eq_some_iff.mp found
  refine .of_put rfl here fun running => ?_
  simp [InboundSlot.isFree, running] at free

theorem header_admitFrame : admitted.header = link.header := by
  obtain ⟨_, _, _, _, _, index, slot, _, rfl⟩ := admitFrame_eq_ok ok
  rfl

end

section

variable (link) (frameSequence : UInt32)

theorem withdraw_eq :
    (link.withdraw frameSequence = link ∧ link.submitted? frameSequence = none) ∨
      ∃ index slot, link.submitted? frameSequence = some (index, slot) ∧
        link.slots.get? index = some slot ∧ slot.state = .pending ∧
        slot.envelope.frameSequence = frameSequence ∧
        link.withdraw frameSequence = { link with slots := link.slots.put index {} } := by
  cases found : link.submitted? frameSequence with
  | none => exact .inl ⟨by simp only [withdraw, found], rfl⟩
  | some pair =>
    obtain ⟨index, slot⟩ := pair
    obtain ⟨here, accepted, _⟩ := Pool.find?_eq_some_iff.mp found
    obtain ⟨pending, named⟩ := Bool.and_eq_true_iff.mp accepted
    exact .inr ⟨index, slot, rfl, here, of_decide_eq_true pending, beq_iff_eq.mp named,
      by simp only [withdraw, found]⟩

theorem header_withdraw : (link.withdraw frameSequence).header = link.header := by
  obtain ⟨same, _⟩ | ⟨_, _, _, _, _, _, same⟩ := link.withdraw_eq frameSequence
  · rw [same]
  · rw [same]
    rfl

theorem credits_withdraw : (link.withdraw frameSequence).credits = link.credits := by
  obtain ⟨same, _⟩ | ⟨_, _, _, _, _, _, same⟩ := link.withdraw_eq frameSequence
  · rw [same]
  · rw [same]

theorem keepsRunning_withdraw : link.KeepsRunning (link.withdraw frameSequence) := by
  obtain ⟨same, _⟩ | ⟨index, slot, _, here, pending, _, same⟩ := link.withdraw_eq frameSequence
  · rw [same]
    exact fun _ _ stored _ => stored
  · rw [same]
    exact .of_put rfl here (by rw [pending]; exact InboundSlotState.noConfusion)

theorem header_returnCredit (token generation : UInt32) :
    (link.returnCredit token generation).1.header = link.header := by
  unfold returnCredit
  split <;> rfl

theorem slots_returnCredit (token generation : UInt32) :
    (link.returnCredit token generation).1.slots = link.slots := by
  unfold returnCredit
  split <;> rfl

end

theorem occupied_release (here : link.slots.get? index = some slot)
    (busy : slot.isOccupied = true) : (link.release index).occupied + 1 = link.occupied := by
  have moved := occupied_put link (link.release index) here rfl
  rw [if_pos busy] at moved
  exact moved

theorem occupied_withdraw {frameSequence : UInt32}
    (found : (link.submitted? frameSequence).isSome = true) :
    (link.withdraw frameSequence).occupied + 1 = link.occupied := by
  obtain ⟨_, missing⟩ | ⟨index, slot, _, here, pending, _, same⟩ := link.withdraw_eq frameSequence
  · rw [missing] at found
    exact absurd found (by simp)
  · rw [same]
    exact occupied_release here (InboundSlot.isOccupied_of_isPending (decide_eq_true pending))

section

variable (found : link.take? = some (index, slot, taken))

include found

theorem take?_eq_some :
    link.slots.get? index = some slot ∧ slot.state = .pending ∧
      (∀ earlier < index, ∀ other, link.slots.get? earlier = some other → other.isPending = false) ∧
      taken = { link with
        slots := link.slots.put index { slot with value := none, state := .running } } := by
  obtain ⟨⟨place, content⟩, first, same⟩ := Option.map_eq_some_iff.mp found
  obtain ⟨rfl, rest⟩ := Prod.mk.inj same
  obtain ⟨⟩ := rest
  obtain ⟨here, pending, before⟩ := Pool.find?_eq_some_iff.mp first
  exact ⟨here, of_decide_eq_true pending, before, rfl⟩

theorem header_take : taken.header = link.header := by
  obtain ⟨_, _, _, rfl⟩ := take?_eq_some found
  rfl

theorem keepsRunning_take : link.KeepsRunning taken := by
  obtain ⟨here, pending, _, rfl⟩ := take?_eq_some found
  exact .of_put rfl here (by rw [pending]; exact InboundSlotState.noConfusion)

theorem get?_take :
    taken.slots.get? index = some { slot with value := none, state := .running } := by
  obtain ⟨here, _, _, rfl⟩ := take?_eq_some found
  exact Pool.get?_put_self _ (Pool.get?_lt here)

end

theorem header_release (link : InStreamLink Value window) (index : Nat) :
    (link.release index).header = link.header := rfl

theorem occupied_take (found : link.take? = some (index, slot, taken)) :
    taken.occupied = link.occupied := by
  obtain ⟨here, pending, _, rfl⟩ := take?_eq_some found
  have moved := occupied_put link { link with
    slots := link.slots.put index { slot with value := none, state := .running } } here rfl
  simpa [InboundSlot.isOccupied, InboundSlot.isFree, pending] using moved

/-- Every sample in the row belongs to the stream the row carries. -/
def Current (link : InStreamLink Value window) : Prop :=
  ∀ index slot, link.slots.get? index = some slot → slot.isOccupied = true →
    slot.token = link.token ∧ slot.generation = link.generation

theorem Current.put (current : link.Current) (same : after.header = link.header)
    (slots : after.slots = link.slots.put index content)
    (fits : content.isOccupied = true →
      content.token = link.token ∧ content.generation = link.generation) : after.Current := by
  intro place slot stored busy
  rw [slots] at stored
  have header : after.token = link.token ∧ after.generation = link.generation :=
    Prod.mk.inj (congrArg Prod.snd same)
  rw [header.1, header.2]
  obtain ⟨_, rfl⟩ | ⟨_, kept⟩ := Pool.get?_put stored
  · exact fits busy
  · exact current place slot kept busy

theorem Current.congr (current : link.Current) (same : after.header = link.header)
    (slots : after.slots = link.slots) : after.Current := by
  obtain ⟨sameToken, sameGeneration⟩ : after.token = link.token ∧
      after.generation = link.generation := Prod.mk.inj (congrArg Prod.snd same)
  intro index slot stored busy
  rw [slots] at stored
  rw [sameToken, sameGeneration]
  exact current index slot stored busy

theorem current_of_occupied_eq_zero (empty : link.occupied = 0) : link.Current := by
  intro index slot stored busy
  rw [InboundSlot.isOccupied, occupied_eq_zero_iff.mp empty index slot stored] at busy
  exact nomatch busy

section

variable (current : link.Current)

include current

theorem Current.admitFrame (ok : link.admitFrame ticksPerSecond envelope value now = .ok admitted) :
    admitted.Current := by
  have same := header_admitFrame ok
  obtain ⟨_, _, named, _, _, index, slot, _, rfl⟩ := admitFrame_eq_ok ok
  exact current.put same rfl fun _ => ⟨named.symm, rfl⟩

theorem Current.release (index : Nat) : (link.release index).Current :=
  current.put rfl rfl (by nofun)

theorem Current.withdraw (frameSequence : UInt32) : (link.withdraw frameSequence).Current := by
  obtain ⟨same, _⟩ | ⟨index, slot, _, _, _, _, same⟩ := link.withdraw_eq frameSequence
  · rw [same]
    exact current
  · rw [same]
    exact current.release index

theorem Current.take (found : link.take? = some (index, slot, taken)) : taken.Current := by
  have same := header_take found
  obtain ⟨here, pending, _, rfl⟩ := take?_eq_some found
  refine current.put same rfl fun _ => current index slot here ?_
  exact InboundSlot.isOccupied_of_isPending (decide_eq_true pending)

end

/-- Every sample of the second row was in the same slot of the first, under the same stream. -/
def TracesTo (after link : InStreamLink Value window) : Prop :=
  ∀ index slot, after.slots.get? index = some slot → slot.isOccupied = true →
    ∃ old, link.slots.get? index = some old ∧ old.isOccupied = true ∧
      old.token = slot.token ∧ old.generation = slot.generation

theorem TracesTo.of_slots (slots : after.slots = link.slots) : after.TracesTo link :=
  fun _ slot stored busy => ⟨slot, slots ▸ stored, busy, rfl, rfl⟩

theorem TracesTo.of_put (slots : after.slots = link.slots.put index content)
    (here : link.slots.get? index = some old)
    (fits : content.isOccupied = true → old.isOccupied = true ∧ old.token = content.token ∧
      old.generation = content.generation) : after.TracesTo link := by
  intro place slot stored busy
  rw [slots] at stored
  obtain ⟨rfl, rfl⟩ | ⟨_, kept⟩ := Pool.get?_put stored
  · exact ⟨old, here, fits busy⟩
  · exact ⟨slot, kept, busy, rfl, rfl⟩

section

variable (link)

theorem tracesTo_close : link.close.TracesTo link := by
  intro index slot stored busy
  obtain ⟨old, here, mapped⟩ : ∃ old, link.slots.get? index = some old ∧
      (if old.isPending = true then {} else old) = slot :=
    Option.map_eq_some_iff.mp ((List.getElem?_map).symm.trans stored)
  split at mapped
  · rw [← mapped] at busy
    exact nomatch busy
  · subst mapped
    exact ⟨old, here, busy, rfl, rfl⟩

theorem tracesTo_release (index : Nat) : (link.release index).TracesTo link := by
  intro place slot stored busy
  obtain ⟨_, rfl⟩ | ⟨_, kept⟩ := Pool.get?_put stored
  · exact nomatch busy
  · exact ⟨slot, kept, busy, rfl, rfl⟩

theorem tracesTo_withdraw (frameSequence : UInt32) :
    (link.withdraw frameSequence).TracesTo link := by
  obtain ⟨same, _⟩ | ⟨index, _, _, _, _, _, same⟩ := link.withdraw_eq frameSequence
  · rw [same]
    exact .of_slots rfl
  · rw [same]
    exact link.tracesTo_release index

end

theorem tracesTo_take (found : link.take? = some (index, slot, taken)) : taken.TracesTo link := by
  obtain ⟨here, pending, _, rfl⟩ := take?_eq_some found
  exact .of_put rfl here fun _ =>
    ⟨InboundSlot.isOccupied_of_isPending (decide_eq_true pending), rfl, rfl⟩

section

variable (ok : link.admitFrame ticksPerSecond envelope value now = .ok admitted)

include ok

theorem traces_admitFrame (stored : admitted.slots.get? index = some slot) :
    link.slots.get? index = some slot ∨
      link.active = true ∧ slot.token = link.token ∧ slot.generation = link.generation := by
  obtain ⟨active, _, named, _, _, place, _, _, rfl⟩ := admitFrame_eq_ok ok
  obtain ⟨_, rfl⟩ | ⟨_, kept⟩ := Pool.get?_put stored
  · exact .inr ⟨active, named.symm, rfl⟩
  · exact .inl kept

/-! ### The waiting samples -/

theorem waiting_admitFrame (last : link.storesLast = true) :
    admitted.waiting = link.waiting ++ [link.stored envelope value] := by
  obtain ⟨_, _, _, _, _, index, slot, found, rfl⟩ := admitFrame_eq_ok ok
  obtain ⟨here, free, _⟩ := Pool.find?_eq_some_iff.mp found
  refine Pool.select_put_last here ?_ rfl fun later member => ?_
  · simp only [InboundSlot.isFree, decide_eq_true_eq] at free
    simp only [InboundSlot.isPending, free]
    rfl
  · simp only [storesLast, found, List.all_eq_true] at last
    simpa only [Bool.not_eq_true'] using last later member

end

theorem waiting_close (link : InStreamLink Value window) : link.close.waiting = [] := by
  refine List.filter_eq_nil_iff.mpr fun slot member => ?_
  obtain ⟨old, _, rfl⟩ := List.mem_map.mp member
  split
  · exact nofun
  · assumption

theorem waiting_take (found : link.take? = some (index, slot, taken)) :
    link.waiting = slot :: taken.waiting := by
  obtain ⟨here, pending, first, rfl⟩ := take?_eq_some found
  exact Pool.select_put_first here (decide_eq_true pending) rfl first

theorem waiting_release (here : link.slots.get? index = some slot)
    (running : slot.state = .running) : (link.release index).waiting = link.waiting := by
  refine Pool.select_put_of_not here ?_ rfl
  simp only [InboundSlot.isPending, running]
  rfl

theorem waiting_withdraw {frameSequence : UInt32}
    (found : (link.submitted? frameSequence).isSome = true) :
    ∃ front slot back, link.waiting = front ++ slot :: back ∧
      slot.envelope.frameSequence = frameSequence ∧
      (link.withdraw frameSequence).waiting = front ++ back := by
  obtain ⟨_, missing⟩ | ⟨index, slot, _, here, pending, named, same⟩ :=
    link.withdraw_eq frameSequence
  · rw [missing] at found
    exact nomatch found
  · have empty : InboundSlot.isPending ({} : InboundSlot Value) = false := rfl
    have waits : slot.isPending = true := decide_eq_true pending
    obtain ⟨front, back, before, after⟩ := Pool.select_put_erase here waits empty
    exact ⟨front, slot, back, before, named, same ▸ after⟩

theorem matchesSample_eq_of_header {other : InStreamLink Value window}
    (same : other.header = link.header) (token generation : UInt32) :
    other.matchesSample token generation = link.matchesSample token generation := by
  obtain ⟨active, rest⟩ := Prod.mk.inj same
  obtain ⟨sameToken, sameGeneration⟩ := Prod.mk.inj rest
  rw [matchesSample, matchesSample, active, sameToken, sameGeneration]

theorem matchesSample_iff {token generation : UInt32} :
    link.matchesSample token generation = true ↔
      link.active = true ∧ link.token = token ∧ link.generation = generation := by
  simp [matchesSample, and_assoc]

end InStreamLink

end Solar.Remote
