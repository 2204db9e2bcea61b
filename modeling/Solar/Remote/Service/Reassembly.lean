/-
This file models the reassembly of fragmented messages and follows one message
through an arbitrary sequence of received frames.

A slot gathers the fragments of one message. What it holds is always a run of
fragments of the history: the last first fragment of its message, and behind it
the next ones in order, all in time and all with the same identity. A step of
the machine adds at most one fragment to one slot, so this is kept, and a
message is returned exactly when such a run is complete.
-/

import Solar.Library.Pool
import Solar.Remote.Protocol

namespace Solar.Remote

open List

/-- Why a fragment is refused. -/
inductive ReassemblyFailure
  | malformed | noCapacity

/-- The buffer of a slot is as long as a message may be; `payload` is the part of it in use. -/
structure ReassemblySlot where
  active : Bool := false
  envelope : Envelope := {}
  nextFragment : UInt8 := 0
  payload : Bytes := []
  deadline : Tick := 0

/-- The configured bounds of a link. -/
structure ReassemblyLimits where
  maxMessageBytes : Nat
  timeout : Tick
  positive : 0 < timeout

def Flags.has (flags flag : Flags) : Bool := flags &&& flag ≠ 0

/-- The flags that all fragments of a message share. -/
def Flags.stable (flags : Flags) : Flags := flags &&& ~~~Flags.final

namespace Envelope

section

variable (envelope : Envelope)

def isLast : Bool :=
  envelope.fragmentIndex.toNat + 1 = envelope.fragmentCount.toNat

/-- What `reassemble` asks of a fragment before it looks at the slots. -/
def isFragment : Bool :=
  envelope.flags.has Flags.fragmented && 1 < envelope.fragmentCount && envelope.fragmentId ≠ 0 &&
    envelope.flags.has Flags.final = envelope.isLast

/-- The envelope of the complete message. -/
def assembled : Envelope :=
  { envelope with
    flags := (envelope.flags &&& ~~~Flags.fragmented) ||| Flags.final
    payloadSize := 0
    fragmentId := 0
    fragmentIndex := 0
    fragmentCount := 1 }

end

end Envelope

namespace ReassemblySlot

def isFor (id : UInt16) (slot : ReassemblySlot) : Bool :=
  slot.active && slot.envelope.fragmentId = id

def expired (now : Tick) (slot : ReassemblySlot) : Bool := slot.active && slot.deadline ≤ now

/-- A slot as its first fragment finds it. -/
def opened (limits : ReassemblyLimits) (now : Tick) (envelope : Envelope) : ReassemblySlot where
  active := true
  envelope
  deadline := now + limits.timeout

/-- The fragment is the next one of the message, and there is room for it. -/
def takes (limits : ReassemblyLimits) (slot : ReassemblySlot) (decoded : Decoded) : Bool :=
  decoded.envelope.fragmentIndex = slot.nextFragment &&
    decoded.envelope.fragmentCount = slot.envelope.fragmentCount &&
    decoded.envelope.sessionEpoch = slot.envelope.sessionEpoch &&
    decoded.envelope.kind = slot.envelope.kind &&
    decoded.envelope.target = slot.envelope.target &&
    decoded.envelope.requestId = slot.envelope.requestId &&
    decoded.envelope.reserved = slot.envelope.reserved &&
    decoded.envelope.flags.stable = slot.envelope.flags.stable &&
    slot.payload.length + decoded.payload.length ≤ limits.maxMessageBytes

def add (slot : ReassemblySlot) (payload : Bytes) : ReassemblySlot :=
  { slot with payload := slot.payload ++ payload, nextFragment := slot.nextFragment + 1 }

end ReassemblySlot

abbrev Reassembly (slots : Nat) := Pool ReassemblySlot slots

variable {slots : Nat}

namespace Reassembly

/-- The loop of `expire_reassembly`. -/
def expire (now : Tick) (pool : Reassembly slots) : Reassembly slots :=
  pool.map fun slot => if slot.expired now then {} else slot

/-- The slot a fragment goes to. A first fragment takes over the slot of its message, or takes an
unused one. -/
def place (limits : ReassemblyLimits) (now : Tick) (pool : Reassembly slots)
    (envelope : Envelope) : Except ReassemblyFailure (Nat × ReassemblySlot) :=
  match pool.find? (ReassemblySlot.isFor envelope.fragmentId) with
  | some (index, slot) =>
      if envelope.fragmentIndex = 0 then
        .ok (index, ReassemblySlot.opened limits now envelope)
      else .ok (index, slot)
  | none =>
      if envelope.fragmentIndex = 0 then
        match pool.find? (fun slot => !slot.active) with
        | some (index, _) => .ok (index, ReassemblySlot.opened limits now envelope)
        | none => .error .noCapacity
      else .error .malformed

/-- `reassemble`: the slots afterwards, and the message if it is complete. -/
def reassemble (limits : ReassemblyLimits) (now : Tick) (pool : Reassembly slots)
    (decoded : Decoded) :
    Reassembly slots × Except ReassemblyFailure (Option Decoded) :=
  if decoded.envelope.flags.has Flags.fragmented = false ∧ decoded.envelope.fragmentCount = 1 then
    (pool, .ok (some decoded))
  else if decoded.envelope.isFragment = false then (pool, .error .malformed)
  else
    let live := pool.expire now
    match live.place limits now decoded.envelope with
    | .error failure => (live, .error failure)
    | .ok (index, slot) =>
        if slot.takes limits decoded = false then (live.put index {}, .error .malformed)
        else
          let added := slot.add decoded.payload
          if decoded.envelope.isLast = false then (live.put index added, .ok none)
          else
            (live.put index { added with active := false },
              .ok (some ⟨added.envelope.assembled, added.payload⟩))

end Reassembly

/-- What can happen to the slots of a link. -/
inductive ReassemblyEvent
  | frame (now : Tick) (decoded : Decoded)
  | expire (now : Tick)
  | reset

namespace Reassembly

variable (limits : ReassemblyLimits)

def empty (slots : Nat) : Reassembly slots := Pool.fill slots {}

def step (pool : Reassembly slots) : ReassemblyEvent → Reassembly slots
  | .frame now decoded => (pool.reassemble limits now decoded).1
  | .expire now => pool.expire now
  | .reset => empty slots

/-- The slots after a history. -/
def run (history : List ReassemblyEvent) : Reassembly slots :=
  history.foldl (step limits) (empty slots)

/-! ### One fragment -/

variable {limits} {pool : Reassembly slots} {now : Tick} {decoded : Decoded} {slot : ReassemblySlot}

/-- Where a fragment goes: to no other slot of its message, and behind what is there unless it is
the first. -/
theorem place_eq_ok {envelope : Envelope} {index : Nat}
    (placed : pool.place limits now envelope = .ok (index, slot))
    (unique : ∀ first second one other, pool.get? first = some one → pool.get? second = some other →
      one.active = true → other.active = true →
      one.envelope.fragmentId = other.envelope.fragmentId → first = second) :
    index < slots ∧ (∀ elsewhere other, elsewhere ≠ index → pool.get? elsewhere = some other →
        other.active = true → other.envelope.fragmentId ≠ envelope.fragmentId) ∧
      ((envelope.fragmentIndex = 0 ∧ slot = ReassemblySlot.opened limits now envelope) ∨
        (envelope.fragmentIndex ≠ 0 ∧ pool.get? index = some slot ∧ slot.active = true ∧
          slot.envelope.fragmentId = envelope.fragmentId)) := by
  unfold place at placed
  cases found : pool.find? (ReassemblySlot.isFor envelope.fragmentId) with
  | some entry =>
    rcases entry with ⟨place, held⟩
    rcases Pool.find?_eq_some_iff.mp found with ⟨stored, isFor, -⟩
    rw [ReassemblySlot.isFor, Bool.and_eq_true, decide_eq_true_eq] at isFor
    have others : ∀ elsewhere other, elsewhere ≠ place → pool.get? elsewhere = some other →
        other.active = true → other.envelope.fragmentId ≠ envelope.fragmentId := by
      intro elsewhere other different storedOther active same
      exact different
        (unique elsewhere place other held storedOther stored active isFor.1 (same.trans isFor.2.symm))
    rw [found] at placed
    dsimp only at placed
    by_cases first : envelope.fragmentIndex = 0
    · rw [if_pos first] at placed
      cases placed
      exact ⟨Pool.get?_lt stored, others, .inl ⟨first, rfl⟩⟩
    · rw [if_neg first] at placed
      cases placed
      exact ⟨Pool.get?_lt stored, others, .inr ⟨first, stored, isFor⟩⟩
  | none =>
    have others : ∀ elsewhere other, pool.get? elsewhere = some other →
        other.active = true → other.envelope.fragmentId ≠ envelope.fragmentId := by
      intro elsewhere other stored active same
      have notFor := Pool.find?_eq_none_iff.mp found elsewhere other stored
      rw [ReassemblySlot.isFor, active, same, decide_eq_true rfl] at notFor
      exact nomatch notFor
    rw [found] at placed
    by_cases first : envelope.fragmentIndex = 0
    · rw [if_pos first] at placed
      cases free : pool.find? (fun slot => !slot.active) with rw [free] at placed
      | none => exact nomatch placed
      | some entry =>
        cases placed
        exact ⟨Pool.get?_lt (Pool.find?_eq_some_iff.mp free).1,
          fun elsewhere other _ => others elsewhere other, .inl ⟨first, rfl⟩⟩
    · rw [if_neg first] at placed
      exact nomatch placed

theorem place_eq_error {envelope : Envelope} {failure : ReassemblyFailure}
    (placed : pool.place limits now envelope = .error failure) :
    ∀ index slot, pool.get? index = some slot → slot.active = true →
      slot.envelope.fragmentId ≠ envelope.fragmentId := by
  unfold place at placed
  cases found : pool.find? (ReassemblySlot.isFor envelope.fragmentId) with
  | some entry =>
    rw [found] at placed
    dsimp only at placed
    split at placed
    · exact nomatch placed
    · exact nomatch placed
  | none =>
    intro index slot stored active same
    have notFor := Pool.find?_eq_none_iff.mp found index slot stored
    rw [ReassemblySlot.isFor, active, same, decide_eq_true rfl] at notFor
    exact nomatch notFor

/-- The envelopes belong to one message. -/
structure Shares (first other : Envelope) : Prop where
  fragmentId : other.fragmentId = first.fragmentId
  kind : other.kind = first.kind
  target : other.target = first.target
  requestId : other.requestId = first.requestId
  reserved : other.reserved = first.reserved
  sessionEpoch : other.sessionEpoch = first.sessionEpoch
  fragmentCount : other.fragmentCount = first.fragmentCount
  stable : other.flags.stable = first.flags.stable

theorem takes_eq_true (takes : slot.takes limits decoded = true) :
    decoded.envelope.fragmentIndex = slot.nextFragment ∧
      (slot.envelope.fragmentId = decoded.envelope.fragmentId →
        Shares slot.envelope decoded.envelope) ∧
      decoded.envelope.fragmentCount = slot.envelope.fragmentCount ∧
      slot.payload.length + decoded.payload.length ≤ limits.maxMessageBytes := by
  simp only [ReassemblySlot.takes, Bool.and_eq_true, decide_eq_true_eq] at takes
  rcases takes with ⟨⟨⟨⟨⟨⟨⟨⟨next, count⟩, epoch⟩, kind⟩, target⟩, request⟩, reserved⟩, flags⟩, room⟩
  exact ⟨next, fun same => ⟨same.symm, kind, target, request, reserved, epoch, count, flags⟩, count,
    room⟩

/-! ### Fragments of a history -/

/-- The event is a well-formed first fragment of the message. -/
def Opens (id : UInt16) (event : ReassemblyEvent) : Prop :=
  ∃ now decoded, event = .frame now decoded ∧ decoded.envelope.isFragment = true ∧
    decoded.envelope.fragmentIndex = 0 ∧ decoded.envelope.fragmentId = id

/-- A first fragment and later ones, all of them well-formed, were received in order and in time,
and no other first fragment of the message since. -/
structure Gathered (limits : ReassemblyLimits) (history : List ReassemblyEvent) (start : Tick)
    (first : Decoded) (later : List (Tick × Decoded)) : Prop where
  received : ∃ before after, history = before ++ .frame start first :: after ∧
    (later.map fun fragment => ReassemblyEvent.frame fragment.1 fragment.2).Sublist after ∧
    ∀ event ∈ after, ¬ Opens first.envelope.fragmentId event
  wellFormed : ∀ fragment ∈ (start, first) :: later, fragment.2.envelope.isFragment = true
  shares : ∀ fragment ∈ (start, first) :: later, Shares first.envelope fragment.2.envelope
  indices : (first :: later.map Prod.snd).map (fun fragment =>
    fragment.envelope.fragmentIndex.toNat) = range (later.length + 1)
  inTime : ∀ fragment ∈ (start, first) :: later, fragment.1 < start + limits.timeout

variable {history : List ReassemblyEvent}

namespace Gathered

variable {start : Tick} {first : Decoded} {later : List (Tick × Decoded)}

theorem extend (gathered : Gathered limits history start first later) {event : ReassemblyEvent}
    (other : ¬ Opens first.envelope.fragmentId event) :
    Gathered limits (history ++ [event]) start first later := by
  rcases gathered with ⟨⟨before, after, rfl, among, unopened⟩, wellFormed, shares, indices, inTime⟩
  refine ⟨⟨before, after ++ [event], ?_, among.trans (sublist_append_left _ _), ?_⟩,
    wellFormed, shares, indices, inTime⟩
  · rw [append_assoc, cons_append]
  · intro following member
    rw [mem_append, mem_singleton] at member
    rcases member with member | rfl
    · exact unopened following member
    · exact other

theorem first_only (wellFormed : decoded.envelope.isFragment = true)
    (index : decoded.envelope.fragmentIndex = 0) :
    Gathered limits (history ++ [.frame now decoded]) now decoded [] where
  received := ⟨history, [], rfl, Sublist.refl _, nofun⟩
  wellFormed := by
    intro fragment member
    rw [mem_singleton] at member
    subst member
    exact wellFormed
  shares := by
    intro fragment member
    rw [mem_singleton] at member
    subst member
    exact ⟨rfl, rfl, rfl, rfl, rfl, rfl, rfl, rfl⟩
  indices := by
    rw [map_nil, map_singleton, index]
    rfl
  inTime := by
    intro fragment member
    rw [mem_singleton] at member
    subst member
    exact Int.lt_add_of_pos_right now limits.positive

theorem append (gathered : Gathered limits history start first later)
    (wellFormed : decoded.envelope.isFragment = true)
    (shares : Shares first.envelope decoded.envelope)
    (index : decoded.envelope.fragmentIndex.toNat = later.length + 1)
    (inTime : now < start + limits.timeout) :
    Gathered limits (history ++ [.frame now decoded]) start first (later ++ [(now, decoded)]) := by
  have other : ¬ Opens first.envelope.fragmentId (.frame now decoded) := by
    rintro ⟨_, _, ⟨⟩, -, zero, -⟩
    rw [zero] at index
    exact nomatch index
  rcases gathered with ⟨⟨before, after, rfl, among, unopened⟩, formed, shared, indices, times⟩
  refine ⟨⟨before, after ++ [.frame now decoded], ?_, ?_, ?_⟩, ?_, ?_, ?_, ?_⟩
  · rw [append_assoc, cons_append]
  · rw [map_append]
    exact among.append (Sublist.refl _)
  · intro event member
    rw [mem_append, mem_singleton] at member
    rcases member with member | rfl
    · exact unopened event member
    · exact other
  · intro fragment member
    rw [← cons_append, mem_append, mem_singleton] at member
    rcases member with member | rfl
    · exact formed fragment member
    · exact wellFormed
  · intro fragment member
    rw [← cons_append, mem_append, mem_singleton] at member
    rcases member with member | rfl
    · exact shared fragment member
    · exact shares
  · rw [map_append, map_singleton, ← cons_append, map_append, indices,
      map_singleton, index, length_append]
    exact range_succ.symm
  · intro fragment member
    rw [← cons_append, mem_append, mem_singleton] at member
    rcases member with member | rfl
    · exact times fragment member
    · exact inTime

end Gathered

/-! ### The slots of a history -/

/-- An active slot holds the payloads of the fragments gathered for it. -/
def Holds (limits : ReassemblyLimits) (history : List ReassemblyEvent) (slot : ReassemblySlot) :
    Prop :=
  ∃ start first later, Gathered limits history start first later ∧
    slot.envelope = first.envelope ∧ slot.deadline = start + limits.timeout ∧
    slot.payload = (first :: later.map Prod.snd).flatMap Decoded.payload ∧
    slot.nextFragment = UInt8.ofNat (later.length + 1) ∧ later.length < 256

structure Sound (limits : ReassemblyLimits) (history : List ReassemblyEvent)
    (pool : Reassembly slots) : Prop where
  bounded : ∀ index slot, pool.get? index = some slot → slot.payload.length ≤ limits.maxMessageBytes
  unique : ∀ first second one other, pool.get? first = some one → pool.get? second = some other →
    one.active = true → other.active = true →
    one.envelope.fragmentId = other.envelope.fragmentId → first = second
  held : ∀ index slot, pool.get? index = some slot → slot.active = true → Holds limits history slot

theorem Holds.extend (holds : Holds limits history slot) {event : ReassemblyEvent}
    (other : ¬ Opens slot.envelope.fragmentId event) : Holds limits (history ++ [event]) slot := by
  rcases holds with ⟨start, first, later, gathered, same, rest⟩
  exact ⟨start, first, later, gathered.extend (same ▸ other), same, rest⟩

theorem sound_empty (limits : ReassemblyLimits) (history : List ReassemblyEvent) :
    Sound limits history (empty slots) where
  bounded := by
    intro index slot stored
    rw [Pool.eq_of_get?_fill stored]
    exact Nat.zero_le _
  unique := by
    intro first second one other stored _ active
    rw [Pool.eq_of_get?_fill stored] at active
    exact nomatch active
  held := by
    intro index slot stored active
    rw [Pool.eq_of_get?_fill stored] at active
    exact nomatch active

namespace Sound

theorem extend (sound : Sound limits history pool) {event : ReassemblyEvent}
    (other : ∀ index slot, pool.get? index = some slot → slot.active = true →
      ¬ Opens slot.envelope.fragmentId event) :
    Sound limits (history ++ [event]) pool where
  bounded := sound.bounded
  unique := sound.unique
  held := fun index slot stored active =>
    (sound.held index slot stored active).extend (other index slot stored active)

theorem get?_expire {index : Nat} (stored : (pool.expire now).get? index = some slot)
    (active : slot.active = true) : pool.get? index = some slot ∧ now < slot.deadline := by
  have mapped : (pool.get? index).map (fun slot => if slot.expired now then {} else slot) =
      some slot := by
    rw [← stored]
    exact getElem?_map.symm
  rcases Option.map_eq_some_iff.mp mapped with ⟨old, found, same⟩
  split at same
  · subst same
    exact nomatch active
  · rename_i live
    subst same
    rw [ReassemblySlot.expired, active, Bool.true_and, decide_eq_true_eq] at live
    exact ⟨found, Int.not_le.mp live⟩

section

variable (sound : Sound limits history pool)

include sound

theorem expire (now : Tick) : Sound limits history (pool.expire now) where
  bounded := by
    intro index slot stored
    have mapped : (pool.get? index).map (fun slot => if slot.expired now then {} else slot) =
        some slot := by
      rw [← stored]
      exact getElem?_map.symm
    rcases Option.map_eq_some_iff.mp mapped with ⟨old, found, same⟩
    split at same
    · subst same
      exact Nat.zero_le _
    · subst same
      exact sound.bounded index old found
  unique := fun first second one other stored storedOther active activeOther =>
    sound.unique first second one other (get?_expire stored active).1
      (get?_expire storedOther activeOther).1 active activeOther
  held := fun index slot stored active =>
    sound.held index slot (get?_expire stored active).1 active

/-- One slot is replaced, and no other is for the message the event may open. -/
theorem put {event : ReassemblyEvent} {place : Nat}
    (others : ∀ index other, index ≠ place → pool.get? index = some other → other.active = true →
      ¬ Opens other.envelope.fragmentId event)
    (fits : slot.payload.length ≤ limits.maxMessageBytes)
    (alone : slot.active = true → ∀ index other, index ≠ place → pool.get? index = some other →
      other.active = true → other.envelope.fragmentId ≠ slot.envelope.fragmentId)
    (holds : slot.active = true → Holds limits (history ++ [event]) slot) :
    Sound limits (history ++ [event]) (pool.put place slot) where
  bounded := by
    intro index found stored
    rcases Pool.get?_put stored with ⟨rfl, rfl⟩ | ⟨different, stored⟩
    · exact fits
    · exact sound.bounded index found stored
  unique := by
    intro first second one other stored storedOther active activeOther same
    rcases Pool.get?_put stored with ⟨rfl, rfl⟩ | ⟨different, kept⟩
    · rcases Pool.get?_put storedOther with ⟨rfl, -⟩ | ⟨differentOther, keptOther⟩
      · rfl
      · exact absurd same.symm (alone active second other differentOther keptOther activeOther)
    · rcases Pool.get?_put storedOther with ⟨rfl, rfl⟩ | ⟨-, keptOther⟩
      · exact absurd same (alone activeOther first one different kept active)
      · exact sound.unique first second one other kept keptOther active activeOther same
  held := by
    intro index found stored active
    rcases Pool.get?_put stored with ⟨rfl, rfl⟩ | ⟨different, stored⟩
    · exact holds active
    · exact (sound.held index found stored active).extend
        (others index found different stored active)

/-- What the slot of a fragment holds once the fragment is added. -/
theorem holds_add {index : Nat} (wellFormed : decoded.envelope.isFragment = true)
    (placed : (pool.expire now).place limits now decoded.envelope = .ok (index, slot))
    (takes : slot.takes limits decoded = true) :
    Holds limits (history ++ [.frame now decoded]) (slot.add decoded.payload) := by
  rcases takes_eq_true takes with ⟨next, shares, -⟩
  rcases place_eq_ok placed (sound.expire now).unique with
    ⟨-, -, ⟨first, rfl⟩ | ⟨following, stored, active, same⟩⟩
  · refine ⟨now, decoded, [], Gathered.first_only wellFormed first, rfl, rfl, ?_, rfl, by decide⟩
    rw [map_nil, flatMap_singleton]
    rfl
  · rcases get?_expire stored active with ⟨found, inTime⟩
    rcases sound.held index slot found active with
      ⟨start, first, later, gathered, envelope, deadline, payload, fragments, short⟩
    have room : later.length + 1 < 256 := by
      by_contra wrapped
      have full : later.length + 1 = 256 := by omega
      rw [fragments, full] at next
      exact following next
    have position : decoded.envelope.fragmentIndex.toNat = later.length + 1 := by
      rw [next, fragments]
      exact Nat.mod_eq_of_lt room
    rw [envelope] at same shares
    refine ⟨start, first, later ++ [(now, decoded)], gathered.append wellFormed (shares same)
      position (deadline ▸ inTime), envelope, deadline, ?_, ?_, ?_⟩
    · rw [ReassemblySlot.add, payload, map_append, map_singleton, ← cons_append,
        flatMap_append, flatMap_singleton]
    · rw [ReassemblySlot.add, fragments, length_append]
      exact (UInt8.ofNat_add _ 1).symm
    · rw [length_append]
      exact room

/-- A fragment keeps the slots sound. -/
theorem reassemble (now : Tick) (decoded : Decoded) :
    Sound limits (history ++ [.frame now decoded]) (pool.reassemble limits now decoded).1 := by
  unfold Reassembly.reassemble
  by_cases whole : decoded.envelope.flags.has Flags.fragmented = false ∧
      decoded.envelope.fragmentCount = 1
  · rw [if_pos whole]
    refine sound.extend ?_
    rintro index slot - - ⟨_, _, ⟨⟩, fragment, -⟩
    rw [Envelope.isFragment, whole.1] at fragment
    exact nomatch fragment
  rw [if_neg whole]
  by_cases fragment : decoded.envelope.isFragment = false
  · rw [if_pos fragment]
    refine sound.extend ?_
    rintro index slot - - ⟨_, _, ⟨⟩, wellFormed, -⟩
    rw [fragment] at wellFormed
    exact nomatch wellFormed
  rw [if_neg fragment]
  dsimp only
  cases placed : (pool.expire now).place limits now decoded.envelope with
  | error failure =>
    refine (sound.expire now).extend ?_
    rintro index slot stored active ⟨_, _, ⟨⟩, -, -, same⟩
    exact place_eq_error placed index slot stored active same.symm
  | ok entry =>
    rcases entry with ⟨index, slot⟩
    rcases place_eq_ok placed (sound.expire now).unique with ⟨-, others, arrival⟩
    have unopened : ∀ elsewhere other, elsewhere ≠ index →
        (pool.expire now).get? elsewhere = some other → other.active = true →
        ¬ Opens other.envelope.fragmentId (.frame now decoded) := by
      rintro elsewhere other different stored active ⟨_, _, ⟨⟩, -, -, same⟩
      exact others elsewhere other different stored active same.symm
    have id : slot.envelope.fragmentId = decoded.envelope.fragmentId := by
      rcases arrival with ⟨-, rfl⟩ | ⟨-, -, -, same⟩
      · rfl
      · exact same
    dsimp only
    by_cases takes : slot.takes limits decoded = false
    · rw [if_pos takes]
      exact (sound.expire now).put unopened (Nat.zero_le _) nofun nofun
    rw [if_neg takes]
    rw [Bool.not_eq_false] at takes
    have fits : (slot.add decoded.payload).payload.length ≤ limits.maxMessageBytes := by
      rw [ReassemblySlot.add, length_append]
      exact (takes_eq_true takes).2.2.2
    by_cases last : decoded.envelope.isLast = false
    · rw [if_pos last]
      exact (sound.expire now).put unopened fits (fun _ elsewhere other different stored active =>
          fun same => others elsewhere other different stored active (same.trans id))
        fun _ => sound.holds_add ((Bool.not_eq_false _).mp fragment) placed takes
    · rw [if_neg last]
      exact (sound.expire now).put unopened fits nofun nofun

end

end Sound

theorem sound_run : Sound limits history (run limits history : Reassembly slots) := by
  induction history using reverseRecOn with
  | nil => exact sound_empty limits []
  | append_singleton history event ih =>
    rw [run, foldl_append]
    cases event with
    | frame now decoded => exact ih.reassemble now decoded
    | expire now =>
      refine (ih.expire now).extend ?_
      rintro index slot - - ⟨_, _, impossible, -⟩
      exact nomatch impossible
    | reset => exact sound_empty limits _

/-- When the last fragment of a message arrives, its slot holds all of them. -/
theorem exists_gathered (sound : Sound limits history pool) {message : Decoded}
    (fragmented : decoded.envelope.flags.has Flags.fragmented = true)
    (returned : (pool.reassemble limits now decoded).2 = .ok (some message)) :
    ∃ start first later, Gathered limits (history ++ [.frame now decoded]) start first later ∧
      later.length + 1 = first.envelope.fragmentCount.toNat ∧
      message.envelope = first.envelope.assembled ∧
      message.payload = (first :: later.map Prod.snd).flatMap Decoded.payload := by
  unfold reassemble at returned
  rw [if_neg (by rw [fragmented]; exact nofun)] at returned
  by_cases fragment : decoded.envelope.isFragment = false
  · rw [if_pos fragment] at returned
    exact nomatch returned
  rw [if_neg fragment] at returned
  dsimp only at returned
  cases placed : (pool.expire now).place limits now decoded.envelope with
  | error failure =>
    rw [placed] at returned
    exact nomatch returned
  | ok entry =>
    rcases entry with ⟨index, slot⟩
    rw [placed] at returned
    dsimp only at returned
    by_cases takes : slot.takes limits decoded = false
    · rw [if_pos takes] at returned
      exact nomatch returned
    rw [if_neg takes] at returned
    rw [Bool.not_eq_false] at takes
    by_cases last : decoded.envelope.isLast = false
    · rw [if_pos last] at returned
      exact nomatch returned
    rw [if_neg last] at returned
    cases returned
    rw [Bool.not_eq_false, Envelope.isLast, decide_eq_true_eq] at last
    rcases sound.holds_add ((Bool.not_eq_false _).mp fragment) placed takes with
      ⟨start, first, later, gathered, envelope, -, payload, next, short⟩
    refine ⟨start, first, later, gathered, ?_, congrArg Envelope.assembled envelope, payload⟩
    have count : first.envelope.fragmentCount = decoded.envelope.fragmentCount := by
      rw [← envelope]
      exact (takes_eq_true takes).2.2.1.symm
    have added : (slot.nextFragment + 1).toNat = (UInt8.ofNat (later.length + 1)).toNat :=
      congrArg UInt8.toNat next
    have bound := decoded.envelope.fragmentCount.toNat_lt
    rw [UInt8.toNat_add, UInt8.toNat_ofNat', ← (takes_eq_true takes).1, UInt8.toNat_one] at added
    rw [count]
    omega

/-- Whatever frames arrive, and whenever: the slots never hold more than a message, no two of them
gather for the same message, and a message that is returned is made of its fragments, in order,
from its last first fragment on and within the timeout. -/
theorem reassembly_sound (limits : ReassemblyLimits) (slots : Nat)
    (history : List ReassemblyEvent) :
    (∀ index slot, (run limits history : Reassembly slots).get? index = some slot →
      slot.payload.length ≤ limits.maxMessageBytes) ∧
    (∀ first second one other, (run limits history : Reassembly slots).get? first = some one →
      (run limits history : Reassembly slots).get? second = some other →
      one.active = true → other.active = true →
      one.envelope.fragmentId = other.envelope.fragmentId → first = second) ∧
    ∀ (now : Tick) (decoded message : Decoded), decoded.envelope.flags.has Flags.fragmented = true →
      ((run limits history : Reassembly slots).reassemble limits now decoded).2 =
        .ok (some message) →
      ∃ start first later, Gathered limits (history ++ [.frame now decoded]) start first later ∧
        later.length + 1 = first.envelope.fragmentCount.toNat ∧
        message.envelope = first.envelope.assembled ∧
        message.payload = (first :: later.map Prod.snd).flatMap Decoded.payload := by
  have sound : Sound limits history (run limits history : Reassembly slots) :=
    sound_run
  exact ⟨sound.bounded, sound.unique, fun now decoded message fragmented returned =>
    exists_gathered sound fragmented returned⟩

/-- A fragment of a message of two. -/
def piece (index : UInt8) (flags : Flags) (byte : UInt8) : Decoded :=
  ⟨{ kind := .data, flags, fragmentId := 5, fragmentIndex := index, fragmentCount := 2 },
    [byte]⟩

/-- Two fragments, one tick apart. -/
theorem reassembly_sound_pieces :
    ∃ start first later, Gathered ⟨8, 10, by decide⟩ ([.frame 0 (piece 0 Flags.fragmented 7)] ++
        [.frame 1 (piece 1 (Flags.fragmented ||| Flags.final) 8)]) start first later ∧
      later.length + 1 = first.envelope.fragmentCount.toNat ∧
      (piece 0 Flags.fragmented 7).envelope.assembled = first.envelope.assembled ∧
      [7, 8] = (first :: later.map Prod.snd).flatMap Decoded.payload :=
  (reassembly_sound ⟨8, 10, by decide⟩ 2 [.frame 0 (piece 0 Flags.fragmented 7)]).2.2 1
    (piece 1 (Flags.fragmented ||| Flags.final) 8)
    ⟨(piece 0 Flags.fragmented 7).envelope.assembled, [7, 8]⟩ rfl rfl

/-- A first fragment that is not well-formed does not start its message again: here the last frame
of index zero carries a nine, and the message that is returned is made of the one before. -/
theorem reassembly_keeps_earlier_first :
    ((run ⟨8, 10, by decide⟩ [.frame 0 (piece 0 Flags.fragmented 7),
        .frame 1 (piece 0 (Flags.fragmented ||| Flags.final) 9)] : Reassembly 2).reassemble
      ⟨8, 10, by decide⟩ 2 (piece 1 (Flags.fragmented ||| Flags.final) 8)).2 =
        .ok (some ⟨(piece 0 Flags.fragmented 7).envelope.assembled, [7, 8]⟩) ∧
    ∀ before start first after, [ReassemblyEvent.frame 0 (piece 0 Flags.fragmented 7),
          .frame 1 (piece 0 (Flags.fragmented ||| Flags.final) 9),
          .frame 2 (piece 1 (Flags.fragmented ||| Flags.final) 8)] =
        before ++ .frame start first :: after →
      first.envelope.fragmentIndex = 0 →
      (∀ now decoded, ReassemblyEvent.frame now decoded ∈ after →
        decoded.envelope.fragmentIndex ≠ 0) →
      ¬ first.payload <+: [7, 8] := by
  refine ⟨rfl, ?_⟩
  intro before start first after same index latest
  rcases before with _ | ⟨_, _ | ⟨_, _ | ⟨_, _ | ⟨_, _⟩⟩⟩⟩
  · cases same
    exact absurd rfl (latest 1 _ mem_cons_self)
  · cases same
    decide
  · cases same
    exact absurd index (by decide)
  · exact nomatch same
  · exact nomatch same

end Reassembly

end Solar.Remote
