/-
This file says what the fragments of a message are, apart from how either side
makes them, and proves that both receivers put them together again. The
fragments may arrive among other frames, as long as these have other fragment
ids, the slot of the message does not expire, and there is a slot for it when
the first fragment arrives.
-/

import Solar.Library.Delivery
import Solar.Remote.Fragments.Client

namespace Solar.Remote

open List Option

/-- A message as it is handed to either side for sending. Only declared flags are encoded. -/
structure LogicalMessage where
  kind : Kind
  flags : Flags := Flags.none
  requestId : UInt32 := 0
  target : UInt32 := 0
  reserved : UInt32 := 0
  payload : Bytes := []
  declared : flags &&& 0xF0 = 0 := by decide

/-- An item of a delivery, marked if it is one of ours. -/
structure Arrival (Time : Type) where
  mine : Bool
  time : Time
  frame : Decoded

namespace LogicalMessage

variable (message : LogicalMessage)

/-- The received message is the one that was sent, marked as final and not as a fragment. -/
def IsRestored (envelope : HostEnvelope) (payload : Bytes) : Prop :=
  envelope.kind = message.kind.code ∧ envelope.target = message.target ∧
    envelope.requestId = message.requestId ∧ envelope.reserved = message.reserved ∧
    payload = message.payload ∧ Flags.has envelope.flags Flags.final = true ∧
    Flags.has envelope.flags Flags.fragmented = false

/-- The number of fragments for frames with room for `size` bytes. -/
def count (size : Nat) : Nat := (message.payload.length + size - 1) / size

/-- The payload of a fragment. -/
def part (size index : Nat) : Bytes := (message.payload.drop (index * size)).take size

/-- The frame is the fragment with the given index. -/
structure IsPart (id : UInt16) (epoch : UInt32) (size index : Nat) (frame : Decoded) : Prop where
  kind : frame.envelope.kind = message.kind
  target : frame.envelope.target = message.target
  requestId : frame.envelope.requestId = message.requestId
  reserved : frame.envelope.reserved = message.reserved
  sessionEpoch : frame.envelope.sessionEpoch = epoch
  fragmentId : frame.envelope.fragmentId = id
  fragmentIndex : frame.envelope.fragmentIndex = UInt8.ofNat index
  fragmentCount : frame.envelope.fragmentCount = UInt8.ofNat (message.count size)
  fragmented : frame.envelope.flags.has Flags.fragmented = true
  final : frame.envelope.flags.has Flags.final = decide (index + 1 = message.count size)
  stable : frame.envelope.flags.stable = (message.flags ||| Flags.fragmented).stable
  payload : frame.payload = message.part size index

/-- The replies of a receiver that returns the message with its last fragment and nothing before. -/
def expected {Failure Received : Type} (count : Nat) (received : Received) :
    List (Except Failure (Option Received)) :=
  replicate (count - 1) (.ok none) ++ [.ok (some received)]

variable {message} {size : Nat}

/-! ### The cut -/

theorem count_bounds (positive : 0 < size) (long : size < message.payload.length) :
    1 < message.count size ∧ (message.count size - 1) * size < message.payload.length ∧
      message.payload.length ≤ message.count size * size := by
  obtain ⟨remainder, low⟩ : ∃ remainder, message.payload.length + size - 1 =
      message.count size * size + remainder ∧ remainder < size :=
    ⟨(message.payload.length + size - 1) % size, (Nat.div_add_mod' _ _).symm, Nat.mod_lt _ positive⟩
  have several : 1 < message.count size := by
    refine (by decide : 1 < 2).trans_le ((Nat.le_div_iff_mul_le positive).mpr ?_)
    omega
  refine ⟨several, ?_, by omega⟩
  rw [Nat.sub_mul]
  omega

theorem take_append_part (message : LogicalMessage) (size index : Nat) :
    message.payload.take (index * size) ++ message.part size index =
      message.payload.take ((index + 1) * size) := by
  rw [Nat.succ_mul, take_add]
  rfl

theorem length_take_part_le (message : LogicalMessage) {index : Nat} :
    (message.payload.take (index * size)).length + (message.part size index).length ≤
      message.payload.length := by
  rw [← length_append, take_append_part]
  exact length_take_le' _ _

theorem length_expected (Failure : Type) {Received : Type} {count : Nat} (positive : 0 < count)
    (received : Received) :
    (expected count received : List (Except Failure (Option Received))).length = count := by
  rw [expected, length_append, length_replicate, length_singleton]
  omega

theorem getElem?_expected {Failure Received : Type} {count index : Nat} (inside : index < count)
    (received : Received) :
    (expected count received : List (Except Failure (Option Received)))[index]? =
      some (if index + 1 = count then .ok (some received) else .ok none) := by
  rw [expected]
  by_cases last : index + 1 = count
  · rw [if_pos last, getElem?_append_right (by rw [length_replicate]; omega),
      length_replicate, show index - (count - 1) = 0 by omega, getElem?_cons_zero]
  · rw [if_neg last, getElem?_append_left (by rw [length_replicate]; omega),
      getElem?_replicate, if_pos (by omega)]

end LogicalMessage

/-! ### Flags -/

theorem Flags.has_fragmented_of_or (flags : Flags) :
    Flags.has (flags ||| Flags.fragmented) Flags.fragmented = true := by
  obtain ⟨bits⟩ := flags
  revert bits
  decide

theorem Flags.has_assembled (flags : Flags) :
    Flags.has ((flags &&& ~~~Flags.fragmented) ||| Flags.final) Flags.final = true ∧
      Flags.has ((flags &&& ~~~Flags.fragmented) ||| Flags.final) Flags.fragmented = false := by
  obtain ⟨bits⟩ := flags
  revert bits
  decide

theorem Flags.has_stamped (flags : Flags) (last : Bool) :
    Flags.has (if last then flags.stable ||| Flags.final else flags.stable) Flags.final = last ∧
      Flags.has (if last then flags.stable ||| Flags.final else flags.stable) Flags.fragmented =
        flags.has Flags.fragmented ∧
      Flags.stable (if last then flags.stable ||| Flags.final else flags.stable) = flags.stable := by
  obtain ⟨bits⟩ := flags
  revert bits last
  decide

/-! ### The firmware -/

variable {id : UInt16} {limits : ReassemblyLimits} {now : Tick} {slot : ReassemblySlot}
  {slots : Nat} {pool : Reassembly slots}

namespace Reassembly

variable {index : Nat} {frame : Decoded}

/-- The reassembly of an arrival. -/
def receive (limits : ReassemblyLimits) (pool : Reassembly slots) (arrival : Arrival Tick) :
    Reassembly slots × Except ReassemblyFailure (Option Decoded) :=
  pool.reassemble limits arrival.time arrival.frame

/-- A first fragment finds a slot: one of its id, or an unused one. -/
def HasRoom (id : UInt16) (pool : Reassembly slots) (arrival : Arrival Tick) : Prop :=
  ∃ slot ∈ (pool.expire arrival.time).slots, slot.isFor id = true ∨ slot.active = false

/-- The deadline of a slot stays that of the first fragment. -/
def keep (limits : ReassemblyLimits) (deadline : Option Tick) (arrival : Arrival Tick) : Tick :=
  deadline.getD (arrival.time + limits.timeout)

theorem isFor_iff : slot.isFor id = true ↔ slot.active = true ∧ slot.envelope.fragmentId = id := by
  rw [ReassemblySlot.isFor, Bool.and_eq_true, decide_eq_true_eq]

theorem get?_expire_map (pool : Reassembly slots) (now : Tick) (index : Nat) :
    (pool.expire now).get? index =
      (pool.get? index).map fun slot => if slot.expired now then {} else slot :=
  getElem?_map

section

variable (found : pool.find? (ReassemblySlot.isFor id) = some (index, slot))

include found

theorem find?_expire (inTime : now < slot.deadline) :
    (pool.expire now).find? (ReassemblySlot.isFor id) = some (index, slot) := by
  obtain ⟨stored, isFor, before⟩ := Pool.find?_eq_some_iff.mp found
  have live : slot.expired now = false := by
    rw [ReassemblySlot.expired, decide_eq_false (Int.not_le.mpr inTime), Bool.and_false]
  refine Pool.find?_eq_some_iff.mpr ⟨?_, isFor, ?_⟩
  · rw [get?_expire_map, stored, map_some, live]
    rfl
  · intro earlier smaller other held
    rw [get?_expire_map] at held
    obtain ⟨old, kept, rfl⟩ := map_eq_some_iff.mp held
    split
    · rfl
    · exact before earlier smaller old kept

/-- A fragment of another message goes to another slot. -/
theorem place_of_ne {envelope : Envelope} {place : Nat} {taken : ReassemblySlot}
    (other : envelope.fragmentId ≠ id)
    (placed : pool.place limits now envelope = .ok (place, taken)) :
    index ≠ place ∧ taken.envelope.fragmentId ≠ id := by
  obtain ⟨stored, isFor, -⟩ := Pool.find?_eq_some_iff.mp found
  obtain ⟨active, same⟩ := isFor_iff.mp isFor
  unfold Reassembly.place at placed
  cases held : pool.find? (ReassemblySlot.isFor envelope.fragmentId) with
  | some entry =>
    obtain ⟨elsewhere, content⟩ := entry
    obtain ⟨storedOther, isForOther, -⟩ := Pool.find?_eq_some_iff.mp held
    have named := (isFor_iff.mp isForOther).2
    have apart : index ≠ elsewhere := by
      rintro rfl
      cases some.inj (stored.symm.trans storedOther)
      exact other (named.symm.trans same)
    simp only [held] at placed
    split at placed
    · cases placed
      exact ⟨apart, other⟩
    · cases placed
      exact ⟨apart, fun equal => other (named.symm.trans equal)⟩
  | none =>
    simp only [held] at placed
    split at placed
    · cases free : pool.find? (fun slot => !slot.active) with
      | none =>
        rw [free] at placed
        exact nomatch placed
      | some entry =>
        obtain ⟨storedFree, unused, -⟩ := Pool.find?_eq_some_iff.mp free
        rw [free] at placed
        cases placed
        refine ⟨?_, other⟩
        rintro rfl
        cases some.inj (stored.symm.trans storedFree)
        rw [active] at unused
        exact nomatch unused
    · exact nomatch placed

/-- A frame of another message leaves the slot of ours as it is. -/
theorem find?_reassemble_of_ne (inTime : now < slot.deadline)
    (other : frame.envelope.fragmentId ≠ id) :
    (pool.reassemble limits now frame).1.find? (ReassemblySlot.isFor id) = some (index, slot) := by
  have kept := find?_expire found inTime
  unfold reassemble
  split
  · exact found
  · split
    · exact found
    · dsimp only
      cases placed : (pool.expire now).place limits now frame.envelope with
      | error failure => exact kept
      | ok entry =>
        obtain ⟨apart, named⟩ := place_of_ne kept other placed
        dsimp only
        split
        · exact Pool.find?_put_of_ne kept apart rfl
        · split
          · refine Pool.find?_put_of_ne kept apart ?_
            exact Bool.eq_false_iff.mpr fun isFor => named (isFor_iff.mp isFor).2
          · exact Pool.find?_put_of_ne kept apart rfl

end

/-- A first fragment is placed if there is room. -/
theorem place_first {envelope : Envelope} (named : envelope.fragmentId = id)
    (first : envelope.fragmentIndex = 0)
    (room : ∃ slot ∈ pool.slots, slot.isFor id = true ∨ slot.active = false) :
    ∃ index, pool.place limits now envelope =
        .ok (index, ReassemblySlot.opened limits now envelope) ∧ index < slots ∧
      ∀ earlier < index, ∀ other, pool.get? earlier = some other → other.isFor id = false := by
  unfold place
  rw [named]
  cases held : pool.find? (ReassemblySlot.isFor id) with
  | some entry =>
    obtain ⟨index, content⟩ := entry
    obtain ⟨stored, -, before⟩ := Pool.find?_eq_some_iff.mp held
    exact ⟨index, if_pos first, Pool.get?_lt stored, before⟩
  | none =>
    have none := Pool.find?_eq_none_iff.mp held
    cases free : pool.find? (fun slot => !slot.active) with
    | some entry =>
      obtain ⟨index, content⟩ := entry
      obtain ⟨stored, -, -⟩ := Pool.find?_eq_some_iff.mp free
      exact ⟨index, if_pos first, Pool.get?_lt stored, fun earlier _ other => none earlier other⟩
    | none =>
      obtain ⟨slot, member, found | unused⟩ := room
      · obtain ⟨index, stored⟩ := Pool.mem_slots_iff.mp member
        exact absurd (none index slot stored) (by simp [found])
      · obtain ⟨index, stored⟩ := Pool.mem_slots_iff.mp member
        exact absurd (Pool.find?_eq_none_iff.mp free index slot stored) (by simp [unused])

end Reassembly

/-- What a receiver asks of the fragments of a message as a whole. -/
structure LogicalMessage.Divides (message : LogicalMessage) (id : UInt16) (size : Nat) : Prop where
  nonzero : id ≠ 0
  positive : 0 < size
  long : size < message.payload.length
  few : message.count size ≤ 255

variable {message : LogicalMessage} {frame first : Decoded} {epoch : UInt32} {size index : Nat}

namespace LogicalMessage

theorem Divides.several (divides : message.Divides id size) : 1 < message.count size :=
  (count_bounds divides.positive divides.long).1

theorem toNat_ofNat_small {number : Nat} (small : number ≤ 255) :
    (UInt8.ofNat number).toNat = number := by
  exact Nat.mod_eq_of_lt (by omega)

section

variable (divides : message.Divides id size) (part : message.IsPart id epoch size index frame)
  (inside : index < message.count size)

include divides part inside

theorem IsPart.isLast : frame.envelope.isLast = decide (index + 1 = message.count size) := by
  have few := divides.few
  rw [Envelope.isLast, part.fragmentIndex, part.fragmentCount, toNat_ofNat_small (by omega),
    toNat_ofNat_small few]

theorem IsPart.isFragment : frame.envelope.isFragment = true := by
  have several : 1 < frame.envelope.fragmentCount := by
    rw [UInt8.lt_iff_toNat_lt, part.fragmentCount, toNat_ofNat_small divides.few]
    exact divides.several
  have named : frame.envelope.fragmentId ≠ 0 := part.fragmentId ▸ divides.nonzero
  rw [Envelope.isFragment, part.fragmented, decide_eq_true several, decide_eq_true named,
    part.final, part.isLast divides inside]
  exact decide_eq_true rfl

theorem IsPart.fragmentIndex_eq_zero_iff : frame.envelope.fragmentIndex = 0 ↔ index = 0 := by
  have few := divides.few
  rw [part.fragmentIndex, ← UInt8.toNat_inj, toNat_ofNat_small (by omega)]
  rfl

end

end LogicalMessage

namespace Reassembly

variable {size index place : Nat}

/-- The slot holds the fragments before an index. -/
structure Gathers (message : LogicalMessage) (first : Decoded) (size index : Nat)
    (slot : ReassemblySlot) : Prop where
  active : slot.active = true
  envelope : slot.envelope = first.envelope
  nextFragment : slot.nextFragment = UInt8.ofNat index
  payload : slot.payload = message.payload.take (index * size)

theorem Gathers.takes (gathers : Gathers message first size index slot)
    (opening : message.IsPart id epoch size 0 first)
    (part : message.IsPart id epoch size index frame)
    (fits : message.payload.length ≤ limits.maxMessageBytes) :
    slot.takes limits frame = true := by
  have room : slot.payload.length + frame.payload.length ≤ limits.maxMessageBytes := by
    rw [gathers.payload, part.payload]
    exact message.length_take_part_le.trans fits
  simp [ReassemblySlot.takes, gathers.envelope, gathers.nextFragment, part.fragmentIndex,
    part.fragmentCount, opening.fragmentCount, part.sessionEpoch, opening.sessionEpoch, part.kind,
    opening.kind, part.target, opening.target, part.requestId, opening.requestId, part.reserved,
    opening.reserved, part.stable, opening.stable, room]

theorem Gathers.add (gathers : Gathers message first size index slot)
    (part : message.IsPart id epoch size index frame) :
    Gathers message first size (index + 1) (slot.add frame.payload) where
  active := gathers.active
  envelope := gathers.envelope
  nextFragment := by
    rw [ReassemblySlot.add, gathers.nextFragment]
    exact (UInt8.ofNat_add index 1).symm
  payload := by
    rw [ReassemblySlot.add, gathers.payload, part.payload, message.take_append_part]

/-- The next fragment is added to the slot of its message, and completes the message if it is the
last. -/
theorem reassemble_part (divides : message.Divides id size)
    (opening : message.IsPart id epoch size 0 first)
    (part : message.IsPart id epoch size index frame) (inside : index < message.count size)
    (fits : message.payload.length ≤ limits.maxMessageBytes)
    (placed : (pool.expire now).place limits now frame.envelope = .ok (place, slot))
    (gathers : Gathers message first size index slot) :
    pool.reassemble limits now frame =
      if index + 1 = message.count size then
        ((pool.expire now).put place { slot.add frame.payload with active := false },
          .ok (some ⟨first.envelope.assembled, message.payload⟩))
      else ((pool.expire now).put place (slot.add frame.payload), .ok none) := by
  have fragmented : ¬(frame.envelope.flags.has Flags.fragmented = false ∧
      frame.envelope.fragmentCount = 1) := by
    rw [part.fragmented]
    exact fun both => nomatch both.1
  rw [reassemble, if_neg fragmented, if_neg (by rw [part.isFragment divides inside]; exact nofun)]
  simp only [placed, gathers.takes opening part fits, Bool.true_eq_false, if_false,
    part.isLast divides inside, decide_eq_false_iff_not]
  by_cases last : index + 1 = message.count size
  · have added := gathers.add part
    have whole : (slot.add frame.payload).payload = message.payload := by
      rw [added.payload, last, take_of_length_le]
      exact (LogicalMessage.count_bounds divides.positive divides.long).2.2
    rw [if_neg (not_not.mpr last), if_pos last, added.envelope, whole]
  · rw [if_pos last, if_neg last]

/-- The delivery of fragments to the firmware. -/
def protocol (slots : Nat) (limits : ReassemblyLimits) (message : LogicalMessage) (id : UInt16)
    (epoch : UInt32) (size : Nat) (first : Decoded) :
    Delivery.Protocol (Reassembly slots) (Arrival Tick) (Except ReassemblyFailure (Option Decoded))
      Tick where
  step := receive limits
  own := Arrival.mine
  arrival := Arrival.time
  renew := keep limits
  room := HasRoom id
  Part index arrival := message.IsPart id epoch size index arrival.frame ∧
    (index = 0 → arrival.frame = first)
  Foreign arrival := arrival.frame.envelope.fragmentId ≠ id

/-- The slot of a message, with the fragments before an index. -/
def HoldsParts (message : LogicalMessage) (id : UInt16) (size : Nat) (first : Decoded) (index : Nat)
    (deadline : Tick) (pool : Reassembly slots) : Prop :=
  ∃ place slot, pool.find? (ReassemblySlot.isFor id) = some (place, slot) ∧
    slot.deadline = deadline ∧ Gathers message first size index slot

/-- A fragment that is placed gets its reply, and the slot holds it. -/
theorem holds_reassemble (divides : message.Divides id size)
    (opening : message.IsPart id epoch size 0 first)
    (part : message.IsPart id epoch size index frame) (inside : index < message.count size)
    (fits : message.payload.length ≤ limits.maxMessageBytes)
    (placed : (pool.expire now).place limits now frame.envelope = .ok (place, slot))
    (gathers : Gathers message first size index slot) (bound : place < slots)
    (before : ∀ earlier < place, ∀ other, (pool.expire now).get? earlier = some other →
      other.isFor id = false) :
    (LogicalMessage.expected (message.count size)
        (⟨first.envelope.assembled, message.payload⟩ : Decoded))[index]? =
          some (pool.reassemble limits now frame).2 ∧
      (index + 1 < message.count size → HoldsParts message id size first (index + 1) slot.deadline
          (pool.reassemble limits now frame).1) := by
  rw [reassemble_part divides opening part inside fits placed gathers,
    LogicalMessage.getElem?_expected inside]
  by_cases last : index + 1 = message.count size
  · rw [if_pos last, if_pos last]
    exact ⟨rfl, fun more => absurd last more.ne⟩
  · rw [if_neg last, if_neg last]
    have added := gathers.add part
    refine ⟨rfl, fun _ => ⟨place, slot.add frame.payload, ?_, rfl, added⟩⟩
    refine Pool.find?_put_self bound (isFor_iff.mpr ⟨added.active, ?_⟩) before
    rw [added.envelope]
    exact opening.fragmentId

/-- The firmware puts the fragments of a message together. -/
theorem gathers (slots : Nat) (divides : message.Divides id size)
    (opening : message.IsPart id epoch size 0 first)
    (fits : message.payload.length ≤ limits.maxMessageBytes) :
    Delivery.Gathers (protocol slots limits message id epoch size first) (fun _ => True)
      (HoldsParts message id size first) (LogicalMessage.expected (message.count size)
        (⟨first.envelope.assembled, message.payload⟩ : Decoded)) := by
  have several := divides.several
  have length := LogicalMessage.length_expected ReassemblyFailure
    (Nat.lt_of_succ_lt several) (⟨first.envelope.assembled, message.payload⟩ : Decoded)
  refine ⟨fun _ _ => trivial, ?_, ?_, ?_⟩
  · rintro pool index deadline arrival ⟨place, slot, found, rfl, gathers⟩ foreign inTime
    exact ⟨place, slot, find?_reassemble_of_ne found inTime foreign, rfl, gathers⟩
  · rintro pool arrival - room ⟨part, same⟩
    rw [length]
    obtain ⟨place, placed, bound, before⟩ := place_first part.fragmentId
      ((part.fragmentIndex_eq_zero_iff divides (Nat.lt_of_succ_lt several)).mpr rfl) room
    have opened : Gathers message first size 0
        (ReassemblySlot.opened limits arrival.time arrival.frame.envelope) := by
      refine ⟨rfl, congrArg Decoded.envelope (same rfl), rfl, ?_⟩
      rw [Nat.zero_mul]
      rfl
    exact holds_reassemble divides opening part (Nat.lt_of_succ_lt several) fits placed opened bound
      before
  · rintro pool index deadline arrival - ⟨place, slot, found, rfl, gathers⟩ positive inside inTime
      ⟨part, -⟩
    rw [length] at inside ⊢
    have kept : (pool.expire arrival.time).find? (ReassemblySlot.isFor id) = some (place, slot) :=
      find?_expire found inTime
    obtain ⟨stored, -, before⟩ := Pool.find?_eq_some_iff.mp kept
    have placed : (pool.expire arrival.time).place limits arrival.time arrival.frame.envelope =
        .ok (place, slot) := by
      rw [Reassembly.place, part.fragmentId, kept]
      refine if_neg fun zero => ?_
      have := (part.fragmentIndex_eq_zero_iff divides inside).mp zero
      omega
    exact holds_reassemble divides opening part inside fits placed gathers (Pool.get?_lt stored)
      before

end Reassembly

/-! ### The client -/

namespace Client.Reassembler

variable {reassembler : Reassembler} {clock : Clock} {slot : FragmentSlot} {envelope : HostEnvelope}
  {payload : Bytes}

/-- The reassembly of an arrival. -/
def receive (reassembler : Reassembler) (arrival : Arrival Clock) :
    Reassembler × Except PushError (Option Message) :=
  reassembler.push arrival.time arrival.frame.envelope.toHost arrival.frame.payload

/-- A first fragment finds no slot of its id, and not all of the slots in use. -/
def HasRoom (id : UInt16) (reassembler : Reassembler) (arrival : Arrival Clock) : Prop :=
  let live := reassembler.expire (arrival.time 0)
  live.slots.lookup id = none ∧ live.slots.entries.length < reassembler.maximumSlots

/-- Each fragment sets the deadline anew. -/
def renew (timeout : Tick) (_ : Option Tick) (arrival : Arrival Clock) : Tick :=
  arrival.time 2 + timeout

def arrived (arrival : Arrival Clock) : Tick := arrival.time 0

theorem lookup_foldl_erase {slots : AList (fun _ : UInt16 => FragmentSlot)} {keys : List UInt16}
    (other : id ∉ keys) : (keys.foldl (fun slots key => slots.erase key) slots).lookup id =
      slots.lookup id := by
  induction keys generalizing slots with
  | nil => rfl
  | cons key rest ih =>
    rw [mem_cons, not_or] at other
    rw [foldl_cons, ih other.2, AList.lookup_erase_ne other.1]

theorem lookup_expire (found : reassembler.slots.lookup id = some slot)
    (inTime : now < slot.deadline) :
    (reassembler.expire now).slots.lookup id = some slot := by
  refine (lookup_foldl_erase ?_).trans found
  intro due
  obtain ⟨⟨key, other⟩, member, rfl⟩ := mem_map.mp due
  obtain ⟨stored, late⟩ := mem_filter.mp member
  cases some.inj ((AList.mem_lookup_iff.mpr stored).symm.trans found)
  exact absurd (of_decide_eq_true late) (Int.not_le.mpr inTime)

theorem push_bounds :
    (reassembler.push clock envelope payload).1.maximumMessageSize =
        reassembler.maximumMessageSize ∧
      (reassembler.push clock envelope payload).1.timeout = reassembler.timeout := by
  unfold push
  dsimp only
  split
  · exact ⟨rfl, rfl⟩
  · split
    · exact ⟨rfl, rfl⟩
    · split
      · exact ⟨rfl, rfl⟩
      · split
        · exact ⟨rfl, rfl⟩
        · split
          · exact ⟨rfl, rfl⟩
          · exact ⟨rfl, rfl⟩

theorem lookup_push_of_ne (found : reassembler.slots.lookup id = some slot)
    (inTime : clock 0 < slot.deadline) (other : envelope.fragmentId ≠ id) :
    (reassembler.push clock envelope payload).1.slots.lookup id = some slot := by
  have kept := lookup_expire found inTime
  unfold push
  dsimp only
  split
  · exact kept
  · split
    · exact kept
    · split
      · exact kept
      · split
        · exact (AList.lookup_erase_ne other.symm).trans kept
        · split
          · exact (AList.lookup_insert_ne other.symm).trans kept
          · exact (AList.lookup_erase_ne other.symm).trans kept

/-- The slot holds the fragments before an index. -/
structure Gathers (message : LogicalMessage) (first : Decoded) (size index : Nat)
    (slot : FragmentSlot) : Prop where
  envelope : slot.envelope = first.envelope.toHost
  nextIndex : slot.nextIndex = index
  payload : slot.payload = message.payload.take (index * size)

theorem Gathers.takes (gathers : Gathers message first size index slot)
    (divides : message.Divides id size) (opening : message.IsPart id epoch size 0 first)
    (part : message.IsPart id epoch size index frame) (inside : index < message.count size)
    {maximum : Nat} (fits : message.payload.length ≤ maximum) :
    slot.takes maximum frame.envelope.toHost frame.payload = true := by
  have few := divides.few
  have room : slot.payload.length + frame.payload.length ≤ maximum := by
    rw [gathers.payload, part.payload]
    exact message.length_take_part_le.trans fits
  have position : (UInt8.ofNat index).toNat = index :=
    LogicalMessage.toNat_ofNat_small (by omega)
  have last : FragmentSlot.isLast frame.envelope.toHost =
      decide (index + 1 = message.count size) := part.isLast divides inside
  rw [FragmentSlot.takes, last]
  simp [gathers.envelope, gathers.nextIndex, Envelope.toHost, part.fragmentIndex,
    part.fragmentCount, opening.fragmentCount, part.sessionEpoch, opening.sessionEpoch, part.kind,
    opening.kind, part.target, opening.target, part.requestId, opening.requestId, part.reserved,
    opening.reserved, part.final, position, room]

theorem Gathers.extend (gathers : Gathers message first size index slot)
    (part : message.IsPart id epoch size index frame) (deadline : Tick) :
    Gathers message first size (index + 1) (slot.extend frame.payload deadline) where
  envelope := gathers.envelope
  nextIndex := congrArg (· + 1) gathers.nextIndex
  payload := by
    rw [FragmentSlot.extend, gathers.payload, part.payload, message.take_append_part]

/-- The message that the fragments give. -/
def assembled (message : LogicalMessage) (first : Decoded) : Message :=
  ({ envelope := first.envelope.toHost, payload := message.payload, deadline := 0 } :
    FragmentSlot).complete

/-- The next fragment extends the slot of its message, and completes the message if it is the
last. -/
theorem push_part (divides : message.Divides id size)
    (opening : message.IsPart id epoch size 0 first)
    (part : message.IsPart id epoch size index frame) (inside : index < message.count size)
    (fits : message.payload.length ≤ reassembler.maximumMessageSize)
    (placed : (reassembler.expire (clock 0)).place clock frame.envelope.toHost = .ok slot)
    (gathers : Gathers message first size index slot) :
    (reassembler.push clock frame.envelope.toHost frame.payload).2 =
        (if index + 1 = message.count size then .ok (some (assembled message first))
          else .ok none) ∧
      (index + 1 ≠ message.count size →
        (reassembler.push clock frame.envelope.toHost frame.payload).1.slots.lookup id =
          some (slot.extend frame.payload (clock 2 + reassembler.timeout))) := by
  have few := divides.few
  have several := divides.several
  have counted : frame.envelope.fragmentCount.toNat = message.count size := by
    rw [part.fragmentCount, LogicalMessage.toNat_ofNat_small few]
  have positioned : frame.envelope.fragmentIndex.toNat = index := by
    rw [part.fragmentIndex, LogicalMessage.toNat_ofNat_small (by omega)]
  have whole : ¬(Flags.has frame.envelope.toHost.flags Flags.fragmented = false ∧
      frame.envelope.toHost.fragmentCount = 1) := by
    rintro ⟨absent, -⟩
    exact absurd (part.fragmented.symm.trans absent) (by decide)
  have valid : ¬(Flags.has frame.envelope.toHost.flags Flags.fragmented = false ∨
      frame.envelope.toHost.fragmentCount ≤ 1 ∨ frame.envelope.toHost.fragmentId = 0 ∨
      frame.envelope.toHost.fragmentCount ≤ frame.envelope.toHost.fragmentIndex) := by
    rintro (absent | one | unnamed | outside)
    · exact absurd (part.fragmented.symm.trans absent) (by decide)
    · have small : frame.envelope.fragmentCount.toNat ≤ 1 := UInt8.le_iff_toNat_le.mp one
      omega
    · exact divides.nonzero (part.fragmentId.symm.trans unnamed)
    · have small : frame.envelope.fragmentCount.toNat ≤ frame.envelope.fragmentIndex.toNat :=
        UInt8.le_iff_toNat_le.mp outside
      omega
  have last : FragmentSlot.isLast frame.envelope.toHost =
      decide (index + 1 = message.count size) := part.isLast divides inside
  have takes : slot.takes (reassembler.expire (clock 0)).maximumMessageSize frame.envelope.toHost
      frame.payload = true := gathers.takes divides opening part inside fits
  simp only [push, if_neg whole, if_neg valid, placed, takes, Bool.true_eq_false, if_false, last,
    decide_eq_false_iff_not]
  have extended := gathers.extend part (clock 2 + (reassembler.expire (clock 0)).timeout)
  by_cases final : index + 1 = message.count size
  · rw [if_neg (not_not.mpr final), if_pos final]
    refine ⟨?_, fun other => absurd final other⟩
    have joined : message.payload.take ((index + 1) * size) = message.payload := by
      rw [final, take_of_length_le]
      exact (LogicalMessage.count_bounds divides.positive divides.long).2.2
    simp only [FragmentSlot.complete, assembled, extended.envelope, extended.payload, joined]
  · rw [if_pos final, if_neg final]
    refine ⟨rfl, fun _ => ?_⟩
    have named : frame.envelope.toHost.fragmentId = id := part.fragmentId
    simp only [named]
    exact AList.lookup_insert _

/-- The delivery of fragments to the client. -/
def protocol (timeout : Tick) (message : LogicalMessage) (id : UInt16) (epoch : UInt32)
    (size : Nat) (first : Decoded) :
    Delivery.Protocol Reassembler (Arrival Clock) (Except PushError (Option Message)) Tick where
  step := receive
  own := Arrival.mine
  arrival := arrived
  renew := renew timeout
  room := HasRoom id
  Part index arrival := message.IsPart id epoch size index arrival.frame ∧
    (index = 0 → arrival.frame = first)
  Foreign arrival := arrival.frame.envelope.fragmentId ≠ id

/-- The slot of a message, with the fragments before an index. -/
def HoldsParts (message : LogicalMessage) (id : UInt16) (size : Nat) (first : Decoded)
    (index : Nat) (deadline : Tick) (reassembler : Reassembler) : Prop :=
  ∃ slot, reassembler.slots.lookup id = some slot ∧ slot.deadline = deadline ∧
    Gathers message first size index slot

/-- The client puts the fragments of a message together. -/
theorem gathers (timeout : Tick) (divides : message.Divides id size)
    (opening : message.IsPart id epoch size 0 first) :
    Delivery.Gathers (protocol timeout message id epoch size first)
      (fun reassembler => message.payload.length ≤ reassembler.maximumMessageSize ∧
        reassembler.timeout = timeout)
      (HoldsParts message id size first)
      (LogicalMessage.expected (message.count size) (assembled message first)) := by
  have several := divides.several
  have length := LogicalMessage.length_expected PushError (Nat.lt_of_succ_lt several)
    (assembled message first)
  refine ⟨?_, ?_, ?_, ?_⟩
  · rintro reassembler arrival ⟨fits, same⟩
    obtain ⟨maximum, kept⟩ := push_bounds
    exact ⟨maximum.symm ▸ fits, kept.trans same⟩
  · rintro reassembler index deadline arrival ⟨slot, found, rfl, gathers⟩ foreign inTime
    exact ⟨slot, lookup_push_of_ne found inTime foreign, rfl, gathers⟩
  · rintro reassembler arrival ⟨fits, rfl⟩ ⟨unused, free⟩ ⟨part, same⟩
    rw [length, LogicalMessage.getElem?_expected (Nat.lt_of_succ_lt several)]
    have inside := Nat.lt_of_succ_lt several
    have zero : arrival.frame.envelope.toHost.fragmentIndex = 0 :=
      (part.fragmentIndex_eq_zero_iff divides inside).mpr rfl
    have named : arrival.frame.envelope.toHost.fragmentId = id := part.fragmentId
    have placed : (reassembler.expire (arrival.time 0)).place arrival.time
        arrival.frame.envelope.toHost = .ok {
          envelope := arrival.frame.envelope.toHost
          deadline := arrival.time 1 + (reassembler.expire (arrival.time 0)).timeout } := by
      rw [place, named, unused]
      exact (if_neg (not_not.mpr zero)).trans (if_neg free.ne)
    have opened : Gathers message first size 0 {
        envelope := arrival.frame.envelope.toHost
        deadline := arrival.time 1 + (reassembler.expire (arrival.time 0)).timeout } := by
      refine ⟨congrArg (fun frame => frame.envelope.toHost) (same rfl), rfl, ?_⟩
      rw [Nat.zero_mul, take_zero]
    obtain ⟨reply, held⟩ := push_part divides opening part inside fits placed opened
    refine ⟨congrArg some reply.symm, fun more => ⟨_, held more.ne, rfl, ?_⟩⟩
    exact opened.extend part _
  · rintro reassembler index deadline arrival ⟨fits, rfl⟩ ⟨slot, found, rfl, gathers⟩ positive inside
      inTime ⟨part, -⟩
    rw [length] at inside ⊢
    rw [LogicalMessage.getElem?_expected inside]
    have kept : (reassembler.expire (arrival.time 0)).slots.lookup id = some slot :=
      lookup_expire found inTime
    have named : arrival.frame.envelope.toHost.fragmentId = id := part.fragmentId
    have placed : (reassembler.expire (arrival.time 0)).place arrival.time
        arrival.frame.envelope.toHost = .ok slot := by
      rw [place, named, kept]
      refine if_neg fun zero => ?_
      have := (part.fragmentIndex_eq_zero_iff divides inside).mp zero
      omega
    obtain ⟨reply, held⟩ := push_part divides opening part inside fits placed gathers
    refine ⟨congrArg some reply.symm, fun more => ⟨_, held more.ne, rfl, ?_⟩⟩
    exact gathers.extend part _

end Client.Reassembler

end Solar.Remote
