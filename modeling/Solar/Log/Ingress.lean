/-
This file is about the bytes of the ingress. A record is written behind a word with its
size, and wraps around the end of the ring wherever it comes to it. What the ring holds
is the queue of the records that were accepted and not yet popped, byte for byte, so a
pop finds the next record and its size. The limits of the levels leave their reserves
to the records they are meant for.
-/

import Solar.Library.Ring
import Solar.Log.Facility

namespace Solar.Log

open List Function

/-! ### The ring -/

abbrev Bytes := List UInt8

/-- `ByteRing`. -/
structure ByteRing where
  bytes : Nat → UInt8 := fun _ => 0
  head : Nat := 0
  tail : Nat := 0
  used : Nat := 0

/-- The bytes of a word of 16 bits in memory. -/
def putWord (value : Nat) : Bytes := [UInt8.ofNat value, UInt8.ofNat (value / 256)]

def getWord : Bytes → Nat
  | [low, high] => low.toNat + 256 * high.toNat
  | _ => 0

theorem getWord_putWord {value : Nat} (small : value < 2 ^ 16) :
    getWord (putWord value) = value := by
  simp only [getWord, putWord, UInt8.toNat_ofNat']
  omega

namespace ByteRing

variable (capacity : Nat)

def write (ring : ByteRing) : Bytes → ByteRing
  | [] => ring
  | byte :: rest =>
      write { ring with
        bytes := update ring.bytes ring.tail byte
        tail := (ring.tail + 1) % capacity
        used := ring.used + 1 } rest

/-- `peek`, with the cursor. -/
def peek (ring : ByteRing) (cursor : Nat) : Nat → Bytes
  | 0 => []
  | size + 1 => ring.bytes cursor :: peek ring ((cursor + 1) % capacity) size

def discard (ring : ByteRing) (size : Nat) : ByteRing :=
  { ring with head := (ring.head + size) % capacity, used := ring.used - size }

def push (ring : ByteRing) (value : Bytes) (admissionLimit : Nat) : Option ByteRing :=
  let required := 2 + value.length
  if 65535 < value.length ∨ admissionLimit < required ∨ admissionLimit < ring.used + required then
    none
  else some ((ring.write capacity (putWord value.length)).write capacity value)

def pop (ring : ByteRing) (room : Nat) : Option (Bytes × ByteRing) :=
  if ring.used < 2 then none
  else
    let size := getWord (ring.peek capacity ring.head 2)
    if ring.used < 2 + size ∨ room < size then none
    else
      let rest := ring.discard capacity 2
      some (rest.peek capacity rest.head size, rest.discard capacity size)

variable {capacity} {ring : ByteRing} {items front rest : Bytes}

/-- The ring holds the queue of these bytes. -/
structure Holds (capacity : Nat) (ring : ByteRing) (items : Bytes) : Prop where
  slots : Ring.Holds capacity ⟨some ∘ ring.bytes, ring.head, ring.tail, ring.used⟩ items
  inside : ring.head % capacity = ring.head

theorem Holds.empty (capacity : Nat) : ({} : ByteRing).Holds capacity [] :=
  ⟨.clear _ ⟨some ∘ fun _ => 0, 0, 0, 0⟩, Nat.zero_mod _⟩

theorem Holds.write (holds : ring.Holds capacity items) (value : Bytes)
    (room : items.length + value.length ≤ capacity) :
    (ring.write capacity value).Holds capacity (items ++ value) := by
  induction value generalizing ring items with
  | nil => exact (append_nil items).symm ▸ holds
  | cons byte value ih =>
    rw [length_cons] at room
    have used : ring.used = items.length := holds.slots.count
    have counts : (ring.used + 1) % capacity.succ = ring.used + 1 := Nat.mod_eq_of_lt (by omega)
    have pushed := holds.slots.push (by omega) (Nat.lt_succ_self capacity) byte
    unfold Ring.Slots.push at pushed
    dsimp only at pushed
    rw [← comp_update, counts] at pushed
    rw [append_cons]
    exact ih ⟨pushed, holds.inside⟩ (by rw [length_append, length_singleton]; omega)

theorem peek_eq {cursor : Nat} (inside : cursor % capacity = cursor)
    (cells : ∀ offset byte, front[offset]? = some byte →
      ring.bytes ((cursor + offset) % capacity) = byte) :
    ring.peek capacity cursor front.length = front := by
  induction front generalizing cursor with
  | nil => rfl
  | cons byte front ih =>
    have first := cells 0 byte rfl
    rw [Nat.add_zero, inside] at first
    refine congrArg₂ cons first (ih (Nat.mod_mod _ _) fun offset byte here => ?_)
    rw [Nat.mod_add_mod, Nat.add_assoc, Nat.add_comm 1]
    exact cells (offset + 1) byte here

theorem Holds.peek (holds : ring.Holds capacity (front ++ rest)) :
    ring.peek capacity ring.head front.length = front :=
  peek_eq holds.inside fun offset byte here => Option.some.inj (holds.slots.cells offset byte
    ((getElem?_append_left (List.getElem?_eq_some_iff.mp here).1).trans here))

theorem Holds.discard (holds : ring.Holds capacity (front ++ rest)) :
    (ring.discard capacity front.length).Holds capacity rest := by
  have length : (front ++ rest).length = front.length + rest.length := length_append
  have count := holds.slots.count
  have bounded := holds.slots.bounded
  refine ⟨⟨?_, by omega, ?_, fun offset byte here => ?_⟩, Nat.mod_mod _ _⟩
  · change ring.used - front.length = rest.length
    change ring.used = _ at count
    omega
  · refine holds.slots.tail.trans ?_
    change (ring.head + _) % capacity = ((ring.head + front.length) % capacity + _) % capacity
    rw [Nat.mod_add_mod, Nat.add_assoc, length]
  · refine Eq.trans ?_ (holds.slots.cells (front.length + offset) byte ?_)
    · change some (ring.bytes (((ring.head + front.length) % capacity + offset) % capacity)) = _
      rw [Nat.mod_add_mod, Nat.add_assoc]
      rfl
    · rw [getElem?_append_right (Nat.le_add_right _ _), Nat.add_sub_cancel_left]
      exact here

/-- The bytes of the records of a queue. -/
def contents (records : List Bytes) : Bytes :=
  records.flatMap fun record => putWord record.length ++ record

variable {records : List Bytes} {value : Bytes}

theorem push_eq_none_iff (small : value.length < 2 ^ 16) {limit : Nat} :
    ring.push capacity value limit = none ↔ limit < ring.used + (2 + value.length) := by
  unfold push
  dsimp only
  split
  · exact iff_of_true rfl (by omega)
  · exact iff_of_false nofun (by omega)

theorem Holds.push (holds : ring.Holds capacity (contents records)) {limit : Nat}
    (within : limit ≤ capacity) {next : ByteRing}
    (pushed : ring.push capacity value limit = some next) :
    next.Holds capacity (contents (records ++ [value])) ∧
      next.used = ring.used + (2 + value.length) ∧ next.used ≤ limit := by
  obtain ⟨room, ⟨⟩⟩ := Option.ite_none_left_eq_some.mp pushed
  have used := holds.slots.count
  change ring.used = _ at used
  have word : (putWord value.length).length = 2 := rfl
  have written := (holds.write (putWord value.length) (by omega)).write value
    (by rw [length_append]; omega)
  have count := written.slots.count
  have same : contents (records ++ [value]) =
      contents records ++ putWord value.length ++ value := by
    rw [contents, flatMap_append, flatMap_singleton, append_assoc]
    rfl
  change ByteRing.used _ = _ at count
  rw [length_append, length_append] at count
  exact ⟨same ▸ written, by omega, by omega⟩

theorem pop_nil (holds : ring.Holds capacity (contents [])) (room : Nat) :
    ring.pop capacity room = none :=
  if_pos ((congrArg (· < 2) holds.slots.count).mpr Nat.two_pos)

theorem Holds.pop (holds : ring.Holds capacity (contents (value :: records)))
    (small : value.length < 2 ^ 16) {room : Nat} (fits : value.length ≤ room) :
    ∃ next, ring.pop capacity room = some (value, next) ∧
      next.Holds capacity (contents records) ∧ ring.used = next.used + (2 + value.length) := by
  have split : contents (value :: records) =
      putWord value.length ++ (value ++ contents records) := append_assoc _ _ _
  rw [split] at holds
  have used := holds.slots.count
  change ring.used = _ at used
  rw [length_append, length_append] at used
  have word : (putWord value.length).length = 2 := rfl
  have size : getWord (ring.peek capacity ring.head 2) = value.length :=
    (congrArg getWord holds.peek).trans (getWord_putWord small)
  have after : (ring.discard capacity 2).Holds capacity (value ++ contents records) := holds.discard
  refine ⟨_, ?_, after.discard, ?_⟩
  · unfold ByteRing.pop
    dsimp only
    rw [size, if_neg (by omega), if_neg (by omega), after.peek]
  · change _ = ring.used - 2 - value.length + _
    omega

end ByteRing

/-! ### The records -/

variable {Route Payload : Type} {architecture : Architecture Route Payload}

/-- How a record lies in memory. `payloadSize` reads the size that a header has. -/
structure Layout (architecture : Architecture Route Payload) where
  header : StoredRecord Payload → Bytes
  payload : Payload → Bytes
  payloadSize : Bytes → Nat
  length_header : ∀ record, (header record).length = architecture.headerBytes
  length_payload : ∀ content, (payload content).length = architecture.payloadSize content
  payloadSize_header : ∀ record rest,
    payloadSize (header record ++ rest) = architecture.payloadSize record.payload

/-- The ingress, with the records it has accepted and what was popped. -/
structure Traffic (Payload : Type) where
  ring : ByteRing := {}
  accepted : List (StoredRecord Payload) := []
  popped : List Bytes := []

inductive Access (Payload : Type)
  | push (record : StoredRecord Payload)
  | pop

namespace Layout

variable (layout : Layout architecture)

/-- The bytes of a record. -/
def encode (record : StoredRecord Payload) : Bytes :=
  layout.header record ++ layout.payload record.payload

/-- The locked sections of `capture_resolved` and `drain`. -/
def step (traffic : Traffic Payload) : Access Payload → Traffic Payload
  | .push record =>
      if architecture.maxRecordBytes < (layout.encode record).length then traffic
      else
        match traffic.ring.push architecture.ingressBytes (layout.encode record)
          (architecture.admissionLimit record.level) with
        | none => traffic
        | some ring => { traffic with ring, accepted := traffic.accepted ++ [record] }
  | .pop =>
      match traffic.ring.pop architecture.ingressBytes architecture.maxRecordBytes with
      | none => traffic
      | some (encoded, ring) => { traffic with ring, popped := traffic.popped ++ [encoded] }

def run (accesses : List (Access Payload)) : Traffic Payload := accesses.foldl layout.step {}

theorem length_encode (record : StoredRecord Payload) :
    2 + (layout.encode record).length = architecture.stride record.payload := by
  rw [encode, length_append, layout.length_header, layout.length_payload]
  rfl

/-- These records stand in the ring, and each level has kept to its limit. -/
structure Stands (traffic : Traffic Payload) (stored : List (StoredRecord Payload)) : Prop where
  order : ∃ earlier, traffic.accepted = earlier ++ stored ∧
    traffic.popped = earlier.map layout.encode
  holds : traffic.ring.Holds architecture.ingressBytes
    (ByteRing.contents (stored.map layout.encode))
  fits : ∀ record ∈ stored, (layout.encode record).length ≤ architecture.maxRecordBytes
  used : traffic.ring.used = architecture.used stored
  limits : ∀ level, architecture.used (stored.filter fun record => level.atLeast record.level) ≤
    architecture.admissionLimit level

end Layout

theorem Architecture.admissionLimit_mono {level lower : Level}
    (above : level.atLeast lower = true) :
    architecture.admissionLimit lower ≤ architecture.admissionLimit level := by
  revert above
  cases level <;> cases lower <;> simp +decide [admissionLimit] <;> omega

theorem Architecture.used_sublist {some all : List (StoredRecord Payload)} (sub : some <+ all) :
    architecture.used some ≤ architecture.used all := by
  induction sub with
  | slnil => exact le_rfl
  | cons record _ ih => exact Nat.le_add_left_of_le ih
  | cons_cons record _ ih => exact Nat.add_le_add_left ih _

namespace Layout

variable {layout : Layout architecture} {traffic : Traffic Payload}
  {stored : List (StoredRecord Payload)} {record : StoredRecord Payload}

theorem Stands.push (stands : layout.Stands traffic stored)
    (fits : (layout.encode record).length ≤ architecture.maxRecordBytes) {ring : ByteRing}
    (pushed : traffic.ring.push architecture.ingressBytes (layout.encode record)
      (architecture.admissionLimit record.level) = some ring) :
    layout.Stands { traffic with ring, accepted := traffic.accepted ++ [record] }
      (stored ++ [record]) := by
  obtain ⟨holds, used, within⟩ := stands.holds.push
    (architecture.admissionLimit_mono
      (show Level.fatal.atLeast record.level = true by cases record.level <;> rfl)) pushed
  rw [layout.length_encode] at used
  have total : architecture.used (stored ++ [record]) =
      architecture.used stored + architecture.stride record.payload := by
    simp [Architecture.used]
  obtain ⟨earlier, accepted, popped⟩ := stands.order
  refine ⟨⟨earlier, ?_, popped⟩, ?_, ?_, ?_, fun level => ?_⟩
  · rw [accepted, append_assoc]
  · rw [map_append]
    exact holds
  · exact forall_mem_append.mpr ⟨stands.fits, forall_mem_singleton.mpr fits⟩
  · rw [total, ← stands.used]
    exact used
  · by_cases above : level.atLeast record.level = true
    · refine (architecture.used_sublist filter_sublist).trans ?_
      rw [total, ← stands.used, ← used]
      exact within.trans (architecture.admissionLimit_mono above)
    · rw [filter_append, filter_singleton, Bool.eq_false_iff.mpr above, cond_false,
        append_nil]
      exact stands.limits level

section

variable (small : architecture.maxRecordBytes < 2 ^ 16)

include small

theorem Stands.pop (stands : layout.Stands traffic (record :: stored)) :
    ∃ next, traffic.ring.pop architecture.ingressBytes architecture.maxRecordBytes =
        some (layout.encode record, next) ∧
      layout.Stands { traffic with
        ring := next, popped := traffic.popped ++ [layout.encode record] } stored := by
  have fits := stands.fits record mem_cons_self
  obtain ⟨next, popped, holds, used⟩ :=
    stands.holds.pop (fits.trans_lt small) fits
  obtain ⟨earlier, accepted, before⟩ := stands.order
  refine ⟨next, popped, ⟨earlier ++ [record], ?_, ?_⟩, holds, ?_, ?_, fun level => ?_⟩
  · rw [accepted, append_assoc]
    rfl
  · rw [map_append, ← before]
    rfl
  · exact fun other listed => stands.fits other (mem_cons_of_mem _ listed)
  · have total : architecture.used (record :: stored) =
        architecture.stride record.payload + architecture.used stored := rfl
    have before := stands.used
    rw [length_encode] at used
    change next.used = _
    omega
  · exact (architecture.used_sublist ((sublist_cons_self _ _).filter _)).trans (stands.limits level)

theorem Stands.step (stands : layout.Stands traffic stored) (access : Access Payload) :
    ∃ after, layout.Stands (layout.step traffic access) after := by
  cases access with unfold Layout.step
  | push record =>
    dsimp only
    split
    · exact ⟨stored, stands⟩
    · rename_i fits
      split
      · exact ⟨stored, stands⟩
      · rename_i pushed
        exact ⟨_, stands.push (Nat.not_lt.mp fits) pushed⟩
  | pop =>
    cases stored with
    | nil =>
      rw [ByteRing.pop_nil stands.holds]
      exact ⟨[], stands⟩
    | cons record stored =>
      obtain ⟨next, popped, stands⟩ := stands.pop small
      rw [popped]
      exact ⟨stored, stands⟩

theorem Stands.run (stands : layout.Stands traffic stored) (accesses : List (Access Payload)) :
    ∃ after, layout.Stands (accesses.foldl layout.step traffic) after := by
  induction accesses generalizing traffic stored with
  | nil => exact ⟨stored, stands⟩
  | cons access accesses ih =>
    obtain ⟨_, stands⟩ := stands.step small access
    exact ih stands

omit small in
theorem stands_initial (layout : Layout architecture) : layout.Stands {} [] where
  order := ⟨[], rfl, rfl⟩
  holds := .empty architecture.ingressBytes
  fits := forall_mem_nil _
  used := rfl
  limits level := Nat.zero_le (architecture.admissionLimit level)

theorem stands_run (layout : Layout architecture) (accesses : List (Access Payload)) :
    ∃ stored, layout.Stands (layout.run accesses) stored :=
  layout.stands_initial.run small accesses

end

end Layout

/-- Whatever is pushed and popped, the ring is the queue of the accepted records. A record is turned
away if and only if it does not fit the limit of its level; the records below a warning leave the
reserves alone, and a fatal one that fits its reserve finds another there when it is turned away. A
pop takes the next record, whose size is the one that its header has. -/
theorem ingress_is_queue (layout : Layout architecture)
    (reserves : architecture.elevatedReserveBytes + architecture.emergencyBytes ≤
      architecture.ingressBytes) (small : architecture.maxRecordBytes < 2 ^ 16)
    (accesses : List (Access Payload)) :
    ∃ earlier stored, (layout.run accesses).accepted = earlier ++ stored ∧
      (layout.run accesses).popped = earlier.map layout.encode ∧
      (layout.run accesses).ring.used = architecture.used stored ∧
      architecture.used stored ≤ architecture.ingressBytes ∧
      (∀ record, (layout.encode record).length ≤ architecture.maxRecordBytes →
        ((layout.run accesses).ring.push architecture.ingressBytes (layout.encode record)
            (architecture.admissionLimit record.level) = none ↔
          architecture.admissionLimit record.level <
            architecture.used stored + architecture.stride record.payload)) ∧
      architecture.used (stored.filter fun record => ¬ record.level.atLeast .warning) ≤
        architecture.ingressBytes - architecture.elevatedReserveBytes -
          architecture.emergencyBytes ∧
      (∀ record, record.level = .fatal →
        (layout.encode record).length + 2 ≤ architecture.emergencyBytes →
        architecture.admissionLimit record.level <
          architecture.used stored + architecture.stride record.payload →
        architecture.ingressBytes - architecture.emergencyBytes < architecture.used stored ∧
        architecture.used (stored.filter fun record => record.level ≠ .fatal) ≤
          architecture.ingressBytes - architecture.emergencyBytes) ∧
      (∀ encoded ∈ (layout.run accesses).popped,
        architecture.headerBytes + layout.payloadSize encoded = encoded.length) ∧
      ((layout.run accesses).ring.pop architecture.ingressBytes architecture.maxRecordBytes =
        none ↔ stored = []) := by
  obtain ⟨stored, stands⟩ := layout.stands_run small accesses
  obtain ⟨earlier, accepted, popped⟩ := stands.order
  have used := stands.used
  have bounded := stands.holds.slots.bounded
  have count := stands.holds.slots.count
  change ByteRing.used _ = _ at count
  have notFatal : architecture.used (stored.filter fun record => record.level ≠ .fatal) ≤
      architecture.ingressBytes - architecture.emergencyBytes := by
    refine Eq.trans_le (congrArg architecture.used (filter_congr fun record _ => ?_))
      (stands.limits .error)
    cases record.level <;> rfl
  have low : architecture.used (stored.filter fun record => ¬ record.level.atLeast .warning) ≤
      architecture.ingressBytes - architecture.elevatedReserveBytes -
        architecture.emergencyBytes := by
    refine Eq.trans_le (congrArg architecture.used (filter_congr fun record _ => ?_))
      (stands.limits .notice)
    cases record.level <;> rfl
  refine ⟨earlier, stored, accepted, popped, used, by omega, fun record fits => ?_, low,
    fun record fatal small refused => ⟨?_, notFatal⟩, ?_, ?_⟩
  · rw [ByteRing.push_eq_none_iff (fits.trans_lt small), layout.length_encode, used]
  · have stride := layout.length_encode record
    rw [fatal] at refused
    change architecture.ingressBytes < _ at refused
    omega
  · rw [popped]
    refine forall_mem_map.mpr fun record _ => ?_
    rw [Layout.encode, layout.payloadSize_header, length_append, layout.length_header,
      layout.length_payload]
  · constructor
    · intro none
      cases stored with
      | nil => rfl
      | cons record stored =>
        obtain ⟨next, some, _⟩ := stands.pop small
        exact nomatch none.symm.trans some
    · rintro rfl
      exact ByteRing.pop_nil stands.holds _

/-- A ring of 16 bytes with a reserve of 2 for each level that has one. -/
abbrev narrow : Architecture Empty Unit where
  routes := []
  distinct := nodup_nil
  traits := nofun
  headerBytes := 1
  maxRecordBytes := 2
  ingressBytes := 16
  elevatedReserveBytes := 2
  emergencyBytes := 2
  historyBytes := 0
  renderBufferBytes := 0
  payloadSize _ := 1
  hexdump _ := none
  formatted _ _ := none

/-- The header is the size of the payload. -/
abbrev sized : Layout narrow where
  header _ := [1]
  payload _ := [7]
  payloadSize encoded := (encoded.headD 0).toNat
  length_header _ := rfl
  length_payload _ := rfl
  payloadSize_header _ _ := rfl

abbrev plain : StoredRecord Unit :=
  ⟨0, 0, none, none, .info, .thread, .text, {}, ()⟩

theorem ingress_is_queue_narrow : ∃ earlier stored,
    (sized.run [.push plain, .push plain, .pop]).accepted = earlier ++ stored ∧
      [[1, 7]] = earlier.map sized.encode ∧ 4 = narrow.used stored := by
  obtain ⟨earlier, stored, accepted, popped, used, _⟩ :=
    ingress_is_queue sized (by decide) (by decide) [.push plain, .push plain, .pop]
  exact ⟨earlier, stored, accepted, popped, used⟩

end Solar.Log
