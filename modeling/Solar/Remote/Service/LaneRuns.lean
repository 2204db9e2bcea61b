/-
This file shows that in every run of a link's output the frames of its lanes are
accounted for, as long as the link does not accept a frame whose slot has been
overwritten while it was handed over. Only a lane with room for one frame can be
overwritten so, and if it is, the accounts are broken.
-/

import Solar.Remote.Service.Lanes

namespace Solar.Remote

open Function
open List hiding all_eq_true
open Option hiding all all_eq_true

/-! ### The effects of the operations -/

variable {limits : ServiceLimits}

namespace Output

/-- The lanes change by the effect, or not at all. -/
inductive Affects (output next : Output limits) : Option (OutputLane × LaneEffect) → Prop
  | none (same : ∀ lane, (output.lanes lane).Same (next.lanes lane)) : Affects output next none
  | some (lane : OutputLane) (effect : LaneEffect)
      (applies : (output.lanes lane).Applies lane (next.lanes lane) effect)
      (others : ∀ other, other ≠ lane → (output.lanes other).Same (next.lanes other)) :
      Affects output next (some (lane, effect))

theorem Affects.trans {output next after : Output limits}
    {effect? : Option (OutputLane × LaneEffect)} (affects : Affects output next effect?)
    (same : ∀ lane, (next.lanes lane).Same (after.lanes lane)) : Affects output after effect? := by
  cases affects with
  | none before => exact .none fun lane => (before lane).trans (same lane)
  | some lane effect applies others =>
    exact .some lane effect (applies.trans (same lane)) fun other different =>
      (others other different).trans (same other)

variable (output : Output limits)

theorem affects_setLane {lane : OutputLane} {effect : LaneEffect}
    {content : OutboundLane limits.laneDepth}
    (applies : (output.lanes lane).Applies lane content effect) :
    Affects output (output.setLane lane content) (some (lane, effect)) := by
  refine .some lane effect ?_ fun other different => ?_
  · rw [lanes_setLane_self]
    exact applies
  · rw [show (output.setLane lane content).lanes other = output.lanes other from if_neg different]
    exact .refl _

theorem applies_push? {lane pushed : OutboundLane limits.laneDepth} {slot : OutboundSlot}
    (name : OutputLane) (queued : lane.push? slot = some pushed) :
    lane.Applies name pushed (.accept slot) := by
  unfold OutboundLane.push? at queued
  split at queued
  · rw [← some.inj queued]
    exact .accept slot rfl rfl rfl
  · cases queued

theorem applies_replaceLast {lane : OutboundLane limits.laneDepth} (full : lane.isFull = true)
    (slot : OutboundSlot) : lane.Applies .telemetry (lane.replaceLast slot) (.replace slot) := by
  have occupied : lane.slots ≠ [] := by
    intro empty
    have length : lane.slots.length = limits.laneDepth := of_decide_eq_true full
    rw [empty] at length
    exact absurd limits.laneDepth_pos (length ▸ Nat.lt_irrefl 0)
  obtain ⟨before, last, split⟩ := eq_nil_or_concat lane.slots |>.resolve_left occupied
  rw [concat_eq_append] at split
  refine .replace before last slot rfl split ?_ rfl rfl
  show lane.slots.set (lane.slots.length - 1) slot = before ++ [slot]
  rw [split, length_append, length_singleton, Nat.add_sub_cancel,
    set_append_right _ _ (Nat.le_refl _), Nat.sub_self]
  rfl

section

variable (slot)

theorem affects_transmitFrame (small : ¬ slot.payload.length > limits.maxMessageBytes)
    (short : ¬ slot.payload.length > limits.maxFramePayload) :
    Affects output (output.transmitFrame slot).1 (output.effect? slot) := by
  unfold effect? transmitFrame
  dsimp only
  rw [if_neg small, if_neg short]
  cases room : (output.lanes (laneFor slot.kind slot.requestId)).isFull with
  | false =>
    obtain ⟨pushed, queued⟩ :=
      isSome_iff_exists.mp (OutboundLane.push?_isSome_of_not_isFull slot room)
    rw [queued]
    exact output.affects_setLane (applies_push? _ queued)
  | true =>
    have turned : (output.lanes (laneFor slot.kind slot.requestId)).push? slot = none := by
      rw [OutboundLane.push?, dif_neg (ne_false_of_eq_true room)]
    have closed : ¬ true = false := Bool.noConfusion
    rw [turned]
    by_cases telemetry : laneFor slot.kind slot.requestId = .telemetry
    · rw [telemetry] at room ⊢
      exact output.affects_setLane (applies_replaceLast room slot)
    · rw [if_pos telemetry, if_pos telemetry]
      exact output.affects_setLane (.refuse rfl rfl rfl)

theorem exists_displaced {output : Output limits} {lane : OutputLane} {index : Nat}
    (found : output.messageSlot? lane = some (index, true)) :
    ∃ message, output.messages.get? index = some message ∧ message.kind = .data := by
  unfold messageSlot? at found
  split at found
  · exact nomatch (Prod.mk.inj (some.inj found)).2
  split at found
  · exact nomatch found
  · obtain ⟨⟨place, message⟩, here, same⟩ := map_eq_some_iff.mp found
    obtain ⟨held, active, -⟩ := Pool.find?_eq_some_iff.mp here
    rw [Bool.and_eq_true] at active
    exact ⟨message, (Prod.mk.inj same).1 ▸ held, eq_of_beq active.2⟩

theorem affects_transmitMessage (small : ¬ slot.payload.length > limits.maxMessageBytes)
    (long : slot.payload.length > limits.maxFramePayload) :
    Affects output (output.transmitMessage slot).1 (output.effect? slot) := by
  unfold effect? transmitMessage
  dsimp only
  split
  · exact .none fun _ => .refl _
  cases found : output.messageSlot? (laneFor slot.kind slot.requestId) with
  | none => exact .none fun _ => .refl _
  | some entry =>
    obtain ⟨index, lost⟩ := entry
    cases lost with
    | false => exact .none fun _ => .refl _
    | true =>
      obtain ⟨message, held, data⟩ := exists_displaced found
      dsimp only
      rw [held]
      have telemetry : laneFor message.kind message.requestId = .telemetry := by rw [data]; rfl
      have applies : (output.lanes .bulk).Applies .bulk { output.lanes .bulk with
          record := { (output.lanes .bulk).record with
            replaced := (output.lanes .bulk).record.replaced + 1 } } (.displace message) :=
        .displace message telemetry rfl rfl rfl
      cases output.affects_setLane applies with
      | some _ _ applies others => exact .some _ _ applies others

theorem affects_transmit : Affects output (output.transmit slot).1 (output.effect? slot) := by
  unfold transmit
  by_cases small : slot.payload.length > limits.maxMessageBytes
  · rw [if_pos small, effect?, if_pos small]
    exact .none fun _ => .refl _
  rw [if_neg small]
  by_cases long : slot.payload.length > limits.maxFramePayload
  · rw [if_pos long]
    exact output.affects_transmitMessage slot small long
  · rw [if_neg long]
    exact output.affects_transmitFrame slot small long

end

theorem affects_stageFragment : Affects output output.stageFragment output.stageEffect? := by
  unfold stageFragment stageEffect?
  cases output.messages.find? OutboundMessage.active with
  | none => exact .none fun _ => .refl _
  | some entry =>
    obtain ⟨index, message⟩ := entry
    dsimp only
    cases room : (output.lanes message.lane).isFull with
    | false =>
      obtain ⟨pushed, queued⟩ := isSome_iff_exists.mp
        (OutboundLane.push?_isSome_of_not_isFull (message.fragment limits) room)
      have affects := output.affects_setLane (applies_push? message.lane queued)
      unfold OutboundMessage.fragment OutboundMessage.fragmentSize at queued
      rw [queued]
      cases affects with
      | some _ _ applies others => exact .some _ _ applies others
    | true =>
      have turned : (output.lanes message.lane).push? (message.fragment limits) = none := by
        rw [OutboundLane.push?, dif_neg (ne_false_of_eq_true room)]
      unfold OutboundMessage.fragment OutboundMessage.fragmentSize at turned
      have closed : ¬ true = false := Bool.noConfusion
      rw [turned]
      exact .none fun _ => .refl _

end Output

namespace LinkState

variable {link : LinkState limits}

theorem affects_stageResponse (link : LinkState limits) :
    Output.Affects link.output link.stageResponse.output
      (link.responses.unstaged?.bind fun unstaged =>
        link.output.effect? (responseFrame unstaged.2)) := by
  unfold stageResponse
  cases link.responses.unstaged? with
  | none => exact .none fun _ => .refl _
  | some entry => exact link.output.affects_transmit (responseFrame entry.2)

theorem counted_markTransmitting (link : LinkState limits) (name : OutputLane) (transmitting : Bool)
    (lane : OutputLane) :
    (link.output.lanes lane).Same
      ((link.markTransmitting name transmitting).output.lanes lane) := by
  unfold markTransmitting Output.setLane
  dsimp only
  split
  · rename_i same
    subst same
    exact ⟨rfl, rfl, rfl⟩
  · exact .refl _

theorem affects_popLane {lane : OutputLane} {slot : OutboundSlot} {rest : List OutboundSlot}
    (head : (link.output.lanes lane).slots = slot :: rest) (number : Nat) (frame : TxFrame) :
    Output.Affects link.output (link.popLane lane true).output (some (lane, .drop)) ∧
      Output.Affects link.output (link.popLane lane false).output
        (some (lane, .leave number frame)) := by
  have here : (link.output.lanes lane).slots = slot :: (link.output.lanes lane).slots.tail := by
    rw [head, tail_cons]
  exact ⟨link.output.affects_setLane (.drop slot here rfl rfl),
    link.output.affects_setLane (.leave slot number frame here rfl rfl)⟩

theorem affects_settleTransmit {sending : Sending}
    (waits : (link.output.lanes sending.frame.lane).slots ≠ []) (disposition : TxDisposition) :
    Output.Affects link.output (link.settleTransmit sending.frame.lane disposition).output
      (OutputSystem.settleEffect? sending disposition) := by
  obtain ⟨slot, rest, head⟩ := exists_cons_of_ne_nil waits
  obtain ⟨drops, leaves⟩ := affects_popLane head sending.number sending.frame
  cases disposition with
  | accepted => exact leaves
  | busy => exact .none fun lane => link.counted_markTransmitting sending.frame.lane false lane
  | refused =>
    exact drops.trans fun lane =>
      (link.popLane sending.frame.lane true).counted_markTransmitting sending.frame.lane false lane

theorem counted_txComplete (link : LinkState limits) (handle : LeaseHandle) (lane : OutputLane) :
    (link.output.lanes lane).Same ((link.txComplete handle).output.lanes lane) := by
  unfold txComplete
  split
  · exact .refl _
  split
  · exact link.counted_markTransmitting _ false lane
  · exact .refl _

/-- The frame that is selected is the encoding of the head of its lane. -/
structure Selects (link : LinkState limits) (frame : TxFrame) : Prop where
  head : ∃ slot rest, (link.output.lanes frame.lane).slots = slot :: rest ∧ frame.Carries slot

theorem selectedLane?_nonempty {lane : OutputLane} (selected : link.selectedLane? = some lane) :
    (link.output.lanes lane).slots ≠ [] := by
  have occupied := find?_some selected
  rw [Bool.not_eq_true', isEmpty_eq_false_iff] at occupied
  exact occupied

theorem affects_selectFrame (link : LinkState limits) (encodes : Bool) :
    Output.Affects link.output (link.selectFrame encodes).1.output (link.selectEffect? encodes) ∧
      ∀ frame, (link.selectFrame encodes).2 = some frame →
        link.Selects frame ∧ link.selectEffect? encodes = none := by
  unfold selectFrame selectEffect?
  by_cases idle : link.transmitter.inFlight ∨ link.connected = false
  · rw [if_pos idle, if_pos (idle.imp_right .inl)]
    exact ⟨.none fun _ => .refl _, fun _ none => absurd none.symm (some_ne_none _)⟩
  rw [if_neg idle]
  cases selected : link.selectedLane? with
  | none =>
    rw [map_none, ite_self]
    exact ⟨.none fun _ => .refl _, fun _ none => absurd none.symm (some_ne_none _)⟩
  | some lane =>
    obtain ⟨slot, rest, head⟩ := exists_cons_of_ne_nil (selectedLane?_nonempty selected)
    simp only [head]
    cases encodes with
    | true =>
      rw [if_pos (Or.inr (Or.inr rfl))]
      refine ⟨.none fun other => ?_, ?_⟩
      · exact link.counted_markTransmitting lane true other
      · rintro frame ⟨⟩
        exact ⟨⟨slot, rest, head, rfl, rfl, rfl, rfl, rfl, rfl, rfl, rfl⟩, rfl⟩
    | false =>
      have fails :
          ¬ (link.transmitter.inFlight = true ∨ link.connected = false ∨ false = true) := by
        rintro (flight | connected | encodes)
        · exact idle (.inl flight)
        · exact idle (.inr connected)
        · exact Bool.noConfusion encodes
      rw [if_neg fails]
      refine ⟨?_, fun _ none => absurd none.symm (some_ne_none _)⟩
      exact (affects_popLane head 0 ⟨lane, {}, {}, []⟩).1

end LinkState

namespace OutputSystem

variable {state next : OutputSystem limits}

/-! ### The frame that the link is handed -/

/-- The frame that the link is handed is the encoding of what was admitted under its number. That
number is the head of its lane, unless it is counted as replaced. -/
structure Sends (state : OutputSystem limits) (sending : Sending) : Prop where
  carries : ∃ slot,
    (state.history sending.frame.lane).ledger.admitted[sending.number]? = some slot ∧
      sending.frame.Carries slot
  waits : (state.link.output.lanes sending.frame.lane).slots ≠ []
  head : sending.overwritten = false →
    (state.history sending.frame.lane).ledger.waiting.head? = some sending.number
  lost : sending.overwritten = true → limits.laneDepth = 1 ∧
    sending.number ∈ (state.history sending.frame.lane).ledger.replaced

/-- The invariant of the system. -/
structure Kept (state : OutputSystem limits) : Prop where
  accounted : state.Accounted
  sends : ∀ sending, state.sending = some sending → state.Sends sending

theorem kept_initial : Kept ({} : OutputSystem limits) where
  accounted _ := ⟨.empty, .nil, rfl, rfl, rfl, fun _ => rfl,
    fun _ member => absurd member not_mem_nil⟩
  sends := fun _ none => absurd none.symm (some_ne_none _)

theorem recorded_self (lane : OutputLane) (effect : LaneEffect) :
    state.recorded (some (lane, effect)) lane = (state.history lane).record effect :=
  update_self ..

variable {sending : Sending} {slot : OutboundSlot} {lane : OutputLane} {effect : LaneEffect}

theorem recorded_other {other : OutputLane} (effect : LaneEffect) (different : other ≠ lane) :
    state.recorded (some (lane, effect)) other = state.history other :=
  update_of_ne different _ _

theorem accounts_recorded {after : Output limits} {effect? : Option (OutputLane × LaneEffect)}
    (accounted : state.Accounted) (affects : Output.Affects state.link.output after effect?)
    (leaves : ∀ lane number frame, effect? = some (lane, .leave number frame) →
      (state.history lane).ledger.waiting.head? = some number ∧
        ∃ slot, (state.history lane).ledger.admitted[number]? = some slot ∧ frame.Carries slot)
    (lane : OutputLane) : (state.recorded effect? lane).Accounts lane (after.lanes lane) := by
  cases affects with
  | none same => exact (accounted lane).congr (same lane)
  | some name effect applies others =>
    by_cases here : lane = name
    · subst here
      rw [recorded_self]
      exact (accounted lane).record applies fun number frame same =>
        leaves lane number frame (same ▸ rfl)
    · rw [recorded_other effect here]
      exact (accounted lane).congr (others lane here)

/-- What a transmission does to a lane: it takes no frame from it, and it replaces one only in a
full lane. -/
theorem effect?_eq_some {output : Output limits}
    (same : output.effect? slot = some (lane, effect)) :
    effect ≠ .drop ∧ (∀ number frame, effect ≠ .leave number frame) ∧
      ∀ new, effect = .replace new → (output.lanes lane).isFull = true := by
  unfold Output.effect? at same
  dsimp only at same
  split_ifs at same with _ _ _ room
  · split at same
    · obtain ⟨_, _, pair⟩ := map_eq_some_iff.mp same
      obtain ⟨-, rfl⟩ := Prod.mk.inj pair
      exact ⟨LaneEffect.noConfusion, fun _ _ => LaneEffect.noConfusion,
      fun _ => LaneEffect.noConfusion⟩
    · exact nomatch same
  · obtain ⟨-, rfl⟩ := Prod.mk.inj (some.inj same)
    exact ⟨LaneEffect.noConfusion, fun _ _ => LaneEffect.noConfusion,
      fun _ => LaneEffect.noConfusion⟩
  · obtain ⟨-, rfl⟩ := Prod.mk.inj (some.inj same)
    exact ⟨LaneEffect.noConfusion, fun _ _ => LaneEffect.noConfusion,
      fun _ => LaneEffect.noConfusion⟩
  · obtain ⟨rfl, rfl⟩ := Prod.mk.inj (some.inj same)
    exact ⟨LaneEffect.noConfusion, fun _ _ => LaneEffect.noConfusion,
      fun _ _ => eq_true_of_ne_false room⟩

theorem stageEffect?_ne_leave (output : Output limits) (lane : OutputLane) (number : Nat)
    (frame : TxFrame) : output.stageEffect? ≠ some (lane, .leave number frame) := by
  intro same
  unfold Output.stageEffect? at same
  split at same
  · exact nomatch same
  · split at same
    · exact nomatch (Prod.mk.inj (some.inj same)).2
    · exact nomatch same

theorem selectEffect?_ne_leave (link : LinkState limits) (encodes : Bool) (lane : OutputLane)
    (number : Nat) (frame : TxFrame) :
    link.selectEffect? encodes ≠ some (lane, .leave number frame) := by
  intro same
  unfold LinkState.selectEffect? at same
  split at same
  · exact nomatch same
  · obtain ⟨_, _, pair⟩ := map_eq_some_iff.mp same
    exact nomatch (Prod.mk.inj pair).2

/-- A transmission that replaces the newest frame of a lane replaces the one the link is handed only
if there is no other. -/
theorem Sends.replace {before : List OutboundSlot} {last : OutboundSlot}
    (sends : state.Sends sending) (accounted : state.Accounted)
    (here : (state.link.output.lanes sending.frame.lane).slots = before ++ [last])
    (full : (state.link.output.lanes sending.frame.lane).isFull = true) :
    ((before = [] → limits.laneDepth = 1 ∧ sending.number ∈
        ((state.history sending.frame.lane).record (.replace slot)).ledger.replaced) ∧
      (before ≠ [] → sending.overwritten = false →
        ((state.history sending.frame.lane).record (.replace slot)).ledger.waiting.head? =
          some sending.number)) := by
  have ledger := (accounted sending.frame.lane).ledger
  rw [here] at ledger
  obtain ⟨waiting, number, split, kept⟩ := ledger.exists_last
  have count : waiting.length = before.length := by
    have mapped := congrArg length kept
    rwa [length_map, length_map] at mapped
  constructor
  · rintro rfl
    have depth : (state.link.output.lanes sending.frame.lane).slots.length = limits.laneDepth :=
      of_decide_eq_true full
    refine ⟨by rw [← depth, here]; rfl, ?_⟩
    show sending.number ∈ (state.history sending.frame.lane).ledger.replaced ++
      (state.history sending.frame.lane).ledger.waiting.getLast?.toList
    cases overwritten : sending.overwritten with
    | true => exact mem_append_left _ (sends.lost overwritten).2
    | false =>
      have head := sends.head overwritten
      rw [split, eq_nil_of_length_eq_zero count] at head
      rw [split, getLast?_concat, ← some.inj head]
      exact mem_append_right _ (mem_singleton_self _)
  · intro several fresh
    have head := sends.head fresh
    obtain ⟨first, rest, more⟩ := exists_cons_of_ne_nil fun none : waiting = [] =>
      several (eq_nil_of_length_eq_zero (count ▸ none ▸ rfl))
    show ((state.history sending.frame.lane).ledger.waiting.dropLast ++ _).head? = _
    rw [split, more] at head ⊢
    rw [dropLast_concat]
    exact head

theorem overwrites_eq_false (same : state.link.output.effect? slot = some (lane, effect))
    (other : ∀ new, effect ≠ .replace new) : state.overwrites slot sending = false := by
  unfold overwrites
  rw [same]
  cases effect with
  | replace new => exact absurd rfl (other new)
  | _ => rfl

theorem carries_record {history : LaneHistory} {number : Nat} {frame : TxFrame}
    (carries : ∃ slot, history.ledger.admitted[number]? = some slot ∧ frame.Carries slot) :
    ∃ slot, (history.record effect).ledger.admitted[number]? = some slot ∧ frame.Carries slot := by
  obtain ⟨slot, here, same⟩ := carries
  have longer (item : OutboundSlot) : (history.ledger.admitted ++ [item])[number]? = some slot :=
    (List.getElem?_append_left (List.getElem?_eq_some_iff.mp here).1).trans here
  cases effect with
  | accept item | replace item => exact ⟨slot, longer item, same⟩
  | _ => exact ⟨slot, here, same⟩

section

variable (sends : state.Sends sending)

include sends

theorem Sends.congr
    (ledger : (next.history sending.frame.lane).ledger = (state.history sending.frame.lane).ledger)
    (slots : (next.link.output.lanes sending.frame.lane).slots =
      (state.link.output.lanes sending.frame.lane).slots) : next.Sends sending where
  carries := by
    rw [ledger]
    exact sends.carries
  waits := by
    rw [slots]
    exact sends.waits
  head := by
    rw [ledger]
    exact sends.head
  lost := by
    rw [ledger]
    exact sends.lost

theorem Sends.accept (recorded : next.history sending.frame.lane =
      (state.history sending.frame.lane).record (.accept slot))
    (slots : (next.link.output.lanes sending.frame.lane).slots =
      (state.link.output.lanes sending.frame.lane).slots ++ [slot]) : next.Sends sending where
  carries := by
    rw [recorded]
    exact carries_record sends.carries
  waits := by
    rw [slots]
    exact append_ne_nil_of_right_ne_nil _ (cons_ne_nil _ _)
  head overwritten := by
    rw [recorded]
    show ((state.history sending.frame.lane).ledger.waiting ++ _).head? = _
    rw [head?_append, sends.head overwritten]
    rfl
  lost overwritten := by
    rw [recorded]
    exact sends.lost overwritten

/-- A frame that takes the place of the last one overwrites the one the link is handed if there is
no other. -/
theorem Sends.replaceLast {before : List OutboundSlot} {last : OutboundSlot}
    (accounted : state.Accounted)
    (here : (state.link.output.lanes sending.frame.lane).slots = before ++ [last])
    (full : (state.link.output.lanes sending.frame.lane).isFull = true)
    (recorded : next.history sending.frame.lane =
      (state.history sending.frame.lane).record (.replace slot))
    (slots : (next.link.output.lanes sending.frame.lane).slots = before ++ [slot]) :
    next.Sends { sending with
      overwritten := sending.overwritten || decide (before.length = 0) } := by
  obtain ⟨alone, several⟩ :=
    @Sends.replace _ state sending slot before last sends accounted here full
  refine ⟨?_, ?_, fun overwritten => ?_, fun overwritten => ?_⟩
  · rw [recorded]
    exact carries_record sends.carries
  · rw [slots]
    exact append_ne_nil_of_right_ne_nil _ (cons_ne_nil _ _)
  · obtain ⟨fresh, more⟩ := Bool.or_eq_false_iff.mp overwritten
    rw [recorded]
    refine several (fun empty => ?_) fresh
    exact absurd (congrArg length empty) (of_decide_eq_false more)
  · rw [recorded]
    obtain earlier | empty := (Bool.or_eq_true _ _).mp overwritten
    · obtain ⟨depth, lost⟩ := sends.lost earlier
      exact ⟨depth, mem_append_left _ lost⟩
    · exact alone (eq_nil_of_length_eq_zero (of_decide_eq_true empty))

omit sends in
theorem overwrites_replace {new : OutboundSlot}
    (same : state.link.output.effect? slot = some (lane, .replace new))
    (here : sending.frame.lane = .telemetry) : state.overwrites slot sending =
      decide ((state.link.output.lanes .telemetry).slots.length = 1) := by
  unfold overwrites
  rw [same]
  rw [decide_eq_true here, Bool.true_and]

theorem Sends.transmit (accounted : state.Accounted) (slot : OutboundSlot) :
    (state.transmit slot).Sends
      { sending with overwritten := sending.overwritten || state.overwrites slot sending } := by
  have affects := state.link.output.affects_transmit slot
  cases effect : state.link.output.effect? slot with
  | none =>
    have fresh : state.overwrites slot sending = false := by
      unfold overwrites
      rw [effect]
    have history : (state.transmit slot).history = state.history :=
      congrArg state.recorded effect
    rw [fresh, Bool.or_false]
    rw [effect] at affects
    cases affects with
    | none same =>
      exact sends.congr (congrArg LaneHistory.ledger (congrFun history _)) (same _).slots
  | some entry =>
    obtain ⟨lane, change⟩ := entry
    have history : (state.transmit slot).history = state.recorded (some (lane, change)) :=
      congrArg state.recorded effect
    obtain ⟨undropped, unleft, full⟩ := effect?_eq_some effect
    rw [effect] at affects
    cases affects with
    | some _ _ applies others =>
      by_cases here : sending.frame.lane = lane
      · subst here
        have recorded : (state.transmit slot).history sending.frame.lane =
            (state.history sending.frame.lane).record change := by
          rw [history, recorded_self]
        cases applies with
        | accept new slots _ _ =>
          rw [overwrites_eq_false effect fun _ => LaneEffect.noConfusion, Bool.or_false]
          exact sends.accept recorded slots
        | replace before last new telemetry slots after _ _ =>
          have length : (state.link.output.lanes .telemetry).slots.length = before.length + 1 := by
            rw [← telemetry, slots, length_append]
            rfl
          rw [overwrites_replace effect telemetry, length,
            show decide (before.length + 1 = 1) = decide (before.length = 0) from
              decide_eq_decide.mpr Nat.succ_inj]
          exact sends.replaceLast accounted slots (full new rfl) recorded after
        | refuse slots | displace message _ slots =>
          rw [overwrites_eq_false effect fun _ => LaneEffect.noConfusion, Bool.or_false]
          exact sends.congr (by rw [recorded]; rfl) slots
        | drop _ _ _ _ => exact absurd rfl undropped
        | leave _ number frame _ _ _ => exact absurd rfl (unleft number frame)
      · have fresh : state.overwrites slot sending = false := by
          unfold overwrites
          rw [effect]
          cases applies with
          | replace before last new telemetry _ _ _ _ =>
            rw [decide_eq_false (telemetry ▸ here), Bool.false_and]
          | _ => rfl
        rw [fresh, Bool.or_false]
        refine sends.congr ?_ (others _ here).slots
        rw [history, recorded_other change here]

end

/-! ### The steps -/

section

variable (kept : state.Kept)

include kept

theorem accounted_transmit (slot : OutboundSlot) : (state.transmit slot).Accounted :=
  accounts_recorded kept.accounted (state.link.output.affects_transmit slot)
    fun _ number frame same => absurd rfl ((effect?_eq_some same).2.1 number frame)

theorem Kept.transmit (slot : OutboundSlot) : (state.transmit slot).Kept where
  accounted := accounted_transmit kept slot
  sends sending here := by
    obtain ⟨before, found, rfl⟩ := map_eq_some_iff.mp here
    exact (kept.sends before found).transmit kept.accounted slot

theorem Kept.stageResponse : state.stageResponse.Kept where
  accounted := by
    refine accounts_recorded kept.accounted (LinkState.affects_stageResponse state.link) ?_
    intro lane number frame same
    obtain ⟨unstaged, -, effect⟩ := bind_eq_some_iff.mp same
    exact absurd rfl ((effect?_eq_some effect).2.1 number frame)
  sends := fun _ none => absurd none.symm (some_ne_none _)

theorem Kept.stageFragment : state.stageFragment.Kept where
  accounted := accounts_recorded kept.accounted state.link.output.affects_stageFragment
    fun lane number frame same => absurd same (stageEffect?_ne_leave _ lane number frame)
  sends := fun _ none => absurd none.symm (some_ne_none _)

/-- The frame that is selected is the head of its lane. -/
theorem Kept.select (encodes : Bool) : (state.select encodes).Kept := by
  obtain ⟨affects, selects⟩ := state.link.affects_selectFrame encodes
  refine ⟨accounts_recorded kept.accounted affects fun lane number frame same =>
    absurd same (selectEffect?_ne_leave _ encodes lane number frame), ?_⟩
  intro sending here
  obtain ⟨frame, selected, rfl⟩ := map_eq_some_iff.mp here
  obtain ⟨⟨slot, rest, head, carries⟩, effect⟩ := selects frame selected
  have history : (state.select encodes).history = state.history := congrArg state.recorded effect
  rw [effect] at affects
  have ledger := (kept.accounted frame.lane).ledger
  rw [head] at ledger
  obtain ⟨number, waiting, split, admitted, -⟩ := ledger.exists_head
  have first : (state.history frame.lane).ledger.waiting.headD 0 = number := by
    rw [split]
    rfl
  cases affects with
  | none same =>
    refine ⟨⟨slot, ?_, carries⟩, ?_, fun _ => ?_,
      fun overwritten => absurd overwritten Bool.noConfusion⟩
    · rw [history, first]
      exact admitted
    · show ((state.link.selectFrame encodes).1.output.lanes frame.lane).slots ≠ []
      rw [(same frame.lane).slots, head]
      exact cons_ne_nil _ _
    · rw [history, first, split]
      rfl

theorem Kept.settle (here : state.sending = some sending) {disposition : TxDisposition}
    (spared : disposition = .accepted → sending.overwritten = false) :
    (state.settle sending disposition).Kept where
  accounted := by
    have sends := kept.sends sending here
    refine accounts_recorded kept.accounted
      (LinkState.affects_settleTransmit sends.waits disposition) ?_
    intro lane number frame same
    cases disposition with
    | accepted =>
      obtain ⟨rfl, effect⟩ := Prod.mk.inj (some.inj same)
      obtain ⟨rfl, rfl⟩ := LaneEffect.leave.inj effect
      exact ⟨sends.head (spared rfl), sends.carries⟩
    | busy => exact nomatch same
    | refused => exact nomatch (Prod.mk.inj (some.inj same)).2
  sends := fun _ none => absurd none.symm (some_ne_none _)

theorem not_accounted_settle (here : state.sending = some sending)
    (overwritten : sending.overwritten = true) : ¬ (state.settle sending .accepted).Accounted := by
  intro after
  have sends := kept.sends sending here
  have ledger := (kept.accounted sending.frame.lane).ledger
  have lost := count_pos_iff.mpr (sends.lost overwritten).2
  have other : (state.history sending.frame.lane).ledger.waiting.head? ≠ some sending.number := by
    intro head
    have waits := count_pos_iff.mpr (mem_of_head? head)
    have once := ledger.once sending.number
    unfold Custody.Ledger.count at once
    split_ifs at once <;> omega
  cases LinkState.affects_settleTransmit sends.waits .accepted with
  | some _ _ applies _ =>
    have accounts := after sending.frame.lane
    rw [show (state.settle sending .accepted).history sending.frame.lane =
      (state.history sending.frame.lane).record (.leave sending.number sending.frame) from
        recorded_self _ _] at accounts
    exact (kept.accounted sending.frame.lane).not_record_leave applies other accounts

/-- Each step that spares the frame in the hands of the link keeps the accounts. -/
theorem Kept.step {label : OutputLabel limits} (spared : state.spares label = true)
    (stepped : state.step label = some next) : next.Kept := by
  cases label with
  | transmit slot =>
    rw [← some.inj stepped]
    exact kept.transmit slot
  | answer responses =>
    rw [← some.inj stepped]
    exact ⟨kept.accounted, fun sending here => (kept.sends sending here).congr rfl rfl⟩
  | stageResponse =>
    obtain ⟨-, same⟩ := ite_none_left_eq_some.mp stepped
    rw [← some.inj same]
    exact kept.stageResponse
  | stageFragment =>
    obtain ⟨-, same⟩ := ite_none_left_eq_some.mp stepped
    rw [← some.inj same]
    exact kept.stageFragment
  | select encodes =>
    obtain ⟨-, same⟩ := ite_none_left_eq_some.mp stepped
    rw [← some.inj same]
    exact kept.select encodes
  | settle disposition =>
    obtain ⟨sending, here, rfl⟩ := map_eq_some_iff.mp stepped
    refine kept.settle here fun accepted => ?_
    subst accepted
    unfold spares at spared
    rw [here] at spared
    exact (Bool.not_eq_true' _).mp spared
  | complete handle =>
    obtain ⟨idle, same⟩ := ite_none_left_eq_some.mp stepped
    rw [← some.inj same]
    refine ⟨fun lane => (kept.accounted lane).congr (state.link.counted_txComplete handle lane), ?_⟩
    intro sending here
    exact absurd (isSome_of_eq_some here) idle

end

theorem kept_of_reachable (reached : (outputMachine limits).ReachableWhere
      (fun state label => state.spares label = true) {} state) : state.Kept :=
  reached.invariant Kept kept_initial fun _ _ _ kept spared stepped => kept.step spared stepped

theorem spares_of_laneDepth (kept : state.Kept) (deep : 2 ≤ limits.laneDepth)
    (label : OutputLabel limits) : state.spares label = true := by
  unfold spares
  split
  · rw [Option.all_eq_true]
    intro sending here
    cases overwritten : sending.overwritten with
    | false => rfl
    | true =>
      obtain ⟨alone, -⟩ := (kept.sends sending here).lost overwritten
      rw [alone] at deep
      exact absurd deep (by decide)
  · rfl

/-- In every run in which the link accepts no frame that was overwritten meanwhile, every frame of
every lane is accounted for; a step that accepts one breaks the accounts. With room for two frames
there is no such step. -/
theorem lanes_lose_nothing_silently (reached : (outputMachine limits).ReachableWhere
      (fun state label => state.spares label = true) {} state) :
    state.Accounted ∧ (∀ label next, state.step label = some next →
        (next.Accounted ↔ state.spares label = true)) ∧
      (2 ≤ limits.laneDepth → ∀ label, state.spares label = true) := by
  have kept := kept_of_reachable reached
  refine ⟨kept.accounted, fun label next stepped => ⟨fun accounted => ?_, fun spared => ?_⟩,
    fun deep label => spares_of_laneDepth kept deep label⟩
  · by_contra disturbed
    unfold spares at disturbed
    split at disturbed
    · obtain ⟨sending, here, rfl⟩ := map_eq_some_iff.mp stepped
      rw [here, all_some, Bool.not_eq_true, Bool.not_eq_false'] at disturbed
      exact not_accounted_settle kept here disturbed accounted
    · exact disturbed rfl
  · exact (kept.step spared stepped).accounted

/-! ### A lane with room for one frame -/

def singleLimits : ServiceLimits where
  maxRequests := 1
  responseCacheBytes := 64
  responseCacheBytes_ge := Nat.le_add_left 64 0
  maxMessageBytes := 256
  maxMessageBytes_ge := by decide
  maxFrameBytes := 128
  maxFrameBytes_ge := by decide
  laneDepth := 1
  laneDepth_pos := Nat.one_pos
  outboundMessageSlots := 1

/-- A frame of Data with one byte. -/
def dataFrame (value : UInt8) : OutboundSlot := { kind := .data, payload := [value] }

/-- A frame is sent, and then another one. -/
def oneByOne : List (OutputLabel singleLimits) :=
  [.transmit (dataFrame 1), .select true, .settle .accepted, .transmit (dataFrame 2)]

/-- The second frame comes while the link is handed the first. -/
def meanwhile : List (OutputLabel singleLimits) :=
  [.transmit (dataFrame 1), .select true, .transmit (dataFrame 2), .settle .accepted]

theorem lanes_lose_nothing_silently_oneByOne :
    ∃ state : OutputSystem singleLimits, (state.history .telemetry).ledger.handed = [0] ∧
        (state.history .telemetry).ledger.waiting = [1] ∧ state.Accounted := by
  refine ⟨((outputMachine singleLimits).run {} oneByOne).get (by decide +kernel),
    by decide +kernel, by decide +kernel, ?_⟩
  exact (lanes_lose_nothing_silently
    (Transition.Machine.reachableWhere_get _ _ _ _ (by decide +kernel) _)).1

/-- The link has sent the first frame, which is counted as replaced; the second one is gone. -/
theorem frame_lost_silently :
    ∃ state : OutputSystem singleLimits,
      (outputMachine singleLimits).run {} meanwhile = some state ∧
        (state.history .telemetry).ledger.admitted = [dataFrame 1, dataFrame 2] ∧
        (state.history .telemetry).accepted.map TxFrame.payload = [[1]] ∧
        (state.link.output.lanes .telemetry).slots = [] ∧
        (state.link.output.lanes .telemetry).record.replaced = 1 ∧
        (state.link.output.lanes .telemetry).record.dropped = 0 ∧ ¬ state.Accounted := by
  refine ⟨((outputMachine singleLimits).run {} meanwhile).get (by decide +kernel),
    (some_get _).symm, by decide +kernel, by decide +kernel, by decide +kernel,
    by decide +kernel, by decide +kernel, ?_⟩
  intro accounted
  exact absurd ((accounted .telemetry).ledger.once 1) (by decide +kernel)

end OutputSystem

end Solar.Remote
