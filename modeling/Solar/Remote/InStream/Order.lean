/-
This file follows the samples of one stream from admission to the consumer. An
admission takes the first free slot and the worker the first pending one, so the
samples are consumed in the order of their slots. That is the order of their
admission as long as every sample is stored behind the ones that still wait;
once a low slot is refilled while a higher one waits, the later sample is
consumed first. `orderSafe` excludes exactly these admissions.

Under it the admitted samples of a stream are those consumed, the one in the
worker's hands and the waiting ones, in this order.
-/

import Solar.Remote.InStream.Tokens

namespace Solar.Remote

open List hiding filter_map map_map

/-- What identifies a sample within its stream, and its value. -/
def Admission.sample {Value : Type} {catalog : InStreamCatalog Value}
    (admission : Admission catalog) : UInt32 × Option Value :=
  (admission.sequence, some admission.value)

def InboundSlot.sample {Value : Type} (slot : InboundSlot Value) : UInt32 × Option Value :=
  (slot.envelope.frameSequence, slot.value)

/-- The value of a stream's sample that a worker has taken and not yet consumed. -/
def WorkerPhase.inHand {Value : Type} {linkCount : Nat} (link : Fin linkCount) (token : UInt32) :
    WorkerPhase Value linkCount → List (Option Value)
  | .holding target _ named _ value => if target = link ∧ named = token then [value] else []
  | _ => []

namespace InStreamRuntime

variable {Value : Type} {catalog : InStreamCatalog Value}
  {state next : InStreamRuntime catalog} {label : InStreamLabel catalog}

section

variable (state : InStreamRuntime catalog)

section

variable (endpoint : catalog.Endpoint) (link : catalog.Link) (token : UInt32)

/-- The samples admitted under a stream, in the order of their admission. -/
def stream : List (Admission catalog) :=
  state.admissions.filter fun admission =>
    admission.endpoint = endpoint ∧ admission.link = link ∧ admission.token = token

/-- Those that no failed submission has taken back. -/
def kept : List (Admission catalog) :=
  (state.stream endpoint link token).filter fun admission => !admission.withdrawn

/-- The values passed to the consumer for a stream. -/
def consumed : List Value :=
  (state.deliveries.filter fun delivery =>
    delivery.endpoint = endpoint ∧ delivery.link = link ∧ delivery.token = token).map Delivery.value

end

/-- The steps that keep the order. When a frame of a link's stream is taken up, no sample waits
behind the link's first free slot; the token counter has not run through its values when a
stream is installed. -/
def orderSafe (label : InStreamLabel catalog) : Bool :=
  tokensLeft state label &&
    match label with
    | .data link endpoint frame _ =>
        (state.row endpoint link).token != frame.envelope.requestId ||
          (state.row endpoint link).storesLast
    | _ => true

end

/-- The order of one row's samples. -/
structure RowOrder (state : InStreamRuntime catalog) (endpoint : catalog.Endpoint)
    (link : catalog.Link) : Prop where
  increasing : ∀ token, (state.stream endpoint link token).Pairwise
    fun earlier later => earlier.sequence < later.sequence
  consumed : ∀ token, state.consumed endpoint link token <+:
    (state.kept endpoint link token).map Admission.value
  /-- What waits belongs to the stream of the row. -/
  waiting : ∀ slot ∈ (state.row endpoint link).waiting,
    (state.row endpoint link).active = true ∧ slot.token = (state.row endpoint link).token
  bounded : (state.row endpoint link).active = true →
    ∀ admission ∈ state.stream endpoint link (state.row endpoint link).token,
      admission.sequence ≤ (state.row endpoint link).lastSequence
  /-- The samples are those done with and those waiting; those done with are consumed, but for
  the one in the worker's hands. -/
  ordered : (state.row endpoint link).active = true → ∃ done,
    (state.kept endpoint link (state.row endpoint link).token).map Admission.sample =
        done ++ (state.row endpoint link).waiting.map InboundSlot.sample ∧
      done.map Prod.snd = (state.consumed endpoint link (state.row endpoint link).token).map some ++
          (state.worker endpoint).inHand link (state.row endpoint link).token

/-! ### The lists of one stream -/

theorem stream_congr (same : next.admissions = state.admissions) (endpoint : catalog.Endpoint)
    (link : catalog.Link) : next.stream endpoint link = state.stream endpoint link := by
  funext token
  rw [stream, stream, same]

variable {endpoint : catalog.Endpoint} {link : catalog.Link} {envelope : Envelope}
  {generation : UInt32}

theorem kept_congr (same : next.stream endpoint link = state.stream endpoint link) :
    next.kept endpoint link = state.kept endpoint link := by
  funext token
  rw [kept, kept, same]

theorem consumed_congr (same : next.deliveries = state.deliveries) (endpoint : catalog.Endpoint)
    (link : catalog.Link) : next.consumed endpoint link = state.consumed endpoint link := by
  funext token
  rw [InStreamRuntime.consumed, InStreamRuntime.consumed, same]

variable {admission : Admission catalog}

section

variable (grown : next.admissions = state.admissions ++ [admission])

include grown

theorem stream_admitted (endpoint : catalog.Endpoint) (link : catalog.Link) (token : UInt32) :
    next.stream endpoint link token = state.stream endpoint link token ++
      if admission.endpoint = endpoint ∧ admission.link = link ∧ admission.token = token then
        [admission] else [] := by
  simp only [stream, grown, filter_append, filter_singleton, Bool.cond_decide]

theorem kept_admitted (standing : admission.withdrawn = false) (endpoint : catalog.Endpoint)
    (link : catalog.Link) (token : UInt32) :
    next.kept endpoint link token = state.kept endpoint link token ++
      if admission.endpoint = endpoint ∧ admission.link = link ∧ admission.token = token then
        [admission] else [] := by
  rw [kept, stream_admitted grown, filter_append]
  congr 1
  split
  · rw [filter_singleton, standing]
    rfl
  · rfl

end

theorem consumed_delivered {deliveries : List (Delivery catalog)}
    (grown : next.deliveries = state.deliveries ++ deliveries) (endpoint : catalog.Endpoint)
    (link : catalog.Link) (token : UInt32) :
    next.consumed endpoint link token = state.consumed endpoint link token ++
      (deliveries.filter fun delivery => delivery.endpoint = endpoint ∧ delivery.link = link ∧
        delivery.token = token).map Delivery.value := by
  rw [InStreamRuntime.consumed, InStreamRuntime.consumed, grown, filter_append, map_append]

section

variable (changed : next.admissions = withdrawFrom state.admissions endpoint link envelope)

include changed

theorem stream_withdrawn (other : catalog.Endpoint) (otherLink : catalog.Link) (token : UInt32) :
    next.stream other otherLink token = (state.stream other otherLink token).map fun admission =>
      if admission.endpoint = endpoint ∧ admission.link = link ∧
          admission.token = envelope.requestId ∧ admission.sequence = envelope.frameSequence then
        { admission with withdrawn := true }
      else admission := by
  rw [stream, changed, withdrawFrom, List.filter_map]
  refine congrArg _ (filter_congr fun admission _ => ?_)
  rw [Function.comp_apply]
  split <;> rfl

theorem stream_withdrawn_of_ne {other : catalog.Endpoint} {otherLink : catalog.Link}
    {token : UInt32} (apart : ¬(other = endpoint ∧ otherLink = link ∧ token = envelope.requestId)) :
    next.stream other otherLink token = state.stream other otherLink token := by
  rw [stream_withdrawn changed]
  refine (map_congr_left fun admission member => if_neg fun both => apart ?_).trans (map_id' _)
  obtain ⟨rfl, rfl, rfl⟩ := of_decide_eq_true (mem_filter.mp member).2
  exact ⟨both.1, both.2.1, both.2.2.1⟩

theorem kept_withdrawn :
    next.kept endpoint link envelope.requestId =
      (state.kept endpoint link envelope.requestId).filter fun admission =>
        admission.sequence ≠ envelope.frameSequence := by
  have mine : ∀ admission ∈ state.stream endpoint link envelope.requestId,
      admission.endpoint = endpoint ∧ admission.link = link ∧
        admission.token = envelope.requestId := fun admission member =>
    of_decide_eq_true (mem_filter.mp member).2
  rw [kept, kept, stream_withdrawn changed]
  generalize state.stream endpoint link envelope.requestId = samples at mine
  induction samples with
  | nil => rfl
  | cons admission rest ih =>
    have later := ih fun other member => mine other (mem_cons_of_mem _ member)
    obtain ⟨sameEndpoint, sameLink, sameToken⟩ := mine admission mem_cons_self
    by_cases named : admission.sequence = envelope.frameSequence
    · by_cases gone : admission.withdrawn = true <;>
        simp [sameEndpoint, sameLink, sameToken, named, gone] at later ⊢ <;> exact later
    · by_cases gone : admission.withdrawn = true <;>
        simp [sameEndpoint, sameLink, sameToken, named, gone] at later ⊢ <;> exact later

end

theorem filter_ne_of_increasing {Item : Type} {key : Item → UInt32} {front back : List Item}
    {item : Item}
    (increasing : (front ++ item :: back).Pairwise fun earlier later => key earlier < key later) :
    (front ++ item :: back).filter (fun other => key other ≠ key item) = front ++ back := by
  obtain ⟨_, behind, across⟩ := pairwise_append.mp increasing
  obtain ⟨above, _⟩ := pairwise_cons.mp behind
  have below : front.filter (fun other => key other ≠ key item) = front :=
    filter_eq_self.mpr fun other member =>
      decide_eq_true (UInt32.ne_of_lt (across other member item mem_cons_self))
  have rest : back.filter (fun other => key other ≠ key item) = back :=
    filter_eq_self.mpr fun other member =>
      decide_eq_true (UInt32.ne_of_lt (above other member)).symm
  rw [filter_append, filter_cons_of_neg (by simp), below, rest]

theorem prefix_of_ordered {samples : List (Admission catalog)} {values : List Value}
    {done rest : List (UInt32 × Option Value)} {held : List (Option Value)}
    (parts : samples.map Admission.sample = done ++ rest)
    (consumed : done.map Prod.snd = values.map some ++ held) :
    values <+: samples.map Admission.value := by
  have all : (samples.map Admission.value).map some =
      values.map some ++ (held ++ rest.map Prod.snd) := by
    rw [← append_assoc, ← consumed, ← map_append, ← parts, List.map_map, List.map_map]
    rfl
  obtain ⟨first, second, split, same, _⟩ := map_eq_append_iff.mp all
  have equal : first = values := map_injective_iff.mpr (fun _ _ => Option.some.inj) same
  exact ⟨second, equal ▸ split.symm⟩

/-! ### One step -/

section

variable (order : RowOrder state endpoint link)

include order

/-- A step that leaves the row's stream, its samples and its lists alone keeps the order. -/
theorem RowOrder.frame (header : (next.row endpoint link).header = (state.row endpoint link).header)
    (slots : (next.row endpoint link).slots = (state.row endpoint link).slots)
    (last : (next.row endpoint link).lastSequence = (state.row endpoint link).lastSequence)
    (streams : next.stream endpoint link = state.stream endpoint link)
    (consumes : next.consumed endpoint link = state.consumed endpoint link)
    (hand : (state.row endpoint link).active = true →
      (next.worker endpoint).inHand link (state.row endpoint link).token =
      (state.worker endpoint).inHand link (state.row endpoint link).token) :
    RowOrder next endpoint link := by
  obtain ⟨active, rest⟩ := Prod.mk.inj header
  have token : (next.row endpoint link).token = (state.row endpoint link).token :=
    (Prod.mk.inj rest).1
  have waiting : (next.row endpoint link).waiting = (state.row endpoint link).waiting :=
    congrArg (Pool.select · InboundSlot.isPending) slots
  refine ⟨?_, ?_, ?_, ?_, ?_⟩
  · rw [streams]
    exact order.increasing
  · rw [kept_congr streams, consumes]
    exact order.consumed
  · rw [waiting, active, token]
    exact order.waiting
  · rw [active, token, last, streams]
    exact order.bounded
  · rw [active, token, waiting, kept_congr streams, consumes]
    intro live
    rw [hand live]
    exact order.ordered live

theorem RowOrder.setRow (same : next.row endpoint link = state.row endpoint link)
    (streams : next.stream endpoint link = state.stream endpoint link)
    (consumes : next.consumed endpoint link = state.consumed endpoint link)
    (hand : (next.worker endpoint).inHand link (state.row endpoint link).token =
      (state.worker endpoint).inHand link (state.row endpoint link).token) :
    RowOrder next endpoint link :=
  order.frame (congrArg _ same) (congrArg _ same) (congrArg _ same) streams consumes fun _ => hand

theorem RowOrder.of_inactive (inactive : (next.row endpoint link).active = false)
    (waiting : (next.row endpoint link).waiting = [])
    (streams : next.stream endpoint link = state.stream endpoint link)
    (consumes : next.consumed endpoint link = state.consumed endpoint link) :
    RowOrder next endpoint link := by
  refine ⟨?_, ?_, ?_, ?_, ?_⟩
  · rw [streams]
    exact order.increasing
  · rw [kept_congr streams, consumes]
    exact order.consumed
  · rw [waiting]
    exact fun _ member => nomatch member
  · exact fun active => nomatch active.symm.trans inactive
  · exact fun active => nomatch active.symm.trans inactive

end

theorem RowOrder.closed
    {reason : InStreamCloseReason} {notified : Bool} {phase : ServicePhase catalog}
    {other : catalog.Endpoint} {otherLink : catalog.Link} (order : RowOrder state other otherLink) :
    RowOrder { state.closeRow endpoint link reason notified with service := phase }
      other otherLink := by
  obtain ⟨admissions, _, deliveries⟩ := memory_closeRow state endpoint link reason notified
  have streams := stream_congr admissions other otherLink
  have consumes := consumed_congr deliveries other otherLink
  by_cases same : (other, otherLink) = (endpoint, link)
  · obtain ⟨rfl, rfl⟩ := Prod.mk.inj same
    by_cases active : (state.row other otherLink).active = true
    · refine order.of_inactive (active_closeRow state _ _ _ _) ?_ streams consumes
      rw [closeRow, if_pos active]
      show ((state.setRow other otherLink _).row other otherLink).waiting = []
      rw [row_setRow_self]
      exact InStreamLink.waiting_close _
    · have unchanged : state.closeRow other otherLink reason notified = state := if_neg active
      rw [unchanged]
      exact order.setRow rfl rfl rfl rfl
  · refine order.setRow (row_closeRow_of_ne same reason notified) streams consumes ?_
    rw [worker_closeRow]

/-- What a worker holds of a row's active stream is that stream's current sample. -/
def HeldCurrent (state : InStreamRuntime catalog) : Prop :=
  ∀ endpoint link index slot, (state.row endpoint link).slots.get? index = some slot →
    slot.isOccupied = true → (state.row endpoint link).active = true →
      slot.token = (state.row endpoint link).token →
        slot.generation = (state.row endpoint link).generation

theorem HeldCurrent.step (tokens : TokensIssued state) (held : HeldCurrent state)
    (stepped : Stepped state label next) (left : tokensLeft state label = true) :
    HeldCurrent next := by
  intro endpoint link index slot stored busy active named
  obtain same | ⟨inactive, _⟩ | installs := stepped.header endpoint link
  · obtain ⟨sameActive, rest⟩ := Prod.mk.inj same
    obtain ⟨sameToken, sameGeneration⟩ : (next.row endpoint link).token = _ ∧
      (next.row endpoint link).generation = _ := Prod.mk.inj rest
    rw [sameGeneration]
    rw [sameToken] at named
    have before : (state.row endpoint link).active = true := sameActive.symm.trans active
    obtain ⟨old, here, occupied, oldToken, oldGeneration⟩ | ⟨_, _, _, generation⟩ :=
      stepped.slot stored busy
    · exact oldGeneration ▸ held endpoint link index old here occupied before (oldToken.trans named)
    · exact generation
  · exact nomatch active.symm.trans inactive
  · have remains := installs.left left
    obtain ⟨_, _, _, interval, correlation, _, _, rfl⟩ := installs
    have token : ((state.installStep endpoint link interval correlation).row endpoint link).token =
        state.issuedToken := congrArg InStreamLink.token (row_setRow_self state endpoint link _)
    rw [token] at named
    obtain ⟨old, here, occupied, oldToken, _⟩ | ⟨_, live, oldToken, _⟩ := stepped.slot stored busy
    · exact absurd (oldToken.trans named)
        (ne_issuedToken remains (tokens.slots endpoint link index old here occupied))
    · exact absurd (oldToken.symm.trans named) (ne_issuedToken remains (tokens.rows _ _ live))

/-- Everything the order rests on. -/
structure OrderKept (state : InStreamRuntime catalog) : Prop where
  wellformed : Wellformed state
  tokens : TokensIssued state
  held : HeldCurrent state
  rows : ∀ endpoint link, RowOrder state endpoint link

theorem TokensIssued.unused (tokens : TokensIssued state) (left : state.nextToken ≠ 0)
    (endpoint : catalog.Endpoint) (link : catalog.Link) :
    state.stream endpoint link state.issuedToken = [] ∧
      state.consumed endpoint link state.issuedToken = [] := by
  refine ⟨filter_eq_nil_iff.mpr fun admission member same => ?_, ?_⟩
  · exact ne_issuedToken left (tokens.admissions admission member) (of_decide_eq_true same).2.2
  · refine map_eq_nil_iff.mpr (filter_eq_nil_iff.mpr fun delivery member same => ?_)
    exact ne_issuedToken left (tokens.deliveries delivery member) (of_decide_eq_true same).2.2

theorem inHand_unused (wellformed : Wellformed state) (tokens : TokensIssued state)
    (left : state.nextToken ≠ 0) (endpoint : catalog.Endpoint) (link : catalog.Link) :
    (state.worker endpoint).inHand link state.issuedToken = [] := by
  cases here : state.worker endpoint with
  | holding target index token generation value =>
    refine if_neg fun both => ?_
    obtain ⟨slot, stored, running, sameToken, _⟩ :=
      wellformed.holds endpoint target index token generation (by rw [here]; rfl)
    have issued := tokens.slots endpoint target index slot stored
      (InboundSlot.isOccupied_of_running running)
    exact ne_issuedToken left issued (sameToken.trans both.2)
  | _ => rfl

/-- A new stream begins with no sample. -/
theorem OrderKept.installed
    {reason : InStreamCloseReason} {notify : Bool} {interval correlation : UInt32}
    (order : OrderKept state) (left : state.nextToken ≠ 0) (phase : state.service =
      .closing [] reason notify (.install endpoint link interval correlation))
    (other : catalog.Endpoint) (otherLink : catalog.Link) :
    RowOrder (state.installStep endpoint link interval correlation) other otherLink := by
  have before := order.rows other otherLink
  by_cases same : (other, otherLink) = (endpoint, link)
  · obtain ⟨rfl, rfl⟩ := Prod.mk.inj same
    have row : (state.installStep other otherLink interval correlation).row other otherLink =
        (state.row other otherLink).install state.issuedToken interval :=
      row_setRow_self state other otherLink _
    have none : (state.row other otherLink).waiting = [] := by
      refine eq_nil_iff_forall_not_mem.mpr fun slot member => ?_
      have active := (before.waiting slot member).1
      exact nomatch order.wellformed.replacing _ _ _ _ _ _ _ phase active
    have waiting : ((state.installStep other otherLink interval correlation).row other
        otherLink).waiting = [] := by
      rw [row]
      exact none
    have token : ((state.installStep other otherLink interval correlation).row other
        otherLink).token = state.issuedToken := by rw [row]; rfl
    obtain ⟨unused, unconsumed⟩ := order.tokens.unused left other otherLink
    have stream : (state.installStep other otherLink interval correlation).stream = state.stream :=
      rfl
    refine ⟨before.increasing, before.consumed, ?_, fun _ => ?_, fun _ => ⟨[], ?_, ?_⟩⟩
    · rw [waiting]
      exact fun _ member => nomatch member
    · rw [token, stream, unused]
      exact fun _ member => nomatch member
    · rw [waiting, token, kept, stream, unused]
      rfl
    · rw [token]
      show [] = (state.consumed other otherLink state.issuedToken).map some ++
        (state.worker other).inHand otherLink state.issuedToken
      rw [unconsumed, inHand_unused order.wellformed order.tokens left]
      rfl
  · exact before.setRow (row_setRow_of_ne _ _ _ _ same) rfl rfl rfl

section

variable (order : ∀ endpoint link, RowOrder state endpoint link)

include order

/-- An admitted sample comes behind all others of its row. -/
theorem RowOrder.admitted {frame : Decoded} {now : Tick} {value : Value}
    {admitted : InStreamLink Value (catalog.window endpoint)}
    (ok : (state.row endpoint link).admitFrame catalog.ticksPerSecond frame.envelope value now =
      .ok admitted) (last : (state.row endpoint link).storesLast = true)
    (row : next.row endpoint link = admitted)
    (others : ∀ other otherLink, (other, otherLink) ≠ (endpoint, link) →
      next.row other otherLink = state.row other otherLink)
    (grown : next.admissions = state.admissions ++
      [⟨endpoint, link, frame.envelope.requestId, frame.envelope.frameSequence, value, false⟩])
    (deliveries : next.deliveries = state.deliveries)
    (hand : ∀ other otherLink token, (next.worker other).inHand otherLink token =
      (state.worker other).inHand otherLink token) (other : catalog.Endpoint)
    (otherLink : catalog.Link) : RowOrder next other otherLink := by
  have before := order other otherLink
  have streams := stream_admitted grown other otherLink
  have keeps := kept_admitted grown rfl other otherLink
  have consumes := consumed_congr deliveries other otherLink
  by_cases same : (other, otherLink) = (endpoint, link)
  · obtain ⟨rfl, rfl⟩ := Prod.mk.inj same
    have waits := InStreamLink.waiting_admitFrame ok last
    have sameHeader := InStreamLink.header_admitFrame ok
    obtain ⟨active, _, named, _, higher, _, _, _, content⟩ := InStreamLink.admitFrame_eq_ok ok
    have token : admitted.token = (state.row other otherLink).token :=
      (Prod.mk.inj (congrArg Prod.snd sameHeader)).1
    have fresh : ∀ admission ∈ state.stream other otherLink frame.envelope.requestId,
        admission.sequence < frame.envelope.frameSequence := fun admission member =>
      UInt32.lt_of_le_of_lt (before.bounded active admission (named ▸ member)) higher
    obtain ⟨done, parts, consumed⟩ := before.ordered active
    refine ⟨fun token => ?_, fun token => ?_, ?_, fun _ => ?_, fun _ => ⟨done, ?_, ?_⟩⟩
    · rw [streams]
      refine pairwise_append.mpr ⟨before.increasing token, ?_, fun earlier member later => ?_⟩
      · split <;> simp
      · split
        · rename_i both
          intro new
          rw [mem_singleton.mp new]
          obtain ⟨_, _, rfl⟩ := both
          exact fresh earlier member
        · exact fun none => nomatch none
    · rw [keeps, consumes, map_append]
      exact (before.consumed token).trans (prefix_append _ _)
    · rw [row, waits]
      intro slot member
      have live : admitted.active = true := (congrArg Prod.fst sameHeader).trans active
      obtain earlier | new := mem_append.mp member
      · exact ⟨live, token ▸ (before.waiting slot earlier).2⟩
      · rw [mem_singleton.mp new]
        exact ⟨live, named.symm.trans token.symm⟩
    · have sequence : admitted.lastSequence = frame.envelope.frameSequence := by rw [content]
      rw [row, token, streams, sequence]
      intro admission member
      obtain earlier | new := mem_append.mp member
      · exact UInt32.le_of_lt (fresh admission (named ▸ earlier))
      · split at new
        · rw [mem_singleton.mp new]
          exact UInt32.le_refl _
        · exact nomatch new
    · rw [row, token, keeps, if_pos ⟨rfl, rfl, named.symm⟩, map_append, parts, waits,
        map_append, append_assoc]
      rfl
    · rw [row, token, consumes, hand]
      exact consumed
  · refine before.setRow (others other otherLink same) (funext fun token => ?_) consumes
      (hand _ _ _)
    rw [streams, if_neg fun both => same (Prod.ext both.1.symm both.2.1.symm), append_nil]

/-- A sample that is withdrawn leaves the order of the others. -/
theorem RowOrder.withdrawn
    (header : (state.row endpoint link).header = (true, envelope.requestId, generation))
    (found : ((state.row endpoint link).submitted? envelope.frameSequence).isSome = true)
    (row : next.row endpoint link = (state.row endpoint link).withdraw envelope.frameSequence)
    (others : ∀ other otherLink, (other, otherLink) ≠ (endpoint, link) →
      next.row other otherLink = state.row other otherLink)
    (changed : next.admissions = withdrawFrom state.admissions endpoint link envelope)
    (deliveries : next.deliveries = state.deliveries) (workers : next.worker = state.worker)
    (other : catalog.Endpoint) (otherLink : catalog.Link) : RowOrder next other otherLink := by
  have before := order other otherLink
  have consumes := consumed_congr deliveries other otherLink
  by_cases same : (other, otherLink) = (endpoint, link)
  · obtain ⟨rfl, rfl⟩ := Prod.mk.inj same
    obtain ⟨live, rest⟩ := Prod.mk.inj header
    have named : (state.row other otherLink).token = envelope.requestId := (Prod.mk.inj rest).1
    have after : (next.row other otherLink).header = (true, envelope.requestId, generation) :=
      (congrArg _ row).trans ((InStreamLink.header_withdraw _ _).trans header)
    have token : (next.row other otherLink).token = envelope.requestId :=
      (Prod.mk.inj (congrArg Prod.snd after)).1
    have last : (next.row other otherLink).lastSequence =
        (state.row other otherLink).lastSequence := by
      rw [row]
      obtain ⟨unchanged, _⟩ | ⟨_, _, _, _, _, _, unchanged⟩ :=
        (state.row other otherLink).withdraw_eq envelope.frameSequence
      · rw [unchanged]
      · rw [unchanged]
    obtain ⟨front, slot, back, split, sequence, remains⟩ := InStreamLink.waiting_withdraw found
    obtain ⟨done, parts, consumed⟩ := before.ordered live
    have mapped : ((state.kept other otherLink envelope.requestId).map Admission.sample).Pairwise
        fun earlier later => earlier.1 < later.1 :=
      pairwise_map.mpr ((before.increasing _).filter _)
    rw [named, split, map_append, map_cons, ← append_assoc] at parts
    rw [parts] at mapped
    have shorter : (next.kept other otherLink envelope.requestId).map Admission.sample =
        done ++ (front ++ back).map InboundSlot.sample := by
      have erased := filter_ne_of_increasing mapped
      rw [kept_withdrawn changed, map_append, ← append_assoc, ← erased, ← parts,
        List.filter_map, ← sequence]
      rfl
    refine ⟨fun token => ?_, fun token => ?_, ?_, fun _ => ?_, fun _ => ⟨done, ?_, ?_⟩⟩
    · rw [stream_withdrawn changed]
      refine pairwise_map.mpr ((before.increasing token).imp fun {earlier later} less => ?_)
      split <;> split <;> exact less
    · by_cases this : token = envelope.requestId
      · subst this
        rw [consumes]
        exact prefix_of_ordered shorter (named ▸ consumed)
      · rw [consumes, kept, stream_withdrawn_of_ne changed fun both => this both.2.2]
        exact before.consumed token
    · rw [show (next.row other otherLink).waiting = front ++ back from row ▸ remains, token]
      intro content member
      have earlier : content ∈ (state.row other otherLink).waiting := by
        rw [split]
        obtain ahead | behind := mem_append.mp member
        · exact mem_append_left _ ahead
        · exact mem_append_right _ (mem_cons_of_mem _ behind)
      exact ⟨congrArg Prod.fst after, (before.waiting content earlier).2.trans named⟩
    · rw [token, last, stream_withdrawn changed]
      intro admission member
      obtain ⟨old, here, rfl⟩ := mem_map.mp member
      have bound := before.bounded live old (named ▸ here)
      split <;> exact bound
    · rw [token, show (next.row other otherLink).waiting = front ++ back from row ▸ remains]
      exact shorter
    · rw [token, consumes, workers]
      exact named ▸ consumed
  · refine before.setRow (others other otherLink same) (funext fun token => ?_) consumes ?_
    · exact stream_withdrawn_of_ne changed fun both => same (Prod.ext both.1 both.2.1)
    · rw [workers]

omit order in
/-- The worker takes the oldest sample of the lowest slot. -/
theorem RowOrder.took {index : Nat}
    {slot : InboundSlot Value} {taken : InStreamLink Value (catalog.window endpoint)}
    (order : ∀ endpoint link, RowOrder state endpoint link)
    (here : state.worker endpoint = .scanning)
    (found : (state.row endpoint link).take? = some (index, slot, taken))
    (other : catalog.Endpoint) (otherLink : catalog.Link) :
    RowOrder ((state.setRow endpoint link taken).setWorker endpoint
      (.holding link index slot.token slot.generation slot.value)) other otherLink := by
  have before := order other otherLink
  have empty : ∀ token, (state.worker endpoint).inHand otherLink token = [] := by
    intro token
    rw [here]
    rfl
  by_cases same : (other, otherLink) = (endpoint, link)
  · obtain ⟨rfl, rfl⟩ := Prod.mk.inj same
    have row : ((state.setRow other otherLink taken).setWorker other
        (.holding otherLink index slot.token slot.generation slot.value)).row other otherLink =
        taken := row_setRow_self state other otherLink taken
    have first := InStreamLink.waiting_take found
    have header := InStreamLink.header_take found
    have active : taken.active = (state.row other otherLink).active := congrArg Prod.fst header
    have token : taken.token = (state.row other otherLink).token :=
      (Prod.mk.inj (congrArg Prod.snd header)).1
    have last : taken.lastSequence = (state.row other otherLink).lastSequence := by
      obtain ⟨_, _, _, rfl⟩ := InStreamLink.take?_eq_some found
      rfl
    obtain ⟨_, named⟩ := before.waiting slot (first ▸ mem_cons_self)
    refine ⟨before.increasing, before.consumed, ?_, ?_, ?_⟩
    · rw [row, active, token]
      exact fun content member => before.waiting content (first ▸ mem_cons_of_mem _ member)
    · rw [row, active, token, last]
      exact before.bounded
    · rw [row, active, token]
      intro live
      obtain ⟨done, parts, consumed⟩ := before.ordered live
      rw [empty, append_nil] at consumed
      refine ⟨done ++ [slot.sample], ?_, ?_⟩
      · rw [first] at parts
        rw [append_assoc]
        exact parts
      · rw [worker_setWorker_self, map_append, consumed]
        exact congrArg _ (if_pos ⟨rfl, named⟩).symm
  · refine before.setRow (row_setRow_of_ne _ _ _ _ same) rfl rfl ?_
    by_cases sameEndpoint : other = endpoint
    · subst sameEndpoint
      rw [worker_setWorker_self, empty]
      exact if_neg fun both => same (Prod.ext rfl both.1.symm)
    · rw [worker_setWorker_of_ne _ _ _ sameEndpoint]
      rfl

/-- The sample in hand is delivered next. -/
theorem RowOrder.delivered {index : Nat} {token : UInt32} {value : Option Value}
    (here : state.worker endpoint = .holding link index token generation value)
    (current : (state.row endpoint link).isCurrent index token generation = true)
    (rows : next.row = state.row) (admissions : next.admissions = state.admissions)
    (grown : next.deliveries =
      state.deliveries ++ value.toList.map (Delivery.mk endpoint link token))
    (worker : next.worker endpoint = .finishing link index token generation true)
    (workers : ∀ other ≠ endpoint, next.worker other = state.worker other)
    (other : catalog.Endpoint) (otherLink : catalog.Link) : RowOrder next other otherLink := by
  have before := order other otherLink
  have row : next.row other otherLink = state.row other otherLink := by rw [rows]
  have streams := stream_congr admissions other otherLink
  obtain ⟨live, named, _⟩ := InStreamLink.matchesSample_iff.mp (Bool.and_eq_true_iff.mp current).1
  have elsewhere : ∀ target targetLink targetToken,
      ¬(endpoint = target ∧ link = targetLink ∧ token = targetToken) →
      next.consumed target targetLink targetToken =
        state.consumed target targetLink targetToken := by
    intro target targetLink targetToken apart
    rw [consumed_delivered grown, filter_eq_nil_iff.mpr, map_nil, append_nil]
    intro delivery member
    obtain ⟨_, _, rfl⟩ := mem_map.mp member
    exact fun same => apart (of_decide_eq_true same)
  by_cases same : (other, otherLink) = (endpoint, link)
  · obtain ⟨rfl, rfl⟩ := Prod.mk.inj same
    obtain ⟨done, parts, hand⟩ := before.ordered live
    have held : (state.worker other).inHand otherLink token = [value] := by
      rw [here]
      exact if_pos ⟨rfl, rfl⟩
    rw [named, held] at hand
    rw [named] at parts
    obtain ⟨content, rfl⟩ : ∃ content, value = some content := by
      have all : (state.kept other otherLink token).map (some ∘ Admission.value) =
          done.map Prod.snd ++
            ((state.row other otherLink).waiting.map InboundSlot.sample).map Prod.snd := by
        rw [← map_append, ← parts, List.map_map]
        rfl
      have member : value ∈ (state.kept other otherLink token).map (some ∘ Admission.value) := by
        rw [all, hand]
        exact mem_append_left _ (mem_append_right _ (mem_singleton.mpr rfl))
      obtain ⟨admission, _, rfl⟩ := mem_map.mp member
      exact ⟨admission.value, rfl⟩
    have more : next.consumed other otherLink token =
        state.consumed other otherLink token ++ [content] := by
      rw [consumed_delivered grown]
      simp
    have complete : done.map Prod.snd = (next.consumed other otherLink token).map some ++ [] := by
      rw [more, hand, append_nil, map_append]
      rfl
    refine ⟨?_, fun target => ?_, ?_, ?_, fun _ => ⟨done, ?_, ?_⟩⟩
    · rw [streams]
      exact before.increasing
    · rw [kept_congr streams]
      by_cases this : target = token
      · subst this
        exact prefix_of_ordered parts complete
      · rw [elsewhere other otherLink target fun both => this both.2.2.symm]
        exact before.consumed target
    · rw [row]
      exact before.waiting
    · rw [row, streams]
      exact before.bounded
    · rw [row, kept_congr streams, named]
      exact parts
    · rw [row, named, worker]
      exact complete
  · refine before.setRow row streams (funext fun target => ?_) ?_
    · exact elsewhere other otherLink target fun both => same (Prod.ext both.1.symm both.2.1.symm)
    · by_cases sameEndpoint : other = endpoint
      · subst sameEndpoint
        rw [worker, here]
        exact (if_neg fun both => same (Prod.ext rfl both.1.symm)).symm
      · rw [workers other sameEndpoint]

end

theorem RowOrder.worker_moves (order : RowOrder state endpoint link) (other : catalog.Endpoint)
    (phase : WorkerPhase Value catalog.linkCount)
    (before : (state.row endpoint link).active = true → endpoint = other →
      (state.worker other).inHand link (state.row endpoint link).token = [])
    (after : ∀ token, phase.inHand link token = []) :
    RowOrder (state.setWorker other phase) endpoint link := by
  refine order.frame rfl rfl rfl rfl rfl fun active => ?_
  by_cases same : endpoint = other
  · subst same
    rw [worker_setWorker_self, before active rfl, after]
  · rw [worker_setWorker_of_ne _ _ _ same]

theorem lastSequence_creditStep (endpoint : catalog.Endpoint)
    (succeeds : Bool) (phase : CreditPhase catalog.linkCount) (other : catalog.Endpoint)
    (otherLink : catalog.Link) :
    ((state.creditStep endpoint succeeds phase).1.row other otherLink).lastSequence =
      (state.row other otherLink).lastSequence := by
  cases phase with
  | returning link token generation =>
    refine row_setRow_induction (motive := fun other otherLink row =>
      row.lastSequence = (state.row other otherLink).lastSequence) other otherLink ?_ fun _ => rfl
    unfold InStreamLink.returnCredit
    split <;> rfl
  | transmitting frame => cases succeeds <;> rfl
  | _ => rfl

theorem RowOrder.credited {succeeds : Bool}
    {phase : CreditPhase catalog.linkCount} {other : catalog.Endpoint} {otherLink : catalog.Link}
    (order : RowOrder state other otherLink) :
    RowOrder (state.creditStep endpoint succeeds phase).1 other otherLink := by
  obtain ⟨admissions, _, deliveries⟩ := memory_creditStep state endpoint succeeds phase
  refine order.frame (header_creditStep state _ _ _ _ _) (slots_creditStep state _ _ _ _ _)
    (lastSequence_creditStep _ _ _ _ _) (stream_congr admissions _ _)
    (consumed_congr deliveries _ _) fun _ => ?_
  rw [worker_creditStep]

theorem OrderKept.inHand_stale (order : OrderKept state) {target : catalog.Link} {index : Nat}
    {token : UInt32} {value : Option Value}
    (here : state.worker endpoint = .holding target index token generation value)
    (stale : (state.row endpoint target).isCurrent index token generation = false)
    (active : (state.row endpoint link).active = true) :
    (state.worker endpoint).inHand link (state.row endpoint link).token = [] := by
  rw [here]
  refine if_neg fun both => ?_
  obtain ⟨rfl, named⟩ := both
  obtain ⟨slot, stored, running, sameToken, sameGeneration⟩ :=
    order.wellformed.holds endpoint target index token generation (by rw [here]; rfl)
  have generated := order.held endpoint target index slot stored
    (InboundSlot.isOccupied_of_running running) active (sameToken.trans named)
  have matching : (state.row endpoint target).matchesSample token generation = true :=
    InStreamLink.matchesSample_iff.mpr ⟨active, named.symm, generated.symm.trans sameGeneration⟩
  have runs : slot.isRunning = true := decide_eq_true running
  rw [InStreamLink.isCurrent, matching, stored, Option.map_some, runs] at stale
  exact nomatch stale

theorem OrderKept.released {index : Nat}
    {token : UInt32} {current : Bool} {change : InStreamCounters → InStreamCounters}
    (order : OrderKept state)
    (here : state.worker endpoint = .finishing link index token generation current)
    (other : catalog.Endpoint) (otherLink : catalog.Link) :
    RowOrder ((state.setRow endpoint link ((state.row endpoint link).release index)).count
      endpoint change) other otherLink := by
  have before := order.rows other otherLink
  by_cases same : (other, otherLink) = (endpoint, link)
  · obtain ⟨rfl, rfl⟩ := Prod.mk.inj same
    obtain ⟨slot, stored, running, _⟩ :=
      order.wellformed.holds other otherLink index token generation (by rw [here]; rfl)
    have row : ((state.setRow other otherLink ((state.row other otherLink).release index)).count
        other change).row other otherLink = (state.row other otherLink).release index :=
      row_setRow_self state other otherLink _
    have waiting := InStreamLink.waiting_release stored running
    refine ⟨before.increasing, before.consumed, ?_, ?_, ?_⟩
    · rw [row, waiting]
      exact before.waiting
    · rw [row]
      exact before.bounded
    · rw [row, waiting]
      exact before.ordered
  · exact before.setRow (row_setRow_of_ne _ _ _ _ same) rfl rfl rfl

theorem storesLast_of_orderSafe {frame : Decoded} {now : Tick} {value : Value}
    {admitted : InStreamLink Value (catalog.window endpoint)}
    (safe : orderSafe state (.data link endpoint frame now) = true)
    (ok : (state.row endpoint link).admitFrame catalog.ticksPerSecond frame.envelope value now =
      .ok admitted) : (state.row endpoint link).storesLast = true := by
  obtain ⟨_, _, named, _⟩ := InStreamLink.admitFrame_eq_ok ok
  simp only [orderSafe, named, bne_self_eq_false, Bool.false_or, Bool.and_eq_true] at safe
  exact safe.2

/-- One step that meets the condition keeps every row in order. -/
theorem OrderKept.rows_step (order : OrderKept state) (safe : orderSafe state label = true)
    (stepped : Stepped state label next) (endpoint : catalog.Endpoint) (link : catalog.Link) :
    RowOrder next endpoint link := by
  have before := order.rows endpoint link
  cases stepped with
  | @admittedInline _ target _ _ _ _ idle decoded ok inline change =>
    have resting := order.wellformed.inline target inline (by rw [idle]; nofun)
    refine RowOrder.admitted order.rows ok (storesLast_of_orderSafe safe ok) ?_ ?_ ?_ ?_
      (fun other otherLink token => ?_) endpoint link
    · exact row_setRow_self _ _ _ _
    · exact fun _ _ => row_setRow_of_ne _ _ _ _
    · rfl
    · rfl
    · by_cases same : other = target
      · subst same
        rw [resting]
        rw [worker_setWorker_self]
        rfl
      · show ((state.setWorker target .scanning).worker other).inHand _ _ = _
        rw [worker_setWorker_of_ne _ _ _ same]
  | admittedDeferred idle decoded ok deferred change =>
    refine RowOrder.admitted order.rows ok (storesLast_of_orderSafe safe ok) ?_ ?_ ?_ ?_
      (fun other otherLink token => ?_) endpoint link
    · exact row_setRow_self _ _ _ _
    · exact fun _ _ => row_setRow_of_ne _ _ _ _
    · rfl
    · rfl
    · rfl
  | closed | abandoned => exact before.closed
  | @installed succeeds target targetLink _ _ interval correlation phase =>
    have installs : Installs state (.service succeeds)
        (state.installStep target targetLink interval correlation) target targetLink :=
      ⟨_, _, _, _, _, rfl, phase, rfl⟩
    exact order.installed (installs.left (Bool.and_eq_true_iff.mp safe).1) phase endpoint link
  | @submissionFailed target targetLink envelope generation phase =>
    by_cases found : ((state.row target targetLink).submitted? envelope.frameSequence).isSome = true
    · refine RowOrder.withdrawn order.rows (order.wellformed.submitting _ _ _ _ phase) found
        ?_ ?_ ?_ ?_ ?_ endpoint link
      · exact row_setRow_self _ _ _ _
      · exact fun _ _ => row_setRow_of_ne _ _ _ _
      · exact if_pos found
      · rfl
      · rfl
    · have unchanged : (state.row target targetLink).withdraw envelope.frameSequence =
          state.row target targetLink := by
        obtain ⟨same, _⟩ | ⟨_, _, there, _⟩ :=
          (state.row target targetLink).withdraw_eq envelope.frameSequence
        · exact same
        · rw [there] at found
          exact absurd rfl found
      refine before.setRow ?_ (stream_congr (if_neg found) _ _) rfl rfl
      rw [unchanged]
      exact row_setRow_induction (motive := fun other otherLink row =>
        row = state.row other otherLink) endpoint link rfl fun _ => rfl
  | credited here => exact before.credited.setRow rfl rfl rfl rfl
  | workerCredited here =>
    refine before.credited.worker_moves _ _ (fun _ _ => ?_) fun token => ?_
    · rw [worker_creditStep, here]
      rfl
    · cases (state.creditStep _ _ _).2 <;> rfl
  | woken idle | rested idle =>
    exact before.worker_moves _ _ (fun _ _ => by rw [idle]; rfl) fun _ => rfl
  | took here found => exact RowOrder.took order.rows here found endpoint link
  | delivered here current =>
    refine RowOrder.delivered order.rows here current ?_ ?_ ?_ ?_ ?_ endpoint link
    · rfl
    · rfl
    · rfl
    · exact worker_setWorker_self _ _ _
    · exact fun _ => worker_setWorker_of_ne _ _ _
  | skipped here stale =>
    refine before.worker_moves _ _ (fun active same => ?_) fun _ => rfl
    subst same
    exact order.inHand_stale here stale active
  | released here change =>
    refine (order.released here endpoint link).worker_moves _ _ (fun _ _ => ?_) fun _ => rfl
    show (state.worker _).inHand _ _ = _
    rw [here]
    rfl
  | _ => exact before.setRow rfl rfl rfl rfl

theorem OrderKept.step (order : OrderKept state) (safe : orderSafe state label = true)
    (stepped : Stepped state label next) : OrderKept next where
  wellformed := order.wellformed.step stepped
  tokens := order.tokens.step order.wellformed stepped (Bool.and_eq_true_iff.mp safe).1
  held := order.held.step order.tokens stepped (Bool.and_eq_true_iff.mp safe).1
  rows := order.rows_step safe stepped

theorem rowOrder_initial (endpoint : catalog.Endpoint) (link : catalog.Link) :
    RowOrder ({} : InStreamRuntime catalog) endpoint link where
  increasing _ := Pairwise.nil
  consumed _ := nil_prefix
  waiting slot member := by
    obtain ⟨pending, index, stored⟩ := Pool.mem_select_iff.mp member
    rw [Pool.eq_of_get?_fill stored] at pending
    exact nomatch pending
  bounded active := nomatch active
  ordered active := nomatch active

theorem orderKept_initial : OrderKept ({} : InStreamRuntime catalog) where
  wellformed := wellformed_initial
  tokens := tokensIssued_initial
  held _ _ _ _ _ _ active := nomatch active
  rows := rowOrder_initial

/-! ### Whole runs -/

/-- In every run whose steps meet the condition, the samples of a stream have increasing
sequences and the values passed to the consumer are a prefix of those admitted and not taken
back. -/
theorem consumed_in_admission_order (reached : (inStreamMachine catalog).ReachableWhere
      (fun state label => orderSafe state label = true) {} state)
    (endpoint : catalog.Endpoint) (link : catalog.Link) (token : UInt32) :
    ((state.stream endpoint link token).Pairwise
      fun earlier later => earlier.sequence < later.sequence) ∧
    state.consumed endpoint link token <+:
      (state.kept endpoint link token).map Admission.value := by
  have order := reached.invariant OrderKept orderKept_initial
    fun _ _ _ order safe stepped => order.step safe (step_stepped stepped)
  exact ⟨(order.rows endpoint link).increasing token, (order.rows endpoint link).consumed token⟩

/-- Three samples in two slots, the third admitted once the first two have been consumed. -/
theorem consumed_in_admission_order_solo :
    ∃ state : InStreamRuntime Solo.wide,
      (state.kept Solo.endpoint Solo.link 1).map Admission.value = [7, 8, 9] ∧
        state.consumed Solo.endpoint Solo.link 1 = [7, 8] ∧
        state.consumed Solo.endpoint Solo.link 1 <+:
          (state.kept Solo.endpoint Solo.link 1).map Admission.value := by
  have reached := (inStreamMachine Solo.wide).reachableWhere_get
    (fun state label => orderSafe state label = true) {}
    (.clientHello Solo.link :: Solo.opens 1 7 ++
      [Solo.data 1 1 7 1, .service true, Solo.data 1 2 8 2, .service true, .wake Solo.endpoint] ++
      Solo.works 14 ++ [Solo.data 1 3 9 3, .service true]) (by decide) (by decide)
  exact ⟨_, by decide, by decide, (consumed_in_admission_order reached Solo.endpoint Solo.link 1).2⟩

/-- Without the condition a sample stored in a low slot overtakes one that waits in a higher
slot: with the first of three samples consumed and its slot refilled, the third is consumed
before the second. -/
theorem consumed_out_of_order :
    ∃ state : InStreamRuntime Solo.wide, (inStreamMachine Solo.wide).Reachable {} state ∧
        (state.stream Solo.endpoint Solo.link 1).map Admission.value = [7, 8, 9] ∧
        state.consumed Solo.endpoint Solo.link 1 = [7, 9, 8] := by
  exact ⟨((inStreamMachine Solo.wide).run {} (.clientHello Solo.link :: Solo.opens 1 7 ++
      [Solo.data 1 1 7 1, .service true, Solo.data 1 2 8 2, .service true, .wake Solo.endpoint] ++
      Solo.works 7 ++ [Solo.data 1 3 9 3, .service true] ++ Solo.works 14)).get (by decide),
    ⟨_, (Option.some_get _).symm⟩, by decide⟩

end InStreamRuntime

end Solar.Remote
