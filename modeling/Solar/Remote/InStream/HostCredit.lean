/-
This file joins the firmware's streams with the Python client at the other end
of each link. The client keeps its own count of credits for every target and
token: a Credit frame adds to it, `send_stream` takes one, an InStreamClosed
frame drops it. The two counts are joined only by the frames in flight, which a
link carries in order and without loss.

A Data frame the firmware turns away for its rate is answered with a new Credit
frame. One whose payload does not decode, or whose sequence is not above the
last admitted one, is not: the client has paid for it and nothing gives the
credit back. `agreementSafe` excludes these frames, the sends that the client
refuses after it has paid, the Credit frames that a full lane loses, and what
already breaks the firmware's own ledger.
-/

import Solar.Remote.InStream.Ledger

namespace Solar.Remote

open List Option Function

variable {Value : Type} {catalog : InStreamCatalog Value}

/-- The part of a client that inbound streams use. A target stands for its endpoint. -/
structure HostClient (catalog : InStreamCatalog Value) where
  maximumFrameSize : Nat := 1024
  maximumMessageSize : Nat := 4096
  sessionEpoch : UInt32 := 0
  frameSequence : UInt32 := 0
  credits : catalog.Endpoint → UInt32 → Nat := fun _ _ => 0

namespace HostClient

section

variable (client : HostClient catalog)

def setCredits (endpoint : catalog.Endpoint) (token : UInt32) (credits : Nat) :
    HostClient catalog :=
  { client with
    credits := update client.credits endpoint
      (update (client.credits endpoint) token credits) }

/-- The room for payload in one frame: the envelope and the checksum take 36 bytes. -/
def maximumPayload : Nat := client.maximumFrameSize - 36

/-- The number of frames a payload is sent in. -/
def fragments (payload : Bytes) : Nat :=
  if payload.length ≤ client.maximumPayload then 1
  else (payload.length + client.maximumPayload - 1) / client.maximumPayload

/-- Whether `_queue` accepts a payload. -/
def queues (payload : Bytes) : Bool :=
  payload.length ≤ client.maximumMessageSize && 0 < client.maximumPayload &&
    client.fragments payload ≤ 0xFF

/-- `send_stream`. The credit is taken before the payload is queued, and stays taken when the
queue refuses it. -/
def sendStream (endpoint : catalog.Endpoint) (payload : Bytes) (token : UInt32) :
    Option (HostClient catalog × Option Decoded) :=
  if client.credits endpoint token = 0 then none
  else
    let paid := client.setCredits endpoint token (client.credits endpoint token - 1)
    let envelope : Envelope := {
      kind := .data
      sessionEpoch := client.sessionEpoch
      frameSequence := client.frameSequence + 1
      requestId := token
      payloadSize := UInt16.ofNat payload.length
      reserved := 3 }
    if client.queues payload then
      some ({ paid with
        frameSequence := client.frameSequence + UInt32.ofNat (client.fragments payload) },
        some ⟨envelope, payload⟩)
    else some ({ paid with frameSequence := client.frameSequence + 1 }, none)

/-- The branches of `feed` for Credit and InStreamClosed. -/
def feed : StreamFrame catalog → HostClient catalog
  | .credit endpoint frame =>
      client.setCredits endpoint frame.grant.token
        (min 0xFFFF (client.credits endpoint frame.grant.token + frame.grant.credits.toNat))
  | .closed endpoint _ notice => client.setCredits endpoint notice.token 0

theorem credits_setCredits (endpoint other : catalog.Endpoint) (token named : UInt32)
    (credits : Nat) :
    (client.setCredits endpoint token credits).credits other named =
      if other = endpoint ∧ named = token then credits else client.credits other named := by
  simp only [setCredits]
  by_cases same : other = endpoint
  · subst same
    by_cases sameToken : named = token
    · subst sameToken
      simp
    · simp [sameToken]
  · simp [same]

end

end HostClient

/-- The link a frame is sent on. -/
def StreamFrame.link :
    StreamFrame catalog → catalog.Link
  | .credit _ frame => frame.link
  | .closed _ link _ => link

/-- The firmware, the client of each link, the Data frames on their way to the firmware, and how
many of the frames sent to each client it has taken. -/
structure CreditSystem (catalog : InStreamCatalog Value) where
  firmware : InStreamRuntime catalog := {}
  client : catalog.Link → HostClient catalog := fun _ => {}
  inbound : catalog.Link → List (catalog.Endpoint × Decoded) := fun _ => []
  received : catalog.Link → Nat := fun _ => 0

/-- What happens next. The firmware goes on with anything but a Data frame; a client sends a
sample, queues another frame or negotiates its limits anew; a link carries its oldest Data
frame to the service or its oldest stream frame to the client. -/
inductive CreditLabel (catalog : InStreamCatalog Value)
  | firmware (label : InStreamLabel catalog)
  | send (link : catalog.Link) (endpoint : catalog.Endpoint) (payload : Bytes) (token : UInt32)
  | queue (link : catalog.Link) (frames : UInt32)
  | negotiate (link : catalog.Link) (epoch : UInt32) (maximumFrame maximumMessage : Nat)
  | carry (link : catalog.Link) (now : Tick)
  | receive (link : catalog.Link)

def InStreamLabel.isData :
    InStreamLabel catalog → Bool
  | .data _ _ _ _ => true
  | _ => false

namespace CreditSystem

section

variable (system : CreditSystem catalog)

section

variable (link : catalog.Link)

/-- The frames a link carries to its client, in the order they were handed to it. -/
def sentOn : List (StreamFrame catalog) :=
  system.firmware.sent.filter fun frame => frame.link = link

/-- Those that have not arrived. -/
def toClient : List (StreamFrame catalog) :=
  (system.sentOn link).drop (system.received link)

/-- Replace the client of one link. -/
def setClient (client : HostClient catalog) : CreditSystem catalog :=
  { system with client := update system.client link client }

end

/-- One step of the system. -/
def step : CreditLabel catalog → Option (CreditSystem catalog)
  | .firmware label =>
      if label.isData then none
      else (system.firmware.step label).map fun firmware => { system with firmware }
  | .send link endpoint payload token =>
      ((system.client link).sendStream endpoint payload token).map fun sent =>
        { system.setClient link sent.1 with
          inbound := update system.inbound link
            (system.inbound link ++ sent.2.toList.map fun frame => (endpoint, frame)) }
  | .queue link frames =>
      let client := system.client link
      some (system.setClient link { client with frameSequence := client.frameSequence + frames })
  | .negotiate link epoch maximumFrame maximumMessage =>
      let client := system.client link
      some (system.setClient link { client with
        sessionEpoch := epoch
        maximumFrameSize := min client.maximumFrameSize maximumFrame
        maximumMessageSize := min client.maximumMessageSize maximumMessage })
  | .carry link now =>
      match system.inbound link with
      | [] => none
      | (endpoint, frame) :: rest =>
          if system.firmware.isIdle then
            some { system with
              firmware := (system.firmware.step (.data link endpoint frame now)).getD
                system.firmware
              inbound := update system.inbound link rest }
          else none
  | .receive link =>
      match system.toClient link with
      | [] => none
      | frame :: _ =>
          some { system.setClient link ((system.client link).feed frame) with
            received := update system.received link (system.received link + 1) }

end

end CreditSystem

def creditMachine (catalog : InStreamCatalog Value) :
    Transition.Machine (CreditSystem catalog) (CreditLabel catalog) :=
  ⟨CreditSystem.step⟩

/-! ### What a firmware step hands to the links -/

variable {link : catalog.Link}

namespace InStreamRuntime

variable {state next : InStreamRuntime catalog} {label : InStreamLabel catalog}

/-- The step that hands a Credit frame to its lane finds room. -/
def transmits (state : InStreamRuntime catalog) (label : InStreamLabel catalog) : Bool :=
  match label, state.service with
  | .service succeeds, .crediting _ (.transmitting _) => succeeds
  | .worker endpoint succeeds, _ =>
      match state.worker endpoint with
      | .crediting (.transmitting _) => succeeds
      | _ => true
  | _, _ => true

section

variable (state) (endpoint)

theorem sent_creditStep {succeeds : Bool} {phase : CreditPhase catalog.linkCount} :
    ∃ more, (state.creditStep endpoint succeeds phase).1.sent = state.sent ++ more := by
  cases phase with
  | transmitting frame =>
    cases succeeds with
    | true => exact ⟨_, rfl⟩
    | false => exact ⟨[], (append_nil _).symm⟩
  | _ => exact ⟨[], (append_nil _).symm⟩

theorem sent_closeRow {reason : InStreamCloseReason} {notified : Bool} :
    ∃ more, (state.closeRow endpoint link reason notified).sent = state.sent ++ more := by
  unfold closeRow
  split
  · cases notified with
    | true => exact ⟨_, rfl⟩
    | false => exact ⟨[], (append_nil _).symm⟩
  · exact ⟨[], (append_nil _).symm⟩

end

theorem Stepped.sent (stepped : Stepped state label next) :
    ∃ more, next.sent = state.sent ++ more := by
  cases stepped with
  | closed | abandoned => exact sent_closeRow state _
  | credited | workerCredited => exact sent_creditStep state _
  | _ => exact ⟨[], (append_nil _).symm⟩

variable {endpoint target : catalog.Endpoint} {targetLink : catalog.Link} {notice : InStreamClosed}

theorem noticed_closeRow {reason : InStreamCloseReason} {notified : Bool}
    (member : StreamFrame.closed target targetLink notice ∈
      (state.closeRow endpoint link reason notified).sent) :
    StreamFrame.closed target targetLink notice ∈ state.sent ∨
      (target, targetLink) = (endpoint, link) ∧ (state.row endpoint link).active = true ∧
        notice.token = (state.row endpoint link).token := by
  unfold closeRow at member
  split at member
  · rename_i active
    cases notified with
    | false => exact .inl member
    | true =>
      obtain before | last := mem_append.mp member
      · exact .inl before
      · obtain ⟨rfl, rfl, rfl⟩ := StreamFrame.closed.inj (mem_singleton.mp last)
        exact .inr ⟨rfl, active, rfl⟩
  · exact .inl member

variable {phase : CreditPhase catalog.linkCount}

theorem noticed_creditStep {succeeds : Bool}
    (member : StreamFrame.closed target targetLink notice ∈
      (state.creditStep endpoint succeeds phase).1.sent) :
    StreamFrame.closed target targetLink notice ∈ state.sent := by
  cases phase with
  | transmitting frame =>
    cases succeeds with
    | false => exact member
    | true =>
      obtain before | last := mem_append.mp member
      · exact before
      · exact nomatch mem_singleton.mp last
  | _ => exact member

theorem Stepped.noticed (stepped : Stepped state label next)
    (member : StreamFrame.closed target targetLink notice ∈ next.sent) :
    StreamFrame.closed target targetLink notice ∈ state.sent ∨
      (state.row target targetLink).active = true ∧
        notice.token = (state.row target targetLink).token ∧
        (next.row target targetLink).active = false := by
  cases stepped with
  | closed | abandoned =>
    obtain before | ⟨same, active, token⟩ := noticed_closeRow member
    · exact .inl before
    · obtain ⟨⟩ := same
      exact .inr ⟨active, token, active_closeRow state _ _ _ _⟩
  | credited | workerCredited => exact .inl (noticed_creditStep member)
  | _ => exact .inl member

theorem dropped_creditStep {succeeds : Bool}
    (room : ∀ frame, phase = .transmitting frame → succeeds = true) :
    (state.creditStep endpoint succeeds phase).1.dropped = state.dropped := by
  cases phase with
  | transmitting frame =>
    obtain rfl := room frame rfl
    rfl
  | _ => rfl

variable {state : InStreamRuntime catalog}

theorem dropped_closeRow {reason : InStreamCloseReason}
    {notified : Bool} : (state.closeRow endpoint link reason notified).dropped = state.dropped := by
  unfold closeRow
  split <;> rfl

theorem Stepped.dropped (stepped : Stepped state label next)
    (room : transmits state label = true) : next.dropped = state.dropped := by
  cases stepped with
  | closed | abandoned => exact dropped_closeRow
  | credited here | workerCredited here =>
    refine dropped_creditStep ?_
    rintro frame rfl
    simpa only [transmits, here] using room
  | _ => rfl

/-! ### The samples a stream has accounted for -/

/-- The samples of a stream that were admitted or turned away for their rate. -/
def processed (state : InStreamRuntime catalog) (endpoint : catalog.Endpoint)
    (link : catalog.Link) (token : UInt32) : Nat :=
  state.admitted endpoint link token + state.rateRejected endpoint link token

/-- Only a Data frame adds to the samples of a stream. -/
theorem Stepped.processed (stepped : Stepped state label next) (other : label.isData = false)
    (endpoint : catalog.Endpoint) (link : catalog.Link) (token : UInt32) :
    next.processed endpoint link token = state.processed endpoint link token := by
  have rejections : next.rateRejections = state.rateRejections := by
    obtain same | ⟨_, _, _, _, rfl, _⟩ := stepped.rateRejections
    · exact same
    · exact nomatch other
  have rejected : next.rateRejected endpoint link token =
      state.rateRejected endpoint link token := by
    rw [InStreamRuntime.rateRejected, rejections, InStreamRuntime.rateRejected]
  have admits : next.admitted endpoint link token = state.admitted endpoint link token := by
    obtain same | ⟨_, _, _, _, _, _, rfl, _⟩ | ⟨target, targetLink, envelope, _, _, _, _, changed⟩ :=
      stepped.admissions
    · rw [admitted, same, admitted]
    · exact nomatch other
    · have counted : InStreamRuntime.spent { state with
          admissions := withdrawFrom state.admissions target targetLink envelope } false endpoint
          link token = state.spent false endpoint link token :=
        spent_withdrawFrom target endpoint targetLink link envelope token
      rw [admitted, changed]
      exact counted
  rw [InStreamRuntime.processed, admits, rejected, InStreamRuntime.processed]

theorem processed_admitted {admission : Admission catalog}
    (grown : next.admissions = state.admissions ++ [admission])
    (same : next.rateRejections = state.rateRejections) (endpoint : catalog.Endpoint)
    (link : catalog.Link) (token : UInt32) :
    next.processed endpoint link token = state.processed endpoint link token +
      if admission.endpoint = endpoint ∧ admission.link = link ∧ admission.token = token then 1
      else 0 := by
  simp only [InStreamRuntime.processed, admitted, rateRejected, grown, same, countP_append,
    countP_singleton, decide_eq_true_eq]
  omega

theorem processed_rateRejected {rejection : catalog.Row × UInt32}
    (same : next.admissions = state.admissions)
    (grown : next.rateRejections = state.rateRejections ++ [rejection])
    (endpoint : catalog.Endpoint) (link : catalog.Link) (token : UInt32) :
    next.processed endpoint link token = state.processed endpoint link token +
      if rejection = ((endpoint, link), token) then 1 else 0 := by
  simp only [InStreamRuntime.processed, admitted, rateRejected, grown, same, countP_append,
    countP_singleton, decide_eq_true_eq]
  omega

theorem admitFrame_accepts {window : Nat} {row : InStreamLink Value window} {envelope : Envelope}
    {value : Value} {now : Tick} {ticksPerSecond : Nat} (active : row.active = true)
    (named : row.token = envelope.requestId) (token : row.token ≠ 0) (credit : row.credits ≠ 0)
    (sequence : row.lastSequence < envelope.frameSequence)
    (free : (row.slots.find? InboundSlot.isFree).isSome = true) :
    (∃ admitted, row.admitFrame ticksPerSecond envelope value now = .ok admitted) ∨
      row.admitFrame ticksPerSecond envelope value now = .error .rate := by
  obtain ⟨⟨index, slot⟩, found⟩ := isSome_iff_exists.mp free
  have current : ¬(row.active = false ∨ envelope.requestId = 0 ∨
      row.token ≠ envelope.requestId) := by
    rintro (inactive | zero | different)
    · exact nomatch active.symm.trans inactive
    · exact token (named.trans zero)
    · exact different named
  simp only [InStreamLink.admitFrame, if_neg current, if_neg credit,
    if_neg (UInt32.not_le.mpr sequence), found]
  split
  · exact .inr rfl
  · exact .inl ⟨_, rfl⟩

/-- What the run remembers of a Data frame. -/
theorem memory_dataStep {frame : Decoded} {now : Tick} :
    ((state.dataStep link endpoint frame now).admissions = state.admissions ∧
      (state.dataStep link endpoint frame now).rateRejections = state.rateRejections ∧
      ∀ value, (catalog.traits endpoint).decode frame.payload = some value →
        ∃ rejection, rejection ≠ .rate ∧
          (state.row endpoint link).admitFrame catalog.ticksPerSecond frame.envelope value now =
            .error rejection) ∨
    (∃ value admitted,
      (state.row endpoint link).admitFrame catalog.ticksPerSecond frame.envelope value now =
        .ok admitted ∧
      (state.dataStep link endpoint frame now).admissions = state.admissions ++
        [⟨endpoint, link, frame.envelope.requestId, frame.envelope.frameSequence, value, false⟩] ∧
      (state.dataStep link endpoint frame now).rateRejections = state.rateRejections) ∨
    ∃ value, (state.row endpoint link).admitFrame catalog.ticksPerSecond frame.envelope value now =
        .error .rate ∧
      (state.dataStep link endpoint frame now).admissions = state.admissions ∧
      (state.dataStep link endpoint frame now).rateRejections =
        state.rateRejections ++ [((endpoint, link), frame.envelope.requestId)] := by
  simp only [dataStep]
  split
  · rename_i undecoded
    refine .inl ⟨rfl, rfl, fun value decoded => ?_⟩
    rw [undecoded] at decoded
    cases decoded
  · rename_i value decoded
    split
    · rename_i rejection failed
      split
      · rename_i rate
        subst rate
        exact .inr (.inr ⟨value, failed, rfl, rfl⟩)
      · rename_i notRate
        refine .inl ⟨rfl, rfl, fun other same => ⟨rejection, notRate, ?_⟩⟩
        rw [decoded] at same
        exact some.inj same ▸ failed
    · rename_i admitted stored
      split
      · exact .inr (.inl ⟨value, admitted, stored, rfl, rfl⟩)
      · exact .inr (.inl ⟨value, admitted, stored, rfl, rfl⟩)

/-- What a Data frame adds: one sample to the stream it names, if it is accepted. -/
theorem processed_dataStep (link : catalog.Link) (endpoint : catalog.Endpoint) (frame : Decoded)
    (now : Tick) (wellformed : Wellformed state)
    (accepted : (state.row endpoint link).active = true →
      (state.row endpoint link).token = frame.envelope.requestId →
        ((catalog.traits endpoint).decode frame.payload).isSome = true ∧
          (state.row endpoint link).credits ≠ 0 ∧
          (state.row endpoint link).lastSequence < frame.envelope.frameSequence ∧
          ((state.row endpoint link).slots.find? InboundSlot.isFree).isSome = true)
    (other : catalog.Endpoint) (otherLink : catalog.Link)
    (active : (state.row other otherLink).active = true) :
    (state.dataStep link endpoint frame now).processed other otherLink
        (state.row other otherLink).token =
      state.processed other otherLink (state.row other otherLink).token +
        if (endpoint, link) = (other, otherLink) ∧
            frame.envelope.requestId = (state.row other otherLink).token then 1 else 0 := by
  obtain ⟨admissions, rejections, failed⟩ | ⟨value, admitted, _, grown, rejections⟩ |
    ⟨value, _, admissions, grown⟩ := memory_dataStep
  · rw [InStreamRuntime.processed, admitted, rateRejected, admissions, rejections, if_neg]
    · rfl
    · rintro ⟨same, named⟩
      obtain ⟨⟩ := same
      obtain ⟨decodes, credit, sequence, free⟩ := accepted active named.symm
      obtain ⟨value, decoded⟩ := isSome_iff_exists.mp decodes
      obtain ⟨rejection, notRate, rejected⟩ := failed value decoded
      obtain ⟨_, ok⟩ | rate := admitFrame_accepts active named.symm
        (wellformed.named _ _ active).1 credit sequence free
      · cases rejected.symm.trans ok
      · exact notRate (Except.error.inj (rejected.symm.trans rate))
  · rw [processed_admitted grown rejections]
    simp [and_assoc]
  · rw [processed_rateRejected admissions grown]
    simp

end InStreamRuntime

/-! ### The balance of the two ends -/

namespace CreditSystem

open InStreamRuntime

variable {system : CreditSystem catalog} {label : CreditLabel catalog}

/-- The credits that frames announce to a stream, granted or announced again. -/
def carried (endpoint : catalog.Endpoint) (link : catalog.Link) (token : UInt32)
    (frames : List (StreamFrame catalog)) : Nat :=
  (frames.map fun frame => frame.creditsFor false endpoint link token +
    frame.creditsFor true endpoint link token).sum

section

variable (system : CreditSystem catalog)

section

variable (endpoint : catalog.Endpoint) (link : catalog.Link)

/-- The Data frames of a stream in flight. -/
def samplesInFlight (token : UInt32) : Nat :=
  (system.inbound link).countP fun sample =>
    sample.1 = endpoint ∧ sample.2.envelope.requestId = token

/-- The credits of a stream in flight. -/
def creditsInFlight (token : UInt32) : Nat :=
  carried endpoint link token (system.toClient link)

/-- The credits a firmware thread is about to announce. -/
def unsent : Nat :=
  system.firmware.unsent false endpoint link + system.firmware.unsent true endpoint link

end

/-- The steps that keep the agreement. The firmware keeps its own ledger and its lanes have room
for a Credit frame; the client's queue accepts what it sends; a Data frame that names the
stream of its endpoint decodes, has a higher sequence than the last one admitted and finds a
free slot. -/
def agreementSafe (label : CreditLabel catalog) : Bool :=
  match label with
  | .firmware label => ledgerSafe system.firmware label && transmits system.firmware label
  | .send link _ payload _ => (system.client link).queues payload
  | .carry link _ =>
      match system.inbound link with
      | [] => true
      | (endpoint, frame) :: _ =>
          let row := system.firmware.row endpoint link
          !row.active || row.token != frame.envelope.requestId ||
            (((catalog.traits endpoint).decode frame.payload).isSome &&
              decide (row.lastSequence < frame.envelope.frameSequence) &&
              (row.slots.find? InboundSlot.isFree).isSome)
  | _ => true

end

/-- What the agreement rests on. -/
structure AgreementKept (system : CreditSystem catalog) : Prop where
  ledger : LedgerKept system.firmware
  undropped : system.firmware.dropped = []
  /-- A stream whose end has been announced is not active again. -/
  ended : ∀ endpoint link notice, StreamFrame.closed endpoint link notice ∈ system.firmware.sent →
    Issued system.firmware notice.token ∧ ((system.firmware.row endpoint link).active = true →
        notice.token ≠ (system.firmware.row endpoint link).token)
  held : ∀ link endpoint token, (system.client link).credits endpoint token ≠ 0 →
    Issued system.firmware token
  flying : ∀ link, ∀ sample ∈ system.inbound link,
    Issued system.firmware sample.2.envelope.requestId
  arrived : ∀ link, system.received link ≤ (system.sentOn link).length
  /-- What the client holds, what it has sent and what the firmware has accounted for is what
  the client has been given. -/
  paid : ∀ endpoint link, (system.firmware.row endpoint link).active = true →
    (system.client link).credits endpoint (system.firmware.row endpoint link).token +
        system.samplesInFlight endpoint link (system.firmware.row endpoint link).token +
        system.firmware.processed endpoint link (system.firmware.row endpoint link).token =
      carried endpoint link (system.firmware.row endpoint link).token
        ((system.sentOn link).take (system.received link))

theorem carried_append (endpoint : catalog.Endpoint) (link : catalog.Link) (token : UInt32)
    (first second : List (StreamFrame catalog)) :
    carried endpoint link token (first ++ second) =
      carried endpoint link token first + carried endpoint link token second := by
  rw [carried, map_append, sum_append]
  rfl

variable {endpoint : catalog.Endpoint} {token : UInt32}

theorem creditsFor_of_link {restored : Bool} {frame : StreamFrame catalog}
    (different : frame.link ≠ link) : frame.creditsFor restored endpoint link token = 0 := by
  cases frame with
  | credit target frame => exact if_neg fun both => different both.2.2.1
  | closed target targetLink notice => rfl

theorem carried_filter (endpoint : catalog.Endpoint) (link : catalog.Link) (token : UInt32)
    (frames : List (StreamFrame catalog)) :
    carried endpoint link token (frames.filter fun frame => frame.link = link) =
      carried endpoint link token frames := by
  induction frames with
  | nil => rfl
  | cons frame rest ih =>
    by_cases here : frame.link = link
    · rw [filter_cons_of_pos (by simpa using here)]
      exact congrArg (_ + ·) ih
    · rw [filter_cons_of_neg (by simpa using here), ih]
      show _ = frame.creditsFor false endpoint link token +
        frame.creditsFor true endpoint link token + carried endpoint link token rest
      rw [creditsFor_of_link here, creditsFor_of_link here, Nat.zero_add]

theorem carried_sent (firmware : InStreamRuntime catalog) (endpoint : catalog.Endpoint)
    (link : catalog.Link) (token : UInt32) :
    carried endpoint link token firmware.sent = firmware.announced false endpoint link token +
        firmware.announced true endpoint link token := by
  unfold carried announced
  induction firmware.sent with
  | nil => rfl
  | cons frame rest ih =>
    simp only [map_cons, sum_cons, ih]
    omega

section

variable (kept : AgreementKept system)

include kept

/-- The balance of an active stream. -/
theorem AgreementKept.balance (active : (system.firmware.row endpoint link).active = true) :
    (system.client link).credits endpoint (system.firmware.row endpoint link).token +
        system.samplesInFlight endpoint link (system.firmware.row endpoint link).token +
        system.creditsInFlight endpoint link (system.firmware.row endpoint link).token +
        system.unsent endpoint link =
      (system.firmware.row endpoint link).credits.toNat := by
  have grants := kept.ledger.rows false endpoint link active
  have restores := kept.ledger.rows true endpoint link active
  have paid := kept.paid endpoint link active
  have all : carried endpoint link (system.firmware.row endpoint link).token
        ((system.sentOn link).take (system.received link)) +
      system.creditsInFlight endpoint link (system.firmware.row endpoint link).token =
      system.firmware.announced false endpoint link (system.firmware.row endpoint link).token +
        system.firmware.announced true endpoint link (system.firmware.row endpoint link).token := by
    rw [creditsInFlight, toClient, ← carried_append, take_append_drop, sentOn, carried_filter,
      carried_sent]
  simp only [offered, spent, granted, kept.undropped, map_nil, sum_nil,
    Bool.false_eq_true, if_true, if_false] at grants restores
  unfold processed at paid
  unfold unsent
  omega

/-! ### One step -/

omit kept in
theorem carried_take_le (endpoint : catalog.Endpoint) (link : catalog.Link) (token : UInt32)
    (frames : List (StreamFrame catalog)) (count : Nat) :
    carried endpoint link token (frames.take count) ≤ carried endpoint link token frames := by
  have split := carried_append endpoint link token (frames.take count) (frames.drop count)
  rw [take_append_drop] at split
  omega

/-- Neither end knows a token that has not been handed out. -/
theorem AgreementKept.unused (left : system.firmware.nextToken ≠ 0) (endpoint : catalog.Endpoint)
    (link : catalog.Link) :
    (system.client link).credits endpoint system.firmware.issuedToken = 0 ∧
      system.samplesInFlight endpoint link system.firmware.issuedToken = 0 ∧
      system.firmware.processed endpoint link system.firmware.issuedToken = 0 ∧
      carried endpoint link system.firmware.issuedToken
        ((system.sentOn link).take (system.received link)) = 0 := by
  obtain ⟨grants, admits⟩ := kept.ledger.tokens.unrecorded false left endpoint link
  obtain ⟨restores, rejects⟩ := kept.ledger.tokens.unrecorded true left endpoint link
  have all := carried_sent system.firmware endpoint link system.firmware.issuedToken
  have part := carried_take_le endpoint link system.firmware.issuedToken (system.sentOn link)
    (system.received link)
  rw [sentOn, carried_filter] at part
  simp only [offered, spent, Bool.false_eq_true, if_true, if_false] at grants admits restores rejects
  refine ⟨?_, ?_, ?_, ?_⟩
  · by_contra some
    exact ne_issuedToken left (kept.held link endpoint _ some) rfl
  · refine countP_eq_zero.mpr fun sample member named => ?_
    exact ne_issuedToken left (kept.flying link sample member) (of_decide_eq_true named).2
  · unfold processed
    omega
  · rw [sentOn]
    omega

/-- What a firmware step keeps of the agreement, a Data frame's included. -/
theorem AgreementKept.firmware_step {firmware : InStreamRuntime catalog}
    {label : InStreamLabel catalog} (stepped : Stepped system.firmware label firmware)
    (safe : ledgerSafe system.firmware label = true) (room : transmits system.firmware label = true)
    (inbound : catalog.Link → List (catalog.Endpoint × Decoded))
    (fewer : ∀ link, ∀ sample ∈ inbound link, sample ∈ system.inbound link)
    (paid : ∀ endpoint link, (system.firmware.row endpoint link).active = true →
      (firmware.row endpoint link).active = true →
      (firmware.row endpoint link).token = (system.firmware.row endpoint link).token →
      (inbound link).countP (fun sample => sample.1 = endpoint ∧
          sample.2.envelope.requestId = (system.firmware.row endpoint link).token) +
          firmware.processed endpoint link (system.firmware.row endpoint link).token =
        system.samplesInFlight endpoint link (system.firmware.row endpoint link).token +
          system.firmware.processed endpoint link (system.firmware.row endpoint link).token)
    (nothing : ∀ endpoint link, Installs system.firmware label firmware endpoint link →
      inbound = system.inbound ∧ ∀ token, firmware.processed endpoint link token =
        system.firmware.processed endpoint link token) :
    AgreementKept { system with firmware, inbound } := by
  have left := tokensLeft_of_ledgerSafe safe
  obtain ⟨more, grown⟩ := stepped.sent
  have sentOn : ∀ link, ({ system with firmware, inbound } :
      CreditSystem catalog).sentOn link = system.sentOn link ++ more.filter fun frame =>
        frame.link = link := by
    intro link
    rw [CreditSystem.sentOn, grown, filter_append]
    rfl
  have taken : ∀ link, (({ system with firmware, inbound } :
      CreditSystem catalog).sentOn link).take (system.received link) =
        (system.sentOn link).take (system.received link) := by
    intro link
    rw [sentOn, take_append_of_le_length (kept.arrived link)]
  refine ⟨kept.ledger.step safe stepped, ?_, ?_, ?_, ?_, ?_, ?_⟩
  · exact (stepped.dropped room).trans kept.undropped
  · intro endpoint link notice member
    obtain before | ⟨active, token, inactive⟩ := stepped.noticed member
    · obtain ⟨issued, apart⟩ := kept.ended endpoint link notice before
      refine ⟨stepped.issued left issued, fun active => ?_⟩
      obtain same | ⟨inactive, _⟩ | installs := stepped.header endpoint link
      · obtain ⟨sameActive, rest⟩ := Prod.mk.inj same
        rw [show (firmware.row endpoint link).token = _ from (Prod.mk.inj rest).1]
        exact apart (sameActive.symm.trans active)
      · exact nomatch active.symm.trans inactive
      · have remains := installs.left left
        obtain ⟨_, _, _, interval, correlation, _, _, rfl⟩ := installs
        have token : ((system.firmware.installStep endpoint link interval correlation).row endpoint
            link).token = system.firmware.issuedToken :=
          congrArg InStreamLink.token (row_setRow_self system.firmware endpoint link _)
        exact token ▸ ne_issuedToken remains issued
    · refine ⟨stepped.issued left (token ▸ kept.ledger.tokens.rows endpoint link active), ?_⟩
      exact fun live => nomatch live.symm.trans inactive
  · exact fun link endpoint token some =>
      stepped.issued left (kept.held link endpoint token some)
  · exact fun link sample member =>
      stepped.issued left (kept.flying link sample (fewer link sample member))
  · intro link
    rw [sentOn, length_append]
    exact Nat.le_add_right_of_le (kept.arrived link)
  · intro endpoint link active
    show (system.client link).credits endpoint (firmware.row endpoint link).token +
      (inbound link).countP _ + firmware.processed endpoint link (firmware.row endpoint link).token =
        carried endpoint link (firmware.row endpoint link).token _
    rw [taken]
    obtain same | ⟨inactive, _⟩ | installs := stepped.header endpoint link
    · obtain ⟨sameActive, rest⟩ := Prod.mk.inj same
      have sameToken : (firmware.row endpoint link).token =
          (system.firmware.row endpoint link).token := (Prod.mk.inj rest).1
      have before : (system.firmware.row endpoint link).active = true :=
        sameActive.symm.trans active
      have moved := paid endpoint link before active sameToken
      have total := kept.paid endpoint link before
      rw [sameToken]
      omega
    · exact nomatch active.symm.trans inactive
    · have remains := installs.left left
      obtain ⟨rfl, processed⟩ := nothing endpoint link installs
      obtain ⟨_, _, _, interval, correlation, _, _, rfl⟩ := installs
      have token : ((system.firmware.installStep endpoint link interval correlation).row endpoint
          link).token = system.firmware.issuedToken :=
        congrArg InStreamLink.token (row_setRow_self system.firmware endpoint link _)
      obtain ⟨credits, samples, processedNone, given⟩ := kept.unused remains endpoint link
      unfold samplesInFlight at samples
      rw [token, processed, credits, samples, processedNone, given]

omit kept in
theorem client_setClient_self (system : CreditSystem catalog) (link : catalog.Link)
    (client : HostClient catalog) : (system.setClient link client).client link = client :=
  update_self _ _ _

omit kept in
theorem client_setClient_of_ne {other : catalog.Link} (different : other ≠ link)
    (client : HostClient catalog) :
    (system.setClient link client).client other = system.client other :=
  update_of_ne different _ _

/-- A client step that leaves the firmware alone. -/
theorem AgreementKept.client_step (client : catalog.Link → HostClient catalog)
    (inbound : catalog.Link → List (catalog.Endpoint × Decoded)) (received : catalog.Link → Nat)
    (held : ∀ link endpoint token, (client link).credits endpoint token ≠ 0 →
      Issued system.firmware token)
    (flying : ∀ link, ∀ sample ∈ inbound link, Issued system.firmware sample.2.envelope.requestId)
    (arrived : ∀ link, received link ≤ (system.sentOn link).length)
    (paid : ∀ endpoint link, (system.firmware.row endpoint link).active = true →
      (client link).credits endpoint (system.firmware.row endpoint link).token +
          (inbound link).countP (fun sample => sample.1 = endpoint ∧
            sample.2.envelope.requestId = (system.firmware.row endpoint link).token) +
          carried endpoint link (system.firmware.row endpoint link).token
            ((system.sentOn link).take (system.received link)) =
        (system.client link).credits endpoint (system.firmware.row endpoint link).token +
          system.samplesInFlight endpoint link (system.firmware.row endpoint link).token +
          carried endpoint link (system.firmware.row endpoint link).token
            ((system.sentOn link).take (received link))) :
    AgreementKept { system with client, inbound, received } := by
  refine ⟨kept.ledger, kept.undropped, kept.ended, held, flying, arrived, ?_⟩
  intro endpoint link active
  have before := kept.paid endpoint link active
  have moved := paid endpoint link active
  show (client link).credits endpoint (system.firmware.row endpoint link).token +
      (inbound link).countP (fun sample => sample.1 = endpoint ∧
        sample.2.envelope.requestId = (system.firmware.row endpoint link).token) +
      system.firmware.processed endpoint link (system.firmware.row endpoint link).token =
    carried endpoint link (system.firmware.row endpoint link).token
      ((system.sentOn link).take (received link))
  omega

/-- The client of one link changes its credits and takes one more frame. -/
theorem AgreementKept.receive {frame : StreamFrame catalog} {rest : List (StreamFrame catalog)}
    (waiting : system.toClient link = frame :: rest) :
    AgreementKept { system.setClient link ((system.client link).feed frame) with
      received := update system.received link (system.received link + 1) } := by
  have bound : system.received link < (system.sentOn link).length := by
    have nonempty : ((system.sentOn link).drop (system.received link)).length ≠ 0 := by
      rw [show (system.sentOn link).drop (system.received link) = frame :: rest from waiting]
      exact Nat.succ_ne_zero _
    rw [length_drop] at nonempty
    omega
  have here : (system.sentOn link)[system.received link] = frame := by
    have first := drop_eq_getElem_cons bound
    rw [show (system.sentOn link).drop (system.received link) = frame :: rest from waiting] at first
    exact (cons.inj first).1.symm
  have member : frame ∈ system.sentOn link := here ▸ getElem_mem bound
  obtain ⟨sent, sameLink⟩ := mem_filter.mp member
  have onLink : frame.link = link := of_decide_eq_true sameLink
  have grown : (system.sentOn link).take (system.received link + 1) =
      (system.sentOn link).take (system.received link) ++ [frame] := by
    rw [take_succ_eq_append_getElem bound, here]
  refine kept.client_step _ system.inbound _ ?_ kept.flying ?_ ?_
  · intro other endpoint token some
    by_cases same : other = link
    · subst same
      rw [client_setClient_self] at some
      cases frame with rw [HostClient.feed, HostClient.credits_setCredits] at some
      | credit target grant =>
        split at some
        · rename_i named
          exact named.2 ▸ kept.ledger.tokens.sent target grant sent
        · exact kept.held other endpoint token some
      | closed target targetLink notice =>
        split at some
        · exact absurd rfl some
        · exact kept.held other endpoint token some
    · rw [client_setClient_of_ne same] at some
      exact kept.held other endpoint token some
  · intro other
    by_cases same : other = link
    · subst same
      rw [update_self]
      exact bound
    · rw [update_of_ne same]
      exact kept.arrived other
  · intro endpoint other active
    by_cases same : other = link
    · subst same
      rw [client_setClient_self, update_self, grown, carried_append]
      have balance := kept.balance active
      have carries : carried endpoint other (system.firmware.row endpoint other).token [frame] ≤
          system.creditsInFlight endpoint other (system.firmware.row endpoint other).token := by
        rw [creditsInFlight, waiting]
        have split := carried_append endpoint other (system.firmware.row endpoint other).token
          [frame] rest
        rw [singleton_append] at split
        omega
      have small := (system.firmware.row endpoint other).credits.toNat_lt
      have fed : ((system.client other).feed frame).credits endpoint
          (system.firmware.row endpoint other).token =
          (system.client other).credits endpoint (system.firmware.row endpoint other).token +
            carried endpoint other (system.firmware.row endpoint other).token [frame] := by
        cases frame with
        | credit target grant =>
          have frameLink : grant.link = other := onLink
          have worth : carried endpoint other (system.firmware.row endpoint other).token
              [StreamFrame.credit target grant] =
              if endpoint = target ∧ (system.firmware.row endpoint other).token =
                grant.grant.token then grant.grant.credits.toNat else 0 := by
            cases restores : grant.restored <;>
              simp [carried, StreamFrame.creditsFor, frameLink, restores, eq_comm (a := target),
                eq_comm (a := grant.grant.token)]
          rw [HostClient.feed, HostClient.credits_setCredits, worth]
          rw [worth] at carries
          split
          · rename_i named
            rw [if_pos named] at carries
            obtain ⟨rfl, sameToken⟩ := named
            rw [← sameToken]
            exact Nat.min_eq_right (by omega)
          · rfl
        | closed target targetLink notice =>
          have frameLink : targetLink = other := onLink
          subst frameLink
          rw [HostClient.feed, HostClient.credits_setCredits, if_neg]
          · rfl
          · rintro ⟨rfl, sameToken⟩
            exact (kept.ended endpoint targetLink notice sent).2 active sameToken.symm
      unfold samplesInFlight
      omega
    · rw [client_setClient_of_ne same, update_of_ne same]
      rfl

omit kept in
theorem sendStream_eq_some {client paid : HostClient catalog} {payload : Bytes}
    {frame : Option Decoded} (queues : client.queues payload = true)
    (sent : client.sendStream endpoint payload token = some (paid, frame)) :
    client.credits endpoint token ≠ 0 ∧ paid.credits = (client.setCredits endpoint token
        (client.credits endpoint token - 1)).credits ∧
      ∃ data : Decoded, frame = some data ∧ data.envelope.requestId = token := by
  simp only [HostClient.sendStream, queues, if_true] at sent
  split at sent
  · exact nomatch sent
  · rename_i some
    obtain ⟨⟩ := sent
    exact ⟨some, rfl, _, rfl, rfl⟩

/-- A sample that the host sends takes one of its credits along. -/
theorem AgreementKept.send {payload : Bytes} {paid : HostClient catalog} {frame : Option Decoded}
    (queues : (system.client link).queues payload = true)
    (sent : (system.client link).sendStream endpoint payload token = some (paid, frame)) :
    AgreementKept { system.setClient link paid with
      inbound := update system.inbound link
        (system.inbound link ++ frame.toList.map fun frame => (endpoint, frame)) } := by
  obtain ⟨some, credits, data, rfl, named⟩ := sendStream_eq_some queues sent
  refine kept.client_step _ _ system.received ?_ ?_ kept.arrived ?_
  · intro other target targetToken positive
    by_cases same : other = link
    · subst same
      rw [client_setClient_self, credits, HostClient.credits_setCredits] at positive
      split at positive
      · rename_i both
        exact kept.held other endpoint token some |> (both.2 ▸ ·)
      · exact kept.held other target targetToken positive
    · rw [client_setClient_of_ne same] at positive
      exact kept.held other target targetToken positive
  · intro other sample member
    by_cases same : other = link
    · subst same
      rw [update_self] at member
      obtain before | new := mem_append.mp member
      · exact kept.flying other sample before
      · obtain ⟨_, inside, rfl⟩ := mem_map.mp new
        obtain rfl := Option.mem_toList.mp inside |> Option.some.inj
        exact named ▸ kept.held other endpoint token some
    · rw [update_of_ne same] at member
      exact kept.flying other sample member
  · intro target other active
    by_cases same : other = link
    · subst same
      rw [client_setClient_self, update_self, credits, HostClient.credits_setCredits, countP_append]
      show _ + (_ + countP _ [(endpoint, data)]) + _ = _
      rw [countP_singleton]
      simp only [named, decide_eq_true_eq]
      unfold samplesInFlight
      by_cases this : target = endpoint ∧ (system.firmware.row target other).token = token
      · obtain ⟨rfl, sameToken⟩ := this
        rw [if_pos ⟨rfl, sameToken⟩, if_pos ⟨rfl, sameToken.symm⟩, sameToken]
        omega
      · rw [if_neg this, if_neg fun both => this ⟨both.1.symm, both.2.symm⟩]
        rfl
    · rw [client_setClient_of_ne same, update_of_ne same]
      rfl

/-- A Data frame reaches the service. -/
theorem AgreementKept.carry {now : Tick} {frame : Decoded}
    {rest : List (catalog.Endpoint × Decoded)}
    (safe : agreementSafe system (.carry link now) = true)
    (waiting : system.inbound link = (endpoint, frame) :: rest)
    (idle : system.firmware.isIdle = true) :
    AgreementKept { system with
      firmware := (system.firmware.step (.data link endpoint frame now)).getD system.firmware
      inbound := update system.inbound link rest } := by
  have fewer : ∀ other, ∀ sample ∈ update system.inbound link rest other,
      sample ∈ system.inbound other := by
    intro other sample member
    by_cases same : other = link
    · subst same
      rw [update_self] at member
      rw [waiting]
      exact mem_cons_of_mem _ member
    · rw [update_of_ne same] at member
      exact member
  have shorter : ∀ target other token,
      (update system.inbound link rest other).countP (fun sample => sample.1 = target ∧
          sample.2.envelope.requestId = token) +
        (if (endpoint, link) = (target, other) ∧ frame.envelope.requestId = token then 1 else 0) =
      system.samplesInFlight target other token := by
    intro target other token
    unfold samplesInFlight
    by_cases same : other = link
    · subst same
      rw [update_self, waiting, countP_cons]
      simp
    · rw [update_of_ne same, if_neg fun both => same (Prod.mk.inj both.1).2.symm]
      rfl
  by_cases enabled : system.firmware.sessionActive link = true ∧ catalog.control link = true
  · have taken : system.firmware.step (.data link endpoint frame now) =
        some (system.firmware.dataStep link endpoint frame now) := by
      simp [InStreamRuntime.step, idle, enabled.1, enabled.2]
    rw [taken]
    refine kept.firmware_step (step_stepped taken) rfl rfl _ fewer ?_ ?_
    · intro target other active _ _
      have moved := processed_dataStep link endpoint frame now kept.ledger.wellformed
        (fun live named => ?_) target other active
      · have fewerSamples := shorter target other (system.firmware.row target other).token
        omega
      · have positive : (system.firmware.row endpoint link).credits ≠ 0 := by
          intro none
          have balance := kept.balance live
          have sample := shorter endpoint link (system.firmware.row endpoint link).token
          rw [if_pos ⟨rfl, named.symm⟩] at sample
          rw [none] at balance
          have zero : (0 : UInt16).toNat = 0 := rfl
          omega
        simp only [agreementSafe, waiting, live, named, Bool.not_true, bne_self_eq_false,
          Bool.false_or, Bool.and_eq_true, decide_eq_true_eq] at safe
        exact ⟨safe.1.1, positive, safe.1.2, safe.2⟩
    · rintro _ _ ⟨_, _, _, _, _, other, _⟩
      cases other
  · have refused : system.firmware.step (.data link endpoint frame now) = none := by
      simp [InStreamRuntime.step, enabled]
    rw [refused]
    refine kept.client_step system.client _ system.received kept.held
      (fun other sample member => kept.flying other sample (fewer other sample member))
      kept.arrived fun target other active => ?_
    have same := shorter target other (system.firmware.row target other).token
    rw [if_neg, Nat.add_zero] at same
    · rw [same]
    · rintro ⟨here, _⟩
      obtain ⟨⟩ := here
      refine enabled ⟨?_, (kept.ledger.wellformed.named _ _ active).2⟩
      by_contra ended
      have inactive := kept.ledger.wellformed.closed endpoint link (Bool.eq_false_iff.mpr ended)
      cases active.symm.trans inactive

theorem AgreementKept.same_credits {client : HostClient catalog}
    (same : client.credits = (system.client link).credits) :
    AgreementKept (system.setClient link client) := by
  have credits : ∀ other, (update system.client link client other).credits =
      (system.client other).credits := by
    intro other
    by_cases here : other = link
    · subst here
      rw [update_self, same]
    · rw [update_of_ne here]
  refine kept.client_step _ system.inbound system.received (fun other endpoint token some => ?_)
    kept.flying kept.arrived fun endpoint other _ => ?_
  · rw [credits] at some
    exact kept.held other endpoint token some
  · rw [credits]
    rfl

/-- Every safe step of either side keeps the agreement. -/
theorem AgreementKept.step {next : CreditSystem catalog} (safe : agreementSafe system label = true)
    (stepped : system.step label = some next) : AgreementKept next := by
  cases label with
  | firmware label =>
    simp only [step] at stepped
    split at stepped
    · exact nomatch stepped
    · rename_i other
      obtain ⟨firmware, moved, rfl⟩ := map_eq_some_iff.mp stepped
      obtain ⟨ledger, room⟩ := Bool.and_eq_true_iff.mp safe
      have counted := (step_stepped moved).processed (Bool.eq_false_iff.mpr other)
      refine kept.firmware_step (step_stepped moved) ledger room system.inbound
        (fun _ _ member => member) (fun endpoint link _ _ _ => ?_) fun endpoint link _ => ?_
      · rw [counted]
        rfl
      · exact ⟨rfl, counted endpoint link⟩
  | send link endpoint payload token =>
    obtain ⟨⟨paid, frame⟩, sent, rfl⟩ := map_eq_some_iff.mp stepped
    exact kept.send safe sent
  | carry link now =>
    simp only [step] at stepped
    split at stepped
    · exact nomatch stepped
    · rename_i endpoint frame rest waiting
      split at stepped
      · rename_i idle
        cases stepped
        exact kept.carry safe waiting idle
      · exact nomatch stepped
  | receive link =>
    simp only [step] at stepped
    split at stepped
    · exact nomatch stepped
    · rename_i frame rest waiting
      cases stepped
      exact kept.receive waiting
  | _ =>
    cases stepped
    exact kept.same_credits rfl

end

theorem agreementKept_initial : AgreementKept ({} : CreditSystem catalog) where
  ledger := ledgerKept_initial
  undropped := rfl
  ended _ _ _ member := nomatch member
  held _ _ _ some := absurd rfl some
  flying _ _ member := nomatch member
  arrived _ := Nat.zero_le _
  paid _ _ active := nomatch active

/-! ### Whole runs -/

/-- In every run whose steps meet the condition, the credits a client holds for an active
stream, its Data frames in flight and the credits in flight to it add up to the firmware's
credits, but for what a firmware thread is about to announce. -/
theorem credit_agreement (reached : (creditMachine catalog).ReachableWhere
      (fun system label => agreementSafe system label = true) {} system)
    (endpoint : catalog.Endpoint) (link : catalog.Link)
    (active : (system.firmware.row endpoint link).active = true) :
    (system.client link).credits endpoint (system.firmware.row endpoint link).token +
          system.samplesInFlight endpoint link (system.firmware.row endpoint link).token +
          system.creditsInFlight endpoint link (system.firmware.row endpoint link).token +
          system.unsent endpoint link =
        (system.firmware.row endpoint link).credits.toNat ∧
      (system.unsent endpoint link = 0 →
        (system.client link).credits endpoint (system.firmware.row endpoint link).token +
            system.samplesInFlight endpoint link (system.firmware.row endpoint link).token +
            system.creditsInFlight endpoint link (system.firmware.row endpoint link).token =
          (system.firmware.row endpoint link).credits.toNat) := by
  have kept := reached.invariant AgreementKept agreementKept_initial
    fun _ _ _ kept safe stepped => kept.step safe stepped
  have balance := kept.balance active
  refine ⟨balance, fun none => ?_⟩
  omega

/-- The client opens a stream with two slots, is granted both, and has spent one. -/
theorem credit_agreement_solo :
    ∃ system : CreditSystem Solo.wide, (Solo.row system.firmware).token = 1 ∧
        (system.client Solo.link).credits Solo.endpoint 1 +
            system.samplesInFlight Solo.endpoint Solo.link 1 +
            system.creditsInFlight Solo.endpoint Solo.link 1 =
          (Solo.row system.firmware).credits.toNat := by
  have reached := (creditMachine Solo.wide).reachableWhere_get
    (fun system label => agreementSafe system label = true) {}
    ((.clientHello Solo.link :: Solo.opens 1 7).map .firmware ++
      [.receive Solo.link, .send Solo.link Solo.endpoint [7] 1, .carry Solo.link 1,
        .firmware (.service true), .send Solo.link Solo.endpoint [8] 1]) (by decide) (by decide)
  exact ⟨_, by decide, (credit_agreement reached Solo.endpoint Solo.link (by decide)).2 (by decide)⟩

/-- A payload that does not decode costs the client its credit for good: with both ends at rest
and nothing in flight the firmware accepts a sample and the client may not send one. -/
theorem credit_disagreement :
    ∃ system : CreditSystem Solo.narrow,
      (creditMachine Solo.narrow).Reachable {} system ∧ system.firmware.isIdle = true ∧
        (system.firmware.worker Solo.endpoint).isIdle = true ∧
        (Solo.row system.firmware).active = true ∧ (Solo.row system.firmware).token = 1 ∧
        (system.client Solo.link).credits Solo.endpoint 1 = 0 ∧
        system.inbound Solo.link = [] ∧ system.toClient Solo.link = [] ∧
        (Solo.row system.firmware).credits = 1 :=
  ⟨((creditMachine Solo.narrow).run {} ((.clientHello Solo.link :: Solo.opens 1 7).map .firmware ++
      [.receive Solo.link, .send Solo.link Solo.endpoint [] 1, .carry Solo.link 1])).get (by decide),
    ⟨_, (some_get _).symm⟩, by decide⟩

end CreditSystem

end Solar.Remote
