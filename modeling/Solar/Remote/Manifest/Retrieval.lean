/-
This file models the retrieval of a manifest: the loop of `fetch_manifest` on the
host and `manifest_chunk` in the firmware.

Against the firmware every reply has at least one byte of the image, so the loop
ends with the whole of it. Against other servers the host checks that a reply
goes on where the output ends and stays within the size it was told, but not that
it brings anything: a reply that is only a header is accepted, and the loop asks
the same again.
-/

import Solar.Remote.Protocol

namespace Solar.Remote

open List

def manifestRequestSize : Nat := 8
def manifestChunkHeaderSize : Nat := 8

/-! ### The firmware -/

structure ManifestRequest where
  offset : UInt32
  limit : UInt16

def decodeManifestRequest (input : Bytes) : Option ManifestRequest :=
  if input.length ≠ manifestRequestSize ∨ getU16 input 6 ≠ 0 then none
  else some ⟨getU32 input 0, getU16 input 4⟩

/-- The image of a system. Its header says how long it is, in a word. -/
structure ManifestImage where
  bytes : Bytes
  fits : bytes.length < 2 ^ 32

/-- `manifest_chunk`, with an output of `space` bytes. The error is what the service answers. -/
def manifestChunk (image : ManifestImage) (space : Nat) (request : Bytes) :
    Except ErrorCode Bytes :=
  match decodeManifestRequest request with
  | none => .error .decodeFailure
  | some request =>
      if request.limit = 0 ∨ image.bytes.length < request.offset.toNat then .error .decodeFailure
      else
        let count := min request.limit.toNat (min (image.bytes.length - request.offset.toNat)
          (if manifestChunkHeaderSize ≤ space then space - manifestChunkHeaderSize else 0))
        if space < manifestChunkHeaderSize ∨ count = 0 then .error .noCapacity
        else
          .ok (putU32 request.offset ++ putU32 (UInt32.ofNat image.bytes.length) ++
            (image.bytes.drop request.offset.toNat).take count)

/-! ### The host -/

namespace Client

/-- Why an exchange has no reply: the server answered with an error, or there was no answer. -/
inductive ExchangeError
  | remote (code : ErrorCode)
  | lost

/-- What `fetch_manifest` raises. -/
inductive FetchError
  | request
  | exchange (reason : ExchangeError)
  | shortChunk
  | longChunk
  | discontinuous

/-- The text of an exception that is not the exchange's. -/
def FetchError.text? : FetchError → Option String
  | .request => some "manifest request is out of range"
  | .exchange _ => none
  | .shortChunk => some "invalid manifest chunk"
  | .longChunk => some "manifest chunk exceeds advertised image"
  | .discontinuous => some "non-contiguous manifest response"

/-- `encode_manifest_request`. -/
def encodeManifestRequest (offset limit : Int) : Except FetchError Bytes :=
  if (0 ≤ offset ∧ offset ≤ 0xFFFFFFFF) ∧ 0 < limit ∧ limit ≤ 0xFFFF then
    .ok (putU32 (UInt32.ofNat offset.toNat) ++ putU16 (UInt16.ofNat limit.toNat) ++ putU16 0)
  else .error .request

structure ManifestChunk where
  offset : Nat
  total : Nat
  data : Bytes

/-- `ManifestChunk.decode`. -/
def ManifestChunk.decode (payload : Bytes) : Except FetchError ManifestChunk :=
  if payload.length < 8 then .error .shortChunk
  else
    let offset := (getU32 payload 0).toNat
    let total := (getU32 payload 4).toNat
    if total < offset ∨ total < offset + payload.length - 8 then .error .longChunk
    else .ok ⟨offset, total, payload.drop 8⟩

/-- The replies of a server, one for each round of the loop. -/
abbrev ManifestServer := Nat → Bytes → Except ExchangeError Bytes

/-- A call of `fetch_manifest`: what the server information says, and the argument. -/
structure Fetch where
  manifestSize : UInt32
  chunkSize : Int := 1024

namespace Fetch

variable (fetch : Fetch) (server : ManifestServer)

/-- The request of a round. -/
def request (output : Bytes) : Except FetchError Bytes :=
  encodeManifestRequest output.length
    (min fetch.chunkSize (fetch.manifestSize.toNat - output.length))

/-- The rest of a round, from the reply on. -/
def accept (output payload : Bytes) : Except FetchError Bytes :=
  match ManifestChunk.decode payload with
  | .error reason => .error reason
  | .ok chunk =>
      if chunk.offset ≠ output.length ∨ chunk.total ≠ fetch.manifestSize.toNat then
        .error .discontinuous
      else .ok (output ++ chunk.data)

/-- One round of the loop. -/
def iterate (round : Nat) (output : Bytes) : Except FetchError Bytes :=
  match fetch.request output with
  | .error reason => .error reason
  | .ok request =>
      match server round request with
      | .error reason => .error (.exchange reason)
      | .ok payload => fetch.accept output payload

/-- How far the loop is: at its head and not done, or at its end. -/
inductive Progress
  | running (output : Bytes)
  | finished (output : Bytes)
  | raised (reason : FetchError)

/-- The loop of `fetch_manifest` from a round on, for so many rounds. -/
def loop : Nat → Nat → Bytes → Progress
  | 0, _, output =>
      if fetch.manifestSize.toNat ≤ output.length then .finished output else .running output
  | rounds + 1, round, output =>
      if fetch.manifestSize.toNat ≤ output.length then .finished output
      else
        match fetch.iterate server round output with
        | .error reason => .raised reason
        | .ok next => loop rounds (round + 1) next

/-- `fetch_manifest` up to the digest, for so many rounds. -/
def run (rounds : Nat) : Progress := fetch.loop server rounds 0 []

end Fetch

end Client

/-- The firmware as a server, whose output buffer has room for more than a header. -/
structure ManifestService where
  image : ManifestImage
  space : Nat
  space_lt : manifestChunkHeaderSize < space

def ManifestService.serve (service : ManifestService) : Client.ManifestServer :=
  fun _ request => (manifestChunk service.image service.space request).mapError .remote

namespace Client.Fetch

/-- What the server information of a service says. -/
def ofService (service : ManifestService) (chunkSize : Int) : Fetch where
  manifestSize := UInt32.ofNat service.image.bytes.length
  chunkSize

variable {fetch : Fetch} {server : ManifestServer}

/-! ### One round -/

variable {output : Bytes} (service : ManifestService) (rounds round : Nat)

theorem loop_of_long (long : fetch.manifestSize.toNat ≤ output.length) :
    fetch.loop server rounds round output = .finished output := by
  cases rounds with
  | zero | succ => exact if_pos long

theorem loop_of_short (short : ¬ fetch.manifestSize.toNat ≤ output.length) :
    fetch.loop server (rounds + 1) round output =
      match fetch.iterate server round output with
      | .error reason => .raised reason
      | .ok next => fetch.loop server rounds (round + 1) next := if_neg short

/-- The last of some rounds goes on from the others. -/
theorem loop_succ (output : Bytes) :
    fetch.loop server (rounds + 1) round output =
      match fetch.loop server rounds round output with
      | .running reached =>
          match fetch.iterate server (round + rounds) reached with
          | .error reason => .raised reason
          | .ok next => fetch.loop server 0 (round + rounds + 1) next
      | ended => ended := by
  by_cases long : fetch.manifestSize.toNat ≤ output.length
  · rw [loop_of_long _ _ long, loop_of_long _ _ long]
  induction rounds generalizing round output with
  | zero =>
    rw [loop_of_short _ _ long, loop, if_neg long]
    rfl
  | succ rounds ih =>
    rw [loop_of_short (rounds + 1) _ long, loop_of_short rounds _ long]
    cases fetch.iterate server round output with
    | error reason => rfl
    | ok next =>
      dsimp only
      rw [Nat.add_comm rounds 1, ← Nat.add_assoc round 1 rounds]
      by_cases ends : fetch.manifestSize.toNat ≤ next.length
      · rw [loop_of_long _ _ ends, loop_of_long _ _ ends]
      · rw [Nat.add_comm 1 rounds]
        exact ih (round + 1) next ends

theorem length_lt_of_running {rounds round : Nat} {reached : Bytes}
    (running : fetch.loop server rounds round output = .running reached) :
    reached.length < fetch.manifestSize.toNat := by
  induction rounds generalizing round output with unfold loop at running
  | zero =>
    split at running
    · exact nomatch running
    · rename_i short
      rw [← Progress.running.inj running]
      exact Nat.not_le.mp short
  | succ rounds ih =>
    split at running
    · exact nomatch running
    split at running
    · exact nomatch running
    · exact ih running

/-- A reply that is accepted goes on where the output ends and stays within the size. -/
theorem accept_eq_ok {payload next : Bytes} :
    fetch.accept output payload = .ok next ↔
      8 ≤ payload.length ∧ (getU32 payload 0).toNat = output.length ∧
        (getU32 payload 4).toNat = fetch.manifestSize.toNat ∧
          output.length + (payload.length - 8) ≤ fetch.manifestSize.toNat ∧
            next = output ++ payload.drop 8 := by
  unfold accept ManifestChunk.decode
  by_cases short : payload.length < 8
  · rw [if_pos short]
    exact iff_of_false nofun fun accepted => absurd accepted.1 (Nat.not_le.mpr short)
  rw [if_neg short]
  by_cases long : (getU32 payload 4).toNat < (getU32 payload 0).toNat ∨
      (getU32 payload 4).toNat < (getU32 payload 0).toNat + payload.length - 8
  · rw [if_pos long]
    refine iff_of_false nofun fun ⟨_, offset, total, within, _⟩ => ?_
    rw [offset, total] at long
    omega
  rw [if_neg long]
  dsimp only
  by_cases apart : (getU32 payload 0).toNat ≠ output.length ∨
      (getU32 payload 4).toNat ≠ fetch.manifestSize.toNat
  · rw [if_pos apart]
    refine iff_of_false nofun fun ⟨_, offset, total, _, _⟩ => ?_
    exact apart.elim (absurd offset) (absurd total)
  rw [if_neg apart]
  obtain ⟨offset, total⟩ := not_or.mp apart
  rw [not_not] at offset total
  constructor
  · intro accepted
    rw [offset, total] at long
    exact ⟨Nat.not_lt.mp short, offset, total, by omega, (Except.ok.inj accepted).symm⟩
  · rintro ⟨_, _, _, _, rfl⟩
    rfl

theorem iterate_eq_ok {round : Nat} {next : Bytes} :
    fetch.iterate server round output = .ok next ↔ ∃ request payload,
      fetch.request output = .ok request ∧ server round request = .ok payload ∧
        fetch.accept output payload = .ok next := by
  unfold iterate
  cases fetch.request output with
  | error reason => exact iff_of_false nofun nofun
  | ok request =>
    dsimp only
    cases answered : server round request with
    | error reason =>
      refine iff_of_false nofun fun ⟨_, payload, same, reply, _⟩ => ?_
      rw [← Except.ok.inj same, answered] at reply
      exact nomatch reply
    | ok payload =>
      constructor
      · exact fun accepted => ⟨request, payload, rfl, answered, accepted⟩
      · rintro ⟨_, _, same, reply, accepted⟩
        rw [← Except.ok.inj same, answered] at reply
        rw [Except.ok.inj reply]
        exact accepted

/-! ### Against the firmware -/

theorem toNat_ofNat_length (image : ManifestImage) :
    (UInt32.ofNat image.bytes.length).toNat = image.bytes.length := by
  exact Nat.mod_eq_of_lt image.fits

theorem decodeManifestRequest_put (offset : UInt32) (limit : UInt16) :
    decodeManifestRequest (putU32 offset ++ putU16 limit ++ putU16 0) = some ⟨offset, limit⟩ := by
  have first : getU32 (putU32 offset ++ putU16 limit ++ putU16 0) 0 = offset := by
    exact getU32_putU32 offset _
  have second : getU16 (putU32 offset ++ putU16 limit ++ putU16 0) 4 = limit := by
    exact (getU16_append (putU32 offset) _ 0).trans (getU16_putU16 limit _)
  have last : getU16 (putU32 offset ++ putU16 limit ++ putU16 0) 6 = 0 :=
    (getU16_append (putU32 offset ++ putU16 limit) (putU16 0) 0).trans (getU16_putU16 0 [])
  unfold decodeManifestRequest
  rw [first, second, last]
  rfl

variable {chunkSize : Int}

theorem request_ofService (positive : 0 < chunkSize) (small : chunkSize ≤ 0xFFFF)
    (short : output.length < service.image.bytes.length) : ∃ request limit,
      (ofService service chunkSize).request output = .ok request ∧
        decodeManifestRequest request = some ⟨UInt32.ofNat output.length, limit⟩ ∧
          0 < limit.toNat := by
  have fits := service.image.fits
  have size : (ofService service chunkSize).manifestSize.toNat = service.image.bytes.length :=
    toNat_ofNat_length service.image
  have bounds : 0 < min chunkSize (service.image.bytes.length - output.length : Int) ∧
      min chunkSize (service.image.bytes.length - output.length : Int) ≤ 0xFFFF := by
    omega
  refine ⟨_, _, ?_, decodeManifestRequest_put _ (UInt16.ofNat
    (min chunkSize (service.image.bytes.length - output.length)).toNat), ?_⟩
  · unfold request encodeManifestRequest
    rw [size, if_pos ⟨⟨by omega, by omega⟩, bounds⟩]
    rfl
  · rw [UInt16.toNat_ofNat']
    omega

/-- A chunk of the firmware is accepted, and its data goes behind the output. -/
theorem accept_put {total : UInt32} (same : fetch.manifestSize = total) {data : Bytes}
    (within : output.length + data.length ≤ total.toNat) :
    fetch.accept output (putU32 (UInt32.ofNat output.length) ++ putU32 total ++ data) =
      .ok (output ++ data) := by
  have room := total.toNat_lt
  have offset : getU32 (putU32 (UInt32.ofNat output.length) ++ putU32 total ++ data) 0 =
      UInt32.ofNat output.length := by
    exact getU32_putU32 _ _
  have size : getU32 (putU32 (UInt32.ofNat output.length) ++ putU32 total ++ data) 4 = total := by
    exact (getU32_append (putU32 (UInt32.ofNat output.length)) _ 0).trans (getU32_putU32 total data)
  have length : (putU32 (UInt32.ofNat output.length) ++ putU32 total ++ data).length =
      8 + data.length := length_append
  refine accept_eq_ok.mpr ⟨?_, ?_, ?_, ?_, rfl⟩
  · rw [length]
    exact Nat.le_add_right 8 _
  · rw [offset]
    exact Nat.mod_eq_of_lt (by omega)
  · rw [size, same]
  · rw [same]
    omega

variable {had : Nat}

theorem manifestChunk_eq_ok {request : Bytes} {limit : UInt16}
    (short : had < service.image.bytes.length) (positive : 0 < limit.toNat)
    (read : decodeManifestRequest request = some ⟨UInt32.ofNat had, limit⟩) :
    ∃ more, 0 < more ∧ had + more ≤ service.image.bytes.length ∧
      manifestChunk service.image service.space request =
        .ok (putU32 (UInt32.ofNat had) ++ putU32 (UInt32.ofNat service.image.bytes.length) ++
          (service.image.bytes.drop had).take more) := by
  have fits := service.image.fits
  have room := service.space_lt
  have offset : (UInt32.ofNat had).toNat = had := by
    exact Nat.mod_eq_of_lt (by omega)
  have some : limit ≠ 0 := fun none => absurd positive (by rw [none]; decide)
  refine ⟨min limit.toNat (min (service.image.bytes.length - had)
    (service.space - manifestChunkHeaderSize)), by omega, by omega, ?_⟩
  unfold manifestChunk
  rw [read]
  dsimp only
  rw [offset, if_neg (not_or.mpr ⟨some, Nat.not_lt.mpr (Nat.le_of_lt short)⟩),
    if_pos (Nat.le_of_lt room), if_neg (by omega)]

/-- Each round brings the next piece of the image. -/
theorem iterate_ofService (positive : 0 < chunkSize) (small : chunkSize ≤ 0xFFFF) (round : Nat)
    (short : had < service.image.bytes.length) : ∃ more, 0 < more ∧
      (ofService service chunkSize).iterate service.serve round (service.image.bytes.take had) =
        .ok (service.image.bytes.take (had + more)) := by
  have length : (service.image.bytes.take had).length = had :=
    length_take_of_le (Nat.le_of_lt short)
  obtain ⟨request, limit, asked, read, positive⟩ :=
    request_ofService service positive small (length.symm ▸ short)
  rw [length] at read
  obtain ⟨more, some, within, answered⟩ := manifestChunk_eq_ok service short positive read
  refine ⟨more, some,
    iterate_eq_ok.mpr ⟨request, _, asked, congrArg (Except.mapError _) answered, ?_⟩⟩
  have data : ((service.image.bytes.drop had).take more).length = more :=
    length_take_of_le (by rw [length_drop]; omega)
  have accepted := @accept_put (ofService service chunkSize) (service.image.bytes.take had)
    (UInt32.ofNat service.image.bytes.length) rfl
    ((service.image.bytes.drop had).take more)
    (by rw [length, data, toNat_ofNat_length]; exact within)
  rw [length] at accepted
  rw [take_add]
  exact accepted

/-- The loop ends with the image. -/
theorem loop_ofService (positive : 0 < chunkSize) (small : chunkSize ≤ 0xFFFF) (rounds round : Nat)
    (enough : service.image.bytes.length ≤ had + rounds) :
    (ofService service chunkSize).loop service.serve rounds round (service.image.bytes.take had) =
      .finished service.image.bytes := by
  have size : (ofService service chunkSize).manifestSize.toNat = service.image.bytes.length :=
    toNat_ofNat_length service.image
  by_cases all : service.image.bytes.length ≤ had
  · rw [take_of_length_le all]
    exact loop_of_long rounds round (Nat.le_of_eq size)
  have short := Nat.not_le.mp all
  have length : (service.image.bytes.take had).length = had :=
    length_take_of_le (Nat.le_of_lt short)
  induction rounds generalizing round had with
  | zero => exact absurd enough all
  | succ rounds ih =>
    obtain ⟨more, some, iterated⟩ := iterate_ofService service positive small round short
    rw [loop_of_short rounds round (by rw [size, length]; exact all), iterated]
    by_cases done : service.image.bytes.length ≤ had + more
    · rw [take_of_length_le done]
      exact loop_of_long rounds _ (Nat.le_of_eq size)
    · refine ih (round + 1) (by omega) done (Nat.not_le.mp done) ?_
      exact length_take_of_le (Nat.le_of_lt (Nat.not_le.mp done))

/-! ### Progress -/

/-- Every round that is reached raises or makes the output longer. -/
def Progresses (fetch : Fetch) (server : ManifestServer) : Prop :=
  ∀ rounds output next, fetch.run server rounds = .running output →
    fetch.iterate server rounds output = .ok next → output.length < next.length

/-- The loop ends within as many rounds as the image has bytes. -/
def Ends (fetch : Fetch) (server : ManifestServer) : Prop :=
  ∀ output, fetch.run server fetch.manifestSize.toNat ≠ .running output

/-- A chunk without data that goes on at this offset of an image of this size. -/
def IsBareHeader (offset total : Nat) (payload : Bytes) : Prop :=
  payload.length = manifestChunkHeaderSize ∧ (getU32 payload 0).toNat = offset ∧
    (getU32 payload 4).toNat = total

/-- No request is answered with a bare header for the end of the output. -/
def NeverBare (fetch : Fetch) (server : ManifestServer) : Prop :=
  ∀ rounds output request payload, fetch.run server rounds = .running output →
    fetch.request output = .ok request → server rounds request = .ok payload →
      ¬ IsBareHeader output.length fetch.manifestSize.toNat payload

theorem length_lt_of_accept {payload next : Bytes}
    (accepted : fetch.accept output payload = .ok next)
    (full : ¬ IsBareHeader output.length fetch.manifestSize.toNat payload) :
    output.length < next.length := by
  obtain ⟨header, offset, total, -, rfl⟩ := accept_eq_ok.mp accepted
  have data : payload.length ≠ 8 := fun bare => full ⟨bare, offset, total⟩
  rw [length_append, length_drop]
  omega

theorem accept_of_isBareHeader {payload : Bytes} (room : output.length < fetch.manifestSize.toNat)
    (bare : IsBareHeader output.length fetch.manifestSize.toNat payload) :
    fetch.accept output payload = .ok output := by
  obtain ⟨header, offset, total⟩ := bare
  have size : payload.length = 8 := header
  refine accept_eq_ok.mpr ⟨Nat.le_of_eq size.symm, offset, total, ?_, ?_⟩
  · rw [size]
    exact Nat.le_of_lt room
  · rw [drop_eq_nil_of_le (Nat.le_of_eq size), append_nil]

theorem progresses_iff : fetch.Progresses server ↔ fetch.NeverBare server := by
  constructor
  · intro progresses rounds output request payload running asked replied bare
    have accepted := accept_of_isBareHeader (length_lt_of_running running) bare
    have iterated := iterate_eq_ok.mpr ⟨request, payload, asked, replied, accepted⟩
    exact Nat.lt_irrefl _ (progresses rounds output output running iterated)
  · intro never rounds output next running iterated
    obtain ⟨request, payload, asked, replied, accepted⟩ := iterate_eq_ok.mp iterated
    exact length_lt_of_accept accepted (never rounds output request payload running asked replied)

/-- Each round before the end has brought a byte. -/
theorem Progresses.le_length (progresses : fetch.Progresses server) {rounds : Nat}
    (running : fetch.run server rounds = .running output) : rounds ≤ output.length := by
  induction rounds generalizing output with
  | zero => exact Nat.zero_le _
  | succ rounds ih =>
    unfold run at running
    rw [loop_succ, Nat.zero_add] at running
    cases reached : fetch.loop server rounds 0 [] with rw [reached] at running
    | running before =>
      dsimp only at running
      cases iterated : fetch.iterate server rounds before with rw [iterated] at running
      | error reason => exact nomatch running
      | ok next =>
        have same : next = output := by
          unfold loop at running
          dsimp only at running
          split at running
          · exact nomatch running
          · exact Progress.running.inj running
        rw [← same]
        exact Nat.lt_of_le_of_lt (ih reached)
          (progresses rounds before next reached iterated)
    | _ => exact nomatch running

theorem Progresses.ends (progresses : fetch.Progresses server) : fetch.Ends server := by
  intro output running
  exact absurd (length_lt_of_running running) (Nat.not_lt.mpr (progresses.le_length running))

/-- A retrieval from a service, in chunks of a size that a request can say. -/
structure Retrieval where
  service : ManifestService
  chunkSize : Nat
  chunkSize_pos : 0 < chunkSize
  chunkSize_le : chunkSize ≤ 0xFFFF

/-- From the firmware the loop ends with the image. From any server, each round raises or makes the
output longer, and the loop ends within as many rounds as the image has bytes, exactly if no request
is answered with a bare header. -/
theorem fetch_manifest_terminates (retrieval : Retrieval) (fetch : Fetch)
    (server : ManifestServer) :
    (ofService retrieval.service retrieval.chunkSize).run retrieval.service.serve
        retrieval.service.image.bytes.length = .finished retrieval.service.image.bytes ∧
      ((fetch.Progresses server ∧ fetch.Ends server) ↔ fetch.NeverBare server) := by
  constructor
  · exact loop_ofService retrieval.service (Int.natCast_pos.mpr retrieval.chunkSize_pos)
      (Int.ofNat_le.mpr retrieval.chunkSize_le) _ 0 (Nat.le_add_left _ 0)
  · constructor
    · exact fun progresses => progresses_iff.mp progresses.1
    · intro never
      have progresses := progresses_iff.mpr never
      exact ⟨progresses, progresses.ends⟩

/-- The retrieval of an image of three bytes, of which two fit a chunk. -/
def inTwoChunks : Retrieval where
  service := { image := ⟨[1, 2, 3], by decide⟩, space := 10, space_lt := by decide }
  chunkSize := 2
  chunkSize_pos := Nat.two_pos
  chunkSize_le := by decide

theorem fetch_manifest_in_two_chunks :
    (ofService inTwoChunks.service 2).run inTwoChunks.service.serve 3 = .finished [1, 2, 3] :=
  (fetch_manifest_terminates inTwoChunks { manifestSize := 3 } inTwoChunks.service.serve).1

/-- A server that answers every request with the header of an image of one byte. -/
def headerOnly : ManifestServer := fun _ _ => .ok (putU32 0 ++ putU32 1)

/-- The retrieval of one byte from it goes on without end. -/
theorem fetch_manifest_stalls :
    ¬ ({ manifestSize := 1 } : Fetch).Progresses headerOnly ∧
      ∀ rounds, ({ manifestSize := 1 } : Fetch).run headerOnly rounds = .running [] := by
  have iterated (round : Nat) :
      ({ manifestSize := 1 } : Fetch).iterate headerOnly round [] = .ok [] := rfl
  have stalls (rounds : Nat) :
      ({ manifestSize := 1 } : Fetch).run headerOnly rounds = .running [] := by
    induction rounds with
    | zero => rfl
    | succ rounds ih =>
      unfold run at ih ⊢
      rw [loop_succ, ih]
      rfl
  refine ⟨fun progresses => ?_, stalls⟩
  exact Nat.lt_irrefl _ (progresses 0 [] [] (stalls 0) (iterated 0))

end Client.Fetch

end Solar.Remote
