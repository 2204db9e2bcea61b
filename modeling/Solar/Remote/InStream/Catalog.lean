/-
This file models the inbound-stream side of a system's Data catalog: the traits
each endpoint declares, and the states of all its endpoints together. An opening
stream looks at the other members of its exclusive group, so the whole family is
one object; every section still works on one row, the state of one endpoint on
one link. Only the worker's search for a pending sample runs over all links, in
their order.
-/

import Solar.Remote.InStream.State

namespace Solar.Remote

open Function List

inductive ExclusiveBehavior
  | replaceExisting | rejectExisting

/-- What a Data endpoint declares about its inbound stream. The window is a `uint16_t` bounded
by `CONFIG_SOLAR_REMOTE_MAX_INBOUND_WINDOW`, whose range ends at 64. -/
structure InStreamTraits (Value : Type) where
  window : Nat
  window_pos : 0 < window
  window_le : window ≤ 64
  inline : Bool := false
  exclusive : Option (Nat × ExclusiveBehavior) := none
  hasOnOpen : Bool := false
  minimumIntervalUs : UInt32 := 0
  codec : Codec := .cbor
  decode : Bytes → Option Value

/-- The inbound streams of a system: its links, which of them grant Control, and the endpoints
in declaration order. -/
structure InStreamCatalog (Value : Type) where
  linkCount : Nat
  control : Fin linkCount → Bool
  endpoints : List (InStreamTraits Value)
  ticksPerSecond : Nat

namespace InStreamCatalog

variable {Value : Type} (catalog : InStreamCatalog Value)

abbrev Endpoint := Fin catalog.endpoints.length

abbrev Link := Fin catalog.linkCount

/-- One endpoint on one link. -/
abbrev Row := catalog.Endpoint × catalog.Link

section

variable (endpoint : catalog.Endpoint)

def traits : InStreamTraits Value := catalog.endpoints.get endpoint

def window : Nat := (catalog.traits endpoint).window

theorem window_le : catalog.window endpoint ≤ 64 :=
  (catalog.traits endpoint).window_le

end

/-- The endpoints that declare an exclusive group. -/
def group (name : Nat) : List catalog.Endpoint :=
  (finRange catalog.endpoints.length).filter fun endpoint =>
    ((catalog.traits endpoint).exclusive.map Prod.fst) == some name

/-- Every row of an exclusive group, in the order `close_in_stream_group` visits them. -/
def groupRows (name : Nat) : List catalog.Row :=
  (catalog.group name).flatMap fun endpoint =>
    (finRange catalog.linkCount).map fun link => (endpoint, link)

/-- Every row of one link, in the order `reset_session` visits them. -/
def linkRows (link : catalog.Link) : List catalog.Row :=
  (finRange catalog.endpoints.length).map fun endpoint => (endpoint, link)

end InStreamCatalog

/-- The states of all endpoints: the rows and the diagnostic counters. -/
structure Streams {Value : Type} (catalog : InStreamCatalog Value) where
  rows : (endpoint : catalog.Endpoint) → catalog.Link →
    InStreamLink Value (catalog.window endpoint) := fun _ _ => {}
  counters : catalog.Endpoint → InStreamCounters := fun _ => {}

namespace Streams

variable {Value : Type} {catalog : InStreamCatalog Value}

section

variable (streams : Streams catalog)

section

variable (endpoint : catalog.Endpoint)

/-- Replace one row. -/
def setRow (link : catalog.Link) (replacement : InStreamLink Value (catalog.window endpoint)) :
    Streams catalog :=
  { streams with
    rows := update streams.rows endpoint
      (update (streams.rows endpoint) link replacement) }

/-- Change the diagnostic counters of one endpoint. -/
def count (change : InStreamCounters → InStreamCounters) : Streams catalog :=
  { streams with
    counters := update streams.counters endpoint (change (streams.counters endpoint)) }

/-- `in_stream_is_active`: the endpoint has a stream on some link. -/
def isActive : Bool :=
  (finRange catalog.linkCount).any fun link => (streams.rows endpoint link).active

/-- `in_stream_group_is_active`. -/
def groupIsActive (name : Nat) : Bool :=
  (catalog.group name).any streams.isActive

/-- The first section of `run_pending_in_stream`: the source scans the flat slot array from the
front, so the lowest link with a pending sample is served. -/
def take? :
    Option (catalog.Link × Nat × InboundSlot Value × InStreamLink Value (catalog.window endpoint)) :=
  (finRange catalog.linkCount).findSome? fun link =>
    (streams.rows endpoint link).take?.map fun taken => (link, taken)

@[simp] theorem rows_setRow_self (link : catalog.Link)
    (replacement : InStreamLink Value (catalog.window endpoint)) :
    (streams.setRow endpoint link replacement).rows endpoint link = replacement := by
  simp [setRow]

end

end

theorem rows_setRow_of_ne {streams : Streams catalog} {endpoint other : catalog.Endpoint}
    {link otherLink : catalog.Link} {replacement : InStreamLink Value (catalog.window endpoint)}
    (different : (other, otherLink) ≠ (endpoint, link)) :
    (streams.setRow endpoint link replacement).rows other otherLink =
      streams.rows other otherLink := by
  by_cases same : other = endpoint
  · subst same
    have apart : otherLink ≠ link := fun sameLink => different (by rw [sameLink])
    simp [setRow, update_of_ne apart]
  · simp only [setRow, update_of_ne same]

theorem take?_link {streams : Streams catalog} {endpoint : catalog.Endpoint} {link : catalog.Link}
    {taken : Nat × InboundSlot Value × InStreamLink Value (catalog.window endpoint)}
    (found : streams.take? endpoint = some (link, taken)) :
    (streams.rows endpoint link).take? = some taken := by
  obtain ⟨other, _, mapped⟩ := exists_of_findSome?_eq_some found
  obtain ⟨content, here, pair⟩ := Option.map_eq_some_iff.mp mapped
  obtain ⟨⟩ := pair
  exact here

end Streams

end Solar.Remote
