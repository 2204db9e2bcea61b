/-
This file models what a Remote system declares to the application layer: its
links with their grants, its actions, its Data endpoints with the operations
they support, and its topics. A frame names its target by id; the source tries
the declarations in order and takes the first with that id.

An action, the query of a Data endpoint and its update are handled alike: each
is a `Handler` with one pending cell, one worker and, for an asynchronous
action, one cell for the request its responder holds.
-/

import Solar.Remote.InStream.Catalog
import Solar.Remote.Service.Link

namespace Solar.Remote

open List

structure ActionTraits where
  id : UInt32
  access : Permissions := 0
  inline : Bool := false
  asynchronous : Bool := false
  decodes : Bytes → Bool := fun _ => true

structure OutStreamTraits where
  minimumIntervalUs : UInt32 := 0
  countsInterest : Bool := true

structure DataTraits {Value : Type} (streams : InStreamCatalog Value) where
  id : UInt32
  codec : Codec := .cbor
  inline : Bool := false
  query : Bool := false
  update : Bool := false
  decodes : Bytes → Bool := fun _ => true
  outStream : Option OutStreamTraits := none
  watch : Bool := false
  inStream : Option streams.Endpoint := none

structure TopicTraits where
  id : UInt32
  codec : Codec := .cbor

structure RemoteCatalog (Value : Type) where
  limits : ServiceLimits
  streams : InStreamCatalog Value
  grants : streams.Link → Permissions
  actions : List ActionTraits := []
  data : List (DataTraits streams) := []
  topics : List TopicTraits := []

namespace RemoteCatalog

variable {Value : Type} (catalog : RemoteCatalog Value)

abbrev Link := catalog.streams.Link
abbrev Endpoint := catalog.streams.Endpoint
abbrev ActionIndex := Fin catalog.actions.length
abbrev DataIndex := Fin catalog.data.length
abbrev TopicIndex := Fin catalog.topics.length

def action (index : catalog.ActionIndex) : ActionTraits := catalog.actions.get index
def datum (index : catalog.DataIndex) : DataTraits catalog.streams := catalog.data.get index
def topic (index : catalog.TopicIndex) : TopicTraits := catalog.topics.get index

/-- The action a target names. -/
def action? (target : UInt32) : Option catalog.ActionIndex :=
  (finRange _).find? fun index => (catalog.action index).id = target

/-- The Data endpoint a target names. -/
def datum? (target : UInt32) : Option catalog.DataIndex :=
  (finRange _).find? fun index => (catalog.datum index).id = target

/-- The topic a target names. -/
def topic? (target : UInt32) : Option catalog.TopicIndex :=
  (finRange _).find? fun index => (catalog.topic index).id = target

/-- The id of the Data endpoint an inbound stream belongs to. -/
def endpointId (endpoint : catalog.Endpoint) : UInt32 :=
  ((catalog.data.find? fun datum => datum.inStream == some endpoint).map DataTraits.id).getD 0

/-- What a request is handled by. -/
inductive Handler
  | action (index : catalog.ActionIndex)
  | query (index : catalog.DataIndex)
  | update (index : catalog.DataIndex)

instance : DecidableEq catalog.Handler
  | .action first, .action second =>
      decidable_of_iff (first = second) ⟨congrArg _, Handler.action.inj⟩
  | .query first, .query second =>
      decidable_of_iff (first = second) ⟨congrArg _, Handler.query.inj⟩
  | .update first, .update second =>
      decidable_of_iff (first = second) ⟨congrArg _, Handler.update.inj⟩
  | .action _, .query _ => isFalse nofun
  | .action _, .update _ => isFalse nofun
  | .query _, .action _ => isFalse nofun
  | .query _, .update _ => isFalse nofun
  | .update _, .action _ => isFalse nofun
  | .update _, .query _ => isFalse nofun

/-- The handlers in the order `cancel_pending_request` tries them. -/
def handlers : List catalog.Handler :=
  (finRange _).map .action ++ (finRange _).map .query ++ (finRange _).map .update

namespace Handler

variable {catalog}

def isInline : catalog.Handler → Bool
  | .action index => (catalog.action index).inline
  | .query index => (catalog.datum index).inline
  | .update index => (catalog.datum index).inline

def isAsynchronous : catalog.Handler → Bool
  | .action index => (catalog.action index).asynchronous
  | .query _ => false
  | .update _ => false

theorem mem_handlers (handler : catalog.Handler) : handler ∈ catalog.handlers := by
  cases handler with
  | action index =>
    exact mem_append_left _ (mem_append_left _ (mem_map.mpr ⟨index, mem_finRange index, rfl⟩))
  | query index =>
    exact mem_append_left _ (mem_append_right _ (mem_map.mpr ⟨index, mem_finRange index, rfl⟩))
  | update index => exact mem_append_right _ (mem_map.mpr ⟨index, mem_finRange index, rfl⟩)

end Handler

/-- The subscription slots: Data streams, then Data watches, then topics. -/
def streamSlot (index : catalog.DataIndex) : Nat := index
def watchSlot (index : catalog.DataIndex) : Nat := catalog.data.length + index
def topicSlot (index : catalog.TopicIndex) : Nat := catalog.data.length * 2 + index

/-- The length of the part of a subscription table that is in use. -/
def slotCount : Nat := catalog.data.length * 2 + catalog.topics.length

/-- The slots that can be subscribed, in the order `reset_session_link` clears them. -/
def subscribable : List Nat :=
  ((finRange catalog.data.length).filter
      fun index => (catalog.datum index).outStream.isSome).map catalog.streamSlot ++
    ((finRange catalog.data.length).filter
      fun index => (catalog.datum index).watch).map catalog.watchSlot ++
    (finRange catalog.topics.length).map catalog.topicSlot

/-- Whether the endpoint of a slot counts its interested sessions. A Poll stream does not. -/
def countsInterest (slot : Nat) : Bool :=
  if stream : slot < catalog.data.length then
    ((catalog.datum ⟨slot, stream⟩).outStream.map OutStreamTraits.countsInterest).getD false
  else true

/-- What the build holds every system to: a link's index is a `uint16_t`, the subscription slots
are at most `CONFIG_SOLAR_REMOTE_MAX_ENDPOINTS`, whose range ends at 1024, and the range of
`CONFIG_SOLAR_REMOTE_MAX_REQUESTS` ends at 128. -/
structure Configured : Prop where
  links : catalog.streams.linkCount ≤ 65536
  slots : catalog.slotCount ≤ 1024
  requests : catalog.limits.maxRequests ≤ 128

theorem length_subscribable_le : catalog.subscribable.length ≤ catalog.slotCount := by
  have filtered : ∀ kept : catalog.DataIndex → Bool,
      ((finRange catalog.data.length).filter kept).length ≤ catalog.data.length := by
    intro kept
    exact Nat.le_trans (length_filter_le _ _) (Nat.le_of_eq length_finRange)
  have streams := filtered fun index => (catalog.datum index).outStream.isSome
  have watches := filtered fun index => (catalog.datum index).watch
  simp only [subscribable, slotCount, length_append, length_map, length_finRange]
  omega

theorem streamSlot_mem {index : catalog.DataIndex}
    (supported : (catalog.datum index).outStream.isSome = true) :
    catalog.streamSlot index ∈ catalog.subscribable :=
  mem_append_left _ (mem_append_left _ (mem_map.mpr
    ⟨index, mem_filter.mpr ⟨mem_finRange index, supported⟩, rfl⟩))

theorem watchSlot_mem {index : catalog.DataIndex}
    (supported : (catalog.datum index).watch = true) :
    catalog.watchSlot index ∈ catalog.subscribable :=
  mem_append_left _ (mem_append_right _ (mem_map.mpr
    ⟨index, mem_filter.mpr ⟨mem_finRange index, supported⟩, rfl⟩))

theorem topicSlot_mem (index : catalog.TopicIndex) :
    catalog.topicSlot index ∈ catalog.subscribable :=
  mem_append_right _ (mem_map.mpr ⟨index, mem_finRange index, rfl⟩)

theorem countsInterest_streamSlot (index : catalog.DataIndex) :
    catalog.countsInterest (catalog.streamSlot index) =
      ((catalog.datum index).outStream.map OutStreamTraits.countsInterest).getD false :=
  dif_pos index.isLt

theorem countsInterest_watchSlot (index : catalog.DataIndex) :
    catalog.countsInterest (catalog.watchSlot index) = true :=
  dif_neg (Nat.not_lt.mpr (Nat.le_add_right _ _))

theorem countsInterest_topicSlot (index : catalog.TopicIndex) :
    catalog.countsInterest (catalog.topicSlot index) = true := by
  refine dif_neg (Nat.not_lt.mpr ?_)
  rw [topicSlot]
  omega

end RemoteCatalog

end Solar.Remote
