/-
This file models the event facility between its captures and its processors: the
capture policies with their aggregates, the ingress rings, the reserve of the
critical events, and the state of a facility of any number of events. Each
definition is what the code does under one hold of the lock.

A ring is the list of its records with a capacity. An event without a key has one
aggregate, and one without aggregation has none.
-/

import Solar.Remote.Schema

namespace Solar.Events

open Remote (Status)

/-! ### Records -/

inductive Operation
  | observe | tryObserve | observeIsr
  deriving DecidableEq

inductive Reason
  | none | captureClosed | captureFull | wouldBlock | invalidContext | requiredCaptureExhausted
  | aggregationKeysFull

inductive CaptureDisposition
  | captured | sampledOut | rateLimited | aggregated

inductive LogIntent
  | default | suppress | force
  deriving DecidableEq

structure RecordFlags where
  aggregated : Bool := false
  lostBefore : Bool := false
  critical : Bool := false
  recovery : Bool := false
  deriving DecidableEq

/-- A record: the header and the payload. -/
structure StoredRecord (Payload : Type) where
  event : Nat
  source : Nat
  sequence : Nat := 0
  timestamp : Int
  isr : Bool
  correlation : Nat
  logIntent : LogIntent
  occurrenceCount : Nat := 1
  lostBefore : Nat
  flags : RecordFlags
  payload : Payload
  deriving DecidableEq

structure Receipt where
  disposition : CaptureDisposition := .captured
  sequence : Nat := 0
  timestamp : Int
  occurrenceCount : Nat := 1
  materialized : Bool := true

/-- The arguments of a capture. -/
structure Request (Payload : Type) where
  event : Nat
  operation : Operation := .observe
  payload : Payload
  source : Nat := 0
  correlation : Nat := 0
  logIntent : LogIntent := .default

/-! ### Policies -/

/-- A capture policy, with its times in ticks. -/
inductive CapturePolicy (Payload Key : Type)
  | everyOccurrence
  | sampleEvery (period : Nat)
  | rateLimited (interval : Int)
  | aggregateCount (window : Int)
  | aggregateKeyed (window : Int) (key : Payload → Key) (capacity : Nat)

inductive RetentionPolicy
  | transient | buffered | persistent
  | critical (reservedSlots : Nat)

/-- The policies of an event. `resolves` says that it names an event that it resolves. -/
structure EventPolicy (Payload Key : Type) where
  capture : CapturePolicy Payload Key
  retention : RetentionPolicy
  resolves : Bool := false

inductive StopPolicy
  | drain | cancelPending
  deriving DecidableEq

/-- A facility: its events are those below `count`. -/
structure Facility (Payload Key : Type) where
  count : Nat
  policies : Nat → EventPolicy Payload Key
  threadDepth : Nat
  isrDepth : Nat
  stopPolicy : StopPolicy := .drain

variable {Payload Key : Type}

def CapturePolicy.keyed : CapturePolicy Payload Key → Bool
  | .aggregateKeyed _ _ _ => true
  | _ => false

/-- The number of aggregates of an event. -/
def CapturePolicy.slots : CapturePolicy Payload Key → Nat
  | .aggregateCount _ => 1
  | .aggregateKeyed _ _ capacity => capacity
  | _ => 0

def RetentionPolicy.isCritical : RetentionPolicy → Bool
  | .critical _ => true
  | _ => false

/-- The reason of a capture that finds no room. -/
def RetentionPolicy.exhausted : RetentionPolicy → Reason
  | .critical _ => .requiredCaptureExhausted
  | _ => .captureFull

/-! ### The state of an event -/

/-- `EventRecord`. -/
structure EventRecord where
  lastStatus : Status := .ok
  lastFailure : Reason := .none
  lastSequence : Nat := 0
  lastTimestamp : Int := 0
  attempts : Nat := 0
  captured : Nat := 0
  sampled : Nat := 0
  rateLimited : Nat := 0
  aggregated : Nat := 0
  aggregationRejected : Nat := 0
  ingressRejected : Nat := 0
  retained : Nat := 0
  knownLost : Nat := 0
  overflowLatched : Bool := false

/-- An aggregate. It is occupied if it has a key; the one of an event without a key has none. -/
structure Aggregate (Payload Key : Type) where
  key : Option Key := none
  windowStart : Int := 0
  count : Nat := 0
  representative : Option (StoredRecord Payload) := none

/-- `EventState`. -/
structure EventState (Payload Key : Type) where
  criticalIngress : List (StoredRecord Payload) := []
  criticalHistory : List (StoredRecord Payload) := []
  criticalInflight : Nat := 0
  record : EventRecord := {}
  policyWindowStart : Int := 0
  policyCounter : Nat := 0
  aggregation : List (Aggregate Payload Key) := []

/-- What a capture policy does with an occurrence: the capture has its answer, or there is a record
to be admitted. -/
inductive Sifted (Payload : Type)
  | answered (answer : Except Reason Receipt)
  | kept (record : StoredRecord Payload)

/-- `accumulate`. The occurrences of a closed window come out. The count is of 32 bits. -/
def Aggregate.accumulate (aggregate : Aggregate Payload Key) (window now : Int)
    (stored : StoredRecord Payload) : Aggregate Payload Key × Option Nat :=
  if aggregate.count = 0 then
    ({ aggregate with windowStart := now, count := 1, representative := some stored }, none)
  else if now - aggregate.windowStart < window then
    ({ aggregate with
        count := (aggregate.count + 1) % 2 ^ 32, representative := some stored }, none)
  else ({}, some ((aggregate.count + 1) % 2 ^ 32))

/-- The entry of a key: the one that has it, or else the first that is free. -/
def selectEntry [DecidableEq Key] (entries : List (Aggregate Payload Key)) (key : Key) :
    Option Nat :=
  match entries.findIdx? fun entry => entry.key = some key with
  | some position => some position
  | none => entries.findIdx? fun entry => entry.key = none

namespace EventState

variable (event : EventState Payload Key)

/-- An occurrence is turned away and counted as lost. -/
def lose (status : Status) (reason : Reason) : EventState Payload Key :=
  { event with
    record := { event.record with
      knownLost := event.record.knownLost + 1
      lastStatus := status
      lastFailure := reason }
    policyCounter := event.policyCounter + 1 }

/-- An occurrence goes into an aggregate. -/
def aggregate (position : Nat) (key : Option Key) (window now : Int)
    (stored : StoredRecord Payload) : EventState Payload Key × Sifted Payload :=
  let entry : Aggregate Payload Key := { event.aggregation.getD position {} with key }
  let (entry, closed) := entry.accumulate window now stored
  let aggregation := event.aggregation.set position entry
  match closed with
  | none =>
      ({ event with
          record := { event.record with aggregated := event.record.aggregated + 1 }
          aggregation },
        .answered (.ok
          { disposition := .aggregated, timestamp := now, occurrenceCount := entry.count
            materialized := false }))
  | some occurrenceCount => ({ event with aggregation }, .kept { stored with occurrenceCount })

/-- The capture policy, after the attempt has been counted. -/
def sift [DecidableEq Key] (policy : CapturePolicy Payload Key) (stored : StoredRecord Payload)
    (now : Int) : EventState Payload Key × Sifted Payload :=
  match policy with
  | .everyOccurrence => (event, .kept stored)
  | .sampleEvery period =>
      if (event.record.attempts - 1) % period = 0 then (event, .kept stored)
      else
        ({ event with record := { event.record with sampled := event.record.sampled + 1 } },
          .answered (.ok { disposition := .sampledOut, timestamp := now, materialized := false }))
  | .rateLimited interval =>
      if event.record.attempts = 1 ∨ interval ≤ now - event.policyWindowStart then
        ({ event with policyWindowStart := now }, .kept stored)
      else
        ({ event with
            record := { event.record with rateLimited := event.record.rateLimited + 1 } },
          .answered (.ok { disposition := .rateLimited, timestamp := now, materialized := false }))
  | .aggregateCount window => event.aggregate 0 none window now stored
  | .aggregateKeyed window key _ =>
      match selectEntry event.aggregation (key stored.payload) with
      | none =>
          let lost := event.lose .noSpace .aggregationKeysFull
          ({ lost with
              record := { lost.record with
                aggregationRejected := lost.record.aggregationRejected + 1 } },
            .answered (.error .aggregationKeysFull))
      | some position => event.aggregate position (some (key stored.payload)) window now stored

/-- A record finds no room in the ingress. -/
def reject (reason : Reason) : EventState Payload Key :=
  let lost := event.lose .noBuffer reason
  { lost with
    record := { lost.record with
      ingressRejected := lost.record.ingressRejected + 1
      overflowLatched := true } }

/-- A record gets its sequence number. -/
def materialize (stored : StoredRecord Payload) : EventState Payload Key :=
  { event with
    record := { event.record with
      captured := event.record.captured + 1
      lastSequence := stored.sequence
      lastTimestamp := stored.timestamp
      lastStatus := .ok
      lastFailure := .none }
    policyCounter := 0 }

/-- The occurrences in the aggregates. -/
def pending : Nat := (event.aggregation.map (·.count)).sum

/-- `cancel_aggregates`, with the critical ingress. -/
def cancel : EventState Payload Key :=
  { event with
    criticalIngress := []
    record := { event.record with knownLost := event.record.knownLost + event.pending }
    aggregation := event.aggregation.map fun _ => {} }

end EventState

end Solar.Events
