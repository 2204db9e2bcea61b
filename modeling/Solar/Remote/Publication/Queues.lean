/-
This file models the publication queues of a system: the ring of a Push stream,
of a Watch and of a Topic, its wake flag, its count of interested sessions, and
the publication events of the service. A write stores its value and queues an
event unless one is pending or nobody is interested; an event takes values from
the queue and queues the next event while values are left.

A queue that keeps what it has when it is full turns a write away before the
write looks at the wake flag. If such a queue was filled while nobody was
interested, it has no event, no write gives it one, and a subscription does not
either. Everywhere else a queue that somebody waits for has its event, or gets
it from the next write, and is then emptied.
-/

import Solar.Library.Tally
import Solar.Library.Transition
import Solar.Remote.Publication

namespace Solar.Remote

open List Function

/-! ### Declarations -/

/-- What a full queue does with a new value. -/
inductive Overflow
  | dropOldest | dropNewest | reject
  deriving DecidableEq

/-- Whose values a queue holds: a Push stream's, or those of a Watch or a Topic. -/
inductive QueueKind
  | push (stream : OutStream)
  | discrete

/-- A declared queue. -/
structure QueueTraits (Value : Type) where
  kind : QueueKind
  schema : ValueSchema Value
  depth : Nat
  depth_pos : 0 < depth
  overflow : Overflow := .dropOldest

/-- The queues of a system and its links, whose indices are `uint16_t`. -/
structure QueueCatalog (Value : Type) where
  linkCount : Nat
  linkCount_le : linkCount ≤ 65536
  endpoints : List (QueueTraits Value)

variable {Value : Type}

namespace QueueCatalog

variable (catalog : QueueCatalog Value)

abbrev Endpoint := Fin catalog.endpoints.length

abbrev Link := Fin catalog.linkCount

def traits (endpoint : catalog.Endpoint) : QueueTraits Value := catalog.endpoints.get endpoint

end QueueCatalog

/-! ### One queue -/

/-- `PushState` and `DiscreteState`, with the ring as the list of its values. -/
structure PublicationQueue (Value : Type) where
  values : List Value := []
  sequence : UInt64 := 0
  wakePending : Bool := false
  interestedSessions : UInt32 := 0

inductive WriteDisposition
  | accepted | replacedOlder | droppedNewest | coalesced | noSubscribers
  deriving DecidableEq

structure WriteReceipt where
  disposition : WriteDisposition
  sequence : UInt64
  wakeQueued : Bool
  deriving DecidableEq

/-- The reason of a refused write. -/
inductive WriteError
  | invalidContext | notReady | noCapacity
  deriving DecidableEq

/-- Where a write is called from, whether it is the ISR variant, which only a Push stream has, and
whether the facility takes writes. -/
structure WriteContext where
  inIsr : Bool := false
  fromIsr : Bool := false
  ready : Bool := true
  accepting : Bool := true

/-- The checks before the queue is looked at. -/
def WriteContext.refusal? (context : WriteContext) (kind : QueueKind) : Option WriteError :=
  let expected := match kind with
    | .push _ => context.fromIsr
    | .discrete => false
  if context.inIsr ≠ expected then some .invalidContext
  else if ¬ context.ready ∨ ¬ context.accepting then some .notReady
  else none

namespace PublicationQueue

variable (traits : QueueTraits Value) (queue : PublicationQueue Value)

/-- `write_data` and `write_discrete` after the value is stored; the flag says whether an event is
queued. -/
def announce (disposition : WriteDisposition) :
    WriteReceipt × PublicationQueue Value × Bool :=
  if queue.interestedSessions = 0 then
    ({ disposition := .noSubscribers, sequence := queue.sequence, wakeQueued := false },
      { queue with wakePending := false }, false)
  else if queue.wakePending then
    ({ disposition := .coalesced, sequence := queue.sequence, wakeQueued := true }, queue, false)
  else
    ({ disposition, sequence := queue.sequence, wakeQueued := true },
      { queue with wakePending := true }, true)

/-- `write_data` and `write_discrete`; the flag says whether an event is queued. -/
def write (context : WriteContext) (value : Value) :
    Except WriteError WriteReceipt × PublicationQueue Value × Bool :=
  match context.refusal? traits.kind with
  | some error => (.error error, queue, false)
  | none =>
      if queue.values.length = traits.depth then
        match traits.overflow with
        | .reject => (.error .noCapacity, queue, false)
        | .dropNewest =>
            (.ok {
                disposition := .droppedNewest
                sequence := queue.sequence + 1
                wakeQueued := queue.wakePending },
              { queue with sequence := queue.sequence + 1 }, false)
        | .dropOldest =>
            let stored := { queue with
              values := queue.values.tail ++ [value]
              sequence := queue.sequence + 1 }
            let announced := stored.announce .replacedOlder
            (.ok announced.1, announced.2)
      else
        let stored := { queue with
          values := queue.values ++ [value]
          sequence := queue.sequence + 1 }
        let announced := stored.announce .accepted
        (.ok announced.1, announced.2)

/-- The values an event takes from the queue, with what it publishes. -/
def take : List Value × Option (Publication Value) :=
  match traits.kind with
  | .push stream =>
      if 1 < stream.batchCount then publishPushBatch traits.schema stream queue.values
      else (queue.values.tail, queue.values.head?.bind (publishDataValue traits.schema))
  | .discrete => (queue.values.tail, queue.values.head?.bind (publishDataValue traits.schema))

/-- `process_publication` on one queue: values are taken, which clears the wake flag, and the queue
is rearmed if values are left. The flag says whether an event is queued. -/
def process : PublicationQueue Value × Option (Publication Value) × Bool :=
  let taken := queue.take traits
  let pending := !taken.1.isEmpty
  ({ queue with values := taken.1, wakePending := pending }, taken.2, pending)

/-- `update_data_subscription` and `update_topic_subscription` on the interest count. -/
def changeInterest (changed enable : Bool) : PublicationQueue Value :=
  { queue with
    interestedSessions :=
      if changed then
        (if enable then queue.interestedSessions + 1 else queue.interestedSessions - 1)
      else queue.interestedSessions }

end PublicationQueue

/-! ### The system -/

/-- The queues, the subscriptions of the links, the publication events that wait for the service,
and what it has published. -/
structure Publications {Value : Type} (catalog : QueueCatalog Value) where
  queues : catalog.Endpoint → PublicationQueue Value := fun _ => {}
  subscribed : catalog.Link → catalog.Endpoint → Bool := fun _ _ => false
  events : List catalog.Endpoint := []
  published : List (catalog.Endpoint × Publication Value) := []

inductive PublicationLabel {Value : Type} (catalog : QueueCatalog Value)
  | write (endpoint : catalog.Endpoint) (context : WriteContext) (value : Value)
  | subscription (link : catalog.Link) (endpoint : catalog.Endpoint) (enable : Bool)
  | publication

variable {catalog : QueueCatalog Value}

namespace Publications

variable (state : Publications catalog)

section

variable (endpoint : catalog.Endpoint)

def setQueue (queue : PublicationQueue Value) : Publications catalog :=
  { state with queues := update state.queues endpoint queue }

/-- `notify_publication`, for an event queue that has room. -/
def notify (wanted : Bool) : Publications catalog :=
  if wanted then { state with events := state.events ++ [endpoint] } else state

def write (context : WriteContext) (value : Value) : Publications catalog :=
  let written := (state.queues endpoint).write (catalog.traits endpoint) context value
  (state.setQueue endpoint written.2.1).notify endpoint written.2.2

end

def updateSubscription (link : catalog.Link) (endpoint : catalog.Endpoint) (enable : Bool) :
    Publications catalog :=
  let changed := decide (state.subscribed link endpoint ≠ enable)
  { state.setQueue endpoint ((state.queues endpoint).changeInterest changed enable) with
    subscribed := update state.subscribed link
      (update (state.subscribed link) endpoint enable) }

/-- The service takes the next event. -/
def processPublication : Option (Publications catalog) :=
  match state.events with
  | [] => none
  | endpoint :: rest =>
      let processed := (state.queues endpoint).process (catalog.traits endpoint)
      some (({ state with
        events := rest
        published := state.published ++ processed.2.1.toList.map fun publication =>
          (endpoint, publication) }.setQueue endpoint processed.1).notify endpoint processed.2.2)

def step : PublicationLabel catalog → Option (Publications catalog)
  | .write endpoint context value => some (state.write endpoint context value)
  | .subscription link endpoint enable => some (state.updateSubscription link endpoint enable)
  | .publication => state.processPublication

end Publications

/-- The step system of the writers, the subscribers and the service. -/
def publicationMachine {Value : Type} (catalog : QueueCatalog Value) :
    Transition.Machine (Publications catalog) (PublicationLabel catalog) :=
  ⟨Publications.step⟩

/-! ### What the operations do to one queue -/

namespace PublicationQueue

variable {traits : QueueTraits Value} {queue : PublicationQueue Value}

/-- A queue that turns a new value away: it is full and keeps what it has. -/
def isClosed (traits : QueueTraits Value) (queue : PublicationQueue Value) : Bool :=
  queue.values.length = traits.depth ∧ traits.overflow ≠ .dropOldest

/-- What a write does to a queue, and whether it queues an event. -/
inductive Written (traits : QueueTraits Value) (queue : PublicationQueue Value) :
    PublicationQueue Value → Bool → Prop
  | kept (sequence : UInt64) : Written traits queue { queue with sequence } false
  | unheard (values : List Value) (sequence : UInt64) (bound : values.length ≤ traits.depth)
      (alone : queue.interestedSessions = 0) :
      Written traits queue { queue with values, sequence, wakePending := false } false
  | heard (values : List Value) (sequence : UInt64) (queued : Bool)
      (bound : values.length ≤ traits.depth) (interest : queue.interestedSessions ≠ 0)
      (fresh : queued = !queue.wakePending) :
      Written traits queue { queue with values, sequence, wakePending := true } queued

theorem written_announce (values : List Value) (sequence : UInt64)
    (bound : values.length ≤ traits.depth) (disposition : WriteDisposition) :
    Written traits queue ({ queue with values, sequence }.announce disposition).2.1
      ({ queue with values, sequence }.announce disposition).2.2 := by
  unfold announce
  split
  · rename_i alone
    exact .unheard values sequence bound alone
  · rename_i interest
    cases pending : queue.wakePending with
    | true =>
      have heard : Written traits queue { queue with values, sequence, wakePending := true } false :=
        .heard values sequence false bound interest (by rw [pending]; rfl)
      rw [if_pos rfl]
      exact pending ▸ heard
    | false => exact .heard values sequence true bound interest (by rw [pending]; rfl)

theorem Written.interestedSessions {after : PublicationQueue Value} {queued : Bool}
    (written : Written traits queue after queued) :
    after.interestedSessions = queue.interestedSessions := by
  cases written <;> rfl

/-- A queue holds no more than its depth. -/
def Bounded (traits : QueueTraits Value) (queue : PublicationQueue Value) : Prop :=
  queue.values.length ≤ traits.depth

theorem written_write (bounded : queue.Bounded traits) (context : WriteContext) (value : Value) :
    Written traits queue (queue.write traits context value).2.1
      (queue.write traits context value).2.2 := by
  unfold write
  split
  · exact .kept queue.sequence
  split
  · split
    · exact .kept queue.sequence
    · exact .kept (queue.sequence + 1)
    · rename_i full _ _
      refine written_announce _ _ ?_ _
      rw [length_append, length_tail, full]
      exact Nat.le_of_eq (Nat.sub_add_cancel traits.depth_pos)
  · rename_i space
    refine written_announce _ _ ?_ _
    rw [length_append]
    exact Nat.lt_of_le_of_ne bounded space

theorem queued_of_not_isClosed (context : WriteContext) (value : Value)
    (permitted : context.refusal? traits.kind = none) (interest : queue.interestedSessions ≠ 0)
    (asleep : queue.wakePending = false) (open_ : queue.isClosed traits = false) :
    (queue.write traits context value).2.2 = true := by
  have announced (values : List Value) (sequence : UInt64) (disposition : WriteDisposition) :
      ({ queue with values, sequence }.announce disposition).2.2 = true := by
    simp [announce, if_neg interest, asleep]
  simp only [write, permitted]
  split
  · rename_i full
    have drops : traits.overflow = .dropOldest := by
      simpa [isClosed, full] using open_
    simp only [drops]
    exact announced _ _ _
  · exact announced _ _ _

theorem length_takeBatch_le (schema : ValueSchema Value) (count space : Nat) (values : List Value) :
    (takeBatch schema count space values).1.length ≤ values.length := by
  induction count generalizing space values with
  | zero => exact Nat.le_refl _
  | succ count ih =>
    cases values with
    | nil => exact Nat.le_refl _
    | cons value values =>
      simp only [takeBatch]
      split
      · exact Nat.le_succ _
      · exact Nat.le_trans (ih _ _) (Nat.le_succ _)

theorem length_take_lt (traits : QueueTraits Value) (waiting : queue.values ≠ []) :
    (queue.take traits).1.length < queue.values.length := by
  obtain ⟨value, rest, values⟩ := exists_cons_of_ne_nil waiting
  have tail : queue.values.tail.length < queue.values.length := by
    rw [values]
    exact Nat.lt_succ_self _
  unfold take
  split
  · split
    · rename_i stream _ several
      obtain ⟨count, batch⟩ := Nat.exists_eq_succ_of_ne_zero (Nat.ne_zero_of_lt several)
      simp only [publishPushBatch, batch, values, takeBatch]
      split
      · exact Nat.lt_succ_self _
      · exact Nat.lt_succ_of_le (length_takeBatch_le _ _ _ _)
    · exact tail
  · exact tail

theorem length_take_le (traits : QueueTraits Value) (queue : PublicationQueue Value) :
    (queue.take traits).1.length ≤ queue.values.length := by
  by_cases waiting : queue.values = []
  · unfold take
    rw [waiting]
    split
    · split
      · exact length_takeBatch_le _ _ _ _
      · exact Nat.le_refl _
    · exact Nat.le_refl _
  · exact Nat.le_of_lt (length_take_lt traits waiting)

theorem process_pending (left : (queue.take traits).1 ≠ []) :
    (queue.process traits).2.2 = true := by
  show (!(queue.take traits).1.isEmpty) = true
  rw [isEmpty_eq_false_iff.mpr left]
  rfl

end PublicationQueue

namespace Publications

open PublicationQueue

variable {state next : Publications catalog} {label : PublicationLabel catalog}

/-! ### What a step does to the system -/

section Frames

variable (state : Publications catalog) (endpoint : catalog.Endpoint)
  (queue : PublicationQueue Value) (wanted : Bool)

@[simp] theorem queues_notify : (state.notify endpoint wanted).queues = state.queues := by
  cases wanted <;> rfl

@[simp] theorem subscribed_notify :
    (state.notify endpoint wanted).subscribed = state.subscribed := by
  cases wanted <;> rfl

theorem events_notify : (state.notify endpoint wanted).events =
    state.events ++ if wanted then [endpoint] else [] := by
  cases wanted with
  | true => rfl
  | false => exact (append_nil _).symm

end Frames

/-- Every way the system moves: what happens to the queue of one endpoint, to the events and to
the subscriptions. -/
inductive Stepped (state : Publications catalog) :
    PublicationLabel catalog → Publications catalog → Prop
  | written {context : WriteContext} {value : Value} {next : Publications catalog}
      (endpoint : catalog.Endpoint) (queue : PublicationQueue Value) (queued : Bool)
      (change : (state.queues endpoint).Bounded (catalog.traits endpoint) →
        Written (catalog.traits endpoint) (state.queues endpoint) queue queued)
      (queues : next.queues = update state.queues endpoint queue)
      (events : next.events = state.events ++ if queued then [endpoint] else [])
      (subscriptions : next.subscribed = state.subscribed) :
      Stepped state (.write endpoint context value) next
  | subscribed {next : Publications catalog} (link : catalog.Link) (endpoint : catalog.Endpoint)
      (enable : Bool)
      (queues : next.queues = update state.queues endpoint
        ((state.queues endpoint).changeInterest
          (decide (state.subscribed link endpoint ≠ enable)) enable))
      (events : next.events = state.events)
      (subscriptions : next.subscribed = update state.subscribed link
        (update (state.subscribed link) endpoint enable)) :
      Stepped state (.subscription link endpoint enable) next
  | published {next : Publications catalog} (endpoint : catalog.Endpoint)
      (rest : List catalog.Endpoint) (first : state.events = endpoint :: rest)
      (queues : next.queues = update state.queues endpoint
        ((state.queues endpoint).process (catalog.traits endpoint)).1)
      (events : next.events = rest ++
        if ((state.queues endpoint).process (catalog.traits endpoint)).2.2 then [endpoint] else [])
      (subscriptions : next.subscribed = state.subscribed) :
      Stepped state .publication next

theorem step_stepped (taken : state.step label = some next) : Stepped state label next := by
  cases label with
  | write endpoint context value =>
    cases taken
    exact .written endpoint _ _ (fun bounded => written_write bounded context value)
      (queues_notify _ _ _) (events_notify _ _ _) (subscribed_notify _ _ _)
  | subscription link endpoint enable =>
    cases taken
    exact .subscribed link endpoint enable rfl rfl rfl
  | publication =>
    simp only [step, processPublication] at taken
    split at taken
    · exact nomatch taken
    · rename_i endpoint rest first
      cases taken
      exact .published endpoint rest first (queues_notify _ _ _) (events_notify _ _ _)
        (subscribed_notify _ _ _)

/-! ### Queues that somebody waits for -/

/-- A subscription does not start the interest in a queue that turns values away and has no event
pending. -/
def opensAwake (state : Publications catalog) : PublicationLabel catalog → Bool
  | .subscription _ endpoint true =>
      (state.queues endpoint).isClosed (catalog.traits endpoint) →
        ((state.queues endpoint).wakePending ∨ (state.queues endpoint).interestedSessions ≠ 0)
  | _ => true

theorem opensAwake_iff {link : catalog.Link} {endpoint : catalog.Endpoint} :
    state.opensAwake (.subscription link endpoint true) = true ↔
      ((state.queues endpoint).isClosed (catalog.traits endpoint) = true →
        (state.queues endpoint).wakePending = true ∨
          (state.queues endpoint).interestedSessions ≠ 0) :=
  decide_eq_true_iff

/-- The standing facts of a run: queues keep to their depth, their interest is the number of
subscribed links, a wake flag comes with an event, and a queue of interest that turns values away
has its wake flag set. -/
structure Attentive (state : Publications catalog) : Prop where
  bounded : ∀ endpoint, (state.queues endpoint).Bounded (catalog.traits endpoint)
  counted : ∀ endpoint, Tally.Counts (state.queues endpoint).interestedSessions
    {link | state.subscribed link endpoint = true}
  awake : ∀ endpoint, (state.queues endpoint).wakePending = true → endpoint ∈ state.events
  heard : ∀ endpoint, (state.queues endpoint).interestedSessions ≠ 0 →
    (state.queues endpoint).isClosed (catalog.traits endpoint) = true →
      (state.queues endpoint).wakePending = true

theorem attentive_initial : Attentive ({} : Publications catalog) where
  bounded _ := Nat.zero_le _
  counted _ := by
    refine Tally.Counts.empty.congr ?_
    ext link
    simp
  awake _ pending := nomatch pending
  heard _ interest := absurd rfl interest

section

variable (attentive : Attentive state)

include attentive

theorem Attentive.interested {link : catalog.Link} {endpoint : catalog.Endpoint}
    (active : state.subscribed link endpoint = true) :
    (state.queues endpoint).interestedSessions ≠ 0 := by
  intro none
  have positive := (attentive.counted endpoint).pos
    (show link ∈ {link | state.subscribed link endpoint = true} from active)
  rw [none] at positive
  exact Nat.lt_irrefl 0 positive

omit attentive in
theorem queues_induction {motive : catalog.Endpoint → PublicationQueue Value → Prop}
    {endpoint : catalog.Endpoint} {queue : PublicationQueue Value}
    (queues : next.queues = update state.queues endpoint queue)
    (changed : motive endpoint queue)
    (kept : ∀ other, other ≠ endpoint → motive other (state.queues other))
    (other : catalog.Endpoint) : motive other (next.queues other) := by
  rw [queues]
  by_cases same : other = endpoint
  · subst same
    rw [update_self]
    exact changed
  · rw [update_of_ne same]
    exact kept other same

theorem Attentive.bounded_step (stepped : Stepped state label next) (endpoint : catalog.Endpoint) :
    (next.queues endpoint).Bounded (catalog.traits endpoint) := by
  have kept : ∀ other, (state.queues other).Bounded (catalog.traits other) := attentive.bounded
  cases stepped with
  | written target queue queued change queues events subscriptions =>
    refine queues_induction (motive := fun other queue => queue.Bounded (catalog.traits other))
      queues ?_ (fun other _ => kept other) endpoint
    cases change (kept target) with
    | kept sequence => exact kept target
    | unheard values sequence bound | heard values sequence queued bound => exact bound
  | subscribed link target enable queues events subscriptions =>
    exact queues_induction (motive := fun other queue => queue.Bounded (catalog.traits other))
      queues (kept target) (fun other _ => kept other) endpoint
  | published target rest first queues events subscriptions =>
    exact queues_induction (motive := fun other queue => queue.Bounded (catalog.traits other))
      queues (Nat.le_trans (length_take_le _ _) (kept target)) (fun other _ => kept other) endpoint

theorem Attentive.counted_step (stepped : Stepped state label next) (endpoint : catalog.Endpoint) :
    Tally.Counts (next.queues endpoint).interestedSessions
      {link | next.subscribed link endpoint = true} := by
  have counted := attentive.counted
  cases stepped with
  | written target queue queued change queues events subscriptions =>
    rw [subscriptions]
    refine queues_induction (motive := fun other queue => Tally.Counts queue.interestedSessions
      {link | state.subscribed link other = true}) queues ?_ (fun other _ => counted other) endpoint
    rw [(change (attentive.bounded target)).interestedSessions]
    exact counted target
  | published target rest first queues events subscriptions =>
    rw [subscriptions]
    exact queues_induction (motive := fun other queue => Tally.Counts queue.interestedSessions
      {link | state.subscribed link other = true}) queues (counted target)
      (fun other _ => counted other) endpoint
  | subscribed link target enable queues events subscriptions =>
    refine queues_induction (motive := fun other queue => Tally.Counts queue.interestedSessions
      {link | next.subscribed link other = true}) queues ?_ ?_ endpoint
    · have column : (fun other => next.subscribed other target) =
          update (fun other => state.subscribed other target) link enable := by
        funext other
        rw [subscriptions]
        by_cases same : other = link
        · subst same
          rw [update_self, update_self, update_self]
        · rw [update_of_ne same, update_of_ne same]
      have small : (state.queues target).interestedSessions.toNat + 1 < 2 ^ 32 := by
        have links := (counted target).toNat_le
        have limit := catalog.linkCount_le
        omega
      refine ((counted target).update link enable small).congr ?_
      rw [← column]
    · intro other different
      refine (counted other).congr ?_
      ext place
      rw [Set.mem_ofPred_eq, Set.mem_ofPred_eq, subscriptions]
      by_cases same : place = link
      · subst same
        rw [update_self, update_of_ne different]
      · rw [update_of_ne same]

theorem Attentive.awake_step (stepped : Stepped state label next) (endpoint : catalog.Endpoint) :
    (next.queues endpoint).wakePending = true → endpoint ∈ next.events := by
  have awake := attentive.awake
  cases stepped with rw [events]
  | written target queue queued change queues events subscriptions =>
    refine queues_induction (motive := fun other queue => queue.wakePending = true →
      other ∈ state.events ++ if queued then [target] else []) queues ?_ ?_ endpoint
    · intro pending
      cases change (attentive.bounded target) with
      | kept sequence => exact mem_append_left _ (awake target pending)
      | unheard values sequence bound alone => exact nomatch pending
      | heard values sequence queued bound interest fresh =>
        cases before : (state.queues target).wakePending with
        | true => exact mem_append_left _ (awake target before)
        | false =>
          rw [before] at fresh
          rw [fresh]
          exact mem_append_right _ mem_cons_self
    · exact fun other _ pending => mem_append_left _ (awake other pending)
  | subscribed link target enable queues events subscriptions =>
    exact queues_induction (motive := fun other queue => queue.wakePending = true →
      other ∈ state.events) queues (awake target) (fun other _ => awake other) endpoint
  | published target rest first queues events subscriptions =>
    refine queues_induction (motive := fun other queue => queue.wakePending = true → other ∈ rest ++
      if ((state.queues target).process (catalog.traits target)).2.2 then [target] else [])
      queues ?_ ?_ endpoint
    · intro pending
      have queued : ((state.queues target).process (catalog.traits target)).2.2 = true := pending
      rw [if_pos queued]
      exact mem_append_right _ mem_cons_self
    · intro other different pending
      have waits := awake other pending
      rw [first] at waits
      obtain same | later := mem_cons.mp waits
      · exact absurd same different
      · exact mem_append_left _ later

omit attentive in
theorem isClosed_iff {traits : QueueTraits Value} {queue : PublicationQueue Value} :
    queue.isClosed traits = true ↔
      queue.values.length = traits.depth ∧ traits.overflow ≠ .dropOldest := decide_eq_true_iff

theorem Attentive.heard_step (timely : state.opensAwake label = true)
    (stepped : Stepped state label next) (endpoint : catalog.Endpoint) :
    (next.queues endpoint).interestedSessions ≠ 0 →
      (next.queues endpoint).isClosed (catalog.traits endpoint) = true →
        (next.queues endpoint).wakePending = true := by
  have heard := attentive.heard
  cases stepped with
  | written target queue queued change queues events subscriptions =>
    refine queues_induction (motive := fun other queue => queue.interestedSessions ≠ 0 →
      queue.isClosed (catalog.traits other) = true → queue.wakePending = true) queues ?_
      (fun other _ => heard other) endpoint
    intro interest closed
    cases change (attentive.bounded target) with
    | kept sequence => exact heard target interest closed
    | unheard values sequence bound alone => exact absurd alone interest
    | heard values sequence queued bound interest fresh => rfl
  | published target rest first queues events subscriptions =>
    refine queues_induction (motive := fun other queue => queue.interestedSessions ≠ 0 →
      queue.isClosed (catalog.traits other) = true → queue.wakePending = true) queues ?_
      (fun other _ => heard other) endpoint
    intro interest closed
    have full := (isClosed_iff.mp closed).1
    have positive := (catalog.traits target).depth_pos
    rw [← full] at positive
    exact process_pending (length_pos_iff.mp positive)
  | subscribed link target enable queues events subscriptions =>
    refine queues_induction (motive := fun other queue => queue.interestedSessions ≠ 0 →
      queue.isClosed (catalog.traits other) = true → queue.wakePending = true) queues ?_
      (fun other _ => heard other) endpoint
    intro interest closed
    have before : (state.queues target).interestedSessions ≠ 0 →
        (state.queues target).wakePending = true := fun interest => heard target interest closed
    cases enable with
    | true =>
      obtain pending | interested := opensAwake_iff.mp timely closed
      · exact pending
      · exact before interested
    | false =>
      refine before fun none => interest ?_
      have silent : state.subscribed link target = false := by
        by_contra active
        exact attentive.interested (eq_true_of_ne_false active) none
      simp only [changeInterest, silent, ne_eq, not_true_eq_false, decide_false, Bool.false_eq_true,
        if_false]
      exact none

theorem Attentive.step (timely : state.opensAwake label = true) (stepped : Stepped state label next) :
    Attentive next where
  bounded := attentive.bounded_step stepped
  counted := attentive.counted_step stepped
  awake := attentive.awake_step stepped
  heard := attentive.heard_step timely stepped

end

theorem attentive_of_reachable (reached : (publicationMachine catalog).ReachableWhere
      (fun state label => state.opensAwake label = true) {} state) : Attentive state :=
  reached.invariant Attentive attentive_initial fun _ _ _ attentive timely taken =>
    attentive.step timely (step_stepped taken)

/-! ### Queues that are emptied -/

/-- The service empties the queue if it goes on with its events. -/
def Drains (state : Publications catalog) (endpoint : catalog.Endpoint) : Prop :=
  ∃ steps final, (publicationMachine catalog).run state (replicate steps .publication) =
    some final ∧ (final.queues endpoint).values = []

section

variable {endpoint : catalog.Endpoint}

theorem Drains.step (taken : state.step .publication = some next) (drains : Drains next endpoint) :
    Drains state endpoint := by
  obtain ⟨steps, final, ran, empty⟩ := drains
  refine ⟨steps + 1, final, ?_, empty⟩
  show (state.step .publication).bind _ = _
  rw [taken]
  exact ran

theorem exists_publication {rest : List catalog.Endpoint}
    (first : state.events = endpoint :: rest) :
    ∃ next, state.step .publication = some next ∧
      next.queues = update state.queues endpoint
        ((state.queues endpoint).process (catalog.traits endpoint)).1 ∧
      next.events = rest ++
        if ((state.queues endpoint).process (catalog.traits endpoint)).2.2 then [endpoint]
        else [] := by
  have defined : (state.step .publication).isSome = true := by
    simp [Publications.step, processPublication, first]
  obtain ⟨next, taken⟩ := Option.isSome_iff_exists.mp defined
  refine ⟨next, taken, ?_⟩
  cases step_stepped taken with
  | published other others same queues events subscriptions =>
    obtain ⟨rfl, rfl⟩ := cons.inj (first.symm.trans same)
    exact ⟨queues, events⟩

/-- A queue with an event is emptied: each event that is in front of its own is taken, its own
takes a value, and while values are left there is a next one. -/
theorem drains_of_mem (waits : endpoint ∈ state.events) : Drains state endpoint := by
  induction size : (state.queues endpoint).values.length using Nat.strong_induction_on
    generalizing state with
  | _ size fewer =>
  obtain ⟨before, after, split, ahead⟩ := eq_append_cons_of_mem waits
  induction before generalizing state after with
  | nil =>
    obtain ⟨next, taken, queues, events⟩ := exists_publication split
    by_cases empty : (state.queues endpoint).values = []
    · exact ⟨0, state, rfl, empty⟩
    refine Drains.step taken ?_
    have here : next.queues endpoint =
        ((state.queues endpoint).process (catalog.traits endpoint)).1 := by
      rw [queues, update_self]
    by_cases left : ((state.queues endpoint).take (catalog.traits endpoint)).1 = []
    · refine ⟨0, next, rfl, ?_⟩
      rw [here]
      exact left
    · refine fewer _ ?_ ?_ rfl
      · rw [here, ← size]
        exact length_take_lt _ empty
      · rw [events, if_pos]
        · exact mem_append_right _ mem_cons_self
        · exact process_pending left
  | cons other before ih =>
    obtain ⟨next, taken, queues, events⟩ :=
      exists_publication (split.trans (cons_append ..))
    have different : endpoint ≠ other := fun same => ahead (same ▸ mem_cons_self)
    have kept : next.queues endpoint = state.queues endpoint := by
      rw [queues, update_of_ne different]
    rw [append_assoc] at events
    refine Drains.step taken (ih ?_ ?_ _ events ?_)
    · rw [events]
      exact mem_append_right _ mem_cons_self
    · rw [kept]
      exact size
    · exact fun inside => ahead (mem_cons_of_mem _ inside)

end

/-! ### No stranded publications -/

theorem events_write (state : Publications catalog) (endpoint : catalog.Endpoint)
    (context : WriteContext) (value : Value) :
    (state.write endpoint context value).events = state.events ++
      if ((state.queues endpoint).write (catalog.traits endpoint) context value).2.2 then [endpoint]
      else [] :=
  events_notify _ _ _

/-- A queue has its event, or every write that the facility takes queues one. -/
def Attended (state : Publications catalog) (endpoint : catalog.Endpoint) : Prop :=
  ((state.queues endpoint).wakePending = true ∧ endpoint ∈ state.events) ∨
    ∀ context value, context.refusal? (catalog.traits endpoint).kind = none →
      (state.write endpoint context value).events = state.events ++ [endpoint]

/-- In every run whose subscriptions start the interest in queues that are awake or take values, a
queue that somebody is subscribed to has its event, or gets it from the next write. With its event
it is emptied. -/
theorem no_stranded_publications (reached : (publicationMachine catalog).ReachableWhere
      (fun state label => state.opensAwake label = true) {} state)
    (endpoint : catalog.Endpoint) (subscribed : ∃ link, state.subscribed link endpoint = true) :
    state.Attended endpoint ∧ ((state.queues endpoint).wakePending = true → state.Drains endpoint) ∧
      ∀ context value, context.refusal? (catalog.traits endpoint).kind = none →
        (state.write endpoint context value).Drains endpoint := by
  have attentive := attentive_of_reachable reached
  obtain ⟨link, active⟩ := subscribed
  have interest := attentive.interested active
  have attended : state.Attended endpoint := by
    cases pending : (state.queues endpoint).wakePending with
    | true => exact .inl ⟨pending, attentive.awake endpoint pending⟩
    | false =>
      refine .inr fun context value permitted => ?_
      have open_ : (state.queues endpoint).isClosed (catalog.traits endpoint) = false := by
        by_contra closed
        have awake := attentive.heard endpoint interest (eq_true_of_ne_false closed)
        exact Bool.false_ne_true (pending.symm.trans awake)
      have queued := queued_of_not_isClosed context value permitted interest pending open_
      rw [events_write, if_pos queued]
  refine ⟨attended, fun pending => drains_of_mem (attentive.awake endpoint pending), ?_⟩
  intro context value permitted
  refine drains_of_mem ?_
  obtain ⟨_, waits⟩ | queues := attended
  · rw [events_write]
    exact mem_append_left _ waits
  · rw [queues context value permitted]
    exact mem_append_right _ mem_cons_self

/-- A Push stream whose queue of three rejects what does not fit, on one link. -/
def rejectingCatalog : QueueCatalog UInt8 where
  linkCount := 1
  linkCount_le := by decide
  endpoints := [{
    kind := .push { acquisition := .push, policies := [.batch 3] }
    schema := byteSchema
    depth := 3
    depth_pos := by decide
    overflow := .reject }]

namespace Rejecting

def link : rejectingCatalog.Link := ⟨0, by decide⟩

def endpoint : rejectingCatalog.Endpoint := ⟨0, by decide⟩

def write (value : UInt8) : PublicationLabel rejectingCatalog := .write endpoint {} value

/-- Somebody subscribes, and then values are written. -/
def heard : List (PublicationLabel rejectingCatalog) :=
  [.subscription link endpoint true, write 1, write 2, write 3]

/-- The queue is filled, and then somebody subscribes. -/
def unheard : List (PublicationLabel rejectingCatalog) :=
  [write 1, write 2, write 3, .subscription link endpoint true]

end Rejecting

/-- A queue that was filled with somebody listening is emptied. -/
theorem no_stranded_publications_heard :
    ∃ state : Publications rejectingCatalog,
      (state.queues Rejecting.endpoint).values = [1, 2, 3] ∧ state.Drains Rejecting.endpoint := by
  refine ⟨((publicationMachine rejectingCatalog).run {} Rejecting.heard).get (by decide),
    by decide, ?_⟩
  refine (no_stranded_publications ?_ Rejecting.endpoint ⟨Rejecting.link, by decide⟩).2.1
    (by decide)
  exact Transition.Machine.reachableWhere_get _ _ _ _ (by decide) _

/-- A queue that was filled with nobody listening has no event, and no write gives it one. -/
theorem stranded_publications :
    ∃ state : Publications rejectingCatalog,
      (publicationMachine rejectingCatalog).Reachable {} state ∧
      state.subscribed Rejecting.link Rejecting.endpoint = true ∧
      (state.queues Rejecting.endpoint).values ≠ [] ∧ ¬ state.Attended Rejecting.endpoint := by
  refine ⟨((publicationMachine rejectingCatalog).run {} Rejecting.unheard).get (by decide),
    Transition.Machine.reachable_get _ _ _ _, by decide, by decide, ?_⟩
  rintro (⟨pending, _⟩ | queues)
  · exact absurd pending (by decide)
  · exact absurd (queues {} 4 (by decide)) (by decide)

end Publications

end Solar.Remote
