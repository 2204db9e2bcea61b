/-
This file proves when a clean parameter with a record of its own is durable:
loading the store's content gives the value the slot holds.

A work is captured under the write gate and saved later under the persistence
gate, so a thread can save a value that was replaced in between. Its finish does
not clear the slot then, but it does not make a slot dirty again either: when
another thread has saved the newer value meanwhile, the slot stays clean over
the older record. The result is about the runs in which no work is saved that
late, no captured work outlives all other revisions of its parameter, and a
value is written once its record is.
-/

import Solar.Parameters.Boot
import Solar.Parameters.Transactions

namespace Solar.Parameters

open List Option Words

namespace Facility

variable {A : Architecture} {parameter : A.Parameter}

/-! ### What a record loads -/

/-- The value a slot has after its record was loaded. -/
def loads (A : Architecture) (parameter : A.Parameter) (content : Option Bytes) :
    A.Value parameter :=
  (loadSlot A parameter content (initialSlot A parameter)).1.value

/-- The value is one its validation leaves as it is. -/
def Settled (A : Architecture) (parameter : A.Parameter) (value : A.Value parameter) : Prop :=
  (A.declaration parameter).normalize.Keeps value

/-- The codec and the validation of the parameter keep to what the facility relies on. -/
structure Sound (A : Architecture) (parameter : A.Parameter) : Prop where
  lawful : (A.declaration parameter).codec.Lawful
  settles : Settles (A.declaration parameter).normalize

theorem settled_default (A : Architecture) (parameter : A.Parameter) :
    Settled A parameter (A.declaration parameter).defaultValue :=
  ⟨false, (A.declaration parameter).valid_default⟩

variable {Value : Type}

theorem encodeFull_eq_ok {codec : Codec Value} {value : Value} {bytes : Bytes}
    (encoded : codec.encodeFull value = .ok bytes) :
    codec.encode value = .ok bytes ∧ bytes.length = codec.encodedSize := by
  unfold Codec.encodeFull at encoded
  split at encoded
  · exact nomatch encoded
  next written =>
  split_ifs at encoded with short
  obtain rfl := Except.ok.inj encoded
  exact ⟨written, not_not.mp short⟩

theorem length_encodeRecord {key : Key} {version : UInt16} {payload record : Bytes} {size : Nat}
    (encoded : encodeRecord key version payload size = .ok record) :
    record.length = envelopeSize + payload.length := by
  unfold encodeRecord at encoded
  split_ifs at encoded with short
  rw [← Except.ok.inj encoded, length_append, length_envelope]

variable {environment : Environment A} {before : Facility A} {commit : Commit}
  {value : A.Value parameter} {after : Facility A} {other : A.Parameter} (facility : Facility A)
  {reset : Bool}

variable {record : Bytes}

theorem settled_of_read (settles : Settles (A.declaration parameter).normalize)
    {source : LoadSource} (read : readParameterRecord A parameter record = .ok (value, source)) :
    Settled A parameter value := by
  unfold readParameterRecord at read
  split_ifs at read
  split at read
  · exact nomatch read
  split_ifs at read
  split at read
  · exact nomatch read
  split at read
  · exact nomatch read
  next normalized accepted =>
  obtain ⟨⟩ := Except.ok.inj read
  exact settles _ _ accepted

/-- A record that was written is read back. -/
theorem readParameterRecord_encoded (sound : Sound A parameter)
    (single : A.persistence parameter = .single commit) (settled : Settled A parameter value)
    (encoded : encodePersistentValue A parameter value = .ok record) :
    readParameterRecord A parameter record = .ok (value, .store) := by
  unfold encodePersistentValue at encoded
  split at encoded
  · exact nomatch encoded
  next payload written =>
  obtain ⟨wrote, full⟩ := encodeFull_eq_ok written
  have fits := A.encoded_size_le parameter commit single
  have bounded := A.maxEncodedRecordBytes_le
  have length := length_encodeRecord encoded
  have decoded := decodeRecord_encodeRecord (by omega) encoded
  have short : ¬ A.maxEncodedRecordBytes < record.length := by omega
  have own : ¬ ((A.persistenceKey parameter).kind.code ≠ RecordKind.parameter.code ∨
      (A.persistenceKey parameter).stableId ≠ (A.declaration parameter).stableId) := by
    simp [Architecture.persistenceKey]
  have reads := sound.lawful value payload wrote full
  have payloads : readParameterPayload A parameter (A.declaration parameter).version payload =
      .ok (value, .store) := by
    simp [readParameterPayload, reads, Except.map]
  obtain ⟨adjusted, kept⟩ := settled
  unfold readParameterRecord
  simp only [short, if_false, decoded, own, payloads, kept]

theorem loads_image (sound : Sound A parameter) (single : A.persistence parameter = .single commit)
    (settled : Settled A parameter value) {erase : Bool}
    (erased : erase = true → value = (A.declaration parameter).defaultValue)
    {content : Option Bytes} (image : parameterImage A parameter value erase = .ok content) :
    loads A parameter content = value := by
  cases erase with
  | true =>
    obtain rfl := Except.ok.inj image
    exact (erased rfl).symm
  | false =>
    cases encoded : encodePersistentValue A parameter value with
    | error status => simp [parameterImage, encoded, Except.map] at image
    | ok record =>
      simp only [parameterImage, encoded, Bool.false_eq_true, if_false, Except.map,
        Except.ok.injEq] at image
      subst image
      simp only [loads, loadSlot, readParameterRecord_encoded sound single settled encoded,
        Slot.markLoaded]

/-! ### Durable slots -/

/-- The slot over its record: a clean slot holds what the record loads. -/
structure DurableSlot (A : Architecture) (parameter : A.Parameter)
    (slot : Slot (A.Value parameter)) (content : Option Bytes) : Prop where
  settled : Settled A parameter slot.value
  revision : slot.pendingRevision = slot.revision
  erased : slot.erasePending = true → slot.value = (A.declaration parameter).defaultValue
  clean : slot.dirty = false → loads A parameter content = slot.value

/-- A captured work under a slot: while its revision is the pending one, its value is current. -/
structure FittingWork (A : Architecture) (parameter : A.Parameter)
    (slot : Slot (A.Value parameter)) (work : PersistenceWork (A.Value parameter)) : Prop where
  settled : Settled A parameter work.value
  erased : work.erase = true → work.value = (A.declaration parameter).defaultValue
  current : work.revision = slot.pendingRevision → work.value = slot.value

/-- Two slots that differ at most in what is shown and scheduled. -/
structure Agrees {Value : Type} (first second : Slot Value) : Prop where
  value : first.value = second.value
  revision : first.revision = second.revision
  pendingRevision : first.pendingRevision = second.pendingRevision
  dirty : first.dirty = second.dirty
  erasePending : first.erasePending = second.erasePending

theorem Agrees.refl (slot : Slot Value) : Agrees slot slot :=
  ⟨rfl, rfl, rfl, rfl, rfl⟩

section

variable {slot next : Slot (A.Value parameter)} {content : Option Bytes}

theorem DurableSlot.of_agrees (durable : DurableSlot A parameter slot content)
    (agrees : Agrees next slot) : DurableSlot A parameter next content where
  settled := agrees.value ▸ durable.settled
  revision := by rw [agrees.pendingRevision, agrees.revision, durable.revision]
  erased pending := by
    rw [agrees.value]
    exact durable.erased (agrees.erasePending ▸ pending)
  clean notDirty := by
    rw [agrees.value]
    exact durable.clean (agrees.dirty ▸ notDirty)

variable {work : PersistenceWork (A.Value parameter)}

theorem FittingWork.of_agrees (fits : FittingWork A parameter slot work)
    (value : next.value = slot.value)
    (pendingRevision : next.pendingRevision = slot.pendingRevision) :
    FittingWork A parameter next work where
  settled := fits.settled
  erased := fits.erased
  current same := by rw [value, fits.current (pendingRevision ▸ same)]

theorem durable_commitSlot (settled : Settled A parameter slot.value)
    (erased : reset = true → slot.value = (A.declaration parameter).defaultValue)
    (atOnce : commit = .immediate → loads A parameter content = slot.value) {now : Nat} :
    DurableSlot A parameter (commitSlot (some commit) now slot.revision reset slot) content := by
  cases commit with
  | immediate => exact ⟨settled, rfl, nofun, fun _ => atOnce rfl⟩
  | _ => exact ⟨settled, rfl, erased, nofun⟩

theorem value_commitSlot {Value : Type} (commit : Commit) (now : Nat) (revision : UInt64)
    (reset : Bool) (slot : Slot Value) :
    (commitSlot (some commit) now revision reset slot).value = slot.value := by
  cases commit <;> rfl

theorem pendingRevision_commitSlot {Value : Type} (commit : Commit) (now : Nat)
    (revision : UInt64) (reset : Bool) (slot : Slot Value) :
    (commitSlot (some commit) now revision reset slot).pendingRevision = revision := by
  cases commit <;> rfl

theorem DurableSlot.finish (durable : DurableSlot A parameter slot content)
    (fits : FittingWork A parameter slot work)
    (timely : slot.dirty = true ∨ work.value = slot.value) {saved : Option Bytes}
    (loaded : loads A parameter saved = work.value) :
    DurableSlot A parameter (slot.finishPersistence work.revision (.ok ())) saved := by
  unfold Slot.finishPersistence
  split_ifs with same
  · exact ⟨durable.settled, durable.revision, nofun, fun _ => loaded.trans (fits.current same.symm)⟩
  · refine ⟨durable.settled, durable.revision, durable.erased, fun notDirty => ?_⟩
    obtain dirty | current := timely
    · exact absurd dirty (by rw [notDirty]; exact nofun)
    · exact loaded.trans current

end

/-! ### Records apart from each other -/

theorem parameterRecord_putParameter_of_ne (different : parameter ≠ other)
    (persistent : A.persistence parameter ≠ .volatile)
    (otherPersistent : A.persistence other ≠ .volatile) {facility : Facility A}
    {content : Option Bytes} :
    (facility.putParameter other content).parameterRecord parameter =
      facility.parameterRecord parameter := by
  refine stored_putRecord_of_ne _ _ _ _ fun same => different ?_
  exact A.stableId_injective parameter other persistent otherPersistent
    (congrArg (fun place => place.2.stableId) same)

theorem parameterRecord_putGroup {group : A.Group} :
    (facility.putGroup group record).parameterRecord parameter =
      facility.parameterRecord parameter :=
  stored_putRecord_of_ne _ _ _ _ fun same => nomatch congrArg (fun place => place.2.kind) same

theorem parameterRecord_putParameter_self (content : Option Bytes) :
    (facility.putParameter parameter content).parameterRecord parameter = content :=
  stored_putRecord_self ..

/-! ### What a set does to the parameter -/

/-- What an operation under the write gate does to a parameter: it leaves it alone, marks it once
more, or gives it a new value with the next revision. -/
inductive Outcome (A : Architecture) (parameter : A.Parameter) (before after : Facility A) : Prop
  | kept (slot : Agrees (after.slot parameter) (before.slot parameter))
      (record : after.parameterRecord parameter = before.parameterRecord parameter)
  | committed (commit : Commit) (base : Slot (A.Value parameter)) (now : Nat) (reset : Bool)
      (slot : after.slot parameter = commitSlot (some commit) now base.revision reset base)
      (settled : Settled A parameter base.value)
      (erased : reset = true → base.value = (A.declaration parameter).defaultValue)
      (atOnce : commit = .immediate →
        loads A parameter (after.parameterRecord parameter) = base.value)
      (origin : base = before.slot parameter ∨
        base.revision = (before.slot parameter).revision + 1 ∧
          base.value ≠ (before.slot parameter).value)

theorem Outcome.refl : Outcome A parameter facility facility :=
  .kept (.refl _) rfl

theorem Outcome.durable (outcome : Outcome A parameter before after)
    (durable : DurableSlot A parameter (before.slot parameter) (before.parameterRecord parameter)) :
    DurableSlot A parameter (after.slot parameter) (after.parameterRecord parameter) := by
  cases outcome with
  | kept slot record =>
    rw [record]
    exact durable.of_agrees slot
  | committed commit base now reset slot settled erased atOnce origin =>
    rw [slot]
    exact durable_commitSlot settled erased atOnce

theorem Outcome.fits (outcome : Outcome A parameter before after)
    (durable : DurableSlot A parameter (before.slot parameter) (before.parameterRecord parameter))
    {work : PersistenceWork (A.Value parameter)}
    (fresh : (after.slot parameter).value ≠ (before.slot parameter).value →
      work.revision ≠ (before.slot parameter).revision + 1)
    (fits : FittingWork A parameter (before.slot parameter) work) :
    FittingWork A parameter (after.slot parameter) work := by
  cases outcome with
  | kept slot record => exact fits.of_agrees slot.value slot.pendingRevision
  | committed commit base now reset slot settled erased atOnce origin =>
    have value : (after.slot parameter).value = base.value := by rw [slot, value_commitSlot]
    have pending : (after.slot parameter).pendingRevision = base.revision := by
      rw [slot, pendingRevision_commitSlot]
    obtain rfl | ⟨next, changed⟩ := origin
    · exact fits.of_agrees value (pending.trans durable.revision.symm)
    · refine ⟨fits.settled, fits.erased, fun same => absurd (same.trans (pending.trans next)) ?_⟩
      exact fresh (value ▸ changed)

theorem Agrees.failed (slot : Slot Value) :
    Agrees slot.markPersistenceFailure slot := ⟨rfl, rfl, rfl, rfl, rfl⟩

/-- The value of the parameter is written once its record is. -/
def WritesThrough (A : Architecture) (parameter : A.Parameter) (environment : Environment A) :
    Prop :=
  A.persistence parameter = .single .immediate → (environment.write parameter).isOk = true

/-- A granted preparation of a parameter with a record of its own. -/
theorem Prepares.of_ok {facility prepared : Facility A}
    (ended : Prepares environment parameter value reset facility (prepared, .ok ()))
    (single : A.persistence parameter = .single commit) :
    prepared.slot = facility.slot ∧ ((commit ≠ .immediate ∧ prepared.parameterRecord parameter =
          facility.parameterRecord parameter) ∨
        (commit = .immediate ∧ parameterImage A parameter value reset =
          .ok (prepared.parameterRecord parameter))) := by
  cases ended with
  | later notAtOnce =>
    refine ⟨rfl, .inl ⟨fun atOnce => notAtOnce ?_, rfl⟩⟩
    rw [Architecture.commit, single, atOnce]
  | own immediate image =>
    have same : commit = .immediate := by
      rw [single] at immediate
      exact Persistence.single.inj immediate
    refine ⟨rfl, .inr ⟨same, ?_⟩⟩
    rw [parameterRecord_putParameter_self]
    exact image
  | shared transactional =>
    rw [single] at transactional
    cases transactional

variable {now : Nat}

/-- A set of the parameter itself. -/
theorem outcome_set_self (sound : Sound A parameter)
    (single : A.persistence parameter = .single commit) {candidate : A.Value parameter}
    (resets : reset = true → candidate = (A.declaration parameter).defaultValue)
    (writes : WritesThrough A parameter environment)
    {result} (sets : Sets environment now parameter candidate reset before after result) :
    Outcome A parameter before after := by
  have commits : A.commit parameter = some commit := by rw [Architecture.commit, single]
  have erased : ∀ normalized, (A.declaration parameter).normalize candidate = some normalized →
      reset = true → normalized.value = (A.declaration parameter).defaultValue := by
    intro normalized accepted isReset
    rw [resets isReset, (A.declaration parameter).valid_default] at accepted
    exact (congrArg Normalized.value (some.inj accepted)).symm
  cases sets with
  | unchanged => exact .refl _
  | failed =>
    refine .kept ?_ rfl
    rw [slot_updateSlot_self]
    exact .failed _
  | unwritten accepted changes prepares refused =>
    obtain ⟨slots, ⟨_, record⟩ | ⟨atOnce, _⟩⟩ := prepares.of_ok single
    · exact .kept (by rw [slots]; exact .refl _) record
    · subst atOnce
      rw [writes single] at refused
      cases refused
  | @marked normalized prepared accepted same isReset prepares =>
    obtain ⟨slots, records⟩ := prepares.of_ok single
    have settled : Settled A parameter (before.slot parameter).value := by
      rw [same]
      exact sound.settles candidate normalized accepted
    refine .committed commit (before.slot parameter) now true ?_ settled ?_ ?_ (.inl rfl)
    · rw [slot_markCommitted_self, slots, commits]
    · intro _
      rw [same]
      exact erased normalized accepted isReset
    · intro atOnce
      obtain ⟨notAtOnce, _⟩ | ⟨_, image⟩ := records
      · exact absurd atOnce notAtOnce
      · rw [parameterRecord, stored_markCommitted, same]
        exact loads_image sound single (same ▸ settled)
          (fun _ => erased normalized accepted isReset) image
  | @committed normalized prepared accepted changes prepares granted =>
    obtain ⟨slots, records⟩ := prepares.of_ok single
    have settled : Settled A parameter normalized.value :=
      sound.settles candidate normalized accepted
    refine .committed commit ((before.slot parameter).commitValue normalized.value
      ((before.slot parameter).revision + 1)) now reset ?_ settled
      (erased normalized accepted) ?_ (.inr ⟨rfl, Ne.symm changes⟩)
    · rw [slot_markCommitted_self, slot_updateSlot_self, slots, commits]
      rfl
    · intro atOnce
      obtain ⟨notAtOnce, _⟩ | ⟨_, image⟩ := records
      · exact absurd atOnce notAtOnce
      · rw [parameterRecord, stored_markCommitted]
        exact loads_image sound single settled (erased normalized accepted) image

theorem Prepares.of_ne (different : parameter ≠ other)
    (persistent : A.persistence parameter ≠ .volatile) {value : A.Value other}
    {facility : Facility A} {outcome : Facility A × Except (Error A) Unit}
    (ended : Prepares environment other value reset facility outcome) :
    outcome.1.slot parameter = facility.slot parameter ∧
      outcome.1.parameterRecord parameter = facility.parameterRecord parameter := by
  cases ended with
  | failed => exact ⟨slot_updateSlot_of_ne _ _ _ different, rfl⟩
  | own single =>
    refine ⟨rfl, parameterRecord_putParameter_of_ne different persistent ?_⟩
    rw [single]
    simp
  | shared => exact ⟨rfl, parameterRecord_putGroup _⟩
  | _ => exact ⟨rfl, rfl⟩

theorem Outcome.of_eq (slot : after.slot parameter = before.slot parameter)
    (record : after.parameterRecord parameter = before.parameterRecord parameter) :
    Outcome A parameter before after :=
  .kept (by rw [slot]; exact .refl _) record

theorem set_of_ne (different : parameter ≠ other) (persistent : A.persistence parameter ≠ .volatile)
    {candidate : A.Value other}
    {result} (sets : Sets environment now other candidate reset before after result) :
    after.slot parameter = before.slot parameter ∧
      after.parameterRecord parameter = before.parameterRecord parameter := by
  cases sets with
  | unchanged => exact ⟨rfl, rfl⟩
  | failed => exact ⟨slot_updateSlot_of_ne _ _ _ different, rfl⟩
  | unwritten accepted changes prepares refused => exact prepares.of_ne different persistent
  | marked accepted same isReset prepares =>
    obtain ⟨slot, record⟩ := prepares.of_ne different persistent
    rw [slot_markCommitted_of_ne _ _ _ _ _ different, parameterRecord, stored_markCommitted]
    exact ⟨slot, record⟩
  | committed accepted changes prepares granted =>
    obtain ⟨slot, record⟩ := prepares.of_ne different persistent
    rw [slot_markCommitted_of_ne _ _ _ _ _ different, slot_updateSlot_of_ne _ _ _ different,
      parameterRecord, stored_markCommitted]
    exact ⟨slot, record⟩

/-! ### What a transaction does to the parameter -/

variable {states : List (TransactionState A)}

theorem prepareTransactionPersistence_frame (persistent : A.persistence parameter ≠ .volatile)
    (apart : ∀ state ∈ states, A.persistence state.parameter = .single .immediate →
      parameter ≠ state.parameter) {facility : Facility A} :
    (facility.prepareTransactionPersistence environment states).1.slot parameter =
        facility.slot parameter ∧
      (facility.prepareTransactionPersistence environment states).1.parameterRecord parameter =
        facility.parameterRecord parameter := by
  refine prepareTransactionPersistence_rule (motive := fun next =>
    next.slot parameter = facility.slot parameter ∧
      next.parameterRecord parameter = facility.parameterRecord parameter) ?_ ?_ ⟨rfl, rfl⟩
  · intro next holds state listed single _ outcome ended
    obtain ⟨slot, record⟩ := ended.of_ne (apart state listed single) persistent
    exact ⟨slot.trans holds.1, record.trans holds.2⟩
  · intro next holds group _ _ _ record _ _
    exact ⟨holds.1, (parameterRecord_putGroup _).trans holds.2⟩

/-- A transaction over one parameter that is written at once prepares as a set does. -/
theorem prepareTransactionPersistence_single {state : TransactionState A}
    (single : A.persistence state.parameter = .single .immediate) (facility : Facility A) :
    facility.prepareTransactionPersistence environment [state] =
      if state.changed then
        facility.prepareImmediatePersistence environment state.parameter state.normalized.value
          false
      else (facility, .ok ()) := by
  have untouched : ∀ groups (next : Facility A),
      next.prepareTransactionGroups environment [state] groups = (next, .ok ()) := by
    intro groups next
    induction groups with
    | nil => rfl
    | cons group rest ih =>
      have outside : ¬ touchesGroup [state] group = true := by
        intro touched
        simp only [touchesGroup, any_cons, any_nil, Bool.or_false, Bool.and_eq_true,
          decide_eq_true_eq] at touched
        have transactional := (A.transactional_iff state.parameter group).mpr touched.2
        rw [single] at transactional
        exact nomatch transactional
      rw [prepareTransactionGroups, if_neg outside, ih]
  unfold prepareTransactionPersistence prepareTransactionParameters
  by_cases changed : state.changed = true
  · rw [if_pos ⟨single, changed⟩, if_pos changed]
    generalize facility.prepareImmediatePersistence environment state.parameter
      state.normalized.value false = outcome
    obtain ⟨prepared, _ | _⟩ := outcome
    · rfl
    · exact untouched A.groups prepared
  · rw [if_neg fun both => changed both.2, if_neg changed]
    exact untouched A.groups facility

/-- Once a changed value is written, all values of the transaction are, or the value is undone and
no record was written before it. -/
def Rewinds (parameter : A.Parameter) (environment : Environment A) (transaction : Transaction A)
    (facility : Facility A) : Prop :=
  ∀ assignment ∈ transaction.assignments, assignment.parameter = parameter →
    ∀ normalized, (A.declaration assignment.parameter).normalize assignment.value =
      some normalized → (facility.slot assignment.parameter).value ≠ normalized.value →
    (∀ other ∈ transaction.assignments, (environment.write other.parameter).isOk = true) ∨
      A.persistence parameter ≠ .single .immediate ∧ (environment.restore parameter).isOk = true

theorem Captures.write_refused {facility : Facility A} {assignments : List (Assignment A)}
    (captures : facility.Captures assignments states)
    (refused : ∃ state ∈ states, state.changed = true ∧
      (environment.write state.parameter).isOk = false) :
    ¬ ∀ assignment ∈ assignments, (environment.write assignment.parameter).isOk = true := by
  intro granted
  obtain ⟨state, listed, _, refusal⟩ := refused
  obtain ⟨assignment, assigned, normalized, _, rfl⟩ := captures.exists_of_mem listed
  have contrary := granted assignment assigned
  rw [show (facility.captureState assignment.parameter normalized).parameter =
    assignment.parameter from rfl] at refusal
  rw [refusal] at contrary
  exact Bool.false_ne_true contrary

section

variable {commit : Commit} {environment : Environment A} {now : Nat}
  {transaction : Transaction A} {before : Facility A}
  {outcome : Facility A × Except (Error A) TransactionUpdate}

/-- A transaction that does not assign the parameter. -/
theorem setAll_of_not_mem (persistent : A.persistence parameter ≠ .volatile)
    (absent : parameter ∉ transaction.assignments.map (·.parameter))
    (ended : SetsAll environment now transaction before outcome) :
    outcome.1.slot parameter = before.slot parameter ∧
      outcome.1.parameterRecord parameter = before.parameterRecord parameter := by
  have frame : ∀ {states}, before.Captures transaction.assignments states →
      parameter ∉ states.map (·.parameter) ∧
        (before.prepareTransactionPersistence environment states).1.slot parameter =
          before.slot parameter ∧
        (before.prepareTransactionPersistence environment states).1.parameterRecord parameter =
          before.parameterRecord parameter := by
    intro states captures
    have outside : parameter ∉ states.map (·.parameter) := captures.map_parameter ▸ absent
    refine ⟨outside, prepareTransactionPersistence_frame persistent ?_⟩
    exact fun state listed _ same => outside (same ▸ mem_map_of_mem listed)
  cases ended with
  | refused => exact ⟨rfl, rfl⟩
  | unprepared captures prepares =>
    have kept := (frame captures).2
    rwa [prepares] at kept
  | unwritten captures prepares split refused =>
    obtain ⟨outside, kept⟩ := frame captures
    rw [prepares] at kept
    rwa [slot_restored_of_not_mem outside split, parameterRecord, stored_restored]
  | committed captures prepares granted =>
    obtain ⟨outside, kept⟩ := frame captures
    rw [prepares] at kept
    rwa [slot_committed_of_not_mem outside now, parameterRecord, stored_committed]

/-- A transaction that assigns the parameter, which is not written at once. -/
theorem outcome_setAll_later {assignment : Assignment A}
    (sound : Sound A assignment.parameter)
    (single : A.persistence assignment.parameter = .single commit)
    (notAtOnce : commit ≠ .immediate) (assigned : assignment ∈ transaction.assignments)
    (rewinds : Rewinds assignment.parameter environment transaction before)
    (ended : SetsAll environment now transaction before outcome) :
    Outcome A assignment.parameter before outcome.1 := by
  have commits : A.commit assignment.parameter = some commit := by rw [Architecture.commit, single]
  have persistent : A.persistence assignment.parameter ≠ .volatile := by
    rw [single]
    simp
  have frame : ∀ states,
      (before.prepareTransactionPersistence environment states).1.slot assignment.parameter =
          before.slot assignment.parameter ∧
        (before.prepareTransactionPersistence environment states).1.parameterRecord
          assignment.parameter = before.parameterRecord assignment.parameter := by
    intro states
    refine prepareTransactionPersistence_frame persistent (fun state _ immediate same => ?_)
    rw [← same, single] at immediate
    exact notAtOnce (Persistence.single.inj immediate)
  cases ended with
  | refused => exact .refl _
  | @unprepared states prepared error captures prepares =>
    obtain ⟨slot, record⟩ := frame states
    rw [prepares] at slot record
    exact .of_eq slot record
  | @unwritten states done rest prepared error captures prepares split refused =>
    obtain ⟨slot, record⟩ := frame states
    rw [prepares] at slot record
    have restored : (prepared.undone environment done states).slot assignment.parameter =
        before.slot assignment.parameter := by
      refine (captures.slot_undone captures.distinct split (congrArg Slot.value slot) ?_).trans slot
      intro state inStates same changed
      obtain ⟨other, inTransaction, normalized, accepted, rfl⟩ := captures.exists_of_mem inStates
      obtain granted | ⟨_, granted⟩ :=
        rewinds other inTransaction same normalized accepted (of_decide_eq_true changed)
      · exact absurd granted (captures.write_refused refused)
      · exact granted
    refine .of_eq restored ?_
    rw [parameterRecord, stored_restored]
    exact record
  | @committed states prepared captures prepares granted update =>
    obtain ⟨slot, record⟩ := frame states
    rw [prepares] at slot record
    obtain ⟨normalized, accepted, listed⟩ := captures.exists_of_assignment assigned
    have final := slot_committed_captured captures.distinct listed now prepared
    have stored : (prepared.committed now states).parameterRecord assignment.parameter =
          before.parameterRecord assignment.parameter := by
      rw [parameterRecord, stored_committed]
      exact record
    split_ifs at final with changes
    · refine .committed commit ((before.slot assignment.parameter).commitValue normalized.value
        ((before.slot assignment.parameter).revision + 1)) now false ?_
        (sound.settles _ _ accepted) (by simp) (fun atOnce => absurd atOnce notAtOnce)
        (.inr ⟨rfl, Ne.symm changes⟩)
      rw [final, slot, commits]
      rfl
    · exact .of_eq (final.trans slot) stored

/-- A transaction of the one parameter, which is written at once. -/
theorem outcome_setAll_atOnce {assignment : Assignment A}
    (sound : Sound A assignment.parameter)
    (single : A.persistence assignment.parameter = .single .immediate)
    (assigned : assignment ∈ transaction.assignments)
    (rewinds : Rewinds assignment.parameter environment transaction before)
    (ended : SetsAll environment now transaction before outcome) :
    Outcome A assignment.parameter before outcome.1 := by
  have commits : A.commit assignment.parameter = some .immediate := by
    rw [Architecture.commit, single]
  have alone : transaction.assignments = [assignment] := by
    obtain ⟨only, same⟩ := length_eq_one_iff.mp (transaction.durable.resolve_right
      fun others => others assignment assigned single)
    rw [same] at assigned ⊢
    rw [mem_singleton.mp assigned]
  have one : ∀ {states}, before.Captures transaction.assignments states → ∃ normalized,
      (A.declaration assignment.parameter).normalize assignment.value = some normalized ∧
        states = [before.captureState assignment.parameter normalized] := by
    intro states captures
    rw [alone] at captures
    obtain ⟨_, _, ⟨normalized, accepted, rfl⟩, none, rfl⟩ := forall₂_cons_left_iff.mp captures
    rw [forall₂_nil_left_iff.mp none]
    exact ⟨normalized, accepted, rfl⟩
  have prepared_eq : ∀ normalized outcome, before.prepareTransactionPersistence environment
      [before.captureState assignment.parameter normalized] = outcome →
      ((before.slot assignment.parameter).value ≠ normalized.value ∧
        Prepares environment assignment.parameter normalized.value false before outcome) ∨
      ((before.slot assignment.parameter).value = normalized.value ∧ outcome = (before, .ok ())) := by
    intro normalized outcome prepares
    rw [prepareTransactionPersistence_single single] at prepares
    split_ifs at prepares with changed
    · refine .inl ⟨of_decide_eq_true changed, ?_⟩
      rw [← prepares]
      exact Facility.prepares environment assignment.parameter normalized.value false before
    · exact .inr ⟨not_not.mp fun changes => changed (decide_eq_true changes), prepares.symm⟩
  cases ended with
  | refused => exact .refl _
  | unprepared captures prepares =>
    obtain ⟨normalized, accepted, rfl⟩ := one captures
    obtain ⟨_, ended⟩ | ⟨_, same⟩ := prepared_eq _ _ prepares
    · obtain rfl | rfl := ended.eq_of_error
      · exact .refl _
      · refine .kept ?_ rfl
        rw [slot_updateSlot_self]
        exact .failed _
    · cases same
  | unwritten captures prepares split refused =>
    obtain ⟨normalized, accepted, rfl⟩ := one captures
    have changes : (before.slot assignment.parameter).value ≠ normalized.value := by
      obtain ⟨state, listed, changed, _⟩ := refused
      rw [mem_singleton.mp listed] at changed
      exact of_decide_eq_true changed
    obtain granted | ⟨notAtOnce, _⟩ := rewinds assignment assigned rfl normalized accepted changes
    · exact absurd granted (captures.write_refused refused)
    · exact absurd single notAtOnce
  | @committed states prepared captures prepares granted update =>
    have distinct : (states.map (·.parameter)).Nodup :=
      captures.map_parameter ▸ transaction.distinct
    obtain ⟨normalized, accepted, rfl⟩ := one captures
    have final := slot_committed_captured distinct (mem_singleton_self _) now prepared
    obtain ⟨changes, ended⟩ | ⟨same, left⟩ := prepared_eq _ _ prepares
    · obtain ⟨slots, ⟨notAtOnce, _⟩ | ⟨_, image⟩⟩ := ended.of_ok single
      · exact absurd rfl notAtOnce
      have settled := sound.settles _ _ accepted
      refine .committed .immediate ((before.slot assignment.parameter).commitValue
        normalized.value ((before.slot assignment.parameter).revision + 1)) now false ?_
        settled (by simp) (fun _ => ?_) (.inr ⟨rfl, Ne.symm changes⟩)
      · rw [final, if_pos changes, commits]
        rfl
      · rw [parameterRecord, stored_committed]
        exact loads_image sound single settled
          (fun contrary => absurd contrary Bool.false_ne_true) image
    · obtain rfl : prepared = before := congrArg Prod.fst left
      refine .of_eq ?_ ?_
      · rw [final, if_neg (not_not.mpr same)]
      · rw [parameterRecord, stored_committed]
        rfl

end

theorem outcome_setAll (sound : Sound A parameter)
    (single : A.persistence parameter = .single commit) {transaction : Transaction A}
    {outcome : Facility A × Except (Error A) TransactionUpdate}
    (assigned : parameter ∈ transaction.assignments.map (·.parameter))
    (rewinds : Rewinds parameter environment transaction before)
    (ended : SetsAll environment now transaction before outcome) :
    Outcome A parameter before outcome.1 := by
  obtain ⟨assignment, listed, rfl⟩ := mem_map.mp assigned
  by_cases atOnce : commit = .immediate
  · subst atOnce
    exact outcome_setAll_atOnce sound single listed rewinds ended
  · exact outcome_setAll_later sound single atOnce listed rewinds ended

/-! ### What a save does to other parameters -/

theorem persistWork_of_ne (different : parameter ≠ other)
    (persistent : A.persistence parameter ≠ .volatile)
    (otherPersistent : A.persistence other ≠ .volatile) (facility : Facility A)
    {work : PersistenceWork (A.Value other)} :
    (facility.persistWork environment other work).1.slot parameter = facility.slot parameter ∧
      (facility.persistWork environment other work).1.parameterRecord parameter =
        facility.parameterRecord parameter := by
  unfold persistWork
  rw [slot_updateSlot_of_ne _ _ _ different, parameterRecord, stored_updateSlot]
  obtain ⟨status, failed⟩ | ⟨content, _, _, saved⟩ :=
    facility.persistValue_cases environment other work.value work.erase
  · rw [failed]
    exact ⟨rfl, rfl⟩
  · rw [saved]
    exact ⟨rfl, parameterRecord_putParameter_of_ne different persistent otherPersistent⟩

theorem persistGroupWork_of_not_mem {group : A.Group}
    (outside : parameter ∉ (A.group group).members) (facility : Facility A)
    (environment : Environment A) (revision : UInt64) (payload : Bytes) :
    (facility.persistGroupWork environment group revision payload).1.slot parameter =
        facility.slot parameter ∧
      (facility.persistGroupWork environment group revision payload).1.parameterRecord parameter =
        facility.parameterRecord parameter := by
  unfold persistGroupWork
  rw [slot_updateSlots_of_not_mem outside, slot_updateGroup, parameterRecord, stored_updateSlots,
    stored_updateGroup]
  obtain ⟨status, failed⟩ | ⟨record, _, _, saved⟩ :=
    facility.saveGroupPayload_cases environment group payload
  · rw [failed]
    exact ⟨rfl, rfl⟩
  · rw [saved]
    exact ⟨rfl, parameterRecord_putGroup _⟩

/-! ### After the boot -/

/-- After the boot, a parameter with a record of its own is durable. -/
theorem durable_boot (sound : Sound A parameter) (single : A.persistence parameter = .single commit)
    {contents : A.Store → Key → Option Bytes} {start : Facility A}
    (booted : boot A contents = .ok start) :
    DurableSlot A parameter (start.slot parameter) (start.parameterRecord parameter) := by
  have slot := slot_boot single booted
  have clean : loads A parameter (start.parameterRecord parameter) =
      (start.slot parameter).value := by
    rw [slot]
    rfl
  suffices settled : Settled A parameter (start.slot parameter).value ∧
      (start.slot parameter).pendingRevision = (start.slot parameter).revision ∧
      (start.slot parameter).erasePending = false by
    refine ⟨settled.1, settled.2.1, fun pending => ?_, fun _ => clean⟩
    rw [settled.2.2] at pending
    exact nomatch pending
  rw [slot]
  unfold loadSlot
  split
  · exact ⟨settled_default A parameter, rfl, rfl⟩
  next record _ =>
  split
  · exact ⟨settled_default A parameter, rfl, rfl⟩
  · next value read => exact ⟨settled_of_read sound.settles read, rfl, rfl⟩
  · next value read => exact ⟨settled_of_read sound.settles read, rfl, rfl⟩

end Facility

/-! ### Runs -/

namespace System

variable {A : Architecture} {parameter : A.Parameter} {system : System A}

theorem encodeGroup_eq {next : System A} {environment : Environment A} {index : Nat}
    (stepped : system.encodeGroup environment index = some next) :
    ∃ groupWorks, next = { system with groupWorks } := by
  unfold System.encodeGroup at stepped
  split at stepped
  · split at stepped
    · exact ⟨_, (some.inj stepped).symm⟩
    · split at stepped
      · exact ⟨_, (some.inj stepped).symm⟩
      · exact ⟨_, (some.inj stepped).symm⟩
  · exact nomatch stepped

/-- The parameter is durable, and the works captured for it fit. Only parameters with records are
captured. -/
structure DurableParameter (parameter : A.Parameter) (system : System A) : Prop where
  persistent : ∀ captured ∈ system.works, A.persistence captured.parameter ≠ .volatile
  slot : Facility.DurableSlot A parameter (system.facility.slot parameter)
    (system.facility.parameterRecord parameter)
  works : ∀ work, ⟨parameter, work⟩ ∈ system.works →
    Facility.FittingWork A parameter (system.facility.slot parameter) work

/-- No captured work carries the revision the parameter is given next. -/
def FreshRevision (parameter : A.Parameter) (system : System A) : Prop :=
  ∀ work, ⟨parameter, work⟩ ∈ system.works →
    work.revision ≠ (system.facility.slot parameter).revision + 1

/-- What is asked of a step, for one parameter. A captured work is saved only while the parameter is
dirty or still has the captured value. A change of the parameter gives it a revision that no captured
work carries, and writes its value once the record is written; a transaction that fails to write its
values undoes this one. -/
def InTime (parameter : A.Parameter) (system : System A) : SystemLabel A → Prop
  | .set environment name _ _ | .reset environment name _ => name = parameter →
      Facility.WritesThrough A parameter environment ∧ FreshRevision parameter system
  | .setAll environment transaction =>
      Facility.Rewinds parameter environment transaction system.facility ∧
        (parameter ∈ transaction.assignments.map (·.parameter) → FreshRevision parameter system)
  | .commit environment index => ∀ work, system.works[index]? = some ⟨parameter, work⟩ →
      (environment.store (A.persistenceKey parameter)).isOk = true →
        (system.facility.slot parameter).dirty = true ∨
          work.value = (system.facility.slot parameter).value
  | _ => True

theorem DurableParameter.of_outcome (holds : DurableParameter parameter system) {next : Facility A}
    (outcome : Facility.Outcome A parameter system.facility next)
    (fresh : FreshRevision parameter system) :
    DurableParameter parameter { system with facility := next } where
  persistent := holds.persistent
  slot := outcome.durable holds.slot
  works work captured := outcome.fits holds.slot (fun _ => fresh work captured)
    (holds.works work captured)

theorem DurableParameter.of_agrees {next : System A} (holds : DurableParameter parameter system)
    (slot : Facility.Agrees (next.facility.slot parameter) (system.facility.slot parameter))
    (record : next.facility.parameterRecord parameter = system.facility.parameterRecord parameter)
    (works : next.works ⊆ system.works) : DurableParameter parameter next where
  persistent captured listed := holds.persistent captured (works listed)
  slot := record ▸ holds.slot.of_agrees slot
  works work captured := (holds.works work (works captured)).of_agrees slot.value
    slot.pendingRevision

theorem DurableParameter.of_eq (holds : DurableParameter parameter system) {next : Facility A}
    (kept : next.slot parameter = system.facility.slot parameter ∧
      next.parameterRecord parameter = system.facility.parameterRecord parameter) :
    DurableParameter parameter { system with facility := next } :=
  holds.of_agrees (by rw [kept.1]; exact .refl _) kept.2 (Subset.refl _)

section

variable (sound : Facility.Sound A parameter) {commit : Commit}
  (single : A.persistence parameter = .single commit)

include single in
theorem persistent_of_single : A.persistence parameter ≠ .volatile := by
  rw [single]
  exact nofun

include sound single

variable {system : System A} {environment : Environment A}

theorem DurableParameter.of_set (holds : DurableParameter parameter system) {name : A.Parameter}
    {candidate : A.Value name} {noWait reset : Bool}
    (resets : reset = true → candidate = (A.declaration name).defaultValue)
    (inTime : name = parameter →
      Facility.WritesThrough A parameter environment ∧ FreshRevision parameter system) :
    DurableParameter parameter { system with facility := (system.facility.setParameter environment
      system.now name candidate noWait reset).1 } := by
  have sets := Facility.sets environment system.now name candidate noWait reset system.facility
  by_cases same : parameter = name
  · subst same
    obtain ⟨writes, fresh⟩ := inTime rfl
    exact holds.of_outcome (Facility.outcome_set_self sound single resets writes sets) fresh
  · exact holds.of_eq (Facility.set_of_ne same (persistent_of_single single) sets)

theorem DurableParameter.of_setAll (holds : DurableParameter parameter system)
    {transaction : Transaction A}
    (rewinds : Facility.Rewinds parameter environment transaction system.facility)
    (fresh : parameter ∈ transaction.assignments.map (·.parameter) →
      FreshRevision parameter system) :
    DurableParameter parameter { system with facility := (system.facility.setAllParameters
      environment system.now transaction).1 } := by
  have ended := Facility.setsAll environment system.now transaction system.facility
  by_cases assigned : parameter ∈ transaction.assignments.map (·.parameter)
  · exact holds.of_outcome (Facility.outcome_setAll sound single assigned rewinds ended)
      (fresh assigned)
  · exact holds.of_eq (Facility.setAll_of_not_mem (persistent_of_single single) assigned ended)

omit sound single in
/-- A capture notes the value of the slot with its pending revision. -/
theorem DurableParameter.of_capture (holds : DurableParameter parameter system)
    (environment : Environment A) (name : A.Parameter) (force : Bool) :
    DurableParameter parameter (system.capture environment name force) := by
  cases persistence : A.persistence name with simp only [System.capture, persistence]
  | single commit =>
    cases environment.writeGate with
    | error status => exact holds
    | ok _ =>
    cases system.facility.peek environment name with
    | error status => exact holds
    | ok _ =>
    simp only
    split_ifs with waits
    · exact holds
    · refine ⟨fun captured listed => ?_, holds.slot, fun work listed => ?_⟩
      · obtain earlier | now := mem_append.mp listed
        · exact holds.persistent captured earlier
        · rw [mem_singleton.mp now, persistence]
          exact nofun
      · obtain earlier | now := mem_append.mp listed
        · exact holds.works work earlier
        · have same := mem_singleton.mp now
          obtain rfl : parameter = name := congrArg CapturedWork.parameter same
          obtain rfl := eq_of_heq (CapturedWork.mk.inj same).2
          exact ⟨holds.slot.settled, holds.slot.erased, fun _ => rfl⟩
  | _ => exact holds

variable {next : System A}

/-- The save of a captured work. -/
theorem DurableParameter.of_commit (holds : DurableParameter parameter system) {index : Nat}
    (timely : ∀ work, system.works[index]? = some ⟨parameter, work⟩ →
      (environment.store (A.persistenceKey parameter)).isOk = true →
        (system.facility.slot parameter).dirty = true ∨
          work.value = (system.facility.slot parameter).value)
    (stepped : system.commit environment index = some next) : DurableParameter parameter next := by
  unfold System.commit at stepped
  split at stepped
  · exact nomatch stepped
  next captured found =>
  have listed : captured ∈ system.works := mem_of_getElem? found
  have fewer : system.works.eraseIdx index ⊆ system.works := eraseIdx_subset
  split at stepped
  · rw [← some.inj stepped]
    exact holds.of_agrees (.refl _) rfl fewer
  rw [← some.inj stepped]
  obtain ⟨name, work⟩ := captured
  by_cases same : parameter = name
  · subst same
    have fits := holds.works work listed
    obtain ⟨status, failed⟩ | ⟨content, granted, image, saved⟩ :=
      system.facility.persistValue_cases environment parameter work.value work.erase
    · refine holds.of_agrees ?_ ?_ fewer
      · simp only [Facility.persistWork, failed, Facility.slot_updateSlot_self]
        exact ⟨rfl, rfl, rfl, rfl, rfl⟩
      · simp only [Facility.persistWork, failed]
        rfl
    · have loaded := Facility.loads_image sound single fits.settled fits.erased image
      have slot : ((system.facility.persistWork environment parameter work).1.slot parameter) =
          (system.facility.slot parameter).finishPersistence work.revision (.ok ()) := by
        simp only [Facility.persistWork, saved, Facility.slot_updateSlot_self]
        rfl
      have record : (system.facility.persistWork environment parameter work).1.parameterRecord
          parameter = content := by
        simp only [Facility.persistWork, saved]
        exact Facility.parameterRecord_putParameter_self _ _
      have kept : ((system.facility.slot parameter).finishPersistence work.revision
          (.ok ())).value = (system.facility.slot parameter).value ∧
          ((system.facility.slot parameter).finishPersistence work.revision
            (.ok ())).pendingRevision = (system.facility.slot parameter).pendingRevision := by
        unfold Slot.finishPersistence
        split_ifs
        · exact ⟨rfl, rfl⟩
        · exact ⟨rfl, rfl⟩
      refine ⟨fun captured later => holds.persistent captured (fewer later), ?_,
        fun other later => ?_⟩
      · rw [slot, record]
        exact holds.slot.finish fits (timely work found granted) loaded
      · rw [slot]
        exact (holds.works other (fewer later)).of_agrees kept.1 kept.2
  · obtain ⟨slot, record⟩ := system.facility.persistWork_of_ne same (persistent_of_single single)
      (holds.persistent _ listed)
    exact holds.of_agrees (by rw [slot]; exact .refl _) record fewer

omit sound in
theorem DurableParameter.of_commitGroup (holds : DurableParameter parameter system) {index : Nat}
    (stepped : system.commitGroup environment index = some next) :
    DurableParameter parameter next := by
  unfold System.commitGroup at stepped
  split at stepped
  · next group revision payload found =>
    split at stepped
    · rw [← some.inj stepped]
      exact holds.of_agrees (.refl _) rfl (Subset.refl _)
    · rw [← some.inj stepped]
      have outside : parameter ∉ (A.group group).members := by
        intro member
        rw [(A.transactional_iff parameter group).mpr member] at single
        exact nomatch single
      obtain ⟨slot, record⟩ := system.facility.persistGroupWork_of_not_mem outside environment
        revision payload
      exact holds.of_agrees (by rw [slot]; exact .refl _) record (Subset.refl _)
  · exact nomatch stepped

/-- Every step in time keeps the parameter durable. -/
theorem DurableParameter.of_step {label : SystemLabel A}
    (holds : DurableParameter parameter system) (inTime : InTime parameter system label)
    (stepped : system.step label = some next) : DurableParameter parameter next := by
  cases label with
  | elapse ticks =>
    cases stepped
    exact holds.of_agrees (.refl _) rfl (Subset.refl _)
  | set environment name candidate noWait =>
    cases stepped
    exact holds.of_set sound single (fun contrary => nomatch contrary) inTime
  | reset environment name noWait =>
    cases stepped
    exact holds.of_set sound single (fun _ => rfl) inTime
  | setAll environment transaction =>
    cases stepped
    exact holds.of_setAll sound single inTime.1 inTime.2
  | scheduleFailed name =>
    cases stepped
    refine holds.of_agrees ?_ rfl (Subset.refl _)
    by_cases same : parameter = name
    · subst same
      rw [Facility.slot_updateSlot_self]
      exact ⟨rfl, rfl, rfl, rfl, rfl⟩
    · rw [Facility.slot_updateSlot_of_ne _ _ _ same]
      exact .refl _
  | capture environment name force =>
    cases stepped
    exact holds.of_capture environment name force
  | commit environment index => exact holds.of_commit sound single inTime stepped
  | readGroup group force =>
    cases stepped
    unfold System.readGroup
    simp only
    split_ifs
    · exact holds
    · exact holds.of_agrees (.refl _) rfl (Subset.refl _)
  | encodeGroup environment index =>
    obtain ⟨groupWorks, rfl⟩ := encodeGroup_eq stepped
    exact holds.of_agrees (.refl _) rfl (Subset.refl _)
  | commitGroup environment index => exact holds.of_commitGroup single stepped

/-- Clean means durable: in every run whose steps are all in time, loading the store's content gives
a clean parameter the value it has. -/
theorem clean_parameter_is_durable {contents : A.Store → Key → Option Bytes}
    {start : Facility A} (booted : Facility.boot A contents = .ok start) {system : System A}
    (reached : (systemMachine A).ReachableWhere (InTime parameter) { facility := start } system)
    (clean : (system.facility.slot parameter).dirty = false) :
    (((Facility.initial A system.facility.stored).loadPersistentParameter
      parameter).1.slot parameter).value = (system.facility.slot parameter).value := by
  have holds : DurableParameter parameter system := by
    refine reached.invariant (DurableParameter parameter) ?_ fun system label next holds inTime =>
      holds.of_step sound single inTime
    exact ⟨nofun, Facility.durable_boot sound single booted, nofun⟩
  rw [Facility.loadPersistentParameter_self single]
  exact holds.slot.clean clean

end

/-! ### A parameter saved by two threads -/

theorem mem_bools : ∀ parameter : Bool, parameter ∈ [false, true] := by decide

theorem nodup_bools : [false, true].Nodup := by decide

theorem range_ten : range (0 : UInt8) 100 .clamp 10 = some { value := 10 } := by decide

/-- One parameter with a record of its own, saved on request. -/
abbrev gainArchitecture : Architecture where
  Parameter := Unit
  Group := Empty
  Store := Unit
  Value _ := UInt8
  parameters := [()]
  groups := []
  declaration _ := {
    stableId := 7
    version := 1
    defaultValue := 10
    normalize := range 0 100 .clamp
    codec := scalarCodec 1 UInt8.toNat UInt8.ofNat
    migrate := none
    failBoot := false
    valid_default := by decide }
  persistence _ := .single .manual
  store _ := ()
  group name := name.elim
  groupStore name := name.elim
  maxEncodedRecordBytes := 512
  maxGroupRecordBytes := 1024
  mem_parameters _ := mem_singleton_self _
  nodup_parameters := nodup_singleton _
  mem_groups name := name.elim
  nodup_groups := nodup_nil
  stableId_injective _ _ _ _ _ := rfl
  nodup_members name := name.elim
  transactional_iff _ name := name.elim
  encoded_size_le _ _ _ := by decide
  payload_size_le name := name.elim
  maxEncodedRecordBytes_le := by decide
  maxGroupRecordBytes_le := by decide

theorem sound_gain : Facility.Sound gainArchitecture () where
  lawful := lawful_scalarCodec (fun value => value.toNat_lt) fun value => UInt8.ofNat_toNat
  settles := settles_range (by decide) range_ten

/-- The system booted over empty stores. -/
def gainStart : System gainArchitecture where
  facility := Facility.initial gainArchitecture fun _ _ => none

theorem boot_gain : Facility.boot gainArchitecture (fun _ _ => none) =
    .ok gainStart.facility := by
  rfl

/-- A value is set and saved. -/
def gainSaved : List (SystemLabel gainArchitecture) :=
  [.set {} () (20 : UInt8) false, .capture {} () true, .commit {} 0]

theorem gainSaved_inTime : (systemMachine gainArchitecture).Admissible
    (InTime (A := gainArchitecture) ()) gainStart gainSaved := by
  refine ⟨fun _ => ⟨nofun, nofun⟩, fun next stepped => ?_⟩
  cases stepped
  refine ⟨trivial, fun next stepped => ?_⟩
  cases stepped
  exact ⟨fun _ _ _ => .inl rfl, fun _ _ => trivial⟩

theorem clean_parameter_is_durable_saved :
    ∃ system, (systemMachine gainArchitecture).ReachableWhere (InTime (A := gainArchitecture) ())
        gainStart system ∧ (system.facility.slot ()).dirty = false ∧
      (system.facility.slot ()).value = (20 : UInt8) ∧
      (((Facility.initial gainArchitecture system.facility.stored).loadPersistentParameter
        ()).1.slot ()).value = (system.facility.slot ()).value := by
  have reached := (systemMachine gainArchitecture).reachableWhere_get _ gainStart gainSaved
    gainSaved_inTime (by decide)
  exact ⟨_, reached, by decide, by decide,
    clean_parameter_is_durable sound_gain rfl boot_gain reached (by decide)⟩

/-- A value is captured and set again; the second value is captured and saved, then the first is
saved. -/
def gainOvertaken : List (SystemLabel gainArchitecture) :=
  [.set {} () (20 : UInt8) false, .capture {} () true, .set {} () (30 : UInt8) false,
    .capture {} () true, .commit {} 1, .commit {} 0]

theorem stale_save_of_parameter :
    ∃ system, (systemMachine gainArchitecture).Reachable gainStart system ∧
      system.works.length = 0 ∧ system.groupWorks.length = 0 ∧
      (system.facility.slot ()).dirty = false ∧
      ((((Facility.initial gainArchitecture system.facility.stored).loadPersistentParameter
        ()).1.slot ()).value : UInt8) ≠ (system.facility.slot ()).value :=
  ⟨_, (systemMachine gainArchitecture).reachable_get gainStart gainOvertaken (by decide),
    by decide, by decide, by decide, by decide⟩

end System

end Solar.Parameters
