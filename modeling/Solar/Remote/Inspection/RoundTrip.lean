/-
This file proves when an inspection page arrives. The bytes are one well-formed item
whatever the page holds, since the counts of the heads add up; but the array takes the
last entry of the page and all records but two, and these two become the last entry.
Then the entry `9` is missing, unless there were no records.
-/

import Solar.Remote.Codec.Float
import Solar.Remote.Inspection.Query

namespace Solar.Remote.Inspection

open List

open Solar.Cbor (Bytes Item DataTree)
open CborWriter

/-! ### The items of the records -/

/-- An unsigned number as an item. -/
def number (value : UInt64) : DataTree := .leaf (.unsigned value.toNat)

theorem puts_number (value : UInt64) : Puts (unsignedInteger value) (number value).write :=
  puts_unsignedInteger value

theorem fits_number (value : UInt64) : (number value).Fits := value.toNat_lt

namespace RecordKind

def scalarItem : ScalarValue → Item
  | .signed value => signedItem value
  | .unsigned value => .unsigned value.toNat
  | .floating bits => .double bits
  | .boolean value => .boolean value

theorem puts_scalar (value : ScalarValue) :
    Puts (scalar value) (DataTree.leaf (scalarItem value)).write := by
  cases value with
  | signed value => exact puts_signedInteger value
  | unsigned value => exact puts_unsignedInteger value
  | floating bits => exact puts_floating bits
  | boolean value => exact puts_boolean value

theorem fits_scalarItem (value : ScalarValue) : (scalarItem value).Fits := by
  cases value with
  | signed value => exact fits_signedItem value
  | unsigned value => exact value.toNat_lt
  | _ => exact trivial

/-- The keys and values of a record's map. -/
def content : (kind : RecordKind) → kind.Record → List DataTree
  | .component, value => [
      number 0, number value.localId.toUInt64, number 1, .leaf (.text value.name.1), number 2,
      number value.ownerKind.toUInt64, number 3, number value.ownerComponent.toUInt64, number 4,
      number value.origin.toUInt64]
  | .lifecycle, value => [
      number 0, number value.localId.toUInt64, number 1, number value.state.toUInt64, number 2,
      number value.category.toUInt64, number 3, .leaf (signedItem value.lastStatus.toInt64),
      number 4, number value.lastOperation.toUInt64, number 5,
      number value.transitions.toUInt64, number 6, number value.attempts.toUInt64]
  | .execution, value => [
      number 0, number value.localId.toUInt64, number 1, .leaf (.text value.name.1), number 2,
      number value.kind.toUInt64, number 3, number value.availability.toUInt64, number 4,
      .leaf (signedItem value.lastStatus.toInt64), number 5, number value.submissions, number 6,
      number value.completed, number 7, number value.failed, number 8,
      number value.pendingCount.toUInt64]
  | .metric, value => [
      number 0, number value.metric.toUInt64, number 1, number value.view.toUInt64, number 2,
      number value.viewIndex.toUInt64, number 3, .leaf (scalarItem value.value), number 4,
      number value.revision, number 5, .leaf (signedItem value.updatedAt), number 6,
      .leaf (.boolean value.initialized), number 7, number value.owner.toUInt64]
  | .link, value => [
      number 0, number value.id.toUInt64, number 1, number value.session.toUInt64, number 2,
      number value.receivedFrames.toUInt64, number 3, number value.transmittedFrames.toUInt64,
      number 4, number value.protocolErrors.toUInt64, number 5,
      number value.subscriptions.toUInt64, number 6, .leaf (.boolean value.connected)]

section

variable (kind : RecordKind)

/-- Every encoder writes one map. -/
theorem puts_encode (value : kind.Record) :
    Puts (kind.encode value) (DataTree.map (kind.content value)).write := by
  cases kind with
  | component =>
    refine puts_entries (by decide) rfl (.cons (puts_number _) (.cons (puts_number _)
      (.cons (puts_number _) (.cons (puts_text value.name.2) ?_))))
    repeat' first | exact .nil | refine .cons (puts_number _) ?_
  | lifecycle =>
    refine puts_entries (by decide) rfl ?_
    repeat' first
      | exact .nil
      | refine .cons (puts_number _) ?_
      | refine .cons (puts_signedInteger _) ?_
  | execution =>
    refine puts_entries (by decide) rfl (.cons (puts_number _) (.cons (puts_number _)
      (.cons (puts_number _) (.cons (puts_text value.name.2) ?_))))
    repeat' first
      | exact .nil
      | refine .cons (puts_number _) ?_
      | refine .cons (puts_signedInteger _) ?_
  | metric =>
    refine puts_entries (by decide) rfl ?_
    repeat' first
      | exact .nil
      | refine .cons (puts_number _) ?_
      | refine .cons (puts_signedInteger _) ?_
      | refine .cons (puts_scalar _) ?_
      | refine .cons (puts_boolean _) ?_
  | link =>
    refine puts_entries (by decide) rfl ?_
    repeat' first
      | exact .nil
      | refine .cons (puts_number _) ?_
      | refine .cons (puts_boolean _) ?_

theorem fits_entries {content : List DataTree} {size : Nat} (fits : size < 2 ^ 64)
    (counted : content.length = 2 * size) (each : DataTree.FitsAll content) :
    (DataTree.map content).Fits := by
  exact ⟨by omega, by omega, each⟩

/-- The counts of a record fit its heads. -/
theorem fits_content (value : kind.Record) : (DataTree.map (kind.content value)).Fits := by
  have text (name : Text) : (DataTree.leaf (.text name.1)).Fits := name.2
  have flag (value : Bool) : (DataTree.leaf (.boolean value)).Fits := trivial
  cases kind with
  | component =>
    refine fits_entries (show 5 < 2 ^ 64 by decide) rfl ?_
    simp [content, DataTree.FitsAll, fits_number, text]
  | lifecycle =>
    refine fits_entries (show 7 < 2 ^ 64 by decide) rfl ?_
    simp [content, DataTree.FitsAll, fits_number, DataTree.Fits, fits_signedItem]
  | execution =>
    refine fits_entries (show 9 < 2 ^ 64 by decide) rfl ?_
    simp only [content, DataTree.FitsAll, fits_number, text, and_self, true_and, and_true]
    exact fits_signedItem _
  | metric =>
    refine fits_entries (show 8 < 2 ^ 64 by decide) rfl ?_
    simp only [content, DataTree.FitsAll, fits_number, flag, true_and, and_true]
    exact ⟨fits_scalarItem _, fits_signedItem _⟩
  | link =>
    refine fits_entries (show 7 < 2 ^ 64 by decide) rfl ?_
    simp [content, DataTree.FitsAll, fits_number, flag]

/-- What the host makes of a record is a `dict`. -/
def tree (value : kind.Record) : DataTree := .map (kind.content value)

end

end RecordKind

/-! ### What the bytes of a page are -/

namespace Collection

variable (collection : Collection) {limit : Nat} (page : Page collection.kind limit)

/-- The entries up to the key of the records. -/
def pageFields : List DataTree := [
  number 0, number collection.stableId.toUInt64,
  number 1, number (UInt64.ofNat page.records.length),
  number 2, number page.next.offset.toUInt64,
  number 3, .leaf (.boolean page.hasMore),
  number 4, number page.revision.toUInt64,
  number 5, number (UInt64.ofNat page.consistency.ctorIdx),
  number 6, number (UInt64.ofNat page.freshness.ctorIdx),
  number 7, number page.lossCount,
  number 8]

/-- What is written after the head of the array. -/
def afterArray : List DataTree :=
  number 9 :: .leaf (.boolean page.lossKnown) :: page.records.map collection.kind.tree

/-- The page as it is read: the array takes as many items as there are records. -/
def pageTree : DataTree :=
  .map (pageFields collection page ++
    .array ((afterArray collection page).take page.records.length) ::
      (afterArray collection page).drop page.records.length)

theorem length_afterArray : (afterArray collection page).length = page.records.length + 2 := by
  rw [afterArray, length_cons, length_cons, length_map]

variable {collection page}

theorem fits_afterArray : ∀ tree ∈ afterArray collection page, tree.Fits := by
  intro tree listed
  obtain rfl | listed := mem_cons.mp listed
  · exact fits_number 9
  obtain rfl | listed := mem_cons.mp listed
  · exact trivial
  obtain ⟨record, _, rfl⟩ := mem_map.mp listed
  exact RecordKind.fits_content _ record

/-- The bytes of a page are one well-formed item. -/
theorem fits_pageTree (few : limit < 2 ^ 64) : (pageTree collection page).Fits := by
  have bound := page.written_le
  have taken : ((afterArray collection page).take page.records.length).length =
      page.records.length := by
    rw [length_take, length_afterArray]
    omega
  have left : ((afterArray collection page).drop page.records.length).length = 2 := by
    rw [length_drop, length_afterArray]
    omega
  refine RecordKind.fits_entries (show 10 < 2 ^ 64 by decide) ?_ ?_
  · rw [length_append, length_cons, left]
    rfl
  · rw [DataTree.fitsAll_iff]
    intro tree listed
    obtain early | late := mem_append.mp listed
    · have fields : DataTree.FitsAll (pageFields collection page) := by
        simp only [pageFields, DataTree.FitsAll, fits_number, true_and, and_true]
        exact trivial
      exact DataTree.fitsAll_iff.mp fields tree early
    obtain rfl | late := mem_cons.mp late
    · refine ⟨by omega, DataTree.fitsAll_iff.mpr fun tree listed => ?_⟩
      exact fits_afterArray tree (mem_of_mem_take listed)
    · exact fits_afterArray tree (mem_of_mem_drop late)

/-- The calls of a page put the bytes of the tree. -/
theorem puts_page (few : limit < 2 ^ 64) :
    Puts (all [all (collection.pageCalls page), all (page.records.map collection.kind.encode)])
      (pageTree collection page).write := by
  have bound := page.written_le
  have entries : Forall₂ Puts (collection.pageCalls page) (Solar.Cbor.head 5 10 ::
      ((pageFields collection page).map DataTree.write ++ [Solar.Cbor.head 4 page.records.length,
        (number 9).write, (DataTree.leaf (.boolean page.lossKnown)).write])) := by
    refine .cons (puts_map (by decide)) ?_
    repeat' first
      | exact .nil
      | refine .cons (puts_number _) ?_
      | refine .cons (puts_boolean _) ?_
      | refine .cons (puts_array (by omega)) ?_
  have records : Forall₂ Puts (page.records.map collection.kind.encode)
      ((page.records.map collection.kind.tree).map DataTree.write) := by
    rw [map_map, forall₂_map_left_iff, forall₂_map_right_iff, forall₂_same]
    exact fun record _ => collection.kind.puts_encode record
  have puts := (puts_all entries).append (puts_all records)
  have later : DataTree.writeAll (afterArray collection page) =
      (number 9).write ++ (DataTree.leaf (.boolean page.lossKnown)).write ++
        DataTree.writeAll (page.records.map collection.kind.tree) := by
    rw [afterArray, DataTree.writeAll, DataTree.writeAll, append_assoc]
  have split : DataTree.writeAll (afterArray collection page) =
      DataTree.writeAll ((afterArray collection page).take page.records.length) ++
        DataTree.writeAll ((afterArray collection page).drop page.records.length) := by
    rw [← DataTree.writeAll_append, take_append_drop]
  have taken : ((afterArray collection page).take page.records.length).length =
      page.records.length := by
    rw [length_take, length_afterArray]
    omega
  have counted : (pageFields collection page ++
      .array ((afterArray collection page).take page.records.length) ::
        (afterArray collection page).drop page.records.length).length / 2 = 10 := by
    rw [length_append, length_cons, length_drop, length_afterArray]
    show (17 + (page.records.length + 2 - page.records.length + 1)) / 2 = 10
    omega
  have written : (pageTree collection page).write = Solar.Cbor.head 5 10 ++
      (DataTree.writeAll (pageFields collection page) ++ (Solar.Cbor.head 4 page.records.length ++
        DataTree.writeAll (afterArray collection page))) := by
    rw [pageTree, DataTree.write, counted, DataTree.writeAll_append, DataTree.writeAll,
      DataTree.write, taken, split, append_assoc]
  rw [written]
  simp only [flatten_cons, flatten_append, flatten_nil, append_nil,
    DataTree.flatten_map_write, append_assoc] at puts ⊢
  exact puts

end Collection

/-! ### What the host makes of it -/

section

variable (nan : Item → BitVec 64)

/-- The host's object of an item that is no array and no map. What it has for a NaN is given. -/
def itemObject : Item → Object
  | .unsigned value => .int value
  | .negative value => .int (-1 - value)
  | .bytes content => .bytes content
  | .text content => .str content
  | .boolean value => .bool value
  | .half bits => float (Remote.Cbor.widen (Remote.Cbor.halfToFloat bits)) (nan (.half bits))
  | .single bits => float (Remote.Cbor.widen bits) (nan (.single bits))
  | .double bits => float bits (nan (.double bits))
  | .other _ => .other
where
  float (bits nan : BitVec 64) : Object :=
    .float (if Remote.Cbor.IsNan Remote.Cbor.infinity64 bits then nan else bits)

mutual

def objectOf : DataTree → Object
  | .leaf item => itemObject nan item
  | .array elements => .list (objectsOf elements)
  | .map content => .dict (objectsOf content)

def objectsOf : List DataTree → List Object
  | [] => []
  | tree :: rest => objectOf tree :: objectsOf rest

end

end

mutual

/-- The text in the tree is UTF-8. -/
def readable : DataTree → Bool
  | .leaf (.text content) => content.toByteArray.validateUTF8
  | .leaf _ => true
  | .array elements => allReadable elements
  | .map content => allReadable content

def allReadable : List DataTree → Bool
  | [] => true
  | tree :: rest => readable tree && allReadable rest

end

/-- The host loads every well-formed item but text that is not UTF-8. -/
def Loads (nan : Item → BitVec 64) (loads : Bytes → Option Object) : Prop :=
  ∀ tree : DataTree, tree.Fits →
    loads tree.write = if readable tree then some (objectOf nan tree) else none

theorem mapM_eq_none {Key Value : Type} {find : Key → Option Value} {keys : List Key} {key : Key}
    (listed : key ∈ keys) (missing : find key = none) : keys.mapM find = none := by
  induction keys with
  | nil => exact absurd listed not_mem_nil
  | cons first rest ih =>
    rw [mapM_cons]
    obtain rfl | later := mem_cons.mp listed
    · rw [missing]
      rfl
    · rw [ih later]
      cases find first <;> rfl

namespace Collection

variable (nan : Item → BitVec 64) (collection : Collection) {limit : Nat}
  (page : Page collection.kind limit)

/-- The page that the host should have. -/
def hostPage : CollectionQueryPage where
  stableId := collection.stableId.toNat
  written := page.records.length
  next := page.next.offset.toNat
  hasMore := page.hasMore
  revision := page.revision.toNat
  consistency := page.consistency.ctorIdx
  freshness := page.freshness.ctorIdx
  lossCount := page.lossCount.toNat
  lossKnown := page.lossKnown
  records := page.records.map fun record => objectOf nan (collection.kind.tree record)

variable {nan collection page} {loads : Bytes → Option Object}

/-- With records, no entry of the page has the key `9`. -/
theorem entry_nine_eq_none (some : page.records ≠ []) : ∃ content,
    objectOf nan (pageTree collection page) = .dict content ∧ Object.entry 9 content = none := by
  have positive : 0 < page.records.length := length_pos_iff.mpr some
  obtain ⟨count, counted⟩ : ∃ count, page.records.length = count + 1 :=
    ⟨page.records.length - 1, by omega⟩
  have left : ((afterArray collection page).drop page.records.length).length = 2 := by
    rw [length_drop, length_afterArray]
    omega
  obtain ⟨key, value, last⟩ := length_eq_two.mp left
  have inTail : key ∈ (afterArray collection page).drop page.records.length := by
    rw [last]
    exact mem_cons_self
  have notNine : (objectOf nan key).equals 9 = false := by
    rw [counted, afterArray, drop_succ_cons] at inTail
    obtain rfl | record := mem_cons.mp (mem_of_mem_drop inTail)
    · cases page.lossKnown <;> rfl
    · obtain ⟨record, _, rfl⟩ := mem_map.mp record
      rfl
  refine ⟨_, rfl, ?_⟩
  rw [last]
  show Object.entry 9 (_ :: _ :: _ :: _ :: _ :: _ :: _ :: _ :: _ :: _ :: _ :: _ :: _ :: _ :: _ ::
    _ :: _ :: _ :: objectOf nan key :: objectOf nan value :: []) = none
  simp only [Object.entry, notNine]
  rfl

theorem decode_of_records (correct : Loads nan loads) (few : limit < 2 ^ 64)
    (some : page.records ≠ []) :
    CollectionQueryPage.decode loads (pageTree collection page).write =
      .error "invalid collection query page" := by
  obtain ⟨content, object, missing⟩ := entry_nine_eq_none some
  have fields : (range 10).mapM (fun key => Object.entry key content) = none :=
    mapM_eq_none (mem_range.mpr (show 9 < 10 by decide)) missing
  rw [CollectionQueryPage.decode, correct _ (fits_pageTree few), object]
  split_ifs
  · simp only [fields]
  · rfl

/-- A page without records arrives. -/
theorem decode_of_empty (correct : Loads nan loads) (few : limit < 2 ^ 64)
    (empty : page.records = []) :
    CollectionQueryPage.decode loads (pageTree collection page).write =
      .ok (hostPage nan collection page) := by
  obtain ⟨records, fits, next, hasMore, revision, consistency, freshness, lossCount, lossKnown⟩ :=
    page
  obtain rfl : records = [] := empty
  rw [CollectionQueryPage.decode, correct _ (fits_pageTree few)]
  have first : (UInt64.ofNat consistency.ctorIdx).toNat = consistency.ctorIdx := by
    cases consistency <;> rfl
  have second : (UInt64.ofNat freshness.ctorIdx).toNat = freshness.ctorIdx := by
    cases freshness <;> rfl
  have same : hostPage nan collection ⟨[], fits, next, hasMore, revision, consistency, freshness,
      lossCount, lossKnown⟩ = {
        stableId := collection.stableId.toUInt64.toNat
        written := (0 : Nat)
        next := next.offset.toUInt64.toNat
        hasMore
        revision := revision.toUInt64.toNat
        consistency := (UInt64.ofNat consistency.ctorIdx).toNat
        freshness := (UInt64.ofNat freshness.ctorIdx).toNat
        lossCount := lossCount.toNat
        lossKnown
        records := [] } := by
    rw [first, second, UInt32.toNat_toUInt64, UInt32.toNat_toUInt64, UInt32.toNat_toUInt64]
    rfl
  rw [same]
  rfl

section

variable {maximumRecords : Nat}
  {provider : (query : BasicQuery) → Except Status (Page collection.kind query.limit)}
  {request : CollectionQueryRequest}
  {page : Page collection.kind (collection.query maximumRecords request).limit}

theorem limit_query (collection : Collection) (maximumRecords : Nat)
    (request : CollectionQueryRequest) :
    (collection.query maximumRecords request).limit < 2 ^ 64 := by
  have bound := request.limit.toNat_lt
  show min request.limit.toNat maximumRecords < 2 ^ 64
  omega

theorem encode_eq_write (allowed : request.limit ≤ collection.maximumPage)
    (answered : provider (collection.query maximumRecords request) = .ok page) {size : Nat}
    (enough : (pageTree collection page).write.length ≤ size) :
    collection.encodeInspectionQuery maximumRecords provider request size =
      .ok (pageTree collection page).write := by
  have puts := puts_page (limit_query collection maximumRecords request) { destination := size }
    (by simpa using enough)
  rw [encodeInspectionQuery, if_neg (by rw [UInt16.not_lt]; exact allowed), answered]
  simp only [puts]
  rfl

end

/-- For every provider page and a buffer that is large enough, the bytes are one well-formed item,
and the host decodes them to the page if and only if the page has no records. -/
theorem query_page_round_trips_iff (correct : Loads nan loads) (collection : Collection)
    (maximumRecords : Nat)
    (provider : (query : BasicQuery) → Except Status (Page collection.kind query.limit))
    (request : CollectionQueryRequest)
    (page : Page collection.kind (collection.query maximumRecords request).limit)
    (allowed : request.limit ≤ collection.maximumPage)
    (answered : provider (collection.query maximumRecords request) = .ok page) :
    ∃ needed, ∀ size, needed ≤ size → ∃ bytes,
      collection.encodeInspectionQuery maximumRecords provider request size = .ok bytes ∧
        (((∃ tree : DataTree, tree.Fits ∧ bytes = tree.write) ∧
          CollectionQueryPage.decode loads bytes = .ok (hostPage nan collection page)) ↔
            page.records = []) := by
  have few := limit_query collection maximumRecords request
  refine ⟨_, fun size enough => ⟨_, encode_eq_write allowed answered enough, ?_, fun empty =>
    ⟨⟨_, fits_pageTree few, rfl⟩, decode_of_empty correct few empty⟩⟩⟩
  intro ⟨_, decoded⟩
  by_contra some
  rw [decode_of_records correct few some] at decoded
  exact nomatch decoded

/-! ### The links of a system -/

/-- `RemoteLinks`. -/
def remoteLinks : Collection where
  kind := .link
  stableId := 0x6D9A0005
  maximumPage := 32
  localId := 4

def linksRequest : CollectionQueryRequest where
  stableId := 0x6D9A0005
  offset := 0
  revision := 0
  limit := 8

/-- A host that loads what can be read. -/
def hostLoads (bytes : Bytes) : Option Object :=
  (DataTree.load bytes).bind fun tree =>
    if readable tree then some (objectOf (fun _ => 0x7FF8000000000000) tree) else none

theorem loads_hostLoads : Loads (fun _ => 0x7FF8000000000000) hostLoads := fun tree fits => by
  rw [hostLoads, DataTree.load_write fits, Option.bind_some]

/-- A provider's page of as many of the records as there is room for. -/
def linksPage (records : List LinkRecord) (query : BasicQuery) : Page .link query.limit where
  records := records.take query.limit
  written_le := length_take_le ..
  next := ⟨4, 1, 0⟩
  hasMore := false
  revision := 0
  consistency := .perRecord
  freshness := .current
  lossCount := 0
  lossKnown := true

theorem query_page_of_no_links :
    ∃ needed, ∀ size, needed ≤ size → ∃ bytes,
      remoteLinks.encodeInspectionQuery 8 (fun query => .ok (linksPage [] query)) linksRequest
          size = .ok bytes ∧
        (((∃ tree : DataTree, tree.Fits ∧ bytes = tree.write) ∧
          CollectionQueryPage.decode hostLoads bytes =
            .ok (hostPage (fun _ => 0x7FF8000000000000) remoteLinks
              (linksPage [] (remoteLinks.query 8 linksRequest)))) ↔
              (linksPage [] (remoteLinks.query 8 linksRequest)).records = []) :=
  query_page_round_trips_iff loads_hostLoads remoteLinks 8 (fun query => .ok (linksPage [] query))
    linksRequest (linksPage [] _) (by decide) rfl

def usbLink : LinkRecord where
  id := 7
  session := 2
  receivedFrames := 12
  transmittedFrames := 9
  protocolErrors := 0
  subscriptions := 1
  connected := true

theorem query_page_of_a_link_is_refused :
    Loads (fun _ => 0x7FF8000000000000) hostLoads ∧ ∃ size bytes,
      remoteLinks.encodeInspectionQuery 8 (fun query => .ok (linksPage [usbLink] query))
        linksRequest size = .ok bytes ∧
      CollectionQueryPage.decode hostLoads bytes = .error "invalid collection query page" :=
  ⟨loads_hostLoads, _, _, encode_eq_write (by decide) rfl (Nat.le_refl _),
    decode_of_records loads_hostLoads (limit_query remoteLinks 8 linksRequest)
      (cons_ne_nil usbLink [])⟩

end Collection

end Solar.Remote.Inspection
