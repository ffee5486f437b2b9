import PgCapture.Kafka.Batch
import PgCapture.Kafka.KeyStrategy
import PgCapture.Replicator.Pipeline.Mirror

namespace PgCapture.Kafka

open PgCapture.Data PgCapture.Data.ChangeLog PgCapture.Postgres

/-! # Keyed topics

A batch that is sent with the primary key as its record key: Kafka puts equal
keys into one partition, a consumer reads the partitions in any mixture, and the
topic may be compacted to the last record of every key.
-/

/-- A value in a key, unless it is null. -/
def presentValue : Json → Option Json
  | .null => none
  | value => some value

/-- The record key of a row with these values in its key columns. -/
def keyText (toText : Json → String) (values : List Json) : Option String :=
  (values.mapM presentValue).map fun values => ":".intercalate (values.map (valueText toText))

theorem present_eq (fields : List (String × Json)) (column : String) :
    present fields column = presentValue ((OrderedMap.get? column fields).getD .null) := by
  rw [present]
  cases OrderedMap.get? column fields with
  | none => rfl
  | some value => cases value <;> rfl

/-- Rows with the same values in their key columns have the same record key. -/
theorem extractKey_primaryKey (toText : Json → String) {columns : List String}
    (listed : columns ≠ []) (plain : ∀ column ∈ columns, '.' ∉ column.toList) {event : ChangeEvent}
    {fields : List (String × Json)} (record : keyRecord event = some (.object fields)) :
    (KeyStrategy.primaryKey columns).extractKey toText event =
      keyText toText (imageKey columns (.object fields)) := by
  have values : columns.mapM (present fields) = (imageKey columns (.object fields)).mapM presentValue := by
    rw [imageKey, List.mapM_map]
    exact congrArg columns.mapM (funext fun column => present_eq fields column)
  rw [KeyStrategy.extractKey, record, Option.bind_some, extractCompositeKey_eq listed,
    mapM_extractFieldValue plain, Option.map_map, values]
  rfl

theorem isSome_keyText {toText : Json → String} {values : List Json}
    (filled : .null ∉ values) : (keyText toText values).isSome := by
  rw [keyText, Option.isSome_map, isSome_mapM]
  intro value member
  cases value with
  | null => exact absurd member filled
  | _ => rfl

/-- The key is taken from the row that the change is about. -/
theorem keyRecord_eq {event : ChangeEvent} {change : RowChange Json}
    (isChange : event.rowChange = some change) : keyRecord event = some change.row := by
  obtain ⟨schema, table, op, tsMs, before, after, source⟩ := event
  cases op <;> cases before <;> cases after <;> cases isChange <;> rfl

/-- The change of the table that a record is about. -/
def recordChange (read : String → Option Json) (relation : MockRelation) (record : Record) :
    Option (RowChange Json) :=
  ((readEvent read record.payload).filter (OfTable relation)).bind ChangeEvent.rowChange

theorem consumed_eq (read : String → Option Json) (relation : MockRelation) (records : List Record) :
    consumed read relation records = records.filterMap (recordChange read relation) := by
  rw [consumed, List.filter_filterMap, List.filterMap_filterMap]
  rfl

/-- The partition of a record is in Kafka's answer, once the record is delivered. -/
def Handed.partition (handed : Handed) : Option Int :=
  match handed.answer with
  | .ok (.delivered partition _) => some partition
  | _ => none

section Keyed

variable {read : String → Option Json} {crates : Crates}
  {relation : MockRelation}

/-- A record shows a row operation, and has the key of the operation's row. -/
structure Keyed (read : String → Option Json) (crates : Crates) (op : RowOp relation) (record : Record) :
    Prop where
  shows : ∃ change, recordChange read relation record = some change ∧
    Shows (IsImage crates) op.change change
  key : record.key = keyText crates.toString (relation.keyImage crates op.change.row.key)

/-- A record that keeps its key writes under the image of that key. -/
theorem Keyed.writes_iff {op : RowOp relation} {record : Record} (keyed : Keyed read crates op record)
    (stays : op.change.KeepsKey MockRow.key) {asked : List Json} :
    Writes (imageKey (relation.keyColumns.map MockColumn.name)) (recordChange read relation) record asked ↔
      asked = relation.keyImage crates op.change.row.key := by
  obtain ⟨change, found, shows⟩ := keyed.shows
  have copied := shows.keepsKey (fun _ _ isImage => imageKey_of_isImage crates isImage) stays
  rw [Writes, found, Option.bind_some, written_isSome_iff copied, imageKey_of_isImage crates shows.row]

theorem withoutNullImages_of_isEventOf {op : RowOp relation} {event : ChangeEvent}
    (isEvent : IsEventOf crates op event) : event.withoutNullImages = event := by
  have notNull : ∀ (row : Option (MockRow relation)) image, ImageOf crates row image →
      image ≠ some .null := by
    intro row image isImage null
    cases row with
    | none => cases isImage.symm.trans null
    | some row =>
        obtain ⟨object, found, fields, rfl, _⟩ := isImage
        cases found.symm.trans null
  apply event.withoutNullImages_eq_iff.mpr
  cases op with
  | insert row => exact ⟨notNull _ _ isEvent.before, notNull _ _ isEvent.after⟩
  | update old row => exact ⟨notNull _ _ isEvent.before, notNull _ _ isEvent.after⟩
  | delete kind old => exact ⟨notNull _ _ isEvent.before, notNull _ _ isEvent.after⟩

/-- The record of an operation's event, when the event reads back from it. -/
theorem keyed_record (listed : relation.keyColumns ≠ [])
    (plain : ∀ column ∈ relation.keyColumns, '.' ∉ column.name.toList) {op : RowOp relation}
    {event : ChangeEvent} (isEvent : IsEventOf crates op event) {payload : String}
    (found : readEvent read payload = some event) (topic : String) :
    Keyed read crates op ⟨topic, (KeyStrategy.primaryKey
      (relation.keyColumns.map MockColumn.name)).extractKey crates.toString event, payload⟩ := by
  obtain ⟨change, isChange, shows⟩ := rowChange_shows crates isEvent
  have ofTable : OfTable relation event = true := ofTable_of_isEventOf isEvent
  refine ⟨⟨change, ?_, shows⟩, ?_⟩
  · rw [recordChange, found, Option.filter_some, ofTable]
    exact isChange
  · have named : relation.keyColumns.map MockColumn.name ≠ [] :=
      fun none => listed (List.map_eq_nil_iff.mp none)
    have dotless : ∀ column ∈ relation.keyColumns.map MockColumn.name, '.' ∉ column.toList :=
      List.forall_mem_map.mpr plain
    have isRow := shows.row
    obtain ⟨fields, object, _⟩ := isRow
    rw [← imageKey_of_isImage crates shows.row, object]
    exact extractKey_primaryKey crates.toString named dotless (object ▸ keyRecord_eq isChange)

end Keyed

/-- The queue takes every record, and every record is delivered. -/
def AllDelivered (answers : Nat → Except String Delivery) (count : Nat) : Prop :=
  ∀ index < count, ∃ partition offset, answers index = .ok (.delivered partition offset)

theorem map_handed_record (messageTimedOut : String) (config : Config)
    (extractKey : ChangeEvent → Option String) {serialize : ChangeEvent → Except Error String}
    {answers : Nat → Except String Delivery} {events : List ChangeEvent}
    (delivered : AllDelivered answers events.length)
    (succeeds : ∀ event ∈ events, ∃ payload, serialize event = .ok payload) :
    ∃ topic, (sendChangeEventsBatch messageTimedOut config extractKey serialize answers
      events).handed.map Handed.record =
        events.map fun event => ⟨topic, extractKey event, payloadOf serialize event⟩ := by
  cases events with
  | nil => exact ⟨"", rfl⟩
  | cons first events =>
      have built := @batchPayloads_eq extractKey serialize (first :: events) succeeds
      let topic := config.topicName first.schema first.table
      refine ⟨topic, ?_⟩
      have accepted : ∀ index < ((first :: events).map fun event =>
          (extractKey event, payloadOf serialize event)).length - 1, Accepted answers index := by
        intro index below
        rw [List.length_map] at below
        obtain ⟨partition, offset, answer⟩ := delivered index (by omega)
        exact ⟨_, answer⟩
      have handed : (sendChangeEventsBatch messageTimedOut config extractKey serialize answers
          (first :: events)).handed = (enqueue topic answers ((first :: events).map fun event =>
            (extractKey event, payloadOf serialize event))).1 := by
        simp only [sendChangeEventsBatch, built]
        rfl
      rw [handed, enqueue_all_iff.mpr accepted]
      exact List.map_map ..

section Topic

variable {read : String → Option Json} {crates : Crates}
  {relation : MockRelation} {ops : List (RowOp relation)}

/-- What was handed over has the operations' records, in their order. -/
def HandedFor (read : String → Option Json) (crates : Crates) (ops : List (RowOp relation))
    (sent : List Handed) : Prop :=
  List.Forall₂ (fun op handed => Keyed read crates op (Handed.record handed)) ops sent

/-- The change of the table that an entry of the topic is about. -/
def handedChange (read : String → Option Json) (relation : MockRelation) (handed : Handed) :
    Option (RowChange Json) :=
  recordChange read relation handed.record

theorem HandedFor.shows {sent : List Handed} (handedFor : HandedFor read crates ops sent) :
    List.Forall₂ (Shows (IsImage crates)) (ops.map RowOp.change)
      (sent.filterMap (handedChange read relation)) := by
  induction handedFor with
  | nil => exact .nil
  | cons first _ ih =>
      obtain ⟨change, found, shows⟩ := first.shows
      rw [List.map_cons, List.filterMap_cons_some (f := handedChange read relation) found]
      exact .cons shows ih

/-- Every entry has the key of one operation's row, and writes under that row's image. -/
theorem HandedFor.exists_row {sent : List Handed} (handedFor : HandedFor read crates ops sent)
    (stays : ∀ op ∈ ops, op.change.KeepsKey MockRow.key) {handed : Handed} (isSent : handed ∈ sent) :
    ∃ op ∈ ops, handed.record.key = keyText crates.toString (relation.keyImage crates op.change.row.key) ∧
      ∀ asked, Writes (imageKey (relation.keyColumns.map MockColumn.name)) (handedChange read relation)
        handed asked ↔ asked = relation.keyImage crates op.change.row.key := by
  obtain ⟨op, isOp, keyed⟩ := exists_of_forall₂ handedFor isSent
  exact ⟨op, isOp, keyed.key, fun _ => keyed.writes_iff (stays op isOp)⟩

/-- A consumer has the table if its reading comes to what was sent. -/
theorem HandedFor.copies {sent received : List Handed} (handedFor : HandedFor read crates ops sent)
    (reading : applyAll (imageKey (relation.keyColumns.map MockColumn.name)) Table.empty
        (received.filterMap (handedChange read relation)) =
      applyAll (imageKey (relation.keyColumns.map MockColumn.name)) Table.empty
        (sent.filterMap (handedChange read relation)))
    {keys : Set (List BinaryValue)} (inside : ∀ op ∈ ops, ∀ row ∈ op.change.rows, row.key ∈ keys)
    (apart : Set.InjOn (relation.keyImage crates) keys) :
    Copies keys (relation.keyImage crates) (IsImage crates)
      (applyAll MockRow.key Table.empty (ops.map RowOp.change))
      (mirror read relation (received.map Handed.record)) := by
  have same : mirror read relation (received.map Handed.record) =
      applyAll (imageKey (relation.keyColumns.map MockColumn.name)) Table.empty
        (sent.filterMap (handedChange read relation)) := by
    rw [mirror, consumed_eq, List.filterMap_map, ← reading]
    rfl
  rw [same]
  refine Copies.empty.applyAll apart (fun _ _ isImage => imageKey_of_isImage crates isImage)
    handedFor.shows ?_
  intro change member row isRow
  obtain ⟨op, isOp, rfl⟩ := List.mem_map.mp member
  exact inside op isOp row isRow

/-- The batch of a table's events, keyed by the primary key. -/
def keyedBatch (crates : Crates) (messageTimedOut : String) (config : Config)
    (format : SerializationFormat) (relation : MockRelation)
    (answers : Nat → Except String Delivery) (events : List ChangeEvent) : BatchResult :=
  sendChangeEventsBatch messageTimedOut config
    ((KeyStrategy.primaryKey (relation.keyColumns.map MockColumn.name)).extractKey crates.toString)
    (serialize crates format) answers events

section Batch

variable (messageTimedOut : String) (config : Config) {format : SerializationFormat}
  (plainForm : format ≠ .jsonDebezium) {events : List ChangeEvent}
  {answers : Nat → Except String Delivery} (listed : relation.keyColumns ≠ [])
  (dotless : ∀ column ∈ relation.keyColumns, '.' ∉ column.name.toList)
  (made : List.Forall₂ (IsEventOf crates) ops events)
  (typed : ∀ event ∈ events, event.Typed) 
  (back : ∀ event ∈ events, ReadsBack read (format.printer crates) event.toJson)
  (delivered : AllDelivered answers events.length)
include plainForm listed dotless made typed back delivered

theorem handedFor_keyedBatch : HandedFor read crates ops
    (keyedBatch crates messageTimedOut config format relation answers events).handed := by
  have succeeds : ∀ event ∈ events, ∃ payload,
      serialize crates format event = .ok payload ∧
        readEvent read payload = some event.withoutNullImages := by
    intro event member
    exact readEvent_serialize plainForm (typed event member) (back event member)
  obtain ⟨topic, handed⟩ := map_handed_record messageTimedOut config
    ((KeyStrategy.primaryKey (relation.keyColumns.map MockColumn.name)).extractKey crates.toString)
    delivered fun event member => (succeeds event member).imp fun _ both => both.1
  rw [HandedFor, ← List.forall₂_map_right_iff, keyedBatch, handed, List.forall₂_map_right_iff]
  refine List.forall₂_iff_zip.mpr ⟨made.length_eq, fun {op event} paired => ?_⟩
  have isEvent := List.forall₂_zip made paired
  obtain ⟨payload, written, found⟩ := succeeds event (List.of_mem_zip paired).2
  have isPayload : payloadOf (serialize crates format) event = payload := by
    rw [payloadOf, written]
    rfl
  rw [withoutNullImages_of_isEventOf isEvent] at found
  exact keyed_record listed dotless isEvent (isPayload ▸ found) topic

/-- However a consumer mixes the partitions, it has the table: no update moves a
    row to another key, no key has a null, and Kafka puts records with the same
    key into the same partition. -/
theorem partitions_follow (stays : ∀ op ∈ ops, op.change.KeepsKey MockRow.key)
    (filled : ∀ op ∈ ops, .null ∉ relation.keyImage crates op.change.row.key)
    {keys : Set (List BinaryValue)} (inside : ∀ op ∈ ops, ∀ row ∈ op.change.rows, row.key ∈ keys)
    (apart : Set.InjOn (relation.keyImage crates) keys) :
    let sent := (keyedBatch crates messageTimedOut config format relation answers events).handed
    (∀ left ∈ sent, ∀ right ∈ sent, left.record.key = right.record.key → left.record.key ≠ none →
      left.partition = right.partition) →
    ∀ received, Interleaves Handed.partition sent received →
      Copies keys (relation.keyImage crates) (IsImage crates)
        (applyAll MockRow.key Table.empty (ops.map RowOp.change))
        (mirror read relation (received.map Handed.record)) := by
  intro sent byKey received interleaves
  have handedFor : HandedFor read crates ops sent :=
    handedFor_keyedBatch messageTimedOut config plainForm listed dotless made typed back delivered
  refine handedFor.copies (applyAll_interleaved interleaves (fun asked => ?_) Table.empty) inside apart
  -- all records that write under a key have that key's text, so they share a partition
  by_cases written : ∃ first ∈ sent, Writes (imageKey (relation.keyColumns.map MockColumn.name))
      (handedChange read relation) first asked
  · obtain ⟨first, isFirst, writes⟩ := written
    obtain ⟨op, isOp, ownKey, own⟩ := handedFor.exists_row stays isFirst
    refine ⟨first.partition, fun other isOther otherWrites => ?_⟩
    obtain ⟨otherOp, isOtherOp, otherKey, others⟩ := handedFor.exists_row stays isOther
    have sameImage := ((others asked).mp otherWrites).symm.trans ((own asked).mp writes)
    have sameKey : other.record.key = first.record.key := by
      rw [otherKey, ownKey, sameImage]
    apply byKey other isOther first isFirst sameKey
    rw [otherKey]
    exact Option.isSome_iff_ne_none.mp (isSome_keyText (filled otherOp isOtherOp))
  · exact ⟨none, fun entry isEntry writes => absurd ⟨entry, isEntry, writes⟩ written⟩

/-- A compacted topic is enough for the table, and so is any reading with the
    last record of every key, unless two rows have the same record key. -/
theorem latest_follows (stays : ∀ op ∈ ops, op.change.KeepsKey MockRow.key)
    {keys : Set (List BinaryValue)} (inside : ∀ op ∈ ops, ∀ row ∈ op.change.rows, row.key ∈ keys)
    (distinct : Set.InjOn (fun key => keyText crates.toString (relation.keyImage crates key)) keys) :
    let sent := (keyedBatch crates messageTimedOut config format relation answers events).handed
    ∀ received, KeepsLatest (fun handed => handed.record.key) sent received →
      Copies keys (relation.keyImage crates) (IsImage crates)
        (applyAll MockRow.key Table.empty (ops.map RowOp.change))
        (mirror read relation (received.map Handed.record)) := by
  intro sent received keeps
  have handedFor : HandedFor read crates ops sent :=
    handedFor_keyedBatch messageTimedOut config plainForm listed dotless made typed back delivered
  have apart : Set.InjOn (relation.keyImage crates) keys := fun left isLeft right isRight same =>
    distinct isLeft isRight (congrArg (keyText crates.toString) same)
  refine handedFor.copies (applyAll_of_latest keeps (fun asked => ?_) Table.empty) inside apart
  by_cases written : ∃ first ∈ sent, Writes (imageKey (relation.keyColumns.map MockColumn.name))
      (handedChange read relation) first asked
  · obtain ⟨first, isFirst, writes⟩ := written
    obtain ⟨op, isOp, ownText, own⟩ := handedFor.exists_row stays isFirst
    refine Or.inr ⟨first.record.key, fun other isOther => ?_⟩
    obtain ⟨otherOp, isOtherOp, otherText, others⟩ := handedFor.exists_row stays isOther
    have ownKey := inside op isOp _ op.change.row_mem
    have otherKey := inside otherOp isOtherOp _ otherOp.change.row_mem
    rw [others, (own asked).mp writes, otherText, ownText]
    constructor
    · intro same
      rw [same]
    · intro same
      rw [distinct otherKey ownKey same]
  · exact Or.inl fun entry isEntry writes => written ⟨entry, isEntry, writes⟩

end Batch

end Topic

def stockOps : List (RowOp stock) :=
  [.insert (stockRow 1 5), .insert (stockRow 2 6), .delete .key (stockRow 1 0)]

def stockEvents : List ChangeEvent :=
  [stockEvent .insert none (some (stockImage 1 5)), stockEvent .insert none (some (stockImage 2 6)),
    stockEvent .delete (some (stockImage 1 0)) none]

def stockDecoder : PgOutputDecoder :=
  ((PgOutputDecoder.new "db").decode stockPretty ⟨1, 2⟩
    (MockMessageBuilder.relationMessage ⟨0, 0⟩ stock)).2

/-- The first row goes to partition 0, the second one to partition 1. -/
def twoPartitions : Nat → Except String Delivery
  | 1 => .ok (.delivered 1 0)
  | offset => .ok (.delivered 0 offset)

set_option maxRecDepth 8000 in
theorem stock_decoded : List.Forall₂ (fun op event =>
    (stockDecoder.decode stockPretty ⟨1, 2⟩ (RowOp.message ⟨0, 0⟩ op)).1 =
      .ok (some (.change event))) stockOps stockEvents :=
  .cons rfl (.cons rfl (.cons rfl .nil))

theorem stock_made : List.Forall₂ (IsEventOf stockPretty) stockOps stockEvents := by
  apply stock_decoded.imp
  intro op event decoded
  have known : stockDecoder.relations stock.id = some stock.info := rfl
  obtain ⟨other, alsoDecoded, isEvent⟩ := decode_rowOp stockPretty known ⟨0, 0⟩ ⟨1, 2⟩ op
  rw [decoded] at alsoDecoded
  cases alsoDecoded
  exact isEvent

def readStockEvents : String → Option Json := readerOf stockText (stockEvents.map ChangeEvent.toJson)

theorem stockEvents_typed : ∀ event ∈ stockEvents, event.Typed := by
  have millis : IsMillis 1 ∧ IsMillis 2 := by
    simp [IsMillis]
  intro event member
  obtain ⟨op, _, decoded⟩ := exists_of_forall₂ stock_decoded member
  exact decoded_typed (fun text value impossible => by contradiction) decoded millis.1 millis.2

set_option maxRecDepth 8000 in
theorem stockEventTexts_nodup : (stockEvents.map fun event => stockText event.toJson).Nodup := by
  decide

theorem stockEvents_back : ∀ event ∈ stockEvents,
    ReadsBack readStockEvents (SerializationFormat.json.printer stockPretty) event.toJson := by
  intro event member
  refine readsBack_readerOf (List.mem_map_of_mem member) ?_
  intro document isDocument same
  obtain ⟨other, isOther, rfl⟩ := List.mem_map.mp isDocument
  rw [List.inj_on_of_nodup_map stockEventTexts_nodup isOther member same]

theorem stockOps_stay : ∀ op ∈ stockOps, op.change.KeepsKey MockRow.key := by
  intro op member row isRow
  simp only [stockOps, List.mem_cons, List.not_mem_nil, or_false] at member
  rcases member with rfl | rfl | rfl <;> rw [List.mem_singleton.mp isRow] <;> rfl

theorem stockOps_inside : ∀ op ∈ stockOps, ∀ row ∈ op.change.rows, row.key ∈ stockKeys := by
  intro op member row isRow
  simp only [stockOps, List.mem_cons, List.not_mem_nil, or_false] at member
  rcases member with rfl | rfl | rfl <;> rw [List.mem_singleton.mp isRow]
  · exact .inl rfl
  · exact .inr rfl
  · exact .inl rfl

def stockBatch : BatchResult :=
  keyedBatch stockPretty "timed out" sampleConfig .json stock twoPartitions stockEvents

theorem stockBatch_routes : stockBatch.handed.map (fun handed => (handed.record.key, handed.partition)) =
    [(some "1", some 0), (some "2", some 1), (some "1", some 0)] := by
  decide

/-- A consumer that reads the second partition first. -/
def secondFirst : List Handed :=
  stockBatch.handed.filter (·.partition = some 1) ++ stockBatch.handed.filter (·.partition ≠ some 1)

theorem secondFirst_interleaves : Interleaves Handed.partition stockBatch.handed secondFirst := by
  intro path
  rw [secondFirst, List.filter_append, List.filter_filter, List.filter_filter]
  by_cases second : path = some 1
  · subst second
    simp
  · have front : stockBatch.handed.filter (fun handed =>
        decide (handed.partition = path) && decide (handed.partition = some 1)) = [] := by
      rw [List.filter_eq_nil_iff]
      intro handed _ both
      simp only [Bool.and_eq_true, decide_eq_true_eq] at both
      exact second (both.1.symm.trans both.2)
    rw [front, List.nil_append]
    apply List.filter_congr
    intro handed _
    by_cases here : handed.partition = path
    · simp [here, second]
    · simp [here]

theorem twoPartitions_deliver : AllDelivered twoPartitions stockEvents.length := by
  intro index below
  match index with
  | 0 => exact ⟨0, 0, rfl⟩
  | 1 => exact ⟨1, 0, rfl⟩
  | index + 2 => exact ⟨0, _, rfl⟩

theorem stockBatch_byKey : ∀ left ∈ stockBatch.handed, ∀ right ∈ stockBatch.handed,
    left.record.key = right.record.key → left.record.key ≠ none → left.partition = right.partition := by
  have routes : ∀ handed ∈ stockBatch.handed,
      (handed.record.key = some "1" ∧ handed.partition = some 0) ∨
        (handed.record.key = some "2" ∧ handed.partition = some 1) := by
    intro handed member
    have route := List.mem_map_of_mem (f := fun handed => (handed.record.key, handed.partition)) member
    rw [stockBatch_routes] at route
    simpa [or_comm, or_assoc] using route
  intro left isLeft right isRight same _
  rcases routes left isLeft with ⟨leftKey, leftPartition⟩ | ⟨leftKey, leftPartition⟩ <;>
    rcases routes right isRight with ⟨rightKey, rightPartition⟩ | ⟨rightKey, rightPartition⟩
  · rw [leftPartition, rightPartition]
  · rw [leftKey, rightKey] at same
    simp at same
  · rw [leftKey, rightKey] at same
    simp at same
  · rw [leftPartition, rightPartition]

theorem stockOps_filled : ∀ op ∈ stockOps,
    .null ∉ stock.keyImage stockPretty op.change.row.key := by
  have one : stock.keyImage stockPretty [stockCell 1] = [.integer 1] := rfl
  have two : stock.keyImage stockPretty [stockCell 2] = [.integer 2] := rfl
  intro op member
  have inside := stockOps_inside op member _ op.change.row_mem
  rcases inside with isOne | isTwo
  · rw [isOne, one]
    simp
  · rw [Set.mem_singleton_iff.mp isTwo, two]
    simp

theorem partitions_follow_stock :
    Copies stockKeys (stock.keyImage stockPretty) (IsImage stockPretty)
      (applyAll MockRow.key Table.empty (stockOps.map RowOp.change))
      (mirror readStockEvents stock (secondFirst.map Handed.record)) :=
  partitions_follow "timed out" sampleConfig (by decide : SerializationFormat.json ≠ .jsonDebezium)
    (by decide) (by decide) stock_made stockEvents_typed stockEvents_back twoPartitions_deliver
    stockOps_stay stockOps_filled stockOps_inside stockKeys_apart stockBatch_byKey secondFirst secondFirst_interleaves

/-- The topic after compaction: the first row's insert is gone. -/
def compacted : List Handed := stockBatch.handed.drop 1

theorem compacted_keepsLatest :
    KeepsLatest (fun handed => handed.record.key) stockBatch.handed compacted where
  wasSent := fun entry member => List.mem_of_mem_drop member
  latest := by
    intro path
    have routes := stockBatch_routes
    cases all : stockBatch.handed with
    | nil => simp [all] at routes
    | cons first rest =>
        rw [all, List.map_cons] at routes
        obtain ⟨own, later⟩ := List.cons.inj routes
        rw [compacted, all, List.drop_one, List.tail_cons, List.filter_cons]
        split
        · rename_i here
          have isOne : path = some "1" := (of_decide_eq_true here).symm.trans (Prod.mk.inj own).1
          -- the row's delete comes later, under the same key
          have again : (some "1", some 0) ∈ rest.map fun handed => (handed.record.key, handed.partition) := by
            simp [later]
          obtain ⟨handed, isLater, same⟩ := List.mem_map.mp again
          have found : handed ∈ rest.filter (·.record.key = path) :=
            List.mem_filter.mpr ⟨isLater, decide_eq_true ((Prod.mk.inj same).1.trans isOne.symm)⟩
          rw [List.getLast?_cons, List.getLast?_eq_some_getLast (List.ne_nil_of_mem found)]
          rfl
        · rfl

theorem latest_follows_stock :
    Copies stockKeys (stock.keyImage stockPretty) (IsImage stockPretty)
      (applyAll MockRow.key Table.empty (stockOps.map RowOp.change))
      (mirror readStockEvents stock (compacted.map Handed.record)) := by
  refine latest_follows "timed out" sampleConfig
    (by decide : SerializationFormat.json ≠ .jsonDebezium) (by decide) (by decide) stock_made
    stockEvents_typed stockEvents_back twoPartitions_deliver stockOps_stay
    stockOps_inside ?_ compacted compacted_keepsLatest
  have one : keyText stockPretty.toString (stock.keyImage stockPretty [stockCell 1]) = some "1" := by
    decide
  have two : keyText stockPretty.toString (stock.keyImage stockPretty [stockCell 2]) = some "2" := by
    decide
  rintro left (rfl | rfl) right (rfl | rfl) same
  · rfl
  · simp [one, two] at same
  · simp [one, two] at same
  · rfl

end PgCapture.Kafka
