import PgCapture.Data.ChangeLog
import PgCapture.Postgres.Decoder.RoundTrip

namespace PgCapture.Postgres

open PgCapture.Data PgCapture.Data.ChangeLog

/-! # Row operations

What a statement does to one row, as the server sends it and as a consumer of
the change events sees it.  Rows are found by their key: the values of the key
columns here, the entries under the key columns' names there.
-/

inductive RowOp (relation : MockRelation) where
  | insert (row : MockRow relation)
  | update (old : Option (OldTupleKind × MockRow relation)) (row : MockRow relation)
  | delete (kind : OldTupleKind) (old : MockRow relation)

namespace RowOp

variable {relation : MockRelation}

def change : RowOp relation → RowChange (MockRow relation)
  | insert row => .insert row
  | update old row => .update (old.map Prod.snd) row
  | delete _ old => .delete old

def message (builder : MockMessageBuilder) : RowOp relation → Bytes
  | insert row => builder.insertMessage row
  | update old row => builder.updateMessage old row
  | delete kind old => builder.deleteMessage kind old

end RowOp

/-- What an event says about the rows of its table. -/
def ChangeEvent.rowChange (event : ChangeEvent) : Option (RowChange Json) :=
  match event.op, event.before, event.after with
  | .insert, _, some row => some (.insert row)
  | .update, old, some row => some (.update old row)
  | .delete, some old, _ => some (.delete old)
  | _, _, _ => none

def MockRow.keyCells {relation : MockRelation} (row : MockRow relation) :
    List (MockColumn × BinaryValue) :=
  (relation.columns.zip row.values).filter fun cell => cell.1.isKey

/-- The values of the key columns. -/
def MockRow.key {relation : MockRelation} (row : MockRow relation) : List BinaryValue :=
  row.keyCells.map Prod.snd

def MockRelation.keyColumns (relation : MockRelation) : List MockColumn :=
  relation.columns.filter MockColumn.isKey

/-- The consumer's key: the entries under these names. -/
def imageKey (names : List String) (image : Json) : List Json :=
  names.map fun name =>
    match image with
    | .object fields => (OrderedMap.get? name fields).getD .null
    | _ => .null

theorem keyCells_columns {relation : MockRelation} (row : MockRow relation) :
    row.keyCells.map Prod.fst = relation.keyColumns := by
  have columns : (relation.columns.zip row.values).map Prod.fst = relation.columns :=
    List.map_fst_zip (Nat.le_of_eq row.complete.symm)
  rw [MockRow.keyCells, MockRelation.keyColumns]
  conv_rhs => rw [← columns, List.filter_map]
  rfl

section Images

variable (crates : Crates)

def cellJson (column : MockColumn) (value : BinaryValue) : Json :=
  (cellValue crates column value).toOption.getD .null

/-- A key as the consumer gets to see it. -/
def MockRelation.keyImage (relation : MockRelation) (key : List BinaryValue) : List Json :=
  (relation.keyColumns.zip key).map fun cell => cellJson crates cell.1 cell.2

theorem cellJson_of_ok {column : MockColumn} {value : BinaryValue} {json : Json}
    (read : cellValue crates column value = .ok json) : cellJson crates column value = json := by
  rw [cellJson, read]
  rfl

/-- The consumer finds a row's image under the image of the row's key. -/
theorem imageKey_of_isImage {relation : MockRelation} {row : MockRow relation} {image : Json}
    (isImage : IsImage crates row image) :
    imageKey (relation.keyColumns.map MockColumn.name) image = relation.keyImage crates row.key := by
  obtain ⟨fields, rfl, _, cells, _⟩ := isImage
  have pairs : relation.keyColumns.zip row.key = row.keyCells :=
    (List.zip_of_prod (keyCells_columns row) rfl).symm
  rw [MockRelation.keyImage, pairs, imageKey, ← keyCells_columns row, List.map_map, List.map_map]
  apply List.map_congr_left
  rintro ⟨column, value⟩ member
  obtain ⟨json, read, found⟩ := cells column value (List.mem_of_mem_filter member)
  simp only [Function.comp_apply, found, Option.getD_some, cellJson_of_ok crates read]

/-- The event of a row operation. -/
def IsEventOf {relation : MockRelation} (op : RowOp relation) (event : ChangeEvent) : Prop :=
  match op with
  | .insert row => IsChangeOf crates relation .insert none (some row) event
  | .update old row => IsChangeOf crates relation .update (old.map Prod.snd) (some row) event
  | .delete _ old => IsChangeOf crates relation .delete (some old) none event

theorem decode_rowOp {self : PgOutputDecoder} {relation : MockRelation}
    (known : self.relations relation.id = some relation.info) (builder : MockMessageBuilder)
    (clock : Clock) (op : RowOp relation) :
    ∃ event, (self.decode crates clock (op.message builder)).1 = .ok (some (.change event)) ∧
      IsEventOf crates op event := by
  cases op with
  | insert row => exact PgOutputDecoder.decode_insertMessage crates known builder clock row
  | update old row => exact PgOutputDecoder.decode_updateMessage crates known builder clock old row
  | delete kind old => exact PgOutputDecoder.decode_deleteMessage crates known builder clock kind old

theorem imageOf_rel {relation : MockRelation} {row : Option (MockRow relation)} {image : Option Json}
    (isImage : ImageOf crates row image) : Option.Rel (IsImage crates) row image := by
  cases row with
  | none =>
      obtain rfl : image = none := isImage
      exact .none
  | some row =>
      obtain ⟨object, rfl, found⟩ := isImage
      exact .some found

/-- The event shows the change of the rows. -/
theorem rowChange_shows {relation : MockRelation} {op : RowOp relation} {event : ChangeEvent}
    (isEvent : IsEventOf crates op event) :
    ∃ change, event.rowChange = some change ∧ Shows (IsImage crates) op.change change := by
  cases op with
  | insert row =>
      obtain ⟨image, after, isImage⟩ := isEvent.after
      exact ⟨.insert image, by simp only [ChangeEvent.rowChange, isEvent.op, after], .insert isImage⟩
  | update old row =>
      obtain ⟨image, after, isImage⟩ := isEvent.after
      exact ⟨.update event.before image, by simp only [ChangeEvent.rowChange, isEvent.op, after],
        .update (imageOf_rel crates isEvent.before) isImage⟩
  | delete kind old =>
      obtain ⟨image, before, isImage⟩ := isEvent.before
      exact ⟨.delete image, by simp only [ChangeEvent.rowChange, isEvent.op, before], .delete isImage⟩

theorem isEventOf_table {relation : MockRelation} {op : RowOp relation} {event : ChangeEvent}
    (isEvent : IsEventOf crates op event) :
    event.schema = relation.schema ∧ event.table = relation.table := by
  cases op with
  | insert row => exact ⟨isEvent.schema, isEvent.table⟩
  | update old row => exact ⟨isEvent.schema, isEvent.table⟩
  | delete kind old => exact ⟨isEvent.schema, isEvent.table⟩

end Images

/-- No row operation announces a table. -/
theorem relation?_rowOp {relation : MockRelation} (builder : MockMessageBuilder) (op : RowOp relation) :
    relation? (op.message builder) = none := by
  have behind : ∀ tag rest, tag ≠ Tag.relation →
      relation? (builder.createXlogdataHeader ++ tag :: rest) = none := by
    intro tag rest other
    rw [relation?, readBehind_cons (xLogData?_createXlogdataHeader builder _), if_neg other]
  cases op with
  | insert row =>
      have shape := behind Tag.insert (putU32 relation.id ++ Tag.newTuple :: putTuple row.values)
        (by decide)
      simpa only [RowOp.message, MockMessageBuilder.insertMessage, List.append_assoc,
        List.cons_append] using shape
  | update old row =>
      have shape := behind Tag.update
        (putU32 relation.id ++ (putOldTuple old ++ Tag.newTuple :: putTuple row.values)) (by decide)
      simpa only [RowOp.message, MockMessageBuilder.updateMessage, List.append_assoc,
        List.cons_append] using shape
  | delete kind old =>
      have shape := behind Tag.delete (putU32 relation.id ++ kind.tag :: putTuple old.values)
        (by decide)
      simpa only [RowOp.message, MockMessageBuilder.deleteMessage, List.append_assoc,
        List.cons_append] using shape

/-- A table of two columns, the first of which is its key. -/
def stock : MockRelation where
  id := 7
  schema := "s"
  table := "t"
  columns := [⟨"id", 23, true, by decide⟩, ⟨"n", 23, false, by decide⟩]
  schemaFits := by decide
  tableFits := by decide
  columnsFit := by decide
  distinct := by decide

def stockCell (number : UInt8) : BinaryValue :=
  .binary [0, 0, 0, number] (List.cons_ne_nil _ _) (by simp)

def stockRow (id n : UInt8) : MockRow stock where
  values := [stockCell id, stockCell n]
  complete := rfl

end PgCapture.Postgres
