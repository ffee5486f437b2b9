import PgCapture.Postgres.Decoder.State
import PgCapture.Postgres.TestUtils
import Mathlib.Data.List.Forall2

namespace PgCapture.Postgres

open PgCapture.Data Cursor

/-! # Decoding what the builder wrote

Every reader takes exactly the bytes its writer put and leaves the rest, so the
lemmas all have one form: the reader on the written bytes and any tail returns
the value and that tail.
-/

theorem lengthPrefixed_putName (tooLong : Nat → Nat → String) {name : String}
    (fits : (Utf8.encode name).length ≤ 255) (rest : Bytes) :
    lengthPrefixed tooLong (putName name ++ rest) = .ok (name, rest) := by
  have length : (UInt8.ofNat (Utf8.encode name).length).toNat = (Utf8.encode name).length := by
    rw [UInt8.toNat_ofNat']
    omega
  have enough : ¬ (Utf8.encode name ++ rest).length <
      (UInt8.ofNat (Utf8.encode name).length).toNat := by
    rw [length, List.length_append]
    omega
  rw [lengthPrefixed, putName, List.cons_append, bind_of_ok (getU8_cons _ _),
    bind_of_ok (remaining_apply _), if_neg enough,
    bind_of_ok (takeBytes_append _ rest length.symm), Utf8.fromUtf8Lossy_encode]
  rfl

def MockColumn.info (column : MockColumn) : ColumnInfo :=
  { name := column.name, typeId := column.typeId, isKey := column.isKey }

def MockRelation.info (relation : MockRelation) : RelationInfo :=
  { id := relation.id, schema := relation.schema, table := relation.table,
    columns := relation.columns.map MockColumn.info }

theorem relationColumn_putColumn (column : MockColumn) (rest : Bytes) :
    relationColumn (putColumn column ++ rest) = .ok (column.info, rest) := by
  have key : decide ((if column.isKey then 1 else 0 : UInt8) &&& 1 ≠ 0) = column.isKey := by
    cases column.isKey <;> rfl
  simp only [relationColumn, putColumn, List.cons_append, List.append_assoc]
  rw [bind_of_ok (getU8_cons _ _), bind_of_ok (lengthPrefixed_putName _ column.nameFits _),
    bind_of_ok (getU32_put _ _), bind_of_ok (getI32_put _ _), key]
  rfl

theorem relationColumns_putColumn (columns : List MockColumn) (rest : Bytes) :
    relationColumns columns.length (columns.flatMap putColumn ++ rest) =
      .ok (columns.map MockColumn.info, rest) := by
  induction columns with
  | nil => rfl
  | cons column columns ih =>
      simp only [List.length_cons, relationColumns, List.flatMap_cons, List.append_assoc]
      rw [bind_of_ok (relationColumn_putColumn column _), bind_of_ok ih]
      rfl

theorem relationInfo_put (relation : MockRelation) :
    relationInfo.run (putU32 relation.id ++ putName relation.schema ++ putName relation.table ++
      0x6E :: putU16 (UInt16.ofNat relation.columns.length) ++ relation.columns.flatMap putColumn) =
        .ok relation.info := by
  have count : (UInt16.ofNat relation.columns.length).toNat = relation.columns.length := by
    rw [UInt16.toNat_ofNat']
    have fits := relation.columnsFit
    omega
  have columns := relationColumns_putColumn relation.columns []
  rw [List.append_nil] at columns
  simp only [relationInfo, List.append_assoc, List.cons_append]
  rw [run_bind_of_ok (remaining_apply _), if_neg]
  · rw [run_bind_of_ok (getU32_put _ _),
      run_bind_of_ok (lengthPrefixed_putName _ relation.schemaFits _),
      run_bind_of_ok (lengthPrefixed_putName _ relation.tableFits _),
      run_bind_of_ok (getU8_cons _ _), run_bind_of_ok (getU16_put _ _), count,
      run_bind_of_ok columns]
    rfl
  · simp only [List.length_append, List.length_cons, putU32_length, putU16_length, putName]
    omega

theorem xLogData?_createXlogdataHeader (builder : MockMessageBuilder) (body : Bytes) :
    xLogData? (builder.createXlogdataHeader ++ body) = some (builder.lsn + 100, body) := by
  have frame : builder.createXlogdataHeader ++ body =
      xLogDataFrame builder.lsn (builder.lsn + 100) builder.timestamp body := by
    simp only [MockMessageBuilder.createXlogdataHeader, xLogDataFrame, List.cons_append,
      List.append_assoc]
  rw [frame, xLogData?_frame]

theorem relation?_relationMessage (builder : MockMessageBuilder) (relation : MockRelation) :
    relation? (builder.relationMessage relation) = some relation.info := by
  have headed := xLogData?_createXlogdataHeader builder
    (Tag.relation :: (putU32 relation.id ++ putName relation.schema ++ putName relation.table ++
      0x6E :: putU16 (UInt16.ofNat relation.columns.length) ++ relation.columns.flatMap putColumn))
  have shape : builder.relationMessage relation = builder.createXlogdataHeader ++
      (Tag.relation :: (putU32 relation.id ++ putName relation.schema ++ putName relation.table ++
        0x6E :: putU16 (UInt16.ofNat relation.columns.length) ++
          relation.columns.flatMap putColumn)) := by
    simp only [MockMessageBuilder.relationMessage, List.append_assoc, List.cons_append]
  rw [relation?, shape, readBehind_cons headed, if_pos rfl, relationInfo_put, Outcome.toOption_ok]

variable (crates : Crates)

def cellValue (column : MockColumn) : BinaryValue → Outcome Error Json
  | .null => .ok .null
  | .text text _ => parsePostgresValue crates text column.typeId
  | .binary data _ _ => parsePostgresBinaryValue crates data column.typeId

theorem cellValue_total (column : MockColumn) (value : BinaryValue) :
    ∃ json, cellValue crates column value = .ok json := by
  cases value with
  | null => exact ⟨.null, rfl⟩
  | text text fits => exact parsePostgresValue_total crates text column.typeId
  | binary data nonempty fits => exact parsePostgresBinaryValue_total crates data column.typeId

theorem decodeCell_putValue {column : MockColumn} {value : BinaryValue} {json : Json}
    (read : cellValue crates column value = .ok json) (rest : Bytes) :
    decodeCell crates column.info (putValue value ++ rest) = .ok (json, rest) := by
  cases value with
  | null =>
      cases read
      rfl
  | text text fits =>
      have length : (Int32.ofNat (Utf8.encode text).length).toUInt32.toNat =
          (Utf8.encode text).length := by
        change (UInt32.ofNat (Utf8.encode text).length).toNat = _
        rw [UInt32.toNat_ofNat']
        omega
      have parsed : parsePostgresValue (ε := Error) crates text column.info.typeId = .ok json := read
      have enough : ¬ (Utf8.encode text ++ rest).length <
          (Int32.ofNat (Utf8.encode text).length).toUInt32.toNat := by
        rw [length, List.length_append]
        omega
      simp only [putValue, putSized, List.cons_append, List.append_assoc]
      rw [decodeCell, bind_of_ok (getU8_cons _ _)]
      change decodeTextCell crates column.info _ = _
      rw [decodeTextCell, putI32, bind_of_ok (getU32_put _ _),
        bind_of_ok (remaining_apply _), if_neg enough,
        bind_of_ok (takeBytes_append _ rest length.symm), Utf8.fromUtf8Lossy_encode, parsed]
      rfl
  | binary data nonempty fits =>
      have value : (Int32.ofNat data.length).toInt = data.length := Int32.toInt_ofNat_of_lt fits
      have length : (Int32.ofNat data.length).toInt.toNat = data.length := by
        rw [value, Int.toNat_natCast]
      have positive : 0 < Int32.ofNat data.length := by
        rw [Int32.lt_iff_toInt_lt, value, Int32.toInt_zero]
        exact Int.natCast_pos.mpr (List.length_pos_iff.mpr nonempty)
      have parsed : parsePostgresBinaryValue (ε := Error) crates data column.info.typeId = .ok json := read
      simp only [putValue, putSized, List.cons_append, List.append_assoc]
      rw [decodeCell, bind_of_ok (getU8_cons _ _)]
      change decodeBinaryCell crates column.info _ = _
      rw [decodeBinaryCell, bind_of_ok (getI32_put _ _), if_pos positive,
        bind_of_ok (takeBytes_append _ rest length.symm), parsed]
      rfl

def Entries (columns : List MockColumn) (values : List BinaryValue) (entries : List (String × Json)) :
    Prop :=
  List.Forall₂ (fun source entry => entry.1 = source.1.name ∧
    cellValue crates source.1 source.2 = .ok entry.2) (columns.zip values) entries

theorem decodeCells_putValue {columns : List MockColumn} {values : List BinaryValue}
    (complete : values.length = columns.length) :
    ∃ entries, Entries crates columns values entries ∧ ∀ tuple rest,
      decodeCells crates (columns.map MockColumn.info) tuple (values.flatMap putValue ++ rest) =
        .ok (OrderedMap.insertAll entries tuple, rest) := by
  induction columns generalizing values with
  | nil =>
      have empty : values = [] := List.length_eq_zero_iff.mp complete
      subst empty
      exact ⟨[], List.Forall₂.nil, fun tuple rest => rfl⟩
  | cons column columns ih =>
      cases values with
      | nil => simp at complete
      | cons value values =>
          simp only [List.length_cons, Nat.add_right_cancel_iff] at complete
          obtain ⟨json, read⟩ := cellValue_total crates column value
          obtain ⟨entries, forms, decoded⟩ := ih complete
          refine ⟨(column.name, json) :: entries, List.Forall₂.cons ⟨rfl, read⟩ forms, ?_⟩
          intro tuple rest
          simp only [List.map_cons, List.flatMap_cons, List.append_assoc, decodeCells]
          rw [bind_of_ok (decodeCell_putValue crates read _), decoded]
          rfl

theorem Entries.keys {columns : List MockColumn} {values : List BinaryValue}
    {entries : List (String × Json)} (forms : Entries crates columns values entries)
    (complete : values.length = columns.length) :
    OrderedMap.keys entries = columns.map MockColumn.name := by
  induction columns generalizing values entries with
  | nil =>
      cases forms
      rfl
  | cons column columns ih =>
      cases values with
      | nil => simp at complete
      | cons value values =>
          simp only [List.length_cons, Nat.add_right_cancel_iff] at complete
          cases forms with
          | cons first rest =>
              have tail := ih rest complete
              simp only [OrderedMap.keys, List.map_cons] at tail ⊢
              rw [first.1, tail]

theorem Entries.mem {columns : List MockColumn} {values : List BinaryValue}
    {entries : List (String × Json)} (forms : Entries crates columns values entries)
    {column : MockColumn} {value : BinaryValue} (member : (column, value) ∈ columns.zip values) :
    ∃ json, cellValue crates column value = .ok json ∧ (column.name, json) ∈ entries := by
  obtain ⟨index, within, same⟩ := List.mem_iff_getElem.mp member
  have inside : index < entries.length := List.Forall₂.length_eq forms ▸ within
  obtain ⟨name, read⟩ := List.Forall₂.get forms within inside
  simp only [List.get_eq_getElem, same] at name read
  refine ⟨entries[index].2, read, ?_⟩
  rw [← name]
  exact List.getElem_mem inside

/-- The object that maps each column name to the value of its own cell. -/
def IsImage {relation : MockRelation} (row : MockRow relation) (image : Json) : Prop :=
  ∃ fields, image = .object fields ∧
    (OrderedMap.keys fields).Pairwise (· < ·) ∧
    (∀ column value, (column, value) ∈ relation.columns.zip row.values →
      ∃ json, cellValue crates column value = .ok json ∧
        OrderedMap.get? column.name fields = some json) ∧
    ∀ name, name ∉ relation.columns.map MockColumn.name → OrderedMap.get? name fields = none

theorem decodeTupleData_putTuple {relation : MockRelation} (row : MockRow relation) :
    ∃ image, IsImage crates row image ∧ ∀ rest,
      decodeTupleData crates relation.info.columns (putTuple row.values ++ rest) = .ok (image, rest) := by
  obtain ⟨entries, forms, decoded⟩ := decodeCells_putValue crates row.complete
  have keys := forms.keys crates row.complete
  have distinct : (OrderedMap.keys entries).Nodup := keys ▸ relation.distinct
  refine ⟨.object (OrderedMap.insertAll entries []), ⟨_, rfl, ?_, ?_, ?_⟩, ?_⟩
  · exact OrderedMap.insertAll_sorted entries List.Pairwise.nil
  · intro column value member
    obtain ⟨json, read, found⟩ := forms.mem crates member
    refine ⟨json, read, ?_⟩
    rw [OrderedMap.get?_insertAll distinct]
    exact OrderedMap.get?_of_mem distinct found
  · intro name absent
    rw [OrderedMap.get?_insertAll distinct, OrderedMap.get?_eq_none_iff, keys]
    exact absent
  · intro rest
    have count : (UInt16.ofNat row.values.length).toNat = relation.info.columns.length := by
      have fits := relation.columnsFit
      have complete := row.complete
      rw [UInt16.toNat_ofNat', MockRelation.info, List.length_map]
      omega
    rw [decodeTupleData, putTuple, List.append_assoc, bind_of_ok (getU16_put _ _),
      if_neg (not_not_intro count)]
    exact bind_of_ok (decoded [] rest)

theorem decodeTupleData_last {relation : MockRelation} (row : MockRow relation) :
    ∃ image, IsImage crates row image ∧
      decodeTupleData crates relation.info.columns (putTuple row.values) = .ok (image, []) := by
  obtain ⟨image, isImage, decoded⟩ := decodeTupleData_putTuple crates row
  have tuple := decoded []
  rw [List.append_nil] at tuple
  exact ⟨image, isImage, tuple⟩

def ImageOf {relation : MockRelation} : Option (MockRow relation) → Option Json → Prop
  | none, image => image = none
  | some row, image => ∃ object, image = some object ∧ IsImage crates row object

/-- A change of this relation from one row to the other. -/
structure IsChangeOf (relation : MockRelation) (op : ChangeOperation)
    (before after : Option (MockRow relation)) (event : ChangeEvent) : Prop where
  op : event.op = op
  schema : event.schema = relation.schema
  table : event.table = relation.table
  before : ImageOf crates before event.before
  after : ImageOf crates after event.after

namespace PgOutputDecoder

theorem relation_apply {self : PgOutputDecoder} {id : UInt32} {relation : RelationInfo}
    (known : self.relations id = some relation) (bytes : Bytes) :
    self.relation id bytes = .ok (relation, bytes) := by
  rw [PgOutputDecoder.relation, known]
  rfl

theorem decodeInsert_put {self : PgOutputDecoder} {relation : MockRelation}
    (known : self.relations relation.id = some relation.info) (clock : Clock) (row : MockRow relation) :
    ∃ event, (self.decodeInsert crates clock).run
        (putU32 relation.id ++ Tag.newTuple :: putTuple row.values) = .ok (some (.change event)) ∧
      IsChangeOf crates relation .insert none (some row) event := by
  obtain ⟨image, isImage, tuple⟩ := decodeTupleData_last crates row
  refine ⟨self.changeEvent clock relation.info .insert none (some image), ?_,
    ⟨rfl, rfl, rfl, rfl, image, rfl, isImage⟩⟩
  rw [decodeInsert, run_bind_of_ok (remaining_apply _), if_neg]
  · rw [run_bind_of_ok (getU32_put _ _), run_bind_of_ok (getU8_cons _ _),
      if_neg (not_not_intro rfl), run_bind_of_ok (relation_apply known _), run_bind_of_ok tuple]
    rfl
  · simp only [List.length_append, List.length_cons, putU32_length, putTuple, putU16_length]
    omega

theorem newTupleAfterOld_put {relation : MockRelation} (row : MockRow relation) :
    ∃ image, IsImage crates row image ∧
      newTupleAfterOld crates relation.info.columns (Tag.newTuple :: putTuple row.values) =
        .ok (some image, []) := by
  obtain ⟨image, isImage, tuple⟩ := decodeTupleData_last crates row
  refine ⟨image, isImage, ?_⟩
  rw [newTupleAfterOld, bind_of_ok (remaining_apply _),
    if_pos (List.length_pos_iff.mpr (List.cons_ne_nil _ _)), bind_of_ok (getU8_cons _ _), if_pos rfl, bind_of_ok tuple]
  rfl

theorem updateTuples_put {relation : MockRelation}
    (oldValues : Option (OldTupleKind × MockRow relation)) (newValues : MockRow relation) :
    ∃ before after, ImageOf crates (oldValues.map Prod.snd) before ∧
      ImageOf crates (some newValues) after ∧
      updateTuples crates relation.info.columns
        (putOldTuple oldValues ++ Tag.newTuple :: putTuple newValues.values) = .ok ((before, after), []) := by
  cases oldValues with
  | none =>
      obtain ⟨image, isImage, tuple⟩ := decodeTupleData_last crates newValues
      refine ⟨none, some image, rfl, ⟨image, rfl, isImage⟩, ?_⟩
      rw [putOldTuple, List.nil_append, updateTuples, bind_of_ok (remaining_apply _),
        if_pos (List.length_pos_iff.mpr (List.cons_ne_nil _ _)), bind_of_ok (getU8_cons _ _)]
      exact bind_of_ok tuple
  | some oldTuple =>
      obtain ⟨kind, old⟩ := oldTuple
      obtain ⟨oldImage, isOld, decodedOld⟩ := decodeTupleData_putTuple crates old
      obtain ⟨newImage, isNew, decodedNew⟩ := newTupleAfterOld_put crates newValues
      refine ⟨some oldImage, some newImage, ⟨oldImage, rfl, isOld⟩, ⟨newImage, rfl, isNew⟩, ?_⟩
      rw [putOldTuple, List.cons_append, updateTuples, bind_of_ok (remaining_apply _),
        if_pos (List.length_pos_iff.mpr (List.cons_ne_nil _ _)), bind_of_ok (getU8_cons _ _)]
      -- both tags of an old tuple take the same branch
      have branch : (do
          let old ← decodeTupleData crates relation.info.columns
          let new ← newTupleAfterOld crates relation.info.columns
          pure (some old, new) : Cursor Error (Option Json × Option Json))
            (putTuple old.values ++ Tag.newTuple :: putTuple newValues.values) =
          .ok ((some oldImage, some newImage), []) := by
        rw [bind_of_ok (decodedOld _), bind_of_ok decodedNew]
        rfl
      cases kind with
      | old => exact branch
      | key => exact branch

theorem decodeUpdate_put {self : PgOutputDecoder} {relation : MockRelation}
    (known : self.relations relation.id = some relation.info) (clock : Clock)
    (oldValues : Option (OldTupleKind × MockRow relation)) (newValues : MockRow relation) :
    ∃ event, (self.decodeUpdate crates clock).run (putU32 relation.id ++
        (putOldTuple oldValues ++ Tag.newTuple :: putTuple newValues.values)) = .ok (some (.change event)) ∧
      IsChangeOf crates relation .update (oldValues.map Prod.snd) (some newValues) event := by
  obtain ⟨before, after, isBefore, isAfter, decoded⟩ := updateTuples_put crates oldValues newValues
  refine ⟨self.changeEvent clock relation.info .update before after, ?_,
    ⟨rfl, rfl, rfl, isBefore, isAfter⟩⟩
  rw [decodeUpdate, run_bind_of_ok (remaining_apply _), if_neg]
  · rw [run_bind_of_ok (getU32_put _ _), run_bind_of_ok (relation_apply known _),
      run_bind_of_ok decoded]
    rfl
  · simp only [List.length_append, List.length_cons, putU32_length]
    omega

theorem decodeDelete_put {self : PgOutputDecoder} {relation : MockRelation}
    (known : self.relations relation.id = some relation.info) (clock : Clock)
    (kind : OldTupleKind) (row : MockRow relation) :
    ∃ event, (self.decodeDelete crates clock).run
        (putU32 relation.id ++ kind.tag :: putTuple row.values) = .ok (some (.change event)) ∧
      IsChangeOf crates relation .delete (some row) none event := by
  obtain ⟨image, isImage, tuple⟩ := decodeTupleData_last crates row
  have accepted : ¬ (kind.tag ≠ Tag.oldTuple ∧ kind.tag ≠ Tag.keyTuple) := by
    cases kind <;> decide
  refine ⟨self.changeEvent clock relation.info .delete (some image) none, ?_,
    ⟨rfl, rfl, rfl, ⟨image, rfl, isImage⟩, rfl⟩⟩
  rw [decodeDelete, run_bind_of_ok (remaining_apply _), if_neg]
  · rw [run_bind_of_ok (getU32_put _ _), run_bind_of_ok (getU8_cons _ _), if_neg accepted,
      run_bind_of_ok (relation_apply known _), run_bind_of_ok tuple]
    rfl
  · simp only [List.length_append, List.length_cons, putU32_length, putTuple, putU16_length]
    omega

theorem decode_insertMessage {self : PgOutputDecoder} {relation : MockRelation}
    (known : self.relations relation.id = some relation.info) (builder : MockMessageBuilder)
    (clock : Clock) (row : MockRow relation) :
    ∃ event, (self.decode crates clock (builder.insertMessage row)).1 = .ok (some (.change event)) ∧
      IsChangeOf crates relation .insert none (some row) event := by
  have headed := xLogData?_createXlogdataHeader builder
    (Tag.insert :: (putU32 relation.id ++ Tag.newTuple :: putTuple row.values))
  have shape : builder.insertMessage row = builder.createXlogdataHeader ++
      Tag.insert :: (putU32 relation.id ++ Tag.newTuple :: putTuple row.values) := by
    simp only [MockMessageBuilder.insertMessage, List.append_assoc, List.cons_append]
  have announced : (self.atLsn (builder.lsn + 100)).relations relation.id = some relation.info := known
  rw [shape, decode_headed crates headed, decodeBody_insert]
  exact decodeInsert_put crates announced clock row

theorem decode_updateMessage {self : PgOutputDecoder} {relation : MockRelation}
    (known : self.relations relation.id = some relation.info) (builder : MockMessageBuilder)
    (clock : Clock) (oldValues : Option (OldTupleKind × MockRow relation))
    (newValues : MockRow relation) :
    ∃ event, (self.decode crates clock (builder.updateMessage oldValues newValues)).1 =
        .ok (some (.change event)) ∧
      IsChangeOf crates relation .update (oldValues.map Prod.snd) (some newValues) event := by
  have headed := xLogData?_createXlogdataHeader builder
    (Tag.update :: (putU32 relation.id ++ (putOldTuple oldValues ++
      Tag.newTuple :: putTuple newValues.values)))
  have shape : builder.updateMessage oldValues newValues = builder.createXlogdataHeader ++
      Tag.update :: (putU32 relation.id ++ (putOldTuple oldValues ++
        Tag.newTuple :: putTuple newValues.values)) := by
    simp only [MockMessageBuilder.updateMessage, List.append_assoc, List.cons_append]
  have announced : (self.atLsn (builder.lsn + 100)).relations relation.id = some relation.info := known
  rw [shape, decode_headed crates headed, decodeBody_update]
  exact decodeUpdate_put crates announced clock oldValues newValues

theorem decode_deleteMessage {self : PgOutputDecoder} {relation : MockRelation}
    (known : self.relations relation.id = some relation.info) (builder : MockMessageBuilder)
    (clock : Clock) (kind : OldTupleKind) (row : MockRow relation) :
    ∃ event, (self.decode crates clock (builder.deleteMessage kind row)).1 =
        .ok (some (.change event)) ∧
      IsChangeOf crates relation .delete (some row) none event := by
  have headed := xLogData?_createXlogdataHeader builder
    (Tag.delete :: (putU32 relation.id ++ kind.tag :: putTuple row.values))
  have shape : builder.deleteMessage kind row = builder.createXlogdataHeader ++
      Tag.delete :: (putU32 relation.id ++ kind.tag :: putTuple row.values) := by
    simp only [MockMessageBuilder.deleteMessage, List.append_assoc, List.cons_append]
  have announced : (self.atLsn (builder.lsn + 100)).relations relation.id = some relation.info := known
  rw [shape, decode_headed crates headed, decodeBody_delete]
  exact decodeDelete_put crates announced clock kind row

/-- After its relation is announced, every row message the builder writes is
    decoded to the change it was built from. -/
theorem decode_builder (self : PgOutputDecoder) (relation : MockRelation)
    (announcer builder : MockMessageBuilder) (announced clock : Clock) :
    let announcement := self.decode crates announced (announcer.relationMessage relation)
    announcement.1 = .ok none ∧
    (∀ row : MockRow relation, ∃ event,
      (announcement.2.decode crates clock (builder.insertMessage row)).1 =
        .ok (some (.change event)) ∧
      IsChangeOf crates relation .insert none (some row) event) ∧
    (∀ (oldValues : Option (OldTupleKind × MockRow relation)) (newValues : MockRow relation), ∃ event,
      (announcement.2.decode crates clock (builder.updateMessage oldValues newValues)).1 =
        .ok (some (.change event)) ∧
      IsChangeOf crates relation .update (oldValues.map Prod.snd) (some newValues) event) ∧
    (∀ (kind : OldTupleKind) (row : MockRow relation), ∃ event,
      (announcement.2.decode crates clock (builder.deleteMessage kind row)).1 =
        .ok (some (.change event)) ∧
      IsChangeOf crates relation .delete (some row) none event) := by
  intro announcement
  have announces := relation?_relationMessage announcer relation
  have known : announcement.2.relations relation.id = some relation.info := by
    simp only [announcement, decode_state, advance, announces]
    exact Function.update_self _ _ _
  refine ⟨decode_of_relation crates announces self announced, ?_, ?_, ?_⟩
  · intro row
    exact decode_insertMessage crates known builder clock row
  · intro oldValues newValues
    exact decode_updateMessage crates known builder clock oldValues newValues
  · intro kind row
    exact decode_deleteMessage crates known builder clock kind row

end PgOutputDecoder

end PgCapture.Postgres
