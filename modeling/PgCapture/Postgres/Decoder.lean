import PgCapture.Error
import PgCapture.Postgres.Types
import PgCapture.Postgres.Value
import PgCapture.Postgres.Lsn
import Mathlib.Logic.Function.Basic

namespace PgCapture.Postgres

open PgCapture.Data Cursor

/-! # The pgoutput decoder

`decode` takes one replication message and answers with what it means for the
consumer.  The decoder carries three pieces of state between messages: the
relations announced so far, the position of the last message with a complete
header, and the transaction of the last BEGIN.
-/

namespace Tag

@[match_pattern] abbrev xLogData : UInt8 := 0x77
@[match_pattern] abbrev primaryKeepalive : UInt8 := 0x6B
@[match_pattern] abbrev begin : UInt8 := 0x42
@[match_pattern] abbrev commit : UInt8 := 0x43
@[match_pattern] abbrev relation : UInt8 := 0x52
@[match_pattern] abbrev insert : UInt8 := 0x49
@[match_pattern] abbrev update : UInt8 := 0x55
@[match_pattern] abbrev delete : UInt8 := 0x44
@[match_pattern] abbrev truncate : UInt8 := 0x54
@[match_pattern] abbrev newTuple : UInt8 := 0x4E
@[match_pattern] abbrev oldTuple : UInt8 := 0x4F
@[match_pattern] abbrev keyTuple : UInt8 := 0x4B
@[match_pattern] abbrev nullCell : UInt8 := 0x6E
@[match_pattern] abbrev textCell : UInt8 := 0x74
@[match_pattern] abbrev binaryCell : UInt8 := 0x62

end Tag

structure ColumnInfo where
  name : String
  typeId : UInt32
  isKey : Bool
deriving DecidableEq, Repr

structure RelationInfo where
  id : UInt32
  schema : String
  table : String
  columns : List ColumnInfo
deriving DecidableEq, Repr

structure PgOutputDecoder where
  relations : UInt32 → Option RelationInfo
  currentLsn : Option String
  currentXid : Option UInt32
  databaseName : String

/-- The wall-clock readings one event takes. -/
structure Clock where
  event : Int
  source : Int
deriving DecidableEq, Repr

abbrev Answer := Outcome Error (Option DecodedMessage)

/-- A name behind its one-byte length. -/
def lengthPrefixed (tooLong : Nat → Nat → String) : Cursor Error String := do
  let length ← getU8
  let left ← remaining
  if left < length.toNat then fail (.invalidMessage (tooLong length.toNat left))
  else do
    let bytes ← takeBytes length.toNat
    pure (Utf8.fromUtf8Lossy bytes)

def relationColumn : Cursor Error ColumnInfo := do
  let flags ← getU8
  let name ← lengthPrefixed fun length left =>
    s!"Invalid column name length: {length} (remaining: {left})"
  let typeId ← getU32
  let _typeModifier ← getI32
  pure { name, typeId, isKey := flags &&& 1 ≠ 0 }

def relationColumns : Nat → Cursor Error (List ColumnInfo)
  | 0 => pure []
  | count + 1 => do
      let column ← relationColumn
      let columns ← relationColumns count
      pure (column :: columns)

def relationInfo : Cursor Error RelationInfo := do
  let left ← remaining
  if left < 7 then fail (.invalidMessage "Invalid RELATION message size")
  else do
    let id ← getU32
    let schema ← lengthPrefixed fun _ _ => "Invalid namespace length"
    let table ← lengthPrefixed fun _ _ => "Invalid table name length"
    let _replicaIdentity ← getU8
    let numColumns ← getU16
    let columns ← relationColumns numColumns.toNat
    pure { id, schema, table, columns }

variable (crates : Crates)

def decodeTextCell (column : ColumnInfo) : Cursor Error Json := do
  let length ← getU32
  let left ← remaining
  if left < length.toNat then fail (.invalidMessage "Invalid text value length")
  else do
    let bytes ← takeBytes length.toNat
    lift (parsePostgresValue crates (Utf8.fromUtf8Lossy bytes) column.typeId)

-- unlike the text form, the length is not compared with what is left
def decodeBinaryCell (column : ColumnInfo) : Cursor Error Json := do
  let length ← getI32
  if 0 < length then do
    let bytes ← takeBytes length.toInt.toNat
    lift (parsePostgresBinaryValue crates bytes column.typeId)
  else pure .null

def decodeCell (column : ColumnInfo) : Cursor Error Json := do
  let colType ← getU8
  match colType with
  | Tag.nullCell => pure .null
  | Tag.textCell => decodeTextCell crates column
  | Tag.binaryCell => decodeBinaryCell crates column
  | _ => fail (.invalidMessage s!"Unknown column type: {colType}")

def decodeCells : List ColumnInfo → List (String × Json) → Cursor Error (List (String × Json))
  | [], tuple => pure tuple
  | column :: columns, tuple => do
      let value ← decodeCell crates column
      decodeCells columns (OrderedMap.insert column.name value tuple)

def decodeTupleData (columns : List ColumnInfo) : Cursor Error Json := do
  let numColumns ← getU16
  let expected := columns.length
  if numColumns.toNat ≠ expected then
    fail (.invalidMessage s!"Column count mismatch: {numColumns} vs {expected}")
  else do
    let tuple ← decodeCells crates columns []
    pure (.object tuple)

namespace PgOutputDecoder

def new (databaseName : String) : PgOutputDecoder :=
  { relations := fun _ => none, currentLsn := none, currentXid := none, databaseName }

/-- Read the message position; every handler sees it. -/
def atLsn (self : PgOutputDecoder) (lsn : UInt64) : PgOutputDecoder :=
  { self with currentLsn := some (formatLsn lsn) }

def beginXid : Cursor Error UInt32 := do
  let left ← remaining
  if left < 20 then fail (.invalidMessage "Invalid BEGIN message size")
  else do
    let _finalLsn ← getU64
    let _timestamp ← getI64
    getU32

def decodeBegin (self : PgOutputDecoder) (cursor : Bytes) : Answer × PgOutputDecoder :=
  match beginXid.run cursor with
  | .ok xid => (.ok (some (.begin xid)), { self with currentXid := some xid })
  | .err reason => (.err reason, self)
  | .panic => (.panic, self)

def decodeCommit : Cursor Error (Option DecodedMessage) := do
  let left ← remaining
  if left < 25 then fail (.invalidMessage "Invalid COMMIT message size")
  else do
    let _flags ← getU8
    let _commitLsn ← getU64
    let _endLsn ← getU64
    let _timestamp ← getI64
    pure (some .commit)

def decodeRelation (self : PgOutputDecoder) (cursor : Bytes) : Answer × PgOutputDecoder :=
  match relationInfo.run cursor with
  | .ok relation =>
      (.ok none, { self with relations := Function.update self.relations relation.id (some relation) })
  | .err reason => (.err reason, self)
  | .panic => (.panic, self)

def relation (self : PgOutputDecoder) (id : UInt32) : Cursor Error RelationInfo :=
  match self.relations id with
  | some relation => pure relation
  | none => fail (.invalidMessage s!"Unknown relation ID: {id}")

def changeEvent (self : PgOutputDecoder) (clock : Clock) (relation : RelationInfo)
    (op : ChangeOperation) (before after : Option Json) : ChangeEvent :=
  { schema := relation.schema, table := relation.table, op, tsMs := clock.event, before, after,
    source := (SourceMetadata.new self.databaseName relation.schema relation.table
      (self.currentLsn.getD "") clock.source).withXid (self.currentXid.getD 0) }

def decodeInsert (self : PgOutputDecoder) (clock : Clock) : Cursor Error (Option DecodedMessage) := do
  let left ← remaining
  if left < 6 then fail (.invalidMessage "Invalid INSERT message size")
  else do
    let relId ← getU32
    let tupleType ← getU8
    if tupleType ≠ Tag.newTuple then
      fail (.invalidMessage s!"Unexpected tuple type in INSERT: {tupleType}")
    else do
      let relation ← self.relation relId
      let tupleData ← decodeTupleData crates relation.columns
      pure (some (.change (self.changeEvent clock relation .insert none (some tupleData))))

def newTupleAfterOld (columns : List ColumnInfo) : Cursor Error (Option Json) := do
  let left ← remaining
  if 0 < left then do
    let nextType ← getU8
    if nextType = Tag.newTuple then do
      let tuple ← decodeTupleData crates columns
      pure (some tuple)
    else pure none
  else pure none

def updateTuples (columns : List ColumnInfo) : Cursor Error (Option Json × Option Json) := do
  let left ← remaining
  if 0 < left then do
    let tupleType ← getU8
    match tupleType with
    | Tag.oldTuple | Tag.keyTuple => do
        let old ← decodeTupleData crates columns
        let new ← newTupleAfterOld crates columns
        pure (some old, new)
    | Tag.newTuple => do
        let new ← decodeTupleData crates columns
        pure (none, some new)
    | _ => fail (.invalidMessage s!"Unexpected tuple type in UPDATE: {tupleType}")
  else pure (none, none)

def decodeUpdate (self : PgOutputDecoder) (clock : Clock) : Cursor Error (Option DecodedMessage) := do
  let left ← remaining
  if left < 5 then fail (.invalidMessage "Invalid UPDATE message size")
  else do
    let relId ← getU32
    let relation ← self.relation relId
    let tuples ← updateTuples crates relation.columns
    pure (some (.change (self.changeEvent clock relation .update tuples.1 tuples.2)))

def decodeDelete (self : PgOutputDecoder) (clock : Clock) : Cursor Error (Option DecodedMessage) := do
  let left ← remaining
  if left < 6 then fail (.invalidMessage "Invalid DELETE message size")
  else do
    let relId ← getU32
    let tupleType ← getU8
    if tupleType ≠ Tag.oldTuple ∧ tupleType ≠ Tag.keyTuple then
      fail (.invalidMessage s!"Unexpected tuple type in DELETE: {tupleType}")
    else do
      let relation ← self.relation relId
      let oldTuple ← decodeTupleData crates relation.columns
      pure (some (.change (self.changeEvent clock relation .delete (some oldTuple) none)))

/-- TRUNCATE is only logged. -/
def decodeTruncate (_cursor : Bytes) : Answer := .ok none

def decodeBody (self : PgOutputDecoder) (clock : Clock) : Bytes → Answer × PgOutputDecoder
  | [] => (.ok none, self)
  | msgType :: cursor =>
      match msgType with
      | Tag.begin => self.decodeBegin cursor
      | Tag.commit => (decodeCommit.run cursor, self)
      | Tag.relation => self.decodeRelation cursor
      | Tag.insert => ((self.decodeInsert crates clock).run cursor, self)
      | Tag.update => ((self.decodeUpdate crates clock).run cursor, self)
      | Tag.delete => ((self.decodeDelete crates clock).run cursor, self)
      | Tag.truncate => (decodeTruncate cursor, self)
      | _ => (.ok none, self)

theorem decodeBody_begin (self : PgOutputDecoder) (clock : Clock) (cursor : Bytes) :
    self.decodeBody crates clock (Tag.begin :: cursor) = self.decodeBegin cursor := rfl

theorem decodeBody_relation (self : PgOutputDecoder) (clock : Clock) (cursor : Bytes) :
    self.decodeBody crates clock (Tag.relation :: cursor) = self.decodeRelation cursor := rfl

theorem decodeBody_insert (self : PgOutputDecoder) (clock : Clock) (cursor : Bytes) :
    self.decodeBody crates clock (Tag.insert :: cursor) =
      ((self.decodeInsert crates clock).run cursor, self) := rfl

theorem decodeBody_update (self : PgOutputDecoder) (clock : Clock) (cursor : Bytes) :
    self.decodeBody crates clock (Tag.update :: cursor) =
      ((self.decodeUpdate crates clock).run cursor, self) := rfl

theorem decodeBody_delete (self : PgOutputDecoder) (clock : Clock) (cursor : Bytes) :
    self.decodeBody crates clock (Tag.delete :: cursor) =
      ((self.decodeDelete crates clock).run cursor, self) := rfl

def xLogDataHeader : Cursor Error UInt64 := do
  let _startLsn ← getU64
  let endLsn ← getU64
  let _timestamp ← getI64
  pure endLsn

def decode (self : PgOutputDecoder) (clock : Clock) (data : Bytes) : Answer × PgOutputDecoder :=
  match data with
  | [] => (.ok none, self)
  | tag :: cursor =>
      if tag ≠ Tag.xLogData then (.ok none, self)
      else if cursor.length < 24 then (.err (.invalidMessage "Invalid XLogData header size"), self)
      else match xLogDataHeader cursor with
        | .ok (endLsn, body) => (self.atLsn endLsn).decodeBody crates clock body
        | .err reason => (.err reason, self)
        | .panic => (.panic, self)

end PgOutputDecoder

/-- The end position and the body of a message that passes the header checks. -/
def xLogData? : Bytes → Option (UInt64 × Bytes)
  | [] => none
  | tag :: cursor =>
      if tag = Tag.xLogData ∧ 24 ≤ cursor.length then
        some (UInt64.ofNat (bigEndian ((cursor.drop 8).take 8)), cursor.drop 24)
      else none

/-- The message with this header and body. -/
def xLogDataFrame (startLsn endLsn : UInt64) (timestamp : Int64) (body : Bytes) : Bytes :=
  Tag.xLogData :: (putU64 startLsn ++ (putU64 endLsn ++ (putI64 timestamp ++ body)))

theorem xLogData?_frame (startLsn endLsn : UInt64) (timestamp : Int64) (body : Bytes) :
    xLogData? (xLogDataFrame startLsn endLsn timestamp body) = some (endLsn, body) := by
  have position : ((putU64 startLsn ++ (putU64 endLsn ++ (putI64 timestamp ++ body))).drop 8).take 8 =
      putU64 endLsn := by
    rw [List.drop_left' (putU64_length startLsn), List.take_left' (putU64_length endLsn)]
  have tail : (putU64 startLsn ++ (putU64 endLsn ++ (putI64 timestamp ++ body))).drop 24 = body := by
    have header : (putU64 startLsn ++ (putU64 endLsn ++ putI64 timestamp)).length = 24 := by simp
    have split : ((putU64 startLsn ++ (putU64 endLsn ++ putI64 timestamp)) ++ body).drop 24 = body :=
      List.drop_left' header
    simpa only [List.append_assoc] using split
  have enough : 24 ≤ (putU64 startLsn ++ (putU64 endLsn ++ (putI64 timestamp ++ body))).length := by
    simp only [List.length_append, putU64_length, putI64_length]
    omega
  have value : UInt64.ofNat (bigEndian (putU64 endLsn)) = endLsn := by
    rw [putU64, bigEndian_toBigEndian endLsn.toNat_lt, UInt64.ofNat_toNat]
  simp only [xLogDataFrame, xLogData?, true_and, if_pos enough, position, tail, value]

/-- The answer to a message without a complete header. -/
def headlessAnswer : Bytes → Answer
  | [] => .ok none
  | tag :: _ =>
      if tag ≠ Tag.xLogData then .ok none
      else .err (.invalidMessage "Invalid XLogData header size")

theorem xLogDataHeader_of_le {cursor : Bytes} (enough : 24 ≤ cursor.length) :
    PgOutputDecoder.xLogDataHeader cursor =
      .ok (UInt64.ofNat (bigEndian ((cursor.drop 8).take 8)), cursor.drop 24) := by
  have first : 8 ≤ cursor.length := by omega
  have second : 8 ≤ (cursor.drop 8).length := by simp only [List.length_drop]; omega
  have third : 8 ≤ ((cursor.drop 8).drop 8).length := by simp only [List.length_drop]; omega
  rw [PgOutputDecoder.xLogDataHeader, bind_of_ok (getU64_of_le first),
    bind_of_ok (getU64_of_le second), bind_of_ok (getI64_of_le third)]
  simp only [List.drop_drop, pure_apply]

theorem decode_headed {data body : Bytes} {endLsn : UInt64}
    (headed : xLogData? data = some (endLsn, body)) (self : PgOutputDecoder) (clock : Clock) :
    self.decode crates clock data = (self.atLsn endLsn).decodeBody crates clock body := by
  cases data with
  | nil => simp [xLogData?] at headed
  | cons tag cursor =>
      simp only [xLogData?] at headed
      split at headed
      · rename_i accepted
        cases headed
        have long : ¬ cursor.length < 24 := by omega
        simp only [PgOutputDecoder.decode, accepted.1, ne_eq, not_true_eq_false, if_false, if_neg long,
          xLogDataHeader_of_le accepted.2]
      · contradiction

theorem decode_headless {data : Bytes} (headless : xLogData? data = none)
    (self : PgOutputDecoder) (clock : Clock) :
    self.decode crates clock data = (headlessAnswer data, self) := by
  cases data with
  | nil => rfl
  | cons tag cursor =>
      simp only [xLogData?] at headless
      by_cases tagged : tag = Tag.xLogData
      · have short : cursor.length < 24 := by
          by_contra long
          rw [if_pos ⟨tagged, by omega⟩] at headless
          contradiction
        simp [PgOutputDecoder.decode, headlessAnswer, tagged, short]
      · simp [PgOutputDecoder.decode, headlessAnswer, tagged]

end PgCapture.Postgres
