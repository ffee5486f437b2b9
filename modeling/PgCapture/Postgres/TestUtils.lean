import PgCapture.Postgres.Decoder

namespace PgCapture.Postgres

open PgCapture.Data

/-! # The message builder

The wire layout of the builder the decoder's tests use.  Names and values carry
the bounds their length fields need.
-/

structure MockColumn where
  name : String
  typeId : UInt32
  isKey : Bool
  nameFits : (Utf8.encode name).length ≤ 255

structure MockRelation where
  id : UInt32
  schema : String
  table : String
  columns : List MockColumn
  schemaFits : (Utf8.encode schema).length ≤ 255
  tableFits : (Utf8.encode table).length ≤ 255
  columnsFit : columns.length ≤ 65535
  distinct : (columns.map MockColumn.name).Nodup

inductive BinaryValue where
  | null
  | text (text : String) (fits : (Utf8.encode text).length < 2 ^ 31)
  | binary (data : Bytes) (nonempty : data ≠ []) (fits : data.length < 2 ^ 31)

structure MockRow (relation : MockRelation) where
  values : List BinaryValue
  complete : values.length = relation.columns.length

inductive OldTupleKind where
  | old
  | key
deriving DecidableEq, Repr

def OldTupleKind.tag : OldTupleKind → UInt8
  | .old => Tag.oldTuple
  | .key => Tag.keyTuple

structure MockMessageBuilder where
  lsn : UInt64
  timestamp : Int64
deriving DecidableEq, Repr

def putName (name : String) : Bytes :=
  UInt8.ofNat (Utf8.encode name).length :: Utf8.encode name

def putColumn (column : MockColumn) : Bytes :=
  (if column.isKey then 1 else 0) :: putName column.name ++ putU32 column.typeId ++ putI32 (-1)

def putSized (type : UInt8) (value : Bytes) : Bytes :=
  type :: putI32 (Int32.ofNat value.length) ++ value

def putValue : BinaryValue → Bytes
  | .null => [Tag.nullCell]
  | .text text _ => putSized Tag.textCell (Utf8.encode text)
  | .binary data _ _ => putSized Tag.binaryCell data

def putTuple (values : List BinaryValue) : Bytes :=
  putU16 (UInt16.ofNat values.length) ++ values.flatMap putValue

def putOldTuple {relation : MockRelation} : Option (OldTupleKind × MockRow relation) → Bytes
  | some (kind, old) => kind.tag :: putTuple old.values
  | none => []

namespace MockMessageBuilder

variable (self : MockMessageBuilder)

def createXlogdataHeader : Bytes :=
  Tag.xLogData :: putU64 self.lsn ++ putU64 (self.lsn + 100) ++ putI64 self.timestamp

def relationMessage (relation : MockRelation) : Bytes :=
  self.createXlogdataHeader ++ Tag.relation :: putU32 relation.id ++ putName relation.schema ++
    putName relation.table ++ 0x6E :: putU16 (UInt16.ofNat relation.columns.length) ++
    relation.columns.flatMap putColumn

def insertMessage {relation : MockRelation} (values : MockRow relation) : Bytes :=
  self.createXlogdataHeader ++ Tag.insert :: putU32 relation.id ++ Tag.newTuple :: putTuple values.values

def updateMessage {relation : MockRelation} (oldValues : Option (OldTupleKind × MockRow relation))
    (newValues : MockRow relation) : Bytes :=
  self.createXlogdataHeader ++ Tag.update :: putU32 relation.id ++ putOldTuple oldValues ++
    Tag.newTuple :: putTuple newValues.values

def deleteMessage {relation : MockRelation} (kind : OldTupleKind) (keyValues : MockRow relation) : Bytes :=
  self.createXlogdataHeader ++ Tag.delete :: putU32 relation.id ++ kind.tag :: putTuple keyValues.values

end MockMessageBuilder

end PgCapture.Postgres
