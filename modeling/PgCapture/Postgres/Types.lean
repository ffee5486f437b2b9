import PgCapture.Data.Json

namespace PgCapture.Postgres

open PgCapture.Data

inductive ChangeOperation where
  | insert
  | update
  | delete
deriving DecidableEq, Repr

structure SourceMetadata where
  version : String
  connector : String
  tsMs : Int
  db : String
  schema : String
  table : String
  lsn : String
  xid : Option UInt32
deriving DecidableEq, Repr

/-- Built at the wall-clock reading `tsMs`. -/
def SourceMetadata.new (db schema table lsn : String) (tsMs : Int) : SourceMetadata :=
  { version := "0.1.0", connector := "pg-capture", tsMs, db, schema, table, lsn, xid := none }

def SourceMetadata.withXid (source : SourceMetadata) (xid : UInt32) : SourceMetadata :=
  { source with xid := some xid }

structure ChangeEvent where
  schema : String
  table : String
  op : ChangeOperation
  tsMs : Int
  before : Option Json
  after : Option Json
  source : SourceMetadata

inductive DecodedMessage where
  | begin (xid : UInt32)
  | commit
  | change (event : ChangeEvent)

/-- An insert into a table of the schema `public`. -/
def ChangeEvent.insertInto (table lsn : String) (row : Json) : ChangeEvent :=
  { schema := "public", table, op := .insert, tsMs := 0, before := none, after := some row
    source := SourceMetadata.new "db" "public" table lsn 0 }

def ChangeOperation.toJson : ChangeOperation → Json
  | .insert => .string "INSERT"
  | .update => .string "UPDATE"
  | .delete => .string "DELETE"

def SourceMetadata.toJson (source : SourceMetadata) : Json :=
  .object
    [("version", .string source.version),
      ("connector", .string source.connector),
      ("ts_ms", .integer source.tsMs),
      ("db", .string source.db),
      ("schema", .string source.schema),
      ("table", .string source.table),
      ("lsn", .string source.lsn),
      ("xid", Json.optional (fun xid : UInt32 => .integer xid.toNat) source.xid)]

def ChangeEvent.toJson (event : ChangeEvent) : Json :=
  .object
    [("schema", .string event.schema),
      ("table", .string event.table),
      ("op", event.op.toJson),
      ("ts_ms", .integer event.tsMs),
      ("before", Json.optional id event.before),
      ("after", Json.optional id event.after),
      ("source", event.source.toJson)]

end PgCapture.Postgres
