import PgCapture.Crates
import PgCapture.Postgres.Types
import PgCapture.Postgres.Lsn
import PgCapture.Error

namespace PgCapture.Kafka

open Data Postgres

/-! # Serialized events

The JSON forms of a change event, printed by the JSON library.
-/

inductive SerializationFormat where
  | json
  | jsonCompact
  | jsonDebezium
deriving DecidableEq, Repr

structure DebeziumSource where
  version : String
  connector : String
  name : String
  tsMs : Int
  snapshot : String
  db : String
  schema : String
  table : String
  lsn : Option Int
  xmin : Option Int

structure DebeziumTransaction where
  id : String
  totalOrder : Int
  dataCollectionOrder : Int

structure DebeziumPayload where
  before : Option Json
  after : Option Json
  source : DebeziumSource
  op : String
  tsMs : Int
  transaction : Option DebeziumTransaction

structure DebeziumEnvelope where
  schema : Option Json
  payload : DebeziumPayload

def DebeziumSource.toJson (source : DebeziumSource) : Json :=
  .object
    [("version", .string source.version),
      ("connector", .string source.connector),
      ("name", .string source.name),
      ("ts_ms", .integer source.tsMs),
      ("snapshot", .string source.snapshot),
      ("db", .string source.db),
      ("schema", .string source.schema),
      ("table", .string source.table),
      ("lsn", Json.optional .integer source.lsn),
      ("xmin", Json.optional .integer source.xmin)]

def DebeziumTransaction.toJson (transaction : DebeziumTransaction) : Json :=
  .object
    [("id", .string transaction.id),
      ("total_order", .integer transaction.totalOrder),
      ("data_collection_order", .integer transaction.dataCollectionOrder)]

def DebeziumPayload.toJson (payload : DebeziumPayload) : Json :=
  .object
    [("before", Json.optional id payload.before),
      ("after", Json.optional id payload.after),
      ("source", payload.source.toJson),
      ("op", .string payload.op),
      ("ts_ms", .integer payload.tsMs),
      ("transaction", Json.optional DebeziumTransaction.toJson payload.transaction)]

def DebeziumEnvelope.toJson (envelope : DebeziumEnvelope) : Json :=
  .object
    [("schema", Json.optional id envelope.schema),
      ("payload", envelope.payload.toJson)]

/-- `i64::from_str_radix` with radix sixteen. -/
def fromStrRadix16 (text : List Char) : Option Int :=
  let (negative, digits) := Binary.splitSign text
  if digits = [] then none
  else (Hex.read digits).bind fun magnitude =>
    if negative then if magnitude ≤ 2 ^ 63 then some (-(magnitude : Int)) else none
    else if magnitude < 2 ^ 63 then some (magnitude : Int) else none

/-- The position as a number; it is read behind the prefix `0/`. -/
def lsnNumeric (lsn : String) : Option Int :=
  (lsn.toList.dropPrefix? "0/".toList).bind fromStrRadix16

def debeziumEnvelope (event : ChangeEvent) : DebeziumEnvelope :=
  { schema := none
    payload :=
      { before := event.before
        after := event.after
        source :=
          { version := event.source.version
            connector := "postgresql"
            name := event.source.db ++ "." ++ event.source.schema
            tsMs := event.source.tsMs
            snapshot := "false"
            db := event.source.db
            schema := event.source.schema
            table := event.source.table
            lsn := lsnNumeric event.source.lsn
            xmin := none }
        op := match event.op with
          | .insert => "c"
          | .update => "u"
          | .delete => "d"
        tsMs := event.tsMs
        transaction := event.source.xid.map fun xid =>
          { id := toString xid.toNat, totalOrder := 1, dataCollectionOrder := 1 } } }

section Text

variable (crates : Crates)

def serializeDebeziumFormat (event : ChangeEvent) : Except Error String :=
  .ok (crates.toString (debeziumEnvelope event).toJson)

def serialize (format : SerializationFormat) (event : ChangeEvent) : Except Error String :=
  match format with
  | .json => .ok (crates.toStringPretty event.toJson)
  | .jsonCompact => .ok (crates.toString event.toJson)
  | .jsonDebezium => serializeDebeziumFormat crates event

def SerializationFormat.printer : SerializationFormat → Json → String
  | .json => crates.toStringPretty
  | .jsonCompact => crates.toString
  | .jsonDebezium => crates.toString

theorem serialize_plain {format : SerializationFormat} (plain : format ≠ .jsonDebezium)
    (event : ChangeEvent) : serialize crates format event = .ok (format.printer crates event.toJson) := by
  cases format with
  | json => rfl
  | jsonCompact => rfl
  | jsonDebezium => contradiction

end Text

/-- `payload.source.lsn` of the envelope. -/
def payloadSourceLsn (event : ChangeEvent) : Option Json := do
  let payload ← (debeziumEnvelope event).toJson.get "payload"
  let source ← payload.get "source"
  source.get "lsn"

theorem payloadSourceLsn_eq (event : ChangeEvent) :
    payloadSourceLsn event = some (Json.optional .integer (lsnNumeric event.source.lsn)) := rfl

/-- The prefix is there only while the high half is zero. -/
theorem dropPrefix_formatLsn (lsn : UInt64) :
    (formatLsn lsn).toList.dropPrefix? "0/".toList =
      if lsn.toNat < 2 ^ 32 then some (Hex.upper lsn.toNat) else none := by
  have high := high_toNat lsn
  have low := low_toNat lsn
  rw [formatLsn, String.toList_ofList]
  by_cases small : lsn.toNat < 2 ^ 32
  · have zero : (lsn >>> 32).toNat = 0 := by omega
    have whole : (lsn &&& 0xFFFFFFFF).toNat = lsn.toNat := by omega
    have digit : Hex.upper 0 = ['0'] := rfl
    rw [if_pos small, zero, whole, digit]
    exact List.dropPrefix?_eq_some_iff.mpr ⟨"0/".toList, rfl, by decide⟩
  · rw [if_neg small]
    cases found : (Hex.upper (lsn >>> 32).toNat ++
        '/' :: Hex.upper (lsn &&& 0xFFFFFFFF).toNat).dropPrefix? "0/".toList with
    | none => rfl
    | some rest =>
        obtain ⟨front, split, same⟩ := List.dropPrefix?_eq_some_iff.mp found
        rw [beq_iff_eq.mp same] at split
        cases digits : Hex.upper (lsn >>> 32).toNat with
        | nil => exact absurd digits (Hex.upper_ne_nil _)
        | cons first more =>
            rw [digits] at split
            obtain ⟨isZero, tail⟩ := List.cons.inj split
            cases more with
            | nil =>
                have value := Hex.read_upper (lsn >>> 32).toNat
                rw [digits, isZero] at value
                have zero : (lsn >>> 32).toNat = 0 := (Option.some.inj value).symm
                omega
            | cons second more =>
                obtain ⟨isSlash, _⟩ := List.cons.inj tail
                have member : '/' ∈ Hex.upper (lsn >>> 32).toNat := by
                  rw [digits, isSlash]
                  exact List.mem_cons_of_mem _ List.mem_cons_self
                exact absurd member (Hex.not_mem_upper _ (by decide))

theorem fromStrRadix16_upper {value : Nat} (fits : value < 2 ^ 63) :
    fromStrRadix16 (Hex.upper value) = some (value : Int) := by
  have unsigned : Binary.splitSign (Hex.upper value) = (false, Hex.upper value) :=
    Binary.splitSign_of_unsigned (Hex.not_mem_upper _ (by decide)) (Hex.not_mem_upper _ (by decide))
  rw [fromStrRadix16, unsigned]
  simp only [if_neg (Hex.upper_ne_nil value), Hex.read_upper, Option.bind_some, Bool.false_eq_true,
    if_false, if_pos fits]

theorem lsnNumeric_formatLsn (lsn : UInt64) :
    lsnNumeric (formatLsn lsn) = if lsn.toNat < 2 ^ 32 then some (lsn.toNat : Int) else none := by
  rw [lsnNumeric, dropPrefix_formatLsn]
  by_cases small : lsn.toNat < 2 ^ 32
  · rw [if_pos small, if_pos small, Option.bind_some, fromStrRadix16_upper (by omega)]
  · rw [if_neg small, if_neg small, Option.bind_none]

/-- The envelope has the event's position exactly while the position is below
`2 ^ 32`; from there on it has none. -/
theorem payloadSourceLsn_formatLsn (event : ChangeEvent) (lsn : UInt64) :
    payloadSourceLsn { event with source := { event.source with lsn := formatLsn lsn } } =
        some (.integer lsn.toNat) ↔ lsn.toNat < 2 ^ 32 := by
  rw [payloadSourceLsn_eq, lsnNumeric_formatLsn]
  by_cases small : lsn.toNat < 2 ^ 32
  · rw [if_pos small]
    exact iff_of_true rfl small
  · rw [if_neg small]
    refine iff_of_false ?_ small
    intro same
    cases same

/-- An insert at the first position whose high half is not zero. -/
def farInsert : ChangeEvent :=
  .insertInto "users" "1/0" (.object [("id", .integer 1)])

theorem farInsert_lsn_lost :
    farInsert.source.lsn = formatLsn 0x100000000 ∧
      payloadSourceLsn farInsert = some .null ∧
      payloadSourceLsn farInsert ≠ some (.integer 0x100000000) := by
  refine ⟨?_, rfl, ?_⟩
  · apply String.toList_inj.mp
    simp [farInsert, ChangeEvent.insertInto, SourceMetadata.new, formatLsn, Hex.upper, Hex.upperDigit]
  · intro same
    cases same

end PgCapture.Kafka
