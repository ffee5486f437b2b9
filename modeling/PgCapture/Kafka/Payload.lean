import PgCapture.Kafka.Serializer
import PgCapture.Postgres.FromJson
import PgCapture.Postgres.Decoder.Images

namespace PgCapture.Kafka

open PgCapture.Data PgCapture.Postgres

/-! # What a consumer gets back

A consumer reads the text of a record with a JSON reader of its own.  The plain
forms give the event back; the Debezium form keeps less of it.
-/

section Plain

variable {crates : Crates} (read : String → Option Json)

/-- The event in the text of a plain record. -/
def readEvent (payload : String) : Option ChangeEvent :=
  (read payload).bind ChangeEvent.fromJson

variable {read}

/-- A record in a plain form gives the event back, but for an image that is
`null`: it comes back as no image. -/
theorem readEvent_serialize {format : SerializationFormat} (plain : format ≠ .jsonDebezium)
    {event : ChangeEvent} (typed : event.Typed) (back : ReadsBack read (format.printer crates) event.toJson) :
    ∃ payload, serialize crates format event = .ok payload ∧
      readEvent read payload = some event.withoutNullImages := by
  refine ⟨_, serialize_plain crates plain event, ?_⟩
  rw [readEvent, back, Option.bind_some]
  exact ChangeEvent.fromJson_toJson typed

theorem optional_imageOf (image : Option Json) :
    Json.optional id (imageOf image) = Json.optional id image := by
  unfold imageOf
  split
  · rfl
  · rfl

theorem toJson_withoutNullImages (event : ChangeEvent) :
    event.withoutNullImages.toJson = event.toJson := by
  simp only [ChangeEvent.toJson, ChangeEvent.withoutNullImages, optional_imageOf]

/-- A record in a plain form loses nothing else: it gives the event back, and
events with the same text are the same but for `null` images. -/
theorem serialize_plain_inj {format : SerializationFormat} (plain : format ≠ .jsonDebezium)
    {left right : ChangeEvent} (leftTyped : left.Typed) (rightTyped : right.Typed)
    (leftBack : ReadsBack read (format.printer crates) left.toJson)
    (rightBack : ReadsBack read (format.printer crates) right.toJson) :
    (∃ payload, serialize crates format left = .ok payload ∧
      (read payload).bind ChangeEvent.fromJson = some left.withoutNullImages) ∧
    (serialize crates format left = serialize crates format right ↔
      left.withoutNullImages = right.withoutNullImages) := by
  refine ⟨readEvent_serialize plain leftTyped leftBack, ?_, ?_⟩
  · intro same
    obtain ⟨payload, written, read⟩ := readEvent_serialize plain leftTyped leftBack
    obtain ⟨other, otherWritten, otherRead⟩ := readEvent_serialize plain rightTyped rightBack
    rw [same, otherWritten] at written
    cases written
    exact Option.some.inj (read.symm.trans otherRead)
  · intro same
    have json : left.toJson = right.toJson := by
      rw [← toJson_withoutNullImages left, same, toJson_withoutNullImages]
    rw [serialize_plain crates plain, serialize_plain crates plain, json]

end Plain

/-- An update that sets a price, with no old row and with an old row that is `null`. -/
def priced (before : Option Json) : ChangeEvent :=
  { ChangeEvent.insertInto "items" "0/9" (.object [("price", .float false 3 (-1))]) with
    op := .update, before }

def pricedCrates : Crates :=
  { Crates.idle with
    toString := fun _ =>
      "\x7b\"schema\":\"public\",\"table\":\"items\",\"op\":\"UPDATE\",\"ts_ms\":0,\"before\":null," ++
        "\"after\":\x7b\"price\":1.5\x7d,\"source\":\x7b\"version\":\"0.1.0\"," ++
        "\"connector\":\"pg-capture\",\"ts_ms\":0,\"db\":\"db\",\"schema\":\"public\"," ++
        "\"table\":\"items\",\"lsn\":\"0/9\",\"xid\":null\x7d\x7d" }

def readPriced : String → Option Json := readerOf pricedCrates.toString [(priced none).toJson]

theorem priced_typed {before : Option Json} (null : before = none ∨ before = some .null) :
    (priced before).Typed := by
  have epoch : IsMillis 0 := ⟨by decide, by decide⟩
  refine ⟨epoch, epoch, ?_, ?_⟩
  · intro image found
    rcases null with rfl | rfl
    · contradiction
    · cases found
      rfl
  · intro image found
    cases found
    rfl

theorem serialize_plain_priced :
    (∃ payload, serialize pricedCrates .jsonCompact (priced (some .null)) = .ok payload ∧
      (readPriced payload).bind ChangeEvent.fromJson = some (priced (some .null)).withoutNullImages) ∧
    (serialize pricedCrates .jsonCompact (priced (some .null)) =
        serialize pricedCrates .jsonCompact (priced none) ↔
      (priced (some .null)).withoutNullImages = (priced none).withoutNullImages) :=
  serialize_plain_inj (by decide) (priced_typed (.inr rfl)) (priced_typed (.inl rfl))
    (readsBack_only _ _) (readsBack_only _ _)

section Decoded

variable {crates : Crates} (maps : crates.KeepsMaps) {self : PgOutputDecoder}
  {clock : Clock} {data : Bytes} {event : ChangeEvent}
  (decoded : (self.decode crates clock data).1 = .ok (some (.change event)))
include maps decoded

theorem decoded_typed (eventMillis : IsMillis clock.event) (sourceMillis : IsMillis clock.source) :
    event.Typed := by
  have images := fun image found => decode_images maps decoded image found
  obtain ⟨endLsn, body, id, relation, row, _, _, _, _, rfl⟩ := decode_change crates decoded
  exact ⟨eventMillis, sourceMillis, fun image found => (images image (.inl found)).1,
    fun image found => (images image (.inr found)).1⟩

theorem decoded_withoutNullImages : event.withoutNullImages = event :=
  event.withoutNullImages_eq_iff.mpr
    ⟨fun null => (decode_images maps decoded _ (.inl null)).2 rfl,
      fun null => (decode_images maps decoded _ (.inr null)).2 rfl⟩

/-- From the bytes of a row to a consumer: every change the decoder emits comes
back from its record as it was, the kind of row and its images included. -/
theorem decoded_readEvent {read : String → Option Json} (eventMillis : IsMillis clock.event)
    (sourceMillis : IsMillis clock.source) {format : SerializationFormat}
    (plain : format ≠ .jsonDebezium) (back : ReadsBack read (format.printer crates) event.toJson) :
    ∃ payload, serialize crates format event = .ok payload ∧ readEvent read payload = some event := by
  obtain ⟨payload, written, read⟩ := readEvent_serialize plain
    (decoded_typed maps decoded eventMillis sourceMillis) back
  exact ⟨payload, written, decoded_withoutNullImages maps decoded ▸ read⟩

end Decoded

/-- The table `s.t` with the one column `p` of type float8 is announced. -/
def pricedTable : Bytes :=
  Tag.xLogData :: List.replicate 24 0 ++ [Tag.relation, 0, 0, 0, 7, 1, 0x73, 1, 0x74, 0x64, 0, 1,
    0, 1, 0x70, 0, 0, 2, 0xBD, 0, 0, 0, 0]

def knowsPrice : PgOutputDecoder := ((PgOutputDecoder.new "db").decode .idle ⟨0, 0⟩ pricedTable).2

def pricedRow : Bytes :=
  Tag.xLogData :: List.replicate 24 0 ++
    [Tag.insert, 0, 0, 0, 7, Tag.newTuple, 0, 1, Tag.binaryCell, 0, 0, 0, 8,
      0x3F, 0xF8, 0, 0, 0, 0, 0, 0]

/-- What is decoded from the row. -/
def pricedEvent : ChangeEvent :=
  (knowsPrice.atLsn 0).changeEvent ⟨1, 2⟩ ⟨7, "s", "t", [⟨"p", 701, false⟩]⟩ .insert none
    (some (.object [("p", .float false 3 (-1))]))

def pricedRowCrates : Crates :=
  { Crates.idle with
    toString := fun _ =>
      "\x7b\"schema\":\"s\",\"table\":\"t\",\"op\":\"INSERT\",\"ts_ms\":1,\"before\":null," ++
        "\"after\":\x7b\"p\":1.5\x7d,\"source\":\x7b\"version\":\"0.1.0\",\"connector\":\"pg-capture\"," ++
        "\"ts_ms\":2,\"db\":\"db\",\"schema\":\"s\",\"table\":\"t\",\"lsn\":\"0/0\",\"xid\":null\x7d\x7d"
    toStringPretty := fun _ =>
      "\x7b\n  \"schema\": \"s\",\n  \"table\": \"t\",\n  \"op\": \"INSERT\",\n  \"ts_ms\": 1,\n" ++
        "  \"before\": null,\n  \"after\": \x7b\n    \"p\": 1.5\n  \x7d,\n  \"source\": \x7b\n" ++
        "    \"version\": \"0.1.0\",\n    \"connector\": \"pg-capture\",\n    \"ts_ms\": 2,\n" ++
        "    \"db\": \"db\",\n    \"schema\": \"s\",\n    \"table\": \"t\",\n    \"lsn\": \"0/0\",\n" ++
        "    \"xid\": null\n  \x7d\n\x7d" }

set_option maxRecDepth 8000 in
theorem pricedRow_decoded :
    (knowsPrice.decode pricedRowCrates ⟨1, 2⟩ pricedRow).1 = .ok (some (.change pricedEvent)) := rfl

theorem pricedRow_readEvent :
    ∃ payload, serialize pricedRowCrates .jsonCompact pricedEvent = .ok payload ∧
      readEvent (readerOf pricedRowCrates.toString [pricedEvent.toJson]) payload = some pricedEvent := by
  have millis : IsMillis 1 ∧ IsMillis 2 := by
    simp [IsMillis]
  exact decoded_readEvent (fun text value impossible => by contradiction) pricedRow_decoded
    millis.1 millis.2 (by decide : SerializationFormat.jsonCompact ≠ .jsonDebezium)
    (readsBack_only _ _)

/-- What the envelope keeps of an event.  The table is the source's; the
connector and the event's own schema and table are gone. -/
structure SameEnvelope (left right : ChangeEvent) : Prop where
  op : left.op = right.op
  tsMs : left.tsMs = right.tsMs
  before : imageOf left.before = imageOf right.before
  after : imageOf left.after = imageOf right.after
  version : left.source.version = right.source.version
  sourceTsMs : left.source.tsMs = right.source.tsMs
  db : left.source.db = right.source.db
  schema : left.source.schema = right.source.schema
  table : left.source.table = right.source.table
  xid : left.source.xid = right.source.xid
  lsn : lsnNumeric left.source.lsn = lsnNumeric right.source.lsn

theorem imageOf_eq_of_optional {left right : Option Json}
    (same : Json.optional id left = Json.optional id right) : imageOf left = imageOf right := by
  have back : ∀ image, readOptional some (some (Json.optional id image)) = some (imageOf image) := by
    intro image
    cases image with
    | none => rfl
    | some value => cases value <;> rfl
  have read := back left
  rw [same, back right] at read
  exact (Option.some.inj read).symm

theorem xid_eq_of_transaction {left right : Option UInt32}
    (same : Json.optional DebeziumTransaction.toJson (left.map fun xid =>
        { id := toString xid.toNat, totalOrder := 1, dataCollectionOrder := 1 }) =
      Json.optional DebeziumTransaction.toJson (right.map fun xid =>
        { id := toString xid.toNat, totalOrder := 1, dataCollectionOrder := 1 })) : left = right := by
  cases left with
  | none =>
      cases right with
      | none => rfl
      | some right => cases same
  | some left =>
      cases right with
      | none => cases same
      | some right =>
          have ids : toString left.toNat = toString right.toNat := by
            simpa [Json.optional, DebeziumTransaction.toJson] using same
          have digits : Nat.toDigits 10 left.toNat = Nat.toDigits 10 right.toNat := by
            rw [← Nat.toList_repr, ← Nat.toList_repr]
            exact congrArg String.toList ids
          have values := congrArg Binary.decimalValue digits
          rw [Binary.decimalValue_toDigits, Binary.decimalValue_toDigits] at values
          rw [UInt32.toNat_inj.mp values]

theorem position_eq_of_optional {left right : Option Int}
    (same : Json.optional .integer left = Json.optional .integer right) : left = right := by
  cases left <;> cases right <;> simp_all [Json.optional]

theorem toJson_debeziumEnvelope_inj {left right : ChangeEvent} :
    (debeziumEnvelope left).toJson = (debeziumEnvelope right).toJson ↔ SameEnvelope left right := by
  constructor
  · intro same
    simp only [DebeziumEnvelope.toJson, DebeziumPayload.toJson, DebeziumSource.toJson,
      debeziumEnvelope, Json.object.injEq, List.cons.injEq, Prod.mk.injEq, Json.string.injEq,
      Json.integer.injEq, true_and, and_true] at same
    obtain ⟨before, after, ⟨version, _, sourceTsMs, db, schema, table, lsn⟩, op, tsMs, xid⟩ := same
    have sameOp : left.op = right.op := by
      cases leftOp : left.op <;> cases rightOp : right.op <;> simp_all
    exact ⟨sameOp, tsMs, imageOf_eq_of_optional before, imageOf_eq_of_optional after, version,
      sourceTsMs, db, schema, table, xid_eq_of_transaction xid, position_eq_of_optional lsn⟩
  · intro same
    have before : Json.optional id left.before = Json.optional id right.before := by
      rw [← optional_imageOf left.before, same.before, optional_imageOf]
    have after : Json.optional id left.after = Json.optional id right.after := by
      rw [← optional_imageOf left.after, same.after, optional_imageOf]
    simp only [DebeziumEnvelope.toJson, DebeziumPayload.toJson, debeziumEnvelope, before, after,
      same.op, same.tsMs, same.version, same.sourceTsMs, same.db, same.schema, same.table, same.xid,
      same.lsn]

/-- Events have the same Debezium text exactly when they agree on what the
envelope keeps. -/
theorem serializeDebeziumFormat_inj {crates : Crates} {read : String → Option Json}
    {left right : ChangeEvent}
    (leftBack : ReadsBack read crates.toString (debeziumEnvelope left).toJson)
    (rightBack : ReadsBack read crates.toString (debeziumEnvelope right).toJson) :
    serializeDebeziumFormat crates left = serializeDebeziumFormat crates right ↔
      SameEnvelope left right := by
  rw [← toJson_debeziumEnvelope_inj]
  constructor
  · intro same
    rw [ReadsBack, Except.ok.inj same, rightBack] at leftBack
    exact (Option.some.inj leftBack).symm
  · intro same
    rw [serializeDebeziumFormat, serializeDebeziumFormat, same]

/-- The envelope of the update that sets a price. -/
def envelopeCrates : Crates :=
  { Crates.idle with
    toString := fun _ =>
      "\x7b\"schema\":null,\"payload\":\x7b\"before\":null,\"after\":\x7b\"price\":1.5\x7d," ++
        "\"source\":\x7b\"version\":\"0.1.0\",\"connector\":\"postgresql\",\"name\":\"db.public\"," ++
        "\"ts_ms\":0,\"snapshot\":\"false\",\"db\":\"db\",\"schema\":\"public\"," ++
        "\"table\":\"items\",\"lsn\":9,\"xmin\":null\x7d,\"op\":\"u\",\"ts_ms\":0," ++
        "\"transaction\":null\x7d\x7d" }

theorem serializeDebeziumFormat_priced :
    serializeDebeziumFormat envelopeCrates (priced none) =
        serializeDebeziumFormat envelopeCrates { priced none with schema := "other" } ↔
      SameEnvelope (priced none) { priced none with schema := "other" } :=
  serializeDebeziumFormat_inj
    (readsBack_only envelopeCrates.toString (debeziumEnvelope (priced none)).toJson)
    (readsBack_only envelopeCrates.toString (debeziumEnvelope (priced none)).toJson)

end PgCapture.Kafka
