import PgCapture.Postgres.Types
import PgCapture.Data.Json.KeyOrder

namespace PgCapture.Postgres

open PgCapture.Data

/-! # Change events read back from JSON

The derived readers of the event types.  A struct is read from an object, whose
other fields do not count, or from an array with all its fields in order.
-/

/-- A struct by the values of its fields. -/
def readStruct (names : List String) : Json → Option (String → Option Json)
  | .object fields =>
      -- a field that is named twice is an error
      if ((OrderedMap.keys fields).filter (· ∈ names)).Nodup then
        some fun name => OrderedMap.get? name fields
      else none
  | .array items =>
      if items.length = names.length then
        some fun name => OrderedMap.get? name (names.zip items)
      else none
  | _ => none

def readText : Json → Option String
  | .string value => some value
  | _ => none

def readI64 : Json → Option Int
  | .integer value => if -(2 ^ 63 : Nat) ≤ value ∧ value < (2 ^ 63 : Nat) then some value else none
  | _ => none

def readU32 : Json → Option UInt32
  | .integer value =>
      if 0 ≤ value ∧ value < (2 ^ 32 : Nat) then some (UInt32.ofNat value.toNat) else none
  | _ => none

/-- An optional field may be missing or `null`. -/
def readOptional (read : Json → Option α) : Option Json → Option (Option α)
  | none => some none
  | some .null => some none
  | some value => (read value).map some

def ChangeOperation.ofName : String → Option ChangeOperation
  | "INSERT" => some .insert
  | "UPDATE" => some .update
  | "DELETE" => some .delete
  | _ => none

/-- A variant without content is its name, or an object of its name and `null`. -/
def ChangeOperation.fromJson : Json → Option ChangeOperation
  | .string name => ofName name
  | .object [(name, .null)] => ofName name
  | _ => none

def SourceMetadata.fromJson (json : Json) : Option SourceMetadata := do
  let field ← readStruct ["version", "connector", "ts_ms", "db", "schema", "table", "lsn", "xid"] json
  let version ← (field "version").bind readText
  let connector ← (field "connector").bind readText
  let tsMs ← (field "ts_ms").bind readI64
  let db ← (field "db").bind readText
  let schema ← (field "schema").bind readText
  let table ← (field "table").bind readText
  let lsn ← (field "lsn").bind readText
  let xid ← readOptional readU32 (field "xid")
  pure { version, connector, tsMs, db, schema, table, lsn, xid }

def ChangeEvent.fromJson (json : Json) : Option ChangeEvent := do
  let field ← readStruct ["schema", "table", "op", "ts_ms", "before", "after", "source"] json
  let schema ← (field "schema").bind readText
  let table ← (field "table").bind readText
  let op ← (field "op").bind ChangeOperation.fromJson
  let tsMs ← (field "ts_ms").bind readI64
  let before ← readOptional (fun value => some value.inKeyOrder) (field "before")
  let after ← readOptional (fun value => some value.inKeyOrder) (field "after")
  let source ← (field "source").bind SourceMetadata.fromJson
  pure { schema, table, op, tsMs, before, after, source }

/-- The milliseconds of an `i64` clock. -/
def IsMillis (tsMs : Int) : Prop := -(2 ^ 63 : Nat) ≤ tsMs ∧ tsMs < (2 ^ 63 : Nat)

/-- Images are values of the JSON library, which keeps objects as maps. -/
structure ChangeEvent.Typed (event : ChangeEvent) : Prop where
  tsMs : IsMillis event.tsMs
  sourceTsMs : IsMillis event.source.tsMs
  before : ∀ image, event.before = some image → image.InKeyOrder
  after : ∀ image, event.after = some image → image.InKeyOrder

/-- An image that is `null` cannot be told from no image. -/
def imageOf : Option Json → Option Json
  | some .null => none
  | image => image

def ChangeEvent.withoutNullImages (event : ChangeEvent) : ChangeEvent :=
  { event with before := imageOf event.before, after := imageOf event.after }

theorem readI64_integer {tsMs : Int} (millis : IsMillis tsMs) :
    readI64 (.integer tsMs) = some tsMs := if_pos millis

theorem readOptional_u32 (xid : Option UInt32) :
    readOptional readU32 (some (Json.optional (fun xid : UInt32 => .integer xid.toNat) xid)) =
      some xid := by
  cases xid with
  | none => rfl
  | some xid =>
      have range : (0 : Int) ≤ (xid.toNat : Int) ∧ (xid.toNat : Int) < (2 ^ 32 : Nat) :=
        ⟨Int.natCast_nonneg _, Int.ofNat_lt.mpr xid.toNat_lt⟩
      simp only [Json.optional, readOptional, readU32, if_pos range, Option.map_some,
        Int.toNat_natCast, UInt32.ofNat_toNat]

theorem readOptional_image {image : Option Json}
    (ordered : ∀ value, image = some value → value.InKeyOrder) :
    readOptional (fun value => some value.inKeyOrder) (some (Json.optional id image)) =
      some (imageOf image) := by
  cases image with
  | none => rfl
  | some value =>
      have same := ordered value rfl
      cases value <;> simp_all [Json.optional, readOptional, imageOf, Json.InKeyOrder]

theorem ChangeOperation.fromJson_toJson (op : ChangeOperation) : fromJson op.toJson = some op := by
  cases op <;> rfl

theorem readStruct_object {names : List String} {fields : List (String × Json)}
    (distinct : ((OrderedMap.keys fields).filter (· ∈ names)).Nodup) :
    readStruct names (.object fields) = some fun name => OrderedMap.get? name fields :=
  if_pos distinct

theorem SourceMetadata.fromJson_toJson {source : SourceMetadata} (millis : IsMillis source.tsMs) :
    fromJson source.toJson = some source := by
  have distinct : (["version", "connector", "ts_ms", "db", "schema", "table", "lsn", "xid"].filter
      (· ∈ ["version", "connector", "ts_ms", "db", "schema", "table", "lsn", "xid"])).Nodup := by
    decide
  rw [fromJson, toJson, readStruct_object distinct]
  simp only [OrderedMap.get?, String.reduceEq, if_true, if_false, Option.bind_eq_bind,
    Option.bind_some, readText, readI64_integer millis, readOptional_u32, Option.pure_def]

theorem ChangeEvent.fromJson_toJson {event : ChangeEvent} (typed : event.Typed) :
    fromJson event.toJson = some event.withoutNullImages := by
  have distinct : (["schema", "table", "op", "ts_ms", "before", "after", "source"].filter
      (· ∈ ["schema", "table", "op", "ts_ms", "before", "after", "source"])).Nodup := by
    decide
  rw [fromJson, toJson, readStruct_object distinct]
  simp only [OrderedMap.get?, String.reduceEq, if_true, if_false, Option.bind_eq_bind,
    Option.bind_some, readText, ChangeOperation.fromJson_toJson, readI64_integer typed.tsMs,
    readOptional_image typed.before, readOptional_image typed.after,
    SourceMetadata.fromJson_toJson typed.sourceTsMs, Option.pure_def]
  rfl

theorem imageOf_eq_iff (image : Option Json) : imageOf image = image ↔ image ≠ some .null := by
  unfold imageOf
  split
  · simp
  · rename_i notNull
    exact iff_of_true rfl notNull

theorem ChangeEvent.withoutNullImages_eq_iff (event : ChangeEvent) :
    event.withoutNullImages = event ↔ event.before ≠ some .null ∧ event.after ≠ some .null := by
  rw [← imageOf_eq_iff, ← imageOf_eq_iff]
  constructor
  · intro same
    exact ⟨congrArg ChangeEvent.before same, congrArg ChangeEvent.after same⟩
  · rintro ⟨before, after⟩
    rw [withoutNullImages, before, after]

end PgCapture.Postgres
