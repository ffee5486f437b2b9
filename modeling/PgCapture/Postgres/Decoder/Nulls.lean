import PgCapture.Postgres.Decoder.Tuple

namespace PgCapture.Postgres

open PgCapture.Data Cursor

/-! # JSON null and SQL NULL

A column of a decoded row is JSON null for its own reasons in each parser.  The
value parsers are described first by the inputs they turn into null, and then
the cells that are null without being NULL.
-/

variable (crates : Crates)

/-- The text forms that become null. -/
def TextReadsNull (typeId : UInt32) (text : String) : Prop :=
  typeId = 2278 ∨ ((typeId = 114 ∨ typeId = 3802) ∧ crates.fromStr text = some .null) ∨
    (typeId = 700 ∧ ∃ value, Binary.parse .single text = some value ∧ ¬ value.IsFinite) ∨
    (typeId = 701 ∧ ∃ value, Binary.parse .double text = some value ∧ ¬ value.IsFinite)

/-- The bytes a binary form needs; the other types take any number. -/
def binaryWidth (typeId : UInt32) : Nat :=
  match typeId with
  | 16 => 1
  | 20 => 8
  | 21 => 2
  | 23 => 4
  | 700 => 4
  | 701 => 8
  | 2950 => 16
  | _ => 0

/-- The binary forms that become null. -/
def BinaryReadsNull (typeId : UInt32) (data : Bytes) : Prop :=
  data.length < binaryWidth typeId ∨
    (typeId = 700 ∧ ¬ (Binary.ofBits .single (bigEndian (data.take 4))).IsFinite) ∨
    (typeId = 701 ∧ ¬ (Binary.ofBits .double (bigEndian (data.take 8))).IsFinite)

theorem integerOrText_ne_null (text : String) (value : Option Int) :
    integerOrText text value ≠ .null := by
  cases value with
  | none => simp [integerOrText]
  | some value => simp [integerOrText]

theorem floatOrText_eq_null {text : String} {value : Option Binary} :
    floatOrText text value = .null ↔ ∃ number, value = some number ∧ ¬ number.IsFinite := by
  cases value with
  | none => simp [floatOrText]
  | some number => simp [floatOrText, Json.ofBinary_eq_null]

theorem jsonOrText_eq_null {text : String} {value : Option Json} :
    value.getD (.string text) = .null ↔ value = some .null := by
  cases value with
  | none => simp
  | some value => simp

theorem parseArrayValue_ne_null (text : String) (elementTypeId : UInt32) :
    parseArrayValue crates text elementTypeId ≠ (.ok .null : Outcome ε Json) := by
  intro parsed
  rw [parseArrayValue] at parsed
  split at parsed
  · cases parsed
  · obtain ⟨inner, _, afterSlice⟩ := Outcome.bind_eq_ok.mp parsed
    split at afterSlice
    · cases afterSlice
    · split at afterSlice
      · cases afterSlice
      · obtain ⟨elements, _, returned⟩ := Outcome.bind_eq_ok.mp afterSlice
        cases returned

theorem parsePostgresValue_eq_null {text : String} {typeId : UInt32} :
    parsePostgresValue crates text typeId = (.ok .null : Outcome ε Json) ↔
      TextReadsNull crates typeId text := by
  unfold parsePostgresValue
  split
  case h_1 => split <;> simp [TextReadsNull]
  all_goals simp_all [TextReadsNull, integerOrText_ne_null, floatOrText_eq_null, jsonOrText_eq_null,
    parseArrayValue_ne_null]

theorem parsePostgresBinaryValue_eq_null {data : Bytes} {typeId : UInt32} :
    parsePostgresBinaryValue crates data typeId = (.ok .null : Outcome ε Json) ↔
      BinaryReadsNull typeId data := by
  unfold parsePostgresBinaryValue
  split
  case h_1 =>
    cases data with
    | nil => simp [BinaryReadsNull, binaryWidth]
    | cons byte rest => simp [BinaryReadsNull, binaryWidth, index]
  case h_8 => simp_all [BinaryReadsNull, binaryWidth]
  all_goals
    split
    · rename_i enough
      repeat rw [indexRange_of_le (by omega), Outcome.ok_bind]
      simp [BinaryReadsNull, binaryWidth, Json.ofBinary_eq_null, enough] <;> omega
    · rename_i short
      simp [BinaryReadsNull, binaryWidth, Nat.lt_of_not_le short]

/-- The types whose values may be null in JSON: json, jsonb and void. -/
def NullExempt (typeId : UInt32) : Prop := typeId = 114 ∨ typeId = 3802 ∨ typeId = 2278

namespace WireCell

/-- SQL NULL on the wire. -/
def IsNull : WireCell → Prop
  | null => True
  | text _ _ _ => False
  | binary length _ _ => length < 0

/-- A cell with a value that reads as null all the same. -/
def LeaksNull (column : ColumnInfo) : WireCell → Prop
  | null => False
  | text _ bytes _ => TextReadsNull crates column.typeId (Utf8.fromUtf8Lossy bytes)
  | binary length bytes _ => length = 0 ∨ (0 < length ∧ BinaryReadsNull column.typeId bytes)

theorem json_eq_null {column : ColumnInfo} {cell : WireCell} :
    cell.json crates column = .null ↔ cell.IsNull ∨ cell.LeaksNull crates column := by
  have parsed : cell.json crates column = .null ↔ cell.value crates column = .ok .null := by
    rw [value_eq, Outcome.ok.injEq]
  rw [parsed]
  cases cell with
  | null => simp [value, IsNull]
  | text length bytes sized => simp [value, IsNull, LeaksNull, parsePostgresValue_eq_null]
  | binary length bytes sized =>
      by_cases positive : 0 < length
      · have notNull : ¬ length < 0 := Int32.not_lt.mpr (Int32.le_of_lt positive)
        have nonzero : length ≠ 0 := (Int32.ne_of_lt positive).symm
        simp [value, IsNull, LeaksNull, positive, notNull, nonzero, parsePostgresBinaryValue_eq_null]
      · have noValue : length < 0 ∨ length = 0 := by
          simp only [Int32.lt_iff_toInt_lt, ← Int32.toInt_inj, Int32.toInt_zero] at positive ⊢
          omega
        simp [value, IsNull, LeaksNull, positive, noValue]

end WireCell

/-- The column an object keeps for a name: the last one of that name. -/
def lastNamed (columns : List ColumnInfo) (cells : List WireCell) (name : String) :
    Option (ColumnInfo × WireCell) :=
  (columns.zip cells).reverse.find? fun pair => pair.1.name = name

/-- Every column with a type that has no null of its own is null in the object
    exactly when its cell is NULL. -/
def NullMeansNull (columns : List ColumnInfo) (cells : List WireCell)
    (fields : List (String × Json)) : Prop :=
  ∀ pair ∈ columns.zip cells, ¬ NullExempt pair.1.typeId →
    (OrderedMap.get? pair.1.name fields = some .null ↔ pair.2.IsNull)

/-- No such column leaks: the cell kept for its name is NULL, or leaks, exactly
    when its own cell is NULL. -/
def NoLeak (columns : List ColumnInfo) (cells : List WireCell) : Prop :=
  ∀ pair ∈ columns.zip cells, ¬ NullExempt pair.1.typeId →
    ∀ last, lastNamed columns cells pair.1.name = some last →
      (last.2.IsNull ∨ last.2.LeaksNull crates last.1 ↔ pair.2.IsNull)

theorem get?_tuple (columns : List ColumnInfo) (cells : List WireCell) (name : String) :
    OrderedMap.get? name (OrderedMap.insertAll (cellEntries crates columns cells) []) =
      (lastNamed columns cells name).map fun pair => pair.2.json crates pair.1 := by
  rw [OrderedMap.get?_insertAll_reverse, cellEntries, ← List.map_reverse]
  rw [OrderedMap.get?_map (fun pair : ColumnInfo × WireCell => pair.1.name)]
  exact Option.or_none

theorem lastNamed_of_mem {columns : List ColumnInfo} {cells : List WireCell}
    {pair : ColumnInfo × WireCell} (member : pair ∈ columns.zip cells) :
    ∃ last, lastNamed columns cells pair.1.name = some last := by
  refine Option.isSome_iff_exists.mp (List.find?_isSome.mpr ?_)
  exact ⟨pair, List.mem_reverse.mpr member, by simp⟩

theorem nullMeansNull_iff (columns : List ColumnInfo) (cells : List WireCell) :
    NullMeansNull columns cells (OrderedMap.insertAll (cellEntries crates columns cells) []) ↔
      NoLeak crates columns cells := by
  refine forall_congr' fun pair => forall_congr' fun member => forall_congr' fun _ => ?_
  obtain ⟨last, found⟩ := lastNamed_of_mem member
  rw [get?_tuple, found, Option.map_some, Option.some.injEq, WireCell.json_eq_null]
  constructor
  · intro kept other same
    cases same
    exact kept
  · intro kept
    exact kept last rfl

/-- In a decoded row null means NULL exactly when no column leaks. -/
theorem decodeTupleData_nullMeansNull_iff {columns : List ColumnInfo} {bytes rest : Bytes}
    {image : Json} (decoded : decodeTupleData crates columns bytes = .ok (image, rest)) :
    ∃ (tuple : WireTuple columns.length) (fields : List (String × Json)),
      bytes = tuple.encode ++ rest ∧ image = .object fields ∧
      (NullMeansNull columns tuple.cells fields ↔ NoLeak crates columns tuple.cells) := by
  obtain ⟨tuple, written, same⟩ := (decodeTupleData_eq_ok crates).mp decoded
  exact ⟨tuple, _, written, same, nullMeansNull_iff crates columns tuple.cells⟩

theorem int4Row_nullMeansNull_iff :
    ∃ (tuple : WireTuple 1) (fields : List (String × Json)),
      ([0, 1, Tag.binaryCell, 0, 0, 0, 4, 0, 0, 0, 5] : Bytes) = tuple.encode ++ [] ∧
      Json.object [("n", .integer 5)] = .object fields ∧
      (NullMeansNull [⟨"n", 23, true⟩] tuple.cells fields ↔
        NoLeak .idle [⟨"n", 23, true⟩] tuple.cells) :=
  decodeTupleData_nullMeansNull_iff .idle
    (rfl : decodeTupleData .idle [⟨"n", 23, true⟩]
      [0, 1, Tag.binaryCell, 0, 0, 0, 4, 0, 0, 0, 5] = .ok (.object [("n", .integer 5)], []))

/-- A `bytea` without bytes is a value, and reads as null. -/
theorem emptyBinary_reads_null :
    decodeTupleData .idle [⟨"b", 17, false⟩] [0, 1, Tag.binaryCell, 0, 0, 0, 0] =
        .ok (.object [("b", .null)], []) ∧
      ¬ NullMeansNull [⟨"b", 17, false⟩] [.binary 0 [] rfl] [("b", .null)] := by
  refine ⟨rfl, ?_⟩
  intro faithful
  have isNull : (0 : Int32) < 0 := (faithful _ List.mem_cons_self (by simp [NullExempt])).mp rfl
  exact absurd isNull (by decide)

end PgCapture.Postgres
