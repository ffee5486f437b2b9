import PgCapture.Postgres.Arrays
import PgCapture.Postgres.Formats
import PgCapture.Postgres.RowOp

namespace PgCapture.Postgres

open PgCapture.Data PgCapture.Data.ChangeLog

/-! # The text of a column, read off its value

PostgreSQL sends text.  The decoder turns it into JSON by the column's type, and
for most types nothing is lost: whoever has the JSON value has the text.
-/

/-- Floating-point numbers are rounded, JSON documents lose their layout, and
    void has no value. -/
def keepsText (typeId : UInt32) : Bool :=
  typeId ∉ ([700, 701, 1021, 1022, 114, 3802, 2278] : List UInt32)

def scalarText : Json → String
  | .null => "NULL"
  | .bool value => boolOut value
  | .integer value => intOut value
  | .string text => text
  | .float _ _ _ => ""
  | .array _ => ""
  | .object _ => ""

def columnText : Json → String
  | .array items => String.ofList (braces (items.map fun item => (scalarText item).toList))
  | value => scalarText value

/-- A null has no text. -/
def columnText? : Json → Option String
  | .null => none
  | value => some (columnText value)

/-- An integer in the text PostgreSQL prints, without leading zeros or a plus sign. -/
def integerOf? (typeId : UInt32) (text : String) : Option Int :=
  match typeId with
  | 20 => parseSigned 64 text
  | 21 => parseSigned 16 text
  | 23 => parseSigned 32 text
  | 26 => parseUnsigned 32 text
  | _ => none

def IsPrinted (typeId : UInt32) (text : String) : Prop :=
  ∀ value, integerOf? typeId text = some value → text = intOut value

/-- What the parser splits an array at its commas into. -/
def parts (text : String) : List String :=
  (text.toList.tail.dropLast.splitOn ',').map String.ofList

structure PrintedIntegers (typeId : UInt32) (text : String) : Prop where
  own : IsPrinted typeId text
  elements : ∀ type : ArrayType, type.oid = typeId → ∀ part ∈ parts text, IsPrinted type.element part

theorem parseSigned_intOut_eq {bits : Nat} {value other : Int}
    (read : parseSigned bits (intOut value) = some other) : other = value := by
  cases value with
  | ofNat magnitude =>
      have shape : Binary.splitSign (intOut (.ofNat magnitude)).toList =
          (false, Nat.toDigits 10 magnitude) := by
        rw [intOut, Int.toString_eq_repr, Int.repr, Nat.toList_repr, Binary.splitSign_toDigits]
      rw [parseSigned_of_digits shape] at read
      simpa using (Option.ite_none_right_eq_some.mp read).2.symm
  | negSucc magnitude =>
      have shape : Binary.splitSign (intOut (.negSucc magnitude)).toList =
          (true, Nat.toDigits 10 (magnitude + 1)) := by
        rw [intOut, Int.toString_eq_repr, Int.repr, String.toList_append, Nat.toList_repr]
        rfl
      rw [parseSigned_of_digits shape] at read
      exact (Option.some.inj (Option.ite_none_right_eq_some.mp read).2).symm

theorem parseUnsigned_intOut_eq {bits : Nat} {value other : Int}
    (read : parseUnsigned bits (intOut value) = some other) : other = value := by
  cases value with
  | ofNat magnitude =>
      have text : (intOut (.ofNat magnitude)).toList = Nat.toDigits 10 magnitude := Nat.toList_repr
      have plus : '+' ∉ Nat.toDigits 10 magnitude := Binary.not_mem_toDigits (by decide) magnitude
      rw [parseUnsigned, text] at read
      split at read
      · rename_i signed
        exact absurd (signed ▸ List.mem_cons_self) plus
      · rw [Binary.decimalValue_toDigits] at read
        exact (Option.some.inj (Option.ite_none_right_eq_some.mp read).2).symm
  | negSucc magnitude =>
      rw [parseUnsigned, intOut, Int.toString_eq_repr, Int.repr, String.toList_append] at read
      simp at read

/-- Whatever PostgreSQL prints for an integer. -/
theorem isPrinted_intOut (typeId : UInt32) (value : Int) : IsPrinted typeId (intOut value) := by
  intro other read
  have same : other = value := by
    rw [integerOf?.eq_def] at read
    split at read
    · exact parseSigned_intOut_eq read
    · exact parseSigned_intOut_eq read
    · exact parseSigned_intOut_eq read
    · exact parseUnsigned_intOut_eq read
    · contradiction
  rw [same]

section Values

variable (crates : Crates)

theorem scalarText_integerOrText {text : String} {read : Option Int}
    (printed : ∀ value, read = some value → text = intOut value) :
    scalarText (integerOrText text read) = text := by
  cases read with
  | none => rfl
  | some value => exact (printed value rfl).symm

theorem integerOrText_scalar (text : String) (read : Option Int) :
    integerOrText text read ≠ .null ∧ ∀ items, integerOrText text read ≠ .array items := by
  cases read with
  | none => exact ⟨Json.noConfusion, fun _ => Json.noConfusion⟩
  | some value => exact ⟨Json.noConfusion, fun _ => Json.noConfusion⟩

/-- A value that is a scalar and not null, with its text. -/
structure ScalarOf (text : String) (value : Json) : Prop where
  text : scalarText value = text
  notNull : value ≠ .null
  notArray : ∀ items, value ≠ .array items

theorem ScalarOf.string (text : String) : ScalarOf text (.string text) where
  text := rfl
  notNull := Json.noConfusion
  notArray := fun _ => Json.noConfusion

theorem ScalarOf.integer {text : String} {read : Option Int}
    (printed : ∀ value, read = some value → text = intOut value) :
    ScalarOf text (integerOrText text read) where
  text := scalarText_integerOrText printed
  notNull := (integerOrText_scalar text read).1
  notArray := (integerOrText_scalar text read).2

theorem ScalarOf.column {text : String} {value : Json} (scalar : ScalarOf text value) :
    columnText? value = some text := by
  cases value with
  | null => exact absurd rfl scalar.notNull
  | array items => exact absurd rfl (scalar.notArray items)
  | _ => exact congrArg some scalar.text

theorem parsePostgresValue_restores_scalar {typeId : UInt32} (keeps : keepsText typeId)
    (scalar : arrayRank typeId = 0) {text : String} (printed : IsPrinted typeId text) :
    ∃ value, parsePostgresValue (ε := ε) crates text typeId = .ok value ∧ ScalarOf text value := by
  rw [parsePostgresValue.eq_def]
  split
  case h_1 =>
    split
    · exact ⟨_, rfl, rfl, Json.noConfusion, fun _ => Json.noConfusion⟩
    · exact ⟨_, rfl, rfl, Json.noConfusion, fun _ => Json.noConfusion⟩
    · exact ⟨_, rfl, .string text⟩
  all_goals first
    | exact ⟨_, rfl, .integer printed⟩
    | exact ⟨_, rfl, .string text⟩
    | exact absurd keeps (by decide)
    | exact absurd scalar (by decide)

theorem partJson_restores {type : ArrayType} (keeps : keepsText type.element) {part : List Char}
    (printed : IsPrinted type.element (String.ofList part)) :
    ∃ item, partJson (ε := ε) crates type.element part = .ok item ∧ (scalarText item).toList = part := by
  rw [partJson]
  split
  · rename_i isNull
    exact ⟨.null, rfl, isNull.symm⟩
  · have scalar : arrayRank type.element = 0 := by
      cases type <;> rfl
    obtain ⟨item, parsed, restored⟩ :=
      parsePostgresValue_restores_scalar (ε := ε) crates keeps scalar printed
    refine ⟨item, parsed, ?_⟩
    rw [restored.text, String.toList_ofList]

theorem mapM_partJson_restores {type : ArrayType} (keeps : keepsText type.element)
    {texts : List (List Char)} (printed : ∀ part ∈ texts, IsPrinted type.element (String.ofList part)) :
    ∃ items, texts.mapM (partJson (ε := ε) crates type.element) = .ok items ∧
      items.map (fun item => (scalarText item).toList) = texts := by
  induction texts with
  | nil => exact ⟨[], rfl, rfl⟩
  | cons part texts ih =>
      obtain ⟨item, parsed, restored⟩ :=
        partJson_restores (ε := ε) crates keeps (printed part List.mem_cons_self)
      obtain ⟨items, rest, restoredRest⟩ := ih fun other member => printed other (List.mem_cons_of_mem _ member)
      refine ⟨item :: items, ?_, ?_⟩
      · rw [List.mapM_cons, parsed, rest]
        rfl
      · rw [List.map_cons, restored, restoredRest]

theorem braced_shape {text : List Char} (opened : text.head? = some '\x7b')
    (closed : text.getLast? = some '\x7d') : ∃ inner, text = '\x7b' :: (inner ++ ['\x7d']) := by
  obtain ⟨rest, rfl⟩ := List.head?_eq_some_iff.mp opened
  obtain ⟨front, last⟩ := List.getLast?_eq_some_iff.mp closed
  cases front with
  | nil => simp at last
  | cons first inner =>
      obtain ⟨_, rest⟩ := List.cons.inj last
      exact ⟨inner, congrArg _ rest⟩

theorem parseArrayValue_restores {type : ArrayType} (keeps : keepsText type.element) {text : String}
    (printed : ∀ part ∈ parts text, IsPrinted type.element part) :
    ∃ value, parseArrayValue (ε := ε) crates text type.element = .ok value ∧
      columnText? value = some text := by
  by_cases unbraced : text.toList.head? ≠ some '\x7b' ∨ text.toList.getLast? ≠ some '\x7d'
  · rw [parseArrayValue, if_pos unbraced]
    exact ⟨_, rfl, rfl⟩
  · simp only [not_or, not_not] at unbraced
    obtain ⟨inner, shape⟩ := braced_shape unbraced.1 unbraced.2
    have inside : text.toList.tail.dropLast = inner := by
      rw [shape, List.tail_cons, List.dropLast_concat]
    rw [parseArrayValue_braced crates shape]
    split
    · rename_i empty
      refine ⟨_, rfl, congrArg some ?_⟩
      rw [← String.ofList_toList (s := text), shape, empty]
      rfl
    · split
      · exact ⟨_, rfl, rfl⟩
      · have printedParts : ∀ part ∈ inner.splitOn ',', IsPrinted type.element (String.ofList part) :=
          fun part member => printed _ (List.mem_map_of_mem (inside ▸ member))
        obtain ⟨items, parsed, restored⟩ :=
          mapM_partJson_restores (ε := ε) crates keeps printedParts
        refine ⟨.array items, ?_, congrArg some ?_⟩
        · change ((inner.splitOn ',').mapM (partJson crates type.element) >>=
            fun items => .ok (Json.array items)) = _
          rw [parsed]
          rfl
        · rw [columnText, restored, braces, List.intercalate_splitOn, ← shape, String.ofList_toList]

theorem arrayRank_eq_zero {typeId : UInt32} (noArray : ∀ type : ArrayType, type.oid ≠ typeId) :
    arrayRank typeId = 0 := by
  rw [arrayRank, if_neg]
  rintro (rfl | rfl | rfl | rfl | rfl | rfl | rfl | rfl)
  · exact noArray .bool rfl
  · exact noArray .int2 rfl
  · exact noArray .int4 rfl
  · exact noArray .int8 rfl
  · exact noArray .text rfl
  · exact noArray .varchar rfl
  · exact noArray .float4 rfl
  · exact noArray .float8 rfl

/-- The value has the text, and it is not null. -/
theorem parsePostgresValue_restores {typeId : UInt32} (keeps : keepsText typeId) {text : String}
    (printed : PrintedIntegers typeId text) :
    ∃ value, parsePostgresValue (ε := ε) crates text typeId = .ok value ∧
      columnText? value = some text := by
  by_cases isArray : ∃ type : ArrayType, type.oid = typeId
  · obtain ⟨type, rfl⟩ := isArray
    have keepsElement : keepsText type.element := by
      cases type <;> first | rfl | exact absurd keeps (by decide)
    rw [parsePostgresValue_array]
    exact parseArrayValue_restores crates keepsElement (printed.elements type rfl)
  · have scalar := arrayRank_eq_zero fun type isType => isArray ⟨type, isType⟩
    obtain ⟨value, parsed, restored⟩ :=
      parsePostgresValue_restores_scalar (ε := ε) crates keeps scalar printed.own
    exact ⟨value, parsed, restored.column⟩

end Values

def BinaryValue.text? : BinaryValue → Option String
  | .text content _ => some content
  | _ => none

/-- A cell of the text format that the decoder keeps. -/
def BinaryValue.IsKept (column : MockColumn) : BinaryValue → Prop
  | .null => True
  | .text content _ => keepsText column.typeId ∧ PrintedIntegers column.typeId content
  | .binary _ _ _ => False

def MockRow.IsKept {relation : MockRelation} (row : MockRow relation) : Prop :=
  ∀ cell ∈ relation.columns.zip row.values, cell.2.IsKept cell.1

/-- The row as PostgreSQL sent it. -/
def MockRow.texts {relation : MockRelation} (row : MockRow relation) : List (Option String) :=
  row.values.map BinaryValue.text?

/-- The row as the consumer can restore it. -/
def rowTexts (relation : MockRelation) (image : Json) : List (Option String) :=
  (imageKey (relation.columns.map MockColumn.name) image).map columnText?

theorem cellValue_restores (crates : Crates) {column : MockColumn} {value : BinaryValue}
    (kept : value.IsKept column) {json : Json} (read : cellValue crates column value = .ok json) :
    columnText? json = value.text? := by
  cases value with
  | null =>
      cases read
      rfl
  | text text fits =>
      obtain ⟨restored, parsed, same⟩ := parsePostgresValue_restores crates kept.1 kept.2
      rw [cellValue, parsed] at read
      cases read
      exact same
  | binary data nonempty fits => exact kept.elim

theorem rowTexts_of_isImage {crates : Crates} {relation : MockRelation}
    {row : MockRow relation} (kept : row.IsKept) {image : Json} (isImage : IsImage crates row image) :
    rowTexts relation image = row.texts := by
  obtain ⟨fields, rfl, _, cells, _⟩ := isImage
  have columns : (relation.columns.zip row.values).map Prod.fst = relation.columns :=
    List.map_fst_zip (Nat.le_of_eq row.complete.symm)
  have values : (relation.columns.zip row.values).map Prod.snd = row.values :=
    List.map_snd_zip (Nat.le_of_eq row.complete)
  rw [rowTexts, MockRow.texts, imageKey, ← values, List.map_map, List.map_map, List.map_map]
  conv_lhs => rw [← columns, List.map_map]
  apply List.map_congr_left
  rintro ⟨column, value⟩ member
  obtain ⟨json, read, found⟩ := cells column value member
  simp only [Function.comp_apply, found, Option.getD_some]
  exact cellValue_restores crates (kept _ member) read

end PgCapture.Postgres
