import PgCapture.Postgres.Value
import PgCapture.Error
import PgCapture.Data.Separated

namespace PgCapture.Postgres

open PgCapture.Data

/-! # Array values

The text PostgreSQL prints for an array, and what the parser makes of it.  The
parser splits at commas; it gives up on texts with a quote in them.
-/

/-- The array types with a case of their own in `parsePostgresValue`. -/
inductive ArrayType where
  | bool
  | int2
  | int4
  | int8
  | text
  | varchar
  | float4
  | float8
deriving DecidableEq, Repr

namespace ArrayType

def oid : ArrayType → UInt32
  | .bool => 1000
  | .int2 => 1005
  | .int4 => 1007
  | .int8 => 1016
  | .text => 1009
  | .varchar => 1015
  | .float4 => 1021
  | .float8 => 1022

def element : ArrayType → UInt32
  | .bool => 16
  | .int2 => 21
  | .int4 => 23
  | .int8 => 20
  | .text => 25
  | .varchar => 1043
  | .float4 => 700
  | .float8 => 701

end ArrayType

/-- The white space that makes the server quote an element. -/
def arrayIsSpace (char : Char) : Bool :=
  char = ' ' || char = '\t' || char = '\n' || char = '\r' || char = '\x0b' || char = '\x0c'

def needsQuotes (text : String) : Bool :=
  text.toList = [] || text.toList.map Char.toUpper = "NULL".toList ||
    text.toList.any fun char =>
      char = '\x7b' || char = '\x7d' || char = ',' || char = '"' || char = '\\' || arrayIsSpace char

def escapeChar (char : Char) : List Char :=
  if char = '"' ∨ char = '\\' then ['\\', char] else [char]

/-- The text of one element; a missing element is a null. -/
def elementOut : Option String → List Char
  | none => "NULL".toList
  | some text =>
      if needsQuotes text then '"' :: (text.toList.flatMap escapeChar ++ ['"']) else text.toList

def braces (parts : List (List Char)) : List Char :=
  '\x7b' :: ([','].intercalate parts ++ ['\x7d'])

/-- `array_out` of a one-dimensional array. -/
def arrayOut (elements : List (Option String)) : String :=
  String.ofList (braces (elements.map elementOut))

/-- Whether an element is printed in quotes. -/
def quoted : Option String → Bool
  | none => false
  | some text => needsQuotes text

example : arrayOut [some "a b", none, some "null", some "c\\"] =
    "\x7b\"a b\",NULL,\"null\",\"c\\\\\"\x7d" := by decide

theorem elementOut_of_quoted {element : Option String} (quotes : quoted element) :
    '"' ∈ elementOut element := by
  cases element with
  | none => cases quotes
  | some text =>
      rw [quoted] at quotes
      rw [elementOut, if_pos quotes]
      exact List.mem_cons_self

theorem elementOut_of_unquoted {text : String} (plain : quoted (some text) = false) :
    elementOut (some text) = text.toList := by
  rw [quoted] at plain
  rw [elementOut, if_neg (ne_true_of_eq_false plain)]

/-- A character that the parser gives a meaning to stands in no unquoted element. -/
theorem not_mem_elementOut {element : Option String} (plain : quoted element = false) {char : Char}
    (special : char = ',' ∨ char = '"') : char ∉ elementOut element := by
  cases element with
  | none => rcases special with rfl | rfl <;> decide
  | some text =>
      rw [elementOut_of_unquoted plain]
      intro member
      simp only [quoted, needsQuotes, Bool.or_eq_false_iff, List.any_eq_false] at plain
      have allowed := plain.2 char member
      rcases special with rfl | rfl <;> simp at allowed

theorem elementOut_ne_nil (element : Option String) : elementOut element ≠ [] := by
  cases element with
  | none => decide
  | some text =>
      intro empty
      by_cases quotes : quoted (some text)
      · have member := elementOut_of_quoted quotes
        rw [empty] at member
        cases member
      · have plain := Bool.eq_false_of_not_eq_true quotes
        rw [elementOut_of_unquoted plain] at empty
        simp [quoted, needsQuotes, empty] at plain

/-- Nothing in unquoted elements looks like a separator or a quote. -/
theorem quote_not_mem_joined {elements : List (Option String)}
    (plain : ∀ element ∈ elements, quoted element = false) :
    '"' ∉ [','].intercalate (elements.map elementOut) := by
  rw [Separated.mem_intercalate (by decide)]
  rintro ⟨part, printed, member⟩
  obtain ⟨element, listed, rfl⟩ := List.mem_map.mp printed
  exact not_mem_elementOut (plain element listed) (.inr rfl) member

theorem splitOn_joined {elements : List (Option String)} (some : elements ≠ [])
    (plain : ∀ element ∈ elements, quoted element = false) :
    ([','].intercalate (elements.map elementOut)).splitOn ',' = elements.map elementOut := by
  apply List.splitOn_intercalate
  · intro part printed
    obtain ⟨element, listed, rfl⟩ := List.mem_map.mp printed
    exact not_mem_elementOut (plain element listed) (.inl rfl)
  · simpa using some

variable (crates : Crates)

theorem parsePostgresValue_array (type : ArrayType) (text : String) :
    parsePostgresValue (ε := ε) crates text type.oid = parseArrayValue crates text type.element := by
  cases type <;> exact parsePostgresValue.eq_def ..

/-- What an element is as JSON. -/
def elementJson (elementTypeId : UInt32) : Option String → Outcome ε Json
  | none => .ok .null
  | some text => parsePostgresValue crates text elementTypeId

/-- What the parser makes of a part it has split off. -/
def partJson (elementTypeId : UInt32) (part : List Char) : Outcome ε Json :=
  if part = "NULL".toList then .ok .null
  else parsePostgresValue crates (String.ofList part) elementTypeId

theorem partJson_elementOut {element : Option String} (plain : quoted element = false)
    (elementTypeId : UInt32) :
    partJson (ε := ε) crates elementTypeId (elementOut element) =
      elementJson crates elementTypeId element := by
  cases element with
  | none => rfl
  | some text =>
      have different : text.toList ≠ "NULL".toList := by
        intro same
        simp [quoted, needsQuotes, same] at plain
      rw [elementOut_of_unquoted plain, partJson, if_neg different, String.ofList_toList]
      rfl

theorem mapM_partJson {elements : List (Option String)}
    (plain : ∀ element ∈ elements, quoted element = false) (elementTypeId : UInt32) :
    (elements.map elementOut).mapM (partJson (ε := ε) crates elementTypeId) =
      elements.mapM (elementJson crates elementTypeId) := by
  induction elements with
  | nil => rfl
  | cons element elements ih =>
      have rest := ih fun other member => plain other (List.mem_cons_of_mem _ member)
      rw [List.map_cons, List.mapM_cons, List.mapM_cons, rest,
        partJson_elementOut crates (plain element List.mem_cons_self)]

theorem elementJson_total (type : ArrayType) (element : Option String) :
    ∃ item, elementJson (ε := ε) crates type.element element = .ok item := by
  cases element with
  | none => exact ⟨_, rfl⟩
  | some text => exact parsePostgresValue_total crates text _

theorem parseArrayValue_of_quote {inner : List Char} (quote : '"' ∈ inner) (elementTypeId : UInt32) :
    parseArrayValue (ε := ε) crates (String.ofList ('\x7b' :: (inner ++ ['\x7d']))) elementTypeId =
      .ok (.string (String.ofList ('\x7b' :: (inner ++ ['\x7d'])))) := by
  rw [parseArrayValue_braced crates (String.toList_ofList ..), if_neg (List.ne_nil_of_mem quote),
    if_pos quote]

theorem parseArrayValue_of_plain {inner : List Char} (content : inner ≠ []) (plain : '"' ∉ inner)
    (elementTypeId : UInt32) :
    parseArrayValue (ε := ε) crates (String.ofList ('\x7b' :: (inner ++ ['\x7d']))) elementTypeId =
      (inner.splitOn ',').mapM (partJson crates elementTypeId) >>=
        fun items => .ok (.array items) := by
  rw [parseArrayValue_braced crates (String.toList_ofList ..), if_neg content, if_neg plain]
  rfl

/-- An array text with a quoted element is kept; every other one is split into
its elements. -/
theorem parsePostgresValue_arrayOut (type : ArrayType) (elements : List (Option String)) :
    if elements.any quoted then
      parsePostgresValue (ε := ε) crates (arrayOut elements) type.oid =
        .ok (.string (arrayOut elements))
    else
      ∃ items, parsePostgresValue (ε := ε) crates (arrayOut elements) type.oid = .ok (.array items) ∧
        List.Forall₂ (fun element item => elementJson (ε := ε) crates type.element element = .ok item)
          elements items := by
  rw [parsePostgresValue_array]
  split
  · rename_i quotes
    obtain ⟨element, member, quotes⟩ := List.any_eq_true.mp quotes
    have printed := List.mem_map_of_mem (f := elementOut) member
    exact parseArrayValue_of_quote crates
      ((Separated.mem_intercalate (by decide)).mpr ⟨_, printed, elementOut_of_quoted quotes⟩) _
  · rename_i plain
    simp only [List.any_eq_true, not_exists, not_and, Bool.not_eq_true] at plain
    obtain ⟨items, parsed⟩ := Outcome.mapM_ok fun element (_ : element ∈ elements) =>
      elementJson_total (ε := ε) crates type element
    refine ⟨items, ?_, Outcome.mapM_eq_ok.mp parsed⟩
    cases elements with
    | nil =>
        rw [List.mapM_nil, Outcome.pure_eq, Outcome.ok.injEq] at parsed
        rw [← parsed]
        have shape : (arrayOut []).toList = '\x7b' :: ([] ++ ['\x7d']) := rfl
        exact parseArrayValue_braced crates shape _
    | cons element elements =>
        have content : [','].intercalate ((element :: elements).map elementOut) ≠ [] :=
          Separated.intercalate_ne_nil (elementOut_ne_nil element) _
        have parts := splitOn_joined (List.cons_ne_nil element elements) plain
        rw [arrayOut, braces, parseArrayValue_of_plain crates content (quote_not_mem_joined plain), parts,
          mapM_partJson crates plain, parsed]
        rfl

/-- The elements of an array with the given sizes, the last dimension innermost. -/
def Contents : List Nat → Type
  | [] => Option String
  | size :: sizes => { rows : List (Contents sizes) // rows.length = size }

namespace Contents

def elements : (sizes : List Nat) → Contents sizes → List (Option String)
  | [], element => [element]
  | _ :: sizes, rows => rows.val.flatMap (elements sizes)

def out : (sizes : List Nat) → Contents sizes → List Char
  | [], element => elementOut element
  | _ :: sizes, rows => braces (rows.val.map (out sizes))

/-- The nested JSON array of the parsed elements. -/
def json (elementTypeId : UInt32) : (sizes : List Nat) → Contents sizes → Outcome ε Json
  | [], element => elementJson crates elementTypeId element
  | _ :: sizes, rows => do
      let items ← rows.val.mapM (json elementTypeId sizes)
      .ok (.array items)

end Contents

/-- An array of at least two dimensions; an array without elements has none. -/
structure NestedArray where
  sizes : List Nat
  lowerBounds : List Int
  contents : Contents sizes
  nested : 2 ≤ sizes.length
  positive : ∀ size ∈ sizes, 0 < size
  bounded : lowerBounds.length = sizes.length

namespace NestedArray

/-- The bounds are printed when one of them is not the default. -/
def boundsOut (array : NestedArray) : List Char :=
  if array.lowerBounds.all (· = 1) then []
  else (List.zipWith (fun (lower : Int) (size : Nat) =>
    ('[' :: (toString lower).toList) ++ (':' :: (toString (lower + size - 1)).toList) ++ [']'])
      array.lowerBounds array.sizes).flatten ++ ['=']

/-- `array_out`. -/
def out (array : NestedArray) : String :=
  String.ofList (array.boundsOut ++ array.contents.out array.sizes)

def elements (array : NestedArray) : List (Option String) := array.contents.elements array.sizes

def json (array : NestedArray) (elementTypeId : UInt32) : Outcome ε Json :=
  array.contents.json crates elementTypeId array.sizes

end NestedArray

theorem mem_braces {char : Char} (inside : char ≠ '\x7b' ∧ char ≠ '\x7d' ∧ char ≠ ',')
    {parts : List (List Char)} : char ∈ braces parts ↔ ∃ part ∈ parts, char ∈ part := by
  rw [braces, List.mem_cons, List.mem_append, Separated.mem_intercalate inside.2.2]
  simp [inside]

theorem quote_mem_elementOut {element : Option String} :
    '"' ∈ elementOut element ↔ quoted element = true := by
  constructor
  · intro member
    by_contra plain
    exact not_mem_elementOut (Bool.eq_false_of_not_eq_true plain) (.inr rfl) member
  · exact elementOut_of_quoted

theorem Contents.quote_mem_out {sizes : List Nat} (contents : Contents sizes) :
    '"' ∈ contents.out sizes ↔ (contents.elements sizes).any quoted := by
  induction sizes with
  | nil =>
      have printed : '"' ∈ out [] contents ↔ quoted contents = true := quote_mem_elementOut
      have listed : (elements [] contents).any quoted = quoted contents := Bool.or_false _
      rw [printed, listed]
  | cons size sizes ih =>
      rw [out, mem_braces (by decide)]
      simp only [List.mem_map, exists_exists_and_eq_and, ih, elements, List.any_flatMap,
        List.any_eq_true]

theorem integerOrText_ne_array (text : String) (value : Option Int) (items : List Json) :
    integerOrText text value ≠ .array items := by
  cases value <;> exact Json.noConfusion

theorem floatOrText_ne_array (text : String) (value : Option Binary) (items : List Json) :
    floatOrText text value ≠ .array items := by
  cases value with
  | none => exact Json.noConfusion
  | some value => cases value <;> exact Json.noConfusion

/-- The element types are scalar, so no element is read as an array. -/
theorem parsePostgresValue_element_ne_array (type : ArrayType) (text : String) (items : List Json) :
    parsePostgresValue (ε := ε) crates text type.element ≠ .ok (.array items) := by
  unfold parsePostgresValue
  cases type with
  | bool =>
      simp only [ArrayType.element]
      split <;> simp
  | int2 => simpa [ArrayType.element] using integerOrText_ne_array text _ items
  | int4 => simpa [ArrayType.element] using integerOrText_ne_array text _ items
  | int8 => simpa [ArrayType.element] using integerOrText_ne_array text _ items
  | text => simp [ArrayType.element]
  | varchar => simp [ArrayType.element]
  | float4 => simpa [ArrayType.element] using floatOrText_ne_array text _ items
  | float8 => simpa [ArrayType.element] using floatOrText_ne_array text _ items

theorem partJson_ne_array (type : ArrayType) (part : List Char) (items : List Json) :
    partJson (ε := ε) crates type.element part ≠ .ok (.array items) := by
  rw [partJson]
  split
  · intro parsed
    cases parsed
  · exact parsePostgresValue_element_ne_array crates type _ items

/-- Below the first dimension there are arrays. -/
theorem Contents.json_eq_array {elementTypeId : UInt32} {sizes : List Nat} (nested : sizes ≠ [])
    {contents : Contents sizes} {value : Json}
    (read : contents.json (ε := ε) crates elementTypeId sizes = .ok value) :
    ∃ items, value = .array items := by
  cases sizes with
  | nil => contradiction
  | cons size sizes =>
      obtain ⟨items, _, built⟩ := Outcome.bind_eq_ok.mp read
      cases built
      exact ⟨items, rfl⟩

theorem NestedArray.boundsOut_of_default {array : NestedArray}
    (default : ∀ lower ∈ array.lowerBounds, lower = 1) : array.boundsOut = [] := by
  have all : array.lowerBounds.all (· = 1) := by simpa using default
  rw [boundsOut, if_pos all]

theorem NestedArray.head_boundsOut {array : NestedArray} {lower : Int}
    (member : lower ∈ array.lowerBounds) (other : lower ≠ 1) :
    array.boundsOut.head? = some '[' := by
  have all : ¬ array.lowerBounds.all (· = 1) := by
    intro default
    simp only [List.all_eq_true, decide_eq_true_eq] at default
    exact other (default lower member)
  obtain ⟨sizes, lowerBounds, contents, nested, positive, bounded⟩ := array
  rw [boundsOut, if_neg all]
  cases lowerBounds with
  | nil => cases member
  | cons first lowerBounds =>
      cases sizes with
      | nil => cases bounded
      | cons size sizes => rfl

theorem NestedArray.out_of_default {array : NestedArray}
    (default : ∀ lower ∈ array.lowerBounds, lower = 1) :
    ∃ inner, array.out = String.ofList ('\x7b' :: (inner ++ ['\x7d'])) ∧
      ('"' ∈ inner ↔ array.elements.any quoted) := by
  have bounds := boundsOut_of_default default
  have quote := array.contents.quote_mem_out
  rw [out, bounds, List.nil_append, elements, ← quote]
  obtain ⟨sizes, lowerBounds, contents, nested, positive, bounded⟩ := array
  cases sizes with
  | nil => cases nested
  | cons size sizes =>
      refine ⟨[','].intercalate (contents.val.map (Contents.out sizes)), rfl, ?_⟩
      rw [Contents.out, braces]
      simp

/-- When nothing in the text makes the parser give up, it builds an array of
element values and nulls. -/
theorem NestedArray.flat_of_plain {array : NestedArray} {type : ArrayType}
    (plain : ¬ array.elements.any quoted) (default : ∀ lower ∈ array.lowerBounds, lower = 1)
    {value : Json} (parsed : parsePostgresValue (ε := ε) crates array.out type.oid = .ok value) :
    ∃ items, value = .array items ∧ ∀ item ∈ items, ∀ inner, item ≠ .array inner := by
  obtain ⟨text, shape, quote⟩ := out_of_default default
  rw [parsePostgresValue_array, shape] at parsed
  by_cases content : text = []
  · subst content
    rw [parseArrayValue_braced crates (String.toList_ofList ..), if_pos rfl] at parsed
    cases parsed
    exact ⟨[], rfl, fun item member => absurd member List.not_mem_nil⟩
  · rw [parseArrayValue_of_plain crates content (fun member => plain (quote.mp member))] at parsed
    obtain ⟨items, split, built⟩ := Outcome.bind_eq_ok.mp parsed
    cases built
    refine ⟨items, rfl, ?_⟩
    rintro item member inner rfl
    obtain ⟨part, _, read⟩ := Outcome.mem_of_mapM_eq_ok split member
    exact partJson_ne_array crates type part inner read

/-- The first item of the nested JSON array is an array. -/
theorem NestedArray.json_not_flat {array : NestedArray} {elementTypeId : UInt32} {value : Json}
    (read : array.json (ε := ε) crates elementTypeId = .ok value) :
    ∃ inner items, value = .array (.array inner :: items) := by
  obtain ⟨sizes, lowerBounds, contents, nested, positive, bounded⟩ := array
  cases sizes with
  | nil => cases nested
  | cons size sizes =>
      obtain ⟨items, rows, built⟩ := Outcome.bind_eq_ok.mp read
      cases built
      obtain ⟨lists, count⟩ := contents
      cases lists with
      | nil =>
          have some := positive size List.mem_cons_self
          rw [← count] at some
          cases some
      | cons first lists =>
          rw [Outcome.mapM_eq_ok] at rows
          cases rows with
          | cons made _ =>
              have deeper : sizes ≠ [] := by
                rintro rfl
                simp at nested
              obtain ⟨inner, rfl⟩ := Contents.json_eq_array crates deeper made
              exact ⟨inner, _, rfl⟩

/-- A nested array is kept whole, as text or as the nested JSON array, exactly
when a quote or a bound makes the parser give up. -/
theorem parsePostgresValue_nestedArray (type : ArrayType) (array : NestedArray) :
    parsePostgresValue (ε := ε) crates array.out type.oid = .ok (.string array.out) ∨
        parsePostgresValue (ε := ε) crates array.out type.oid = array.json crates type.element ↔
      array.elements.any quoted ∨ ∃ lower ∈ array.lowerBounds, lower ≠ 1 := by
  constructor
  · intro kept
    by_contra neither
    simp only [not_or, not_exists, not_and, not_not] at neither
    obtain ⟨value, parsed⟩ := parsePostgresValue_total (ε := ε) crates array.out type.oid
    obtain ⟨items, rfl, flat⟩ := array.flat_of_plain crates neither.1 neither.2 parsed
    rw [parsed] at kept
    cases kept with
    | inl text => cases text
    | inr read =>
        obtain ⟨inner, rest, same⟩ := array.json_not_flat crates read.symm
        cases same
        exact flat _ List.mem_cons_self inner rfl
  · intro gives
    left
    rw [parsePostgresValue_array]
    by_cases default : ∃ lower ∈ array.lowerBounds, lower ≠ 1
    · obtain ⟨lower, member, other⟩ := default
      apply parseArrayValue_unbraced
      rw [NestedArray.out, String.toList_ofList, List.head?_append,
        NestedArray.head_boundsOut member other, Option.some_or]
      decide
    · have quotes := gives.resolve_right default
      simp only [not_exists, not_and, not_not] at default
      obtain ⟨text, shape, quote⟩ := array.out_of_default default
      rw [shape]
      exact parseArrayValue_of_quote crates (quote.mpr quotes) _

/-- The integers one to four in two rows. -/
def twoByTwo : NestedArray :=
  { sizes := [2, 2]
    lowerBounds := [1, 1]
    contents := ⟨[⟨[some "1", some "2"], rfl⟩, ⟨[some "3", some "4"], rfl⟩], rfl⟩
    nested := by decide
    positive := by decide
    bounded := rfl }

theorem twoByTwo_split :
    parsePostgresValue (ε := Error) .idle twoByTwo.out ArrayType.int4.oid =
      .ok (.array [.string "\x7b1", .string "2\x7d", .string "\x7b3", .string "4\x7d"]) := by
  have shape : twoByTwo.out =
      String.ofList ('\x7b' :: ("\x7b1,2\x7d,\x7b3,4\x7d".toList ++ ['\x7d'])) := rfl
  have parts : "\x7b1,2\x7d,\x7b3,4\x7d".toList.splitOn ',' =
      ["\x7b1".toList, "2\x7d".toList, "\x7b3".toList, "4\x7d".toList] := by decide
  rw [shape, parsePostgresValue_array, parseArrayValue_of_plain _ (by decide) (by decide), parts]
  simp only [List.mapM_cons, List.mapM_nil, partJson, ArrayType.element, parsePostgresValue_int4]
  rfl

theorem twoByTwo_not_kept :
    ¬ (parsePostgresValue (ε := Error) .idle twoByTwo.out ArrayType.int4.oid =
          .ok (.string twoByTwo.out) ∨
        parsePostgresValue (ε := Error) .idle twoByTwo.out ArrayType.int4.oid =
          twoByTwo.json .idle ArrayType.int4.element) := by
  rw [twoByTwo_split]
  intro kept
  cases kept with
  | inl text => cases text
  | inr read =>
      obtain ⟨inner, rest, same⟩ := twoByTwo.json_not_flat _ read.symm
      cases same

end PgCapture.Postgres
