import PgCapture.Crates
import PgCapture.Data.Utf8
import PgCapture.Data.Hex

namespace PgCapture.Postgres

open PgCapture.Data

/-! # Column values

The text and binary forms of PostgreSQL values as JSON.
-/

/-- `str::parse` for a signed integer type of `bits` bits. -/
def parseSigned (bits : Nat) (text : String) : Option Int :=
  let (negative, digits) := Binary.splitSign text.toList
  if digits ≠ [] ∧ digits.all Char.isDigit then
    let magnitude := Binary.decimalValue digits
    if negative then
      if magnitude ≤ 2 ^ (bits - 1) then some (-(magnitude : Int)) else none
    else if magnitude < 2 ^ (bits - 1) then some magnitude else none
  else none

/-- `str::parse` for an unsigned integer type; a minus sign is not a digit. -/
def parseUnsigned (bits : Nat) (text : String) : Option Int :=
  let digits := match text.toList with
    | '+' :: rest => rest
    | rest => rest
  if digits ≠ [] ∧ digits.all Char.isDigit ∧ Binary.decimalValue digits < 2 ^ bits then
    some (Binary.decimalValue digits)
  else none

def integerOrText (text : String) : Option Int → Json
  | some value => .integer value
  | none => .string text

def floatOrText (text : String) : Option Binary → Json
  | some value => .ofBinary value
  | none => .string text

/-- Arrays have scalar elements: the rank bounds the nesting of the two parsers. -/
def arrayRank (typeId : UInt32) : Nat :=
  if typeId = 1000 ∨ typeId = 1005 ∨ typeId = 1007 ∨ typeId = 1016 ∨ typeId = 1009 ∨
      typeId = 1015 ∨ typeId = 1021 ∨ typeId = 1022 then 1 else 0

variable (crates : Crates)

mutual
def parsePostgresValue (text : String) (typeId : UInt32) : Outcome ε Json :=
  match typeId with
  | 16 => match text with
    | "t" => .ok (.bool true)
    | "f" => .ok (.bool false)
    | _ => .ok (.string text)
  | 20 => .ok (integerOrText text (parseSigned 64 text))
  | 21 => .ok (integerOrText text (parseSigned 16 text))
  | 23 => .ok (integerOrText text (parseSigned 32 text))
  | 26 => .ok (integerOrText text (parseUnsigned 32 text))
  | 700 => .ok (floatOrText text (Binary.parse .single text))
  | 701 => .ok (floatOrText text (Binary.parse .double text))
  | 114 | 3802 => .ok ((crates.fromStr text).getD (.string text))
  | 1000 => parseArrayValue text 16
  | 1005 => parseArrayValue text 21
  | 1007 => parseArrayValue text 23
  | 1016 => parseArrayValue text 20
  | 1009 => parseArrayValue text 25
  | 1015 => parseArrayValue text 1043
  | 1021 => parseArrayValue text 700
  | 1022 => parseArrayValue text 701
  | 2278 => .ok .null
  -- numeric, strings, dates and times, uuid, network types, record and
  -- every type without a case of its own keep their text
  | _ => .ok (.string text)
termination_by 2 * arrayRank typeId
decreasing_by all_goals decide

def parseArrayValue (text : String) (elementTypeId : UInt32) : Outcome ε Json :=
  if text.toList.head? ≠ some '\x7b' ∨ text.toList.getLast? ≠ some '\x7d' then .ok (.string text)
  else do
    let inner ← Utf8.slice text.toList 1 (Utf8.byteLength text.toList - 1)
    if inner = [] then .ok (.array [])
    else if '"' ∈ inner then .ok (.string text)
    else do
      let elements ← (inner.splitOn ',').mapM fun element =>
        if element = "NULL".toList then .ok .null
        else parsePostgresValue (String.ofList element) elementTypeId
      .ok (.array elements)
termination_by 2 * arrayRank elementTypeId + 1
end

def index (data : Bytes) (position : Nat) : Outcome ε UInt8 :=
  match data[position]? with
  | some byte => .ok byte
  | none => .panic

def indexRange (data : Bytes) (start count : Nat) : Outcome ε Bytes :=
  (List.range' start count).mapM (index data)

def lowerHexByte (byte : UInt8) : List Char :=
  [Hex.lowerDigit (byte.toNat / 16), Hex.lowerDigit (byte.toNat % 16)]

def parsePostgresBinaryValue (data : Bytes) (typeId : UInt32) : Outcome ε Json :=
  match typeId with
  | 16 =>
      if data ≠ [] then do
        let byte ← index data 0
        .ok (.bool (byte ≠ 0))
      else .ok .null
  | 20 =>
      if 8 ≤ data.length then do
        let bytes ← indexRange data 0 8
        .ok (.integer (UInt64.ofNat (bigEndian bytes)).toInt64.toInt)
      else .ok .null
  | 21 =>
      if 2 ≤ data.length then do
        let bytes ← indexRange data 0 2
        .ok (.integer (UInt16.ofNat (bigEndian bytes)).toInt16.toInt)
      else .ok .null
  | 23 =>
      if 4 ≤ data.length then do
        let bytes ← indexRange data 0 4
        .ok (.integer (UInt32.ofNat (bigEndian bytes)).toInt32.toInt)
      else .ok .null
  | 700 =>
      if 4 ≤ data.length then do
        let bytes ← indexRange data 0 4
        .ok (.ofBinary (Binary.ofBits .single (bigEndian bytes)))
      else .ok .null
  | 701 =>
      if 8 ≤ data.length then do
        let bytes ← indexRange data 0 8
        .ok (.ofBinary (Binary.ofBits .double (bigEndian bytes)))
      else .ok .null
  | 2950 =>
      if 16 ≤ data.length then do
        let timeLow ← indexRange data 0 4
        let timeMid ← indexRange data 4 2
        let timeHigh ← indexRange data 6 2
        let clock ← indexRange data 8 2
        let node ← indexRange data 10 6
        .ok (.string (String.ofList (timeLow.flatMap lowerHexByte ++ '-' ::
          timeMid.flatMap lowerHexByte ++ '-' :: timeHigh.flatMap lowerHexByte ++ '-' ::
          clock.flatMap lowerHexByte ++ '-' :: node.flatMap lowerHexByte)))
      else .ok .null
  | _ => .ok (.string ("base64:" ++ crates.encode data))

theorem parsePostgresValue_bool (value : Bool) :
    parsePostgresValue (ε := ε) crates (if value then "t" else "f") 16 = .ok (.bool value) := by
  rw [parsePostgresValue.eq_def]
  cases value <;> rfl

theorem parsePostgresValue_int8 (text : String) :
    parsePostgresValue (ε := ε) crates text 20 = .ok (integerOrText text (parseSigned 64 text)) :=
  parsePostgresValue.eq_def ..

theorem parsePostgresValue_int2 (text : String) :
    parsePostgresValue (ε := ε) crates text 21 = .ok (integerOrText text (parseSigned 16 text)) :=
  parsePostgresValue.eq_def ..

theorem parsePostgresValue_int4 (text : String) :
    parsePostgresValue (ε := ε) crates text 23 = .ok (integerOrText text (parseSigned 32 text)) :=
  parsePostgresValue.eq_def ..

theorem parsePostgresValue_uuid (text : String) :
    parsePostgresValue (ε := ε) crates text 2950 = .ok (.string text) :=
  parsePostgresValue.eq_def ..

theorem parseArrayValue_unbraced {text : String} (start : text.toList.head? ≠ some '\x7b')
    (elementTypeId : UInt32) :
    parseArrayValue (ε := ε) crates text elementTypeId = .ok (.string text) := by
  rw [parseArrayValue, if_pos (.inl start)]

theorem parseArrayValue_braced {text : String} {inner : List Char}
    (shape : text.toList = '\x7b' :: (inner ++ ['\x7d'])) (elementTypeId : UInt32) :
    parseArrayValue (ε := ε) crates text elementTypeId =
      if inner = [] then .ok (.array [])
      else if '"' ∈ inner then .ok (.string text)
      else (inner.splitOn ',').mapM (fun element =>
          if element = "NULL".toList then .ok .null
          else parsePostgresValue crates (String.ofList element) elementTypeId) >>=
        fun elements => .ok (.array elements) := by
  have last : text.toList.getLast? = some '\x7d' := by
    rw [shape, ← List.cons_append, List.getLast?_concat]
  have braces : ¬ (text.toList.head? ≠ some '\x7b' ∨ text.toList.getLast? ≠ some '\x7d') := by
    simp [shape ▸ last, shape]
  rw [parseArrayValue, if_neg braces, shape, Utf8.slice_inner inner (by decide) (by decide),
    Outcome.ok_bind]

theorem parseArrayValue_of_elements {elementTypeId : UInt32}
    (elements : ∀ text, ∃ value, parsePostgresValue (ε := ε) crates text elementTypeId = .ok value)
    (text : String) :
    ∃ value, parseArrayValue (ε := ε) crates text elementTypeId = .ok value := by
  by_cases braces : text.toList.head? ≠ some '\x7b' ∨ text.toList.getLast? ≠ some '\x7d'
  · rw [parseArrayValue, if_pos braces]
    exact ⟨_, rfl⟩
  · simp only [not_or, not_not] at braces
    obtain ⟨rest, opened⟩ := List.head?_eq_some_iff.mp braces.1
    obtain ⟨front, closed⟩ := List.getLast?_eq_some_iff.mp braces.2
    -- one character cannot be both braces, so the text has an inside
    have shape : ∃ inner, text.toList = '\x7b' :: (inner ++ ['\x7d']) := by
      cases front with
      | nil =>
          rw [opened] at closed
          simp at closed
      | cons first inner =>
          rw [opened, List.cons_append] at closed
          obtain ⟨same, tail⟩ := List.cons.inj closed
          exact ⟨inner, by rw [opened, tail]⟩
    obtain ⟨inner, shape⟩ := shape
    rw [parseArrayValue_braced crates shape]
    split
    · exact ⟨_, rfl⟩
    · split
      · exact ⟨_, rfl⟩
      · have total : ∀ element ∈ inner.splitOn ',', ∃ value,
            (if element = "NULL".toList then .ok .null
              else parsePostgresValue crates (String.ofList element) elementTypeId :
              Outcome ε Json) = .ok value := by
          intro element _
          split
          · exact ⟨_, rfl⟩
          · exact elements _
        obtain ⟨values, parsed⟩ := Outcome.mapM_ok total
        exact ⟨.array values, by rw [parsed]; rfl⟩

theorem parsePostgresValue_scalar {typeId : UInt32} (scalar : arrayRank typeId = 0) (text : String) :
    ∃ value, parsePostgresValue (ε := ε) crates text typeId = .ok value := by
  unfold parsePostgresValue
  split
  case h_1 => split <;> exact ⟨_, rfl⟩
  all_goals first
    | exact ⟨_, rfl⟩
    | exact absurd scalar (by decide)

theorem parsePostgresValue_total (text : String) (typeId : UInt32) :
    ∃ value, parsePostgresValue (ε := ε) crates text typeId = .ok value := by
  by_cases scalar : arrayRank typeId = 0
  · exact parsePostgresValue_scalar crates scalar text
  · unfold parsePostgresValue
    split
    case h_1 => split <;> exact ⟨_, rfl⟩
    all_goals first
      | exact ⟨_, rfl⟩
      | exact parseArrayValue_of_elements crates
          (parsePostgresValue_scalar crates (by decide)) text

theorem indexRange_of_le {data : Bytes} {start count : Nat} (within : start + count ≤ data.length) :
    (indexRange data start count : Outcome ε Bytes) = .ok ((data.drop start).take count) := by
  induction count generalizing start with
  | zero => rfl
  | succ count ih =>
      have rest := @ih (start + 1) (by omega)
      have found : data[start]? = some data[start] := List.getElem?_eq_getElem (by omega)
      have read : (index data start : Outcome ε UInt8) = .ok data[start] := by
        rw [index, found]
      unfold indexRange at rest ⊢
      rw [List.range'_succ, List.mapM_cons, read, Outcome.ok_bind, rest, Outcome.ok_bind,
        List.drop_eq_getElem_cons (by omega : start < data.length), List.take_succ_cons]
      rfl

theorem parsePostgresBinaryValue_total (data : Bytes) (typeId : UInt32) :
    ∃ value, parsePostgresBinaryValue (ε := ε) crates data typeId = .ok value := by
  unfold parsePostgresBinaryValue
  split
  case h_1 =>
    split
    · rename_i nonempty
      cases data with
      | nil => contradiction
      | cons byte rest => exact ⟨_, rfl⟩
    · exact ⟨_, rfl⟩
  case h_8 => exact ⟨_, rfl⟩
  all_goals
    split
    · rename_i enough
      repeat rw [indexRange_of_le (by omega), Outcome.ok_bind]
      exact ⟨_, rfl⟩
    · exact ⟨_, rfl⟩

theorem parseArrayValue_total (text : String) (elementTypeId : UInt32) :
    ∃ value, parseArrayValue (ε := ε) crates text elementTypeId = .ok value :=
  parseArrayValue_of_elements crates (fun element => parsePostgresValue_total crates element _) text

/-- Neither text parser slices outside its text or inside a character, and the
binary parser does not index outside its data. -/
theorem valueParsers_return :
    (∀ text typeId, ∃ value, parsePostgresValue (ε := ε) crates text typeId = .ok value) ∧
    (∀ text elementTypeId, ∃ value,
      parseArrayValue (ε := ε) crates text elementTypeId = .ok value) ∧
    (∀ data typeId, ∃ value, parsePostgresBinaryValue (ε := ε) crates data typeId = .ok value) :=
  ⟨parsePostgresValue_total crates, parseArrayValue_total crates, parsePostgresBinaryValue_total crates⟩

end PgCapture.Postgres
