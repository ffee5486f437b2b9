import PgCapture.Postgres.Value

namespace PgCapture.Postgres

open PgCapture.Data

/-! # Text and binary output

PostgreSQL sends a value as text or in binary; the two parsers meet at the
same JSON value.
-/

/-- `boolout` -/
def boolOut (value : Bool) : String := if value then "t" else "f"

/-- `boolsend` -/
def boolSend (value : Bool) : Bytes := [if value then 1 else 0]

/-- `int2out`, `int4out` and `int8out`: decimal, with a sign when negative. -/
def intOut (value : Int) : String := toString value

/-- `int2send`, `int4send` and `int8send`: two's complement, the high byte first. -/
def int2Send (value : Int16) : Bytes := putU16 value.toUInt16
def int4Send (value : Int32) : Bytes := putI32 value
def int8Send (value : Int64) : Bytes := putI64 value

structure Uuid where
  bytes : Bytes
  length : bytes.length = 16

/-- Cut digits into groups of the given lengths. -/
def grouped : List Nat → List Char → List (List Char)
  | [], _ => []
  | length :: lengths, digits => digits.take length :: grouped lengths (digits.drop length)

/-- `uuid_out` -/
def uuidOut (uuid : Uuid) : String :=
  String.ofList (['-'].intercalate (grouped [8, 4, 4, 4, 12] (uuid.bytes.flatMap lowerHexByte)))

/-- `uuid_send` -/
def uuidSend (uuid : Uuid) : Bytes := uuid.bytes

theorem parseSigned_of_digits {bits magnitude : Nat} {text : String} {negative : Bool}
    (shape : Binary.splitSign text.toList = (negative, Nat.toDigits 10 magnitude)) :
    parseSigned bits text =
      if negative then if magnitude ≤ 2 ^ (bits - 1) then some (-(magnitude : Int)) else none
      else if magnitude < 2 ^ (bits - 1) then some (magnitude : Int) else none := by
  rw [parseSigned, shape]
  simp only [Binary.decimalValue_toDigits]
  rw [if_pos ⟨Nat.toDigits_ne_nil, Binary.all_isDigit_toDigits magnitude⟩]

/-- A signed type reads back every decimal number in its range. -/
theorem parseSigned_intOut {bits : Nat} {value : Int} (low : -(2 ^ (bits - 1) : Nat) ≤ value)
    (high : value < (2 ^ (bits - 1) : Nat)) : parseSigned bits (intOut value) = some value := by
  cases value with
  | ofNat magnitude =>
      have text : (intOut (.ofNat magnitude)).toList = Nat.toDigits 10 magnitude := Nat.toList_repr
      have small : magnitude < 2 ^ (bits - 1) := Int.ofNat_lt.mp high
      have shape : Binary.splitSign (intOut (.ofNat magnitude)).toList =
          (false, Nat.toDigits 10 magnitude) := by
        rw [text, Binary.splitSign_toDigits]
      rw [parseSigned_of_digits shape, if_neg (by decide), if_pos small]
      rfl
  | negSucc magnitude =>
      have text : (intOut (.negSucc magnitude)).toList = '-' :: Nat.toDigits 10 (magnitude + 1) := by
        rw [intOut, Int.toString_eq_repr, Int.repr, String.toList_append, Nat.toList_repr]
        rfl
      have shape : Binary.splitSign (intOut (.negSucc magnitude)).toList =
          (true, Nat.toDigits 10 (magnitude + 1)) := by
        rw [text]
        rfl
      have small : magnitude + 1 ≤ 2 ^ (bits - 1) := by omega
      rw [parseSigned_of_digits shape, if_pos rfl, if_pos small]
      rfl

/-- Every byte is two digits. -/
theorem take_hexBytes (count : Nat) (bytes : Bytes) :
    (bytes.flatMap lowerHexByte).take (2 * count) = (bytes.take count).flatMap lowerHexByte := by
  induction count generalizing bytes with
  | zero => rfl
  | succ count ih =>
      cases bytes with
      | nil => rfl
      | cons byte bytes =>
          rw [List.take_succ_cons, List.flatMap_cons, List.flatMap_cons, ← ih]
          rfl

theorem drop_hexBytes (count : Nat) (bytes : Bytes) :
    (bytes.flatMap lowerHexByte).drop (2 * count) = (bytes.drop count).flatMap lowerHexByte := by
  induction count generalizing bytes with
  | zero => rfl
  | succ count ih =>
      cases bytes with
      | nil => rfl
      | cons byte bytes =>
          rw [List.drop_succ_cons, List.flatMap_cons, ← ih]
          rfl

theorem indexRange_all {data : Bytes} {count : Nat} (length : data.length = count) :
    (indexRange data 0 count : Outcome ε Bytes) = .ok data := by
  rw [indexRange_of_le (by omega), List.drop_zero, List.take_of_length_le (by omega)]

theorem parseBinary_int2 (value : Int16) :
    parsePostgresBinaryValue (ε := ε) crates (int2Send value) 21 = .ok (.integer value.toInt) := by
  have fits : value.toUInt16.toNat < 256 ^ 2 := value.toUInt16.toNat_lt
  have length : (int2Send value).length = 2 := putU16_length _
  have read : bigEndian (int2Send value) = value.toUInt16.toNat := bigEndian_toBigEndian fits
  simp only [parsePostgresBinaryValue, length, Nat.le_refl, if_true, indexRange_all length,
    Outcome.ok_bind, read, UInt16.ofNat_toNat, Int16.toInt16_toUInt16]

theorem parseBinary_int4 (value : Int32) :
    parsePostgresBinaryValue (ε := ε) crates (int4Send value) 23 = .ok (.integer value.toInt) := by
  have fits : value.toUInt32.toNat < 256 ^ 4 := value.toUInt32.toNat_lt
  have length : (int4Send value).length = 4 := putU32_length _
  have read : bigEndian (int4Send value) = value.toUInt32.toNat := bigEndian_toBigEndian fits
  simp only [parsePostgresBinaryValue, length, Nat.le_refl, if_true, indexRange_all length,
    Outcome.ok_bind, read, UInt32.ofNat_toNat, Int32.toInt32_toUInt32]

theorem parseBinary_int8 (value : Int64) :
    parsePostgresBinaryValue (ε := ε) crates (int8Send value) 20 = .ok (.integer value.toInt) := by
  have fits : value.toUInt64.toNat < 256 ^ 8 := value.toUInt64.toNat_lt
  have length : (int8Send value).length = 8 := putU64_length _
  have read : bigEndian (int8Send value) = value.toUInt64.toNat := bigEndian_toBigEndian fits
  simp only [parsePostgresBinaryValue, length, Nat.le_refl, if_true, indexRange_all length,
    Outcome.ok_bind, read, UInt64.ofNat_toNat, Int64.toInt64_toUInt64]

theorem parseBinary_uuid (uuid : Uuid) :
    parsePostgresBinaryValue (ε := ε) crates (uuidSend uuid) 2950 = .ok (.string (uuidOut uuid)) := by
  obtain ⟨bytes, length⟩ := uuid
  simp only [parsePostgresBinaryValue, uuidSend, length, Nat.le_refl, if_true,
    indexRange_of_le, Nat.reduceAdd, Nat.reduceLeDiff, Outcome.ok_bind]
  have take4 := take_hexBytes 4
  have take2 := take_hexBytes 2
  have take6 := take_hexBytes 6
  have drop4 := drop_hexBytes 4
  have drop2 := drop_hexBytes 2
  simp only [Nat.reduceMul] at take4 take2 take6 drop4 drop2
  simp [uuidOut, grouped, take4, take2, take6, drop4, drop2, List.drop_drop]

variable (crates : Crates)

theorem parseText_int2 (value : Int16) :
    parsePostgresValue (ε := ε) crates (intOut value.toInt) 21 = .ok (.integer value.toInt) := by
  rw [parsePostgresValue_int2, parseSigned_intOut value.le_toInt value.toInt_lt, integerOrText]

theorem parseText_int4 (value : Int32) :
    parsePostgresValue (ε := ε) crates (intOut value.toInt) 23 = .ok (.integer value.toInt) := by
  rw [parsePostgresValue_int4, parseSigned_intOut value.le_toInt value.toInt_lt, integerOrText]

theorem parseText_int8 (value : Int64) :
    parsePostgresValue (ε := ε) crates (intOut value.toInt) 20 = .ok (.integer value.toInt) := by
  rw [parsePostgresValue_int8, parseSigned_intOut value.le_toInt value.toInt_lt, integerOrText]

/-- A value comes out the same in both formats, and an integer exactly. -/
theorem formats_agree :
    (∀ value : Bool, parsePostgresBinaryValue (ε := ε) crates (boolSend value) 16 =
      parsePostgresValue crates (boolOut value) 16) ∧
    (∀ value : Int16,
      parsePostgresBinaryValue (ε := ε) crates (int2Send value) 21 = .ok (.integer value.toInt) ∧
      parsePostgresValue (ε := ε) crates (intOut value.toInt) 21 = .ok (.integer value.toInt)) ∧
    (∀ value : Int32,
      parsePostgresBinaryValue (ε := ε) crates (int4Send value) 23 = .ok (.integer value.toInt) ∧
      parsePostgresValue (ε := ε) crates (intOut value.toInt) 23 = .ok (.integer value.toInt)) ∧
    (∀ value : Int64,
      parsePostgresBinaryValue (ε := ε) crates (int8Send value) 20 = .ok (.integer value.toInt) ∧
      parsePostgresValue (ε := ε) crates (intOut value.toInt) 20 = .ok (.integer value.toInt)) ∧
    (∀ uuid : Uuid, parsePostgresBinaryValue (ε := ε) crates (uuidSend uuid) 2950 =
      parsePostgresValue crates (uuidOut uuid) 2950) := by
  refine ⟨fun value => ?_, fun value => ⟨parseBinary_int2 value, parseText_int2 crates value⟩,
    fun value => ⟨parseBinary_int4 value, parseText_int4 crates value⟩,
    fun value => ⟨parseBinary_int8 value, parseText_int8 crates value⟩, fun uuid => ?_⟩
  · rw [boolOut, parsePostgresValue_bool]
    cases value <;> rfl
  · rw [parseBinary_uuid, parsePostgresValue_uuid]

end PgCapture.Postgres
