import PgCapture.Data.Hex

namespace PgCapture.Postgres

open PgCapture.Data

/-! # WAL positions as text -/

/-- `{:X}/{:X}` of the high and the low half. -/
def formatLsn (lsn : UInt64) : String :=
  String.ofList (Hex.upper (lsn >>> 32).toNat ++ '/' :: Hex.upper (lsn &&& 0xFFFFFFFF).toNat)

def readHalf (digits : List Char) : Option Nat :=
  if digits ≠ [] ∧ digits.length ≤ 8 then Hex.read digits else none

/-- The server's `pg_lsn` reader. -/
def readLsn (text : String) : Option UInt64 :=
  let chars := text.toList
  match chars.dropWhile (· ≠ '/') with
  | [] => none
  | _ :: low => do
      let high ← readHalf (chars.takeWhile (· ≠ '/'))
      let low ← readHalf low
      some (UInt64.ofNat (high * 2 ^ 32 + low))

theorem high_toNat (lsn : UInt64) : (lsn >>> 32).toNat = lsn.toNat / 2 ^ 32 := by
  rw [UInt64.toNat_shiftRight, Nat.shiftRight_eq_div_pow]
  rfl

theorem low_toNat (lsn : UInt64) : (lsn &&& 0xFFFFFFFF).toNat = lsn.toNat % 2 ^ 32 := by
  rw [UInt64.toNat_and]
  exact Nat.and_two_pow_sub_one_eq_mod _ 32

theorem readHalf_upper {value : Nat} (small : value < 2 ^ 32) :
    readHalf (Hex.upper value) = some value := by
  have length : (Hex.upper value).length ≤ 8 := Hex.upper_length_le (by decide) (by omega)
  rw [readHalf, if_pos ⟨Hex.upper_ne_nil value, length⟩, Hex.read_upper]

@[simp] theorem readLsn_formatLsn (lsn : UInt64) : readLsn (formatLsn lsn) = some lsn := by
  have digits : ∀ char ∈ Hex.upper (lsn >>> 32).toNat, (char ≠ '/') = true := by
    intro char member
    have other : char ≠ '/' := by
      intro same
      subst same
      exact Hex.not_mem_upper _ (by decide) member
    simpa using other
  have front : (Hex.upper (lsn >>> 32).toNat ++
      '/' :: Hex.upper (lsn &&& 0xFFFFFFFF).toNat).takeWhile (· ≠ '/') =
        Hex.upper (lsn >>> 32).toNat := by
    rw [List.takeWhile_append_of_pos (by simpa using digits)]
    simp
  have back : (Hex.upper (lsn >>> 32).toNat ++
      '/' :: Hex.upper (lsn &&& 0xFFFFFFFF).toNat).dropWhile (· ≠ '/') =
        '/' :: Hex.upper (lsn &&& 0xFFFFFFFF).toNat := by
    rw [List.dropWhile_append_of_pos (by simpa using digits)]
    simp
  have high := high_toNat lsn
  have low := low_toNat lsn
  have bound := lsn.toNat_lt
  have highSmall : (lsn >>> 32).toNat < 2 ^ 32 := by omega
  have lowSmall : (lsn &&& 0xFFFFFFFF).toNat < 2 ^ 32 := by omega
  have join : (lsn >>> 32).toNat * 2 ^ 32 + (lsn &&& 0xFFFFFFFF).toNat = lsn.toNat := by omega
  simp only [readLsn, formatLsn, String.toList_ofList, front, back, readHalf_upper highSmall,
    readHalf_upper lowSmall, Option.bind_eq_bind, Option.bind_some, join, UInt64.ofNat_toNat]

theorem formatLsn_injective : Function.Injective formatLsn := by
  intro left right same
  have read := congrArg readLsn same
  simpa using read

end PgCapture.Postgres
