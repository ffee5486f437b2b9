import Mathlib.Data.Nat.Digits.Defs
import Mathlib.Data.Nat.Digits.Lemmas

namespace PgCapture.Data.Hex

/-! # Hexadecimal numbers as text

Upper-case digits without leading zeros, as `{:X}` prints them, and the reader
that undoes the printing.
-/

def upperDigit (digit : Nat) : Char :=
  if digit < 10 then Char.ofNat (48 + digit) else Char.ofNat (55 + digit)

def lowerDigit (digit : Nat) : Char :=
  if digit < 10 then Char.ofNat (48 + digit) else Char.ofNat (87 + digit)

/-- The digits of a number; zero has one digit. -/
def upper (value : Nat) : List Char :=
  if value = 0 then ['0'] else ((Nat.digits 16 value).map upperDigit).reverse

def digitValue? (char : Char) : Option Nat :=
  if '0' ≤ char ∧ char ≤ '9' then some (char.toNat - 48)
  else if 'A' ≤ char ∧ char ≤ 'F' then some (char.toNat - 55)
  else if 'a' ≤ char ∧ char ≤ 'f' then some (char.toNat - 87)
  else none

/-- The number a string of hexadecimal digits of either case spells. -/
def read (chars : List Char) : Option Nat :=
  chars.foldlM (fun value char => (digitValue? char).map (value * 16 + ·)) 0

theorem digitValue_upperDigit {digit : Nat} (small : digit < 16) :
    digitValue? (upperDigit digit) = some digit := by
  interval_cases digit <;> decide

theorem read_append_digit (chars : List Char) (char : Char) :
    read (chars ++ [char]) =
      (read chars).bind fun value => (digitValue? char).map (value * 16 + ·) := by
  simp [read, List.foldlM_append]

theorem read_upper_digits (digits : List Nat) (small : ∀ digit ∈ digits, digit < 16) :
    read (digits.map upperDigit).reverse = some (Nat.ofDigits 16 digits) := by
  induction digits with
  | nil => rfl
  | cons digit digits ih =>
      have rest := ih (fun other member => small other (List.mem_cons_of_mem _ member))
      rw [List.map_cons, List.reverse_cons, read_append_digit, rest,
        digitValue_upperDigit (small digit List.mem_cons_self), Nat.ofDigits_cons]
      simp only [Option.bind_some, Option.map_some, Option.some.injEq]
      omega

@[simp] theorem read_upper (value : Nat) : read (upper value) = some value := by
  by_cases zero : value = 0
  · subst zero
    decide
  · rw [upper, if_neg zero, read_upper_digits _ (fun digit member =>
      Nat.digits_lt_base (by decide) member), Nat.ofDigits_digits]

theorem upper_ne_nil (value : Nat) : upper value ≠ [] := by
  intro empty
  have values := congrArg read empty
  rw [read_upper] at values
  cases values
  simp [upper] at empty

theorem upper_length_le {value width : Nat} (positive : 0 < width) (small : value < 16 ^ width) :
    (upper value).length ≤ width := by
  by_cases zero : value = 0
  · rw [upper, if_pos zero]
    exact positive
  · rw [upper, if_neg zero, List.length_reverse, List.length_map]
    exact (Nat.digits_length_le_iff (by decide) value).mpr small

theorem upperDigit_ne {digit : Nat} (small : digit < 16) {char : Char}
    (other : digitValue? char = none) : upperDigit digit ≠ char := by
  intro same
  have value := digitValue_upperDigit small
  rw [same, other] at value
  contradiction

theorem not_mem_upper (value : Nat) {char : Char} (other : digitValue? char = none) :
    char ∉ upper value := by
  by_cases zero : value = 0
  · intro member
    simp only [upper, zero, if_true, List.mem_singleton] at member
    subst member
    exact absurd other (by decide)
  · rw [upper, if_neg zero, List.mem_reverse, List.mem_map]
    intro found
    obtain ⟨digit, member, same⟩ := found
    exact upperDigit_ne (Nat.digits_lt_base (by decide) member) other same

end PgCapture.Data.Hex
