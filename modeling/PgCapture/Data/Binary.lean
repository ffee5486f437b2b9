import Mathlib.Algebra.Order.Ring.Nat
import Mathlib.Data.Nat.Log

namespace PgCapture.Data

/-! # Binary floating-point numbers

A finite number is its sign and its value `significand * 2 ^ exponent`, with an
odd significand unless it is zero, so that a number has one representation in
every format that contains it.
-/

inductive Binary where
  | finite (negative : Bool) (significand : Nat) (exponent : Int)
  | infinite (negative : Bool)
  | nan
deriving DecidableEq, Repr

namespace Binary

def IsFinite : Binary → Prop
  | .finite _ _ _ => True
  | .infinite _ => False
  | .nan => False

/-- Move factors of two from the significand into the exponent. -/
def normalize (negative : Bool) : Nat → Nat → Int → Binary
  | _, 0, _ => .finite negative 0 0
  | 0, significand, exponent => .finite negative significand exponent
  | fuel + 1, significand, exponent =>
      if significand % 2 = 0 then normalize negative fuel (significand / 2) (exponent + 1)
      else .finite negative significand exponent

/-- An interchange format: a significand of `precision` bits, and exponents of
its last bit between `least` and `greatest`. -/
structure Format where
  precision : Nat
  exponentBits : Nat
  least : Int
  greatest : Int
deriving DecidableEq, Repr

def Format.single : Format := ⟨24, 8, -149, 104⟩
def Format.double : Format := ⟨53, 11, -1074, 971⟩

def ofBits (format : Format) (bits : Nat) : Binary :=
  let fraction := bits % 2 ^ (format.precision - 1)
  let biased := bits / 2 ^ (format.precision - 1) % 2 ^ format.exponentBits
  let negative := bits / 2 ^ (format.precision - 1 + format.exponentBits) % 2 = 1
  if biased = 2 ^ format.exponentBits - 1 then
    if fraction = 0 then .infinite negative else .nan
  else if biased = 0 then normalize negative format.precision fraction format.least
  else normalize negative format.precision (2 ^ (format.precision - 1) + fraction)
    (format.least + (biased - 1 : Nat))

/-- `numerator / denominator` in units of `2 ^ exponent`, rounded to nearest
with ties to even. -/
def roundAt (numerator denominator : Nat) (exponent : Int) : Nat :=
  let numerator := numerator * 2 ^ (-exponent).toNat
  let denominator := denominator * 2 ^ exponent.toNat
  let quotient := numerator / denominator
  let twice := 2 * (numerator % denominator)
  if denominator < twice ∨ (twice = denominator ∧ quotient % 2 = 1) then quotient + 1 else quotient

/-- The exponent of the last bit of a positive number in a format: its leading
bit fills the precision, unless the number is subnormal. -/
def lastBit (format : Format) (numerator denominator : Nat) : Int :=
  let estimate : Int := (Nat.log2 numerator : Int) - Nat.log2 denominator - format.precision
  let fits := numerator * 2 ^ (-estimate).toNat <
    2 ^ format.precision * (denominator * 2 ^ estimate.toNat)
  max format.least (if fits then estimate else estimate + 1)

def round (format : Format) (negative : Bool) (numerator denominator : Nat) : Binary :=
  if numerator = 0 then .finite negative 0 0
  else
    let exponent := lastBit format numerator denominator
    let significand := roundAt numerator denominator exponent
    if format.greatest < exponent ∨
        (exponent = format.greatest ∧ significand = 2 ^ format.precision) then .infinite negative
    else normalize negative (format.precision + 1) significand exponent

/-- The nearest number of a format to `significand * 10 ^ exponent`.  Beyond
four hundred decimal places every supported format has overflowed or underflowed. -/
def ofDecimal (format : Format) (negative : Bool) (significand : Nat) (exponent : Int) : Binary :=
  let magnitude := exponent + (Nat.log 10 significand : Int)
  if significand = 0 then .finite negative 0 0
  else if 400 < magnitude then .infinite negative
  else if magnitude < -400 then .finite negative 0 0
  else round format negative (significand * 10 ^ exponent.toNat) (10 ^ (-exponent).toNat)

def decimalValue (digits : List Char) : Nat :=
  digits.foldl (fun value digit => value * 10 + (digit.toNat - 48)) 0

def splitSign : List Char → Bool × List Char
  | '-' :: rest => (true, rest)
  | '+' :: rest => (false, rest)
  | rest => (false, rest)

theorem decimalValue_toDigits (value : Nat) : decimalValue (Nat.toDigits 10 value) = value := by
  have read := Nat.ofDigitChars_ten_toDigits (n := value)
  simp only [Nat.ofDigitChars_eq_foldl, Nat.mul_comm 10] at read
  exact read

theorem all_isDigit_toDigits (value : Nat) : (Nat.toDigits 10 value).all Char.isDigit := by
  rw [List.all_eq_true]
  intro digit member
  exact Nat.isDigit_of_mem_toDigits (by decide) (by decide) member

theorem not_mem_toDigits {char : Char} (other : char.isDigit = false) (value : Nat) :
    char ∉ Nat.toDigits 10 value := by
  intro member
  have digit := List.all_eq_true.mp (all_isDigit_toDigits value) char member
  rw [other] at digit
  contradiction

theorem splitSign_of_unsigned {text : List Char} (minus : '-' ∉ text) (plus : '+' ∉ text) :
    splitSign text = (false, text) := by
  unfold splitSign
  split
  · exact absurd List.mem_cons_self minus
  · exact absurd List.mem_cons_self plus
  · rfl

theorem splitSign_toDigits (value : Nat) :
    splitSign (Nat.toDigits 10 value) = (false, Nat.toDigits 10 value) := by
  apply splitSign_of_unsigned
  · exact not_mem_toDigits (by decide) value
  · exact not_mem_toDigits (by decide) value

def parseExponent : List Char → Option Int
  | [] => some 0
  | mark :: rest =>
      let (negative, digits) := splitSign rest
      if (mark = 'e' ∨ mark = 'E') ∧ digits ≠ [] ∧ digits.all Char.isDigit then
        some (if negative then -(decimalValue digits : Int) else decimalValue digits)
      else none

def parseNumber (format : Format) (negative : Bool) (text : List Char) : Option Binary :=
  let whole := text.takeWhile Char.isDigit
  let rest := text.dropWhile Char.isDigit
  let (fraction, rest) := match rest with
    | '.' :: rest => (rest.takeWhile Char.isDigit, rest.dropWhile Char.isDigit)
    | rest => ([], rest)
  if whole = [] ∧ fraction = [] then none
  else (parseExponent rest).map fun exponent =>
    ofDecimal format negative (decimalValue (whole ++ fraction)) (exponent - fraction.length)

/-- The grammar of `f32::from_str` and `f64::from_str`. -/
def parse (format : Format) (text : String) : Option Binary :=
  let (negative, rest) := splitSign text.toList
  match String.ofList (rest.map Char.toLower) with
  | "nan" => some .nan
  | "inf" => some (.infinite negative)
  | "infinity" => some (.infinite negative)
  | _ => parseNumber format negative rest

example : parse .double "0.1" = some (ofBits .double 0x3FB999999999999A) := by decide +kernel
example : parse .single "-3.4028236e38" = some (.infinite true) := by decide +kernel

end Binary

end PgCapture.Data
