import PgCapture.Data.Binary
import PgCapture.Data.OrderedMap
import Mathlib.Data.String.Basic

namespace PgCapture.Data

/-! # JSON values

The values a JSON library builds: integers are exact, other numbers are finite
floating-point numbers, and the fields of an object are kept in key order.
-/

inductive Json where
  | null
  | bool (value : Bool)
  | integer (value : Int)
  | float (negative : Bool) (significand : Nat) (exponent : Int)
  | string (value : String)
  | array (items : List Json)
  | object (fields : List (String × Json))
deriving Inhabited

namespace Json

/-- JSON has no representation of the other floating-point values. -/
def ofBinary : Binary → Json
  | .finite negative significand exponent => .float negative significand exponent
  | .infinite _ => .null
  | .nan => .null

theorem ofBinary_eq_null {value : Binary} : ofBinary value = .null ↔ ¬ value.IsFinite := by
  cases value with
  | finite negative significand exponent => simp [ofBinary, Binary.IsFinite]
  | infinite negative => simp [ofBinary, Binary.IsFinite]
  | nan => simp [ofBinary, Binary.IsFinite]

/-- An optional value is `null` when it is missing. -/
def optional (toJson : α → Json) : Option α → Json
  | none => .null
  | some value => toJson value

/-- A field of an object; other values have no fields. -/
def get : Json → String → Option Json
  | .object fields, key => OrderedMap.get? key fields
  | _, _ => none

end Json

end PgCapture.Data
