import PgCapture.Data.Hex
import PgCapture.Data.Utf8

namespace PgCapture.Data.Percent

/-! # Percent-encoded text

A percent sign and two hexadecimal digits stand for one byte, every other
character for its UTF-8 encoding.  A percent sign without its digits stands for
itself.
-/

def escaped (high low : Char) : Option UInt8 := do
  let high ← Hex.digitValue? high
  let low ← Hex.digitValue? low
  pure (UInt8.ofNat (16 * high + low))

def decode : List Char → Bytes
  | [] => []
  | '%' :: high :: low :: rest =>
      match escaped high low with
      | some byte => byte :: decode rest
      | none => String.utf8EncodeChar '%' ++ decode (high :: low :: rest)
  | char :: rest => String.utf8EncodeChar char ++ decode rest

/-- The bytes of the text if none of its characters is special. -/
def literal (text : List Char) : Bytes := text.flatMap String.utf8EncodeChar

def HasEscape (text : List Char) : Prop :=
  ∃ before high low after byte, text = before ++ '%' :: high :: low :: after ∧
    escaped high low = some byte

theorem literal_cons (char : Char) (text : List Char) :
    literal (char :: text) = String.utf8EncodeChar char ++ literal text := List.flatMap_cons

theorem literal_append (first second : List Char) :
    literal (first ++ second) = literal first ++ literal second := List.flatMap_append

theorem length_encodeChar_pos (char : Char) : 0 < (String.utf8EncodeChar char).length := by
  rw [String.length_utf8EncodeChar]
  exact char.utf8Size_pos

theorem length_literal_cons (char : Char) (text : List Char) :
    (literal text).length < (literal (char :: text)).length := by
  have positive := length_encodeChar_pos char
  rw [literal_cons, List.length_append]
  omega

theorem not_hasEscape_nil : ¬ HasEscape [] := by
  rintro ⟨before, high, low, after, byte, same, _⟩
  simp at same

theorem hasEscape_cons {char : Char} {text : List Char} :
    HasEscape (char :: text) ↔
      (∃ high low after byte, char = '%' ∧ text = high :: low :: after ∧
        escaped high low = some byte) ∨ HasEscape text := by
  constructor
  · rintro ⟨before, high, low, after, byte, same, value⟩
    cases before with
    | nil =>
        obtain ⟨mark, rest⟩ := List.cons.inj same
        exact .inl ⟨high, low, after, byte, mark, rest, value⟩
    | cons first before =>
        exact .inr ⟨before, high, low, after, byte, (List.cons.inj same).2, value⟩
  · rintro (⟨high, low, after, byte, rfl, rfl, value⟩ | ⟨before, high, low, after, byte, rfl, value⟩)
    · exact ⟨[], high, low, after, byte, rfl, value⟩
    · exact ⟨char :: before, high, low, after, byte, rfl, value⟩

/-- A percent sign whose digits are not two hexadecimal ones. -/
theorem hasEscape_cons_of_escaped_eq_none {high low : Char} {rest : List Char}
    (value : escaped high low = none) :
    HasEscape ('%' :: high :: low :: rest) ↔ HasEscape (high :: low :: rest) := by
  rw [hasEscape_cons, or_iff_right]
  rintro ⟨first, second, after, byte, -, same, found⟩
  obtain ⟨rfl, rfl, rfl⟩ : first = high ∧ second = low ∧ after = rest := by simpa [eq_comm] using same
  rw [value] at found
  contradiction

theorem hasEscape_cons_of_other {char : Char} {rest : List Char}
    (other : ∀ high low after, char = '%' → rest = high :: low :: after → False) :
    HasEscape (char :: rest) ↔ HasEscape rest := by
  rw [hasEscape_cons, or_iff_right]
  rintro ⟨high, low, after, byte, mark, same, -⟩
  exact other high low after mark same

theorem length_decode_le (text : List Char) : (decode text).length ≤ (literal text).length := by
  fun_induction decode text with
  | case1 => exact Nat.le_refl _
  | case2 high low rest byte value ih =>
      have first := length_literal_cons '%' (high :: low :: rest)
      have second := length_literal_cons high (low :: rest)
      have third := length_literal_cons low rest
      rw [List.length_cons]
      omega
  | case3 high low rest value ih =>
      rw [literal_cons, List.length_append, List.length_append]
      omega
  | case4 char rest other ih =>
      rw [literal_cons, List.length_append, List.length_append]
      omega

theorem length_decode_lt {text : List Char} (escape : HasEscape text) :
    (decode text).length < (literal text).length := by
  fun_induction decode text with
  | case1 => exact absurd escape not_hasEscape_nil
  | case2 high low rest byte value ih =>
      have shorter := length_decode_le rest
      have first := length_literal_cons '%' (high :: low :: rest)
      have second := length_literal_cons high (low :: rest)
      have third := length_literal_cons low rest
      rw [List.length_cons]
      omega
  | case3 high low rest value ih =>
      have shorter := ih ((hasEscape_cons_of_escaped_eq_none value).mp escape)
      rw [literal_cons, List.length_append, List.length_append]
      omega
  | case4 char rest other ih =>
      have shorter := ih ((hasEscape_cons_of_other other).mp escape)
      rw [literal_cons, List.length_append, List.length_append]
      omega

theorem decode_of_not_hasEscape {text : List Char} (plain : ¬ HasEscape text) :
    decode text = literal text := by
  fun_induction decode text with
  | case1 => rfl
  | case2 high low rest byte value ih =>
      exact absurd ⟨[], high, low, rest, byte, rfl, value⟩ plain
  | case3 high low rest value ih =>
      rw [ih (mt (hasEscape_cons_of_escaped_eq_none value).mpr plain), ← literal_cons]
  | case4 char rest other ih =>
      rw [ih (mt (hasEscape_cons_of_other other).mpr plain), ← literal_cons]

/-- A text without escapes is read back as it is, and no other. -/
theorem decode_eq_literal_iff (text : List Char) :
    decode text = literal text ↔ ¬ HasEscape text := by
  refine ⟨fun same escape => ?_, decode_of_not_hasEscape⟩
  have shorter := length_decode_lt escape
  rw [same] at shorter
  exact Nat.lt_irrefl _ shorter

theorem not_hasEscape_of_not_mem {text : List Char} (unmarked : '%' ∉ text) : ¬ HasEscape text := by
  rintro ⟨before, high, low, after, byte, rfl, -⟩
  exact unmarked (List.mem_append_right _ List.mem_cons_self)

end PgCapture.Data.Percent
