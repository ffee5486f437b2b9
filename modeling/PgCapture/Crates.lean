import PgCapture.Data.Json.KeyOrder
import PgCapture.Data.Cursor

namespace PgCapture

open PgCapture.Data

/-! # The crates that the program calls

The JSON library and the encoder of base64 are not part of the program: they are
parameters of its model, and what is expected of them is said where it is used.
-/

structure Crates where
  /-- `serde_json::from_str` for a value. -/
  fromStr : String → Option Json
  /-- `serde_json::to_string`, for a document with its fields in order. -/
  toString : Json → String
  toStringPretty : Json → String
  /-- The standard encoder of base64, with padding. -/
  encode : Bytes → String

namespace Crates

/-- For runs that leave the crates nothing to read or to print. -/
def idle : Crates where
  fromStr := fun _ => none
  toString := fun _ => ""
  toStringPretty := fun _ => ""
  encode := fun _ => ""

/-- The library keeps the objects of a value as maps. -/
def KeepsMaps (crates : Crates) : Prop :=
  ∀ text value, crates.fromStr text = some value → value.InKeyOrder

end Crates

/-- A consumer's reader finds the document in the text that was printed for it,
    with its fields in order. -/
def ReadsBack (read : String → Option Json) (print : Json → String) (document : Json) : Prop :=
  read (print document) = some document

/-- A reader that knows these documents by their texts. -/
def readerOf (print : Json → String) (documents : List Json) (text : String) : Option Json :=
  documents.find? fun document => print document = text

theorem readsBack_readerOf {print : Json → String} {documents : List Json} {document : Json}
    (member : document ∈ documents)
    (apart : ∀ other ∈ documents, print other = print document → other = document) :
    ReadsBack (readerOf print documents) print document := by
  rw [ReadsBack, readerOf]
  cases found : documents.find? fun other => decide (print other = print document) with
  | none =>
      have unequal := List.find?_eq_none.mp found document member
      simp at unequal
  | some other =>
      have same := List.find?_some found
      rw [apart other (List.mem_of_find?_eq_some found) (of_decide_eq_true same)]

theorem readsBack_only (print : Json → String) (document : Json) :
    ReadsBack (readerOf print [document]) print document :=
  readsBack_readerOf List.mem_cons_self fun _ member _ => List.mem_singleton.mp member

end PgCapture
