import PgCapture.Data.Json.KeyOrder
import PgCapture.Postgres.Decoder.Tuple
import PgCapture.Postgres.Decoder.History

namespace PgCapture.Postgres

open PgCapture.Data Cursor

/-! # The images of a change as JSON values

Whatever bytes a row has, its images are values of the JSON library, which keeps
objects as maps.  For columns of type json and jsonb this rests on the library's
own reader.
-/

theorem integerOrText_inKeyOrder (text : String) (value : Option Int) :
    (integerOrText text value).InKeyOrder := by
  cases value <;> rfl

theorem floatOrText_inKeyOrder (text : String) (value : Option Binary) :
    (floatOrText text value).InKeyOrder := by
  cases value with
  | none => rfl
  | some number => cases number <;> rfl

variable {crates : Crates}

theorem jsonOrText_inKeyOrder (maps : crates.KeepsMaps) (text : String) :
    ((crates.fromStr text).getD (.string text)).InKeyOrder := by
  cases found : crates.fromStr text with
  | none => rfl
  | some value => exact maps text value found

theorem parseArrayValue_inKeyOrder {elementTypeId : UInt32}
    (elements : ∀ text value,
      parsePostgresValue (ε := ε) crates text elementTypeId = .ok value → value.InKeyOrder)
    {text : String} {value : Json}
    (parsed : parseArrayValue (ε := ε) crates text elementTypeId = .ok value) : value.InKeyOrder := by
  rw [parseArrayValue] at parsed
  split at parsed
  · cases parsed
    rfl
  · obtain ⟨inner, _, afterSlice⟩ := Outcome.bind_eq_ok.mp parsed
    split at afterSlice
    · cases afterSlice
      rfl
    · split at afterSlice
      · cases afterSlice
        rfl
      · obtain ⟨items, mapped, returned⟩ := Outcome.bind_eq_ok.mp afterSlice
        cases returned
        apply Json.InKeyOrder.array
        intro item member
        obtain ⟨element, _, made⟩ := Outcome.mem_of_mapM_eq_ok mapped member
        split at made
        · cases made
          rfl
        · exact elements _ item made

theorem parsePostgresValue_scalar_inKeyOrder (maps : crates.KeepsMaps) {typeId : UInt32}
    (scalar : arrayRank typeId = 0) (text : String) (value : Json)
    (parsed : parsePostgresValue (ε := ε) crates text typeId = .ok value) : value.InKeyOrder := by
  unfold parsePostgresValue at parsed
  split at parsed
  case h_1 =>
    split at parsed
    all_goals
      cases parsed
      rfl
  all_goals first
    | exact absurd scalar (by decide)
    | (cases parsed
       first
         | rfl
         | exact floatOrText_inKeyOrder _ _
         | exact jsonOrText_inKeyOrder maps _
         | exact integerOrText_inKeyOrder _ _)

theorem parsePostgresValue_inKeyOrder (maps : crates.KeepsMaps) {text : String} {typeId : UInt32}
    {value : Json} (parsed : parsePostgresValue (ε := ε) crates text typeId = .ok value) :
    value.InKeyOrder := by
  by_cases scalar : arrayRank typeId = 0
  · exact parsePostgresValue_scalar_inKeyOrder maps scalar text value parsed
  · unfold parsePostgresValue at parsed
    split at parsed
    all_goals first
      | exact absurd (by decide) scalar
      | exact parseArrayValue_inKeyOrder (parsePostgresValue_scalar_inKeyOrder maps (by decide)) parsed
      | (cases parsed
         rfl)

theorem parsePostgresBinaryValue_inKeyOrder {data : Bytes} {typeId : UInt32} {value : Json}
    (parsed : parsePostgresBinaryValue (ε := ε) crates data typeId = .ok value) : value.InKeyOrder := by
  unfold parsePostgresBinaryValue at parsed
  split at parsed
  case h_8 =>
    cases parsed
    rfl
  all_goals
    split at parsed
    case isFalse =>
      cases parsed
      rfl
    obtain ⟨bytes, _, returned⟩ := Outcome.bind_eq_ok.mp parsed
  case h_5 =>
    cases returned
    generalize Binary.ofBits .single (bigEndian bytes) = number
    cases number <;> rfl
  case h_6 =>
    cases returned
    generalize Binary.ofBits .double (bigEndian bytes) = number
    cases number <;> rfl
  case h_7 =>
    -- the parts of a UUID behind the first
    obtain ⟨_, _, returned⟩ := Outcome.bind_eq_ok.mp returned
    obtain ⟨_, _, returned⟩ := Outcome.bind_eq_ok.mp returned
    obtain ⟨_, _, returned⟩ := Outcome.bind_eq_ok.mp returned
    obtain ⟨_, _, returned⟩ := Outcome.bind_eq_ok.mp returned
    cases returned
    rfl
  all_goals
    cases returned
    rfl

theorem WireCell.json_inKeyOrder (maps : crates.KeepsMaps) (column : ColumnInfo) (cell : WireCell) :
    (cell.json crates column).InKeyOrder := by
  have value := cell.value_eq crates column
  cases cell with
  | null => rfl
  | text length bytes sized => exact parsePostgresValue_inKeyOrder maps value
  | binary length bytes sized =>
      rw [WireCell.value] at value
      split at value
      · exact parsePostgresBinaryValue_inKeyOrder value
      · rw [← Outcome.ok.inj value]
        rfl

theorem tupleImage_inKeyOrder (maps : crates.KeepsMaps) (columns : List ColumnInfo)
    (cells : List WireCell) : (tupleImage crates columns cells).InKeyOrder := by
  apply Json.InKeyOrder.object
  · exact OrderedMap.insertAll_sorted _ List.Pairwise.nil
  · intro field member
    obtain ⟨pair, _, rfl⟩ := List.mem_map.mp ((OrderedMap.mem_of_mem_insertAll member).resolve_right List.not_mem_nil)
    exact pair.2.json_inKeyOrder maps pair.1

section Tuples

variable {P : Json → Prop} {columns : List ColumnInfo}
  (tuples : ∀ cells, P (tupleImage crates columns cells))
include tuples

theorem decodeTupleData_of_tuples {bytes rest : Bytes} {image : Json}
    (read : decodeTupleData crates columns bytes = .ok (image, rest)) : P image := by
  obtain ⟨tuple, _, rfl⟩ := (decodeTupleData_eq_ok crates).mp read
  exact tuples tuple.cells

theorem newTupleAfterOld_of_tuples {bytes rest : Bytes} {after : Option Json}
    (read : PgOutputDecoder.newTupleAfterOld crates columns bytes = .ok (after, rest))
    (image : Json) (found : after = some image) : P image := by
  cases bytes with
  | nil =>
      rw [PgOutputDecoder.newTupleAfterOld_nil] at read
      cases read
      contradiction
  | cons marker tuple =>
      by_cases isNew : marker = Tag.newTuple
      · subst isNew
        rw [PgOutputDecoder.newTupleAfterOld_new] at read
        obtain ⟨new, rest, readNew, returned⟩ := bind_eq_ok.mp read
        cases returned
        cases found
        exact decodeTupleData_of_tuples tuples readNew
      · rw [PgOutputDecoder.newTupleAfterOld_other crates isNew] at read
        cases read
        contradiction

theorem updateTuples_of_tuples {bytes rest : Bytes} {before after : Option Json}
    (read : PgOutputDecoder.updateTuples crates columns bytes = .ok ((before, after), rest))
    (image : Json) (found : before = some image ∨ after = some image) : P image := by
  cases bytes with
  | nil =>
      cases read
      simp at found
  | cons marker tuple =>
      rcases PgOutputDecoder.marker_cases marker with isOld | rfl | ⟨notOld, notNew⟩
      · rw [PgOutputDecoder.updateTuples_old crates isOld] at read
        obtain ⟨old, afterOld, readOld, inNew⟩ := bind_eq_ok.mp read
        obtain ⟨new, afterNew, readNew, returned⟩ := bind_eq_ok.mp inNew
        cases returned
        rcases found with same | same
        · cases same
          exact decodeTupleData_of_tuples tuples readOld
        · exact newTupleAfterOld_of_tuples tuples readNew image same
      · rw [PgOutputDecoder.updateTuples_new] at read
        obtain ⟨new, afterNew, readNew, returned⟩ := bind_eq_ok.mp read
        cases returned
        rcases found with same | same
        · contradiction
        · cases same
          exact decodeTupleData_of_tuples tuples readNew
      · rw [PgOutputDecoder.updateTuples_unknown crates notOld notNew] at read
        contradiction

/-- INSERT and DELETE put their one tuple on either side. -/
theorem oneTuple_of_tuples {cursor : Bytes} {row : Json → RowImages} {result : RowImages}
    (read : (do
      let _relId ← getU32
      let _tupleType ← getU8
      let tuple ← decodeTupleData crates columns
      pure (row tuple) : Cursor Error RowImages).run cursor = .ok result) :
    ∃ image, result = row image ∧ P image := by
  obtain ⟨rest, accepted⟩ := run_eq_ok.mp read
  obtain ⟨_, _, _, inType⟩ := bind_eq_ok.mp accepted
  obtain ⟨_, _, _, inTuple⟩ := bind_eq_ok.mp inType
  obtain ⟨image, _, readTuple, returned⟩ := bind_eq_ok.mp inTuple
  cases returned
  exact ⟨image, rfl, decodeTupleData_of_tuples tuples readTuple⟩

/-- What every decoded tuple is, the images of a decoded row are. -/
theorem rowImages_of_tuples {data : Bytes} {row : RowImages}
    (images : rowImages crates columns data = some row) (image : Json)
    (found : row.before = some image ∨ row.after = some image) : P image := by
  unfold rowImages at images
  split at images
  · split at images
    · obtain ⟨new, rfl, holds⟩ := oneTuple_of_tuples tuples (Outcome.toOption_eq_some.mp images)
      rcases found with same | same
      · contradiction
      · cases same
        exact holds
    · split at images
      · obtain ⟨rest, accepted⟩ := run_eq_ok.mp (Outcome.toOption_eq_some.mp images)
        obtain ⟨_, _, _, inTuples⟩ := bind_eq_ok.mp accepted
        obtain ⟨⟨before, after⟩, _, readTuples, returned⟩ := bind_eq_ok.mp inTuples
        cases returned
        exact updateTuples_of_tuples tuples readTuples image found
      · split at images
        · obtain ⟨old, rfl, holds⟩ := oneTuple_of_tuples tuples (Outcome.toOption_eq_some.mp images)
          rcases found with same | same
          · cases same
            exact holds
          · contradiction
        · contradiction
  · contradiction

end Tuples

/-- A decoded change has objects of the library as its images. -/
theorem decode_images {self : PgOutputDecoder} {clock : Clock} {data : Bytes} {event : ChangeEvent}
    (maps : crates.KeepsMaps)
    (decoded : (self.decode crates clock data).1 = .ok (some (.change event))) (image : Json)
    (found : event.before = some image ∨ event.after = some image) :
    image.InKeyOrder ∧ image ≠ .null := by
  obtain ⟨endLsn, body, id, relation, row, _, _, _, images, rfl⟩ := decode_change crates decoded
  refine rowImages_of_tuples (P := fun image => image.InKeyOrder ∧ image ≠ .null) ?_ images image found
  intro cells
  refine ⟨tupleImage_inKeyOrder maps relation.columns cells, ?_⟩
  intro impossible
  cases impossible

end PgCapture.Postgres
