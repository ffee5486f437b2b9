import PgCapture.Postgres.Decoder.Tuple
import PgCapture.Postgres.Decoder.History

namespace PgCapture.Postgres

open PgCapture.Data Cursor

/-! # The shape of a change

An insert carries the new row, a delete the old one and an update the new row
and perhaps the old one; each row is an object over the columns of its relation.
-/

/-- An object whose keys are exactly the names of the columns. -/
def HasColumns (columns : List ColumnInfo) (image : Json) : Prop :=
  ∃ fields, image = .object fields ∧
    ∀ name, name ∈ OrderedMap.keys fields ↔ name ∈ columns.map ColumnInfo.name

def HasShape (columns : List ColumnInfo) (event : ChangeEvent) : Prop :=
  match event.op with
  | .insert => event.before = none ∧ ∃ after, event.after = some after ∧ HasColumns columns after
  | .update =>
      (∀ before, event.before = some before → HasColumns columns before) ∧
        ∃ after, event.after = some after ∧ HasColumns columns after
  | .delete => event.after = none ∧ ∃ before, event.before = some before ∧ HasColumns columns before

/-- The body of an UPDATE with an old tuple and no new tuple behind it. -/
def OldTupleOnly (width : Nat) (body : Bytes) : Prop :=
  ∃ (id : UInt32) (marker : UInt8) (old : WireTuple width) (rest : Bytes),
    body = Tag.update :: (putU32 id ++ marker :: (old.encode ++ rest)) ∧
      (marker = Tag.oldTuple ∨ marker = Tag.keyTuple) ∧ rest.head? ≠ some Tag.newTuple

variable (crates : Crates)

theorem tupleImage_hasColumns {columns : List ColumnInfo} {cells : List WireCell}
    (complete : cells.length = columns.length) :
    HasColumns columns (tupleImage crates columns cells) := by
  refine ⟨_, rfl, ?_⟩
  intro name
  rw [OrderedMap.mem_keys_insertAll, cellEntries_keys crates complete]
  simp [OrderedMap.keys]

theorem update_body_inj {left right : UInt32} {leftTuples rightTuples : Bytes}
    (same : Tag.update :: (putU32 left ++ leftTuples) = Tag.update :: (putU32 right ++ rightTuples)) :
    putU32 left = putU32 right ∧ leftTuples = rightTuples :=
  List.append_inj (List.cons.inj same).2 (by rw [putU32_length, putU32_length])

namespace PgOutputDecoder

theorem newTupleAfterOld_after {columns : List ColumnInfo} {bytes rest : Bytes} {after : Option Json}
    (read : newTupleAfterOld crates columns bytes = .ok (after, rest)) :
    (bytes.head? ≠ some Tag.newTuple ∧ after = none) ∨
      (bytes.head? = some Tag.newTuple ∧ ∃ image, after = some image ∧ HasColumns columns image) := by
  cases bytes with
  | nil =>
      cases read
      exact Or.inl ⟨by simp, rfl⟩
  | cons marker tuple =>
      by_cases isNew : marker = Tag.newTuple
      · subst isNew
        rw [newTupleAfterOld_new] at read
        obtain ⟨image, afterTuple, readTuple, returned⟩ := bind_eq_ok.mp read
        obtain ⟨new, _, rfl⟩ := (decodeTupleData_eq_ok crates).mp readTuple
        cases returned
        exact Or.inr ⟨rfl, _, rfl, tupleImage_hasColumns crates new.complete⟩
      · rw [newTupleAfterOld_other crates isNew] at read
        cases read
        exact Or.inl ⟨by simpa using isNew, rfl⟩

theorem update_shape {columns : List ColumnInfo} {id : UInt32} {tuples rest : Bytes}
    {before after : Option Json} (started : tuples ≠ [])
    (read : updateTuples crates columns tuples = .ok ((before, after), rest)) :
    (∀ image, before = some image → HasColumns columns image) ∧
      ((∃ image, after = some image ∧ HasColumns columns image) ↔
        ¬ OldTupleOnly columns.length (Tag.update :: (putU32 id ++ tuples))) := by
  cases tuples with
  | nil => contradiction
  | cons marker tuples =>
      rcases marker_cases marker with isOld | rfl | ⟨notOld, notNew⟩
      · rw [updateTuples_old crates isOld] at read
        obtain ⟨oldImage, afterOld, readOld, inNew⟩ := bind_eq_ok.mp read
        obtain ⟨newImage, afterNew, readNew, returned⟩ := bind_eq_ok.mp inNew
        obtain ⟨old, rfl, rfl⟩ := (decodeTupleData_eq_ok crates).mp readOld
        cases returned
        refine ⟨fun image same => Option.some.inj same ▸ tupleImage_hasColumns crates old.complete, ?_⟩
        rcases newTupleAfterOld_after crates readNew with ⟨noNew, rfl⟩ | ⟨isNew, image, rfl, columned⟩
        · have oldOnly : OldTupleOnly columns.length
              (Tag.update :: (putU32 id ++ marker :: (old.encode ++ afterOld))) :=
            ⟨id, marker, old, afterOld, rfl, isOld, noNew⟩
          simp [oldOnly]
        · refine iff_of_true ⟨image, rfl, columned⟩ ?_
          intro oldOnly
          obtain ⟨otherId, otherMarker, other, otherRest, shape, _, noNew⟩ := oldOnly
          have tuples := (List.cons.inj (update_body_inj shape).2).2
          exact noNew (WireTuple.encode_append_cancel tuples ▸ isNew)
      · rw [updateTuples_new] at read
        obtain ⟨image, afterNew, readNew, returned⟩ := bind_eq_ok.mp read
        obtain ⟨new, rfl, rfl⟩ := (decodeTupleData_eq_ok crates).mp readNew
        cases returned
        refine ⟨fun image impossible => by contradiction, iff_of_true ⟨_, rfl, ?_⟩ ?_⟩
        · exact tupleImage_hasColumns crates new.complete
        · intro oldOnly
          obtain ⟨otherId, otherMarker, other, otherRest, shape, isOld, _⟩ := oldOnly
          obtain ⟨rfl, _⟩ := List.cons.inj (update_body_inj shape).2
          exact absurd isOld (by decide)
      · rw [updateTuples_unknown crates notOld notNew] at read
        contradiction

theorem decodeUpdate_started {self : PgOutputDecoder} {clock : Clock} {cursor : Bytes}
    {answer : Option DecodedMessage}
    (decoded : (self.decodeUpdate crates clock).run cursor = .ok answer) : 5 ≤ cursor.length := by
  rw [decodeUpdate, run_bind_of_ok (remaining_apply cursor)] at decoded
  split at decoded
  · contradiction
  · rename_i long
    exact Nat.le_of_not_lt long

end PgOutputDecoder

/-- INSERT and DELETE read one tuple behind the relation id and a marker. -/
theorem oneTuple_columns {columns : List ColumnInfo} {cursor : Bytes} {row : Json → RowImages}
    {result : RowImages}
    (read : (do
      let _relId ← getU32
      let _tupleType ← getU8
      let tuple ← decodeTupleData crates columns
      pure (row tuple) : Cursor Error RowImages).run cursor = .ok result) :
    ∃ image, result = row image ∧ HasColumns columns image := by
  obtain ⟨rest, accepted⟩ := run_eq_ok.mp read
  obtain ⟨id, afterId, _, inType⟩ := bind_eq_ok.mp accepted
  obtain ⟨marker, afterType, _, inTuple⟩ := bind_eq_ok.mp inType
  obtain ⟨image, afterTuple, readTuple, returned⟩ := bind_eq_ok.mp inTuple
  obtain ⟨tuple, _, rfl⟩ := (decodeTupleData_eq_ok crates).mp readTuple
  cases returned
  exact ⟨_, rfl, tupleImage_hasColumns crates tuple.complete⟩

theorem updateImages_columns {columns : List ColumnInfo} {cursor : Bytes} {row : RowImages}
    (started : 5 ≤ cursor.length) (read : (updateImages crates columns).run cursor = .ok row) :
    ∃ before after, row = ⟨.update, before, after⟩ ∧
      (∀ image, before = some image → HasColumns columns image) ∧
      ((∃ image, after = some image ∧ HasColumns columns image) ↔
        ¬ OldTupleOnly columns.length (Tag.update :: cursor)) := by
  obtain ⟨rest, accepted⟩ := run_eq_ok.mp read
  obtain ⟨id, tuples, readId, inTuples⟩ := bind_eq_ok.mp accepted
  obtain ⟨images, afterTuples, readTuples, returned⟩ := bind_eq_ok.mp inTuples
  obtain ⟨before, after⟩ := images
  obtain rfl := getU32_eq_ok.mp readId
  cases returned
  have nonempty : tuples ≠ [] := by
    intro empty
    rw [empty, List.append_nil, putU32_length] at started
    omega
  exact ⟨before, after, rfl, PgOutputDecoder.update_shape crates nonempty readTuples⟩

theorem not_oldTupleOnly {width : Nat} {msgType : UInt8} (notUpdate : msgType ≠ Tag.update)
    (cursor : Bytes) : ¬ OldTupleOnly width (msgType :: cursor) := by
  intro oldOnly
  obtain ⟨id, marker, old, rest, shape, _, _⟩ := oldOnly
  exact notUpdate (List.cons.inj shape).1

/-- A change has the shape of its operation unless it is an update without a
    new row. -/
theorem decode_hasShape_iff {self : PgOutputDecoder} {clock : Clock} {data : Bytes} {event : ChangeEvent}
    (decoded : (self.decode crates clock data).1 = .ok (some (.change event))) :
    ∃ endLsn body id relation, xLogData? data = some (endLsn, body) ∧
      rowRelationId? data = some id ∧ self.relations id = some relation ∧
      (HasShape relation.columns event ↔ ¬ OldTupleOnly relation.columns.length body) := by
  obtain ⟨endLsn, body, id, relation, row, headed, named, known, images, rfl⟩ :=
    decode_change crates decoded
  refine ⟨endLsn, body, id, relation, headed, named, known, ?_⟩
  cases body with
  | nil => simp [rowImages, headed] at images
  | cons msgType cursor =>
      simp only [rowImages, headed] at images
      split at images
      · rename_i isInsert
        obtain ⟨image, rfl, columned⟩ :=
          oneTuple_columns crates (Outcome.toOption_eq_some.mp images)
        refine iff_of_true ⟨rfl, image, rfl, columned⟩ (not_oldTupleOnly ?_ cursor)
        rw [isInsert]
        decide
      · split at images
        · rename_i isUpdate
          subst isUpdate
          rw [decode_headed crates headed, PgOutputDecoder.decodeBody_update] at decoded
          obtain ⟨before, after, rfl, oldColumns, newColumns⟩ :=
            updateImages_columns crates (PgOutputDecoder.decodeUpdate_started crates decoded)
              (Outcome.toOption_eq_some.mp images)
          rw [← newColumns]
          exact and_iff_right oldColumns
        · split at images
          · rename_i isDelete
            obtain ⟨image, rfl, columned⟩ :=
              oneTuple_columns crates (Outcome.toOption_eq_some.mp images)
            refine iff_of_true ⟨rfl, image, rfl, columned⟩ (not_oldTupleOnly ?_ cursor)
            rw [isDelete]
            decide
          · contradiction

/-- A decoder that knows one table with the one column `id`. -/
def knowsOne : PgOutputDecoder :=
  ((PgOutputDecoder.new "db").decode .idle ⟨0, 0⟩
    (Tag.xLogData :: List.replicate 24 0 ++ [Tag.relation, 0, 0, 0, 7, 1, 0x73, 1, 0x74, 0x64, 0, 1,
      1, 2, 0x69, 0x64, 0, 0, 0, 23, 0, 0, 0, 0])).2

def keyOnlyUpdate : Bytes :=
  Tag.xLogData :: List.replicate 24 0 ++
    [Tag.update, 0, 0, 0, 7, Tag.keyTuple, 0, 1, Tag.binaryCell, 0, 0, 0, 4, 0, 0, 0, 5]

theorem keyOnlyUpdate_shape :
    ∃ event endLsn body id relation, xLogData? keyOnlyUpdate = some (endLsn, body) ∧
      rowRelationId? keyOnlyUpdate = some id ∧ knowsOne.relations id = some relation ∧
      (HasShape relation.columns event ↔ ¬ OldTupleOnly relation.columns.length body) :=
  ⟨_, decode_hasShape_iff .idle
    (rfl : (knowsOne.decode .idle ⟨1, 1⟩ keyOnlyUpdate).1 = .ok (some (.change _)))⟩

theorem keyOnlyUpdate_without_after :
    ∃ event, (knowsOne.decode .idle ⟨1, 1⟩ keyOnlyUpdate).1 = .ok (some (.change event)) ∧
      event.op = .update ∧ event.after = none :=
  ⟨_, rfl, rfl, rfl⟩

end PgCapture.Postgres
