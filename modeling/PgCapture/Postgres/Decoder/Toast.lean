import PgCapture.Postgres.Decoder.RoundTrip
import PgCapture.Postgres.Decoder.Tuple

namespace PgCapture.Postgres

open PgCapture.Data Cursor

/-! # Rows with unchanged columns

The protocol sends a column in one of three ways: as NULL, as text, or, when a
value stored out of line was not touched, as a mark without a value.  The
decoder has no branch for the mark.
-/

/-- A cell of the protocol's tuple. -/
inductive PgCell where
  | null
  | unchanged
  | text (bytes : Bytes) (fits : bytes.length < 2 ^ 31)

namespace PgCell

def encode : PgCell → Bytes
  | null => [0x6E]
  | unchanged => [0x75]
  | text bytes _ => 0x74 :: (putI32 (Int32.ofNat bytes.length) ++ bytes)

variable (crates : Crates)

/-- What a cell says about its column; the mark says nothing. -/
def value (column : ColumnInfo) : PgCell → Option (Outcome Error Json)
  | null => some (.ok .null)
  | unchanged => none
  | text bytes _ => some (parsePostgresValue crates (Utf8.fromUtf8Lossy bytes) column.typeId)

end PgCell

/-- The protocol's tuple for a relation of `width` columns. -/
structure PgTuple (width : Nat) where
  cells : List PgCell
  complete : cells.length = width
  fits : width < 2 ^ 16

def PgTuple.encode {width : Nat} (tuple : PgTuple width) : Bytes :=
  putU16 (UInt16.ofNat tuple.cells.length) ++ tuple.cells.flatMap PgCell.encode

def putOld {width : Nat} : Option (OldTupleKind × PgTuple width) → Bytes
  | some (kind, old) => kind.tag :: old.encode
  | none => []

/-- The body of an UPDATE, with or without the old tuple. -/
def updateBody {width : Nat} (id : UInt32) (old : Option (OldTupleKind × PgTuple width))
    (new : PgTuple width) : Bytes :=
  Tag.update :: (putU32 id ++ (putOld old ++ Tag.newTuple :: new.encode))

variable (crates : Crates)

/-- Every column that came with a value has that value. -/
def KeepsValues (columns : List ColumnInfo) (cells : List PgCell) (image : Json) : Prop :=
  ∃ fields, image = .object fields ∧ ∀ pair ∈ columns.zip cells, ∀ value,
    pair.2.value crates pair.1 = some value →
      ∃ json, value = .ok json ∧ OrderedMap.get? pair.1.name fields = some json

/-- Columns that share a name have the same value. -/
def SameNameAgree (columns : List ColumnInfo) (cells : List PgCell) : Prop :=
  ∀ left ∈ columns.zip cells, ∀ right ∈ columns.zip cells, left.1.name = right.1.name →
    left.2.value crates left.1 = right.2.value crates right.1

/-- The cell as the decoder reads it; an unchanged one has no such form. -/
def PgCell.wire : PgCell → WireCell
  | null => .null
  | unchanged => .null
  | text bytes fits => .text (UInt32.ofNat bytes.length) bytes (by
      rw [UInt32.toNat_ofNat']
      omega)

theorem PgCell.wire_encode {cell : PgCell} (changed : cell ≠ .unchanged) :
    cell.wire.encode = cell.encode := by
  cases cell with
  | null => rfl
  | unchanged => contradiction
  | text bytes fits => rfl

theorem PgCell.wire_value {cell : PgCell} (changed : cell ≠ .unchanged) (column : ColumnInfo) :
    cell.value crates column = some (.ok (cell.wire.json crates column)) := by
  rw [← WireCell.value_eq]
  cases cell with
  | null => rfl
  | unchanged => contradiction
  | text bytes fits => rfl

theorem decodeCell_unchanged (column : ColumnInfo) (rest : Bytes) :
    decodeCell crates column (PgCell.unchanged.encode ++ rest) =
      .err (.invalidMessage s!"Unknown column type: {(0x75 : UInt8)}") :=
  decodeCell_unknown crates (by decide) (by decide) (by decide) column rest

def PgTuple.Changed {width : Nat} (tuple : PgTuple width) : Prop :=
  ∀ cell ∈ tuple.cells, cell ≠ .unchanged

def PgTuple.wire {width : Nat} (tuple : PgTuple width) : WireTuple width where
  count := UInt16.ofNat tuple.cells.length
  cells := tuple.cells.map PgCell.wire
  counted := by
    have fits := tuple.fits
    rw [UInt16.toNat_ofNat', tuple.complete]
    omega
  complete := by rw [List.length_map, tuple.complete]

theorem flatMap_wire {cells : List PgCell} (changed : ∀ cell ∈ cells, cell ≠ .unchanged) :
    (cells.map PgCell.wire).flatMap WireCell.encode = cells.flatMap PgCell.encode := by
  rw [List.flatMap_map]
  exact List.flatMap_congr fun cell member => PgCell.wire_encode (changed cell member)

theorem PgTuple.wire_encode {width : Nat} {tuple : PgTuple width} (changed : tuple.Changed) :
    tuple.wire.encode = tuple.encode := by
  rw [WireTuple.encode, PgTuple.encode, PgTuple.wire, flatMap_wire changed]

theorem decodeCells_unchanged {columns : List ColumnInfo} {cells : List PgCell}
    (complete : cells.length = columns.length) (unchanged : ∃ cell ∈ cells, cell = .unchanged)
    (tuple : List (String × Json)) (rest : Bytes) :
    ∃ reason, decodeCells crates columns tuple (cells.flatMap PgCell.encode ++ rest) = .err reason := by
  induction columns generalizing cells tuple with
  | nil =>
      obtain ⟨cell, member, _⟩ := unchanged
      rw [List.length_eq_zero_iff.mp complete] at member
      contradiction
  | cons column columns ih =>
      cases cells with
      | nil => contradiction
      | cons cell cells =>
          rw [List.flatMap_cons, List.append_assoc, decodeCells]
          by_cases first : cell = .unchanged
          · subst first
            rw [bind_apply, decodeCell_unchanged]
            exact ⟨_, rfl⟩
          · have later : ∃ other ∈ cells, other = .unchanged := by
              obtain ⟨other, member, isUnchanged⟩ := unchanged
              rcases List.mem_cons.mp member with rfl | inTail
              · exact absurd isUnchanged first
              · exact ⟨other, inTail, isUnchanged⟩
            rw [← PgCell.wire_encode first, bind_of_ok (decodeCell_encode crates column cell.wire _)]
            exact ih (Nat.succ.inj complete) later _

theorem decodeTupleData_unchanged {columns : List ColumnInfo} {tuple : PgTuple columns.length}
    (unchanged : ¬ tuple.Changed) (rest : Bytes) :
    ∃ reason, decodeTupleData crates columns (tuple.encode ++ rest) = .err reason := by
  have marked : ∃ cell ∈ tuple.cells, cell = .unchanged := by
    simpa only [PgTuple.Changed, not_forall, exists_prop, not_not] using unchanged
  obtain ⟨reason, failed⟩ := decodeCells_unchanged crates tuple.complete marked [] rest
  refine ⟨reason, ?_⟩
  have counted : (UInt16.ofNat tuple.cells.length).toNat = columns.length := tuple.wire.counted
  rw [decodeTupleData, PgTuple.encode, List.append_assoc, bind_of_ok (getU16_put _ _),
    if_neg (not_not_intro counted), bind_apply, failed]
  rfl

theorem decodeTupleData_changed {columns : List ColumnInfo} {tuple : PgTuple columns.length}
    (changed : tuple.Changed) (rest : Bytes) :
    decodeTupleData crates columns (tuple.encode ++ rest) =
      .ok (tupleImage crates columns (tuple.cells.map PgCell.wire), rest) := by
  rw [← PgTuple.wire_encode changed, decodeTupleData_encode]
  rfl

theorem cellEntries_wire (columns : List ColumnInfo) (cells : List PgCell) :
    cellEntries crates columns (cells.map PgCell.wire) =
      (columns.zip cells).map fun pair => (pair.1.name, pair.2.wire.json crates pair.1) := by
  rw [cellEntries, List.zip_map_right, List.map_map]
  rfl

theorem keepsValues_iff {columns : List ColumnInfo} {cells : List PgCell}
    (changed : ∀ cell ∈ cells, cell ≠ .unchanged) :
    KeepsValues crates columns cells (tupleImage crates columns (cells.map PgCell.wire)) ↔
      SameNameAgree crates columns cells := by
  have values : ∀ pair ∈ columns.zip cells,
      pair.2.value crates pair.1 = some (.ok (pair.2.wire.json crates pair.1)) := by
    intro pair member
    exact PgCell.wire_value crates (changed _ (List.of_mem_zip member).2) pair.1
  have agree := OrderedMap.get?_insertAll_all_iff (cellEntries crates columns (cells.map PgCell.wire))
  simp only [cellEntries_wire, List.forall_mem_map] at agree
  rw [KeepsValues, tupleImage, cellEntries_wire]
  constructor
  · intro keeps
    obtain ⟨fields, same, kept⟩ := keeps
    cases same
    have agreement := agree.mp fun pair member => by
      obtain ⟨json, same, found⟩ := kept pair member _ (values pair member)
      cases same
      exact found
    intro left leftMember right rightMember sameName
    rw [values left leftMember, values right rightMember,
      agreement left leftMember right rightMember sameName]
  · intro agreement
    refine ⟨_, rfl, ?_⟩
    intro pair member value isValue
    rw [values pair member] at isValue
    cases isValue
    refine ⟨_, rfl, agree.mpr ?_ pair member⟩
    intro left leftMember right rightMember sameName
    have same := agreement left leftMember right rightMember sameName
    rw [values left leftMember, values right rightMember] at same
    exact Outcome.ok.inj (Option.some.inj same)

namespace PgOutputDecoder

theorem updateTuples_putOld {columns : List ColumnInfo}
    {old : Option (OldTupleKind × PgTuple columns.length)} {new : PgTuple columns.length}
    (oldChanged : ∀ kind tuple, old = some (kind, tuple) → tuple.Changed) (newChanged : new.Changed) :
    ∃ before, updateTuples crates columns (putOld old ++ Tag.newTuple :: new.encode) =
      .ok ((before, some (tupleImage crates columns (new.cells.map PgCell.wire))), []) := by
  have readNew := decodeTupleData_changed crates newChanged []
  rw [List.append_nil] at readNew
  cases old with
  | none =>
      refine ⟨none, ?_⟩
      rw [putOld, List.nil_append, updateTuples_new, bind_of_ok readNew]
      rfl
  | some pair =>
      obtain ⟨kind, tuple⟩ := pair
      have isOld : kind.tag = Tag.oldTuple ∨ kind.tag = Tag.keyTuple := by
        cases kind with
        | old => exact Or.inl rfl
        | key => exact Or.inr rfl
      refine ⟨some (tupleImage crates columns (tuple.cells.map PgCell.wire)), ?_⟩
      rw [putOld, List.cons_append, updateTuples_old crates isOld,
        bind_of_ok (decodeTupleData_changed crates (oldChanged kind tuple rfl) _), bind_apply,
        newTupleAfterOld_new, bind_of_ok readNew]
      rfl

theorem updateTuples_unchanged {columns : List ColumnInfo}
    {old : Option (OldTupleKind × PgTuple columns.length)} {new : PgTuple columns.length}
    (unchanged : ¬ ((∀ kind tuple, old = some (kind, tuple) → tuple.Changed) ∧ new.Changed)) :
    ∃ reason, updateTuples crates columns (putOld old ++ Tag.newTuple :: new.encode) = .err reason := by
  have failsNew : ¬ new.Changed →
      ∃ reason, decodeTupleData crates columns new.encode = .err reason := by
    intro marked
    have failed := decodeTupleData_unchanged crates marked []
    rwa [List.append_nil] at failed
  cases old with
  | none =>
      obtain ⟨reason, failed⟩ := failsNew (fun changed => unchanged ⟨fun _ _ none => by contradiction, changed⟩)
      refine ⟨reason, ?_⟩
      rw [putOld, List.nil_append, updateTuples_new, bind_apply, failed]
      rfl
  | some pair =>
      obtain ⟨kind, tuple⟩ := pair
      have isOld : kind.tag = Tag.oldTuple ∨ kind.tag = Tag.keyTuple := by
        cases kind with
        | old => exact Or.inl rfl
        | key => exact Or.inr rfl
      rw [putOld, List.cons_append, updateTuples_old crates isOld]
      by_cases oldChanged : tuple.Changed
      · have marked : ¬ new.Changed := by
          intro changed
          refine unchanged ⟨?_, changed⟩
          intro otherKind other same
          cases same
          exact oldChanged
        obtain ⟨reason, failed⟩ := failsNew marked
        refine ⟨reason, ?_⟩
        rw [bind_of_ok (decodeTupleData_changed crates oldChanged _), bind_apply,
          newTupleAfterOld_new, bind_apply, failed]
        rfl
      · obtain ⟨reason, failed⟩ := decodeTupleData_unchanged crates oldChanged
          (Tag.newTuple :: new.encode)
        refine ⟨reason, ?_⟩
        rw [bind_apply, failed]
        rfl

theorem decode_updateBody {self : PgOutputDecoder} {id : UInt32} {relation : RelationInfo}
    (known : self.relations id = some relation) (clock : Clock) (startLsn endLsn : UInt64)
    (timestamp : Int64) (old : Option (OldTupleKind × PgTuple relation.columns.length))
    (new : PgTuple relation.columns.length) :
    (self.decode crates clock (xLogDataFrame startLsn endLsn timestamp (updateBody id old new))).1 =
      (updateTuples crates relation.columns (putOld old ++ Tag.newTuple :: new.encode)).map
        fun result => some (.change
          ((self.atLsn endLsn).changeEvent clock relation .update result.1.1 result.1.2)) := by
  have announced : (self.atLsn endLsn).relation id (putOld old ++ Tag.newTuple :: new.encode) =
      .ok (relation, putOld old ++ Tag.newTuple :: new.encode) := relation_apply known _
  have long : ¬ (putU32 id ++ (putOld old ++ Tag.newTuple :: new.encode)).length < 5 := by
    simp only [List.length_append, putU32_length, List.length_cons]
    omega
  rw [decode_headed crates (xLogData?_frame startLsn endLsn timestamp _), updateBody,
    decodeBody_update, decodeUpdate, run_bind_of_ok (remaining_apply _), if_neg long,
    run_bind_of_ok (getU32_put id _), run_bind_of_ok announced, run_bind]
  cases updateTuples crates relation.columns (putOld old ++ Tag.newTuple :: new.encode) with
  | ok result => rfl
  | err reason => rfl
  | panic => rfl

/-- An update keeps the values that came with it exactly when no column came
    without one and columns of one name agree. -/
theorem decode_keepsValues_iff {self : PgOutputDecoder} {id : UInt32} {relation : RelationInfo}
    (known : self.relations id = some relation) (clock : Clock) (startLsn endLsn : UInt64)
    (timestamp : Int64) (old : Option (OldTupleKind × PgTuple relation.columns.length))
    (new : PgTuple relation.columns.length) :
    (∃ event image,
        (self.decode crates clock
          (xLogDataFrame startLsn endLsn timestamp (updateBody id old new))).1 =
            .ok (some (.change event)) ∧
        event.after = some image ∧ KeepsValues crates relation.columns new.cells image) ↔
      (∀ kind tuple, old = some (kind, tuple) → tuple.Changed) ∧ new.Changed ∧
        SameNameAgree crates relation.columns new.cells := by
  rw [decode_updateBody crates known, ← and_assoc]
  by_cases changed : (∀ kind tuple, old = some (kind, tuple) → tuple.Changed) ∧ new.Changed
  · obtain ⟨before, read⟩ := updateTuples_putOld crates changed.1 changed.2
    rw [and_iff_right changed, read, Outcome.map_ok, ← keepsValues_iff crates changed.2]
    constructor
    · intro decoded
      obtain ⟨event, image, same, isAfter, keeps⟩ := decoded
      cases same
      cases isAfter
      exact keeps
    · intro keeps
      exact ⟨_, _, rfl, rfl, keeps⟩
  · obtain ⟨reason, failed⟩ := updateTuples_unchanged crates changed
    rw [failed, Outcome.map_err]
    refine iff_of_false ?_ (fun both => changed both.1)
    intro decoded
    obtain ⟨event, image, same, _⟩ := decoded
    contradiction

end PgOutputDecoder

/-- A decoder that knows a table with the columns `body` and `n`. -/
def knowsTwo : PgOutputDecoder :=
  ((PgOutputDecoder.new "db").decode .idle ⟨0, 0⟩
    (Tag.xLogData :: List.replicate 24 0 ++ [Tag.relation, 0, 0, 0, 7, 1, 0x73, 1, 0x74, 0x64, 0, 2,
      0, 4, 0x62, 0x6F, 0x64, 0x79, 0, 0, 0, 25, 0, 0, 0, 0, 1, 1, 0x6E, 0, 0, 0, 23, 0, 0, 0, 0])).2

def knownTable : RelationInfo := ⟨7, "s", "t", [⟨"body", 25, false⟩, ⟨"n", 23, true⟩]⟩

theorem knowsTwo_relation : knowsTwo.relations 7 = some knownTable := rfl

def bodyChanged : PgTuple knownTable.columns.length where
  cells := [.text [0x68, 0x69] (by decide), .null]
  complete := rfl
  fits := by decide

def bodyUntouched : PgTuple knownTable.columns.length where
  cells := [.unchanged, .null]
  complete := rfl
  fits := by decide

theorem bodyChanged_kept :
    ∃ event image,
      (knowsTwo.decode .idle ⟨1, 1⟩
        (xLogDataFrame 1 2 3 (updateBody 7 none bodyChanged))).1 = .ok (some (.change event)) ∧
      event.after = some image ∧
      KeepsValues .idle knownTable.columns bodyChanged.cells image := by
  refine (PgOutputDecoder.decode_keepsValues_iff .idle knowsTwo_relation ⟨1, 1⟩ 1 2 3 none
    bodyChanged).mpr ⟨fun _ _ absent => by contradiction, ?_, ?_⟩
  · intro cell member
    simp only [bodyChanged, List.mem_cons, List.not_mem_nil, or_false] at member
    rcases member with rfl | rfl <;> simp
  · intro left leftMember right rightMember same
    simp only [bodyChanged, knownTable, List.zip_cons_cons, List.zip_nil_right, List.mem_cons,
      List.not_mem_nil, or_false] at leftMember rightMember
    rcases leftMember with rfl | rfl <;> rcases rightMember with rfl | rfl <;> simp at same ⊢

theorem bodyUntouched_rejected :
    (knowsTwo.decode .idle ⟨1, 1⟩
      (xLogDataFrame 1 2 3 (updateBody 7 none bodyUntouched))).1 =
      .err (.invalidMessage "Unknown column type: 117") := rfl

end PgCapture.Postgres
