import PgCapture.Postgres.Decoder.Tuple
import PgCapture.Postgres.Decoder.Relation
import PgCapture.Postgres.Decoder.History

namespace PgCapture.Postgres

open PgCapture.Data Cursor

/-! # Where the decoder reads past its input

The minimum sizes of the handlers cover BEGIN and COMMIT completely and the
other messages only up to their first variable part.  Beyond that part each
handler ends without returning on the inputs that stop at an unchecked read.
-/

/-- The tuples of an UPDATE, ending inside one of them. -/
inductive CutUpdate (width : Nat) : Bytes → Prop where
  | new {tuple : Bytes} (cut : CutTuple width tuple) : CutUpdate width (Tag.newTuple :: tuple)
  | old {marker : UInt8} {tuple : Bytes} (isOld : marker = Tag.oldTuple ∨ marker = Tag.keyTuple)
      (cut : CutTuple width tuple) : CutUpdate width (marker :: tuple)
  | newAfterOld {marker : UInt8} (isOld : marker = Tag.oldTuple ∨ marker = Tag.keyTuple)
      (old : WireTuple width) {tuple : Bytes} (cut : CutTuple width tuple) :
      CutUpdate width (marker :: (old.encode ++ Tag.newTuple :: tuple))

/-- A message body that ends where its handler does not check for the end. -/
inductive CutBody (relations : UInt32 → Option RelationInfo) : Bytes → Prop where
  | relation {cursor : Bytes} (long : 7 ≤ cursor.length) (cut : CutRelation cursor) :
      CutBody relations (Tag.relation :: cursor)
  | insert {id : UInt32} {relation : RelationInfo} {tuple : Bytes}
      (known : relations id = some relation) (started : tuple ≠ [])
      (cut : CutTuple relation.columns.length tuple) :
      CutBody relations (Tag.insert :: (putU32 id ++ Tag.newTuple :: tuple))
  | update {id : UInt32} {relation : RelationInfo} {tuples : Bytes}
      (known : relations id = some relation) (cut : CutUpdate relation.columns.length tuples) :
      CutBody relations (Tag.update :: (putU32 id ++ tuples))
  | delete {id : UInt32} {relation : RelationInfo} {marker : UInt8} {tuple : Bytes}
      (known : relations id = some relation)
      (isOld : marker = Tag.oldTuple ∨ marker = Tag.keyTuple) (started : tuple ≠ [])
      (cut : CutTuple relation.columns.length tuple) :
      CutBody relations (Tag.delete :: (putU32 id ++ marker :: tuple))

/-- A message with a complete header and a cut body. -/
def CutShort (self : PgOutputDecoder) (data : Bytes) : Prop :=
  ∃ endLsn body, xLogData? data = some (endLsn, body) ∧ CutBody self.relations body

variable (crates : Crates)

theorem beginXid_returns (cursor : Bytes) : PgOutputDecoder.beginXid cursor ≠ .panic := by
  rw [PgOutputDecoder.beginXid, bind_of_ok (remaining_apply cursor)]
  split
  · simp
  · rename_i long
    have afterLsn : 8 ≤ (cursor.drop 8).length := by simp only [List.length_drop]; omega
    have afterTimestamp : 4 ≤ ((cursor.drop 8).drop 8).length := by
      simp only [List.length_drop]
      omega
    rw [bind_of_ok (getU64_of_le (by omega)), bind_of_ok (getI64_of_le afterLsn),
      getU32_of_le afterTimestamp]
    simp

theorem decodeCommit_returns (cursor : Bytes) : PgOutputDecoder.decodeCommit cursor ≠ .panic := by
  rw [PgOutputDecoder.decodeCommit, bind_of_ok (remaining_apply cursor)]
  split
  · simp
  · rename_i long
    cases cursor with
    | nil => exact absurd (by decide) long
    | cons flags rest =>
        rw [List.length_cons] at long
        have afterCommit : 8 ≤ (rest.drop 8).length := by simp only [List.length_drop]; omega
        have afterEnd : 8 ≤ ((rest.drop 8).drop 8).length := by simp only [List.length_drop]; omega
        rw [bind_of_ok (getU8_cons _ _), bind_of_ok (getU64_of_le (by omega)),
          bind_of_ok (getU64_of_le afterCommit), bind_of_ok (getI64_of_le afterEnd)]
        simp

namespace PgOutputDecoder

theorem relation_eq_panic (self : PgOutputDecoder) (id : UInt32) (bytes : Bytes) :
    self.relation id bytes ≠ .panic := by
  rw [PgOutputDecoder.relation]
  cases self.relations id with
  | none => simp
  | some relation => simp

section OneTuple

variable {self : PgOutputDecoder} {cursor : Bytes} {tooShort : Error} {refused : UInt8 → Prop}
variable [DecidablePred refused] {unexpected : UInt8 → Error} {row : Json → RowImages}

theorem oneTuple_eq_panic {clock : Clock} :
    self.oneTuple crates clock tooShort refused unexpected row cursor = .panic ↔
      ∃ id relation marker tuple, cursor = putU32 id ++ marker :: tuple ∧ tuple ≠ [] ∧
        ¬ refused marker ∧ self.relations id = some relation ∧
        CutTuple relation.columns.length tuple := by
  rw [oneTuple, bind_of_ok (remaining_apply cursor)]
  constructor
  · intro panicked
    split at panicked
    · contradiction
    · rename_i long
      rcases bind_eq_panic.mp panicked with short | ⟨id, afterId, readId, inType⟩
      · have left := getU32_eq_panic.mp short
        omega
      · obtain rfl := getU32_eq_ok.mp readId
        rw [List.length_append, putU32_length] at long
        rcases bind_eq_panic.mp inType with absent | ⟨marker, tuple, readType, checked⟩
        · rw [getU8_eq_panic.mp absent, List.length_nil] at long
          omega
        · obtain rfl := getU8_eq_ok.mp readType
          split at checked
          · contradiction
          · rename_i accepted
            rcases bind_eq_panic.mp checked with absent | ⟨relation, rest, lookup, inTuple⟩
            · exact absurd absent (self.relation_eq_panic id tuple)
            · obtain ⟨known, rfl⟩ := relation_eq_ok lookup
              refine ⟨id, relation, marker, rest, rfl, ?_, accepted, known, ?_⟩
              · intro empty
                rw [empty, List.length_singleton] at long
                omega
              · rcases bind_eq_panic.mp inTuple with cut | ⟨image, tail, _, returned⟩
                · exact (decodeTupleData_eq_panic crates).mp cut
                · contradiction
  · intro shape
    obtain ⟨id, relation, marker, tuple, rfl, started, accepted, known, cut⟩ := shape
    have long : ¬ (putU32 id ++ marker :: tuple).length < 6 := by
      have positive := List.length_pos_iff.mpr started
      simp only [List.length_append, putU32_length, List.length_cons]
      omega
    rw [if_neg long, bind_of_ok (getU32_put id _), bind_of_ok (getU8_cons marker tuple),
      if_neg accepted]
    refine bind_eq_panic.mpr (Or.inr ⟨relation, tuple, ?_, ?_⟩)
    · rw [PgOutputDecoder.relation, known]
      rfl
    · exact bind_eq_panic.mpr (Or.inl ((decodeTupleData_eq_panic crates).mpr cut))

end OneTuple

theorem newTupleAfterOld_eq_panic {columns : List ColumnInfo} {bytes : Bytes} :
    newTupleAfterOld crates columns bytes = .panic ↔
      ∃ tuple, bytes = Tag.newTuple :: tuple ∧ CutTuple columns.length tuple := by
  cases bytes with
  | nil => simp [newTupleAfterOld_nil]
  | cons marker tuple =>
      by_cases isNew : marker = Tag.newTuple
      · subst isNew
        rw [newTupleAfterOld_new, bind_eq_panic, decodeTupleData_eq_panic, or_iff_left]
        · simp
        · intro later
          obtain ⟨image, rest, _, returned⟩ := later
          contradiction
      · simp [newTupleAfterOld_other crates isNew, isNew]

theorem updateTuples_eq_panic {columns : List ColumnInfo} {bytes : Bytes} :
    updateTuples crates columns bytes = .panic ↔ CutUpdate columns.length bytes := by
  constructor
  · intro panicked
    cases bytes with
    | nil => contradiction
    | cons marker tuples =>
        rcases marker_cases marker with isOld | rfl | ⟨notOld, notNew⟩
        · rw [updateTuples_old crates isOld] at panicked
          rcases bind_eq_panic.mp panicked with cut | ⟨old, rest, readOld, inNew⟩
          · exact .old isOld ((decodeTupleData_eq_panic crates).mp cut)
          · obtain ⟨tuple, rfl, _⟩ := (decodeTupleData_eq_ok crates).mp readOld
            rcases bind_eq_panic.mp inNew with inside | ⟨new, tail, _, returned⟩
            · obtain ⟨newTuple, rfl, cut⟩ := (newTupleAfterOld_eq_panic crates).mp inside
              exact .newAfterOld isOld tuple cut
            · contradiction
        · rw [updateTuples_new] at panicked
          rcases bind_eq_panic.mp panicked with cut | ⟨new, rest, _, returned⟩
          · exact .new ((decodeTupleData_eq_panic crates).mp cut)
          · contradiction
        · rw [updateTuples_unknown crates notOld notNew] at panicked
          contradiction
  · intro cut
    cases cut with
    | new cut =>
        rw [updateTuples_new]
        exact bind_eq_panic.mpr (Or.inl ((decodeTupleData_eq_panic crates).mpr cut))
    | old isOld cut =>
        rw [updateTuples_old crates isOld]
        exact bind_eq_panic.mpr (Or.inl ((decodeTupleData_eq_panic crates).mpr cut))
    | newAfterOld isOld old cut =>
        rw [updateTuples_old crates isOld, bind_of_ok (decodeTupleData_encode crates old _)]
        exact bind_eq_panic.mpr (Or.inl
          ((newTupleAfterOld_eq_panic crates).mpr ⟨_, rfl, cut⟩))

theorem decodeUpdate_eq_panic {self : PgOutputDecoder} {clock : Clock} {cursor : Bytes} :
    self.decodeUpdate crates clock cursor = .panic ↔
      ∃ id relation tuples, cursor = putU32 id ++ tuples ∧ self.relations id = some relation ∧
        CutUpdate relation.columns.length tuples := by
  rw [decodeUpdate, bind_of_ok (remaining_apply cursor)]
  constructor
  · intro panicked
    split at panicked
    · contradiction
    · rename_i long
      rcases bind_eq_panic.mp panicked with short | ⟨id, afterId, readId, looksUp⟩
      · have left := getU32_eq_panic.mp short
        omega
      · rcases bind_eq_panic.mp looksUp with absent | ⟨relation, tuples, lookup, inTuples⟩
        · exact absurd absent (self.relation_eq_panic id afterId)
        · obtain ⟨known, rfl⟩ := relation_eq_ok lookup
          refine ⟨id, relation, tuples, getU32_eq_ok.mp readId, known, ?_⟩
          rcases bind_eq_panic.mp inTuples with cut | ⟨images, tail, _, returned⟩
          · exact (updateTuples_eq_panic crates).mp cut
          · contradiction
  · intro shape
    obtain ⟨id, relation, tuples, rfl, known, cut⟩ := shape
    have long : ¬ (putU32 id ++ tuples).length < 5 := by
      have started : 0 < tuples.length := by
        cases cut with
        | new cut => exact Nat.succ_pos _
        | old isOld cut => exact Nat.succ_pos _
        | newAfterOld isOld old cut => exact Nat.succ_pos _
      rw [List.length_append, putU32_length]
      omega
    rw [if_neg long, bind_of_ok (getU32_put id tuples)]
    refine bind_eq_panic.mpr (Or.inr ⟨relation, tuples, ?_, ?_⟩)
    · rw [PgOutputDecoder.relation, known]
      rfl
    · exact bind_eq_panic.mpr (Or.inl ((updateTuples_eq_panic crates).mpr cut))

theorem decodeBody_eq_panic {self : PgOutputDecoder} {clock : Clock} {body : Bytes} :
    (self.decodeBody crates clock body).1 = .panic ↔ CutBody self.relations body := by
  constructor
  · intro panicked
    cases body with
    | nil => contradiction
    | cons msgType cursor =>
        simp only [decodeBody] at panicked
        split at panicked
        · simp only [decodeBegin] at panicked
          split at panicked
          · contradiction
          · contradiction
          · rename_i returned
            exact absurd (run_eq_panic.mp returned) (beginXid_returns cursor)
        · exact absurd (run_eq_panic.mp panicked) (decodeCommit_returns cursor)
        · simp only [decodeRelation] at panicked
          split at panicked
          · contradiction
          · contradiction
          · rename_i returned
            obtain ⟨long, cut⟩ := relationInfo_eq_panic.mp (run_eq_panic.mp returned)
            exact .relation long cut
        · have inTuple := run_eq_panic.mp panicked
          rw [decodeInsert_oneTuple] at inTuple
          obtain ⟨id, relation, marker, tuple, rfl, started, accepted, known, cut⟩ :=
            (oneTuple_eq_panic crates).mp inTuple
          obtain rfl := not_not.mp accepted
          exact .insert known started cut
        · obtain ⟨id, relation, tuples, rfl, known, cut⟩ :=
            (decodeUpdate_eq_panic crates).mp (run_eq_panic.mp panicked)
          exact .update known cut
        · have inTuple := run_eq_panic.mp panicked
          rw [decodeDelete_oneTuple] at inTuple
          obtain ⟨id, relation, marker, tuple, rfl, started, accepted, known, cut⟩ :=
            (oneTuple_eq_panic crates).mp inTuple
          exact .delete known (by simpa only [not_and_or, not_not] using accepted) started cut
        · contradiction
        · contradiction
  · intro cut
    cases cut with
    | relation long cut =>
        rw [decodeBody_relation, decodeRelation,
          run_eq_panic.mpr (relationInfo_eq_panic.mpr ⟨long, cut⟩)]
    | insert known started cut =>
        rw [decodeBody_insert, decodeInsert_oneTuple]
        exact run_eq_panic.mpr ((oneTuple_eq_panic crates).mpr
          ⟨_, _, _, _, rfl, started, not_not_intro rfl, known, cut⟩)
    | update known cut =>
        rw [decodeBody_update]
        exact run_eq_panic.mpr ((decodeUpdate_eq_panic crates).mpr ⟨_, _, _, rfl, known, cut⟩)
    | delete known isOld started cut =>
        rw [decodeBody_delete, decodeDelete_oneTuple]
        exact run_eq_panic.mpr ((oneTuple_eq_panic crates).mpr
          ⟨_, _, _, _, rfl, started, by simpa only [not_and_or, not_not] using isOld, known, cut⟩)

/-- The call returns exactly when the message is not cut short. -/
theorem decode_returns_iff (self : PgOutputDecoder) (clock : Clock) (data : Bytes) :
    (self.decode crates clock data).1 ≠ .panic ↔ ¬ CutShort self data := by
  refine not_congr ?_
  cases headed : xLogData? data with
  | none =>
      rw [decode_headless crates headed]
      constructor
      · intro panicked
        cases data with
        | nil => contradiction
        | cons tag cursor =>
            simp only [headlessAnswer] at panicked
            split at panicked
            · contradiction
            · contradiction
      · intro cut
        obtain ⟨endLsn, body, header, _⟩ := cut
        rw [headed] at header
        contradiction
  | some header =>
      obtain ⟨endLsn, body⟩ := header
      rw [decode_headed crates headed, decodeBody_eq_panic]
      constructor
      · intro cut
        exact ⟨endLsn, body, headed, cut⟩
      · intro cut
        obtain ⟨otherLsn, otherBody, header, cut⟩ := cut
        rw [headed] at header
        cases header
        exact cut

/-- Seven bytes pass the size check of a RELATION message, and its second name
    is not there. -/
theorem decode_relation_without_table :
    ((new "db").decode .idle ⟨0, 0⟩
      (Tag.xLogData :: List.replicate 24 0 ++ [Tag.relation, 0, 0, 0, 7, 2, 0x70, 0x67])).1 =
      .panic := rfl

end PgOutputDecoder

end PgCapture.Postgres
