import PgCapture.Postgres.Decoder

namespace PgCapture.Postgres

open PgCapture.Data Cursor

/-! # The grammar of tuples

`decodeTupleData` reads a column count and then cells.  Here the input is data:
a cell knows its bytes and its value, and a reader is described by the cells it
accepts and by the beginnings of cells on which it runs past the end.
-/

/-- A cell as it stands on the wire, with the length it declares. -/
inductive WireCell where
  | null
  | text (length : UInt32) (bytes : Bytes) (sized : bytes.length = length.toNat)
  | binary (length : Int32) (bytes : Bytes) (sized : bytes.length = length.toInt.toNat)

namespace WireCell

def encode : WireCell → Bytes
  | null => [Tag.nullCell]
  | text length bytes _ => Tag.textCell :: (putU32 length ++ bytes)
  | binary length bytes _ => Tag.binaryCell :: (putI32 length ++ bytes)

end WireCell

/-- Input that ends inside a cell at a place the reader does not check. -/
inductive CutCell : Bytes → Prop where
  | missing : CutCell []
  | textLength {rest : Bytes} (short : rest.length < 4) : CutCell (Tag.textCell :: rest)
  | binaryLength {rest : Bytes} (short : rest.length < 4) : CutCell (Tag.binaryCell :: rest)
  | binaryValue (length : Int32) {rest : Bytes} (short : rest.length < length.toInt.toNat) :
      CutCell (Tag.binaryCell :: (putI32 length ++ rest))

variable (crates : Crates)

namespace WireCell

def value (column : ColumnInfo) : WireCell → Outcome Error Json
  | null => .ok .null
  | text _ bytes _ => parsePostgresValue crates (Utf8.fromUtf8Lossy bytes) column.typeId
  | binary length bytes _ =>
      if 0 < length then parsePostgresBinaryValue crates bytes column.typeId else .ok .null

def json (column : ColumnInfo) (cell : WireCell) : Json :=
  (cell.value crates column).toOption.getD .null

theorem value_eq (column : ColumnInfo) (cell : WireCell) :
    cell.value crates column = .ok (cell.json crates column) := by
  have total : ∃ json, cell.value crates column = .ok json := by
    cases cell with
    | null => exact ⟨.null, rfl⟩
    | text length bytes sized => exact parsePostgresValue_total crates _ column.typeId
    | binary length bytes sized =>
        rw [value]
        split
        · exact parsePostgresBinaryValue_total crates bytes column.typeId
        · exact ⟨.null, rfl⟩
  obtain ⟨json, read⟩ := total
  rw [WireCell.json, read]
  rfl

end WireCell

theorem decodeCell_text (column : ColumnInfo) (rest : Bytes) :
    decodeCell crates column (Tag.textCell :: rest) = decodeTextCell crates column rest := rfl

theorem decodeCell_binary (column : ColumnInfo) (rest : Bytes) :
    decodeCell crates column (Tag.binaryCell :: rest) = decodeBinaryCell crates column rest := rfl

theorem decodeCell_unknown {colType : UInt8} (notNull : colType ≠ Tag.nullCell)
    (notText : colType ≠ Tag.textCell) (notBinary : colType ≠ Tag.binaryCell)
    (column : ColumnInfo) (rest : Bytes) :
    decodeCell crates column (colType :: rest) =
      .err (.invalidMessage s!"Unknown column type: {colType}") := by
  rw [decodeCell, bind_of_ok (getU8_cons colType rest)]
  refine congrFun (g := fail (Error.invalidMessage s!"Unknown column type: {colType}")) ?_ rest
  split
  · contradiction
  · contradiction
  · contradiction
  · rfl

/-- The four ways a cell can start. -/
theorem colType_cases (colType : UInt8) :
    colType = Tag.nullCell ∨ colType = Tag.textCell ∨ colType = Tag.binaryCell ∨
      (colType ≠ Tag.nullCell ∧ colType ≠ Tag.textCell ∧ colType ≠ Tag.binaryCell) := by
  by_cases null : colType = Tag.nullCell
  · exact Or.inl null
  · by_cases text : colType = Tag.textCell
    · exact Or.inr (Or.inl text)
    · by_cases binary : colType = Tag.binaryCell
      · exact Or.inr (Or.inr (Or.inl binary))
      · exact Or.inr (Or.inr (Or.inr ⟨null, text, binary⟩))

theorem decodeCell_encode (column : ColumnInfo) (cell : WireCell) (rest : Bytes) :
    decodeCell crates column (cell.encode ++ rest) = .ok (cell.json crates column, rest) := by
  have read := cell.value_eq crates column
  cases cell with
  | null => rfl
  | text length bytes sized =>
      have enough : ¬ (bytes ++ rest).length < length.toNat := by
        rw [List.length_append]
        omega
      rw [WireCell.encode, List.cons_append, List.append_assoc, decodeCell_text, decodeTextCell,
        bind_of_ok (getU32_put _ _), bind_of_ok (remaining_apply _), if_neg enough,
        bind_of_ok (takeBytes_append bytes rest sized)]
      rw [WireCell.value] at read
      rw [read]
      rfl
  | binary length bytes sized =>
      rw [WireCell.encode, List.cons_append, List.append_assoc, decodeCell_binary, decodeBinaryCell,
        bind_of_ok (getI32_put _ _)]
      by_cases positive : 0 < length
      · rw [WireCell.value, if_pos positive] at read
        rw [if_pos positive, bind_of_ok (takeBytes_append bytes rest sized), read]
        rfl
      · have empty : bytes = [] := by
          have nonpositive : length.toInt ≤ 0 := by
            rw [Int32.lt_iff_toInt_lt, Int32.toInt_zero] at positive
            omega
          exact List.length_eq_zero_iff.mp (by omega)
        subst empty
        rw [WireCell.value, if_neg positive] at read
        rw [if_neg positive, List.nil_append, ← Outcome.ok.inj read]
        rfl

theorem decodeTextCell_eq_ok {column : ColumnInfo} {bytes rest : Bytes} {json : Json}
    (read : decodeTextCell crates column bytes = .ok (json, rest)) :
    ∃ cell : WireCell, Tag.textCell :: bytes = cell.encode ++ rest := by
  obtain ⟨length, afterLength, readLength, read⟩ := bind_eq_ok.mp read
  obtain ⟨left, same, readLeft, read⟩ := bind_eq_ok.mp read
  cases readLeft
  split at read
  · contradiction
  · obtain ⟨value, afterValue, readValue, read⟩ := bind_eq_ok.mp read
    obtain ⟨shape, sized⟩ := takeBytes_eq_ok.mp readValue
    obtain ⟨parsed, total⟩ :=
      parsePostgresValue_total (ε := Error) crates (Utf8.fromUtf8Lossy value) column.typeId
    rw [total] at read
    cases read
    refine ⟨.text length value sized, ?_⟩
    rw [getU32_eq_ok.mp readLength, shape, WireCell.encode, List.cons_append, List.append_assoc]

theorem decodeBinaryCell_eq_ok {column : ColumnInfo} {bytes rest : Bytes} {json : Json}
    (read : decodeBinaryCell crates column bytes = .ok (json, rest)) :
    ∃ cell : WireCell, Tag.binaryCell :: bytes = cell.encode ++ rest := by
  obtain ⟨length, afterLength, readLength, read⟩ := bind_eq_ok.mp read
  split at read
  · obtain ⟨value, afterValue, readValue, read⟩ := bind_eq_ok.mp read
    obtain ⟨shape, sized⟩ := takeBytes_eq_ok.mp readValue
    obtain ⟨parsed, total⟩ := parsePostgresBinaryValue_total (ε := Error) crates value column.typeId
    rw [total] at read
    cases read
    refine ⟨.binary length value sized, ?_⟩
    rw [getI32_eq_ok.mp readLength, shape, WireCell.encode, List.cons_append, List.append_assoc]
  · rename_i nonpositive
    cases read
    have empty : ([] : Bytes).length = length.toInt.toNat := by
      rw [Int32.lt_iff_toInt_lt, Int32.toInt_zero] at nonpositive
      simp only [List.length_nil]
      omega
    refine ⟨.binary length [] empty, ?_⟩
    rw [getI32_eq_ok.mp readLength, WireCell.encode, List.append_nil, List.cons_append]

theorem decodeCell_eq_ok {column : ColumnInfo} {bytes rest : Bytes} {json : Json} :
    decodeCell crates column bytes = .ok (json, rest) ↔
      ∃ cell : WireCell, bytes = cell.encode ++ rest ∧ json = cell.json crates column := by
  constructor
  · intro read
    have accepted : ∃ cell : WireCell, bytes = cell.encode ++ rest := by
      cases bytes with
      | nil => contradiction
      | cons colType cell =>
          rcases colType_cases colType with rfl | rfl | rfl | ⟨notNull, notText, notBinary⟩
          · cases read
            exact ⟨.null, rfl⟩
          · exact decodeTextCell_eq_ok crates read
          · exact decodeBinaryCell_eq_ok crates read
          · rw [decodeCell_unknown crates notNull notText notBinary] at read
            contradiction
    obtain ⟨cell, rfl⟩ := accepted
    rw [decodeCell_encode] at read
    cases read
    exact ⟨cell, rfl, rfl⟩
  · intro written
    obtain ⟨cell, rfl, rfl⟩ := written
    exact decodeCell_encode crates column cell rest

theorem decodeTextCell_eq_panic {column : ColumnInfo} {bytes : Bytes} :
    decodeTextCell crates column bytes = .panic ↔ bytes.length < 4 := by
  rw [decodeTextCell, bind_eq_panic, getU32_eq_panic, or_iff_left]
  intro later
  obtain ⟨length, afterLength, _, later⟩ := later
  rw [bind_of_ok (remaining_apply _)] at later
  split at later
  · contradiction
  · rename_i enough
    rw [bind_of_ok (takeBytes_of_le (Nat.le_of_not_lt enough))] at later
    obtain ⟨parsed, total⟩ := parsePostgresValue_total (ε := Error) crates
      (Utf8.fromUtf8Lossy (afterLength.take length.toNat)) column.typeId
    rw [total] at later
    contradiction

theorem decodeBinaryCell_eq_panic {column : ColumnInfo} {bytes : Bytes} :
    decodeBinaryCell crates column bytes = .panic ↔
      bytes.length < 4 ∨ ∃ (length : Int32) (rest : Bytes),
        rest.length < length.toInt.toNat ∧ bytes = putI32 length ++ rest := by
  rw [decodeBinaryCell, bind_eq_panic, getI32_eq_panic]
  refine or_congr_right (exists_congr fun length => exists_congr fun rest => ?_)
  rw [getI32_eq_ok, and_comm]
  refine and_congr_left fun _ => ?_
  split
  · rw [bind_eq_panic, takeBytes_eq_panic, or_iff_left]
    intro later
    obtain ⟨value, afterValue, _, later⟩ := later
    obtain ⟨parsed, total⟩ := parsePostgresBinaryValue_total (ε := Error) crates value column.typeId
    rw [total] at later
    contradiction
  · rename_i nonpositive
    have none : length.toInt.toNat = 0 := by
      rw [Int32.lt_iff_toInt_lt, Int32.toInt_zero] at nonpositive
      omega
    simp [none]

theorem decodeCell_eq_panic {column : ColumnInfo} {bytes : Bytes} :
    decodeCell crates column bytes = .panic ↔ CutCell bytes := by
  constructor
  · intro panicked
    cases bytes with
    | nil => exact .missing
    | cons colType cell =>
        rcases colType_cases colType with rfl | rfl | rfl | ⟨notNull, notText, notBinary⟩
        · contradiction
        · exact .textLength ((decodeTextCell_eq_panic crates).mp panicked)
        · rcases (decodeBinaryCell_eq_panic crates).mp panicked with short | ⟨length, tail, short, rfl⟩
          · exact .binaryLength short
          · exact .binaryValue length short
        · rw [decodeCell_unknown crates notNull notText notBinary] at panicked
          contradiction
  · intro cut
    cases cut with
    | missing => rfl
    | textLength short => exact (decodeTextCell_eq_panic crates).mpr short
    | binaryLength short => exact (decodeBinaryCell_eq_panic crates).mpr (Or.inl short)
    | binaryValue length short =>
        exact (decodeBinaryCell_eq_panic crates).mpr (Or.inr ⟨length, _, short, rfl⟩)

/-- The cells of a tuple for `width` columns, behind their number. -/
structure WireTuple (width : Nat) where
  count : UInt16
  cells : List WireCell
  counted : count.toNat = width
  complete : cells.length = width

namespace WireTuple

variable {width : Nat}

def encode (tuple : WireTuple width) : Bytes :=
  putU16 tuple.count ++ tuple.cells.flatMap WireCell.encode

end WireTuple

/-- Each column's name with the value of its own cell. -/
def cellEntries (columns : List ColumnInfo) (cells : List WireCell) : List (String × Json) :=
  (columns.zip cells).map fun pair => (pair.1.name, pair.2.json crates pair.1)

/-- The object a tuple decodes to. -/
def tupleImage (columns : List ColumnInfo) (cells : List WireCell) : Json :=
  .object (OrderedMap.insertAll (cellEntries crates columns cells) [])

theorem cellEntries_keys {columns : List ColumnInfo} {cells : List WireCell}
    (complete : cells.length = columns.length) :
    OrderedMap.keys (cellEntries crates columns cells) = columns.map ColumnInfo.name := by
  have first : (columns.zip cells).map Prod.fst = columns :=
    List.map_fst_zip (Nat.le_of_eq complete.symm)
  rw [OrderedMap.keys, cellEntries, List.map_map]
  calc (columns.zip cells).map (Prod.fst ∘ fun pair => (pair.1.name, pair.2.json crates pair.1))
      = ((columns.zip cells).map Prod.fst).map ColumnInfo.name := by rw [List.map_map]; rfl
    _ = columns.map ColumnInfo.name := by rw [first]

/-- Complete cells for some of the columns, and then a cut one. -/
inductive CutCells (width : Nat) : Bytes → Prop where
  | after (cells : List WireCell) {rest : Bytes} (more : cells.length < width) (cut : CutCell rest) :
      CutCells width (cells.flatMap WireCell.encode ++ rest)

/-- Input that ends inside a tuple for `width` columns at a place the reader
    does not check. -/
inductive CutTuple (width : Nat) : Bytes → Prop where
  | count {bytes : Bytes} (short : bytes.length < 2) : CutTuple width bytes
  | cells (count : UInt16) {rest : Bytes} (counted : count.toNat = width) (cut : CutCells width rest) :
      CutTuple width (putU16 count ++ rest)

theorem CutCells.cons {width : Nat} {rest : Bytes} (cell : WireCell) (cut : CutCells width rest) :
    CutCells (width + 1) (cell.encode ++ rest) := by
  cases cut with
  | after cells more cut =>
      rw [← List.append_assoc, ← List.flatMap_cons]
      exact .after (cell :: cells) (Nat.succ_lt_succ more) cut

theorem decodeCells_encode {columns : List ColumnInfo} {cells : List WireCell}
    (complete : cells.length = columns.length) (tuple : List (String × Json)) (rest : Bytes) :
    decodeCells crates columns tuple (cells.flatMap WireCell.encode ++ rest) =
      .ok (OrderedMap.insertAll (cellEntries crates columns cells) tuple, rest) := by
  induction columns generalizing cells tuple with
  | nil =>
      have empty : cells = [] := List.length_eq_zero_iff.mp complete
      subst empty
      rfl
  | cons column columns ih =>
      cases cells with
      | nil => contradiction
      | cons cell cells =>
          rw [List.flatMap_cons, List.append_assoc, decodeCells,
            bind_of_ok (decodeCell_encode crates column cell _), ih (Nat.succ.inj complete)]
          rfl

theorem decodeCells_eq_ok {columns : List ColumnInfo} {tuple result : List (String × Json)}
    {bytes rest : Bytes} :
    decodeCells crates columns tuple bytes = .ok (result, rest) ↔
      ∃ cells : List WireCell, cells.length = columns.length ∧
        bytes = cells.flatMap WireCell.encode ++ rest ∧
        result = OrderedMap.insertAll (cellEntries crates columns cells) tuple := by
  constructor
  · intro read
    induction columns generalizing tuple bytes with
    | nil =>
        cases read
        exact ⟨[], rfl, rfl, rfl⟩
    | cons column columns ih =>
        obtain ⟨json, afterCell, readCell, read⟩ := bind_eq_ok.mp read
        obtain ⟨cell, rfl, rfl⟩ := (decodeCell_eq_ok crates).mp readCell
        obtain ⟨cells, complete, rfl, rfl⟩ := ih read
        refine ⟨cell :: cells, congrArg Nat.succ complete, ?_, rfl⟩
        rw [List.flatMap_cons, List.append_assoc]
  · intro written
    obtain ⟨cells, complete, rfl, rfl⟩ := written
    exact decodeCells_encode crates complete tuple rest

theorem decodeCells_eq_panic {columns : List ColumnInfo} {tuple : List (String × Json)}
    {bytes : Bytes} :
    decodeCells crates columns tuple bytes = .panic ↔ CutCells columns.length bytes := by
  induction columns generalizing tuple bytes with
  | nil =>
      constructor
      · intro panicked
        contradiction
      · intro cut
        cases cut with
        | after cells more => exact absurd more (Nat.not_lt_zero _)
  | cons column columns ih =>
      rw [decodeCells, bind_eq_panic, decodeCell_eq_panic]
      constructor
      · intro panicked
        rcases panicked with cut | ⟨json, rest, readCell, panicked⟩
        · exact CutCells.after [] (Nat.succ_pos _) cut
        · obtain ⟨cell, rfl, rfl⟩ := (decodeCell_eq_ok crates).mp readCell
          exact (ih.mp panicked).cons cell
      · intro cut
        cases cut with
        | after cells more cut =>
            cases cells with
            | nil => exact Or.inl cut
            | cons cell cells =>
                rw [List.flatMap_cons, List.append_assoc]
                exact Or.inr ⟨_, _, decodeCell_encode crates column cell _,
                  ih.mpr (.after cells (Nat.lt_of_succ_lt_succ more) cut)⟩

theorem decodeTupleData_encode {columns : List ColumnInfo} (tuple : WireTuple columns.length)
    (rest : Bytes) :
    decodeTupleData crates columns (tuple.encode ++ rest) =
      .ok (tupleImage crates columns tuple.cells, rest) := by
  rw [decodeTupleData, WireTuple.encode, List.append_assoc, bind_of_ok (getU16_put _ _),
    if_neg (not_not_intro tuple.counted), bind_of_ok (decodeCells_encode crates tuple.complete [] rest)]
  rfl

theorem decodeTupleData_eq_ok {columns : List ColumnInfo} {bytes rest : Bytes} {image : Json} :
    decodeTupleData crates columns bytes = .ok (image, rest) ↔
      ∃ tuple : WireTuple columns.length, bytes = tuple.encode ++ rest ∧
        image = tupleImage crates columns tuple.cells := by
  constructor
  · intro accepted
    obtain ⟨count, afterCount, readCount, read⟩ := bind_eq_ok.mp accepted
    obtain rfl := getU16_eq_ok.mp readCount
    split at read
    · contradiction
    · rename_i counted
      obtain ⟨fields, afterCells, readCells, read⟩ := bind_eq_ok.mp read
      obtain ⟨cells, complete, rfl, rfl⟩ := (decodeCells_eq_ok crates).mp readCells
      cases read
      refine ⟨⟨count, cells, not_not.mp counted, complete⟩, ?_, rfl⟩
      rw [WireTuple.encode, List.append_assoc]
  · intro written
    obtain ⟨tuple, rfl, rfl⟩ := written
    exact decodeTupleData_encode crates tuple rest

/-- A tuple ends where its reader stops, so it has one end. -/
theorem WireTuple.encode_append_cancel {columns : List ColumnInfo} {left right : WireTuple columns.length}
    {leftRest rightRest : Bytes} (same : left.encode ++ leftRest = right.encode ++ rightRest) :
    leftRest = rightRest := by
  have read := decodeTupleData_encode .idle left leftRest
  rw [same, decodeTupleData_encode] at read
  exact (congrArg Prod.snd (Outcome.ok.inj read)).symm

/-- A byte string that is a tuple for `width` columns from its first byte to its last. -/
def IsTuple (width : Nat) (front : Bytes) : Prop := ∃ tuple : WireTuple width, front = tuple.encode

theorem isTuple_unique {columns : List ColumnInfo} {left right bytes : Bytes}
    (isLeft : IsTuple columns.length left) (isRight : IsTuple columns.length right)
    (leftFront : left <+: bytes) (rightFront : right <+: bytes) : left = right := by
  obtain ⟨leftTuple, rfl⟩ := isLeft
  obtain ⟨rightTuple, rfl⟩ := isRight
  obtain ⟨leftRest, rfl⟩ := leftFront
  obtain ⟨rightRest, same⟩ := rightFront
  have rest := WireTuple.encode_append_cancel same.symm
  rw [rest] at same
  exact (List.append_cancel_right same).symm

/-- The reader accepts exactly the inputs that start with a tuple.  There is one
such start; the reader stops behind it, and no later byte counts. -/
theorem decodeTupleData_grammar (columns : List ColumnInfo) (bytes : Bytes) :
    ((∃ result, decodeTupleData crates columns bytes = .ok result) ↔
        ∃ front, IsTuple columns.length front ∧ front <+: bytes) ∧
      (∀ front, IsTuple columns.length front → front <+: bytes →
        (∀ other, IsTuple columns.length other → other <+: bytes → other = front) ∧
        ∃ image, ∀ rest, decodeTupleData crates columns (front ++ rest) = .ok (image, rest)) := by
  refine ⟨⟨?_, ?_⟩, ?_⟩
  · rintro ⟨⟨image, rest⟩, accepted⟩
    obtain ⟨tuple, rfl, _⟩ := (decodeTupleData_eq_ok crates).mp accepted
    exact ⟨tuple.encode, ⟨tuple, rfl⟩, List.prefix_append _ _⟩
  · rintro ⟨front, ⟨tuple, rfl⟩, rest, rfl⟩
    exact ⟨_, decodeTupleData_encode crates tuple rest⟩
  · intro front isTuple starts
    refine ⟨fun other isOther otherStarts => isTuple_unique isOther isTuple otherStarts starts, ?_⟩
    obtain ⟨tuple, rfl⟩ := isTuple
    exact ⟨_, decodeTupleData_encode crates tuple⟩

theorem decodeTupleData_eq_panic {columns : List ColumnInfo} {bytes : Bytes} :
    decodeTupleData crates columns bytes = .panic ↔ CutTuple columns.length bytes := by
  rw [decodeTupleData, bind_eq_panic, getU16_eq_panic]
  constructor
  · intro panicked
    rcases panicked with short | ⟨count, rest, readCount, panicked⟩
    · exact .count short
    · obtain rfl := getU16_eq_ok.mp readCount
      split at panicked
      · contradiction
      · rename_i counted
        rcases bind_eq_panic.mp panicked with cut | ⟨fields, tail, _, returned⟩
        · exact .cells count (not_not.mp counted) ((decodeCells_eq_panic crates).mp cut)
        · contradiction
  · intro cut
    cases cut with
    | count short => exact Or.inl short
    | cells count counted cut =>
        refine Or.inr ⟨count, _, getU16_put count _, ?_⟩
        rw [if_neg (not_not_intro counted)]
        exact bind_eq_panic.mpr (Or.inl ((decodeCells_eq_panic crates).mpr cut))

namespace PgOutputDecoder

/-- The three kinds of marker the handler tells apart. -/
theorem marker_cases (marker : UInt8) :
    (marker = Tag.oldTuple ∨ marker = Tag.keyTuple) ∨ marker = Tag.newTuple ∨
      (¬ (marker = Tag.oldTuple ∨ marker = Tag.keyTuple) ∧ marker ≠ Tag.newTuple) := by
  by_cases isOld : marker = Tag.oldTuple ∨ marker = Tag.keyTuple
  · exact Or.inl isOld
  · by_cases isNew : marker = Tag.newTuple
    · exact Or.inr (Or.inl isNew)
    · exact Or.inr (Or.inr ⟨isOld, isNew⟩)

theorem updateTuples_old {marker : UInt8} (isOld : marker = Tag.oldTuple ∨ marker = Tag.keyTuple)
    (columns : List ColumnInfo) (tuples : Bytes) :
    updateTuples crates columns (marker :: tuples) =
      (do
        let old ← decodeTupleData crates columns
        let new ← newTupleAfterOld crates columns
        pure (some old, new) : Cursor Error (Option Json × Option Json)) tuples := by
  rcases isOld with rfl | rfl
  · rfl
  · rfl

theorem updateTuples_new (columns : List ColumnInfo) (tuple : Bytes) :
    updateTuples crates columns (Tag.newTuple :: tuple) =
      (do
        let new ← decodeTupleData crates columns
        pure (none, some new) : Cursor Error (Option Json × Option Json)) tuple := rfl

theorem updateTuples_unknown {marker : UInt8}
    (notOld : ¬ (marker = Tag.oldTuple ∨ marker = Tag.keyTuple)) (notNew : marker ≠ Tag.newTuple)
    (columns : List ColumnInfo) (tuples : Bytes) :
    updateTuples crates columns (marker :: tuples) =
      .err (.invalidMessage s!"Unexpected tuple type in UPDATE: {marker}") := by
  rw [updateTuples, bind_of_ok (remaining_apply _),
    if_pos (List.length_pos_iff.mpr (List.cons_ne_nil _ _)), bind_of_ok (getU8_cons marker tuples)]
  refine congrFun (g := fail (Error.invalidMessage s!"Unexpected tuple type in UPDATE: {marker}"))
    ?_ tuples
  split
  · exact absurd (Or.inl rfl) notOld
  · exact absurd (Or.inr rfl) notOld
  · contradiction
  · rfl

theorem newTupleAfterOld_nil (columns : List ColumnInfo) :
    newTupleAfterOld crates columns [] = .ok (none, []) := rfl

theorem newTupleAfterOld_new (columns : List ColumnInfo) (tuple : Bytes) :
    newTupleAfterOld crates columns (Tag.newTuple :: tuple) =
      (do
        let new ← decodeTupleData crates columns
        pure (some new) : Cursor Error (Option Json)) tuple := rfl

theorem newTupleAfterOld_other {marker : UInt8} (notNew : marker ≠ Tag.newTuple)
    (columns : List ColumnInfo) (rest : Bytes) :
    newTupleAfterOld crates columns (marker :: rest) = .ok (none, rest) := by
  rw [newTupleAfterOld, bind_of_ok (remaining_apply _),
    if_pos (List.length_pos_iff.mpr (List.cons_ne_nil _ _)), bind_of_ok (getU8_cons marker rest),
    if_neg notNew]
  rfl

end PgOutputDecoder

end PgCapture.Postgres
