import PgCapture.Postgres.Decoder

namespace PgCapture.Postgres

open PgCapture.Data Cursor

/-! # The grammar of RELATION messages

The handler checks a minimum size once, and then each name against what is
left.  Every other read is unchecked: a body may end there, and such a body is
described by what was complete before the end.
-/

/-- A name behind its one-byte length. -/
structure WireName where
  length : UInt8
  bytes : Bytes
  sized : bytes.length = length.toNat

def WireName.encode (name : WireName) : Bytes := name.length :: name.bytes

def WireName.text (name : WireName) : String := Utf8.fromUtf8Lossy name.bytes

structure WireColumn where
  flags : UInt8
  name : WireName
  typeId : UInt32
  typeModifier : Int32

namespace WireColumn

def encode (column : WireColumn) : Bytes :=
  column.flags :: (column.name.encode ++ (putU32 column.typeId ++ putI32 column.typeModifier))

def info (column : WireColumn) : ColumnInfo :=
  { name := column.name.text, typeId := column.typeId, isKey := column.flags &&& 1 ≠ 0 }

end WireColumn

/-- A RELATION body as the handler reads it. -/
structure WireRelation where
  id : UInt32
  namespaceName : WireName
  table : WireName
  replicaIdentity : UInt8
  columns : List WireColumn
  counted : columns.length < 2 ^ 16

namespace WireRelation

def encode (relation : WireRelation) : Bytes :=
  putU32 relation.id ++ (relation.namespaceName.encode ++ (relation.table.encode ++
    (relation.replicaIdentity :: (putU16 (UInt16.ofNat relation.columns.length) ++
      relation.columns.flatMap WireColumn.encode))))

def info (relation : WireRelation) : RelationInfo :=
  { id := relation.id, schema := relation.namespaceName.text, table := relation.table.text
    columns := relation.columns.map WireColumn.info }

end WireRelation

inductive CutColumn : Bytes → Prop where
  | name {bytes : Bytes} (short : bytes.length < 2) : CutColumn bytes
  | type (flags : UInt8) (name : WireName) {rest : Bytes} (short : rest.length < 8) :
      CutColumn (flags :: (name.encode ++ rest))

inductive CutColumns (count : Nat) : Bytes → Prop where
  | after (columns : List WireColumn) {rest : Bytes} (more : columns.length < count)
      (cut : CutColumn rest) : CutColumns count (columns.flatMap WireColumn.encode ++ rest)

/-- A RELATION body that ends behind one of its names, or in a column. -/
inductive CutRelation : Bytes → Prop where
  | tableLength (id : UInt32) (namespaceName : WireName) :
      CutRelation (putU32 id ++ namespaceName.encode)
  | columnCount (id : UInt32) (namespaceName table : WireName) {rest : Bytes}
      (short : rest.length < 3) :
      CutRelation (putU32 id ++ (namespaceName.encode ++ (table.encode ++ rest)))
  | columns (id : UInt32) (namespaceName table : WireName) (replicaIdentity : UInt8)
      (count : UInt16) {rest : Bytes} (cut : CutColumns count.toNat rest) :
      CutRelation (putU32 id ++ (namespaceName.encode ++ (table.encode ++
        (replicaIdentity :: (putU16 count ++ rest)))))

theorem lengthPrefixed_eq_ok {tooLong : Nat → Nat → String} {bytes rest : Bytes} {text : String} :
    lengthPrefixed tooLong bytes = .ok (text, rest) ↔
      ∃ name : WireName, bytes = name.encode ++ rest ∧ text = name.text := by
  constructor
  · intro accepted
    obtain ⟨length, afterLength, readLength, checked⟩ := bind_eq_ok.mp accepted
    obtain rfl := getU8_eq_ok.mp readLength
    rw [bind_of_ok (remaining_apply _)] at checked
    split at checked
    · contradiction
    · obtain ⟨name, afterName, readName, returned⟩ := bind_eq_ok.mp checked
      obtain ⟨rfl, sized⟩ := takeBytes_eq_ok.mp readName
      cases returned
      exact ⟨⟨length, name, sized⟩, rfl, rfl⟩
  · intro written
    obtain ⟨name, rfl, rfl⟩ := written
    have enough : ¬ (name.bytes ++ rest).length < name.length.toNat := by
      rw [List.length_append, name.sized]
      omega
    rw [lengthPrefixed, WireName.encode, List.cons_append, bind_of_ok (getU8_cons _ _),
      bind_of_ok (remaining_apply _), if_neg enough,
      bind_of_ok (takeBytes_append _ rest name.sized)]
    rfl

theorem lengthPrefixed_eq_panic {tooLong : Nat → Nat → String} {bytes : Bytes} :
    lengthPrefixed tooLong bytes = .panic ↔ bytes = [] := by
  rw [lengthPrefixed, bind_eq_panic, getU8_eq_panic, or_iff_left]
  intro later
  obtain ⟨length, afterLength, _, later⟩ := later
  rw [bind_of_ok (remaining_apply _)] at later
  split at later
  · contradiction
  · rename_i enough
    rw [bind_of_ok (takeBytes_of_le (Nat.le_of_not_lt enough))] at later
    contradiction

theorem relationColumn_eq_ok {bytes rest : Bytes} {info : ColumnInfo} :
    relationColumn bytes = .ok (info, rest) ↔
      ∃ column : WireColumn, bytes = column.encode ++ rest ∧ info = column.info := by
  constructor
  · intro accepted
    obtain ⟨flags, afterFlags, readFlags, read⟩ := bind_eq_ok.mp accepted
    obtain ⟨text, afterName, readName, read⟩ := bind_eq_ok.mp read
    obtain ⟨typeId, afterType, readType, read⟩ := bind_eq_ok.mp read
    obtain ⟨typeModifier, afterModifier, readModifier, read⟩ := bind_eq_ok.mp read
    obtain ⟨name, rfl, rfl⟩ := lengthPrefixed_eq_ok.mp readName
    cases read
    refine ⟨⟨flags, name, typeId, typeModifier⟩, ?_, rfl⟩
    rw [getU8_eq_ok.mp readFlags, getU32_eq_ok.mp readType, getI32_eq_ok.mp readModifier]
    simp only [WireColumn.encode, List.cons_append, List.append_assoc]
  · intro written
    obtain ⟨column, rfl, rfl⟩ := written
    simp only [relationColumn, WireColumn.encode, List.cons_append, List.append_assoc]
    rw [bind_of_ok (getU8_cons _ _), bind_of_ok (lengthPrefixed_eq_ok.mpr ⟨column.name, rfl, rfl⟩),
      bind_of_ok (getU32_put _ _), bind_of_ok (getI32_put _ _)]
    rfl

theorem relationColumn_eq_panic {bytes : Bytes} :
    relationColumn bytes = .panic ↔ CutColumn bytes := by
  constructor
  · intro panicked
    rcases bind_eq_panic.mp panicked with absent | ⟨flags, afterFlags, readFlags, inName⟩
    · rw [getU8_eq_panic.mp absent]
      exact .name (by decide)
    · rw [getU8_eq_ok.mp readFlags]
      rcases bind_eq_panic.mp inName with absent | ⟨text, afterName, readName, inType⟩
      · rw [lengthPrefixed_eq_panic.mp absent]
        exact .name (Nat.lt_succ_self 1)
      · obtain ⟨name, rfl, _⟩ := lengthPrefixed_eq_ok.mp readName
        refine .type flags name ?_
        rcases bind_eq_panic.mp inType with short | ⟨typeId, afterType, readType, inModifier⟩
        · exact Nat.lt_of_lt_of_le (getU32_eq_panic.mp short) (by decide)
        · rw [getU32_eq_ok.mp readType, List.length_append, putU32_length]
          rcases bind_eq_panic.mp inModifier with short | ⟨typeModifier, afterModifier, _, returned⟩
          · have left := getI32_eq_panic.mp short
            omega
          · contradiction
  · intro cut
    cases cut with
    | name short =>
        match bytes, short with
        | [], _ => rfl
        | [flags], _ => rfl
    | type flags name short =>
        rename_i rest
        rw [relationColumn, bind_of_ok (getU8_cons _ _),
          bind_of_ok (lengthPrefixed_eq_ok.mpr ⟨name, rfl, rfl⟩)]
        by_cases first : rest.length < 4
        · exact bind_eq_panic.mpr (Or.inl (getU32_eq_panic.mpr first))
        · have second : (rest.drop 4).length < 4 := by
            rw [List.length_drop]
            omega
          rw [bind_of_ok (getU32_of_le (Nat.le_of_not_lt first))]
          exact bind_eq_panic.mpr (Or.inl (getI32_eq_panic.mpr second))

theorem relationColumns_eq_panic {count : Nat} {bytes : Bytes} :
    relationColumns count bytes = .panic ↔ CutColumns count bytes := by
  induction count generalizing bytes with
  | zero =>
      constructor
      · intro panicked
        contradiction
      · intro cut
        cases cut with
        | after columns more => exact absurd more (Nat.not_lt_zero _)
  | succ count ih =>
      rw [relationColumns, bind_eq_panic, relationColumn_eq_panic]
      constructor
      · intro panicked
        rcases panicked with cut | ⟨info, rest, readColumn, panicked⟩
        · exact CutColumns.after [] (Nat.succ_pos _) cut
        · obtain ⟨column, rfl, rfl⟩ := relationColumn_eq_ok.mp readColumn
          rcases bind_eq_panic.mp panicked with inColumns | ⟨infos, tail, _, returned⟩
          · cases ih.mp inColumns with
            | after columns more cut =>
                have shifted := CutColumns.after (column :: columns) (Nat.succ_lt_succ more) cut
                rwa [List.flatMap_cons, List.append_assoc] at shifted
          · contradiction
      · intro cut
        cases cut with
        | after columns more cut =>
            cases columns with
            | nil => exact Or.inl cut
            | cons column columns =>
                rw [List.flatMap_cons, List.append_assoc]
                refine Or.inr ⟨_, _, relationColumn_eq_ok.mpr ⟨column, rfl, rfl⟩, ?_⟩
                exact bind_eq_panic.mpr (Or.inl
                  (ih.mpr (.after columns (Nat.lt_of_succ_lt_succ more) cut)))

theorem relationInfo_eq_panic {bytes : Bytes} :
    relationInfo bytes = .panic ↔ 7 ≤ bytes.length ∧ CutRelation bytes := by
  rw [relationInfo, bind_of_ok (remaining_apply bytes)]
  by_cases small : bytes.length < 7
  · have notLong : ¬ 7 ≤ bytes.length := Nat.not_le_of_lt small
    simp [if_pos small, notLong]
  · rw [if_neg small, and_iff_right (Nat.le_of_not_lt small)]
    constructor
    · intro panicked
      rcases bind_eq_panic.mp panicked with short | ⟨id, afterId, readId, inSchema⟩
      · have left := getU32_eq_panic.mp short
        omega
      · obtain rfl := getU32_eq_ok.mp readId
        rcases bind_eq_panic.mp inSchema with absent | ⟨schema, afterSchema, readSchema, inTable⟩
        · -- the minimum size covers the length of the first name
          rw [lengthPrefixed_eq_panic.mp absent, List.append_nil, putU32_length] at small
          omega
        · obtain ⟨namespaceName, rfl, _⟩ := lengthPrefixed_eq_ok.mp readSchema
          rcases bind_eq_panic.mp inTable with absent | ⟨text, afterTable, readTable, inIdentity⟩
          · rw [lengthPrefixed_eq_panic.mp absent, List.append_nil]
            exact .tableLength id namespaceName
          · obtain ⟨table, rfl, _⟩ := lengthPrefixed_eq_ok.mp readTable
            rcases bind_eq_panic.mp inIdentity with absent | ⟨identity, afterIdentity, readIdentity, inCount⟩
            · rw [getU8_eq_panic.mp absent]
              exact .columnCount id namespaceName table (by decide)
            · obtain rfl := getU8_eq_ok.mp readIdentity
              rcases bind_eq_panic.mp inCount with short | ⟨count, afterCount, readCount, inColumns⟩
              · exact .columnCount id namespaceName table
                  (Nat.succ_lt_succ (getU16_eq_panic.mp short))
              · obtain rfl := getU16_eq_ok.mp readCount
                rcases bind_eq_panic.mp inColumns with cut | ⟨columns, tail, _, returned⟩
                · exact .columns id namespaceName table identity count
                    (relationColumns_eq_panic.mp cut)
                · contradiction
    · intro cut
      cases cut with
      | tableLength id namespaceName =>
          have schema : lengthPrefixed (fun _ _ => "Invalid namespace length") namespaceName.encode =
              .ok (namespaceName.text, []) :=
            lengthPrefixed_eq_ok.mpr ⟨namespaceName, (List.append_nil _).symm, rfl⟩
          rw [bind_of_ok (getU32_put _ _), bind_of_ok schema]
          rfl
      | columnCount id namespaceName table short =>
          rename_i rest
          rw [bind_of_ok (getU32_put _ _),
            bind_of_ok (lengthPrefixed_eq_ok.mpr ⟨namespaceName, rfl, rfl⟩),
            bind_of_ok (lengthPrefixed_eq_ok.mpr ⟨table, rfl, rfl⟩)]
          cases rest with
          | nil => rfl
          | cons identity rest =>
              rw [bind_of_ok (getU8_cons _ _)]
              exact bind_eq_panic.mpr (Or.inl (getU16_eq_panic.mpr (Nat.lt_of_succ_lt_succ short)))
      | columns id namespaceName table identity count cut =>
          rw [bind_of_ok (getU32_put _ _),
            bind_of_ok (lengthPrefixed_eq_ok.mpr ⟨namespaceName, rfl, rfl⟩),
            bind_of_ok (lengthPrefixed_eq_ok.mpr ⟨table, rfl, rfl⟩), bind_of_ok (getU8_cons _ _),
            bind_of_ok (getU16_put _ _)]
          exact bind_eq_panic.mpr (Or.inl (relationColumns_eq_panic.mpr cut))

end PgCapture.Postgres
