import PgCapture.Postgres.Decoder.Relation
import PgCapture.Postgres.Decoder.State

namespace PgCapture.Postgres

open PgCapture.Data Cursor

/-! # RELATION messages of the protocol

The server ends each name with a zero byte; the decoder expects each name behind
its length.  A name read with its own first byte as length is never that name:
either the zero byte is read as part of it, or the first character is an ASCII
one and what follows is shorter than the name.
-/

/-- A name as the server stores it. -/
structure PgName where
  text : String
  noNul : (0 : UInt8) ∉ Utf8.encode text
  fits : (Utf8.encode text).length ≤ 63

def PgName.encode (name : PgName) : Bytes := Utf8.encode name.text ++ [0]

structure PgColumn where
  flags : UInt8
  name : PgName
  typeId : UInt32
  typeModifier : Int32

namespace PgColumn

def encode (column : PgColumn) : Bytes :=
  column.flags :: (column.name.encode ++ (putU32 column.typeId ++ putI32 column.typeModifier))

def info (column : PgColumn) : ColumnInfo :=
  { name := column.name.text, typeId := column.typeId, isKey := column.flags &&& 1 ≠ 0 }

end PgColumn

structure PgRelation where
  id : UInt32
  namespaceName : PgName
  name : PgName
  replicaIdentity : UInt8
  columns : List PgColumn
  columnsFit : columns.length < 2 ^ 16

namespace PgRelation

/-- The documented layout of a RELATION body. -/
def encode (relation : PgRelation) : Bytes :=
  putU32 relation.id ++ (relation.namespaceName.encode ++ (relation.name.encode ++
    (relation.replicaIdentity :: (putU16 (UInt16.ofNat relation.columns.length) ++
      relation.columns.flatMap PgColumn.encode))))

def info (relation : PgRelation) : RelationInfo :=
  { id := relation.id, schema := relation.namespaceName.text, table := relation.name.text,
    columns := relation.columns.map PgColumn.info }

/-- No name of the relation has a character. -/
structure Nameless (relation : PgRelation) : Prop where
  namespaceName : relation.namespaceName.text = ""
  name : relation.name.text = ""
  columns : ∀ column ∈ relation.columns, column.name.text = ""

end PgRelation

theorem lengthPrefixed_nameless (tooLong : Nat → Nat → String) {name : PgName} (empty : name.text = "")
    (rest : Bytes) : lengthPrefixed tooLong (name.encode ++ rest) = .ok (name.text, rest) := by
  rw [PgName.encode, empty]
  rfl

/-- The decoder reads a name of the protocol right only when it is empty. -/
theorem lengthPrefixed_own {tooLong : Nat → Nat → String} {name : PgName} {rest tail : Bytes}
    (read : lengthPrefixed tooLong (name.encode ++ rest) = .ok (name.text, tail)) :
    name.text = "" ∧ tail = rest := by
  obtain ⟨taken, shape, same⟩ := lengthPrefixed_eq_ok.mp read
  have text := congrArg String.toList same
  cases chars : name.text.toList with
  | nil =>
      have empty : name.text = "" := String.toList_eq_nil_iff.mp chars
      rw [PgName.encode, empty] at shape
      obtain ⟨zero, bytes⟩ := List.cons.inj shape
      have none : taken.bytes = [] := by
        apply List.length_eq_zero_iff.mp
        rw [taken.sized, ← zero]
        rfl
      rw [none] at bytes
      exact ⟨empty, bytes.symm⟩
  | cons first others =>
      exfalso
      have encoded : Utf8.encode name.text =
          String.utf8EncodeChar first ++ others.flatMap String.utf8EncodeChar := by
        rw [Utf8.encode, chars, List.flatMap_cons]
      cases head : String.utf8EncodeChar first with
      | nil => exact String.utf8EncodeChar_ne_nil head
      | cons byte continuation =>
          rw [head, List.cons_append] at encoded
          rw [PgName.encode, encoded] at shape
          obtain ⟨length, bytes⟩ := List.cons.inj shape
          have sized := taken.sized
          have fits := name.fits
          rw [← length] at sized
          rw [encoded, List.length_cons] at fits
          have window : ((continuation ++ others.flatMap String.utf8EncodeChar) ++ 0 :: rest).take
              byte.toNat = taken.bytes := by
            have split : (continuation ++ others.flatMap String.utf8EncodeChar) ++ 0 :: rest =
                taken.bytes ++ tail := by
              rw [List.append_cons]
              exact bytes
            rw [split, ← sized, List.take_left]
          by_cases inside : byte.toNat ≤ (continuation ++ others.flatMap String.utf8EncodeChar).length
          · -- the first byte is below 0x80, so it is the whole first character
            have low : byte.toNat < 0x80 := by omega
            have value := Utf8.encodeChar_low (head ▸ List.mem_cons_self) low
            have ascii : first.val.toNat < 0x80 := by rwa [value]
            have single := Utf8.encodeChar_of_low ascii
            rw [head] at single
            obtain rfl := (List.cons.inj single).2
            rw [List.nil_append] at window inside
            rw [List.take_append_of_le_length inside] at window
            rw [chars, WireName.text, ← window, Utf8.fromUtf8Lossy, String.toList_ofList] at text
            exact Utf8.lossyChars_take_ne ascii _ _ text.symm
          · obtain ⟨more, count⟩ : ∃ more, byte.toNat =
                (continuation ++ others.flatMap String.utf8EncodeChar).length + (more + 1) :=
              ⟨byte.toNat - (continuation ++ others.flatMap String.utf8EncodeChar).length - 1, by omega⟩
            have member : 0 ∈ taken.bytes := by
              rw [← window, count, List.take_length_add_append, List.take_succ_cons]
              exact List.mem_append_right _ List.mem_cons_self
            have nul := Utf8.nul_mem_encode (Utf8.nul_mem_fromUtf8Lossy member)
            rw [← WireName.text, ← same] at nul
            exact name.noNul nul

theorem relationColumn_nameless {column : PgColumn} (empty : column.name.text = "") (rest : Bytes) :
    relationColumn (column.encode ++ rest) = .ok (column.info, rest) := by
  simp only [relationColumn, PgColumn.encode, List.cons_append, List.append_assoc]
  rw [bind_of_ok (getU8_cons _ _), bind_of_ok (lengthPrefixed_nameless _ empty _),
    bind_of_ok (getU32_put _ _), bind_of_ok (getI32_put _ _)]
  rfl

theorem relationColumn_own {column : PgColumn} {rest tail : Bytes}
    (read : relationColumn (column.encode ++ rest) = .ok (column.info, tail)) :
    column.name.text = "" ∧ tail = rest := by
  simp only [relationColumn, PgColumn.encode, List.cons_append, List.append_assoc] at read
  rw [bind_of_ok (getU8_cons _ _)] at read
  obtain ⟨text, afterName, readName, inType⟩ := bind_eq_ok.mp read
  obtain ⟨typeId, afterType, readType, inModifier⟩ := bind_eq_ok.mp inType
  obtain ⟨modifier, afterModifier, readModifier, built⟩ := bind_eq_ok.mp inModifier
  cases built
  obtain ⟨empty, rfl⟩ := lengthPrefixed_own readName
  rw [getU32_put] at readType
  cases readType
  rw [getI32_put] at readModifier
  cases readModifier
  exact ⟨empty, rfl⟩

theorem relationColumns_nameless {columns : List PgColumn}
    (nameless : ∀ column ∈ columns, column.name.text = "") :
    relationColumns columns.length (columns.flatMap PgColumn.encode) =
      .ok (columns.map PgColumn.info, []) := by
  induction columns with
  | nil => rfl
  | cons column columns ih =>
      have others := ih fun other member => nameless other (List.mem_cons_of_mem _ member)
      rw [List.length_cons, relationColumns, List.flatMap_cons,
        bind_of_ok (relationColumn_nameless (nameless column List.mem_cons_self) _), bind_of_ok others]
      rfl

theorem relationColumns_own {columns : List PgColumn} {rest : Bytes}
    (read : relationColumns columns.length (columns.flatMap PgColumn.encode) =
      .ok (columns.map PgColumn.info, rest)) : ∀ column ∈ columns, column.name.text = "" := by
  induction columns generalizing rest with
  | nil =>
      intro column member
      contradiction
  | cons column columns ih =>
      rw [List.length_cons, relationColumns, List.flatMap_cons] at read
      obtain ⟨info, afterColumn, readColumn, inColumns⟩ := bind_eq_ok.mp read
      obtain ⟨infos, afterColumns, readColumns, returned⟩ := bind_eq_ok.mp inColumns
      cases returned
      obtain ⟨empty, rfl⟩ := relationColumn_own readColumn
      intro other member
      rcases List.mem_cons.mp member with rfl | later
      · exact empty
      · exact ih readColumns other later

theorem relationInfo_pgRelation (relation : PgRelation) :
    relationInfo.run relation.encode = .ok relation.info ↔ relation.Nameless := by
  have count : (UInt16.ofNat relation.columns.length).toNat = relation.columns.length := by
    rw [UInt16.toNat_ofNat']
    have fits := relation.columnsFit
    omega
  have long : ¬ relation.encode.length < 7 := by
    simp only [PgRelation.encode, PgName.encode, List.length_append, List.length_cons, putU32_length,
      putU16_length]
    omega
  rw [relationInfo, run_bind_of_ok (remaining_apply _), if_neg long, PgRelation.encode,
    run_bind_of_ok (getU32_put _ _)]
  constructor
  · intro read
    obtain ⟨rest, accepted⟩ := run_eq_ok.mp read
    obtain ⟨schema, afterSchema, readSchema, inTable⟩ := bind_eq_ok.mp accepted
    obtain ⟨table, afterTable, readTable, inIdentity⟩ := bind_eq_ok.mp inTable
    obtain ⟨identity, afterIdentity, readIdentity, inCount⟩ := bind_eq_ok.mp inIdentity
    obtain ⟨numColumns, afterCount, readCount, inColumns⟩ := bind_eq_ok.mp inCount
    obtain ⟨columns, afterColumns, readColumns, returned⟩ := bind_eq_ok.mp inColumns
    cases returned
    obtain ⟨namespaceEmpty, rfl⟩ := lengthPrefixed_own readSchema
    obtain ⟨nameEmpty, rfl⟩ := lengthPrefixed_own readTable
    cases readIdentity
    rw [getU16_put] at readCount
    cases readCount
    rw [count] at readColumns
    exact ⟨namespaceEmpty, nameEmpty, relationColumns_own readColumns⟩
  · intro nameless
    rw [run_bind_of_ok (lengthPrefixed_nameless _ nameless.namespaceName _),
      run_bind_of_ok (lengthPrefixed_nameless _ nameless.name _), run_bind_of_ok (getU8_cons _ _),
      run_bind_of_ok (getU16_put _ _), count,
      run_bind_of_ok (relationColumns_nameless nameless.columns)]
    rfl

namespace PgOutputDecoder

variable (crates : Crates)

/-- The message is accepted, and the relation it announces is what the decoder
    has under its id from then on. -/
def Understands (self : PgOutputDecoder) (clock : Clock) (relation : PgRelation) (data : Bytes) : Prop :=
  (self.decode crates clock data).1 = .ok none ∧
    (self.decode crates clock data).2.relations relation.id = some relation.info

theorem relationInfo_id {relation : PgRelation} {info : RelationInfo}
    (read : relationInfo.run relation.encode = .ok info) : info.id = relation.id := by
  obtain ⟨rest, accepted⟩ := run_eq_ok.mp read
  rw [relationInfo, bind_of_ok (remaining_apply _)] at accepted
  split at accepted
  · contradiction
  · rw [PgRelation.encode, bind_of_ok (getU32_put _ _)] at accepted
    obtain ⟨schema, afterSchema, _, inTable⟩ := bind_eq_ok.mp accepted
    obtain ⟨table, afterTable, _, inIdentity⟩ := bind_eq_ok.mp inTable
    obtain ⟨identity, afterIdentity, _, inCount⟩ := bind_eq_ok.mp inIdentity
    obtain ⟨numColumns, afterCount, _, inColumns⟩ := bind_eq_ok.mp inCount
    obtain ⟨columns, afterColumns, _, returned⟩ := bind_eq_ok.mp inColumns
    cases returned
    rfl

/-- A RELATION message of the protocol is understood exactly when it names nothing. -/
theorem understands_iff (self : PgOutputDecoder) (clock : Clock) (startLsn endLsn : UInt64)
    (timestamp : Int64) (relation : PgRelation) :
    self.Understands crates clock relation
        (xLogDataFrame startLsn endLsn timestamp (Tag.relation :: relation.encode)) ↔
      relation.Nameless := by
  rw [← relationInfo_pgRelation, Understands,
    decode_headed crates (xLogData?_frame startLsn endLsn timestamp _), decodeBody_relation]
  cases read : relationInfo.run relation.encode with
  | ok info =>
      simp only [decodeRelation, read, true_and, ← relationInfo_id read, Function.update_self,
        Option.some.injEq, Outcome.ok.injEq]
  | err reason => simp [decodeRelation, read]
  | panic => simp [decodeRelation, read]

/-- The table `public.t` with the key `id`, as the server announces it. -/
def publicTable : PgRelation where
  id := 7
  namespaceName := ⟨"public", by decide, by decide⟩
  name := ⟨"t", by decide, by decide⟩
  replicaIdentity := 0x64
  columns := [⟨1, ⟨"id", by decide, by decide⟩, 23, -1⟩]
  columnsFit := by decide

theorem publicTable_rejected :
    ((new "db").decode .idle ⟨0, 0⟩
      (xLogDataFrame 1 2 3 (Tag.relation :: publicTable.encode))).1 =
      .err (.invalidMessage "Invalid namespace length") := rfl

end PgOutputDecoder

end PgCapture.Postgres
