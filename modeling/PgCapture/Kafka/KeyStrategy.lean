import PgCapture.Data.Separated
import PgCapture.Kafka.Producer

namespace PgCapture.Kafka

open Data Postgres

/-! # Record keys

The key of an event is read from the row the event is about.  A field of a row
is looked up by a path, so a dot in a column name leads into the column's value.
`toText` stands for the JSON library's `to_string` of a value.
-/

inductive KeyStrategy where
  | tableName
  | primaryKey (columns : List String)
  | fieldPath (path : String)
  | composite (fields : List String)
  | none
deriving DecidableEq, Repr

/-- The row before a delete, and the row after every other operation. -/
def keyRecord (event : ChangeEvent) : Option Json :=
  match event.op with
  | .delete => event.before
  | _ => event.after

def pathParts (fieldPath : String) : List String :=
  (fieldPath.toList.splitOn '.').map String.ofList

/-- The value at a path, one object after another. -/
def fieldAt (record : Json) (fieldPath : String) : Option Json :=
  (pathParts fieldPath).foldlM Json.get record

section Extract

variable (toText : Json → String)

/-- The text of a value in a key; a null has none. -/
def fieldText : Json → Option String
  | .string value => some value
  | .bool value => some (if value then "true" else "false")
  | .null => none
  | value => some (toText value)

def extractFieldValue (record : Json) (fieldPath : String) : Option String :=
  (fieldAt record fieldPath).bind (fieldText toText)

def extractCompositeKey (record : Json) (fields : List String) : Option String := do
  let keyParts ← fields.mapM (extractFieldValue toText record)
  if keyParts = [] then none else some (":".intercalate keyParts)

def KeyStrategy.extractKey (strategy : KeyStrategy) (event : ChangeEvent) : Option String :=
  match strategy with
  | .tableName => some (event.schema ++ "." ++ event.table)
  | .primaryKey columns =>
      (keyRecord event).bind fun record => extractCompositeKey toText record columns
  | .fieldPath path => (keyRecord event).bind fun record => extractFieldValue toText record path
  | .composite fields =>
      (keyRecord event).bind fun record => extractCompositeKey toText record fields
  | .none => Option.none

end Extract

/-- A column's value, unless it is null. -/
def present (fields : List (String × Json)) (column : String) : Option Json :=
  match OrderedMap.get? column fields with
  | some .null => none
  | found => found

theorem pathParts_of_plain {column : String} (plain : '.' ∉ column.toList) :
    pathParts column = [column] := by
  rw [pathParts, List.splitOn_eq_singleton plain, List.map_singleton, String.ofList_toList]

theorem fieldAt_of_plain {column : String} (plain : '.' ∉ column.toList)
    (fields : List (String × Json)) :
    fieldAt (.object fields) column = OrderedMap.get? column fields := by
  rw [fieldAt, pathParts_of_plain plain, List.foldlM_cons, Json.get]
  exact bind_pure _

/-- A path of several parts ends at a value that is not an object. -/
theorem fieldAt_of_dotted {column : String} (dotted : '.' ∈ column.toList)
    {fields : List (String × Json)} (flat : ∀ key value, OrderedMap.get? key fields = some value →
      ∀ next, value.get next = none) :
    fieldAt (.object fields) column = none := by
  have several : 2 ≤ (pathParts column).length := by
    have marks := List.count_pos_iff.mpr dotted
    rw [pathParts, List.length_map, Separated.length_splitOn]
    omega
  rw [fieldAt]
  cases parts : pathParts column with
  | nil => simp [parts] at several
  | cons first rest =>
      cases rest with
      | nil => simp [parts] at several
      | cons second rest =>
          rw [List.foldlM_cons, Json.get]
          cases found : OrderedMap.get? first fields with
          | none => rfl
          | some value =>
              rw [Option.bind_eq_bind, Option.bind_some, List.foldlM_cons,
                flat first value found second]
              rfl

theorem isSome_mapM (read : α → Option β) (inputs : List α) :
    (inputs.mapM read).isSome ↔ ∀ input ∈ inputs, (read input).isSome := by
  induction inputs with
  | nil => simp
  | cons input inputs ih =>
      rw [List.mapM_cons, List.forall_mem_cons, ← ih]
      cases read input with
      | none => simp
      | some value => cases inputs.mapM read <;> simp

section Columns

variable {toText : Json → String}

/-- Every listed field adds its text to the key, so a key is missing only when a
field is. -/
theorem extractCompositeKey_eq {fields : List String} (listed : fields ≠ []) (record : Json) :
    extractCompositeKey toText record fields =
      (fields.mapM (extractFieldValue toText record)).map (":".intercalate ·) := by
  cases fields with
  | nil => contradiction
  | cons field fields =>
      rw [extractCompositeKey, List.mapM_cons]
      cases extractFieldValue toText record field with
      | none => rfl
      | some text =>
          cases fields.mapM (extractFieldValue toText record) with
          | none => rfl
          | some texts => simp

def valueText (toText : Json → String) (value : Json) : String :=
  (fieldText toText value).getD ""

theorem extractFieldValue_of_plain {column : String} (plain : '.' ∉ column.toList)
    (fields : List (String × Json)) :
    extractFieldValue toText (.object fields) column =
      (present fields column).map (valueText toText) := by
  rw [extractFieldValue, fieldAt_of_plain plain, present]
  cases OrderedMap.get? column fields with
  | none => rfl
  | some value => cases value <;> rfl

theorem mapM_extractFieldValue {columns : List String}
    (plain : ∀ column ∈ columns, '.' ∉ column.toList) (fields : List (String × Json)) :
    columns.mapM (extractFieldValue toText (.object fields)) =
      (columns.mapM (present fields)).map (List.map (valueText toText)) := by
  induction columns with
  | nil => rfl
  | cons column columns ih =>
      have rest := ih fun other member => plain other (List.mem_cons_of_mem _ member)
      rw [List.mapM_cons, List.mapM_cons, rest,
        extractFieldValue_of_plain (plain column List.mem_cons_self)]
      cases present fields column with
      | none => rfl
      | some value => cases columns.mapM (present fields) <;> rfl

/-- A row in which every column of the list holds one, and there are no others. -/
def rowOfOnes (columns : List String) : List (String × Json) :=
  OrderedMap.insertAll (columns.map fun column => (column, .integer 1)) []

theorem get?_rowOfOnes {columns : List String} {column : String} (member : column ∈ columns) :
    OrderedMap.get? column (rowOfOnes columns) = some (.integer 1) := by
  have agree : ∀ left ∈ columns.map (fun column => (column, Json.integer 1)),
      ∀ right ∈ columns.map (fun column => (column, Json.integer 1)),
        left.1 = right.1 → left.2 = right.2 := by
    intro left leftMember right rightMember _
    obtain ⟨_, _, rfl⟩ := List.mem_map.mp leftMember
    obtain ⟨_, _, rfl⟩ := List.mem_map.mp rightMember
    rfl
  exact (OrderedMap.get?_insertAll_all_iff _).mpr agree _ (List.mem_map_of_mem member)

theorem rowOfOnes_flat (columns : List String) (key : String) (value : Json)
    (found : OrderedMap.get? key (rowOfOnes columns) = some value) (next : String) :
    value.get next = none := by
  rw [rowOfOnes, OrderedMap.get?_insertAll_reverse, OrderedMap.get?, Option.or_none] at found
  have member := List.mem_reverse.mp (OrderedMap.mem_of_get? found)
  obtain ⟨column, _, same⟩ := List.mem_map.mp member
  cases same
  rfl

/-- The keys of a primary key are those of its columns, whatever else the row
has, exactly when no column name has a dot. -/
theorem primaryKey_columns_iff (toText : Json → String) (first : String)
    (rest : List String) :
    (∃ combine : List Json → String, ∀ (event : ChangeEvent) (fields : List (String × Json)),
      keyRecord event = some (.object fields) → (OrderedMap.keys fields).Pairwise (· < ·) →
      (KeyStrategy.primaryKey (first :: rest)).extractKey toText event =
        ((first :: rest).mapM (present fields)).map combine) ↔
      ∀ column ∈ first :: rest, '.' ∉ column.toList := by
  have listed : first :: rest ≠ [] := List.cons_ne_nil _ _
  constructor
  · intro determined column member dotted
    obtain ⟨combine, law⟩ := determined
    let columns := first :: rest
    let event := ChangeEvent.insertInto "users" "0/9" (.object (rowOfOnes columns))
    have key := law event (rowOfOnes columns) rfl (OrderedMap.insertAll_sorted _ List.Pairwise.nil)
    rw [KeyStrategy.extractKey, show keyRecord event = some (.object (rowOfOnes columns)) from rfl,
      Option.bind_some, extractCompositeKey_eq listed] at key
    have values : (columns.mapM (present (rowOfOnes columns))).isSome := by
      rw [isSome_mapM]
      intro other listed
      rw [present, get?_rowOfOnes listed]
      rfl
    have texts : (columns.mapM (extractFieldValue toText (.object (rowOfOnes columns)))).isSome := by
      have isSome := congrArg Option.isSome key
      rw [Option.isSome_map, Option.isSome_map] at isSome
      rw [isSome]
      exact values
    have text := (isSome_mapM _ _).mp texts column member
    rw [extractFieldValue, fieldAt_of_dotted dotted (rowOfOnes_flat columns)] at text
    cases text
  · intro plain
    refine ⟨fun values => ":".intercalate (values.map (valueText toText)), ?_⟩
    intro event fields record _
    rw [KeyStrategy.extractKey, record, Option.bind_some, extractCompositeKey_eq listed,
      mapM_extractFieldValue plain, Option.map_map]
    rfl

end Columns

/-- The row of the only event of a table with a dotted column. -/
def dottedInsert : ChangeEvent :=
  .insertInto "users" "0/9" (.object [("a.b", .integer 1)])

theorem dottedInsert_has_no_key :
    ¬ (((KeyStrategy.primaryKey ["a.b"]).extractKey (fun _ => "1") dottedInsert).isSome ↔
      ∀ column ∈ ["a.b"], (present [("a.b", .integer 1)] column).isSome) := by
  decide

/-- The string at a path, if there is one. -/
def stringAt (record : Json) (fieldPath : String) : Option String :=
  match fieldAt record fieldPath with
  | some (.string value) => some value
  | _ => none

theorem stringAt_eq_some {record : Json} {fieldPath value : String} :
    stringAt record fieldPath = some value ↔ fieldAt record fieldPath = some (.string value) := by
  rw [stringAt]
  cases fieldAt record fieldPath with
  | none => simp
  | some found => cases found <;> simp

section Strings

variable {toText : Json → String} {fields : List String}

theorem mapM_extractFieldValue_of_strings {record : Json} {values : List String}
    (hold : fields.mapM (stringAt record) = some values) :
    fields.mapM (extractFieldValue toText record) = some values := by
  induction fields generalizing values with
  | nil => exact hold
  | cons field fields ih =>
      rw [List.mapM_cons] at hold ⊢
      obtain ⟨value, first, hold⟩ := Option.bind_eq_some_iff.mp hold
      obtain ⟨texts, rest, same⟩ := Option.bind_eq_some_iff.mp hold
      rw [extractFieldValue, stringAt_eq_some.mp first, ih rest]
      exact same

/-- Rows with strings in every field agree on the fields when the strings do. -/
theorem fieldAt_agree_iff {leftRow rightRow : Json} {lefts rights : List String}
    (leftHold : fields.mapM (stringAt leftRow) = some lefts)
    (rightHold : fields.mapM (stringAt rightRow) = some rights) :
    (∀ field ∈ fields, fieldAt leftRow field = fieldAt rightRow field) ↔ lefts = rights := by
  induction fields generalizing lefts rights with
  | nil =>
      cases leftHold
      cases rightHold
      simp
  | cons field fields ih =>
      rw [List.mapM_cons] at leftHold rightHold
      obtain ⟨left, leftFirst, leftHold⟩ := Option.bind_eq_some_iff.mp leftHold
      obtain ⟨leftRest, leftMore, same⟩ := Option.bind_eq_some_iff.mp leftHold
      cases same
      obtain ⟨right, rightFirst, rightHold⟩ := Option.bind_eq_some_iff.mp rightHold
      obtain ⟨rightRest, rightMore, same⟩ := Option.bind_eq_some_iff.mp rightHold
      cases same
      rw [List.forall_mem_cons, ih leftMore rightMore, stringAt_eq_some.mp leftFirst,
        stringAt_eq_some.mp rightFirst]
      simp

theorem extractKey_of_strings {strategy : KeyStrategy} (listed : fields ≠ [])
    (joined : strategy = .primaryKey fields ∨ strategy = .composite fields) {event : ChangeEvent}
    {row : Json} (record : keyRecord event = some row) {values : List String}
    (hold : fields.mapM (stringAt row) = some values) :
    strategy.extractKey toText event = some (":".intercalate values) := by
  have key : extractCompositeKey toText row fields = some (":".intercalate values) := by
    rw [extractCompositeKey_eq listed, mapM_extractFieldValue_of_strings hold, Option.map_some]
  rcases joined with rfl | rfl <;> rw [KeyStrategy.extractKey, record, Option.bind_some, key]

theorem values_ne_nil (listed : fields ≠ []) {row : Json} {values : List String}
    (hold : fields.mapM (stringAt row) = some values) : values ≠ [] := by
  cases fields with
  | nil => contradiction
  | cons field fields =>
      rw [List.mapM_cons] at hold
      obtain ⟨value, _, hold⟩ := Option.bind_eq_some_iff.mp hold
      obtain ⟨rest, _, same⟩ := Option.bind_eq_some_iff.mp hold
      cases same
      exact List.cons_ne_nil _ _

end Strings

/-- Two rows have different keys unless they agree, except when their strings
have the same pieces between colons, divided differently among the fields. -/
theorem compositeKey_distinct_iff (toText : Json → String) (fields : List String)
    (strategy : KeyStrategy) (listed : fields ≠ [])
    (joined : strategy = .primaryKey fields ∨ strategy = .composite fields)
    (left right : ChangeEvent) (leftRow rightRow : Json) (lefts rights : List String)
    (leftRecord : keyRecord left = some leftRow) (rightRecord : keyRecord right = some rightRow)
    (leftHold : fields.mapM (stringAt leftRow) = some lefts)
    (rightHold : fields.mapM (stringAt rightRow) = some rights) :
    (strategy.extractKey toText left = strategy.extractKey toText right →
        ∀ field ∈ fields, fieldAt leftRow field = fieldAt rightRow field) ↔
      ¬ (Separated.pieces ':' (lefts.map String.toList) =
            Separated.pieces ':' (rights.map String.toList) ∧
          lefts.map (·.toList.count ':') ≠ rights.map (·.toList.count ':')) := by
  have someLeft : lefts.map String.toList ≠ [] := by simpa using values_ne_nil listed leftHold
  have someRight : rights.map String.toList ≠ [] := by simpa using values_ne_nil listed rightHold
  have distinct := Separated.intercalate_injective_iff ':' someLeft someRight
  rw [List.map_map, List.map_map] at distinct
  rw [extractKey_of_strings listed joined leftRecord leftHold,
    extractKey_of_strings listed joined rightRecord rightHold, fieldAt_agree_iff leftHold rightHold,
    Option.some.injEq, ← String.toList_inj, String.toList_intercalate, String.toList_intercalate]
  have injective : Function.Injective String.toList := fun _ _ equal => String.toList_inj.mp equal
  have same : lefts.map String.toList = rights.map String.toList ↔ lefts = rights :=
    (List.map_injective_iff.mpr injective).eq_iff
  rw [same] at distinct
  exact distinct

/-- An insert of a row with these two columns. -/
def insertPair (left right : String) : ChangeEvent :=
  .insertInto "users" "0/9" (.object [("left", .string left), ("right", .string right)])

theorem compositeKey_distinct_plain :
    ((KeyStrategy.composite ["left", "right"]).extractKey (fun _ => "1")
            (insertPair "a" "c") =
          (KeyStrategy.composite ["left", "right"]).extractKey (fun _ => "1")
            (insertPair "b" "c") →
        ∀ field ∈ ["left", "right"],
          fieldAt (.object [("left", .string "a"), ("right", .string "c")]) field =
            fieldAt (.object [("left", .string "b"), ("right", .string "c")]) field) ↔
      ¬ (Separated.pieces ':' (["a", "c"].map String.toList) =
            Separated.pieces ':' (["b", "c"].map String.toList) ∧
          ["a", "c"].map (·.toList.count ':') ≠ ["b", "c"].map (·.toList.count ':')) :=
  compositeKey_distinct_iff (fun _ => "1") ["left", "right"]
    (.composite ["left", "right"]) (by decide) (.inr rfl) (insertPair "a" "c") (insertPair "b" "c")
    (.object [("left", .string "a"), ("right", .string "c")])
    (.object [("left", .string "b"), ("right", .string "c")]) ["a", "c"] ["b", "c"] rfl rfl
    (by decide) (by decide)

/-- A colon moves from the second column's value to the first one's. -/
theorem insertPair_collision :
    (KeyStrategy.composite ["left", "right"]).extractKey (fun _ => "1")
          (insertPair "a:b" "c") =
        (KeyStrategy.composite ["left", "right"]).extractKey (fun _ => "1")
          (insertPair "a" "b:c") ∧
      stringAt (.object [("left", .string "a:b"), ("right", .string "c")]) "left" ≠
        stringAt (.object [("left", .string "a"), ("right", .string "b:c")]) "left" := by
  decide

/-- Names qualified with a dot are different unless the dots divide them differently. -/
theorem qualified_distinct_iff (schema table otherSchema otherTable : String) :
    (schema ++ "." ++ table = otherSchema ++ "." ++ otherTable →
        schema = otherSchema ∧ table = otherTable) ↔
      ¬ (schema.toList.splitOn '.' ++ table.toList.splitOn '.' =
            otherSchema.toList.splitOn '.' ++ otherTable.toList.splitOn '.' ∧
          schema.toList.count '.' ≠ otherSchema.toList.count '.') := by
  have distinct := Separated.intercalate_injective_iff '.'
    (List.cons_ne_nil schema.toList [table.toList])
    (List.cons_ne_nil otherSchema.toList [otherTable.toList])
  have text : ∀ schema table : String, (schema ++ "." ++ table).toList =
      ['.'].intercalate [schema.toList, table.toList] := by
    intro schema table
    simp
  have parts : ∀ schema table : String, Separated.pieces '.' [schema.toList, table.toList] =
      schema.toList.splitOn '.' ++ table.toList.splitOn '.' := by
    intro schema table
    simp [Separated.pieces]
  have names : [schema.toList, table.toList] = [otherSchema.toList, otherTable.toList] ↔
      schema = otherSchema ∧ table = otherTable := by
    simp [String.toList_inj]
  rw [← text, ← text, String.toList_inj, parts, parts, names] at distinct
  rw [distinct, not_and, not_and]
  apply forall_congr'
  intro same
  -- equal pieces leave equally many dots, so one name decides for both
  have total := congrArg List.length same
  simp only [List.length_append, Separated.length_splitOn] at total
  rw [ne_eq, ne_eq, not_not, not_not]
  simp only [List.map_cons, List.map_nil, List.cons.injEq, and_true]
  omega

theorem topicName_eq_iff (config : Config) (schema table otherSchema otherTable : String) :
    config.topicName schema table = config.topicName otherSchema otherTable ↔
      schema ++ "." ++ table = otherSchema ++ "." ++ otherTable := by
  rw [Config.topicName, Config.topicName, ← String.toList_inj, ← String.toList_inj]
  simp

/-- Two tables have different topics, and different table-name keys, unless their
names have the same pieces between dots, divided differently into schema and table. -/
theorem route_distinct_iff (config : Config) (toText : Json → String)
    (left right : ChangeEvent) :
    ((config.topicName left.schema left.table = config.topicName right.schema right.table →
        left.schema = right.schema ∧ left.table = right.table) ↔
      ¬ (left.schema.toList.splitOn '.' ++ left.table.toList.splitOn '.' =
            right.schema.toList.splitOn '.' ++ right.table.toList.splitOn '.' ∧
          left.schema.toList.count '.' ≠ right.schema.toList.count '.')) ∧
    ((KeyStrategy.tableName.extractKey toText left =
          KeyStrategy.tableName.extractKey toText right →
        left.schema = right.schema ∧ left.table = right.table) ↔
      ¬ (left.schema.toList.splitOn '.' ++ left.table.toList.splitOn '.' =
            right.schema.toList.splitOn '.' ++ right.table.toList.splitOn '.' ∧
          left.schema.toList.count '.' ≠ right.schema.toList.count '.')) := by
  have distinct := qualified_distinct_iff left.schema left.table right.schema right.table
  rw [topicName_eq_iff, KeyStrategy.extractKey, KeyStrategy.extractKey, Option.some.injEq]
  exact ⟨distinct, distinct⟩

theorem topics_collide :
    Config.topicName ⟨"db", "cdc"⟩ "a.b" "c" = Config.topicName ⟨"db", "cdc"⟩ "a" "b.c" ∧
      "a.b" ≠ "a" := by
  decide

end PgCapture.Kafka
