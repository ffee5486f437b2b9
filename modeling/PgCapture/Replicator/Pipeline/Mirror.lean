import PgCapture.Postgres.Decoder.Truncation
import PgCapture.Postgres.RowOp
import PgCapture.Replicator.Pipeline.Unseen

namespace PgCapture

open Data Data.ChangeLog Postgres Kafka

/-! # A table and its mirror

What the whole pipeline is for: a consumer who reads a table's changes from
Kafka in order, and applies them, has the rows of the table.  Between the table
and the consumer lie the wire format, the decoder, the JSON text and the log.
The messages are those the decoder expects, with their header.
-/

/-- A message that announces no table and makes no change: BEGIN, COMMIT and all
    that the decoder passes over or rejects. -/
structure Quiet (crates : Crates) (data : Bytes) : Prop where
  noTable : relation? data = none
  goesOn : ∀ (self : PgOutputDecoder) clock, Pipeline.exitOf (self.decode crates clock data).1 = none
  noChange : ∀ (self : PgOutputDecoder) clock, decodedChange (self.decode crates clock data).1 = none

/-- Every type that is not a table's or a row's: BEGIN, COMMIT and the rest. -/
theorem Quiet.of_body {crates : Crates} {data cursor : Bytes} {endLsn : UInt64}
    {msgType : UInt8} (headed : xLogData? data = some (endLsn, msgType :: cursor))
    (other : msgType ∉ [Tag.relation, Tag.insert, Tag.update, Tag.delete]) : Quiet crates data := by
  simp only [List.mem_cons, List.not_mem_nil, or_false, not_or] at other
  obtain ⟨notRelation, notInsert, notUpdate, notDelete⟩ := other
  constructor
  · rw [relation?, readBehind_cons headed, if_neg notRelation]
  · intro self clock
    rw [decode_headed crates headed]
    cases answer : ((self.atLsn endLsn).decodeBody crates clock (msgType :: cursor)).1 with
    | ok decoded => rfl
    | err reason => rfl
    | panic =>
        have cut := (PgOutputDecoder.decodeBody_eq_panic crates).mp answer
        cases cut <;> contradiction
  · intro self clock
    cases found : decodedChange (self.decode crates clock data).1 with
    | none => rfl
    | some event =>
        obtain ⟨_, _, id, _, _, _, rowId, _⟩ := decode_change crates (decodedChange_eq_some.mp found)
        have noRow : isRow data = false := by
          simp [isRow, headed, notInsert, notUpdate, notDelete]
        simp [rowRelationId?, headed, noRow] at rowId

/-- A message of the server, for one who follows the table `relation`. -/
inductive Sent (crates : Crates) (relation : MockRelation) where
  | announce (builder : MockMessageBuilder) (table : MockRelation)
  | own (builder : MockMessageBuilder) (op : RowOp relation)
  | other (builder : MockMessageBuilder) (table : MockRelation) (op : RowOp table)
      (apart : table.schema ≠ relation.schema ∨ table.table ≠ relation.table)
  | between (data : Bytes) (quiet : Quiet crates data)

def PipelineInput.Idle : PipelineInput → Prop
  | .timeout => True
  | .socket .ignored _ => True
  | .socket (.replied _) _ => True
  | _ => False

inductive StreamInput (crates : Crates) (relation : MockRelation) where
  | waiting (input : PipelineInput) (idle : input.Idle)
  | message (sent : Sent crates relation) (walStart walEnd : UInt64) (answers : Answers)

section Stream

variable {crates : Crates} {relation : MockRelation}

namespace Sent

def data : Sent crates relation → Bytes
  | announce builder table => builder.relationMessage table
  | own builder op => op.message builder
  | other builder _ op _ => op.message builder
  | between data _ => data

def op : Sent crates relation → Option (RowOp relation)
  | own _ op => some op
  | _ => none

end Sent

namespace StreamInput

def input : StreamInput crates relation → PipelineInput
  | waiting input _ => input
  | message sent walStart walEnd answers => .socket (.returned { data := sent.data, walStart, walEnd }) answers

def op : StreamInput crates relation → Option (RowOp relation)
  | waiting _ _ => none
  | message sent _ _ _ => sent.op

end StreamInput

/-- The tables that are announced after a message. -/
def Sent.announced (known : UInt32 → Option MockRelation) :
    Sent crates relation → UInt32 → Option MockRelation
  | .announce _ table => Function.update known table.id (some table)
  | _ => known

/-- A row's table is the last one announced under its number. -/
def Sent.InOrder (known : UInt32 → Option MockRelation) : Sent crates relation → Prop
  | .own _ _ => known relation.id = some relation
  | .other _ table _ _ => known table.id = some table
  | _ => True

def InOrder (known : UInt32 → Option MockRelation) : List (StreamInput crates relation) → Prop
  | [] => True
  | .waiting _ _ :: arrivals => InOrder known arrivals
  | .message sent _ _ _ :: arrivals => sent.InOrder known ∧ InOrder (sent.announced known) arrivals

/-- The decoder has the tables as they were announced. -/
def Knows (decoder : PgOutputDecoder) (known : UInt32 → Option MockRelation) : Prop :=
  ∀ id table, known id = some table → decoder.relations id = some table.info

theorem relations_decode (self : PgOutputDecoder) (clock : Clock) {data : Bytes}
    (noTable : relation? data = none) : (self.decode crates clock data).2.relations = self.relations := by
  rw [decode_state, PgOutputDecoder.advance, noTable]

theorem knows_decode {decoder : PgOutputDecoder} {known : UInt32 → Option MockRelation}
    (knows : Knows decoder known) (sent : Sent crates relation) (clock : Clock) :
    Knows (decoder.decode crates clock sent.data).2 (sent.announced known) := by
  cases sent with
  | announce builder table =>
      intro id other isKnown
      have relations : (decoder.decode crates clock (builder.relationMessage table)).2.relations =
          Function.update decoder.relations table.id (some table.info) := by
        rw [decode_state, PgOutputDecoder.advance, relation?_relationMessage]
        rfl
      rw [Sent.data, relations]
      by_cases same : id = table.id
      · subst same
        rw [Sent.announced, Function.update_self] at isKnown
        cases isKnown
        exact Function.update_self _ _ _
      · rw [Sent.announced, Function.update_of_ne same] at isKnown
        rw [Function.update_of_ne same]
        exact knows id other isKnown
  | own builder op =>
      intro id other isKnown
      rw [Sent.data, relations_decode _ _ (relation?_rowOp builder op)]
      exact knows id other isKnown
  | other builder table op apart =>
      intro id other isKnown
      rw [Sent.data, relations_decode _ _ (relation?_rowOp builder op)]
      exact knows id other isKnown
  | between data quiet =>
      intro id other isKnown
      rw [Sent.data, relations_decode _ _ quiet.noTable]
      exact knows id other isKnown

/-- An event of the table. -/
def OfTable (relation : MockRelation) (event : ChangeEvent) : Bool :=
  event.schema = relation.schema ∧ event.table = relation.table

theorem ofTable_of_isEventOf {op : RowOp relation} {event : ChangeEvent}
    (isEvent : IsEventOf crates op event) : OfTable relation event = true :=
  decide_eq_true (isEventOf_table crates isEvent)

theorem not_ofTable {table : MockRelation} {op : RowOp table} {event : ChangeEvent}
    (isEvent : IsEventOf crates op event)
    (apart : table.schema ≠ relation.schema ∨ table.table ≠ relation.table) :
    OfTable relation event = false := by
  obtain ⟨schema, name⟩ := isEventOf_table crates isEvent
  rw [OfTable, schema, name]
  rcases apart with other | other
  · exact decide_eq_false fun both => other both.1
  · exact decide_eq_false fun both => other both.2

/-- The decoder makes the event of an operation on the table, and none of the
    table from any other message. -/
theorem answer_sent {decoder : PgOutputDecoder} {known : UInt32 → Option MockRelation}
    (knows : Knows decoder known) {sent : Sent crates relation} (inOrder : sent.InOrder known)
    (clock : Clock) :
    Pipeline.exitOf (decoder.decode crates clock sent.data).1 = none ∧
      Option.Rel (IsEventOf crates) sent.op
        ((decodedChange (decoder.decode crates clock sent.data).1).filter (OfTable relation)) := by
  cases sent with
  | announce builder table =>
      have answer := decode_of_relation crates (relation?_relationMessage builder table) decoder clock
      rw [Sent.data, answer]
      exact ⟨rfl, .none⟩
  | own builder op =>
      obtain ⟨event, answer, isEvent⟩ := decode_rowOp crates (knows _ _ inOrder) builder clock op
      rw [Sent.data, answer]
      refine ⟨rfl, ?_⟩
      rw [decodedChange, Option.filter_some, ofTable_of_isEventOf isEvent]
      exact .some isEvent
  | other builder table op apart =>
      obtain ⟨event, answer, isEvent⟩ := decode_rowOp crates (knows _ _ inOrder) builder clock op
      rw [Sent.data, answer]
      refine ⟨rfl, ?_⟩
      rw [decodedChange, Option.filter_some, not_ofTable isEvent apart]
      exact .none
  | between data quiet =>
      rw [Sent.data, quiet.noChange]
      exact ⟨quiet.goesOn decoder clock, .none⟩

theorem events_cons {op : Option (RowOp relation)} {change : Option ChangeEvent}
    (here : Option.Rel (IsEventOf crates) op (change.filter (OfTable relation)))
    {ops : List (RowOp relation)} {events : List ChangeEvent}
    (rest : List.Forall₂ (IsEventOf crates) ops (events.filter (OfTable relation))) :
    List.Forall₂ (IsEventOf crates) (op.toList ++ ops)
      ((change.toList ++ events).filter (OfTable relation)) := by
  have own : change.toList.filter (OfTable relation) = (change.filter (OfTable relation)).toList := by
    cases change with
    | none => rfl
    | some event =>
        rw [Option.toList_some, List.filter_singleton, Option.filter_some]
        cases OfTable relation event <;> rfl
  rw [List.filter_append, own]
  generalize change.filter (OfTable relation) = kept at here
  cases here with
  | none => exact rest
  | some both => exact .cons both rest

theorem events_of_stream {decoder : PgOutputDecoder} {known : UInt32 → Option MockRelation}
    (knows : Knows decoder known) {inputs : List (StreamInput crates relation)}
    (inOrder : InOrder known inputs) :
    List.Forall₂ (IsEventOf crates) (inputs.filterMap StreamInput.op)
      ((Pipeline.decodedChanges crates decoder (inputs.map StreamInput.input)).filter
        (OfTable relation)) := by
  induction inputs generalizing decoder known with
  | nil => exact .nil
  | cons input inputs ih =>
      cases input with
      | waiting given idle =>
          cases given with
          | shutdown now save => exact idle.elim
          | timeout => exact ih knows inOrder
          | socket received answers =>
              cases received with
              | ignored => exact ih knows inOrder
              | replied walEnd => exact ih knows inOrder
              | _ => exact idle.elim
      | message sent walStart walEnd answers =>
          obtain ⟨goesOn, event⟩ := answer_sent knows inOrder.1 answers.clock
          have rest := events_cons event (ih (knows_decode knows sent answers.clock) inOrder.2)
          have ops : (StreamInput.message sent walStart walEnd answers :: inputs).filterMap StreamInput.op =
              sent.op.toList ++ inputs.filterMap StreamInput.op := by
            rw [List.filterMap_cons]
            cases own : sent.op <;> simp [StreamInput.op, own]
          rw [ops]
          simpa only [List.map_cons, StreamInput.input, Pipeline.decodedChanges, goesOn,
            Option.isSome_none, Bool.false_eq_true, if_false] using rest

end Stream

/-- The changes of a table's rows in a log. -/
def consumed (read : String → Option Json) (relation : MockRelation) (records : List Record) :
    List (RowChange Json) :=
  ((records.filterMap fun record => readEvent read record.payload).filter (OfTable relation)).filterMap
    ChangeEvent.rowChange

/-- The consumer's table, by the images of the keys. -/
noncomputable def mirror (read : String → Option Json) (relation : MockRelation)
    (records : List Record) : Table (List Json) Json :=
  applyAll (imageKey (relation.keyColumns.map MockColumn.name)) Table.empty (consumed read relation records)

section Mirror

variable {crates : Crates} {config : Config} {relation : MockRelation} {read : String → Option Json}

theorem read_of_carries {records : List Record} {events : List ChangeEvent}
    (carried : List.Forall₂ (Carries config read) records events) :
    (records.filterMap fun record => readEvent read record.payload) = events := by
  induction carried with
  | nil => rfl
  | cons first _ ih =>
      simp only [List.filterMap_cons, first.payload, ih]

theorem shows_of_events {ops : List (RowOp relation)} {events : List ChangeEvent}
    (made : List.Forall₂ (IsEventOf crates) ops events) :
    List.Forall₂ (Shows (IsImage crates)) (ops.map RowOp.change)
      (events.filterMap ChangeEvent.rowChange) := by
  induction made with
  | nil => exact .nil
  | cons first _ ih =>
      obtain ⟨change, found, shows⟩ := rowChange_shows crates first
      rw [List.map_cons, List.filterMap_cons_some found]
      exact .cons shows ih

/-- A consumer reads the changes of the table, in their order. -/
theorem consumed_shows (maps : crates.KeepsMaps) (broker : Broker) (log : List Record) (count : UInt64)
    (inputs : List (StreamInput crates relation)) (inOrder : InOrder (fun _ => none) inputs)
    (millis : ∀ input ∈ inputs, input.input.MillisClock)
    (back : ∀ event ∈ Pipeline.decodedChanges crates (PgOutputDecoder.new config.database)
        (inputs.map StreamInput.input), ReadsBack read crates.toStringPretty event.toJson) :
    let stop := (Pipeline.start config broker log count).reached crates config
      ((inputs.map StreamInput.input).map PipelineInput.kafkaWorks)
    List.Forall₂ (Shows (IsImage crates)) ((inputs.filterMap StreamInput.op).map RowOp.change)
      (consumed read relation (stop.1.log.drop log.length)) := by
  intro stop
  have knows : Knows (PgOutputDecoder.new config.database) fun _ => none :=
    fun id table impossible => by contradiction
  have same := (Pipeline.changesIn_steps crates config 0 (Pipeline.start config broker log count)
    ((inputs.map StreamInput.input).map PipelineInput.kafkaWorks)).trans
      (Pipeline.decodedChanges_works crates (PgOutputDecoder.new config.database) _)
  obtain ⟨records, kept, carried⟩ := Pipeline.records_of_changes crates config maps read broker log
    count (inputs.map StreamInput.input)
    (fun input member => by
      obtain ⟨own, isInput, rfl⟩ := List.mem_map.mp member
      exact millis own isInput)
    (fun event member => back event (same ▸ member))
  have fresh : stop.1.log.drop log.length = records := by
    rw [kept]
    exact List.drop_left
  have found := (read_of_carries carried).trans same
  rw [consumed, fresh, found]
  exact shows_of_events (events_of_stream knows inOrder)

/-- A consumer who applies what it reads in Kafka has the table: under the image
    of every key the image of its row, and nothing else.  The keys in play must
    not look alike once they are decoded. -/
theorem mirror_follows (maps : crates.KeepsMaps) (broker : Broker) (log : List Record) (count : UInt64)
    (inputs : List (StreamInput crates relation)) (inOrder : InOrder (fun _ => none) inputs)
    (millis : ∀ input ∈ inputs, input.input.MillisClock)
    (back : ∀ event ∈ Pipeline.decodedChanges crates (PgOutputDecoder.new config.database)
        (inputs.map StreamInput.input), ReadsBack read crates.toStringPretty event.toJson)
    {keys : Set (List BinaryValue)}
    (inside : ∀ op ∈ inputs.filterMap StreamInput.op, ∀ row ∈ op.change.rows, row.key ∈ keys)
    (apart : Set.InjOn (relation.keyImage crates) keys) :
    let stop := (Pipeline.start config broker log count).reached crates config
      ((inputs.map StreamInput.input).map PipelineInput.kafkaWorks)
    Copies keys (relation.keyImage crates) (IsImage crates)
      (applyAll MockRow.key Table.empty ((inputs.filterMap StreamInput.op).map RowOp.change))
      (mirror read relation (stop.1.log.drop log.length)) := by
  intro stop
  have agree : ∀ (row : MockRow relation) image, IsImage crates row image →
      imageKey (relation.keyColumns.map MockColumn.name) image = relation.keyImage crates row.key :=
    fun row image => imageKey_of_isImage crates
  apply Copies.empty.applyAll apart agree
  · exact consumed_shows maps broker log count inputs inOrder millis back
  · intro change member row isRow
    obtain ⟨op, isOp, rfl⟩ := List.mem_map.mp member
    exact inside op isOp row isRow

end Mirror

/-- The text of an image, and of a missing one. -/
def stockImageText : Option Json → String
  | some (.object [(_, .integer id), (_, .integer n)]) =>
      "\x7b\n    \"id\": " ++ toString id ++ ",\n    \"n\": " ++ toString n ++ "\n  \x7d"
  | _ => "null"

def stockText (document : Json) : String :=
  let op := match document.get "op" with
    | some (.string op) => op
    | _ => ""
  "\x7b\n  \"schema\": \"s\",\n  \"table\": \"t\",\n  \"op\": \"" ++ op ++ "\",\n  \"ts_ms\": 1,\n" ++
    "  \"before\": " ++ stockImageText (document.get "before") ++
    ",\n  \"after\": " ++ stockImageText (document.get "after") ++
    ",\n  \"source\": \x7b\n    \"version\": \"0.1.0\",\n    \"connector\": \"pg-capture\",\n" ++
    "    \"ts_ms\": 2,\n    \"db\": \"db\",\n    \"schema\": \"s\",\n    \"table\": \"t\",\n" ++
    "    \"lsn\": \"0/64\",\n    \"xid\": null\n  \x7d\n\x7d"

/-- The text of an integer, as a record's key has it. -/
def stockKeyText : Json → String
  | .integer value => toString value
  | _ => ""

def stockPretty : Crates := { Crates.idle with toString := stockKeyText, toStringPretty := stockText }

/-- An empty transaction; then two rows come, one changes, the other goes. -/
def stockStream : List (StreamInput stockPretty stock) :=
  [.message (.between (payloadAt9 (Tag.begin :: List.replicate 20 0)) (.of_body rfl (by decide))) 0 7 .fine,
    .message (.between (payloadAt9 (Tag.commit :: List.replicate 25 0)) (.of_body rfl (by decide))) 0 7 .fine,
    .message (.announce ⟨0, 0⟩ stock) 0 8 .fine,
    .message (.own ⟨0, 0⟩ (.insert (stockRow 1 5))) 0 9 .fine,
    .message (.own ⟨0, 0⟩ (.insert (stockRow 2 6))) 0 10 .fine,
    .waiting .timeout trivial,
    .message (.own ⟨0, 0⟩ (.update none (stockRow 1 4))) 0 11 .fine,
    .message (.own ⟨0, 0⟩ (.delete .key (stockRow 2 0))) 0 12 .fine]

def stockEvent (op : ChangeOperation) (before after : Option Json) : ChangeEvent :=
  ((PgOutputDecoder.new "db").atLsn 100).changeEvent ⟨1, 2⟩ stock.info op before after

def stockImage (id n : Int) : Json := .object [("id", .integer id), ("n", .integer n)]

def stockEvents : List ChangeEvent :=
  [stockEvent .insert none (some (stockImage 1 5)), stockEvent .insert none (some (stockImage 2 6)),
    stockEvent .update none (some (stockImage 1 4)), stockEvent .delete (some (stockImage 2 0)) none]

def readStock : String → Option Json := readerOf stockText (stockEvents.map ChangeEvent.toJson)

set_option maxRecDepth 8000 in
theorem decodedChanges_stock :
    Pipeline.decodedChanges stockPretty (PgOutputDecoder.new sampleConfig.database)
        (stockStream.map StreamInput.input) = stockEvents := rfl

set_option maxRecDepth 8000 in
theorem stockTexts_nodup : (stockEvents.map fun event => stockText event.toJson).Nodup := by
  decide

theorem stock_back : ∀ event ∈ Pipeline.decodedChanges stockPretty
    (PgOutputDecoder.new sampleConfig.database) (stockStream.map StreamInput.input),
    ReadsBack readStock stockPretty.toStringPretty event.toJson := by
  rw [decodedChanges_stock]
  intro event member
  refine readsBack_readerOf (List.mem_map_of_mem member) ?_
  intro document isDocument same
  obtain ⟨other, isOther, rfl⟩ := List.mem_map.mp isDocument
  rw [List.inj_on_of_nodup_map stockTexts_nodup isOther member same]

def stockKeys : Set (List BinaryValue) := {[stockCell 1], [stockCell 2]}

theorem stockKeys_apart : Set.InjOn (stock.keyImage stockPretty) stockKeys := by
  have one : stock.keyImage stockPretty [stockCell 1] = [.integer 1] := rfl
  have two : stock.keyImage stockPretty [stockCell 2] = [.integer 2] := rfl
  rintro left (rfl | rfl) right (rfl | rfl) same
  · rfl
  · rw [one, two] at same
    simp at same
  · rw [one, two] at same
    simp at same
  · rfl

theorem mirror_follows_stock :
    let stop := (Pipeline.start sampleConfig [] [] 0).reached stockPretty
      sampleConfig ((stockStream.map StreamInput.input).map PipelineInput.kafkaWorks)
    Copies stockKeys (stock.keyImage stockPretty) (IsImage stockPretty)
      (applyAll MockRow.key Table.empty ((stockStream.filterMap StreamInput.op).map RowOp.change))
      (mirror readStock stock (stop.1.log.drop 0)) := by
  have millis : IsMillis 1 ∧ IsMillis 2 := by
    simp [IsMillis]
  refine mirror_follows (fun text value impossible => by contradiction) [] [] 0
    stockStream ⟨trivial, trivial, trivial, rfl, rfl, rfl, rfl, trivial⟩ ?_ stock_back ?_ stockKeys_apart
  · intro input member
    simp only [stockStream, List.mem_cons, List.not_mem_nil, or_false] at member
    rcases member with rfl | rfl | rfl | rfl | rfl | rfl | rfl | rfl
    · exact millis
    · exact millis
    · exact millis
    · exact millis
    · exact millis
    · exact trivial
    · exact millis
    · exact millis
  · intro op member row isRow
    simp only [stockStream, List.filterMap_cons, StreamInput.op, Sent.op, List.filterMap_nil,
      List.mem_cons, List.not_mem_nil, or_false] at member
    rcases member with rfl | rfl | rfl | rfl
    · exact .inl (List.mem_singleton.mp isRow ▸ rfl)
    · exact .inr (List.mem_singleton.mp isRow ▸ rfl)
    · exact .inl (List.mem_singleton.mp isRow ▸ rfl)
    · exact .inr (List.mem_singleton.mp isRow ▸ rfl)

end PgCapture
