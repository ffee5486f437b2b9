import PgCapture.Postgres.Restore
import PgCapture.Replicator.Pipeline.Mirror

namespace PgCapture

open Data Data.ChangeLog Postgres Kafka

/-! # A table's changes as PostgreSQL sent them

JSON is only a wrapping: whoever reads the log has the text of every column.
-/

/-- A consumer restores a table's changes from Kafka, in their order and with
    the text of every column. -/
theorem texts_follow {crates : Crates} {config : Config} {relation : MockRelation}
    {read : String → Option Json} (maps : crates.KeepsMaps) (broker : Broker)
    (log : List Record) (count : UInt64)
    (inputs : List (StreamInput crates relation)) (inOrder : InOrder (fun _ => none) inputs)
    (millis : ∀ input ∈ inputs, input.input.MillisClock)
    (back : ∀ event ∈ Pipeline.decodedChanges crates (PgOutputDecoder.new config.database)
        (inputs.map StreamInput.input), ReadsBack read crates.toStringPretty event.toJson)
    (kept : ∀ op ∈ inputs.filterMap StreamInput.op, ∀ row ∈ op.change.rows, row.IsKept) :
    let stop := (Pipeline.start config broker log count).reached crates config
      ((inputs.map StreamInput.input).map PipelineInput.kafkaWorks)
    (consumed read relation (stop.1.log.drop log.length)).map (RowChange.map (rowTexts relation)) =
      ((inputs.filterMap StreamInput.op).map RowOp.change).map (RowChange.map MockRow.texts) := by
  intro stop
  apply map_eq_of_shows (consumed_shows maps broker log count inputs inOrder millis back)
  intro change member row isRow image isImage
  obtain ⟨op, isOp, rfl⟩ := List.mem_map.mp member
  exact rowTexts_of_isImage (kept op isOp row isRow) isImage

def labels : MockRelation where
  id := 7
  schema := "shop"
  table := "labels"
  columns := [⟨"code", 20, true, by decide⟩, ⟨"name", 25, false, by decide⟩,
    ⟨"sizes", 1007, false, by decide⟩]
  schemaFits := by decide
  tableFits := by decide
  columnsFit := by decide
  distinct := by decide

def labelRow : MockRow labels where
  values := [.text "-5" (by decide), .text "a, b" (by decide), .text "\x7b1,NULL\x7d" (by decide)]
  complete := rfl

def labelEvent (op : ChangeOperation) (before after : Option Json) : ChangeEvent :=
  ((PgOutputDecoder.new "db").atLsn 100).changeEvent ⟨1, 2⟩ labels.info op before after

/-- The event of the only row, and its text. -/
def labelInsert : ChangeEvent :=
  labelEvent .insert none (some (.object [("code", .integer (-5)), ("name", .string "a, b"),
    ("sizes", .array [.integer 1, .null])]))

def labelPretty : Crates :=
  { Crates.idle with
    toStringPretty := fun _ =>
      "\x7b\n  \"schema\": \"shop\",\n  \"table\": \"labels\",\n  \"op\": \"INSERT\",\n  \"ts_ms\": 1,\n" ++
        "  \"before\": null,\n  \"after\": \x7b\n    \"code\": -5,\n    \"name\": \"a, b\",\n" ++
        "    \"sizes\": [\n      1,\n      null\n    ]\n  \x7d,\n  \"source\": \x7b\n" ++
        "    \"version\": \"0.1.0\",\n    \"connector\": \"pg-capture\",\n    \"ts_ms\": 2,\n" ++
        "    \"db\": \"db\",\n    \"schema\": \"shop\",\n    \"table\": \"labels\",\n" ++
        "    \"lsn\": \"0/64\",\n    \"xid\": null\n  \x7d\n\x7d" }

def readLabels : String → Option Json := readerOf labelPretty.toStringPretty [labelInsert.toJson]

def labelStream : List (StreamInput labelPretty labels) :=
  [.message (.announce ⟨0, 0⟩ labels) 0 8 .fine,
    .message (.own ⟨0, 0⟩ (.insert labelRow)) 0 9 .fine]

set_option maxRecDepth 8000 in
theorem decodedChanges_labels :
    Pipeline.decodedChanges labelPretty (PgOutputDecoder.new sampleConfig.database)
        (labelStream.map StreamInput.input) = [labelInsert] := by
  with_unfolding_all rfl

theorem labels_back : ∀ event ∈ Pipeline.decodedChanges labelPretty
    (PgOutputDecoder.new sampleConfig.database) (labelStream.map StreamInput.input),
    ReadsBack readLabels labelPretty.toStringPretty event.toJson := by
  rw [decodedChanges_labels]
  intro event member
  rw [List.mem_singleton.mp member]
  exact readsBack_only _ _

theorem labelRow_kept : labelRow.IsKept := by
  have noInteger : ∀ text, IsPrinted 25 text := fun text value impossible => by contradiction
  have printed : intOut (-5) = "-5" := by
    decide
  have number : IsPrinted 20 "-5" := printed ▸ isPrinted_intOut 20 (-5)
  intro cell member
  simp only [labels, labelRow, List.zip_cons_cons, List.zip_nil_right, List.mem_cons, List.not_mem_nil,
    or_false] at member
  rcases member with rfl | rfl | rfl
  · refine ⟨rfl, number, fun type isType => ?_⟩
    cases type <;> contradiction
  · refine ⟨rfl, noInteger _, fun type isType => ?_⟩
    cases type <;> contradiction
  · refine ⟨rfl, fun value impossible => by contradiction, fun type isType => ?_⟩
    have isInt4 : type = .int4 := by
      cases type <;> first | rfl | contradiction
    subst isInt4
    have split : parts "\x7b1,NULL\x7d" = [intOut 1, "NULL"] := by
      decide
    rw [split]
    intro part member
    rcases List.mem_cons.mp member with rfl | member
    · exact isPrinted_intOut 23 1
    · obtain rfl := List.mem_singleton.mp member
      exact fun value impossible => by contradiction

theorem texts_follow_labels :
    let stop := (Pipeline.start sampleConfig [] [] 0).reached labelPretty
      sampleConfig ((labelStream.map StreamInput.input).map PipelineInput.kafkaWorks)
    (consumed readLabels labels (stop.1.log.drop 0)).map (RowChange.map (rowTexts labels)) =
      [.insert [some "-5", some "a, b", some "\x7b1,NULL\x7d"]] := by
  have millis : IsMillis 1 ∧ IsMillis 2 := by
    simp [IsMillis]
  refine texts_follow (fun text value impossible => by contradiction) [] [] 0
    labelStream ⟨trivial, rfl, trivial⟩ ?_ labels_back ?_
  · intro input member
    simp only [labelStream, List.mem_cons, List.not_mem_nil, or_false] at member
    rcases member with rfl | rfl
    · exact millis
    · exact millis
  · intro op member row isRow
    obtain rfl := List.mem_singleton.mp member
    obtain rfl := List.mem_singleton.mp isRow
    exact labelRow_kept

end PgCapture
