import PgCapture.Postgres.RowOp
import PgCapture.Replicator.Restart

namespace PgCapture

open Data Data.ChangeLog Postgres

/-! # Delivered again

A process that is killed delivers changes a second time.  A consumer who applies
the changes of one table as they come is set back by that, but not led astray:
every row is in the end what its last change made it.
-/

/-- What a consumer of the table does at an action. -/
def Action.changeOf (schema table : String) : Action → Option (RowChange Json)
  | .delivered _ _ event =>
      if event.schema = schema ∧ event.table = table then event.rowChange else none
  | _ => none

section Consumer

variable (config : Config) (decoder : Decoder D) (schema table : String)

/-- The changes of the table in all lives, as they come. -/
def changesOf (file : Option Checkpoint) (lives : List Life) : List (RowChange Json) :=
  (incarnations config decoder file lives).flatMap fun born =>
    (born.2.taken config decoder born.1).filterMap fun entry => entry.2.changeOf schema table

/-- What is delivered of a message is the change that the message makes. -/
def Faithful (effect : ReplicationMessage → Option (RowChange Json)) (taken : List (Nat × Action)) :
    Prop :=
  ∀ number message topic event, (number, .delivered message topic event) ∈ taken →
    (Action.delivered message topic event).changeOf schema table = effect message

variable {config decoder schema table} {effect : ReplicationMessage → Option (RowChange Json)}

theorem Faithful.changes {taken : List (Nat × Action)} (faithful : Faithful schema table effect taken) :
    (taken.filterMap fun entry => entry.2.changeOf schema table) =
      (deliveredIn taken).filterMap effect := by
  rw [deliveredIn, List.filterMap_filterMap]
  apply List.filterMap_congr
  rintro ⟨number, action⟩ member
  cases action with
  | delivered message topic event => exact faithful number message topic event member
  | _ => rfl

theorem changesOf_eq {file : Option Checkpoint} {lives : List Life}
    (faithful : ∀ born ∈ incarnations config decoder file lives,
      Faithful schema table effect (born.2.taken config decoder born.1)) :
    changesOf config decoder schema table file lives =
      (deliveries config decoder file lives).filterMap effect := by
  rw [changesOf, deliveries, List.filterMap_flatMap]
  apply List.flatMap_congr
  intro born member
  exact (faithful born member).changes

end Consumer

section Table

variable {κ : Type} (key : Json → κ) (effect : ReplicationMessage → Option (RowChange Json))

/-- The message's change applied, if it has one. -/
noncomputable def applyMessage (rows : Table κ Json) (message : ReplicationMessage) : Table κ Json :=
  match effect message with
  | some change => ChangeLog.apply key rows change
  | none => rows

theorem applyAll_filterMap (rows : Table κ Json) (messages : List ReplicationMessage) :
    applyAll key rows (messages.filterMap effect) = messages.foldl (applyMessage key effect) rows := by
  rw [applyAll, List.foldl_filterMap]
  congr 1
  funext rows message
  rw [applyMessage]
  cases effect message <;> rfl

theorem repeatable_applyMessage : Repeatable (applyMessage key effect) := by
  have overwrites : ∀ rows message asked, applyMessage key effect rows message asked =
      ((effect message).bind fun change => written key change asked).getD (rows asked) := by
    intro rows message asked
    rw [applyMessage]
    cases effect message with
    | none => rfl
    | some change => exact apply_eq key rows change asked
  exact repeatable_of_written overwrites

end Table

section Deployment

variable {carries : Bytes → Bool} {config : Config} {decoder : Decoder D}
  {changes sent : List ReplicationMessage} {file : Option Checkpoint}

/-- All that the lives deliver: their passes, and the rest of the changes. -/
theorem deliveries_eq_passes {lives : List Life} {last : Life} (sends : Sends carries changes sent)
    (lived : Lived carries config decoder sent (finalFile config decoder file lives) last)
    (streamed : Streamed config decoder sent (finalFile config decoder file lives) last) :
    deliveries config decoder file (lives ++ [last]) =
      ((incarnations config decoder file lives).map (passOf config decoder)).flatMap Prod.snd ++
        behind endOf changes (lastBookmark (resumeLsn file)
          ((incarnations config decoder file lives).map (passOf config decoder))) := by
  rw [lastBookmark_lives, ← sends.changes, ← streamed.deliveredIn_eq lived, deliveries, incarnations_append,
    List.flatMap_append, List.flatMap_map, List.flatMap_singleton]
  rfl

end Deployment

/-- However often the process is killed and wherever, a consumer who applies
    what is delivered ends with the table that every change behind the first
    checkpoint, applied once and in order, leads to. -/
theorem redelivery_converges {κ : Type} (carries : Bytes → Bool) (config : Config) (decoder : Decoder D)
    {changes : List ReplicationMessage} (file : Option Checkpoint) (lives : List Life) (last : Life)
    (lived : ∀ born ∈ incarnations config decoder file lives,
      ∃ sent, Sends carries changes sent ∧ Lived carries config decoder sent born.1 born.2)
    (streamed : ∃ sent, Sends carries changes sent ∧
      Lived carries config decoder sent (finalFile config decoder file lives) last ∧
      Streamed config decoder sent (finalFile config decoder file lives) last)
    (schema table : String) (effect : ReplicationMessage → Option (RowChange Json))
    (faithful : ∀ born ∈ incarnations config decoder file (lives ++ [last]),
      Faithful schema table effect (born.2.taken config decoder born.1))
    (key : Json → κ) (rows : Table κ Json) :
    applyAll key rows (changesOf config decoder schema table file (lives ++ [last])) =
      applyAll key rows ((behind endOf changes (resumeLsn file)).filterMap effect) := by
  obtain ⟨sent, sends, final, complete⟩ := streamed
  have sorted : changes.Pairwise fun first second => endOf first < endOf second := by
    rw [← sends.changes]
    exact sends.sorted.filter _
  rw [changesOf_eq faithful, applyAll_filterMap, applyAll_filterMap,
    deliveries_eq_passes sends final complete]
  exact foldl_passes (repeatable_applyMessage key effect) sorted (lives_pass lived) rows

/-- The row's changes in the log. -/
def rowLog : List ReplicationMessage := [updatedAt 5 9, updatedAt 4 11, updatedAt 3 13]

/-- The first life gets the number 4 out and not into a checkpoint. -/
def unsavedAt11 : Life where
  inputs := [announcedAt 8, updatedAt 5 9].map (arriving true) ++ [updatedAt 4 11].map (arriving false)
  actions := 10

/-- The second life starts behind 9; the table is announced again. -/
def againFrom9 : Life where
  inputs := [announcedAt 10, updatedAt 4 11, updatedAt 3 13].map (arriving false)
  actions := 8

def updateEvent (number : UInt8) : ChangeEvent :=
  ((PgOutputDecoder.new "db").atLsn 100).changeEvent ⟨0, 0⟩ stock.info .update none
    (some (.object [("id", .integer 1), ("n", .integer number.toNat)]))

/-- What a decoder that knows the table makes of a message. -/
def rowEffect (message : ReplicationMessage) : Option (RowChange Json) :=
  let knows := ((PgOutputDecoder.new "db").decode .idle ⟨0, 0⟩ (announcedAt 8).data).2
  match (knows.decode .idle ⟨0, 0⟩ message.data).1 with
  | .ok (some (.change event)) => event.rowChange
  | _ => none

set_option maxRecDepth 8000 in
theorem unsavedAt11_taken : unsavedAt11.taken sampleConfig (pgOutput .idle) none =
    [(0, .received (announcedAt 8) (.ok none)), (0, .standbyStatus 8), (0, .saved ⟨formatLsn 8, 0, 0⟩),
      (1, .received (updatedAt 5 9) (.ok (some (.change (updateEvent 5))))), (1, .standbyStatus 9),
      (1, .delivered (updatedAt 5 9) "cdc.s.t" (updateEvent 5)), (1, .saved checkpointAt9),
      (2, .received (updatedAt 4 11) (.ok (some (.change (updateEvent 4))))), (2, .standbyStatus 11),
      (2, .delivered (updatedAt 4 11) "cdc.s.t" (updateEvent 4))] := rfl

set_option maxRecDepth 8000 in
theorem againFrom9_taken : againFrom9.taken sampleConfig (pgOutput .idle) (some checkpointAt9) =
    [(0, .received (announcedAt 10) (.ok none)), (0, .standbyStatus 10),
      (1, .received (updatedAt 4 11) (.ok (some (.change (updateEvent 4))))), (1, .standbyStatus 11),
      (1, .delivered (updatedAt 4 11) "cdc.s.t" (updateEvent 4)),
      (2, .received (updatedAt 3 13) (.ok (some (.change (updateEvent 3))))), (2, .standbyStatus 13),
      (2, .delivered (updatedAt 3 13) "cdc.s.t" (updateEvent 3))] := rfl

set_option maxRecDepth 8000 in
theorem unsavedAt11_sent : ∃ sent, Sends isRow rowLog sent ∧
    Lived isRow sampleConfig (pgOutput .idle) sent none unsavedAt11 := by
  refine ⟨announcedAt 8 :: rowLog, ⟨?_, rfl⟩, ⟨0, ?_, ?_⟩, ?_, by decide⟩
  · simp [rowLog, announcedAt, updatedAt, endOf]
  · rw [Life.requested_eq]
    decide
  · rw [unsavedAt11, List.filterMap_append, filterMap_arriving, filterMap_arriving]
    simp [rowLog, behind, announcedAt, updatedAt, endOf]
  · intro input member
    rcases List.mem_append.mp member with first | last
    · exact kafka_arriving first
    · exact kafka_arriving last

set_option maxRecDepth 8000 in
theorem againFrom9_sent : ∃ sent, Sends isRow rowLog sent ∧
    Lived isRow sampleConfig (pgOutput .idle) sent (some checkpointAt9) againFrom9 ∧
    Streamed sampleConfig (pgOutput .idle) sent (some checkpointAt9) againFrom9 := by
  have asked : againFrom9.requested sampleConfig (pgOutput .idle) (some checkpointAt9) = some 9 := by
    rw [Life.requested_eq]
    exact readLsn_formatLsn 9
  have rest : behind endOf [updatedAt 5 9, announcedAt 10, updatedAt 4 11, updatedAt 3 13]
      (UInt64.toNat 9) = [announcedAt 10, updatedAt 4 11, updatedAt 3 13] := by
    simp [behind, announcedAt, updatedAt, endOf]
  refine ⟨[updatedAt 5 9, announcedAt 10, updatedAt 4 11, updatedAt 3 13], ⟨?_, rfl⟩,
    ⟨⟨9, asked, ?_⟩, fun input => kafka_arriving, by decide⟩, ⟨rfl, 9, asked, ?_⟩⟩
  · simp [announcedAt, updatedAt, endOf]
  · rw [againFrom9, filterMap_arriving, rest]
  · rw [againFrom9_taken, rest]
    rfl

set_option maxRecDepth 8000 in
/-- The row gets the numbers 5, 4, 4 and 3 and ends as if it got 5, 4 and 3. -/
theorem redelivery_converges_row :
    applyAll (imageKey ["id"]) Table.empty
        (changesOf sampleConfig (pgOutput .idle) "s" "t" none [unsavedAt11, againFrom9]) =
      applyAll (imageKey ["id"]) Table.empty
        ((behind endOf rowLog (resumeLsn none)).filterMap rowEffect) := by
  have file : fileAfter none (unsavedAt11.taken sampleConfig (pgOutput .idle) none) =
      some checkpointAt9 := by
    rw [unsavedAt11_taken]
    rfl
  have final : finalFile sampleConfig (pgOutput .idle) none [unsavedAt11] = some checkpointAt9 := by
    rw [finalFile, file, finalFile]
  have lives : incarnations sampleConfig (pgOutput .idle) none ([unsavedAt11] ++ [againFrom9]) =
      [(none, unsavedAt11), (some checkpointAt9, againFrom9)] := by
    simp only [List.singleton_append, incarnations, file]
  refine redelivery_converges isRow sampleConfig (pgOutput .idle) none [unsavedAt11] againFrom9 ?_
    (final ▸ againFrom9_sent) "s" "t" rowEffect ?_ (imageKey ["id"]) Table.empty
  · intro born member
    rw [List.mem_singleton.mp member]
    exact unsavedAt11_sent
  · rw [lives]
    intro born member number message topic event delivered
    rcases List.mem_cons.mp member with rfl | later
    · rw [unsavedAt11_taken] at delivered
      simp only [List.mem_cons, Prod.mk.injEq, Action.delivered.injEq, reduceCtorEq, and_false,
        false_or, or_false, List.not_mem_nil] at delivered
      rcases delivered with ⟨_, rfl, rfl, rfl⟩ | ⟨_, rfl, rfl, rfl⟩ <;> rfl
    · rw [List.mem_singleton.mp later, againFrom9_taken] at delivered
      simp only [List.mem_cons, Prod.mk.injEq, Action.delivered.injEq, reduceCtorEq, and_false,
        false_or, or_false, List.not_mem_nil] at delivered
      rcases delivered with ⟨_, rfl, rfl, rfl⟩ | ⟨_, rfl, rfl, rfl⟩ <;> rfl

end PgCapture
