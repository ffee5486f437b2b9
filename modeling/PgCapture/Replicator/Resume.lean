import PgCapture.CheckpointFile
import PgCapture.Replicator.Turns

namespace PgCapture

open Data Postgres

/-! # Resuming from the checkpoint file

A saved position comes back as the position that the next process asks the
server for: through the file, through the text, and through the server's reader.
-/

variable {D : Type} (decoder : Decoder D)

/-- The message count when START_REPLICATION goes out: the receive loop starts
    from it, and an attempt that gets no further leaves it behind. -/
def AttemptResult.CountsFrom (result : AttemptResult D) (config : Config) (inputs : List Input)
    (messageCount : UInt64) : Prop :=
  match result.turns with
  | some steps => ∃ start, start.totalMessageCount = messageCount ∧
      steps = PgCapture.turns config decoder start inputs
  | none => result.replicator.totalMessageCount = messageCount

namespace Replicator

variable {decoder} {self : Replicator D} {attempt : Attempt}

theorem initializeConnections_ok
    (connected : (initializeConnections decoder self attempt).1 = .ok ()) :
    ∃ state, (initializeConnections decoder self attempt).2 =
      { self with
        postgresConn := true
        kafkaProducer := true
        topicManager := true
        decoder := some state } := by
  refine ⟨decoder.new self.config.database, ?_⟩
  simp only [initializeConnections] at connected ⊢
  cases connect : attempt.connect with
  | error reason => simp [connect] at connected
  | ok _ =>
  cases identifySystem : attempt.identifySystem with
  | error reason => simp [connect, identifySystem] at connected
  | ok _ =>
  cases slot : slotReady attempt.createReplicationSlot with
  | error reason => simp [connect, identifySystem, slot] at connected
  | ok _ =>
  cases kafkaProducer : attempt.kafkaProducer with
  | error reason => simp [connect, identifySystem, slot, kafkaProducer] at connected
  | ok _ =>
  cases topicManager : attempt.topicManager with
  | error reason => simp [connect, identifySystem, slot, kafkaProducer, topicManager] at connected
  | ok _ => rfl

/-- An attempt that finds a checkpoint asks for its position and counts on from
    its message count, whatever the server answers. -/
theorem runWithRetry_of_checkpoint {checkpoint : Checkpoint}
    (connected : (initializeConnections decoder self attempt).1 = .ok ())
    (loads : attempt.load = .ok (some checkpoint)) :
    (runWithRetry decoder self attempt).requested = some checkpoint.lsn ∧
      (runWithRetry decoder self attempt).CountsFrom decoder self.config attempt.inputs
        checkpoint.messageCount := by
  obtain ⟨state, ready⟩ := initializeConnections_ok connected
  have initialized : initializeConnections decoder self attempt =
      (.ok (), { self with
        postgresConn := true
        kafkaProducer := true
        topicManager := true
        decoder := some state }) := Prod.ext connected ready
  simp only [runWithRetry, initialized, replicationLoop, loads]
  cases attempt.startReplication with
  | error reason => exact ⟨rfl, rfl⟩
  | ok _ =>
      cases self.shutdownReceiver with
      | false => exact ⟨rfl, rfl⟩
      | true => exact ⟨rfl, _, rfl, rfl⟩

end Replicator

/-- The server reads the saved position out of START_REPLICATION, and no other
    position has that text. -/
theorem resume_position {fromStr : String → Except String Checkpoint}
    {toStringPretty : Checkpoint → String} (slotName publicationName : String)
    (manager : CheckpointManager) (fs : FileSystem Path) (attempt : SaveAttempt toStringPretty)
    (lsn messageCount : UInt64) (now : Int) (self : Replicator D) (later : Attempt)
    (built : attempt.checkpoint = .new (ReplicationMessage.formatLsn lsn) messageCount now)
    (completed : (manager.save attempt.toSaveCall fs).2 = true)
    (readsBack : CheckpointManager.ReadsBack fromStr toStringPretty attempt.checkpoint)
    (loads : later.load = manager.load fromStr (manager.save attempt.toSaveCall fs).1)
    (connected : (Replicator.initializeConnections decoder self later).1 = .ok ()) :
    ∃ text, (Replicator.runWithRetry decoder self later).requested = some text ∧
      startReplicationQuery slotName publicationName (some text) =
        "START_REPLICATION SLOT " ++ slotName ++ " LOGICAL " ++ text ++ " (" ++
          ("proto_version '1', publication_names '" ++ publicationName ++ "'") ++ ")" ∧
      readLsn text = some lsn ∧
      (Replicator.runWithRetry decoder self later).CountsFrom decoder self.config later.inputs
        messageCount ∧
      (∀ other, ReplicationMessage.formatLsn other = text → other = lsn) ∧
      Postgres.formatLsn lsn = text := by
  have saved := (CheckpointManager.save_completed completed).2.2
  rw [attempt.flatten_pieces] at saved
  have found : later.load = .ok (some attempt.checkpoint) := by
    rw [loads]
    exact CheckpointManager.load_saved fromStr saved readsBack
  obtain ⟨requested, counts⟩ := Replicator.runWithRetry_of_checkpoint connected found
  rw [built] at requested counts
  refine ⟨ReplicationMessage.formatLsn lsn, requested, ?_, ?_, counts, ?_, ?_⟩
  · exact startReplicationQuery_some slotName publicationName _
  · rw [ReplicationMessage.formatLsn_eq, readLsn_formatLsn]
  · intro other same
    rw [ReplicationMessage.formatLsn_eq, ReplicationMessage.formatLsn_eq] at same
    exact formatLsn_injective same
  · rw [ReplicationMessage.formatLsn_eq]

theorem formatLsn_nine : ReplicationMessage.formatLsn 9 = "0/9" := by
  apply String.toList_inj.mp
  simp [ReplicationMessage.formatLsn, Hex.upper, Hex.upperDigit]

/-- Position nine, saved to an empty directory and found by a new replicator. -/
theorem resume_position_nine :
    ∃ text, (Replicator.runWithRetry everyMessageAChange (Replicator.new sampleConfig)
        (Attempt.resume (some ⟨"0/9", 0, 1⟩) [])).requested = some text ∧
      startReplicationQuery "slot" "publication" (some text) =
        "START_REPLICATION SLOT " ++ "slot" ++ " LOGICAL " ++ text ++ " (" ++
          ("proto_version '1', publication_names '" ++ "publication" ++ "'") ++ ")" ∧
      readLsn text = some 9 ∧
      (Replicator.runWithRetry everyMessageAChange (Replicator.new sampleConfig)
        (Attempt.resume (some ⟨"0/9", 0, 1⟩) [])).CountsFrom everyMessageAChange sampleConfig [] 1 ∧
      (∀ other, ReplicationMessage.formatLsn other = text → other = 9) ∧
      Postgres.formatLsn 9 = text := by
  have built : CheckpointManager.runsThrough.checkpoint =
      .new (ReplicationMessage.formatLsn 9) 1 0 := by
    rw [formatLsn_nine]
    rfl
  have completed : ((CheckpointManager.new "checkpoint.json").save
      CheckpointManager.runsThrough.toSaveCall .empty).2 = true := rfl
  have readsBack : CheckpointManager.ReadsBack CheckpointManager.readStored
      CheckpointManager.storedText CheckpointManager.runsThrough.checkpoint := rfl
  have found := CheckpointManager.load_saved CheckpointManager.readStored
    (CheckpointManager.save_completed completed).2.2 readsBack
  exact resume_position everyMessageAChange "slot" "publication" (.new "checkpoint.json") .empty
    CheckpointManager.runsThrough 9 1 0 (Replicator.new sampleConfig)
    (Attempt.resume (some ⟨"0/9", 0, 1⟩) []) built completed readsBack found.symm rfl

end PgCapture
