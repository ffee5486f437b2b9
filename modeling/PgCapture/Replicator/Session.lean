import PgCapture.Kafka.Payload
import PgCapture.Kafka.Producer
import PgCapture.Replicator.Restart

namespace PgCapture

open Data Postgres

/-! # One streaming session

What the first run of the receive loop publishes and what its checkpoints say.
Kafka's answers are taken apart here: the topic check, the serializer and the
broker answer one after another.
-/

/-- What Kafka's side answers to the change of one message, if there is one. -/
structure KafkaOutcomes where
  ensureTopicExists : Except Error Unit
  serialized : Except Error String
  sent : Except Error Unit

def KafkaOutcomes.sendChangeEvent (kafka : KafkaOutcomes) : Except Error Unit := do
  let _payload ← kafka.serialized
  kafka.sent

def Input.withKafka (kafka : KafkaOutcomes) : Input → Input
  | .socket received outcomes =>
      .socket received { outcomes with
        ensureTopicExists := kafka.ensureTopicExists
        sendChangeEvent := kafka.sendChangeEvent }
  | input => input

/-- The loop sends without keys. -/
def keyless (_event : ChangeEvent) : Option String := none

theorem KafkaOutcomes.sendChangeEvent_eq (kafka : KafkaOutcomes) (config : Config) (event : ChangeEvent) :
    Kafka.sendChangeEvent config keyless event kafka.serialized (fun _ => kafka.sent) =
      kafka.sendChangeEvent := by
  rw [Kafka.sendChangeEvent, KafkaOutcomes.sendChangeEvent]
  cases kafka.serialized <;> rfl

/-- The record that Kafka acknowledges for a decoder's answer, with the change
    it stands for. -/
def acknowledged (config : Config) (kafka : KafkaOutcomes) : Answer → Option (Kafka.Record × ChangeEvent)
  | .ok (some (.change event)) =>
      match kafka.ensureTopicExists, Kafka.changeRecord config keyless event kafka.serialized,
          kafka.sent with
      | .ok (), .ok record, .ok () => some (record, event)
      | _, _, _ => none
  | _ => none

def Action.published : Action → Option (String × ChangeEvent)
  | .delivered _ topic event => some (topic, event)
  | _ => none

/-- The topics and the changes of the records that were sent, in order. -/
def publishedIn (taken : List (Nat × Action)) : List (String × ChangeEvent) :=
  taken.filterMap fun entry => entry.2.published

/-- An answer that the loop counts: a begin, a commit or a change. -/
def isDecoded : Answer → Bool
  | .ok (some _) => true
  | _ => false

def Action.isDecoded : Action → Bool
  | .received _ answer => PgCapture.isDecoded answer
  | _ => false

def decodedIn (taken : List (Nat × Action)) : Nat := taken.countP fun entry => entry.2.isDecoded

variable (config : Config) (decoder : Decoder D)

theorem turn_published (turn : Turn D) :
    (turn.actions (receive config decoder)).filterMap Action.published =
      ((delivery decoder turn).map fun delivered => (topicOf config delivered.2, delivered.2)).toList := by
  rw [turn_filterMap, Option.map_eq_bind]
  simp [Action.published]

theorem deliveredEvent_withKafka (kafka : KafkaOutcomes) (outcomes : Outcomes) (answer : Answer) :
    (deliveredEvent { outcomes with
        ensureTopicExists := kafka.ensureTopicExists
        sendChangeEvent := kafka.sendChangeEvent } answer).map (fun event => (topicOf config event, event)) =
      (acknowledged config kafka answer).map fun sent => (sent.1.topic, sent.2) := by
  cases answer with
  | err reason => rfl
  | panic => rfl
  | ok decoded =>
      cases decoded with
      | none => rfl
      | some decoded =>
          cases decoded with
          | begin xid => rfl
          | commit => rfl
          | change event =>
              simp only [deliveredEvent, acknowledged, ← kafka.sendChangeEvent_eq config event]
              cases built : Kafka.changeRecord config keyless event kafka.serialized with
              | error reason =>
                  rw [Kafka.sendChangeEvent_of_refused built]
                  cases kafka.ensureTopicExists <;> rfl
              | ok record =>
                  rw [Kafka.sendChangeEvent_of_built built]
                  cases kafka.ensureTopicExists with
                  | error reason => rfl
                  | ok _ =>
                      cases kafka.sent with
                      | error reason => rfl
                      | ok _ =>
                          simp only [Option.map_some, Kafka.changeRecord_topic built, topicOf]

/-- What a turn publishes while Kafka's side answers as given. -/
def publishedBy (turn : Turn D) (kafka : KafkaOutcomes) : Option (String × ChangeEvent) :=
  ((receipt decoder turn).bind fun received => acknowledged config kafka received.2).map fun sent =>
    (sent.1.topic, sent.2)

theorem delivery_withKafka {turn : Turn D} {input : Input} {kafka : KafkaOutcomes}
    (same : turn.input = input.withKafka kafka) :
    (delivery decoder turn).map (fun delivered => (topicOf config delivered.2, delivered.2)) =
      publishedBy config decoder turn kafka := by
  obtain ⟨number, state, taken⟩ := turn
  simp only at same
  subst same
  cases input with
  | shutdown now save => rfl
  | timeout => rfl
  | socket received outcomes =>
      cases received with
      | ignored => rfl
      | replied walEnd => rfl
      | failed reason => rfl
      | panicked => rfl
      | returned message =>
          simp only [Input.withKafka, delivery, publishedBy, receipt, Option.map_map, Function.comp_def,
            Option.bind_some]
          exact deliveredEvent_withKafka config kafka outcomes _

theorem publishedIn_traceOf {steps : List (Turn D)} {session : List (Input × KafkaOutcomes)}
    (executed : steps.map Executed.input <+: session.map fun moment => moment.1.withKafka moment.2) :
    publishedIn (traceOf (receive config decoder) steps) =
      (steps.zip session).filterMap fun step => publishedBy config decoder step.1 step.2.2 := by
  induction steps generalizing session with
  | nil => rfl
  | cons turn steps ih =>
      cases session with
      | nil => simp at executed
      | cons moment session =>
          simp only [List.map_cons, List.cons_prefix_cons] at executed
          have here : publishedIn (turn.trace (receive config decoder)) =
              (publishedBy config decoder turn moment.2).toList := by
            rw [publishedIn, Executed.trace, List.filterMap_map, ← delivery_withKafka config decoder executed.1]
            exact turn_published config decoder turn
          rw [traceOf_cons, publishedIn, List.filterMap_append, ← publishedIn, ← publishedIn, here,
            ih executed.2, List.zip_cons_cons, List.filterMap_cons]
          cases publishedBy config decoder turn moment.2 <;> rfl

theorem published_topic {steps : List (Turn D)} {topic : String} {event : ChangeEvent}
    (sent : (topic, event) ∈ publishedIn (traceOf (receive config decoder) steps)) :
    topic = config.topicName event.schema event.table := by
  obtain ⟨⟨number, action⟩, member, isPublished⟩ := List.mem_filterMap.mp sent
  obtain ⟨turn, _, _, taken⟩ := (mem_traceOf _).mp member
  cases action with
  | delivered message other change =>
      cases isPublished
      exact (delivered_mem.mp taken).2
  | received message answer => cases isPublished
  | standbyStatus lsn => cases isPublished
  | saved checkpoint => cases isPublished

theorem decodedIn_append (first second : List (Nat × Action)) :
    decodedIn (first ++ second) = decodedIn first + decodedIn second :=
  List.countP_append

theorem decodedIn_numbered (number : Nat) (actions : List Action) :
    decodedIn (actions.map fun action => (number, action)) = actions.countP Action.isDecoded := by
  rw [decodedIn, List.countP_map]
  rfl

def decodedBy (turn : Turn D) : Nat :=
  (receipt decoder turn).toList.countP fun received => isDecoded received.2

theorem turn_decoded (turn : Turn D) :
    (turn.actions (receive config decoder)).countP Action.isDecoded = decodedBy decoder turn := by
  rw [turn_actions, opening, closing, decodedBy]
  simp only [List.countP_append, List.countP_map, Function.comp_def, Action.isDecoded, List.countP_false,
    Function.const_apply, Nat.add_zero]

/-- A message that does not end the loop counts exactly if it was decoded. -/
theorem handleAnswer_counted {outcomes : Outcomes} {message : ReplicationMessage} {answer : Answer}
    (stays : (handleAnswer config outcomes message answer).exit = none) :
    (handleAnswer config outcomes message answer).counted = isDecoded answer := by
  cases answer with
  | err reason => rfl
  | panic => rfl
  | ok decoded =>
      cases decoded with
      | none => rfl
      | some decoded =>
          simp only [handleAnswer] at stays ⊢
          split at stays
          · rfl
          · split at stays
            · rename_i goes
              simp only [goes, if_true, isDecoded]
            · contradiction

theorem counted_after (turn : Turn D)
    (stays : (receive config decoder turn.state turn.input).exit = none) :
    (receive config decoder turn.state turn.input).state.totalMessageCount =
      turn.state.totalMessageCount + UInt64.ofNat (decodedBy decoder turn) := by
  obtain ⟨number, state, input⟩ := turn
  cases input with
  | shutdown now save => cases stays
  | timeout => simp [receive, decodedBy, receipt]
  | socket received outcomes =>
      cases received with
      | ignored => simp [receive, decodedBy, receipt]
      | replied walEnd => simp [receive, decodedBy, receipt]
      | failed reason => cases stays
      | panicked => cases stays
      | returned message =>
          simp only [receive, handleMessage, afterMessage] at stays ⊢
          rw [handleAnswer_counted config stays, decodedBy, receipt]
          cases decoded : isDecoded (decoder.decode state.decoder outcomes.clock message.data).1 with
          | true => simp [decoded]
          | false => simp [decoded]

/-- The loop's count is the count it started with and what was decoded since. -/
theorem totalMessageCount_eq {state : LoopState D} {inputs : List Input} {done later : List (Turn D)}
    {turn : Turn D} (executed : turns config decoder state inputs = done ++ turn :: later) :
    turn.state.totalMessageCount =
      state.totalMessageCount + UInt64.ofNat (decodedIn (traceOf (receive config decoder) done)) := by
  apply executedFrom_invariant (receive config decoder)
    (fun done reached => reached.totalMessageCount =
      state.totalMessageCount + UInt64.ofNat (decodedIn (traceOf (receive config decoder) done)))
    ?_ ?_ executed
  · simp [traceOf, decodedIn]
  · intro done turn stays before
    have own : decodedIn (turn.trace (receive config decoder)) = decodedBy decoder turn := by
      rw [Executed.trace, decodedIn_numbered, turn_decoded]
    rw [counted_after config decoder turn stays, before, traceOf_append, traceOf_cons, decodedIn_append,
      decodedIn_append, own]
    simp [traceOf, decodedIn, UInt64.ofNat_add, UInt64.add_assoc]

theorem exit_of_goesOn {turn : Turn D} (goes : goesOn config decoder turn = true) :
    (receive config decoder turn.state turn.input).exit = none := by
  rw [goesOn] at goes
  split at goes
  · rename_i message outcomes same
    rw [same]
    exact Option.isNone_iff_eq_none.mp goes
  · contradiction

theorem checkpointOf_count {turn : Turn D} {lsn : UInt64} (saved : savedLsn config decoder turn = some lsn) :
    (checkpointOf config decoder turn lsn).messageCount =
      turn.state.totalMessageCount + UInt64.ofNat (decodedBy decoder turn) := by
  obtain ⟨number, state, input⟩ := turn
  rw [savedLsn] at saved
  split at saved
  · rename_i same
    simp only at same
    subst same
    simp [checkpointOf, decodedBy, receipt]
  · rename_i message clock standbyStatus topic sent now same
    simp only at same
    subst same
    split at saved
    · rename_i goes
      exact counted_after config decoder ⟨number, state, _⟩ (exit_of_goesOn config decoder goes)
    · contradiction
  · contradiction

/-- A checkpoint counts what was decoded before it was saved. -/
theorem saved_count {state : LoopState D} {inputs : List Input} {before : List (Nat × Action)}
    {saver : Nat} {checkpoint : Checkpoint}
    (taken : before ++ [(saver, .saved checkpoint)] <+: trace config decoder state inputs) :
    checkpoint.messageCount = state.totalMessageCount + UInt64.ofNat (decodedIn before) := by
  obtain ⟨done, step, later, front, back, executed, actions, rfl, rfl⟩ := before_action _ taken
  have savedMem : .saved checkpoint ∈ step.actions (receive config decoder) := by
    rw [actions]
    exact List.mem_append_right _ List.mem_cons_self
  obtain ⟨lsn, saved, rfl⟩ := saved_mem.mp savedMem
  have own : front.countP Action.isDecoded = decodedBy decoder step := by
    rw [← turn_decoded config decoder step, actions, saved_last actions, List.countP_append]
    rfl
  rw [checkpointOf_count config decoder saved, totalMessageCount_eq config decoder executed, decodedIn_append,
    decodedIn_numbered, own, UInt64.ofNat_add, UInt64.add_assoc]

/-- The replicator when its receive loop runs for the first time. -/
def Replicator.connected (state : D) : Replicator D :=
  { config, postgresConn := true, kafkaProducer := true, topicManager := true
    shutdownReceiver := true, decoder := some state, currentLsn := none, totalMessageCount := 0 }

def loadedCount (file : Option Checkpoint) : UInt64 :=
  (file.map Checkpoint.messageCount).getD 0

def firstState (file : Option Checkpoint) (state : D) : LoopState D :=
  { decoder := state, currentLsn := none, totalMessageCount := loadedCount file }

theorem connected_turns (file : Option Checkpoint) (state : D) (inputs : List Input) :
    (Replicator.replicationLoop decoder (Replicator.connected config state)
        (Attempt.resume file inputs)).turns =
      some (turns config decoder (firstState file state) inputs) := by
  cases file <;> rfl

/-- What the first run of the loop publishes, and what its checkpoints say.  The
    run takes all of the session's inputs up to its exit. -/
theorem session_published_and_recorded (config : Config) (decoder : Decoder D) (state : D)
    (file : Option Checkpoint) (session : List (Input × KafkaOutcomes)) :
    let inputs := session.map fun moment => moment.1.withKafka moment.2
    ∃ steps rest, (Replicator.replicationLoop decoder (Replicator.connected config state)
        (Attempt.resume file inputs)).turns = some steps ∧
      steps = turns config decoder (firstState file state) inputs ∧
      inputs = steps.map Executed.input ++ rest ∧
      (rest ≠ [] → ∃ last ∈ steps.getLast?,
        (receive config decoder last.state last.input).exit ≠ none) ∧
      (publishedIn (traceOf (receive config decoder) steps) =
          (steps.zip session).filterMap fun step => publishedBy config decoder step.1 step.2.2) ∧
      (∀ topic event, (topic, event) ∈ publishedIn (traceOf (receive config decoder) steps) →
        topic = config.topicName event.schema event.table) ∧
      ∀ before saver checkpoint,
        before ++ [(saver, .saved checkpoint)] <+: traceOf (receive config decoder) steps →
          (∃ message, (receivedIn before).getLast? = some message ∧
            checkpoint.lsn = formatLsn message.walEnd) ∧
          checkpoint.messageCount = loadedCount file + UInt64.ofNat (decodedIn before) := by
  intro inputs
  obtain ⟨rest, split, stops⟩ := executedFrom_stops (receive config decoder) 0 (firstState file state) inputs
  refine ⟨_, rest, connected_turns config decoder file state _, rfl, split, stops, ?_, ?_, ?_⟩
  · exact publishedIn_traceOf config decoder (executedFrom_inputs _ _ _ _)
  · intro topic event sent
    exact published_topic config decoder sent
  · intro before saver checkpoint taken
    exact ⟨saved_position config decoder rfl taken, saved_count config decoder taken⟩

/-- A table is announced, and a row of it comes when a checkpoint is due. -/
def pricedSession : List (Input × KafkaOutcomes) :=
  let outcomes : Outcomes := { Outcomes.succeed false with clock := ⟨1, 2⟩ }
  let kafka : KafkaOutcomes :=
    { ensureTopicExists := .ok ()
      serialized := Kafka.serialize Kafka.pricedRowCrates .json Kafka.pricedEvent
      sent := .ok () }
  [(.socket (.returned { walStart := 0, walEnd := 8, data := Kafka.pricedTable }) outcomes, kafka),
    (.socket (.returned { walStart := 0, walEnd := 9, data := Kafka.pricedRow })
      { outcomes with checkpointDue := true }, kafka)]

set_option maxRecDepth 8000 in
/-- Behind a checkpoint of three messages, the row is published and the next
    checkpoint counts it. -/
theorem session_published_and_recorded_priced :
    ∃ steps, (Replicator.replicationLoop (pgOutput Kafka.pricedRowCrates)
        (Replicator.connected sampleConfig (PgOutputDecoder.new "db"))
        (Attempt.resume (some ⟨"0/7", 0, 3⟩)
          (pricedSession.map fun moment => moment.1.withKafka moment.2))).turns = some steps ∧
      publishedIn (traceOf (receive sampleConfig (pgOutput Kafka.pricedRowCrates)) steps) =
        [("cdc.s.t", Kafka.pricedEvent)] ∧
      ∃ before checkpoint,
        before ++ [(1, .saved checkpoint)] =
          traceOf (receive sampleConfig (pgOutput Kafka.pricedRowCrates)) steps ∧
        checkpoint.lsn = formatLsn 9 ∧ checkpoint.messageCount = 4 := by
  obtain ⟨steps, _, ran, rfl, _, _, published, _, recorded⟩ := session_published_and_recorded sampleConfig
    (pgOutput Kafka.pricedRowCrates) (PgOutputDecoder.new "db") (some ⟨"0/7", 0, 3⟩) pricedSession
  refine ⟨_, ran, published.trans rfl, [_, _, _, _, _], _, rfl, ?_⟩
  obtain ⟨⟨message, last, position⟩, count⟩ := recorded [_, _, _, _, _] 1 _ List.prefix_rfl
  cases last
  exact ⟨position, count⟩

end PgCapture
