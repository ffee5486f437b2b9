import PgCapture.Data.Simulation
import PgCapture.Kafka.KeyStrategy
import PgCapture.Kafka.Payload
import PgCapture.Kafka.TopicManager
import PgCapture.Replicator.Session

namespace PgCapture

open Data Postgres Kafka

/-! # The whole pipeline

The receive loop with the components it is built from: the pgoutput decoder, the
topic manager and its broker, the serializer and the producer.  Only the socket,
the broker's answers, the clock, the disk and the `Crates` are left to the outside.
-/

/-- What becomes of a record that is handed to Kafka.  The producer is idempotent:
a record gets into the log at most once and in order.  One that is not
acknowledged, or not in time, may be there all the same. -/
inductive SendAnswer where
  | delivered
  | failed (reason : String) (applied : Bool)
deriving DecidableEq, Repr

namespace SendAnswer

def result : SendAnswer → Except Error Unit
  | delivered => .ok ()
  | failed reason _ => .error (.kafka reason)

def applied : SendAnswer → Bool
  | delivered => true
  | failed _ applied => applied

theorem applied_of_result {answer : SendAnswer} (sent : answer.result = .ok ()) :
    answer.applied = true := by
  cases answer with
  | delivered => rfl
  | failed reason applied => contradiction

end SendAnswer

/-- What the outside answers while one message is handled. -/
structure Answers where
  clock : Clock
  standbyStatus : Except Error Unit
  metadata : Except String (List String)
  creation : NewTopic → AdminAnswer
  send : Record → SendAnswer
  checkpointDue : Bool
  now : Int
  save : Except Error Unit

inductive PipelineInput where
  | shutdown (now : Int) (save : Except Error Unit)
  | timeout
  | socket (received : Received) (answers : Answers)

/-- `log` is what Kafka holds, in the order it got there. -/
structure Pipeline where
  loop : LoopState PgOutputDecoder
  topics : Topics
  log : List Record

section Handlers

variable (crates : Crates) (config : Config)

namespace Pipeline

def ensureTopicExists (pipeline : Pipeline) (answers : Answers) (topic : String) :
    Except Error Unit × Topics :=
  let (result, manager, broker) := pipeline.topics.manager.ensureTopicExists pipeline.topics.broker
    answers.metadata answers.creation topic
  (result, { manager, broker })

/-- The record of an event: the loop serializes to indented JSON, without keys. -/
def recordOf (event : ChangeEvent) : Except Error Record :=
  changeRecord config (KeyStrategy.none.extractKey crates.toString) event
    (serialize crates .json event)

def sendChangeEvent (pipeline : Pipeline) (answers : Answers) (event : ChangeEvent) :
    Except Error Unit × List Record :=
  match recordOf crates config event with
  | .error reason => (.error reason, pipeline.log)
  | .ok record =>
      let answer := answers.send record
      (answer.result, if answer.applied then pipeline.log ++ [record] else pipeline.log)

def processMessage (pipeline : Pipeline) (answers : Answers) :
    DecodedMessage → Except Error Unit × Pipeline
  | .begin _ => (.ok (), pipeline)
  | .commit => (.ok (), pipeline)
  | .change event =>
      match pipeline.ensureTopicExists answers (config.topicName event.schema event.table) with
      | (.error reason, topics) => (.error reason, { pipeline with topics })
      | (.ok (), topics) =>
          let (result, log) := pipeline.sendChangeEvent crates config answers event
          (result, { pipeline with topics, log })

def deliveries (message : ReplicationMessage) : DecodedMessage → List Action
  | .change event => [.delivered message (config.topicName event.schema event.table) event]
  | _ => []

def handleAnswer (pipeline : Pipeline) (answers : Answers) (message : ReplicationMessage) :
    Answer → Handled × Pipeline
  | .ok (some decoded) =>
      match pipeline.processMessage crates config answers decoded with
      | (.ok (), next) =>
          ({ deliveries := deliveries config message decoded, counted := true, exit := none }, next)
      | (.error reason, next) =>
          if recoverable reason then ({ deliveries := [], counted := true, exit := none }, next)
          else ({ deliveries := [], counted := false, exit := some (.returned reason) }, next)
  | .ok none => ({ deliveries := [], counted := false, exit := none }, pipeline)
  | .err _ => ({ deliveries := [], counted := false, exit := none }, pipeline)
  | .panic => ({ deliveries := [], counted := false, exit := some .panicked }, pipeline)

def handleMessage (pipeline : Pipeline) (message : ReplicationMessage) (answers : Answers) :
    Reaction Pipeline Action Exit :=
  let decoded := pipeline.loop.decoder.decode crates answers.clock message.data
  let (handled, next) := pipeline.handleAnswer crates config answers message decoded.1
  let loop : LoopState PgOutputDecoder :=
    { decoder := decoded.2
      currentLsn := some message.walEnd
      totalMessageCount :=
        if handled.counted then pipeline.loop.totalMessageCount + 1
        else pipeline.loop.totalMessageCount }
  let checkpoint :=
    if handled.exit.isNone && answers.checkpointDue then
      saveCheckpoint loop answers.now answers.save
    else []
  { actions := .received message decoded.1 ::
      (sendStandbyStatusUpdate message.walEnd answers.standbyStatus ++ handled.deliveries ++ checkpoint)
    state := { next with loop }
    exit := handled.exit }

def receive (pipeline : Pipeline) : PipelineInput → Reaction Pipeline Action Exit
  | .shutdown now save =>
      { actions := saveCheckpoint pipeline.loop now save, state := pipeline
        exit := some (.returned .shutdown) }
  | .timeout => { actions := [], state := pipeline, exit := none }
  | .socket .ignored _ => { actions := [], state := pipeline, exit := none }
  | .socket (.replied walEnd) _ => { actions := [.standbyStatus walEnd], state := pipeline, exit := none }
  | .socket (.returned message) answers => pipeline.handleMessage crates config message answers
  | .socket (.failed reason) _ => { actions := [], state := pipeline, exit := some (.returned reason) }
  | .socket .panicked _ => { actions := [], state := pipeline, exit := some .panicked }

/-- A new decoder, a new topic manager, and whatever Kafka holds already. -/
def start (broker : Broker) (log : List Record) (totalMessageCount : UInt64) : Pipeline :=
  { loop := { decoder := PgOutputDecoder.new config.database, currentLsn := none, totalMessageCount }
    topics := { manager := .new 1 1, broker }
    log }

def steps (pipeline : Pipeline) (inputs : List PipelineInput) :
    List (Executed Pipeline PipelineInput) :=
  executedFrom (receive crates config) 0 pipeline inputs

def reached (pipeline : Pipeline) (inputs : List PipelineInput) : Pipeline × Option Exit :=
  outcome (receive crates config) pipeline inputs

end Pipeline

end Handlers

section Inner

variable (crates : Crates) (config : Config)

namespace Pipeline

/-- What the decoder answers to what the socket returned. -/
def answerTo (pipeline : Pipeline) (answers : Answers) : Received → Answer
  | .returned message => (pipeline.loop.decoder.decode crates answers.clock message.data).1
  | _ => .ok none

/-- What Kafka's side answers to a decoded message. -/
def kafkaOutcomes (pipeline : Pipeline) (answers : Answers) : Answer → KafkaOutcomes
  | .ok (some (.change event)) =>
      { ensureTopicExists := (pipeline.ensureTopicExists answers
          (config.topicName event.schema event.table)).1
        serialized := serialize crates .json event
        sent := (pipeline.sendChangeEvent crates config answers event).1 }
  | _ => { ensureTopicExists := .ok (), serialized := .ok "", sent := .ok () }

/-- What the receive loop gets to see while it handles an answer of the decoder. -/
def outcomes (pipeline : Pipeline) (answers : Answers) (answer : Answer) : Outcomes :=
  let kafka := pipeline.kafkaOutcomes crates config answers answer
  { clock := answers.clock
    standbyStatus := answers.standbyStatus
    ensureTopicExists := kafka.ensureTopicExists
    sendChangeEvent := kafka.sendChangeEvent
    checkpointDue := answers.checkpointDue
    now := answers.now
    save := answers.save }

def innerInput (pipeline : Pipeline) : PipelineInput → Input
  | .shutdown now save => .shutdown now save
  | .timeout => .timeout
  | .socket received answers =>
      .socket received
        (pipeline.outcomes crates config answers (pipeline.answerTo crates answers received))

end Pipeline

theorem handled_eq (pipeline : Pipeline) (answers : Answers) (message : ReplicationMessage)
    (answer : Answer) :
    (pipeline.handleAnswer crates config answers message answer).1 =
      handleAnswer config (pipeline.outcomes crates config answers answer) message answer := by
  cases answer with
  | err reason => rfl
  | panic => rfl
  | ok decoded =>
      cases decoded with
      | none => rfl
      | some decoded =>
          cases decoded with
          | begin xid => rfl
          | commit => rfl
          | change event =>
              simp only [Pipeline.handleAnswer, Pipeline.processMessage, handleAnswer,
                processMessage, Pipeline.outcomes, Pipeline.kafkaOutcomes]
              obtain ⟨asked, topics⟩ :=
                pipeline.ensureTopicExists answers (config.topicName event.schema event.table)
              cases asked with
              | error reason =>
                  change Prod.fst (if recoverable reason then _ else _) =
                    (if recoverable reason then _ else _)
                  split <;> rfl
              | ok _ =>
                  obtain ⟨result, log⟩ := pipeline.sendChangeEvent crates config answers event
                  cases result with
                  | error reason =>
                      change Prod.fst (if recoverable reason then _ else _) =
                        (if recoverable reason then _ else _)
                      split <;> rfl
                  | ok _ => rfl

theorem handleMessage_inner (pipeline : Pipeline) (message : ReplicationMessage) (answers : Answers) :
    let reaction := pipeline.handleMessage crates config message answers
    let inner := receive config (pgOutput crates) pipeline.loop
      (pipeline.innerInput crates config (.socket (.returned message) answers))
    reaction.actions = inner.actions ∧ reaction.state.loop = inner.state ∧ reaction.exit = inner.exit := by
  have same := handled_eq crates config pipeline answers message
    (pipeline.loop.decoder.decode crates answers.clock message.data).1
  have clock : ∀ answer, (pipeline.outcomes crates config answers answer).clock = answers.clock :=
    fun _ => rfl
  simp only [Pipeline.handleMessage, Pipeline.innerInput, receive, handleMessage, afterMessage,
    Pipeline.answerTo, pgOutput, clock, ← same]
  exact ⟨rfl, trivial, trivial⟩

variable {crates config}

/-- The pipeline's receive loop is the receive loop. -/
theorem simulates : Simulates (Pipeline.receive crates config)
    (receive config (pgOutput crates)) Pipeline.loop
    (Pipeline.innerInput crates config) where
  actions pipeline given := by
    cases given with
    | shutdown now save => rfl
    | timeout => rfl
    | socket received answers =>
        cases received with
        | returned message => exact (handleMessage_inner crates config pipeline message answers).1
        | _ => rfl
  state pipeline given := by
    cases given with
    | shutdown now save => rfl
    | timeout => rfl
    | socket received answers =>
        cases received with
        | returned message => exact (handleMessage_inner crates config pipeline message answers).2.1
        | _ => rfl
  exit pipeline given := by
    cases given with
    | shutdown now save => rfl
    | timeout => rfl
    | socket received answers =>
        cases received with
        | returned message => exact (handleMessage_inner crates config pipeline message answers).2.2
        | _ => rfl

/-- Every run of the pipeline is a run of the receive loop, action for action and
    up to the exit, on the answers that the pipeline gives it. -/
theorem pipeline_run_is_loop_run (pipeline : Pipeline) (inputs : List PipelineInput) :
    let steps := pipeline.steps crates config inputs
    let inner := Simulates.inner (Pipeline.innerInput crates config) steps
    let stop := pipeline.reached crates config inputs
    traceOf (Pipeline.receive crates config) steps =
        trace config (pgOutput crates) pipeline.loop inner ∧
      (stop.1.loop, stop.2) = outcome (receive config (pgOutput crates)) pipeline.loop inner := by
  intro steps inner stop
  constructor
  · have sameTurns : steps.map (Simulates.viewed Pipeline.loop (Pipeline.innerInput crates config)) =
        turns config (pgOutput crates) pipeline.loop inner :=
      simulates.executedFrom_viewed 0 pipeline inputs
    rw [trace, ← sameTurns]
    exact simulates.traceOf_viewed steps
  · exact simulates.outcome_viewed 0 pipeline inputs

end Inner

end PgCapture
