import PgCapture.Replicator.Pipeline.Log
import PgCapture.Replicator.Positions
import PgCapture.Postgres.Framing

namespace PgCapture

open Data Postgres Kafka

/-! # What PostgreSQL does not get to see

The positions that are acknowledged, the checkpoints and the end of the run are
those of a Kafka that never fails.  And as the connection takes the header off
that the decoder looks for, they are those of a run that decodes its messages,
while not one change is decoded.
-/

/-- What is not a delivery to Kafka. -/
def Action.besideKafka (action : Action) : Bool := action.published.isNone

namespace Pipeline

variable (crates : Crates) (config : Config)

theorem deliveries_kafka (pipeline : Pipeline) (answers : Answers) (message : ReplicationMessage)
    (answer : Answer) :
    (pipeline.handleAnswer crates config answers message answer).1.deliveries.filter
      Action.besideKafka = [] := by
  rw [handled_eq, handleAnswer_deliveries, List.filter_map]
  cases deliveredEvent (pipeline.outcomes crates config answers answer) answer <;> rfl

theorem handleMessage_actions (pipeline : Pipeline) (message : ReplicationMessage) (answers : Answers) :
    (pipeline.handleMessage crates config message answers).actions.filter
        Action.besideKafka =
      (.received message (pipeline.loop.decoder.decode crates answers.clock message.data).1 ::
        (sendStandbyStatusUpdate message.walEnd answers.standbyStatus ++
          if (exitOf (pipeline.loop.decoder.decode crates answers.clock message.data).1).isNone &&
              answers.checkpointDue then
            saveCheckpoint (loopAfter crates pipeline.loop message answers.clock) answers.now answers.save
          else [])).filter Action.besideKafka := by
  simp only [handleMessage, loopAfter, handleAnswer_counted, List.filter_cons, List.filter_append,
    deliveries_kafka, List.append_nil]

/-- A run and the run in which Kafka works: they keep the same loop state. -/
theorem lockstep : Lockstep (receive crates config) (receive crates config)
    (fun pipeline other => pipeline.loop = other.loop) (fun input other => other = input.kafkaWorks)
    Action.besideKafka where
  exit := by
    rintro pipeline other input _ same rfl
    cases input with
    | shutdown now save => rfl
    | timeout => rfl
    | socket received answers =>
        cases received with
        | returned message =>
            simp only [PipelineInput.kafkaWorks, receive, handleMessage_exit, same]
            rfl
        | _ => rfl
  state := by
    rintro pipeline other input _ same rfl
    cases input with
    | shutdown now save => exact same
    | timeout => exact same
    | socket received answers =>
        cases received with
        | returned message =>
            simp only [PipelineInput.kafkaWorks, receive, handleMessage_loop, same]
            rfl
        | _ => exact same
  actions := by
    rintro pipeline other input _ same rfl
    cases input with
    | shutdown now save => simp only [PipelineInput.kafkaWorks, receive, same]
    | timeout => rfl
    | socket received answers =>
        cases received with
        | returned message =>
            simp only [PipelineInput.kafkaWorks, receive, handleMessage_actions, same]
            rfl
        | _ => rfl

theorem works_forall₂ (inputs : List PipelineInput) :
    List.Forall₂ (fun input other => other = PipelineInput.kafkaWorks input) inputs
      (inputs.map PipelineInput.kafkaWorks) := by
  rw [List.forall₂_map_right_iff, List.forall₂_same]
  exact fun _ _ => rfl

end Pipeline

/-- Kafka may fail as it likes, on any topic and any record: PostgreSQL, the
    checkpoint file and the caller of the loop cannot tell it from a Kafka that
    works, whatever the two brokers hold. -/
theorem kafka_unseen (crates : Crates) (config : Config) (pipeline other : Pipeline)
    (same : pipeline.loop = other.loop)
    (inputs : List PipelineInput) :
    let stop := pipeline.reached crates config inputs
    let stopWorking := other.reached crates config (inputs.map PipelineInput.kafkaWorks)
    stop.2 = stopWorking.2 ∧ stop.1.loop = stopWorking.1.loop ∧
      (traceOf (Pipeline.receive crates config)
          (pipeline.steps crates config inputs)).filter (fun entry => entry.2.besideKafka) =
        (traceOf (Pipeline.receive crates config)
          (other.steps crates config (inputs.map PipelineInput.kafkaWorks))).filter
          fun entry => entry.2.besideKafka := by
  have working := Pipeline.works_forall₂ inputs
  have pair := Pipeline.lockstep crates config
  obtain ⟨exits, loops⟩ := pair.outcome same working
  exact ⟨exits, loops, pair.traceOf same working⟩

/-- Kafka refuses to list its topics. -/
def unreachableKafka : List PipelineInput :=
  [.socket (.returned { walStart := 0, walEnd := 9, data := pricedRow })
    { Answers.fine with metadata := .error "no broker" }]

theorem kafka_unseen_unreachable :
    let lost : Pipeline :=
      { (Pipeline.start sampleConfig [] [] 0) with
        loop := { decoder := knowsPrice, currentLsn := none, totalMessageCount := 0 } }
    let stop := lost.reached pricedRowCrates sampleConfig unreachableKafka
    let stopWorking := lost.reached pricedRowCrates sampleConfig
      (unreachableKafka.map PipelineInput.kafkaWorks)
    stop.2 = stopWorking.2 ∧ stop.1.loop = stopWorking.1.loop ∧
      (traceOf (Pipeline.receive pricedRowCrates sampleConfig)
          (lost.steps pricedRowCrates sampleConfig unreachableKafka)).filter
          (fun entry => entry.2.besideKafka) =
        (traceOf (Pipeline.receive pricedRowCrates sampleConfig)
          (lost.steps pricedRowCrates sampleConfig
            (unreachableKafka.map PipelineInput.kafkaWorks))).filter fun entry => entry.2.besideKafka := by
  intro lost
  exact kafka_unseen pricedRowCrates sampleConfig lost lost rfl unreachableKafka

/-- The socket's answer is what the connection makes of a message of the server,
    and no body behind an XLogData header starts with the header's own byte.  No
    message of the plugin does. -/
def PipelineInput.FromServer (debugText : String → String) : PipelineInput → Prop
  | .socket received _ => ∃ write message, received = recvCopybothMessage debugText write message ∧
      ∀ payload endLsn body, message = .copyData payload → xLogData? payload = some (endLsn, body) →
        body.head? ≠ some Tag.xLogData
  | _ => True

def PipelineInput.message : PipelineInput → Option ReplicationMessage
  | .socket (.returned message) _ => some message
  | _ => none

/-- The position that is reported to the server. -/
def PipelineInput.report : PipelineInput → Option UInt64
  | .socket (.replied walEnd) _ => some walEnd
  | .socket (.returned message) { standbyStatus := .ok (), .. } => some message.walEnd
  | _ => none

section Headless

variable {crates : Crates} {config : Config}
  {debugText : String → String}

theorem head?_of_fromServer {message : ReplicationMessage} {answers : Answers}
    (given : PipelineInput.FromServer debugText (.socket (.returned message) answers)) :
    message.data.head? ≠ some Tag.xLogData := by
  obtain ⟨write, sent, same, bodies⟩ := given
  cases sent with
  | copyData payload =>
      have headed := xLogData?_of_returned same.symm
      exact bodies payload _ _ rfl headed
  | errorResponse fields => contradiction
  | _ => contradiction

theorem decode_of_no_tag {data : Bytes} (noTag : data.head? ≠ some Tag.xLogData) (self : PgOutputDecoder)
    (clock : Clock) : self.decode crates clock data = (.ok none, self) := by
  have headless : xLogData? data = none := by
    cases found : xLogData? data with
    | none => rfl
    | some header =>
        obtain ⟨cursor, rfl⟩ := cons_of_xLogData? found
        exact absurd rfl noTag
  rw [decode_headless crates headless, headlessAnswer_of_no_tag noTag]

namespace Pipeline

theorem report_turn (step : Executed Pipeline PipelineInput) :
    PgCapture.report (turn crates config step) = step.input.report := by
  obtain ⟨number, state, input⟩ := step
  cases input with
  | shutdown now save => rfl
  | timeout => rfl
  | socket received answers =>
      obtain ⟨clock, standbyStatus, metadata, creation, send, due, now, save⟩ := answers
      cases received <;> cases standbyStatus <;> rfl

theorem reportedIn_traceOf (steps : List (Executed Pipeline PipelineInput)) :
    reportedIn (traceOf (receive crates config) steps) =
      steps.filterMap fun step => step.input.report := by
  apply traceOf_filterMap
  intro step _
  rw [actions_turn, loop_reported, report_turn]

/-- A message without its header moves the position and nothing else. -/
theorem receive_headless {pipeline : Pipeline} {input : PipelineInput}
    (given : input.FromServer debugText) :
    (receive crates config pipeline input).state =
      { pipeline with loop := { pipeline.loop with
          currentLsn := (input.message.map ReplicationMessage.walEnd).or pipeline.loop.currentLsn } } := by
  cases input with
  | shutdown now save => rfl
  | timeout => rfl
  | socket received answers =>
      cases received with
      | returned message =>
          simp only [receive, handleMessage, decode_of_no_tag (head?_of_fromServer given)]
          rfl
      | _ => rfl

theorem changedBy_headless {step : Executed Pipeline PipelineInput}
    (given : step.input.FromServer debugText) : changedBy crates config step = none := by
  obtain ⟨number, state, input⟩ := step
  cases input with
  | shutdown now save => rfl
  | timeout => rfl
  | socket received answers =>
      cases received with
      | returned message =>
          rw [changedBy, receipt_turn, Option.bind_some, decode_of_no_tag (head?_of_fromServer given)]
          rfl
      | _ => rfl

end Pipeline

/-- Every position is acknowledged, and no change is decoded, sent or counted. -/
theorem acknowledged_unread (broker : Broker) (log : List Record) (count : UInt64)
    (inputs : List PipelineInput) (given : ∀ input ∈ inputs, input.FromServer debugText) :
    let start := Pipeline.start config broker log count
    let executed := start.steps crates config inputs
    let taken := traceOf (Pipeline.receive crates config) executed
    (start.reached crates config inputs).1 =
        { start with loop := { start.loop with
            currentLsn := ((executed.filterMap fun step => step.input.message).getLast?.map
              ReplicationMessage.walEnd) } } ∧
      changesIn taken = [] ∧
      reportedIn taken = (executed.map Executed.input).filterMap PipelineInput.report := by
  intro start executed taken
  refine ⟨?_, ?_, ?_⟩
  · apply outcome_invariant (Pipeline.receive crates config)
      (fun done (reached : Pipeline) => reached = { start with loop := { start.loop with
        currentLsn := ((done.filterMap fun step => step.input.message).getLast?.map
          ReplicationMessage.walEnd) } })
    · rfl
    · intro done step member before
      rw [Pipeline.receive_headless (given _ member), before, List.filterMap_append]
      cases own : step.input.message with
      | none => simp [own]
      | some message => simp [own]
  · rw [Pipeline.changesIn_traceOf, List.filterMap_eq_nil_iff]
    intro step member
    exact Pipeline.changedBy_headless (given _ (executedFrom_input_mem _ member))
  · rw [Pipeline.reportedIn_traceOf, List.filterMap_map]
    rfl

end Headless

/-- A BEGIN in its frame, as the server sends it. -/
def beginInput : PipelineInput :=
  .socket (recvCopybothMessage id (.ok ())
    (.copyData (payloadAt9 (Tag.begin :: List.replicate 19 0 ++ [7])))) .fine

theorem beginInput_fromServer : beginInput.FromServer id := by
  refine ⟨.ok (), _, rfl, ?_⟩
  intro payload endLsn body same headed
  cases same
  obtain ⟨_, rfl⟩ := Prod.mk.inj (Option.some.inj headed)
  decide

theorem acknowledged_unread_begin :
    let start := Pipeline.start sampleConfig [] [] 0
    let executed := start.steps .idle sampleConfig [beginInput]
    let taken := traceOf (Pipeline.receive .idle sampleConfig) executed
    (start.reached .idle sampleConfig [beginInput]).1 =
        { start with loop := { start.loop with
            currentLsn := ((executed.filterMap fun step => step.input.message).getLast?.map
              ReplicationMessage.walEnd) } } ∧
      changesIn taken = [] ∧
      reportedIn taken = (executed.map Executed.input).filterMap PipelineInput.report :=
  acknowledged_unread [] [] 0 [beginInput] fun _ member =>
    List.mem_singleton.mp member ▸ beginInput_fromServer

end PgCapture
