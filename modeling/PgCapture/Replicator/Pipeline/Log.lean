import PgCapture.Replicator.Pipeline

namespace PgCapture

open Data Postgres Kafka

/-! # What Kafka holds

A change gets at most one record, in the order of the changes, and the record
reads back as the change.  A record that Kafka acknowledged is in the log; one
that it did not acknowledge may be.
-/

variable (crates : Crates) (config : Config)

/-- The record of a change: what the loop sends if the serializer answers. -/
def plainRecord (event : ChangeEvent) : Record :=
  { topic := topicOf config event, key := none
    payload := crates.toStringPretty event.toJson }

theorem recordOf_eq (event : ChangeEvent) :
    Pipeline.recordOf crates config event = .ok (plainRecord crates config event) := rfl

namespace Pipeline

/-- The change of an answer, if its record gets into the log. -/
def logged (pipeline : Pipeline) (answers : Answers) : Answer → Option ChangeEvent
  | .ok (some (.change event)) =>
      match (pipeline.ensureTopicExists answers (topicOf config event)).1 with
      | .ok () =>
          if (answers.send (plainRecord crates config event)).applied then some event else none
      | .error _ => none
  | _ => none

/-- The topics after an answer. -/
def topicsAfter (pipeline : Pipeline) (answers : Answers) : Answer → Topics
  | .ok (some (.change event)) => (pipeline.ensureTopicExists answers (topicOf config event)).2
  | _ => pipeline.topics

theorem sendChangeEvent_eq (pipeline : Pipeline) (answers : Answers) (event : ChangeEvent) :
    pipeline.sendChangeEvent crates config answers event =
      ((answers.send (plainRecord crates config event)).result,
        if (answers.send (plainRecord crates config event)).applied then
          pipeline.log ++ [plainRecord crates config event]
        else pipeline.log) := by
  rw [sendChangeEvent, recordOf_eq]

/-- Whether the loop goes on does not matter for what Kafka holds. -/
theorem handleAnswer_decoded (pipeline : Pipeline) (answers : Answers) (message : ReplicationMessage)
    (decoded : DecodedMessage) :
    (pipeline.handleAnswer crates config answers message (.ok (some decoded))).2 =
      (pipeline.processMessage crates config answers decoded).2 := by
  simp only [handleAnswer]
  obtain ⟨result, next⟩ := pipeline.processMessage crates config answers decoded
  cases result with
  | ok _ => rfl
  | error reason =>
      change Prod.snd (if recoverable reason then _ else _) = next
      split <;> rfl

theorem processMessage_change (pipeline : Pipeline) (answers : Answers) (event : ChangeEvent) :
    (pipeline.processMessage crates config answers (.change event)).2 =
      { loop := pipeline.loop
        topics := (pipeline.ensureTopicExists answers (topicOf config event)).2
        log := pipeline.log ++ ((pipeline.logged crates config answers (.ok (some (.change event)))).map
          (plainRecord crates config)).toList } := by
  simp only [processMessage, logged, topicOf, sendChangeEvent_eq]
  obtain ⟨asked, topics⟩ :=
    pipeline.ensureTopicExists answers (config.topicName event.schema event.table)
  cases asked with
  | error reason => simp
  | ok _ =>
      simp only
      by_cases applied : (answers.send (plainRecord crates config event)).applied = true
      · simp [applied]
      · simp [applied]

theorem handleAnswer_snd (pipeline : Pipeline) (answers : Answers) (message : ReplicationMessage)
    (answer : Answer) :
    (pipeline.handleAnswer crates config answers message answer).2 =
      { loop := pipeline.loop
        topics := pipeline.topicsAfter config answers answer
        log := pipeline.log ++
          ((pipeline.logged crates config answers answer).map (plainRecord crates config)).toList } := by
  have same : ∀ log, pipeline.log = log → pipeline = { pipeline with log } := by
    rintro log rfl
    rfl
  cases answer with
  | err reason => exact same _ (List.append_nil _).symm
  | panic => exact same _ (List.append_nil _).symm
  | ok decoded =>
      cases decoded with
      | none => exact same _ (List.append_nil _).symm
      | some decoded =>
          rw [handleAnswer_decoded]
          cases decoded with
          | begin xid => exact same _ (List.append_nil _).symm
          | commit => exact same _ (List.append_nil _).symm
          | change event => exact processMessage_change crates config pipeline answers event

/-- The loop ends with the decoder alone. -/
def exitOf : Answer → Option Exit
  | .panic => some .panicked
  | _ => none

/-- Every error of the topic manager and of the producer is Kafka's. -/
theorem processMessage_error {pipeline : Pipeline} {answers : Answers} {decoded : DecodedMessage}
    {reason : Error}
    (failed : (pipeline.processMessage crates config answers decoded).1 = .error reason) :
    recoverable reason = true := by
  cases decoded with
  | begin xid => contradiction
  | commit => contradiction
  | change event =>
      simp only [processMessage, sendChangeEvent_eq] at failed
      cases asked : pipeline.ensureTopicExists answers (config.topicName event.schema event.table) with
      | mk result topics =>
          rw [asked] at failed
          cases result with
          | error other =>
              obtain ⟨text, rfl⟩ := TopicManager.ensureTopicExists_error (congrArg Prod.fst asked)
              cases failed
              rfl
          | ok _ =>
              cases sent : answers.send (plainRecord crates config event) with
              | delivered =>
                  simp [sent, SendAnswer.result] at failed
              | failed text applied =>
                  simp only [sent, SendAnswer.result, Except.error.injEq] at failed
                  subst failed
                  rfl

theorem handleAnswer_counted (pipeline : Pipeline) (answers : Answers) (message : ReplicationMessage)
    (answer : Answer) :
    (pipeline.handleAnswer crates config answers message answer).1.counted = isDecoded answer ∧
      (pipeline.handleAnswer crates config answers message answer).1.exit = exitOf answer := by
  cases answer with
  | err reason => exact ⟨rfl, rfl⟩
  | panic => exact ⟨rfl, rfl⟩
  | ok decoded =>
      cases decoded with
      | none => exact ⟨rfl, rfl⟩
      | some decoded =>
          simp only [handleAnswer]
          cases processed : pipeline.processMessage crates config answers decoded with
          | mk result next =>
              cases result with
              | ok _ => exact ⟨rfl, rfl⟩
              | error reason =>
                  simp only [processMessage_error crates config (congrArg Prod.fst processed),
                    if_true, isDecoded, exitOf, and_self]

/-- A message's effect on the loop is the decoder's alone. -/
def loopAfter (loop : LoopState PgOutputDecoder) (message : ReplicationMessage) (clock : Clock) :
    LoopState PgOutputDecoder :=
  let decoded := loop.decoder.decode crates clock message.data
  { decoder := decoded.2
    currentLsn := some message.walEnd
    totalMessageCount :=
      if isDecoded decoded.1 then loop.totalMessageCount + 1 else loop.totalMessageCount }

theorem handleMessage_loop (pipeline : Pipeline) (message : ReplicationMessage) (answers : Answers) :
    (pipeline.handleMessage crates config message answers).state.loop =
      loopAfter crates pipeline.loop message answers.clock := by
  simp only [handleMessage, loopAfter, (handleAnswer_counted crates config _ _ _ _).1]

theorem handleMessage_exit (pipeline : Pipeline) (message : ReplicationMessage) (answers : Answers) :
    (pipeline.handleMessage crates config message answers).exit =
      exitOf (pipeline.loop.decoder.decode crates answers.clock message.data).1 := by
  simp only [handleMessage, (handleAnswer_counted crates config _ _ _ _).2]

/-- The change a step puts into the log. -/
def loggedBy (step : Executed Pipeline PipelineInput) : Option ChangeEvent :=
  match step.input with
  | .socket (.returned message) answers =>
      step.state.logged crates config answers
        (step.state.loop.decoder.decode crates answers.clock message.data).1
  | _ => none

theorem receive_log (step : Executed Pipeline PipelineInput) :
    (receive crates config step.state step.input).state.log =
      step.state.log ++
        ((loggedBy crates config step).map (plainRecord crates config)).toList := by
  obtain ⟨number, state, input⟩ := step
  cases input with
  | shutdown now save => exact (List.append_nil _).symm
  | timeout => exact (List.append_nil _).symm
  | socket received answers =>
      cases received with
      | returned message =>
          simp only [receive, handleMessage, handleAnswer_snd, loggedBy]
      | _ => exact (List.append_nil _).symm

theorem receive_topics (step : Executed Pipeline PipelineInput) :
    (receive crates config step.state step.input).state.topics =
      match step.input with
      | .socket (.returned message) answers => step.state.topicsAfter config answers
          (step.state.loop.decoder.decode crates answers.clock message.data).1
      | _ => step.state.topics := by
  obtain ⟨number, state, input⟩ := step
  cases input with
  | shutdown now save => rfl
  | timeout => rfl
  | socket received answers =>
      cases received with
      | returned message => simp only [receive, handleMessage, handleAnswer_snd]
      | _ => rfl

end Pipeline

def decodedChange : Answer → Option ChangeEvent
  | .ok (some (.change event)) => some event
  | _ => none

def Action.change : Action → Option ChangeEvent
  | .received _ answer => decodedChange answer
  | _ => none

/-- The changes the decoder emitted, in order. -/
def changesIn (taken : List (Nat × Action)) : List ChangeEvent :=
  taken.filterMap fun entry => entry.2.change

theorem decodedChange_eq_some {answer : Answer} {event : ChangeEvent} :
    decodedChange answer = some event ↔ answer = .ok (some (.change event)) := by
  constructor
  · intro found
    unfold decodedChange at found
    split at found
    · cases found
      rfl
    · contradiction
  · rintro rfl
    rfl

namespace Pipeline

/-- A step as a turn of the receive loop. -/
def turn (step : Executed Pipeline PipelineInput) : Turn PgOutputDecoder :=
  Simulates.viewed Pipeline.loop (Pipeline.innerInput crates config) step

theorem actions_turn (step : Executed Pipeline PipelineInput) :
    step.actions (receive crates config) =
      (turn crates config step).actions (PgCapture.receive config (pgOutput crates)) :=
  simulates.actions step.state step.input

def changedBy (step : Executed Pipeline PipelineInput) : Option ChangeEvent :=
  (receipt (pgOutput crates) (turn crates config step)).bind fun received =>
    decodedChange received.2

def deliveredBy (step : Executed Pipeline PipelineInput) : Option ChangeEvent :=
  (delivery (pgOutput crates) (turn crates config step)).map Prod.snd

theorem changesIn_traceOf (steps : List (Executed Pipeline PipelineInput)) :
    changesIn (traceOf (receive crates config) steps) =
      steps.filterMap (changedBy crates config) := by
  apply traceOf_filterMap
  intro step _
  rw [actions_turn, turn_filterMap]
  simp [Action.change, changedBy]

/-- The changes of a run are what the decoder makes of the messages. -/
def decodedChanges (decoder : PgOutputDecoder) : List PipelineInput → List ChangeEvent
  | [] => []
  | .timeout :: inputs => decodedChanges decoder inputs
  | .socket .ignored _ :: inputs => decodedChanges decoder inputs
  | .socket (.replied _) _ :: inputs => decodedChanges decoder inputs
  | .socket (.returned message) answers :: inputs =>
      let decoded := decoder.decode crates answers.clock message.data
      (decodedChange decoded.1).toList ++
        if (exitOf decoded.1).isSome then [] else decodedChanges decoded.2 inputs
  | _ :: _ => []

theorem changesIn_steps (number : Nat) (pipeline : Pipeline) (inputs : List PipelineInput) :
    changesIn (traceOf (receive crates config)
        (executedFrom (receive crates config) number pipeline inputs)) =
      decodedChanges crates pipeline.loop.decoder inputs := by
  rw [changesIn_traceOf]
  induction inputs generalizing number pipeline with
  | nil => rfl
  | cons input inputs ih =>
      simp only [executedFrom]
      cases input with
      | shutdown now save => rfl
      | timeout => exact ih (number + 1) pipeline
      | socket received answers =>
          cases received with
          | ignored => exact ih (number + 1) pipeline
          | replied walEnd => exact ih (number + 1) pipeline
          | failed reason => rfl
          | panicked => rfl
          | returned message =>
              have own : changedBy crates config
                  ⟨number, pipeline, .socket (.returned message) answers⟩ =
                decodedChange (pipeline.loop.decoder.decode crates answers.clock message.data).1 := rfl
              have rest := ih (number + 1) (receive crates config pipeline
                (.socket (.returned message) answers)).state
              simp only [receive, handleMessage_loop, loopAfter] at rest
              simp only [receive, handleMessage_exit, decodedChanges, List.filterMap_cons, own]
              cases exitOf (pipeline.loop.decoder.decode crates answers.clock message.data).1 with
              | some exit =>
                  cases decodedChange (pipeline.loop.decoder.decode crates answers.clock message.data).1 <;>
                    rfl
              | none =>
                  simp only [Option.isSome_none, Bool.false_eq_true, if_false]
                  rw [← rest]
                  cases decodedChange (pipeline.loop.decoder.decode crates answers.clock message.data).1 <;>
                    rfl

theorem publishedIn_traceOf (steps : List (Executed Pipeline PipelineInput)) :
    publishedIn (traceOf (receive crates config) steps) =
      (steps.filterMap (deliveredBy crates config)).map fun event =>
        (topicOf config event, event) := by
  rw [List.map_filterMap]
  apply traceOf_filterMap
  intro step _
  rw [actions_turn, turn_published, deliveredBy, Option.map_map]
  rfl

theorem receipt_turn {number : Nat} {state : Pipeline} {message : ReplicationMessage} {answers : Answers} :
    receipt (pgOutput crates)
        (turn crates config ⟨number, state, .socket (.returned message) answers⟩) =
      some (message, (state.loop.decoder.decode crates answers.clock message.data).1) := rfl

theorem changedBy_of_loggedBy {step : Executed Pipeline PipelineInput} {event : ChangeEvent}
    (inLog : loggedBy crates config step = some event) :
    changedBy crates config step = some event := by
  obtain ⟨number, state, input⟩ := step
  cases input with
  | shutdown now save => contradiction
  | timeout => contradiction
  | socket received answers =>
      cases received with
      | returned message =>
          rw [changedBy, receipt_turn, Option.bind_some, decodedChange_eq_some]
          simp only [loggedBy] at inLog
          unfold logged at inLog
          split at inLog
          · rename_i change decoded
            split at inLog
            · split at inLog
              · cases inLog
                exact decoded
              · contradiction
            · contradiction
          · contradiction
      | _ => contradiction

/-- A record that Kafka acknowledges is in the log. -/
theorem loggedBy_of_deliveredBy {step : Executed Pipeline PipelineInput} {event : ChangeEvent}
    (sent : deliveredBy crates config step = some event) :
    loggedBy crates config step = some event := by
  obtain ⟨⟨message, change⟩, delivered, rfl⟩ := Option.map_eq_some_iff.mp sent
  obtain ⟨outcomes, input, decoded, topic, send⟩ := (delivery_eq_some _).mp delivered
  obtain ⟨number, state, given⟩ := step
  cases given with
  | shutdown now save => contradiction
  | timeout => contradiction
  | socket received answers =>
      cases received with
      | returned other =>
          simp only [turn, Simulates.viewed, innerInput, Input.socket.injEq, Received.returned.injEq] at input
          obtain ⟨rfl, rfl⟩ := input
          have answer : state.answerTo crates answers (.returned other) =
              .ok (some (.change change)) := decoded
          have applied : (answers.send (plainRecord crates config change)).applied = true := by
            simp only [outcomes, kafkaOutcomes, answer, sendChangeEvent_eq] at send
            exact SendAnswer.applied_of_result send
          simp only [outcomes, kafkaOutcomes, answer] at topic
          have decodes : (state.loop.decoder.decode crates answers.clock other.data).1 =
              .ok (some (.change change)) := decoded
          simp only [loggedBy, decodes, logged, topicOf, topic, applied, if_true]
      | _ => contradiction

end Pipeline

/-- Metadata that arrives with the input lists the topic. -/
def PipelineInput.Lists (topic : String) : PipelineInput → Prop
  | .socket _ answers => ∃ topics, answers.metadata = .ok topics ∧ topic ∈ topics
  | _ => False

namespace Pipeline

/-- What holds of the log and the topics after the steps done so far. -/
structure Kept (log : List Record) (done : List (Executed Pipeline PipelineInput))
    (state : Pipeline) : Prop where
  log : state.log =
    log ++ (done.filterMap (loggedBy crates config)).map (plainRecord crates config)
  vouched : ∀ topic ∈ state.topics.manager.createdTopics,
    topic ∈ state.topics.broker ∨ ∃ step ∈ done, step.input.Lists topic
  topics : ∀ event ∈ done.filterMap (loggedBy crates config),
    topicOf config event ∈ state.topics.manager.createdTopics

/-- A topic that is answered for is remembered from then on. -/
theorem ensureTopicExists_remembers {pipeline : Pipeline} {answers : Answers} {topic : String}
    (answered : (pipeline.ensureTopicExists answers topic).1 = .ok ()) :
    topic ∈ (pipeline.ensureTopicExists answers topic).2.manager.createdTopics := by
  simp only [ensureTopicExists] at answered ⊢
  rcases pipeline.topics.manager.ensureTopicExists_cases pipeline.topics.broker answers.metadata
    answers.creation topic with ⟨known, same⟩ | ⟨_, result, manager, next, same, _, outcome⟩
  · rw [same]
    exact known
  · rw [same] at answered ⊢
    rcases outcome with ⟨_, rfl, _⟩ | ⟨⟨reason, rfl⟩, _⟩
    · exact Finset.mem_insert_self ..
    · contradiction

theorem ensureTopicExists_keeps {pipeline : Pipeline} {answers : Answers} {asked topic : String}
    (known : topic ∈ pipeline.topics.manager.createdTopics) :
    topic ∈ (pipeline.ensureTopicExists answers asked).2.manager.createdTopics := by
  simp only [ensureTopicExists]
  rcases pipeline.topics.manager.ensureTopicExists_cases pipeline.topics.broker answers.metadata
    answers.creation asked with ⟨_, same⟩ | ⟨_, result, manager, next, same, _, outcome⟩
  · rw [same]
    exact known
  · rw [same]
    rcases outcome with ⟨_, rfl, _⟩ | ⟨_, rfl⟩
    · exact Finset.mem_insert_of_mem known
    · exact known

/-- A remembered topic was remembered before, or exists, or is listed. -/
theorem ensureTopicExists_vouches {pipeline : Pipeline} {answers : Answers} {asked topic : String}
    (known : topic ∈ (pipeline.ensureTopicExists answers asked).2.manager.createdTopics) :
    topic ∈ pipeline.topics.manager.createdTopics ∨
      topic ∈ (pipeline.ensureTopicExists answers asked).2.broker ∨
        ∃ topics, answers.metadata = .ok topics ∧ topic ∈ topics := by
  simp only [ensureTopicExists] at known ⊢
  rcases pipeline.topics.manager.ensureTopicExists_cases pipeline.topics.broker answers.metadata
    answers.creation asked with ⟨_, same⟩ | ⟨_, result, manager, next, same, _, outcome⟩
  · rw [same] at known
    exact .inl known
  · rw [same] at known ⊢
    rcases outcome with ⟨_, rfl, found⟩ | ⟨_, rfl⟩
    · rcases Finset.mem_insert.mp known with rfl | before
      · rcases found with exists' | ⟨_, listed⟩
        · exact .inr (.inl exists')
        · exact .inr (.inr listed)
      · exact .inl before
    · exact .inl known

theorem topicsAfter_keeps (pipeline : Pipeline) (answers : Answers) (answer : Answer) {topic : String}
    (known : topic ∈ pipeline.topics.manager.createdTopics) :
    topic ∈ (pipeline.topicsAfter config answers answer).manager.createdTopics := by
  unfold topicsAfter
  split
  · exact ensureTopicExists_keeps known
  · exact known

theorem topicsAfter_exists (pipeline : Pipeline) (answers : Answers) (answer : Answer) {topic : String}
    (present : topic ∈ pipeline.topics.broker) :
    topic ∈ (pipeline.topicsAfter config answers answer).broker := by
  unfold topicsAfter
  split
  · exact TopicManager.ensureTopicExists_keeps _ _ _ _ present
  · exact present

theorem topicsAfter_vouches {pipeline : Pipeline} {answers : Answers} {answer : Answer} {topic : String}
    (known : topic ∈ (pipeline.topicsAfter config answers answer).manager.createdTopics) :
    topic ∈ pipeline.topics.manager.createdTopics ∨
      topic ∈ (pipeline.topicsAfter config answers answer).broker ∨
        ∃ topics, answers.metadata = .ok topics ∧ topic ∈ topics := by
  unfold topicsAfter at known ⊢
  split at known
  · exact ensureTopicExists_vouches known
  · exact .inl known

theorem logged_topic {pipeline : Pipeline} {answers : Answers} {answer : Answer} {event : ChangeEvent}
    (inLog : pipeline.logged crates config answers answer = some event) :
    topicOf config event ∈ (pipeline.topicsAfter config answers answer).manager.createdTopics := by
  unfold logged at inLog
  split at inLog
  · rename_i change
    split at inLog
    · rename_i asked
      obtain ⟨_, same⟩ := Option.ite_none_right_eq_some.mp inLog
      cases same
      exact ensureTopicExists_remembers asked
    · contradiction
  · contradiction

theorem receive_vouches {step : Executed Pipeline PipelineInput} {topic : String}
    (known : topic ∈ (receive crates config step.state step.input).state.topics.manager.createdTopics) :
    topic ∈ step.state.topics.manager.createdTopics ∨
      topic ∈ (receive crates config step.state step.input).state.topics.broker ∨
        step.input.Lists topic := by
  obtain ⟨number, state, input⟩ := step
  cases input with
  | shutdown now save => exact .inl known
  | timeout => exact .inl known
  | socket received answers =>
      cases received with
      | returned message =>
          rw [receive_topics crates config ⟨number, state, .socket (.returned message) answers⟩] at known ⊢
          exact topicsAfter_vouches config known
      | _ => exact .inl known

theorem receive_exists {step : Executed Pipeline PipelineInput} {topic : String}
    (present : topic ∈ step.state.topics.broker) :
    topic ∈ (receive crates config step.state step.input).state.topics.broker := by
  rw [receive_topics]
  split
  · exact topicsAfter_exists config _ _ _ present
  · exact present

theorem kept_step {log : List Record} {done : List (Executed Pipeline PipelineInput)}
    {step : Executed Pipeline PipelineInput} (before : Kept crates config log done step.state) :
    Kept crates config log (done ++ [step])
      (receive crates config step.state step.input).state := by
  have entries : (done ++ [step]).filterMap (loggedBy crates config) =
      done.filterMap (loggedBy crates config) ++
        (loggedBy crates config step).toList := by
    rw [List.filterMap_append, List.filterMap_cons]
    cases loggedBy crates config step <;> rfl
  constructor
  · rw [receive_log, before.log, entries, List.map_append, List.append_assoc, ← Option.toList_map]
  · intro topic known
    rcases receive_vouches crates config known with earlier | present | listed
    · rcases before.vouched topic earlier with present | ⟨other, member, listed⟩
      · exact .inl (receive_exists crates config present)
      · exact .inr ⟨other, List.mem_append_left _ member, listed⟩
    · exact .inl present
    · exact .inr ⟨step, List.mem_append_right _ List.mem_cons_self, listed⟩
  · rw [entries, receive_topics]
    intro event member
    rcases List.mem_append.mp member with earlier | own
    · split
      · exact topicsAfter_keeps config _ _ _ (before.topics event earlier)
      · exact before.topics event earlier
    · have inLog := Option.mem_toList.mp own
      unfold loggedBy at inLog
      split at inLog
      · exact logged_topic crates config inLog
      · contradiction

theorem kept_reached (broker : Broker) (log : List Record) (count : UInt64) (inputs : List PipelineInput) :
    Kept crates config log (steps crates config (start config broker log count) inputs)
      (reached crates config (start config broker log count) inputs).1 := by
  apply outcome_invariant (receive crates config)
  · exact ⟨(List.append_nil _).symm, fun topic known => absurd known (Finset.notMem_empty topic),
      fun event impossible => by contradiction⟩
  · intro done step _ before
    exact kept_step crates config before

theorem reads_plainRecord (maps : crates.KeepsMaps) {read : String → Option Json}
    {self : PgOutputDecoder} {clock : Clock} {data : Bytes} {event : ChangeEvent}
    (decoded : (self.decode crates clock data).1 = .ok (some (.change event)))
    (eventMillis : IsMillis clock.event) (sourceMillis : IsMillis clock.source)
    (back : ReadsBack read crates.toStringPretty event.toJson) :
    readEvent read (plainRecord crates config event).payload = some event := by
  obtain ⟨payload, written, found⟩ := decoded_readEvent maps decoded eventMillis sourceMillis
    (by decide : SerializationFormat.json ≠ .jsonDebezium) back
  have same : (plainRecord crates config event).payload = payload := Except.ok.inj written
  rw [same, found]

end Pipeline

/-- The record stands for the change: it is in the table's topic, has no key, and
    gives the change back. -/
structure Carries (read : String → Option Json) (record : Record) (event : ChangeEvent) : Prop where
  topic : record.topic = topicOf config event
  key : record.key = none
  payload : readEvent read record.payload = some event

def PipelineInput.MillisClock : PipelineInput → Prop
  | .socket _ answers => IsMillis answers.clock.event ∧ IsMillis answers.clock.source
  | _ => True

theorem Pipeline.carries_of_changedBy (maps : crates.KeepsMaps) {read : String → Option Json}
    {step : Executed Pipeline PipelineInput} {event : ChangeEvent} (millis : step.input.MillisClock)
    (changed : changedBy crates config step = some event)
    (back : ReadsBack read crates.toStringPretty event.toJson) :
    Carries config read (plainRecord crates config event) event := by
  refine ⟨rfl, rfl, ?_⟩
  obtain ⟨number, state, input⟩ := step
  obtain ⟨⟨message, answer⟩, received, isChange⟩ := Option.bind_eq_some_iff.mp changed
  obtain rfl : answer = _ := decodedChange_eq_some.mp isChange
  obtain ⟨outcomes, given, decoded⟩ := (receipt_eq_some _).mp received
  cases input with
  | shutdown now save => contradiction
  | timeout => contradiction
  | socket socket answers =>
      have clock : outcomes.clock = answers.clock := by
        cases given
        rfl
      rw [clock] at decoded
      exact reads_plainRecord crates config maps decoded millis.1 millis.2 back

theorem filterMap_sublist {f g : α → Option β} (weaker : ∀ entry value, f entry = some value →
    g entry = some value) (entries : List α) : (entries.filterMap f).Sublist (entries.filterMap g) := by
  induction entries with
  | nil => exact List.Sublist.slnil
  | cons entry entries ih =>
      cases found : f entry with
      | none =>
          rw [List.filterMap_cons_none found, List.filterMap_cons]
          split
          · exact ih
          · exact ih.cons _
      | some value =>
          rw [List.filterMap_cons_some found, List.filterMap_cons_some (weaker entry value found)]
          exact ih.cons_cons value

section Runs

variable (maps : crates.KeepsMaps) (read : String → Option Json) (broker : Broker) (log : List Record)
  (count : UInt64) (inputs : List PipelineInput) (millis : ∀ input ∈ inputs, input.MillisClock)
  (back : ∀ event ∈ changesIn (traceOf (Pipeline.receive crates config)
      ((Pipeline.start config broker log count).steps crates config inputs)),
    ReadsBack read crates.toStringPretty event.toJson)

include maps millis back in
theorem Pipeline.carries_logged :
    let events := ((Pipeline.start config broker log count).steps crates config
      inputs).filterMap (Pipeline.loggedBy crates config)
    List.Forall₂ (Carries config read) (events.map (plainRecord crates config)) events := by
  intro events
  rw [List.forall₂_map_left_iff, List.forall₂_same]
  intro event member
  obtain ⟨step, executed, inLog⟩ := List.mem_filterMap.mp member
  have changed := Pipeline.changedBy_of_loggedBy crates config inLog
  apply Pipeline.carries_of_changedBy crates config maps
    (millis _ (executedFrom_input_mem _ executed)) changed
  apply back
  rw [Pipeline.changesIn_traceOf]
  exact List.mem_filterMap.mpr ⟨step, executed, changed⟩

include maps millis back in
/-- Whatever the socket, Kafka, the clock and the disk do: the log grows by at
    most one record for each change, in the order of the changes; every record
    reads back as its change and has a topic that exists; and a change that was
    acknowledged has its record. -/
theorem log_follows_changes :
    let taken := traceOf (Pipeline.receive crates config)
      ((Pipeline.start config broker log count).steps crates config inputs)
    let stop := ((Pipeline.start config broker log count).reached crates config inputs).1
    ∃ records events, stop.log = log ++ records ∧ List.Forall₂ (Carries config read) records events ∧
      events.Sublist (changesIn taken) ∧
      (publishedIn taken).Sublist (events.map fun event => (topicOf config event, event)) ∧
      ∀ record ∈ records, record.topic ∈ stop.topics.broker ∨
        ∃ input ∈ inputs, input.Lists record.topic := by
  intro taken stop
  have kept := Pipeline.kept_reached crates config broker log count inputs
  refine ⟨_, _, kept.log,
    Pipeline.carries_logged crates config maps read broker log count inputs millis back, ?_, ?_, ?_⟩
  · rw [Pipeline.changesIn_traceOf]
    exact filterMap_sublist (fun step event => Pipeline.changedBy_of_loggedBy crates config) _
  · rw [Pipeline.publishedIn_traceOf]
    exact (filterMap_sublist
      (fun step event => Pipeline.loggedBy_of_deliveredBy crates config) _).map _
  · intro record member
    obtain ⟨event, inLog, rfl⟩ := List.mem_map.mp member
    rcases kept.vouched _ (kept.topics event inLog) with present | ⟨step, executed, listed⟩
    · exact .inl present
    · exact .inr ⟨step.input, executedFrom_input_mem _ executed, listed⟩

end Runs

def Answers.fine : Answers :=
  { clock := ⟨1, 2⟩, standbyStatus := .ok (), metadata := .ok [], creation := fun _ => .done
    send := fun _ => .delivered, checkpointDue := false, now := 0, save := .ok () }

/-- A table is announced, and a row is inserted. -/
def pricedInputs : List PipelineInput :=
  [.socket (.returned { walStart := 0, walEnd := 8, data := pricedTable }) .fine,
    .socket (.returned { walStart := 0, walEnd := 9, data := pricedRow }) .fine]

def readPricedChange : String → Option Json :=
  readerOf pricedRowCrates.toStringPretty [pricedEvent.toJson]

def pricedTaken : List (Nat × Action) :=
  traceOf (Pipeline.receive pricedRowCrates sampleConfig)
    ((Pipeline.start sampleConfig [] [] 0).steps pricedRowCrates sampleConfig pricedInputs)

def pricedStop : Pipeline :=
  ((Pipeline.start sampleConfig [] [] 0).reached pricedRowCrates sampleConfig pricedInputs).1

set_option maxRecDepth 8000 in
theorem changesIn_priced : changesIn pricedTaken = [pricedEvent] := rfl

theorem pricedInputs_millis : ∀ input ∈ pricedInputs, input.MillisClock := by
  have millis : IsMillis 1 ∧ IsMillis 2 := by
    simp [IsMillis]
  intro input member
  rcases List.mem_cons.mp member with rfl | later
  · exact millis
  · rw [List.mem_singleton.mp later]
    exact millis

theorem pricedTaken_back : ∀ event ∈ changesIn pricedTaken,
    ReadsBack readPricedChange pricedRowCrates.toStringPretty event.toJson := by
  rw [changesIn_priced]
  intro event member
  rw [List.mem_singleton.mp member]
  exact readsBack_only _ _

theorem log_follows_priced :
    ∃ records events, pricedStop.log = [] ++ records ∧
      List.Forall₂ (Carries sampleConfig readPricedChange) records events ∧
      events.Sublist (changesIn pricedTaken) ∧
      (publishedIn pricedTaken).Sublist (events.map fun event => (topicOf sampleConfig event, event)) ∧
      ∀ record ∈ records, record.topic ∈ pricedStop.topics.broker ∨
        ∃ input ∈ pricedInputs, input.Lists record.topic :=
  log_follows_changes pricedRowCrates sampleConfig (fun text value impossible => by contradiction)
    readPricedChange [] [] 0 pricedInputs pricedInputs_millis pricedTaken_back

/-- The same answers from a Kafka that does all it is asked to. -/
def Answers.kafkaWorks (answers : Answers) : Answers :=
  { answers with
    metadata := .ok (answers.metadata.toOption.getD [])
    creation := fun _ => .done
    send := fun _ => .delivered }

def PipelineInput.kafkaWorks : PipelineInput → PipelineInput
  | .socket received answers => .socket received answers.kafkaWorks
  | .shutdown now save => .shutdown now save
  | .timeout => .timeout

theorem PipelineInput.kafkaWorks_millis (input : PipelineInput) :
    input.kafkaWorks.MillisClock ↔ input.MillisClock := by
  cases input <;> exact Iff.rfl

namespace Pipeline

theorem ensureTopicExists_works (pipeline : Pipeline) (answers : Answers) (topic : String) :
    (pipeline.ensureTopicExists answers.kafkaWorks topic).1 = .ok () := by
  simp only [ensureTopicExists, TopicManager.ensureTopicExists, Answers.kafkaWorks,
    TopicManager.topicExists]
  split
  · rfl
  · cases (answers.metadata.toOption.getD []).any fun other => decide (other = topic) <;> rfl

theorem deliveredEvent_works (pipeline : Pipeline) (answers : Answers) (answer : Answer) :
    deliveredEvent (pipeline.outcomes crates config answers.kafkaWorks answer) answer =
      decodedChange answer := by
  cases answer with
  | err reason => rfl
  | panic => rfl
  | ok decoded =>
      cases decoded with
      | none => rfl
      | some decoded =>
          cases decoded with
          | begin xid => rfl
          | commit => rfl
          | change event =>
              have asked := pipeline.ensureTopicExists_works answers
                (config.topicName event.schema event.table)
              have sent : (pipeline.sendChangeEvent crates config answers.kafkaWorks event).1 =
                  .ok () := by
                rw [sendChangeEvent_eq]
                rfl
              simp only [deliveredEvent, outcomes, kafkaOutcomes, asked, sent, decodedChange]
              rfl

theorem deliveredBy_works {step : Executed Pipeline PipelineInput} {input : PipelineInput}
    (works : step.input = input.kafkaWorks) :
    deliveredBy crates config step = changedBy crates config step := by
  obtain ⟨number, state, given⟩ := step
  subst works
  cases input with
  | shutdown now save => rfl
  | timeout => rfl
  | socket received answers =>
      cases received with
      | returned message =>
          rw [changedBy, PipelineInput.kafkaWorks, receipt_turn, Option.bind_some,
            ← deliveredEvent_works crates config state answers]
          simp only [deliveredBy, delivery, turn, Simulates.viewed, innerInput, Option.map_map]
          exact Option.map_id'
      | _ => rfl

end Pipeline

theorem Pipeline.decodedChanges_works (decoder : PgOutputDecoder) (inputs : List PipelineInput) :
    decodedChanges crates decoder (inputs.map PipelineInput.kafkaWorks) =
      decodedChanges crates decoder inputs := by
  induction inputs generalizing decoder with
  | nil => rfl
  | cons input inputs ih =>
      cases input with
      | shutdown now save => rfl
      | timeout => exact ih decoder
      | socket received answers =>
          cases received with
          | ignored => exact ih decoder
          | replied walEnd => exact ih decoder
          | failed reason => rfl
          | panicked => rfl
          | returned message =>
              simp only [List.map_cons, PipelineInput.kafkaWorks, decodedChanges, Answers.kafkaWorks, ih]

theorem Pipeline.steps_works {pipeline : Pipeline} {inputs : List PipelineInput}
    {step : Executed Pipeline PipelineInput}
    (executed : step ∈ pipeline.steps crates config (inputs.map PipelineInput.kafkaWorks)) :
    deliveredBy crates config step = changedBy crates config step ∧
      loggedBy crates config step = changedBy crates config step := by
  obtain ⟨input, _, works⟩ := List.mem_map.mp (executedFrom_input_mem _ executed)
  have delivered := deliveredBy_works crates config works.symm
  refine ⟨delivered, Option.ext fun event => ?_⟩
  exact ⟨changedBy_of_loggedBy crates config, fun changed =>
    loggedBy_of_deliveredBy crates config (delivered.trans changed)⟩

section Working

variable (maps : crates.KeepsMaps) (read : String → Option Json) (broker : Broker) (log : List Record)
  (count : UInt64) (inputs : List PipelineInput) (millis : ∀ input ∈ inputs, input.MillisClock)
  (back : ∀ event ∈ changesIn (traceOf (Pipeline.receive crates config)
      ((Pipeline.start config broker log count).steps crates config
        (inputs.map PipelineInput.kafkaWorks))),
    ReadsBack read crates.toStringPretty event.toJson)

include maps millis back in
theorem Pipeline.records_of_changes :
    let start := Pipeline.start config broker log count
    let working := inputs.map PipelineInput.kafkaWorks
    let taken := traceOf (receive crates config) (start.steps crates config working)
    ∃ records, (start.reached crates config working).1.log = log ++ records ∧
      List.Forall₂ (Carries config read) records (changesIn taken) := by
  intro start working taken
  have kept := (kept_reached crates config broker log count working).log
  have carried := carries_logged crates config maps read broker log count working
    (fun input member => by
      obtain ⟨own, inside, rfl⟩ := List.mem_map.mp member
      exact own.kafkaWorks_millis.mpr (millis own inside)) back
  have entries : (start.steps crates config working).filterMap
        (loggedBy crates config) =
      (start.steps crates config working).filterMap (changedBy crates config) :=
    List.filterMap_congr fun step member => (steps_works crates config member).2
  rw [entries] at kept carried
  refine ⟨_, kept, ?_⟩
  rw [changesIn_traceOf]
  exact carried

include maps millis back in
/-- With a Kafka that works every change has its record, once and in order, and
    is acknowledged. -/
theorem log_of_working_kafka :
    let start := Pipeline.start config broker log count
    let working := inputs.map PipelineInput.kafkaWorks
    let taken := traceOf (Pipeline.receive crates config)
      (start.steps crates config working)
    ∃ records, (start.reached crates config working).1.log = log ++ records ∧
      List.Forall₂ (Carries config read) records (changesIn taken) ∧
      publishedIn taken = (changesIn taken).map fun event => (topicOf config event, event) := by
  intro start working taken
  obtain ⟨records, kept, carried⟩ := Pipeline.records_of_changes crates config maps read broker log
    count inputs millis back
  refine ⟨records, kept, carried, ?_⟩
  rw [Pipeline.publishedIn_traceOf, Pipeline.changesIn_traceOf,
    List.filterMap_congr fun step member => (Pipeline.steps_works crates config member).1]

end Working

theorem log_of_working_priced :
    ∃ records, pricedStop.log = [] ++ records ∧
      List.Forall₂ (Carries sampleConfig readPricedChange) records (changesIn pricedTaken) ∧
      publishedIn pricedTaken =
        (changesIn pricedTaken).map fun event => (topicOf sampleConfig event, event) :=
  log_of_working_kafka pricedRowCrates sampleConfig (fun text value impossible => by contradiction)
    readPricedChange [] [] 0 pricedInputs pricedInputs_millis pricedTaken_back

end PgCapture
