import PgCapture.Replicator

namespace PgCapture

open Data Postgres

/-! # What one turn does

A turn of the receive loop takes at most four actions, always in this order:
it records the receipt of a message, reports a position to PostgreSQL, delivers
a change to Kafka, and saves a checkpoint.  Each of them is decided by the state
and the input the turn starts from.
-/

abbrev Turn (D : Type) := Executed (LoopState D) Input

variable (config : Config) (decoder : Decoder D)

def receipt (turn : Turn D) : Option (ReplicationMessage × Answer) :=
  match turn.input with
  | .socket (.returned message) outcomes =>
      some (message, (decoder.decode turn.state.decoder outcomes.clock message.data).1)
  | _ => none

def report (turn : Turn D) : Option UInt64 :=
  match turn.input with
  | .socket (.replied walEnd) _ => some walEnd
  | .socket (.returned message) outcomes =>
      match outcomes.standbyStatus with
      | .ok () => some message.walEnd
      | .error _ => none
  | _ => none

/-- The change of a message, if the topic is there and Kafka acknowledges it. -/
def deliveredEvent (outcomes : Outcomes) : Answer → Option ChangeEvent
  | .ok (some (.change event)) =>
      match outcomes.ensureTopicExists, outcomes.sendChangeEvent with
      | .ok (), .ok () => some event
      | _, _ => none
  | _ => none

def delivery (turn : Turn D) : Option (ReplicationMessage × ChangeEvent) :=
  match turn.input with
  | .socket (.returned message) outcomes =>
      (deliveredEvent outcomes
        (decoder.decode turn.state.decoder outcomes.clock message.data).1).map fun event =>
          (message, event)
  | _ => none

def goesOn (turn : Turn D) : Bool :=
  match turn.input with
  | .socket (.returned message) outcomes =>
      (handleAnswer config outcomes message
        (decoder.decode turn.state.decoder outcomes.clock message.data).1).exit.isNone
  | _ => false

/-- The position a turn saves: the last one received, at a due checkpoint or at
    the shutdown. -/
def savedLsn (turn : Turn D) : Option UInt64 :=
  match turn.input with
  | .shutdown _ (.ok ()) => turn.state.currentLsn
  | .socket (.returned message) { save := .ok (), checkpointDue := true, .. } =>
      if goesOn config decoder turn then some message.walEnd else none
  | _ => none

/-- The checkpoint a turn writes for a position. -/
def checkpointOf (turn : Turn D) (lsn : UInt64) : Checkpoint :=
  match turn.input with
  | .shutdown now _ =>
      { lsn := formatLsn lsn, timestamp := now, messageCount := turn.state.totalMessageCount }
  | .socket (.returned message) outcomes =>
      { lsn := formatLsn lsn, timestamp := outcomes.now
        messageCount := (afterMessage config decoder turn.state message outcomes).totalMessageCount }
  | _ => { lsn := formatLsn lsn, timestamp := 0, messageCount := turn.state.totalMessageCount }

def topicOf (event : ChangeEvent) : String := config.topicName event.schema event.table

theorem deliveredEvent_eq_some {outcomes : Outcomes} {answer : Answer} {event : ChangeEvent} :
    deliveredEvent outcomes answer = some event ↔
      answer = .ok (some (.change event)) ∧ outcomes.ensureTopicExists = .ok () ∧
        outcomes.sendChangeEvent = .ok () := by
  constructor
  · intro delivered
    simp only [deliveredEvent] at delivered
    split at delivered
    · split at delivered
      · rename_i topic sent
        cases delivered
        exact ⟨rfl, topic, sent⟩
      · contradiction
    · contradiction
  · intro outcome
    obtain ⟨rfl, topic, sent⟩ := outcome
    simp only [deliveredEvent, topic, sent]

theorem receipt_eq_some {turn : Turn D} {message : ReplicationMessage} {answer : Answer} :
    receipt decoder turn = some (message, answer) ↔
      ∃ outcomes, turn.input = .socket (.returned message) outcomes ∧
        (decoder.decode turn.state.decoder outcomes.clock message.data).1 = answer := by
  obtain ⟨number, state, input⟩ := turn
  constructor
  · intro received
    rw [receipt] at received
    split at received
    · rename_i found outcomes same
      simp only [Option.some.injEq, Prod.mk.injEq] at received
      obtain ⟨rfl, answered⟩ := received
      exact ⟨outcomes, same, answered⟩
    · contradiction
  · intro received
    obtain ⟨outcomes, same, answered⟩ := received
    simp only at same
    subst same
    simp only [receipt, answered]

theorem delivery_eq_some {turn : Turn D} {message : ReplicationMessage} {event : ChangeEvent} :
    delivery decoder turn = some (message, event) ↔
      ∃ outcomes, turn.input = .socket (.returned message) outcomes ∧
        (decoder.decode turn.state.decoder outcomes.clock message.data).1 = .ok (some (.change event)) ∧
        outcomes.ensureTopicExists = .ok () ∧ outcomes.sendChangeEvent = .ok () := by
  obtain ⟨number, state, input⟩ := turn
  constructor
  · intro delivered
    rw [delivery] at delivered
    split at delivered
    · rename_i found outcomes same
      obtain ⟨change, sent, pair⟩ := Option.map_eq_some_iff.mp delivered
      cases pair
      exact ⟨outcomes, same, deliveredEvent_eq_some.mp sent⟩
    · contradiction
  · intro delivered
    obtain ⟨outcomes, same, outcome⟩ := delivered
    simp only at same outcome
    subst same
    simp only [delivery, deliveredEvent_eq_some.mpr outcome, Option.map_some]

theorem handleAnswer_deliveries (outcomes : Outcomes) (message : ReplicationMessage) (answer : Answer) :
    (handleAnswer config outcomes message answer).deliveries =
      (deliveredEvent outcomes answer).toList.map fun event =>
        .delivered message (topicOf config event) event := by
  cases answer with
  | err reason => rfl
  | panic => rfl
  | ok decoded =>
      cases decoded with
      | none => rfl
      | some decoded =>
          cases decoded with
          | begin xid => rfl
          | commit => rfl
          | change event =>
              cases topic : outcomes.ensureTopicExists with
              | error reason =>
                  simp only [handleAnswer, processMessage, deliveredEvent, topic]
                  change Handled.deliveries (if recoverable reason then _ else _) = []
                  split <;> rfl
              | ok _ =>
                  cases sent : outcomes.sendChangeEvent with
                  | error reason =>
                      simp only [handleAnswer, processMessage, deliveredEvent, topic, sent]
                      change Handled.deliveries (if recoverable reason then _ else _) = []
                      split <;> rfl
                  | ok _ =>
                      simp only [handleAnswer, processMessage, deliveredEvent, topic, sent]
                      rfl

def opening (turn : Turn D) : List Action :=
  (receipt decoder turn).toList.map (fun received => .received received.1 received.2) ++
    (report turn).toList.map .standbyStatus

def closing (turn : Turn D) : List Action :=
  (delivery decoder turn).toList.map (fun delivered =>
    .delivered delivered.1 (topicOf config delivered.2) delivered.2) ++
  (savedLsn config decoder turn).toList.map fun lsn => .saved (checkpointOf config decoder turn lsn)

theorem turn_actions (turn : Turn D) :
    turn.actions (receive config decoder) = opening decoder turn ++ closing config decoder turn := by
  obtain ⟨number, state, input⟩ := turn
  cases input with
  | timeout => rfl
  | shutdown now save =>
      cases save with
      | error reason => rfl
      | ok _ =>
          cases position : state.currentLsn with
          | none =>
              simp only [Executed.actions, receive, saveCheckpoint, position, opening, closing, receipt,
                report, delivery, savedLsn]
              rfl
          | some lsn =>
              simp only [Executed.actions, receive, saveCheckpoint, position, opening, closing, receipt,
                report, delivery, savedLsn]
              rfl
  | socket received outcomes =>
      cases received with
      | ignored => rfl
      | replied walEnd => rfl
      | failed reason => rfl
      | panicked => rfl
      | returned message =>
          obtain ⟨clock, standbyStatus, ensureTopicExists, sendChangeEvent, checkpointDue, now, save⟩ :=
            outcomes
          simp only [Executed.actions, receive, handleMessage, handleAnswer_deliveries, opening, closing,
            receipt, report, delivery, Option.toList_some, List.map_cons, List.map_nil, List.cons_append,
            List.nil_append, Option.toList_map, List.map_map, List.append_assoc]
          congr 1
          congr 1
          · cases standbyStatus <;> rfl
          · congr 1
            cases save with
            | error reason => cases checkpointDue <;> simp [savedLsn, saveCheckpoint]
            | ok _ =>
                cases checkpointDue with
                | false => simp [savedLsn]
                | true =>
                    simp only [savedLsn, goesOn, Bool.and_true, saveCheckpoint, afterMessage, checkpointOf]
                    split
                    · rename_i continues
                      simp [continues]
                    · rename_i stops
                      simp [stops]

theorem filterMap_toList_map (entry : Option α) (make : α → β) (kind : β → Option γ) :
    (entry.toList.map make).filterMap kind = (entry.bind fun value => kind (make value)).toList := by
  cases entry with
  | none => rfl
  | some value =>
      rw [Option.toList_some, List.map_singleton, List.filterMap_cons, Option.bind_some]
      cases kind (make value) <;> rfl

/-- What a turn shows of one kind of action. -/
theorem turn_filterMap (turn : Turn D) (kind : Action → Option β) :
    (turn.actions (receive config decoder)).filterMap kind =
      ((receipt decoder turn).bind fun received => kind (.received received.1 received.2)).toList ++
        ((report turn).bind fun lsn => kind (.standbyStatus lsn)).toList ++
        (((delivery decoder turn).bind fun delivered =>
          kind (.delivered delivered.1 (topicOf config delivered.2) delivered.2)).toList ++
        ((savedLsn config decoder turn).bind fun lsn =>
          kind (.saved (checkpointOf config decoder turn lsn))).toList) := by
  rw [turn_actions, opening, closing]
  simp only [List.filterMap_append, filterMap_toList_map]

section Membership

variable {config decoder} {turn : Turn D}

@[simp] theorem received_mem {message : ReplicationMessage} {answer : Answer} :
    .received message answer ∈ turn.actions (receive config decoder) ↔
      receipt decoder turn = some (message, answer) := by
  simp [turn_actions, opening, closing]

@[simp] theorem standbyStatus_mem {lsn : UInt64} :
    .standbyStatus lsn ∈ turn.actions (receive config decoder) ↔ report turn = some lsn := by
  simp [turn_actions, opening, closing]

@[simp] theorem delivered_mem {message : ReplicationMessage} {topic : String} {event : ChangeEvent} :
    .delivered message topic event ∈ turn.actions (receive config decoder) ↔
      delivery decoder turn = some (message, event) ∧ topic = topicOf config event := by
  simp only [turn_actions, opening, closing, List.mem_append, List.mem_map, Option.mem_toList,
    reduceCtorEq, and_false, exists_false, or_false, false_or, Action.delivered.injEq, Prod.exists]
  constructor
  · intro taken
    obtain ⟨sent, change, found, rfl, rfl, rfl⟩ := taken
    exact ⟨found, rfl⟩
  · intro taken
    obtain ⟨found, rfl⟩ := taken
    exact ⟨message, event, found, rfl, rfl, rfl⟩

@[simp] theorem saved_mem {checkpoint : Checkpoint} :
    .saved checkpoint ∈ turn.actions (receive config decoder) ↔
      ∃ lsn, savedLsn config decoder turn = some lsn ∧
        checkpoint = checkpointOf config decoder turn lsn := by
  simp only [turn_actions, opening, closing, List.mem_append, List.mem_map, Option.mem_toList,
    reduceCtorEq, and_false, exists_false, or_false, false_or, Action.saved.injEq]
  constructor
  · intro taken
    obtain ⟨lsn, found, rfl⟩ := taken
    exact ⟨lsn, found, rfl⟩
  · intro taken
    obtain ⟨lsn, found, rfl⟩ := taken
    exact ⟨lsn, found, rfl⟩

theorem saved_last {front back : List Action} {checkpoint : Checkpoint}
    (actions : turn.actions (receive config decoder) = front ++ .saved checkpoint :: back) :
    back = [] := by
  rcases List.eq_nil_or_concat back with empty | ⟨others, last, rfl⟩
  · exact empty
  · -- all actions but the last are openings and deliveries
    have early : ∃ rest, opening decoder turn ++ (delivery decoder turn).toList.map (fun delivered =>
        Action.delivered delivered.1 (topicOf config delivered.2) delivered.2) =
          front ++ .saved checkpoint :: rest := by
      rw [turn_actions, closing] at actions
      cases saving : savedLsn config decoder turn with
      | none =>
          rw [saving] at actions
          simp only [Option.toList_none, List.map_nil, List.append_nil] at actions
          exact ⟨_, actions⟩
      | some lsn =>
          have shape : front ++ .saved checkpoint :: others.concat last =
              (front ++ .saved checkpoint :: others) ++ [last] := by simp
          rw [saving, shape, ← List.append_assoc] at actions
          exact ⟨others, (List.append_inj' actions rfl).1⟩
    obtain ⟨rest, early⟩ := early
    have member : .saved checkpoint ∈ front ++ .saved checkpoint :: rest := by simp
    rw [← early] at member
    simp [opening] at member

end Membership

def someChange : ChangeEvent :=
  { schema := "public", table := "users", op := .delete, tsMs := 0, before := none, after := none
    source := SourceMetadata.new "db" "public" "users" "0/0" 0 }

def everyMessageAChange : Decoder Unit :=
  { new := fun _ => (), decode := fun _ _ _ => (.ok (some (.change someChange)), ()) }

def Outcomes.succeed (checkpointDue : Bool) : Outcomes :=
  { clock := ⟨0, 0⟩, standbyStatus := .ok (), ensureTopicExists := .ok (), sendChangeEvent := .ok ()
    checkpointDue, now := 0, save := .ok () }

def messageAt (walEnd : UInt64) (outcomes : Outcomes) : Input :=
  .socket (.returned { data := [], walStart := 0, walEnd }) outcomes

def emptyLoop : LoopState Unit := { decoder := (), currentLsn := none, totalMessageCount := 0 }

def sampleConfig : Config := { database := "db", topicPrefix := "cdc" }

end PgCapture
