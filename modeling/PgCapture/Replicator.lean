import PgCapture.Data.Machine
import PgCapture.Postgres.Commands
import PgCapture.Postgres.Lsn

namespace PgCapture

open Data Postgres

/-! # The replicator

The receive loop is a machine: its inputs are what the socket, the clock, Kafka
and the disk do, its actions are what PostgreSQL, Kafka and the checkpoint file
get to see.  Around it, an attempt connects, loads the checkpoint and starts
replication, and `run` repeats failed attempts.
-/

structure Checkpoint where
  lsn : String
  timestamp : Int
  messageCount : UInt64
deriving DecidableEq, Repr

def Checkpoint.new (lsn : String) (messageCount : UInt64) (now : Int) : Checkpoint :=
  { lsn, timestamp := now, messageCount }

structure Config where
  database : String
  topicPrefix : String
deriving DecidableEq, Repr

def Config.topicName (config : Config) (schema table : String) : String :=
  config.topicPrefix ++ "." ++ schema ++ "." ++ table

structure Decoder (D : Type) where
  new : String → D
  decode : D → Clock → Bytes → Answer × D

def pgOutput (crates : Crates) : Decoder PgOutputDecoder :=
  { new := PgOutputDecoder.new, decode := PgOutputDecoder.decode crates }

/-- What the outside answers while one message is handled. -/
structure Outcomes where
  clock : Clock
  standbyStatus : Except Error Unit
  ensureTopicExists : Except Error Unit
  sendChangeEvent : Except Error Unit
  checkpointDue : Bool
  now : Int
  save : Except Error Unit

inductive Input where
  | shutdown (now : Int) (save : Except Error Unit)
  | timeout
  | socket (received : Received) (outcomes : Outcomes)

/-- What the outside gets to see.  Receipts and deliveries name the message they
    belong to. -/
inductive Action where
  | received (message : ReplicationMessage) (answer : Answer)
  | standbyStatus (lsn : UInt64)
  | delivered (message : ReplicationMessage) (topic : String) (event : ChangeEvent)
  | saved (checkpoint : Checkpoint)

inductive Exit where
  | returned (reason : Error)
  | panicked
deriving DecidableEq, Repr

structure LoopState (D : Type) where
  decoder : D
  currentLsn : Option UInt64
  totalMessageCount : UInt64

/-- Errors of `process_message` that the loop goes on after. -/
def recoverable : Error → Bool
  | .kafka _ => true
  | .serialization _ => true
  | _ => false

def processMessage (config : Config) (outcomes : Outcomes) (message : ReplicationMessage) :
    DecodedMessage → Except Error (List Action)
  | .begin _ => .ok []
  | .commit => .ok []
  | .change event => do
      outcomes.ensureTopicExists
      outcomes.sendChangeEvent
      .ok [.delivered message (config.topicName event.schema event.table) event]

/-- The deliveries of one message, whether it counts, and the exit it causes. -/
structure Handled where
  deliveries : List Action
  counted : Bool
  exit : Option Exit

def handleAnswer (config : Config) (outcomes : Outcomes) (message : ReplicationMessage) :
    Answer → Handled
  | .ok (some decoded) =>
      match processMessage config outcomes message decoded with
      | .ok deliveries => { deliveries, counted := true, exit := none }
      | .error reason =>
          if recoverable reason then { deliveries := [], counted := true, exit := none }
          else { deliveries := [], counted := false, exit := some (.returned reason) }
  | .ok none => { deliveries := [], counted := false, exit := none }
  | .err _ => { deliveries := [], counted := false, exit := none }
  | .panic => { deliveries := [], counted := false, exit := some .panicked }

def saveCheckpoint (state : LoopState D) (now : Int) : Except Error Unit → List Action
  | .ok () =>
      match state.currentLsn with
      | some lsn =>
          [.saved { lsn := formatLsn lsn, timestamp := now, messageCount := state.totalMessageCount }]
      | none => []
  | .error _ => []

def sendStandbyStatusUpdate (lsn : UInt64) : Except Error Unit → List Action
  | .ok () => [.standbyStatus lsn]
  | .error _ => []

section Loop

variable (config : Config) (decoder : Decoder D)

/-- The state after a message: the decoder has moved on, the position is the
    message's whether or not the message was delivered. -/
def afterMessage (state : LoopState D) (message : ReplicationMessage) (outcomes : Outcomes) :
    LoopState D :=
  let answered := decoder.decode state.decoder outcomes.clock message.data
  let handled := handleAnswer config outcomes message answered.1
  { decoder := answered.2
    currentLsn := some message.walEnd
    totalMessageCount :=
      if handled.counted then state.totalMessageCount + 1 else state.totalMessageCount }

def handleMessage (state : LoopState D) (message : ReplicationMessage) (outcomes : Outcomes) :
    Reaction (LoopState D) Action Exit :=
  let answer := (decoder.decode state.decoder outcomes.clock message.data).1
  let handled := handleAnswer config outcomes message answer
  let next := afterMessage config decoder state message outcomes
  let checkpoint :=
    if handled.exit.isNone && outcomes.checkpointDue then
      saveCheckpoint next outcomes.now outcomes.save
    else []
  -- the status update goes out before the message is decoded
  { actions := .received message answer ::
      (sendStandbyStatusUpdate message.walEnd outcomes.standbyStatus ++ handled.deliveries ++ checkpoint)
    state := next
    exit := handled.exit }

def receive (state : LoopState D) : Input → Reaction (LoopState D) Action Exit
  | .shutdown now save =>
      { actions := saveCheckpoint state now save, state, exit := some (.returned .shutdown) }
  | .timeout => { actions := [], state, exit := none }
  | .socket .ignored _ => { actions := [], state, exit := none }
  | .socket (.replied walEnd) _ => { actions := [.standbyStatus walEnd], state, exit := none }
  | .socket (.returned message) outcomes => handleMessage config decoder state message outcomes
  | .socket (.failed reason) _ => { actions := [], state, exit := some (.returned reason) }
  | .socket .panicked _ => { actions := [], state, exit := some .panicked }

def turns (state : LoopState D) (inputs : List Input) : List (Executed (LoopState D) Input) :=
  executedFrom (receive config decoder) 0 state inputs

def trace (state : LoopState D) (inputs : List Input) : List (Nat × Action) :=
  traceOf (receive config decoder) (turns config decoder state inputs)

end Loop

/-- The handles an attempt sets are there or not. -/
structure Replicator (D : Type) where
  config : Config
  postgresConn : Bool
  kafkaProducer : Bool
  topicManager : Bool
  shutdownReceiver : Bool
  decoder : Option D
  currentLsn : Option UInt64
  totalMessageCount : UInt64

def Replicator.new (config : Config) : Replicator D :=
  { config, postgresConn := false, kafkaProducer := false, topicManager := false
    shutdownReceiver := false, decoder := none, currentLsn := none, totalMessageCount := 0 }

structure Attempt where
  connect : Except Error Unit
  identifySystem : Except Error Unit
  createReplicationSlot : Except Error Unit
  kafkaProducer : Except Error Unit
  topicManager : Except Error Unit
  load : Except Error (Option Checkpoint)
  startReplication : Except Error Unit
  inputs : List Input

/-- An attempt that finds `file` and gets into the receive loop. -/
def Attempt.resume (file : Option Checkpoint) (inputs : List Input) : Attempt :=
  { connect := .ok (), identifySystem := .ok (), createReplicationSlot := .ok ()
    kafkaProducer := .ok (), topicManager := .ok (), load := .ok file, startReplication := .ok ()
    inputs }

/-- How far an attempt got: the position it asked the server for, the turns of
    its receive loop, and its exit; an attempt without an exit is still going. -/
structure AttemptResult (D : Type) where
  replicator : Replicator D
  requested : Option String
  turns : Option (List (Executed (LoopState D) Input))
  exit : Option Exit

def AttemptResult.failed (replicator : Replicator D) (requested : Option String) (reason : Error) :
    AttemptResult D :=
  { replicator, requested, turns := none, exit := some (.returned reason) }

namespace Replicator

variable (decoder : Decoder D)

def slotReady : Except Error Unit → Except Error Unit
  | .ok () => .ok ()
  | .error reason => if contains reason.toString "already exists" then .ok () else .error reason

def initializeConnections (self : Replicator D) (attempt : Attempt) :
    Except Error Unit × Replicator D :=
  match attempt.connect, attempt.identifySystem, slotReady attempt.createReplicationSlot with
  | .error reason, _, _ => (.error reason, self)
  | .ok (), .error reason, _ => (.error reason, self)
  | .ok (), .ok (), .error reason => (.error reason, self)
  | .ok (), .ok (), .ok () =>
      let self := { self with postgresConn := true }
      match attempt.kafkaProducer, attempt.topicManager with
      | .error reason, _ => (.error reason, self)
      | .ok (), .error reason => (.error reason, { self with kafkaProducer := true })
      | .ok (), .ok () =>
          (.ok (), { self with
            kafkaProducer := true
            topicManager := true
            decoder := some (decoder.new self.config.database) })

/-- START_REPLICATION names the checkpoint's position, or `0/0` without one. -/
def startLsn (checkpoint : Option Checkpoint) : String :=
  match checkpoint with
  | some checkpoint => checkpoint.lsn
  | none => "0/0"

def replicationLoop (self : Replicator D) (attempt : Attempt) : AttemptResult D :=
  match self.postgresConn, self.kafkaProducer, self.topicManager, self.decoder with
  | false, _, _, _ => .failed self none (.connection "PostgreSQL connection not initialized")
  | true, false, _, _ => .failed self none (.connection "Kafka producer not initialized")
  | true, true, false, _ => .failed self none (.connection "Topic manager not initialized")
  | true, true, true, none => .failed self none (.connection "Decoder not initialized")
  | true, true, true, some state =>
      match attempt.load with
      | .error reason => .failed self none reason
      | .ok checkpoint =>
          let self := match checkpoint with
            | some checkpoint => { self with totalMessageCount := checkpoint.messageCount }
            | none => self
          match attempt.startReplication with
          | .error reason => .failed self (some (startLsn checkpoint)) reason
          | .ok () =>
              if self.shutdownReceiver then
                let start : LoopState D :=
                  { decoder := state, currentLsn := self.currentLsn
                    totalMessageCount := self.totalMessageCount }
                let stop := outcome (receive self.config decoder) start attempt.inputs
                { replicator := { self with
                    shutdownReceiver := false
                    decoder := some stop.1.decoder
                    currentLsn := stop.1.currentLsn
                    totalMessageCount := stop.1.totalMessageCount }
                  requested := some (startLsn checkpoint)
                  turns := some (PgCapture.turns self.config decoder start attempt.inputs)
                  exit := stop.2 }
              else
                .failed self (some (startLsn checkpoint))
                  (.connection "Shutdown receiver not initialized")

def runWithRetry (self : Replicator D) (attempt : Attempt) : AttemptResult D :=
  match initializeConnections decoder self attempt with
  | (.error reason, self) => .failed self none reason
  | (.ok (), self) => replicationLoop decoder self attempt

def reset (self : Replicator D) : Replicator D :=
  { self with postgresConn := false, kafkaProducer := false, topicManager := false, decoder := none }

def maxRetries : Nat := 5

/-- The attempts `run` makes, with `retries` of them left after the first one. -/
def runFrom : Nat → Replicator D → (Nat → Attempt) → List (AttemptResult D)
  | 0, self, attempts => [runWithRetry decoder self (attempts 0)]
  | retries + 1, self, attempts =>
      let result := runWithRetry decoder self (attempts 0)
      match result.exit with
      | some (.returned reason) =>
          if reason = .shutdown then [result]
          else result :: runFrom retries (reset result.replicator) fun index => attempts (index + 1)
      | _ => [result]

theorem runFrom_head (retries : Nat) (self : Replicator D) (attempts : Nat → Attempt) :
    (runFrom decoder retries self attempts).head? = some (runWithRetry decoder self (attempts 0)) := by
  cases retries with
  | zero => rfl
  | succ retries =>
      simp only [runFrom]
      split
      · split <;> rfl
      · rfl

/-- `attempts` is what the outside answers to the first, the second, … attempt. -/
def run (self : Replicator D) (attempts : Nat → Attempt) : List (AttemptResult D) :=
  runFrom decoder maxRetries { self with shutdownReceiver := true } attempts

end Replicator

end PgCapture
