import PgCapture.Postgres.Commands
import Mathlib.Data.List.TakeWhile
import PgCapture.Replicator.Backoff

namespace PgCapture

open Data Postgres

/-! # Against a server that keeps to the protocol

The server completes every command, with CommandComplete or an error, before it
is ready for the next one.  `identify_system` stops at the first of the two, so
each later call reads what an earlier one left.
-/

/-- What the server sends in answer to the two queries of the set-up, and to
    START_REPLICATION and after.  Authentication has read up to ReadyForQuery. -/
structure Server where
  identify : Answered
  slot : Answered
  start : List Message

structure Server.Conforming (server : Server) : Prop where
  completes : ∃ message ∈ server.identify.body, ends message
  noCopy : ∀ message ∈ server.identify.body ++ server.slot.body, message ≠ .copyOutResponse

variable (debugText : String → String)

/-- The attempt with what its calls make of the server's answers.  A call whose
    write or read fails returns that failure. -/
def Attempt.answered (met : Attempt) (identified created started : Except Error Unit) : Attempt :=
  { met with
    identifySystem := met.identifySystem.bind fun _ => identified
    createReplicationSlot := met.createReplicationSlot.bind fun _ => created
    startReplication := met.startReplication.bind fun _ => started }

/-- The calls read one socket; `none` if one waits forever.  Nothing looks at
    what a call returns behind one that failed. -/
def Server.attempt (server : Server) (met : Attempt) : Option Attempt := do
  let (identified, queue) ← identifySystem debugText server.identify.messages
  let (created, queue) ← createReplicationSlot (queue ++ server.slot.messages)
  let (started, _) ← startReplication debugText (queue ++ server.start)
  pure (met.answered (identified.map fun _ => ()) created started)

/-- What the two queries leave in the socket. -/
def Server.left (server : Server) : Option (List Message) := do
  let (_, queue) ← identifySystem debugText server.identify.messages
  let (_, queue) ← createReplicationSlot (queue ++ server.slot.messages)
  pure queue

/-- START_REPLICATION takes a message of an earlier answer for its own, and fails. -/
def Server.Misread (server : Server) : Prop :=
  ∃ message later reason, server.left debugText = some (message :: later) ∧
    message ∈ server.identify.messages ++ server.slot.messages ∧
    startReplication debugText (message :: later ++ server.start) =
      some (.error reason, later ++ server.start)

/-- What a call leaves of the messages it can read. -/
def afterEnd (queue : List Message) : List Message :=
  (queue.dropWhile fun message => !ends message).tail

theorem afterEnd_append {front : List Message} (ended : ∃ message ∈ front, ends message)
    (more : List Message) : afterEnd (front ++ more) = afterEnd front ++ more := by
  obtain ⟨message, member, ending⟩ := ended
  have kept : (front.dropWhile fun message => !ends message) ≠ [] := by
    intro none
    have passed := List.dropWhile_eq_nil_iff.mp none message member
    rw [ending] at passed
    contradiction
  have whole : (front ++ more).dropWhile (fun message => !ends message) =
      front.dropWhile (fun message => !ends message) ++ more := by
    rw [List.dropWhile_append, if_neg]
    simpa [List.isEmpty_iff] using kept
  rw [afterEnd, afterEnd, whole, List.tail_append_of_ne_nil kept]

theorem afterEnd_subset (queue : List Message) : afterEnd queue ⊆ queue := by
  intro message member
  exact (List.dropWhile_sublist _).subset (List.tail_subset _ member)

/-- No stage reports a shutdown; the receive loop alone makes that error. -/
structure Attempt.Unstopped (attempt : Attempt) : Prop where
  connect : attempt.connect ≠ .error .shutdown
  identifySystem : attempt.identifySystem ≠ .error .shutdown
  createReplicationSlot : attempt.createReplicationSlot ≠ .error .shutdown
  kafkaProducer : attempt.kafkaProducer ≠ .error .shutdown
  topicManager : attempt.topicManager ≠ .error .shutdown
  load : attempt.load ≠ .error .shutdown
  startReplication : attempt.startReplication ≠ .error .shutdown

section Reads

variable {debugText} {queue : List Message}

theorem call_returns {result : Option (ρ × List Message)} (ended : ∃ message ∈ queue, ends message)
    (left : result.map Prod.snd = (queue.dropWhile fun message => !ends message).tail?) :
    ∃ returned, result = some (returned, afterEnd queue) := by
  obtain ⟨message, member, ending⟩ := ended
  cases kept : queue.dropWhile fun message => !ends message with
  | nil =>
      have passed := List.dropWhile_eq_nil_iff.mp kept message member
      rw [ending] at passed
      contradiction
  | cons first rest =>
      rw [kept, List.tail?_cons] at left
      obtain ⟨⟨returned, after⟩, isResult, isRest⟩ := Option.map_eq_some_iff.mp left
      refine ⟨returned, ?_⟩
      rw [isResult, afterEnd, kept]
      exact congrArg (fun rest => some (returned, rest)) isRest

theorem readLoop_result {exit : σ → Message → Option ρ} {seen : σ → Message → σ} {state : σ}
    {result : ρ} {rest : List Message} (read : readLoop exit seen state queue = some (result, rest)) :
    ∃ reached message, exit reached message = some result := by
  induction queue generalizing state with
  | nil => contradiction
  | cons message queue ih =>
      rw [readLoop] at read
      cases exits : exit state message with
      | some returned =>
          rw [exits] at read
          cases read
          exact ⟨state, message, exits⟩
      | none =>
          rw [exits] at read
          exact ih read

theorem identifySystem_returns (debugText : String → String)
    (ended : ∃ message ∈ queue, ends message) :
    ∃ result, identifySystem debugText queue = some (result, afterEnd queue) ∧
      result ≠ .error .shutdown := by
  obtain ⟨result, read⟩ : ∃ result, identifySystem debugText queue = some (result, afterEnd queue) :=
    call_returns ended (readLoop_rest (identifySystemExit_isSome debugText) false queue)
  refine ⟨result, read, ?_⟩
  rintro rfl
  obtain ⟨rows, message, exits⟩ := readLoop_result read
  cases message <;> cases rows <;> simp [identifySystemExit] at exits

theorem createReplicationSlot_returns (ended : ∃ message ∈ queue, ends message) :
    ∃ result, createReplicationSlot queue = some (result, afterEnd queue) ∧
      result ≠ .error .shutdown := by
  obtain ⟨result, read⟩ : ∃ result, createReplicationSlot queue = some (result, afterEnd queue) :=
    call_returns ended (readLoop_rest (fun _ => createReplicationSlotExit_isSome) () queue)
  refine ⟨result, read, ?_⟩
  rintro rfl
  obtain ⟨_, message, exits⟩ := readLoop_result read
  cases message with
  | errorResponse fields =>
      simp only [createReplicationSlotExit] at exits
      split at exits <;> cases exits
  | _ => cases exits

theorem startReplicationExit_error (debugText : String → String) {message : Message} (noCopy : message ≠ .copyOutResponse) :
    ∃ reason, startReplicationExit debugText message = .error reason ∧ reason ≠ .shutdown := by
  cases message with
  | copyOutResponse => contradiction
  | errorResponse fields => exact ⟨_, rfl, Error.noConfusion⟩
  | _ => exact ⟨_, rfl, Error.noConfusion⟩

theorem bind_unstopped {first second : Except Error Unit} (left : first ≠ .error .shutdown)
    (right : second ≠ .error .shutdown) : (first.bind fun _ => second) ≠ .error .shutdown := by
  cases first with
  | error reason => exact left
  | ok _ => exact right

theorem Attempt.Unstopped.answered {met : Attempt} (unstopped : met.Unstopped)
    {identified created started : Except Error Unit} (identify : identified ≠ .error .shutdown)
    (create : created ≠ .error .shutdown) (start : started ≠ .error .shutdown) :
    (met.answered identified created started).Unstopped where
  connect := unstopped.connect
  identifySystem := bind_unstopped unstopped.identifySystem identify
  createReplicationSlot := bind_unstopped unstopped.createReplicationSlot create
  kafkaProducer := unstopped.kafkaProducer
  topicManager := unstopped.topicManager
  load := unstopped.load
  startReplication := bind_unstopped unstopped.startReplication start

theorem Attempt.answered_fails (met : Attempt) (identified created : Except Error Unit)
    (reason : Error) : ¬ (met.answered identified created (.error reason)).Succeeds := by
  intro succeeds
  have started : (met.startReplication.bind fun _ => .error reason) = .ok () :=
    succeeds.startReplication
  cases outer : met.startReplication with
  | error other =>
      rw [outer] at started
      contradiction
  | ok _ =>
      rw [outer] at started
      contradiction

theorem Server.first_left {server : Server} (conforming : server.Conforming) :
    ∃ message later, afterEnd (afterEnd server.identify.messages ++ server.slot.messages) =
        message :: later ∧
      message ∈ server.identify.messages ++ server.slot.messages ∧ message ≠ .copyOutResponse := by
  have ready : ∃ message ∈ afterEnd server.identify.messages, ends message := by
    refine ⟨.readyForQuery, ?_, rfl⟩
    rw [Answered.messages, afterEnd_append conforming.completes]
    exact List.mem_append_right _ List.mem_cons_self
  rw [afterEnd_append ready]
  cases left : afterEnd (afterEnd server.identify.messages) ++ server.slot.messages with
  | nil => simp [Answered.messages] at left
  | cons message later =>
      have member : message ∈ server.identify.messages ++ server.slot.messages := by
        have inLeft : message ∈ afterEnd (afterEnd server.identify.messages) ++ server.slot.messages := by
          rw [left]
          exact List.mem_cons_self
        rcases List.mem_append.mp inLeft with unread | own
        · exact List.mem_append_left _ (afterEnd_subset _ (afterEnd_subset _ unread))
        · exact List.mem_append_right _ own
      refine ⟨message, later, rfl, member, ?_⟩
      simp only [Answered.messages, List.mem_append, List.mem_singleton] at member
      rcases member with (own | rfl) | (own | rfl)
      · exact conforming.noCopy message (List.mem_append_left _ own)
      · exact Message.noConfusion
      · exact conforming.noCopy message (List.mem_append_right _ own)
      · exact Message.noConfusion

/-- Every call returns, and START_REPLICATION fails on what an earlier answer left. -/
theorem Server.attempt_fails (debugText : String → String) {server : Server}
    (conforming : server.Conforming) {met : Attempt} (unstopped : met.Unstopped) :
    ∃ attempt, server.attempt debugText met = some attempt ∧ attempt.Unstopped ∧
      ¬ attempt.Succeeds ∧ server.Misread debugText := by
  have completes : ∃ message ∈ server.identify.messages, ends message := by
    obtain ⟨message, member, ending⟩ := conforming.completes
    exact ⟨message, List.mem_append_left _ member, ending⟩
  obtain ⟨identified, identify, identifiedOther⟩ := identifySystem_returns debugText completes
  have slotEnds : ∃ message ∈ afterEnd server.identify.messages ++ server.slot.messages, ends message :=
    ⟨.readyForQuery, by simp [Answered.messages], rfl⟩
  obtain ⟨created, create, createdOther⟩ := createReplicationSlot_returns slotEnds
  obtain ⟨message, later, left, earlier, noCopy⟩ := Server.first_left conforming
  obtain ⟨reason, failed, other⟩ := startReplicationExit_error debugText noCopy
  have identifiedUnit : (identified.map fun _ => ()) ≠ .error .shutdown := by
    cases identified with
    | error other => exact fun same => identifiedOther (congrArg _ (Except.error.inj same))
    | ok _ =>
        intro same
        contradiction
  have startedOther : (.error reason : Except Error Unit) ≠ .error .shutdown :=
    fun same => other (Except.error.inj same)
  refine ⟨met.answered (identified.map fun _ => ()) created (.error reason), ?_,
    unstopped.answered identifiedUnit createdOther startedOther, met.answered_fails _ created reason,
    message, later, reason, ?_, earlier, ?_⟩
  · simp only [Server.attempt, identify, create, left, startReplication, List.cons_append,
      Option.bind_eq_bind, Option.bind_some, Option.pure_def, failed]
  · simp only [Server.left, identify, create, left, Option.bind_eq_bind, Option.bind_some, Option.pure_def]
  · rw [List.cons_append, startReplication, failed]

end Reads

namespace Replicator

theorem slotReady_error {result : Except Error Unit} {reason : Error}
    (failed : slotReady result = .error reason) : result = .error reason := by
  cases result with
  | ok _ => contradiction
  | error other =>
      rw [slotReady] at failed
      split at failed
      · contradiction
      · exact failed

variable {decoder : Decoder D}

theorem runWithRetry_retried (self : Replicator D) {attempt : Attempt} (fails : ¬ attempt.Succeeds)
    (unstopped : attempt.Unstopped) : (runWithRetry decoder self attempt).Retried := by
  simp only [runWithRetry, initializeConnections]
  cases connect : attempt.connect with
  | error reason => exact ⟨reason, rfl, fun same => unstopped.connect (same ▸ connect)⟩
  | ok _ =>
  cases identifySystem : attempt.identifySystem with
  | error reason => exact ⟨reason, rfl, fun same => unstopped.identifySystem (same ▸ identifySystem)⟩
  | ok _ =>
  cases slot : slotReady attempt.createReplicationSlot with
  | error reason =>
      exact ⟨reason, rfl, fun same => unstopped.createReplicationSlot (same ▸ slotReady_error slot)⟩
  | ok _ =>
  cases kafkaProducer : attempt.kafkaProducer with
  | error reason => exact ⟨reason, rfl, fun same => unstopped.kafkaProducer (same ▸ kafkaProducer)⟩
  | ok _ =>
  cases topicManager : attempt.topicManager with
  | error reason => exact ⟨reason, rfl, fun same => unstopped.topicManager (same ▸ topicManager)⟩
  | ok _ =>
  cases load : attempt.load with
  | error reason =>
      simp only [replicationLoop, load]
      exact ⟨reason, rfl, fun same => unstopped.load (same ▸ load)⟩
  | ok checkpoint =>
  cases started : attempt.startReplication with
  | error reason =>
      simp only [replicationLoop, load, started]
      exact ⟨reason, rfl, fun same => unstopped.startReplication (same ▸ started)⟩
  | ok _ =>
      exact absurd ⟨connect, identifySystem, slot, kafkaProducer, topicManager, ⟨_, load⟩, started⟩ fails

theorem runWithRetry_fails (self : Replicator D) {attempt : Attempt} (fails : ¬ attempt.Succeeds)
    (unstopped : attempt.Unstopped) :
    (runWithRetry decoder self attempt).Retried ∧ ¬ (runWithRetry decoder self attempt).Entered := by
  refine ⟨runWithRetry_retried self fails unstopped, ?_⟩
  rw [runWithRetry_entered]
  exact fun entered => fails entered.1

theorem runLoop_of_fails (retries : Nat) (self : Replicator D) {attempts : Nat → Attempt}
    (fails : ∀ index, ¬ (attempts index).Succeeds) (unstopped : ∀ index, (attempts index).Unstopped) :
    (runLoop decoder retries self attempts).attempts.length = retries + 1 ∧
      ∀ made ∈ (runLoop decoder retries self attempts).attempts, made.Retried ∧ ¬ made.Entered := by
  induction retries generalizing self attempts with
  | zero =>
      rw [runLoop_last (Or.inl rfl)]
      refine ⟨rfl, ?_⟩
      intro made member
      rw [List.mem_singleton.mp member]
      exact runWithRetry_fails self (fails 0) (unstopped 0)
  | succ retries ih =>
      have first : _ ∧ ¬ (runWithRetry decoder self (attempts 0)).Entered :=
        runWithRetry_fails self (fails 0) (unstopped 0)
      obtain ⟨length, others⟩ := ih (reset (runWithRetry decoder self (attempts 0)).replicator)
        (fun index => fails (index + 1)) (fun index => unstopped (index + 1))
      rw [runLoop_retried first.1]
      refine ⟨congrArg (· + 1) length, ?_⟩
      intro made member
      rcases List.mem_cons.mp member with rfl | later
      · exact first
      · exact others made later

end Replicator

/-- Whatever the outside does besides, START_REPLICATION fails on what an earlier
    answer left, no attempt gets a stream from a server that keeps to the
    protocol, and `run` gives up after six of them. -/
theorem never_streams (decoder : Decoder D) (self : Replicator D) (servers : Nat → Server)
    (met : Nat → Attempt) (conforming : ∀ index, (servers index).Conforming)
    (unstopped : ∀ index, (met index).Unstopped) :
    ∃ attempts : Nat → Attempt,
      (∀ index, (servers index).attempt debugText (met index) = some (attempts index)) ∧
      (∀ index, (servers index).Misread debugText) ∧
      (Replicator.runTimed decoder self attempts).attempts.length = 6 ∧
      (∀ made ∈ (Replicator.runTimed decoder self attempts).attempts, ¬ made.Entered) ∧
      (Replicator.runTimed decoder self attempts).sleeps = [1, 2, 4, 8, 8] ∧
      ∃ reason, (Replicator.runTimed decoder self attempts).returned = some (.error reason) := by
  choose attempts served still fails misread using fun index =>
    Server.attempt_fails debugText (conforming index) (unstopped index)
  obtain ⟨length, made⟩ : (Replicator.runTimed decoder self attempts).attempts.length = 6 ∧
      ∀ made ∈ (Replicator.runTimed decoder self attempts).attempts, made.Retried ∧ ¬ made.Entered :=
    Replicator.runLoop_of_fails _ _ fails still
  obtain ⟨last, isLast, returned, _⟩ : ∃ last ∈ (Replicator.runTimed decoder self attempts).attempts.getLast?,
      (Replicator.runTimed decoder self attempts).returned = Replicator.returnOf last ∧ _ :=
    Replicator.runLoop_returned _ _ attempts
  refine ⟨attempts, served, misread, length, fun result member => (made result member).2, ?_, ?_⟩
  · have sleeps : (Replicator.runTimed decoder self attempts).sleeps = _ :=
      Replicator.runLoop_sleeps _ _ attempts
    rw [sleeps]
    exact congrArg (fun count => List.take (count - 1) [1, 2, 4, 8, 8]) length
  · rw [returned]
    exact (Replicator.retried_iff last).mp (made last (List.mem_of_getLast? isLast)).1

theorem row_notReady : .readyForQuery ∉ [Message.rowDescription, .dataRow, .commandComplete] := by
  decide

def rowAnswer : Answered :=
  { body := [.rowDescription, .dataRow, .commandComplete], ready := row_notReady }

theorem resume_unstopped : (Attempt.resume none []).Unstopped :=
  ⟨nofun, nofun, nofun, nofun, nofun, nofun, nofun⟩

theorem rowAnswer_conforming : (Server.mk rowAnswer rowAnswer [.copyOutResponse]).Conforming where
  completes := ⟨.commandComplete, by decide, rfl⟩
  noCopy := by decide

theorem never_streams_rows : ∃ attempts : Nat → Attempt,
    (∀ index : Nat, (Server.mk rowAnswer rowAnswer [.copyOutResponse]).attempt id (.resume none []) =
      some (attempts index)) ∧
    (Nat → (Server.mk rowAnswer rowAnswer [.copyOutResponse]).Misread id) ∧
    (Replicator.runTimed everyMessageAChange (.new sampleConfig) attempts).attempts.length = 6 ∧
    (∀ made ∈ (Replicator.runTimed everyMessageAChange (.new sampleConfig) attempts).attempts,
      ¬ made.Entered) ∧
    (Replicator.runTimed everyMessageAChange (.new sampleConfig) attempts).sleeps = [1, 2, 4, 8, 8] ∧
    ∃ reason, (Replicator.runTimed everyMessageAChange (.new sampleConfig) attempts).returned =
      some (.error reason) :=
  never_streams id everyMessageAChange (.new sampleConfig)
    (fun _ => ⟨rowAnswer, rowAnswer, [.copyOutResponse]⟩) (fun _ => .resume none [])
    (fun _ => rowAnswer_conforming) fun _ => resume_unstopped

end PgCapture
