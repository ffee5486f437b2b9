import PgCapture.Postgres.Connection

namespace PgCapture.Postgres

open PgCapture.Data

/-! # Replication commands

Each command writes one query and reads messages from the socket until one of
its exits.  Messages it leaves behind stay in front of everything the server
sends next.
-/

structure SystemInfo where
  systemId : String
  timeline : Int
  xlogpos : String
  dbname : Option String
deriving DecidableEq, Repr

def contains (text pattern : String) : Bool := decide (pattern.toList <:+: text.toList)

/-- What a message makes the command return; `none` reads on. -/
def createReplicationSlotExit : Message → Option (Except Error Unit)
  | .commandComplete => some (.ok ())
  | .readyForQuery => some (.ok ())
  | .errorResponse fields =>
      if contains (errorMessage fields) "already exists" then some (.ok ())
      else some (.error (.replication ("Failed to create replication slot: " ++ errorMessage fields)))
  | _ => none

def dropReplicationSlotExit : Message → Option (Except Error Unit)
  | .commandComplete => some (.ok ())
  | .readyForQuery => some (.ok ())
  | .errorResponse fields =>
      if contains (errorMessage fields) "does not exist" then some (.ok ())
      else some (.error (.replication ("Failed to drop replication slot: " ++ errorMessage fields)))
  | _ => none

variable (debugText : String → String)

/-- `rows` says whether a data row was seen. -/
def identifySystemExit (rows : Bool) : Message → Option (Except Error SystemInfo)
  | .commandComplete | .readyForQuery =>
      if rows then
        some (.ok { systemId := "unknown", timeline := 1, xlogpos := "0/0", dbname := none })
      else some (.error (.replication "Failed to get system info"))
  | .errorResponse fields =>
      some (.error (.replication ("IDENTIFY_SYSTEM error: " ++ debugFields debugText fields)))
  | _ => none

def startReplicationExit : Message → Except Error Unit
  | .copyOutResponse => .ok ()
  | .errorResponse fields =>
      .error (.replication ("Failed to start replication: " ++ debugFields debugText fields))
  | _ => .error (.replication "Unexpected response to START_REPLICATION")

section ReadLoop

variable (exit : σ → Message → Option ρ) (seen : σ → Message → σ)

/-- A loop returns its result and the messages it left; on an exhausted queue it
    waits, and the result is `none`. -/
def readLoop (state : σ) : List Message → Option (ρ × List Message)
  | [] => none
  | message :: rest =>
      match exit state message with
      | some result => some (result, rest)
      | none => readLoop (seen state message) rest

end ReadLoop

def createReplicationSlot (queue : List Message) : Option (Except Error Unit × List Message) :=
  readLoop (fun _ => createReplicationSlotExit) (fun state _ => state) () queue

def dropReplicationSlot (queue : List Message) : Option (Except Error Unit × List Message) :=
  readLoop (fun _ => dropReplicationSlotExit) (fun state _ => state) () queue

def identifySystem (queue : List Message) : Option (Except Error SystemInfo × List Message) :=
  readLoop (identifySystemExit debugText) (fun rows message => rows || message = .dataRow) false queue

def startReplicationQuery (slotName publicationName : String) (startLsn : Option String) : String :=
  let lsn := startLsn.getD "0/0"
  let options := "proto_version '1', publication_names '" ++ publicationName ++ "'"
  "START_REPLICATION SLOT " ++ slotName ++ " LOGICAL " ++ lsn ++ " (" ++ options ++ ")"

theorem startReplicationQuery_some (slotName publicationName text : String) :
    startReplicationQuery slotName publicationName (some text) =
      "START_REPLICATION SLOT " ++ slotName ++ " LOGICAL " ++ text ++ " (" ++
        ("proto_version '1', publication_names '" ++ publicationName ++ "'") ++ ")" := rfl

/-- START_REPLICATION reads one message only. -/
def startReplication : List Message → Option (Except Error Unit × List Message)
  | [] => none
  | message :: rest => some (startReplicationExit debugText message, rest)

def ends : Message → Bool
  | .commandComplete | .readyForQuery | .errorResponse _ => true
  | _ => false

/-- A loop that returns at exactly these messages leaves what follows the first
    of them. -/
theorem readLoop_rest {exit : σ → Message → Option ρ} {seen : σ → Message → σ}
    (exits : ∀ state message, (exit state message).isSome = ends message)
    (state : σ) (queue : List Message) :
    (readLoop exit seen state queue).map Prod.snd =
      (queue.dropWhile fun message => !ends message).tail? := by
  induction queue generalizing state with
  | nil => rfl
  | cons message rest ih =>
      have exits := exits state message
      rw [readLoop]
      cases result : exit state message with
      | some result =>
          rw [result] at exits
          simp [← exits]
      | none =>
          rw [result] at exits
          simp only [Option.isSome_none] at exits
          simp [← exits, ih]

theorem createReplicationSlotExit_isSome (message : Message) :
    (createReplicationSlotExit message).isSome = ends message := by
  cases message with
  | errorResponse fields =>
      simp only [createReplicationSlotExit]
      split <;> rfl
  | _ => rfl

theorem dropReplicationSlotExit_isSome (message : Message) :
    (dropReplicationSlotExit message).isSome = ends message := by
  cases message with
  | errorResponse fields =>
      simp only [dropReplicationSlotExit]
      split <;> rfl
  | _ => rfl

theorem identifySystemExit_isSome (rows : Bool) (message : Message) :
    (identifySystemExit debugText rows message).isSome = ends message := by
  cases message with
  | commandComplete => cases rows <;> rfl
  | readyForQuery => cases rows <;> rfl
  | _ => rfl

inductive Command where
  | identifySystem
  | createReplicationSlot
  | dropReplicationSlot
deriving DecidableEq, Repr

def Command.call (queue : List Message) :
    Command → Option (Except Error (Option SystemInfo) × List Message)
  | .identifySystem => (PgCapture.Postgres.identifySystem debugText queue).map fun returned =>
      (returned.1.map some, returned.2)
  | .createReplicationSlot => (PgCapture.Postgres.createReplicationSlot queue).map fun returned =>
      (returned.1.map fun _ => none, returned.2)
  | .dropReplicationSlot => (PgCapture.Postgres.dropReplicationSlot queue).map fun returned =>
      (returned.1.map fun _ => none, returned.2)

theorem Command.call_rest (command : Command) (queue : List Message) :
    (command.call debugText queue).map Prod.snd =
      (queue.dropWhile fun message => !ends message).tail? := by
  cases command with
  | identifySystem =>
      simp only [Command.call, Option.map_map]
      exact readLoop_rest (identifySystemExit_isSome debugText) false queue
  | createReplicationSlot =>
      simp only [Command.call, Option.map_map]
      exact readLoop_rest (fun _ => createReplicationSlotExit_isSome) () queue
  | dropReplicationSlot =>
      simp only [Command.call, Option.map_map]
      exact readLoop_rest (fun _ => dropReplicationSlotExit_isSome) () queue

structure Answered where
  body : List Message
  ready : .readyForQuery ∉ body

def Answered.messages (answer : Answered) : List Message := answer.body ++ [.readyForQuery]

structure Exchange where
  command : Command
  answer : Answered

/-- One call of a session: the messages in the socket before its answer, what it
    returned, and the messages after it. -/
structure Turn where
  exchange : Exchange
  before : List Message
  result : Except Error (Option SystemInfo)
  after : List Message

/-- Make the calls one after the other, each with its answer queued behind what
    the earlier calls left.  The second component is what the last call left. -/
def session (pending : List Message) : List Exchange → List Turn × List Message
  | [] => ([], pending)
  | exchange :: later =>
      let queue := pending ++ exchange.answer.messages
      match exchange.command.call debugText queue with
      | none => ([], queue)
      | some (result, after) =>
          let rest := session after later
          ({ exchange, before := pending, result, after } :: rest.1, rest.2)

/-- The call found nothing but its own answer, left nothing of it, and returned
    what its own answer says. -/
structure Turn.Aligned (turn : Turn) : Prop where
  before : turn.before = []
  after : turn.after = []
  result : turn.exchange.command.call debugText turn.exchange.answer.messages = some (turn.result, [])

def Answered.Quiet (answer : Answered) : Prop := ∀ message ∈ answer.body, ends message = false

theorem dropWhile_messages {answer : Answered} (quiet : answer.Quiet) :
    (answer.messages.dropWhile fun message => !ends message) = [.readyForQuery] := by
  have skipped : ∀ message ∈ answer.body, (!ends message) = true := by
    intro message member
    rw [quiet message member]
    rfl
  rw [Answered.messages, List.dropWhile_append_of_pos skipped]
  rfl

theorem quiet_of_nothing_left {answer : Answered}
    (nothing : (answer.messages.dropWhile fun message => !ends message).tail? = some []) :
    answer.Quiet := by
  obtain ⟨body, ready⟩ := answer
  simp only [Answered.messages, Answered.Quiet] at nothing ⊢
  clear ready
  induction body with
  | nil => simp
  | cons message body ih =>
      cases ending : ends message with
      | true => simp [ending] at nothing
      | false =>
          simp only [List.cons_append, List.dropWhile_cons, ending, Bool.not_false, if_true] at nothing
          intro candidate member
          rcases List.mem_cons.mp member with rfl | later
          · exact ending
          · exact ih nothing candidate later

theorem call_of_quiet (command : Command) {answer : Answered} (quiet : answer.Quiet) :
    ∃ result, command.call debugText answer.messages = some (result, []) := by
  have rest := command.call_rest debugText answer.messages
  rw [dropWhile_messages quiet] at rest
  cases returned : command.call debugText answer.messages with
  | none =>
      rw [returned] at rest
      contradiction
  | some reply =>
      obtain ⟨result, after⟩ := reply
      rw [returned] at rest
      simp only [Option.map_some, List.tail?_cons, Option.some.injEq] at rest
      exact ⟨result, by rw [rest]⟩

theorem session_of_quiet {exchanges : List Exchange}
    (quiet : ∀ exchange ∈ exchanges, exchange.answer.Quiet) :
    (session debugText [] exchanges).1.map Turn.exchange = exchanges ∧
      (∀ turn ∈ (session debugText [] exchanges).1, turn.Aligned debugText) ∧
      (session debugText [] exchanges).2 = [] := by
  induction exchanges with
  | nil => simp [session]
  | cons exchange later ih =>
      obtain ⟨result, returned⟩ := call_of_quiet debugText exchange.command
        (quiet exchange List.mem_cons_self)
      obtain ⟨made, aligned, left⟩ := ih (fun other member => quiet other (List.mem_cons_of_mem _ member))
      simp only [session, List.nil_append, returned, List.map_cons, made, List.mem_cons, left, and_true,
        true_and]
      intro turn made
      rcases made with rfl | member
      · exact ⟨rfl, rfl, returned⟩
      · exact aligned turn member

theorem quiet_of_session {exchanges : List Exchange}
    (made : (session debugText [] exchanges).1.map Turn.exchange = exchanges)
    (aligned : ∀ turn ∈ (session debugText [] exchanges).1, turn.Aligned debugText) :
    ∀ exchange ∈ exchanges, exchange.answer.Quiet := by
  induction exchanges with
  | nil => simp
  | cons exchange later ih =>
      have rest := exchange.command.call_rest debugText exchange.answer.messages
      cases returned : exchange.command.call debugText exchange.answer.messages with
      | none => simp [session, returned] at made
      | some reply =>
          obtain ⟨result, after⟩ := reply
          rw [returned] at rest
          simp only [session, List.nil_append, returned, List.map_cons, List.cons.injEq, true_and,
            List.mem_cons] at made aligned
          have nothing : after = [] := (aligned _ (Or.inl rfl)).after
          subst nothing
          intro other member
          rcases List.mem_cons.mp member with rfl | inLater
          · exact quiet_of_nothing_left rest.symm
          · exact ih made (fun turn turnMember => aligned turn (Or.inr turnMember)) other inLater

/-- Every call of a session, and START_REPLICATION after it, reads its own
    answer exactly when no answer has a CommandComplete or an ErrorResponse
    before its ReadyForQuery. -/
theorem session_aligned_iff (exchanges : List Exchange) (first : Message) (more : List Message) :
    ((session debugText [] exchanges).1.map Turn.exchange = exchanges ∧
      (∀ turn ∈ (session debugText [] exchanges).1, turn.Aligned debugText) ∧
      startReplication debugText ((session debugText [] exchanges).2 ++ first :: more) =
        some (startReplicationExit debugText first, more)) ↔
    ∀ exchange ∈ exchanges, exchange.answer.Quiet := by
  constructor
  · intro found
    obtain ⟨made, aligned, _⟩ := found
    exact quiet_of_session debugText made aligned
  · intro quiet
    obtain ⟨made, aligned, left⟩ := session_of_quiet debugText quiet
    refine ⟨made, aligned, ?_⟩
    rw [left]
    rfl

/-- The two commands of `initialize_connections`, answered as a server does. -/
def initializeConnections : List Exchange :=
  let row : Answered :=
    { body := [.rowDescription, .dataRow, .commandComplete], ready := by decide }
  [{ command := .identifySystem, answer := row }, { command := .createReplicationSlot, answer := row }]

/-- START_REPLICATION reads the row description of CREATE_REPLICATION_SLOT. -/
theorem startReplication_misread :
    startReplication id ((session id [] initializeConnections).2 ++ [.copyOutResponse]) =
        some (.error (.replication "Unexpected response to START_REPLICATION"),
          [.dataRow, .commandComplete, .readyForQuery, .copyOutResponse]) ∧
      startReplication id ((session id [] initializeConnections).2 ++ [.copyOutResponse]) ≠
        some (startReplicationExit id .copyOutResponse, []) := by
  refine ⟨rfl, ?_⟩
  intro same
  cases same

end PgCapture.Postgres
