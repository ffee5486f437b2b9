import PgCapture.Postgres.Connection
import PgCapture.Data.Dialogue

namespace PgCapture.Postgres

open PgCapture.Data

/-! # The authentication handshake

`authenticate` sends the startup message and then reads: first until the server
accepts the client, then until it is ready for queries.  `startupMessage` and
`passwordMessage` stand for the protocol library's builders, which refuse
parameters they cannot write.
-/

/-- What a server says during start-up. -/
inductive ServerMessage where
  | authenticationOk
  | authenticationCleartextPassword
  | authenticationMd5Password
  | authenticationSasl
  | authenticationSaslContinue
  | authenticationSaslFinal
  | errorResponse (fields : List ErrorField)
  | noticeResponse
  | parameterStatus
  | backendKeyData
  | readyForQuery
deriving DecidableEq, Repr

namespace ServerMessage

/-- The message as the client's matches tell it from others. -/
def toMessage : ServerMessage → Message
  | authenticationOk => .authenticationOk
  | authenticationCleartextPassword => .authenticationCleartextPassword
  | errorResponse fields => .errorResponse fields
  | parameterStatus => .parameterStatus
  | backendKeyData => .backendKeyData
  | readyForQuery => .readyForQuery
  | authenticationMd5Password => .other
  | authenticationSasl => .other
  | authenticationSaslContinue => .other
  | authenticationSaslFinal => .other
  | noticeResponse => .other

/-- The requests after which the server waits for the client. -/
def NeedsAnswer (message : ServerMessage) : Prop :=
  message ∈ [authenticationCleartextPassword, authenticationMd5Password, authenticationSasl,
    authenticationSaslContinue]

end ServerMessage

structure Config where
  user : Option String
  dbname : Option String
  password : Option Bytes

/-- One message read, or the read that failed, and how the socket takes the
    write that it leads to, if it does. -/
structure Arrival where
  read : Except Error ServerMessage
  write : Except Error Unit

inductive AuthAction where
  | wrote (message : Bytes)
deriving DecidableEq, Repr

/-- The two read loops. -/
inductive Phase where
  | authenticating
  | starting
deriving DecidableEq, Repr

section Authenticate

variable (debugText : String → String)
variable (startupMessage : List (String × String) → Except Error Bytes)
variable (passwordMessage : Bytes → Except Error Bytes)

def writePassword (config : Config) (write : Except Error Unit) : Except Error Bytes := do
  match config.password with
  | some password =>
      let message ← passwordMessage password
      write
      pure message
  | none => .error (.authentication "Password required")

def onMessage (config : Config) (write : Except Error Unit) :
    Phase → Message → Reaction Phase AuthAction (Except Error Unit)
  | .authenticating, .authenticationOk => { actions := [], state := .starting, exit := none }
  | .authenticating, .authenticationCleartextPassword =>
      match writePassword passwordMessage config write with
      | .ok message => { actions := [.wrote message], state := .authenticating, exit := none }
      | .error reason => { actions := [], state := .authenticating, exit := some (.error reason) }
  | .authenticating, .errorResponse fields =>
      { actions := [], state := .authenticating
        exit := some (.error (.authentication ("Auth error: " ++ debugFields debugText fields))) }
  | .starting, .readyForQuery => { actions := [], state := .starting, exit := some (.ok ()) }
  | phase, _ => { actions := [], state := phase, exit := none }

def onArrival (config : Config) (phase : Phase) (arrival : Arrival) :
    Reaction Phase AuthAction (Except Error Unit) :=
  match arrival.read with
  | .ok message => onMessage debugText passwordMessage config arrival.write phase message.toMessage
  | .error reason => { actions := [], state := phase, exit := some (.error reason) }

def startupParams (config : Config) : List (String × String) :=
  [("user", config.user.getD "postgres"), ("database", config.dbname.getD "postgres"),
    ("replication", "database")]

/-- `greeted` is how the socket takes the startup message. -/
def writeStartup (config : Config) (greeted : Except Error Unit) : Except Error Bytes := do
  let message ← startupMessage (startupParams config)
  greeted
  pure message

def authenticate (config : Config) (greeted : Except Error Unit) (arrivals : List Arrival) :
    List (Event Arrival AuthAction (Except Error Unit)) :=
  match writeStartup startupMessage config greeted with
  | .ok message =>
      .acted (.wrote message) ::
        dialogue (onArrival debugText passwordMessage config) .authenticating arrivals
  | .error reason => [.exited (.error reason)]

end Authenticate

def Arrival.NeedsAnswer (arrival : Arrival) : Prop :=
  ∃ message, arrival.read = .ok message ∧ message.NeedsAnswer

/-- A message sent, or the call given up. -/
def Answers : Event Arrival AuthAction (Except Error Unit) → Prop
  | .acted (.wrote _) => True
  | .exited (.error _) => True
  | _ => False

/-- Whenever the server waits for the client, the client does not wait for the
    server. -/
def NeverDeadlocks (events : List (Event Arrival AuthAction (Except Error Unit))) : Prop :=
  Prompt Arrival.NeedsAnswer Answers events

def Arrival.accepts (arrival : Arrival) : Bool :=
  match arrival.read with
  | .ok .authenticationOk => true
  | _ => false

section Condition

variable (passwordMessage : Bytes → Except Error Bytes)

/-- An arrival that ends the call while the client is not accepted: a failed
    read, an error response, or a request for a password that the client has
    not got or cannot send. -/
def Arrival.Refuses (config : Config) (arrival : Arrival) : Prop :=
  match arrival.read with
  | .error _ => True
  | .ok (.errorResponse _) => True
  | .ok .authenticationCleartextPassword =>
      ∃ reason, writePassword passwordMessage config arrival.write = .error reason
  | .ok _ => False

/-- An arrival that ends the call once the client is accepted. -/
def Arrival.Completes (arrival : Arrival) : Prop :=
  match arrival.read with
  | .error _ => True
  | .ok .readyForQuery => True
  | .ok _ => False

/-- The call is over after these arrivals. -/
def Over (config : Config) (arrivals : List Arrival) : Prop :=
  (∃ arrival ∈ arrivals.takeWhile (! ·.accepts), arrival.Refuses passwordMessage config) ∨
    ∃ arrival ∈ arrivals.dropWhile (! ·.accepts), arrival.Completes

/-- Every request that arrives during the call asks for a cleartext password,
    before the server has accepted the client. -/
def OnlyCleartext (config : Config) (arrivals : List Arrival) : Prop :=
  ∀ before arrival rest message, arrivals = before ++ arrival :: rest →
    arrival.read = .ok message → message.NeedsAnswer →
      Over passwordMessage config before ∨
        message = .authenticationCleartextPassword ∧ ∀ earlier ∈ before, earlier.accepts = false

end Condition

section Steps

variable (debugText : String → String)
variable (startupMessage : List (String × String) → Except Error Bytes)
variable (passwordMessage : Bytes → Except Error Bytes)

theorem onArrival_starting_exit {config : Config} {arrival : Arrival} :
    (onArrival debugText passwordMessage config .starting arrival).exit = none ↔
      ¬ arrival.Completes := by
  rw [onArrival, Arrival.Completes]
  cases arrival.read with
  | error reason => simp
  | ok message => cases message <;> simp [ServerMessage.toMessage, onMessage]

theorem onArrival_starting_state {config : Config} {arrival : Arrival} :
    (onArrival debugText passwordMessage config .starting arrival).state = .starting := by
  rw [onArrival]
  cases arrival.read with
  | error reason => rfl
  | ok message => cases message <;> rfl

theorem onArrival_authenticating_exit {config : Config} {arrival : Arrival} :
    (onArrival debugText passwordMessage config .authenticating arrival).exit = none ↔
      ¬ arrival.Refuses passwordMessage config := by
  rw [onArrival, Arrival.Refuses]
  cases arrival.read with
  | error reason => simp
  | ok message =>
      cases message
      case authenticationCleartextPassword =>
        cases written : writePassword passwordMessage config arrival.write with
        | ok bytes => simp [ServerMessage.toMessage, onMessage, written]
        | error reason => simp [ServerMessage.toMessage, onMessage, written]
      all_goals simp [ServerMessage.toMessage, onMessage]

theorem onArrival_authenticating_state {config : Config} {arrival : Arrival} :
    (onArrival debugText passwordMessage config .authenticating arrival).state =
      if arrival.accepts then .starting else .authenticating := by
  rw [onArrival, Arrival.accepts]
  cases arrival.read with
  | error reason => rfl
  | ok message =>
      cases message
      case authenticationCleartextPassword =>
        simp only [ServerMessage.toMessage, onMessage]
        split <;> rfl
      all_goals rfl

theorem outcome_starting (config : Config) (arrivals : List Arrival) (reached : Phase) :
    outcome (onArrival debugText passwordMessage config) .starting arrivals = (reached, none) ↔
      (∀ arrival ∈ arrivals, ¬ arrival.Completes) ∧ reached = .starting := by
  induction arrivals with
  | nil => simp [outcome, eq_comm]
  | cons arrival arrivals ih =>
      rw [outcome_cons_eq_none, onArrival_starting_exit, onArrival_starting_state, ih,
        List.forall_mem_cons, and_assoc]

theorem Arrival.accepts_iff {arrival : Arrival} :
    arrival.accepts = true ↔ arrival.read = .ok .authenticationOk := by
  rw [Arrival.accepts]
  split
  · rename_i read
    exact iff_of_true rfl read
  · rename_i other
    exact iff_of_false (by decide) other

theorem Arrival.not_completes_of_accepts {arrival : Arrival} (accepts : arrival.accepts = true) :
    ¬ arrival.Completes := by
  rw [Arrival.Completes, accepts_iff.mp accepts]
  exact id

theorem Arrival.not_refuses_of_accepts (config : Config) {arrival : Arrival}
    (accepts : arrival.accepts = true) : ¬ arrival.Refuses passwordMessage config := by
  rw [Arrival.Refuses, accepts_iff.mp accepts]
  exact id

theorem outcome_authenticating (config : Config) (arrivals : List Arrival) (reached : Phase) :
    outcome (onArrival debugText passwordMessage config) .authenticating arrivals = (reached, none) ↔
      ¬ Over passwordMessage config arrivals ∧
        reached = if arrivals.any Arrival.accepts then .starting else .authenticating := by
  induction arrivals with
  | nil => simp [outcome, Over, eq_comm]
  | cons arrival arrivals ih =>
      rw [outcome_cons_eq_none, onArrival_authenticating_exit, onArrival_authenticating_state]
      cases accepts : arrival.accepts with
      | true =>
          have stays := arrival.not_completes_of_accepts accepts
          have goes := arrival.not_refuses_of_accepts passwordMessage config accepts
          simp [Over, accepts, outcome_starting, stays, goes]
      | false =>
          have more : Over passwordMessage config (arrival :: arrivals) ↔
              arrival.Refuses passwordMessage config ∨ Over passwordMessage config arrivals := by
            simp [Over, accepts, or_assoc]
          simp only [accepts, more, ih, not_or, List.any_cons, Bool.false_or, and_assoc,
            Bool.false_eq_true, if_false]

/-- A request that leaves the call reading was answered exactly if it asked for
    a cleartext password and the client is not yet accepted. -/
theorem request_answered_iff {config : Config} {phase : Phase} {arrival : Arrival}
    {message : ServerMessage} (read : arrival.read = .ok message) (needs : message.NeedsAnswer) :
    ((onArrival debugText passwordMessage config phase arrival).exit = none →
        ∃ action ∈ (onArrival debugText passwordMessage config phase arrival).actions,
          Answers (.acted action)) ↔
      message = .authenticationCleartextPassword ∧ phase = .authenticating := by
  rw [onArrival, read]
  cases phase with
  | starting => cases message <;> simp_all [ServerMessage.toMessage, onMessage, ServerMessage.NeedsAnswer]
  | authenticating =>
      cases message
      case authenticationCleartextPassword =>
        cases written : writePassword passwordMessage config arrival.write with
        | ok bytes => simp [ServerMessage.toMessage, onMessage, written, Answers]
        | error reason => simp [ServerMessage.toMessage, onMessage, written]
      all_goals simp_all [ServerMessage.toMessage, onMessage, ServerMessage.NeedsAnswer]

end Steps

/-- The handshake cannot deadlock exactly if it does not begin, or every request
    is for a cleartext password. -/
theorem authenticate_neverDeadlocks_iff (debugText : String → String)
    (startupMessage : List (String × String) → Except Error Bytes)
    (passwordMessage : Bytes → Except Error Bytes) (config : Config) (greeted : Except Error Unit)
    (arrivals : List Arrival) :
    NeverDeadlocks (authenticate debugText startupMessage passwordMessage config greeted arrivals) ↔
      (∃ reason, writeStartup startupMessage config greeted = .error reason) ∨
        OnlyCleartext passwordMessage config arrivals := by
  rw [authenticate, NeverDeadlocks]
  cases writeStartup startupMessage config greeted with
  | error reason =>
      exact iff_of_true ((prompt_cons (by simp)).mpr prompt_nil) (.inl ⟨reason, rfl⟩)
  | ok message =>
      rw [prompt_cons (by simp), prompt_dialogue_iff]
      have begins : ¬ ∃ reason, (Except.ok message : Except Error Bytes) = .error reason := by
        intro refused
        obtain ⟨reason, same⟩ := refused
        cases same
      rw [or_iff_right begins]
      constructor
      · intro prompt before arrival rest message split read needs
        by_cases finished : Over passwordMessage config before
        · exact .inl finished
        · right
          have ran := (outcome_authenticating debugText passwordMessage config before _).mpr ⟨finished, rfl⟩
          have answered := (request_answered_iff debugText passwordMessage read needs).mp
            (prompt before arrival rest _ split ran ⟨message, read, needs⟩)
          refine ⟨answered.1, fun earlier member => ?_⟩
          by_contra accepts
          have accepted : before.any Arrival.accepts = true :=
            List.any_eq_true.mpr ⟨earlier, member, by simpa using accepts⟩
          rw [accepted] at answered
          exact absurd answered.2 (by decide)
      · intro cleartext before arrival rest reached split ran needed
        obtain ⟨message, read, needs⟩ := needed
        obtain ⟨goes, phase⟩ := (outcome_authenticating debugText passwordMessage config before _).mp ran
        refine (request_answered_iff debugText passwordMessage read needs).mpr ?_
        rcases cleartext before arrival rest message split read needs with finished | ⟨same, none⟩
        · contradiction
        · have unaccepted : before.any Arrival.accepts = false := by
            simpa using none
          rw [unaccepted] at phase
          exact ⟨same, phase⟩

/-- A server that asks for SASL waits for the client, and the client goes back
    to reading. -/
theorem sasl_request_unanswered :
    ¬ NeverDeadlocks (authenticate id (fun _ => .ok []) .ok
      { user := some "pgcapture", dbname := some "db", password := some [112] } (.ok ())
      [{ read := .ok .authenticationSasl, write := .ok () }]) := by
  intro prompt
  have needs : Arrival.NeedsAnswer { read := .ok .authenticationSasl, write := .ok () } :=
    ⟨.authenticationSasl, rfl, by simp [ServerMessage.NeedsAnswer]⟩
  obtain ⟨event, member, _⟩ := prompt [.acted (.wrote []), .reading] _ [] [] rfl needs
  contradiction

end PgCapture.Postgres
