import PgCapture.Postgres.Connection

namespace PgCapture.Postgres

open PgCapture.Data Cursor

/-! # Receiving the stream

One call of `recv_replication_message` reads messages until one of them makes
it return; the caller calls again for the next.
-/

/-- One backend message, with the clock and the socket that a reply to it would
    meet. -/
structure Incoming where
  message : Message
  now : Int64
  write : Except Error Unit

/-- A call: the frames it wrote, what it returned if it did, and the messages it
    did not read. -/
structure Call where
  frames : List Bytes
  result : Option (Outcome Error ReplicationMessage)
  rest : List Incoming

section Calls

variable (debugText : String → String)

def recvCopybothLoop (replicationStarted : Bool) : List Incoming → Call
  | [] => { frames := [], result := none, rest := [] }
  | incoming :: rest =>
      match recvCopybothMessage debugText incoming.write incoming.message with
      | .ignored => recvCopybothLoop replicationStarted rest
      | .replied walEnd =>
          match sendStandbyStatusUpdate replicationStarted walEnd incoming.now incoming.write with
          | .ok frame =>
              let call := recvCopybothLoop replicationStarted rest
              { call with frames := frame :: call.frames }
          | .error reason => { frames := [], result := some (.err reason), rest }
      | .returned message => { frames := [], result := some (.ok message), rest }
      | .failed reason => { frames := [], result := some (.err reason), rest }
      | .panicked => { frames := [], result := some .panic, rest }

def recvReplicationMessage (replicationStarted : Bool) (incoming : List Incoming) : Call :=
  if replicationStarted then recvCopybothLoop debugText replicationStarted incoming
  else { frames := [], result := some (.err (.replication "Replication not started")), rest := incoming }

theorem recvCopybothLoop_rest (replicationStarted : Bool) (incoming : List Incoming) :
    let call := recvCopybothLoop debugText replicationStarted incoming
    call.result.isSome → call.rest.length < incoming.length := by
  induction incoming with
  | nil => simp [recvCopybothLoop]
  | cons first rest ih =>
      simp only [recvCopybothLoop]
      split
      · exact fun returned => Nat.lt_succ_of_lt (ih returned)
      · split
        · exact fun returned => Nat.lt_succ_of_lt (ih returned)
        · exact fun _ => Nat.lt_succ_self _
      all_goals exact fun _ => Nat.lt_succ_self _

/-- Calls made one after another until one does not return a message: what they
    returned and the frames they wrote. -/
def recvRepeatedly (replicationStarted : Bool) (incoming : List Incoming) :
    List (Outcome Error ReplicationMessage) × List Bytes :=
  let call := recvReplicationMessage debugText replicationStarted incoming
  match _returned : call.result with
  | some (.ok message) =>
      let later := recvRepeatedly replicationStarted call.rest
      (.ok message :: later.1, call.frames ++ later.2)
  | some failure => ([failure], call.frames)
  | none => ([], call.frames)
termination_by incoming.length
decreasing_by
  cases replicationStarted with
  | true => exact recvCopybothLoop_rest debugText true incoming (Option.isSome_of_eq_some _returned)
  | false => simp [call, recvReplicationMessage] at _returned

theorem recvRepeatedly_eq (replicationStarted : Bool) (incoming : List Incoming) :
    recvRepeatedly debugText replicationStarted incoming =
      let call := recvReplicationMessage debugText replicationStarted incoming
      match call.result with
      | some (.ok message) =>
          let later := recvRepeatedly debugText replicationStarted call.rest
          (.ok message :: later.1, call.frames ++ later.2)
      | some failure => ([failure], call.frames)
      | none => ([], call.frames) := by
  rw [recvRepeatedly]
  split
  · rename_i message returned
    simp only [returned]
  · rename_i failure failed returned
    simp only [returned]
  · rename_i waits
    simp only [waits]

theorem recvRepeatedly_nil : recvRepeatedly debugText true [] = ([], []) := by
  rw [recvRepeatedly_eq]
  rfl

/-- What the first message adds to what the calls make of the others. -/
theorem recvRepeatedly_cons (incoming : Incoming) (rest : List Incoming) :
    recvRepeatedly debugText true (incoming :: rest) =
      let later := recvRepeatedly debugText true rest
      match recvCopybothMessage debugText incoming.write incoming.message with
      | .ignored => later
      | .replied walEnd =>
          match sendStandbyStatusUpdate true walEnd incoming.now incoming.write with
          | .ok frame => (later.1, frame :: later.2)
          | .error reason => ([.err reason], [])
      | .returned message => (.ok message :: later.1, later.2)
      | .failed reason => ([.err reason], [])
      | .panicked => ([.panic], []) := by
  rw [recvRepeatedly_eq]
  cases received : recvCopybothMessage debugText incoming.write incoming.message with
  | ignored =>
      rw [recvRepeatedly_eq debugText true rest]
      simp only [recvReplicationMessage, if_true, recvCopybothLoop, received]
  | replied walEnd =>
      cases sent : sendStandbyStatusUpdate true walEnd incoming.now incoming.write with
      | ok frame =>
          rw [recvRepeatedly_eq debugText true rest]
          simp only [recvReplicationMessage, if_true, recvCopybothLoop, received, sent]
          split
          all_goals rfl
      | error reason => simp only [recvReplicationMessage, if_true, recvCopybothLoop, received, sent]
  | returned message =>
      simp only [recvReplicationMessage, if_true, recvCopybothLoop, received, List.nil_append]
  | failed reason => simp only [recvReplicationMessage, if_true, recvCopybothLoop, received]
  | panicked => simp only [recvReplicationMessage, if_true, recvCopybothLoop, received]

end Calls

/-- A backend message by its place in the replication protocol.  A keepalive may
    be followed by bytes that nobody reads. -/
inductive StreamMessage where
  | xLogData (walStart walEnd : UInt64) (timestamp : Int64) (data : Bytes)
  | keepalive (walEnd : UInt64) (timestamp : Int64) (replyRequested : UInt8) (unread : Bytes)
  | cutXLogData (cursor : Bytes) (short : cursor.length < 24)
  | cutKeepalive (cursor : Bytes) (short : cursor.length < 17)
  | unknown (payload : Bytes)
      (noData : payload.head? ≠ some Tag.xLogData) (noKeepalive : payload.head? ≠ some Tag.primaryKeepalive)
  | errorResponse (fields : List ErrorField)
  | unrelated (message : Message)
      (noCopy : ∀ data, message ≠ .copyData data) (noError : ∀ fields, message ≠ .errorResponse fields)

namespace StreamMessage

def message : StreamMessage → Message
  | xLogData walStart walEnd timestamp data =>
      .copyData (xLogDataFrame walStart walEnd timestamp data)
  | keepalive walEnd timestamp replyRequested unread =>
      .copyData (Tag.primaryKeepalive :: (putU64 walEnd ++ (putI64 timestamp ++ replyRequested :: unread)))
  | cutXLogData cursor _ => .copyData (Tag.xLogData :: cursor)
  | cutKeepalive cursor _ => .copyData (Tag.primaryKeepalive :: cursor)
  | unknown payload _ _ => .copyData payload
  | errorResponse fields => .errorResponse fields
  | unrelated message _ _ => message

def payload? : StreamMessage → Option ReplicationMessage
  | xLogData walStart walEnd _ data => some { data, walStart, walEnd }
  | _ => none

/-- The position that the server asks to have confirmed. -/
def asked? : StreamMessage → Option UInt64
  | keepalive walEnd _ replyRequested _ => if replyRequested = 0 then none else some walEnd
  | _ => none

def failure? (debugText : String → String) : StreamMessage → Option Error
  | cutXLogData _ _ => some (.invalidMessage "XLogData message too short")
  | cutKeepalive _ _ => some (.invalidMessage "Primary keepalive message too short")
  | errorResponse fields =>
      some (.replication ("Replication error: " ++ debugFields debugText fields))
  | _ => none

theorem exists_keepalive {cursor : Bytes} (enough : 17 ≤ cursor.length) :
    ∃ walEnd timestamp replyRequested unread,
      cursor = putU64 walEnd ++ (putI64 timestamp ++ replyRequested :: unread) := by
  obtain ⟨walEnd, afterEnd, shapeEnd⟩ : ∃ walEnd afterEnd, cursor = putU64 walEnd ++ afterEnd :=
    ⟨_, _, getU64_eq_ok.mp (getU64_of_le (ε := Error) (by omega))⟩
  have left : 9 ≤ afterEnd.length := by
    rw [shapeEnd, List.length_append, putU64_length] at enough
    omega
  obtain ⟨timestamp, afterTime, shapeTime⟩ : ∃ timestamp afterTime, afterEnd = putI64 timestamp ++ afterTime :=
    ⟨_, _, getI64_eq_ok.mp (getI64_of_le (ε := Error) (by omega))⟩
  rw [shapeTime, List.length_append, putI64_length] at left
  cases afterTime with
  | nil => simp at left
  | cons replyRequested unread =>
      exact ⟨walEnd, timestamp, replyRequested, unread, by rw [shapeEnd, shapeTime]⟩

theorem exists_xLogData {cursor : Bytes} (enough : 24 ≤ cursor.length) :
    ∃ walStart walEnd timestamp data,
      cursor = putU64 walStart ++ (putU64 walEnd ++ (putI64 timestamp ++ data)) := by
  obtain ⟨walStart, afterStart, shapeStart⟩ : ∃ walStart afterStart, cursor = putU64 walStart ++ afterStart :=
    ⟨_, _, getU64_eq_ok.mp (getU64_of_le (ε := Error) (by omega))⟩
  have left : 16 ≤ afterStart.length := by
    rw [shapeStart, List.length_append, putU64_length] at enough
    omega
  obtain ⟨walEnd, afterEnd, shapeEnd⟩ : ∃ walEnd afterEnd, afterStart = putU64 walEnd ++ afterEnd :=
    ⟨_, _, getU64_eq_ok.mp (getU64_of_le (ε := Error) (by omega))⟩
  have last : 8 ≤ afterEnd.length := by
    rw [shapeEnd, List.length_append, putU64_length] at left
    omega
  obtain ⟨timestamp, data, shapeTime⟩ : ∃ timestamp data, afterEnd = putI64 timestamp ++ data :=
    ⟨_, _, getI64_eq_ok.mp (getI64_of_le (ε := Error) last)⟩
  exact ⟨walStart, walEnd, timestamp, data, by rw [shapeStart, shapeEnd, shapeTime]⟩

/-- Every backend message has a place in the protocol. -/
theorem exists_message (message : Message) : ∃ item : StreamMessage, item.message = message := by
  cases message
  case copyData payload =>
    cases payload with
    | nil => exact ⟨unknown [] (by simp) (by simp), rfl⟩
    | cons tag cursor =>
        by_cases data : tag = Tag.xLogData
        · subst data
          by_cases short : cursor.length < 24
          · exact ⟨cutXLogData cursor short, rfl⟩
          · obtain ⟨walStart, walEnd, timestamp, data, shape⟩ := exists_xLogData (Nat.not_lt.mp short)
            exact ⟨xLogData walStart walEnd timestamp data, by rw [shape]; rfl⟩
        · by_cases keep : tag = Tag.primaryKeepalive
          · subst keep
            by_cases short : cursor.length < 17
            · exact ⟨cutKeepalive cursor short, rfl⟩
            · obtain ⟨walEnd, timestamp, replyRequested, unread, shape⟩ :=
                exists_keepalive (Nat.not_lt.mp short)
              exact ⟨keepalive walEnd timestamp replyRequested unread, by rw [shape]; rfl⟩
          · exact ⟨unknown (tag :: cursor) (by simpa using data) (by simpa using keep), rfl⟩
  case errorResponse fields => exact ⟨errorResponse fields, rfl⟩
  all_goals exact ⟨unrelated _ (by simp) (by simp), rfl⟩

theorem parseCopybothMessage_xLogData (walStart walEnd : UInt64) (timestamp : Int64) (data : Bytes) :
    parseCopybothMessage (xLogDataFrame walStart walEnd timestamp data) =
      .ok (some (.xLogData walStart walEnd timestamp data)) := by
  have enough : ¬ (putU64 walStart ++ (putU64 walEnd ++ (putI64 timestamp ++ data))).length < 24 := by
    simp only [List.length_append, putU64_length, putI64_length]
    omega
  rw [xLogDataFrame]
  simp only [parseCopybothMessage, if_neg enough, parseXLogData]
  rw [run_bind_of_ok (getU64_put _ _), run_bind_of_ok (getU64_put _ _), run_bind_of_ok (getI64_put _ _),
    run_bind_of_ok (takeRest_apply _)]
  rfl

theorem parseCopybothMessage_keepalive (walEnd : UInt64) (timestamp : Int64) (replyRequested : UInt8)
    (unread : Bytes) :
    parseCopybothMessage
        (Tag.primaryKeepalive :: (putU64 walEnd ++ (putI64 timestamp ++ replyRequested :: unread))) =
      .ok (some (.primaryKeepalive walEnd timestamp (replyRequested ≠ 0))) := by
  have enough : ¬ (putU64 walEnd ++ (putI64 timestamp ++ replyRequested :: unread)).length < 17 := by
    simp only [List.length_append, List.length_cons, putU64_length, putI64_length]
    omega
  simp only [parseCopybothMessage, if_neg enough, parsePrimaryKeepalive]
  rw [run_bind_of_ok (getU64_put _ _), run_bind_of_ok (getI64_put _ _),
    run_bind_of_ok (getU8_cons replyRequested unread)]
  rfl

/-- One message taken by the receive loop while the socket takes every write. -/
theorem recvCopybothMessage_eq (debugText : String → String) (item : StreamMessage) :
    recvCopybothMessage debugText (.ok ()) item.message =
      match item.payload?, item.asked?, item.failure? debugText with
      | some message, _, _ => .returned message
      | none, some walEnd, _ => .replied walEnd
      | none, none, some reason => .failed reason
      | none, none, none => .ignored := by
  cases item with
  | xLogData walStart walEnd timestamp data =>
      simp only [message, recvCopybothMessage, parseCopybothMessage_xLogData, payload?]
  | keepalive walEnd timestamp replyRequested unread =>
      simp only [message, recvCopybothMessage, parseCopybothMessage_keepalive, payload?, asked?, failure?]
      by_cases asked : replyRequested = 0
      · simp [asked]
      · simp [asked]
  | cutXLogData cursor short =>
      have refused : parseCopybothMessage (Tag.xLogData :: cursor) =
          .err (.invalidMessage "XLogData message too short") := if_pos short
      simp only [message, recvCopybothMessage, refused, payload?, asked?, failure?]
  | cutKeepalive cursor short =>
      have refused : parseCopybothMessage (Tag.primaryKeepalive :: cursor) =
          .err (.invalidMessage "Primary keepalive message too short") := if_pos short
      simp only [message, recvCopybothMessage, refused, payload?, asked?, failure?]
  | unknown payload noData noKeepalive =>
      have skipped : parseCopybothMessage payload = .ok none := by
        cases payload with
        | nil => rfl
        | cons tag cursor =>
            simp only [List.head?_cons, ne_eq, Option.some.injEq] at noData noKeepalive
            simp only [parseCopybothMessage]
            split
            · contradiction
            · contradiction
            · rfl
      simp only [message, recvCopybothMessage, skipped, payload?, asked?, failure?]
  | errorResponse fields => rfl
  | unrelated message noCopy noError =>
      cases message
      case copyData data => exact absurd rfl (noCopy data)
      case errorResponse fields => exact absurd rfl (noError fields)
      all_goals rfl

theorem asked?_of_payload? {item : StreamMessage} {message : ReplicationMessage}
    (sent : item.payload? = some message) : item.asked? = none := by
  cases item
  case xLogData => rfl
  all_goals cases sent

theorem silent_of_failure? {debugText : String → String} {item : StreamMessage} {reason : Error}
    (fails : item.failure? debugText = some reason) : item.payload? = none ∧ item.asked? = none := by
  cases item
  case cutXLogData => exact ⟨rfl, rfl⟩
  case cutKeepalive => exact ⟨rfl, rfl⟩
  case errorResponse => exact ⟨rfl, rfl⟩
  all_goals cases fails

end StreamMessage

/-- A message of the stream and the time at which a reply to it would be
    stamped; the socket takes every write. -/
def incoming (arrival : StreamMessage × Int64) : Incoming :=
  { message := arrival.1.message, now := arrival.2, write := .ok () }

/-- The part of a stream before the first failure. -/
def calm (debugText : String → String) (stream : List (StreamMessage × Int64)) :
    List (StreamMessage × Int64) :=
  stream.takeWhile fun arrival => (arrival.1.failure? debugText).isNone

def firstFailure (debugText : String → String) (stream : List (StreamMessage × Int64)) : Option Error :=
  stream.findSome? fun arrival => arrival.1.failure? debugText

def delivered? (arrival : StreamMessage × Int64) : Option ReplicationMessage := arrival.1.payload?

/-- A standby status update as the protocol has it, a CopyData message of 38 bytes;
    the last of them asks for no answer. -/
def statusUpdate (received flushed applied : UInt64) (now : Int64) : Bytes :=
  [0x64, 0, 0, 0, 38, 0x72] ++ putU64 received ++ putU64 flushed ++ putU64 applied ++ putI64 now ++ [0]

/-- The status update that a keepalive gets for an answer. -/
def reply? (arrival : StreamMessage × Int64) : Option Bytes :=
  arrival.1.asked?.map fun walEnd => statusUpdate walEnd walEnd walEnd arrival.2

theorem createStandbyStatusUpdate_length (lsn : UInt64) (now : Int64) :
    (createStandbyStatusUpdate lsn now).length = 34 := by
  simp [createStandbyStatusUpdate]

theorem standbyStatusFrame_eq (lsn : UInt64) (now : Int64) :
    standbyStatusFrame lsn now = statusUpdate lsn lsn lsn now := by
  have length : putI32 (Int32.ofNat (34 + 4)) = [0, 0, 0, 38] := by
    decide
  simp only [standbyStatusFrame, createStandbyStatusUpdate_length, length]
  rfl

theorem calm_cons_of_none {debugText : String → String} {arrival : StreamMessage × Int64}
    (stream : List (StreamMessage × Int64)) (passes : arrival.1.failure? debugText = none) :
    calm debugText (arrival :: stream) = arrival :: calm debugText stream ∧
      firstFailure debugText (arrival :: stream) = firstFailure debugText stream := by
  constructor
  · rw [calm, List.takeWhile_cons_of_pos (by rw [passes]; rfl), calm]
  · rw [firstFailure, List.findSome?_cons_of_isNone (by rw [passes]; rfl), firstFailure]

theorem calm_cons_of_some {debugText : String → String} {arrival : StreamMessage × Int64}
    (stream : List (StreamMessage × Int64)) {reason : Error}
    (fails : arrival.1.failure? debugText = some reason) :
    calm debugText (arrival :: stream) = [] ∧
      firstFailure debugText (arrival :: stream) = some reason := by
  constructor
  · rw [calm, List.takeWhile_cons_of_neg (by rw [fails]; exact Bool.false_ne_true)]
  · rw [firstFailure, List.findSome?_cons_of_isSome (by rw [fails]; rfl), fails]

theorem recvRepeatedly_stream (debugText : String → String) (stream : List (StreamMessage × Int64)) :
    recvRepeatedly debugText true (stream.map incoming) =
      (((calm debugText stream).filterMap delivered?).map .ok ++
          ((firstFailure debugText stream).map .err).toList,
        (calm debugText stream).filterMap reply?) := by
  induction stream with
  | nil => exact recvRepeatedly_nil debugText
  | cons arrival stream ih =>
      rw [List.map_cons, recvRepeatedly_cons, ih]
      simp only [incoming, StreamMessage.recvCopybothMessage_eq]
      cases fails : arrival.1.failure? debugText with
      | some reason =>
          obtain ⟨noPayload, notAsked⟩ := StreamMessage.silent_of_failure? fails
          obtain ⟨nothing, first⟩ := calm_cons_of_some stream fails
          simp only [noPayload, notAsked, nothing, first]
          rfl
      | none =>
          obtain ⟨more, first⟩ := calm_cons_of_none stream fails
          rw [more, first]
          cases sent : arrival.1.payload? with
          | some message =>
              have noReply : reply? arrival = none := by
                rw [reply?, StreamMessage.asked?_of_payload? sent]
                rfl
              rw [List.filterMap_cons_some (show delivered? arrival = some message from sent),
                List.filterMap_cons_none noReply]
              rfl
          | none =>
              rw [List.filterMap_cons_none (show delivered? arrival = none from sent)]
              cases asked : arrival.1.asked? with
              | some walEnd =>
                  have reply : reply? arrival = some (standbyStatusFrame walEnd arrival.2) := by
                    rw [reply?, asked, standbyStatusFrame_eq]
                    rfl
                  rw [List.filterMap_cons_some reply]
                  rfl
              | none =>
                  have noReply : reply? arrival = none := by
                    rw [reply?, asked]
                    rfl
                  rw [List.filterMap_cons_none noReply]

theorem parseCopybothMessage_ne_panic (payload : Bytes) : parseCopybothMessage payload ≠ .panic := by
  intro panics
  obtain ⟨item, same⟩ := StreamMessage.exists_message (.copyData payload)
  have received := item.recvCopybothMessage_eq id
  simp only [same, recvCopybothMessage, panics] at received
  split at received
  all_goals cases received

/-- Whatever the backend sends, the calls return the payloads of the stream up to
    its first failure and answer the keepalives that ask for it. -/
theorem recvRepeatedly_exact (debugText : String → String) :
    (∀ message : Message, ∃ item : StreamMessage, item.message = message) ∧
      (∀ stream : List (StreamMessage × Int64),
        recvRepeatedly debugText true (stream.map incoming) =
          (((calm debugText stream).filterMap delivered?).map .ok ++
              ((firstFailure debugText stream).map .err).toList,
            (calm debugText stream).filterMap reply?)) ∧
      ∀ payload : Bytes, parseCopybothMessage payload ≠ .panic :=
  ⟨StreamMessage.exists_message, recvRepeatedly_stream debugText, parseCopybothMessage_ne_panic⟩

end PgCapture.Postgres
