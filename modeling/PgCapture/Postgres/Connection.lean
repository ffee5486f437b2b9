import PgCapture.Error
import PgCapture.Data.Utf8
import PgCapture.Postgres.Decoder

namespace PgCapture.Postgres

open PgCapture.Data Cursor

/-! # The replication connection

What the connection makes of one backend message while replication is running.
`debugText` stands for the standard library's debug form of a string.
-/

structure ErrorField where
  type : UInt8
  value : Bytes
deriving DecidableEq, Repr

/-- A backend message, with the parts of it the connection looks at. -/
inductive Message where
  | authenticationOk
  | authenticationCleartextPassword
  | parameterStatus
  | backendKeyData
  | readyForQuery
  | rowDescription
  | dataRow
  | commandComplete
  | copyOutResponse
  | copyData (data : Bytes)
  | errorResponse (fields : List ErrorField)
  | other
deriving DecidableEq, Repr

section Errors

variable (debugText : String → String)

def debugFields (fields : List ErrorField) : String :=
  "[" ++ ", ".intercalate (fields.map fun field => "(" ++ debugText (toString field.type.toNat) ++
    ", " ++ debugText (Utf8.fromUtf8Lossy field.value) ++ ")") ++ "]"

end Errors

def errorMessage (fields : List ErrorField) : String :=
  fields.foldl (fun message field =>
    if field.type = 0x4D then Utf8.fromUtf8Lossy field.value else message) ""

inductive CopyBothMessage where
  | xLogData (walStart walEnd : UInt64) (timestamp : Int64) (data : Bytes)
  | primaryKeepalive (walEnd : UInt64) (timestamp : Int64) (replyRequested : Bool)
deriving DecidableEq, Repr

structure ReplicationMessage where
  data : Bytes
  walStart : UInt64
  walEnd : UInt64
deriving DecidableEq, Repr

/-- The connection's own `format_lsn`. -/
def ReplicationMessage.formatLsn (lsn : UInt64) : String :=
  String.ofList (Hex.upper (lsn >>> 32).toNat ++ '/' :: Hex.upper (lsn &&& 0xFFFFFFFF).toNat)

theorem ReplicationMessage.formatLsn_eq (lsn : UInt64) :
    ReplicationMessage.formatLsn lsn = Postgres.formatLsn lsn := by
  rw [ReplicationMessage.formatLsn, Postgres.formatLsn]

def parseXLogData : Cursor Error CopyBothMessage := do
  let walStart ← getU64
  let walEnd ← getU64
  let timestamp ← getI64
  let data ← takeRest
  pure (.xLogData walStart walEnd timestamp data)

def parsePrimaryKeepalive : Cursor Error CopyBothMessage := do
  let walEnd ← getU64
  let timestamp ← getI64
  let replyRequested ← getU8
  pure (.primaryKeepalive walEnd timestamp (replyRequested ≠ 0))

def parseCopybothMessage : Bytes → Outcome Error (Option CopyBothMessage)
  | [] => .ok none
  | messageType :: cursor =>
      match messageType with
      | Tag.xLogData =>
          if cursor.length < 24 then .err (.invalidMessage "XLogData message too short")
          else (parseXLogData.run cursor).map some
      | Tag.primaryKeepalive =>
          if cursor.length < 17 then .err (.invalidMessage "Primary keepalive message too short")
          else (parsePrimaryKeepalive.run cursor).map some
      | _ => .ok none

theorem parseXLogData_of_le {cursor : Bytes} (enough : 24 ≤ cursor.length) :
    parseXLogData.run cursor = .ok (.xLogData (UInt64.ofNat (bigEndian (cursor.take 8)))
      (UInt64.ofNat (bigEndian ((cursor.drop 8).take 8)))
      (UInt64.ofNat (bigEndian ((cursor.drop 16).take 8))).toInt64 (cursor.drop 24)) := by
  have first : 8 ≤ cursor.length := by omega
  have second : 8 ≤ (cursor.drop 8).length := by simp only [List.length_drop]; omega
  have third : 8 ≤ ((cursor.drop 8).drop 8).length := by simp only [List.length_drop]; omega
  rw [parseXLogData, run_bind_of_ok (getU64_of_le first), run_bind_of_ok (getU64_of_le second),
    run_bind_of_ok (getI64_of_le third), run_bind_of_ok (takeRest_apply _)]
  simp only [List.drop_drop, run_pure]

theorem parsePrimaryKeepalive_ok {cursor : Bytes} {parsed : CopyBothMessage}
    (read : parsePrimaryKeepalive.run cursor = .ok parsed) :
    ∃ walEnd timestamp replyRequested, parsed = .primaryKeepalive walEnd timestamp replyRequested := by
  obtain ⟨rest, read⟩ := run_eq_ok.mp read
  obtain ⟨walEnd, afterEnd, readEnd, read⟩ := bind_eq_ok.mp read
  obtain ⟨timestamp, afterTime, readTime, read⟩ := bind_eq_ok.mp read
  obtain ⟨reply, afterReply, readReply, read⟩ := bind_eq_ok.mp read
  cases read
  exact ⟨walEnd, timestamp, _, rfl⟩

/-- The received, the flushed and the applied position are all `lsn`. -/
def createStandbyStatusUpdate (lsn : UInt64) (now : Int64) : Bytes :=
  0x72 :: putU64 lsn ++ putU64 lsn ++ putU64 lsn ++ putI64 now ++ [0]

def standbyStatusFrame (lsn : UInt64) (now : Int64) : Bytes :=
  let messageData := createStandbyStatusUpdate lsn now
  0x64 :: putI32 (Int32.ofNat (messageData.length + 4)) ++ messageData

/-- The frame that goes out; `write` is how the socket takes it. -/
def sendStandbyStatusUpdate (replicationStarted : Bool) (lsn : UInt64) (now : Int64)
    (write : Except Error Unit) : Except Error Bytes :=
  if replicationStarted then write.map fun _ => standbyStatusFrame lsn now
  else .error (.replication "No active replication stream")

/-- The position of every keepalive: the source has a constant where it says that
    the last position received would be tracked. -/
def keepaliveLsn : UInt64 := 0

def sendKeepalive (replicationStarted : Bool) (now : Int64) (write : Except Error Unit) :
    Except Error Bytes :=
  if replicationStarted then
    let lastLsn := keepaliveLsn
    sendStandbyStatusUpdate replicationStarted lastLsn now write
  else .error (.replication "No active replication stream")

/-- What one backend message does to a pending receive. -/
inductive Received where
  /-- The receive goes on waiting. -/
  | ignored
  /-- A standby status update was written; the receive goes on waiting. -/
  | replied (walEnd : UInt64)
  | returned (message : ReplicationMessage)
  | failed (reason : Error)
  | panicked
deriving DecidableEq, Repr

def recvCopybothMessage (debugText : String → String) (write : Except Error Unit) :
    Message → Received
  | .copyData data =>
      match parseCopybothMessage data with
      | .ok (some (.xLogData walStart walEnd _ data)) => .returned { data, walStart, walEnd }
      | .ok (some (.primaryKeepalive walEnd _ replyRequested)) =>
          if replyRequested then
            match write with
            | .ok () => .replied walEnd
            | .error reason => .failed reason
          else .ignored
      | .ok none => .ignored
      | .err reason => .failed reason
      | .panic => .panicked
  | .errorResponse fields =>
      .failed (.replication ("Replication error: " ++ debugFields debugText fields))
  | _ => .ignored

end PgCapture.Postgres
