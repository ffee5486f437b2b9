import PgCapture.Postgres.Reader
import PgCapture.Postgres.Receiving
import PgCapture.Replicator.Positions

namespace PgCapture.Postgres

open PgCapture.Data Cursor

/-! # What the server hears

The receive calls answer keepalives and the loop reports the end of every message
before it looks at it.  Both write into one socket, and the server takes the
bytes as they come.
-/

structure StandbyReply where
  written : UInt64
  flushed : UInt64
  applied : UInt64
  time : Int64
  replyRequested : Bool
deriving DecidableEq, Repr

def getStandbyReply : Cursor Error StandbyReply := do
  let written ← getU64
  let flushed ← getU64
  let applied ← getU64
  let time ← getI64
  let replyRequested ← getU8
  pure { written, flushed, applied, time, replyRequested := replyRequested ≠ 0 }

/-- A standby status update inside a CopyData message. -/
def Frame.standbyReply? (frame : Frame) : Option StandbyReply :=
  match frame.tag, frame.body with
  | 0x64, 0x72 :: cursor => (getStandbyReply.run cursor).toOption
  | _, _ => none

theorem splitFrame_shorter {bytes rest : Bytes} {frame : Frame}
    (split : ReplicationStream.splitFrame bytes = some (frame, rest)) : rest.length < bytes.length := by
  rw [ReplicationStream.splitFrame] at split
  split at split
  · contradiction
  · rename_i enough
    obtain ⟨-, rfl⟩ := Prod.mk.inj (Option.some.inj split)
    rw [List.length_drop]
    omega

/-- The whole frames of what has arrived. -/
def readFrames (bytes : Bytes) : List Frame :=
  match _split : ReplicationStream.splitFrame bytes with
  | some (frame, rest) => frame :: readFrames rest
  | none => []
termination_by bytes.length
decreasing_by exact splitFrame_shorter _split

def heard (bytes : Bytes) : List StandbyReply := (readFrames bytes).filterMap Frame.standbyReply?

theorem readFrames_of_some {bytes rest : Bytes} {frame : Frame}
    (split : ReplicationStream.splitFrame bytes = some (frame, rest)) :
    readFrames bytes = frame :: readFrames rest := by
  rw [readFrames]
  split
  · rename_i found
    cases split.symm.trans found
    rfl
  · rename_i found
    cases split.symm.trans found

theorem readFrames_of_none {bytes : Bytes} (short : ReplicationStream.splitFrame bytes = none) :
    readFrames bytes = [] := by
  rw [readFrames]
  split
  · rename_i found
    cases short.symm.trans found
  · rfl

theorem splitFrame_take (frame : WireFrame) (rest : Bytes) (count : Nat) :
    ReplicationStream.splitFrame ((frame.encode ++ rest).take count) =
      if count < 5 + frame.body.length then none
      else some (frame.toFrame, rest.take (count - (5 + frame.body.length))) := by
  have whole : frame.encode.length = 5 + frame.body.length := Frame.encode_length _
  split
  · rename_i cut
    have arrived : ((frame.encode ++ rest).take count).length ≤ count := List.length_take_le ..
    rw [ReplicationStream.splitFrame, if_pos]
    by_cases header : 5 ≤ count
    · rw [ReplicationStream.bodyLength_take _ header, ReplicationStream.bodyLength_encode]
      omega
    · omega
  · rename_i enough
    have shape : (frame.encode ++ rest).take count =
        frame.encode ++ rest.take (count - (5 + frame.body.length)) := by
      rw [List.take_append, List.take_of_length_le (by omega), whole]
    rw [shape, ReplicationStream.splitFrame_encode]

/-- From frames of one size the server reads those that have arrived in full. -/
theorem readFrames_take {size : Nat} {frames : List WireFrame}
    (sized : ∀ frame ∈ frames, frame.body.length = size) (count : Nat) :
    readFrames ((encodeAll (frames.map WireFrame.toFrame)).take count) =
      (frames.map WireFrame.toFrame).take (count / (5 + size)) := by
  induction frames generalizing count with
  | nil =>
      rw [List.map_nil, List.take_nil, encodeAll, List.flatMap_nil, List.take_nil]
      exact readFrames_of_none rfl
  | cons frame frames ih =>
      have own : frame.body.length = size := sized frame List.mem_cons_self
      have split := splitFrame_take frame (encodeAll (frames.map WireFrame.toFrame)) count
      rw [own] at split
      rw [List.map_cons, encodeAll, List.flatMap_cons]
      by_cases cut : count < 5 + size
      · rw [if_pos cut] at split
        rw [Nat.div_eq_of_lt cut, List.take_zero]
        exact readFrames_of_none split
      · rw [if_neg cut] at split
        have rest := ih (fun other member => sized other (List.mem_cons_of_mem _ member)) (count - (5 + size))
        have more : count / (5 + size) = (count - (5 + size)) / (5 + size) + 1 :=
          Nat.div_eq_sub_div (by omega) (by omega)
        rw [more, List.take_succ_cons, ← rest]
        exact readFrames_of_some split

theorem statusFrame_fits (lsn : UInt64) (now : Int64) :
    (createStandbyStatusUpdate lsn now).length + 4 < 2 ^ 32 := by
  rw [createStandbyStatusUpdate_length]
  decide

def statusFrame (lsn : UInt64) (now : Int64) : WireFrame where
  tag := 0x64
  body := createStandbyStatusUpdate lsn now
  fits := statusFrame_fits lsn now

theorem standbyStatusFrame_eq_encode (lsn : UInt64) (now : Int64) :
    standbyStatusFrame lsn now = (statusFrame lsn now).encode := by
  have length := createStandbyStatusUpdate_length lsn now
  simp only [standbyStatusFrame, Frame.encode, statusFrame, length]
  rfl

/-- A status update names one position three times, and asks for no reply. -/
def statusReply (lsn : UInt64) (now : Int64) : StandbyReply where
  written := lsn
  flushed := lsn
  applied := lsn
  time := now
  replyRequested := false

theorem standbyReply?_statusFrame (lsn : UInt64) (now : Int64) :
    (statusFrame lsn now).standbyReply? = some (statusReply lsn now) := by
  have read : getStandbyReply.run (putU64 lsn ++ putU64 lsn ++ putU64 lsn ++ putI64 now ++ [0]) =
      .ok (statusReply lsn now) := by
    simp only [List.append_assoc]
    rw [getStandbyReply, run_bind_of_ok (getU64_put lsn _), run_bind_of_ok (getU64_put lsn _),
      run_bind_of_ok (getU64_put lsn _), run_bind_of_ok (getI64_put now _), run_bind_of_ok (getU8_cons 0 [])]
    rfl
  have body : (statusFrame lsn now).body =
      0x72 :: (putU64 lsn ++ putU64 lsn ++ putU64 lsn ++ putI64 now ++ [0]) := rfl
  rw [Frame.standbyReply?, body]
  change (getStandbyReply.run (putU64 lsn ++ putU64 lsn ++ putU64 lsn ++ putI64 now ++ [0])).toOption = _
  rw [read]
  rfl

theorem heard_take (stamped : List (UInt64 × Int64)) (count : Nat) :
    heard ((stamped.flatMap fun status => standbyStatusFrame status.1 status.2).take count) =
      (stamped.map fun status => statusReply status.1 status.2).take (count / 39) := by
  have frames : stamped.flatMap (fun status => standbyStatusFrame status.1 status.2) =
      encodeAll ((stamped.map fun status => statusFrame status.1 status.2).map WireFrame.toFrame) := by
    simp only [encodeAll, List.flatMap_map, standbyStatusFrame_eq_encode]
  have sized : ∀ frame ∈ stamped.map fun status => statusFrame status.1 status.2,
      frame.body.length = 34 := by
    intro frame member
    obtain ⟨status, _, rfl⟩ := List.mem_map.mp member
    exact createStandbyStatusUpdate_length status.1 status.2
  have replies : ∀ taken : List (UInt64 × Int64),
      ((taken.map fun status => statusFrame status.1 status.2).map WireFrame.toFrame).filterMap
          Frame.standbyReply? = taken.map fun status => statusReply status.1 status.2 := by
    intro taken
    induction taken with
    | nil => rfl
    | cons status taken ih =>
        have reply := standbyReply?_statusFrame status.1 status.2
        simp only [List.map_cons, List.filterMap_cons, reply, ih]
  have read := readFrames_take sized count
  rw [← List.map_take, ← List.map_take] at read
  rw [heard, frames, read, replies, List.map_take]

end PgCapture.Postgres

namespace PgCapture

open Data Postgres

/-- What the loop waits for, while the socket takes every write: a message of the
    server with what the outside answers on the way, or something else. -/
inductive Moment where
  | message (sent : StreamMessage) (outcomes : Outcomes) (reported : outcomes.standbyStatus = .ok ())
  | timeout
  | shutdown (now : Int) (save : Except Error Unit)

namespace Moment

def input (debugText : String → String) : Moment → Input
  | message sent outcomes _ => .socket (recvCopybothMessage debugText (.ok ()) sent.message) outcomes
  | timeout => .timeout
  | shutdown now save => .shutdown now save

/-- The position that the server hears back. -/
def echoed? : Moment → Option UInt64
  | message sent _ _ => (sent.payload?.map ReplicationMessage.walEnd).or sent.asked?
  | _ => none

end Moment

/-- The frames of the positions that a run reports; `stamps` is the clock. -/
def statusFrames (stamps : Nat → Int64) (taken : List (Nat × Action)) : Bytes :=
  (reportedIn taken).zipIdx.flatMap fun report => standbyStatusFrame report.1 (stamps report.2)

def Input.report : Input → Option UInt64
  | .socket (.replied walEnd) _ => some walEnd
  | .socket (.returned message) { standbyStatus := .ok (), .. } => some message.walEnd
  | _ => none

theorem report_eq (turn : Turn D) : report turn = turn.input.report := by
  obtain ⟨number, state, input⟩ := turn
  cases input with
  | shutdown now save => rfl
  | timeout => rfl
  | socket received outcomes =>
      obtain ⟨clock, standbyStatus, topic, send, due, now, save⟩ := outcomes
      cases received <;> cases standbyStatus <;> rfl

theorem Moment.report_input (debugText : String → String) (moment : Moment) :
    (moment.input debugText).report = moment.echoed? := by
  cases moment with
  | timeout => rfl
  | shutdown now save => rfl
  | message sent outcomes reported =>
      obtain ⟨clock, standbyStatus, topic, send, due, now, save⟩ := outcomes
      obtain rfl : standbyStatus = .ok () := reported
      rw [input, echoed?, StreamMessage.recvCopybothMessage_eq]
      cases payload : sent.payload? with
      | some message => rfl
      | none =>
          cases asked : sent.asked? with
          | some walEnd => rfl
          | none => cases failure : sent.failure? debugText <;> rfl

section Loop

variable (debugText : String → String) (config : Config) (decoder : Decoder D) (state : LoopState D)
  (moments : List Moment)

/-- The moments up to the loop's exit. -/
def lived : List Moment :=
  moments.take (turns config decoder state (moments.map (Moment.input debugText))).length

theorem reportedIn_trace :
    reportedIn (trace config decoder state (moments.map (Moment.input debugText))) =
      (lived debugText config decoder state moments).filterMap Moment.echoed? := by
  let steps := turns config decoder state (moments.map (Moment.input debugText))
  have inputs : steps.map Executed.input = (moments.take steps.length).map (Moment.input debugText) := by
    have front := executedFrom_inputs (receive config decoder) 0 state
      (moments.map (Moment.input debugText))
    refine (List.prefix_iff_eq_take.mp front).trans ?_
    rw [List.length_map, List.map_take]
    rfl
  have reported : reportedIn (trace config decoder state (moments.map (Moment.input debugText))) =
      steps.filterMap fun step => step.input.report :=
    traceOf_filterMap _ fun step _ => by
      rw [loop_reported config decoder step, report_eq]
  have echoed : (fun step : Turn D => step.input.report) = Input.report ∘ Executed.input := rfl
  rw [reported, echoed, ← List.filterMap_map, inputs, List.filterMap_map]
  exact List.filterMap_congr fun moment _ => moment.report_input debugText

end Loop

end PgCapture
