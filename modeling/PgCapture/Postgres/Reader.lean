import PgCapture.Data.Cursor
import Mathlib.Data.List.Induction

namespace PgCapture.Postgres

open PgCapture.Data

/-! # Reading frames from the socket

`read_message` fills a five-byte header and then a body of the announced
length.  Both buffers belong to the pending call: the caller may drop the call
whenever it waits, and what the call had taken is gone with it.
-/

/-- A backend message on the wire; the length field counts itself. -/
structure Frame where
  tag : UInt8
  body : Bytes
deriving DecidableEq, Repr

/-- A message the length field can announce. -/
structure WireFrame extends Frame where
  fits : body.length + 4 < 2 ^ 32

def Frame.encode (frame : Frame) : Bytes :=
  frame.tag :: putU32 (UInt32.ofNat (frame.body.length + 4)) ++ frame.body

def encodeAll (frames : List Frame) : Bytes := frames.flatMap Frame.encode

@[simp] theorem Frame.encode_length (frame : Frame) :
    frame.encode.length = 5 + frame.body.length := by
  simp only [Frame.encode, List.length_append, List.length_cons, putU32_length]

/-- The socket reader and the call that waits on it. -/
structure ReplicationStream where
  reader : Bytes
  taken : Bytes
deriving DecidableEq, Repr

namespace ReplicationStream

def new : ReplicationStream := { reader := [], taken := [] }

/-- Fill the buffers of the pending call up to `count` bytes, or as far as the
    reader has them. -/
def readExact (self : ReplicationStream) (count : Nat) : ReplicationStream :=
  { reader := self.reader.drop (count - self.taken.length)
    taken := self.taken ++ self.reader.take (count - self.taken.length) }

/-- `length - 4` of a complete header.  The subtraction wraps. -/
def bodyLength (header : Bytes) : Nat :=
  (UInt32.ofNat (bigEndian ((header.drop 1).take 4)) - 4).toNat

def readBody (self : ReplicationStream) : Option Frame × ReplicationStream :=
  let count := 5 + bodyLength self.taken
  let full := self.readExact count
  if full.taken.length < count then (none, full)
  else (some { tag := full.taken.headD 0, body := full.taken.drop 5 }, { full with taken := [] })

/-- One poll of the pending `read_message`: the message, if it is complete. -/
def readMessage (self : ReplicationStream) : Option Frame × ReplicationStream :=
  let header := self.readExact 5
  if header.taken.length < 5 then (none, header) else header.readBody

end ReplicationStream

/-- What happens around the reader: bytes arrive, the pending call is polled,
    or the caller's timeout drops it and calls again. -/
inductive ReaderEvent where
  | arrival (bytes : Bytes)
  | poll
  | timeout
deriving DecidableEq, Repr

def ReaderEvent.arrived : ReaderEvent → Bytes
  | .arrival bytes => bytes
  | _ => []

structure ReaderRun where
  stream : ReplicationStream
  returned : List Frame
  dropped : List Bytes
deriving DecidableEq, Repr

namespace ReaderRun

def start : ReaderRun := { stream := .new, returned := [], dropped := [] }

def step (run : ReaderRun) : ReaderEvent → ReaderRun
  | .arrival bytes =>
      { run with stream := { run.stream with reader := run.stream.reader ++ bytes } }
  | .poll =>
      match run.stream.readMessage with
      | (some frame, stream) => { run with stream, returned := run.returned ++ [frame] }
      | (none, stream) => { run with stream }
  | .timeout =>
      { run with
        stream := { run.stream with taken := [] }
        dropped := run.dropped ++ [run.stream.taken] }

def after (events : List ReaderEvent) : ReaderRun := events.foldl step start

end ReaderRun

namespace ReplicationStream

/-- The frame at the front of the bytes a call has taken and the reader still holds. -/
def splitFrame (bytes : Bytes) : Option (Frame × Bytes) :=
  if bytes.length < 5 + bodyLength bytes then none
  else some ({ tag := bytes.headD 0, body := (bytes.drop 5).take (bodyLength bytes) },
    bytes.drop (5 + bodyLength bytes))

def unread (self : ReplicationStream) : Bytes := self.taken ++ self.reader

/-- A call that still waits for bytes. -/
def Pending (self : ReplicationStream) : Prop :=
  self.taken.length < 5 + bodyLength self.taken

theorem pending_of_empty {self : ReplicationStream} (empty : self.taken = []) : self.Pending := by
  rw [Pending, empty]
  exact Nat.lt_of_lt_of_le (by decide) (Nat.le_add_right 5 _)

theorem bodyLength_take (bytes : Bytes) {count : Nat} (header : 5 ≤ count) :
    bodyLength (bytes.take count) = bodyLength bytes := by
  have first : ((bytes.take count).drop 1).take 4 = (bytes.drop 1).take 4 := by
    rw [List.drop_take, List.take_take]
    congr 1
    omega
  rw [bodyLength, bodyLength, first]

theorem readExact_taken (self : ReplicationStream) {count : Nat} (more : self.taken.length ≤ count) :
    (self.readExact count).taken = self.unread.take count := by
  rw [readExact, unread, List.take_append, List.take_of_length_le more]

theorem readExact_reader (self : ReplicationStream) {count : Nat} (more : self.taken.length ≤ count) :
    (self.readExact count).reader = self.unread.drop count := by
  rw [readExact, unread, List.drop_append, List.drop_of_length_le more, List.nil_append]

theorem readExact_unread (self : ReplicationStream) (count : Nat) :
    (self.readExact count).unread = self.unread := by
  simp only [readExact, unread, List.append_assoc, List.take_append_drop]

theorem readExact_of_le (self : ReplicationStream) {count : Nat} (enough : count ≤ self.taken.length) :
    self.readExact count = self := by
  have none : count - self.taken.length = 0 := by omega
  simp only [readExact, none, List.drop_zero, List.take_zero, List.append_nil]

theorem bodyLength_taken {self : ReplicationStream} (header : 5 ≤ self.taken.length) :
    bodyLength self.taken = bodyLength self.unread := by
  have front : self.unread.take self.taken.length = self.taken := List.take_left' rfl
  rw [← bodyLength_take self.unread header, front]

/-- What a poll of a call in state `self` comes to, read off the unread bytes. -/
def Polled (self : ReplicationStream) (result : Option Frame × ReplicationStream) : Prop :=
  match splitFrame self.unread with
  | some (frame, rest) => result = (some frame, { reader := rest, taken := [] })
  | none => result.1 = none ∧ result.2.unread = self.unread ∧ result.2.Pending

theorem readBody_polled {self : ReplicationStream} (header : 5 ≤ self.taken.length)
    (more : self.taken.length ≤ 5 + bodyLength self.taken) : self.Polled self.readBody := by
  have sameLength := bodyLength_taken header
  have taken := self.readExact_taken more
  have reader := self.readExact_reader more
  have unread := self.readExact_unread (5 + bodyLength self.taken)
  rw [Polled, splitFrame, readBody]
  by_cases short : self.unread.length < 5 + bodyLength self.unread
  · have takenShort : (self.readExact (5 + bodyLength self.taken)).taken.length <
        5 + bodyLength self.taken := by
      rw [taken, List.length_take]
      omega
    simp only [if_pos short, if_pos takenShort]
    refine ⟨trivial, unread, ?_⟩
    have front : 5 ≤ (self.readExact (5 + bodyLength self.taken)).taken.length := by
      rw [taken, List.length_take]
      have inside : self.taken.length ≤ self.unread.length := by
        simp only [ReplicationStream.unread, List.length_append]
        omega
      omega
    have kept := bodyLength_taken front
    rw [unread, ← sameLength] at kept
    rw [Pending, kept]
    exact takenShort
  · have takenLong : ¬ (self.readExact (5 + bodyLength self.taken)).taken.length <
        5 + bodyLength self.taken := by
      rw [taken, List.length_take]
      omega
    simp only [if_neg short, if_neg takenLong]
    rw [taken, reader, sameLength, List.drop_take]
    have first : (self.unread.take (5 + bodyLength self.unread)).headD 0 = self.unread.headD 0 := by
      cases self.unread with
      | nil => rfl
      | cons byte rest =>
          rw [Nat.add_comm, List.take_succ_cons]
          rfl
    have width : 5 + bodyLength self.unread - 5 = bodyLength self.unread := by omega
    rw [first, width]

theorem readMessage_polled {self : ReplicationStream} (pending : self.Pending) :
    self.Polled self.readMessage := by
  rw [readMessage]
  by_cases header : 5 ≤ self.taken.length
  · -- the header was complete before this poll
    have unchanged := self.readExact_of_le header
    rw [unchanged]
    simp only [Nat.not_lt.mpr header, if_false]
    exact readBody_polled header (Nat.le_of_lt pending)
  · have taken := self.readExact_taken (show self.taken.length ≤ 5 by omega)
    have unread := self.readExact_unread 5
    by_cases short : (self.readExact 5).taken.length < 5
    · simp only [if_pos short]
      have few : self.unread.length < 5 + bodyLength self.unread := by
        rw [taken, List.length_take] at short
        omega
      rw [Polled, splitFrame, if_pos few]
      refine ⟨rfl, unread, ?_⟩
      exact Nat.lt_of_lt_of_le short (Nat.le_add_right 5 _)
    · simp only [if_neg short]
      have full : (self.readExact 5).taken.length = 5 := by
        rw [taken, List.length_take] at short ⊢
        omega
      have polled := readBody_polled (show 5 ≤ (self.readExact 5).taken.length by omega) (by omega)
      rw [Polled, unread] at polled
      exact polled

/-- The length field counts itself and the body. -/
theorem lengthBytes_encode (frame : WireFrame) (rest : Bytes) :
    bigEndian (((frame.encode ++ rest).drop 1).take 4) = frame.body.length + 4 := by
  have field : ((frame.encode ++ rest).drop 1).take 4 =
      putU32 (UInt32.ofNat (frame.body.length + 4)) := by
    simp only [Frame.encode, List.cons_append, List.drop_succ_cons, List.drop_zero, List.append_assoc]
    exact List.take_left' (putU32_length _)
  rw [field, putU32, bigEndian_toBigEndian (UInt32.toNat_lt _), UInt32.toNat_ofNat_of_lt' frame.fits]

theorem bodyLength_encode (frame : WireFrame) (rest : Bytes) :
    bodyLength (frame.encode ++ rest) = frame.body.length := by
  have value : (UInt32.ofNat (frame.body.length + 4)).toNat = frame.body.length + 4 :=
    UInt32.toNat_ofNat_of_lt' frame.fits
  rw [bodyLength, lengthBytes_encode, UInt32.toNat_sub_of_le, value]
  · rfl
  · rw [UInt32.le_iff_toNat_le, value]
    exact Nat.le_add_left 4 _

theorem splitFrame_encode (frame : WireFrame) (rest : Bytes) :
    splitFrame (frame.encode ++ rest) = some (frame.toFrame, rest) := by
  have header : (frame.tag :: putU32 (UInt32.ofNat (frame.body.length + 4))).length = 5 := by simp
  have shape : frame.encode ++ rest =
      (frame.tag :: putU32 (UInt32.ofNat (frame.body.length + 4))) ++ (frame.body ++ rest) := by
    simp only [Frame.encode, List.append_assoc]
  have whole : frame.encode.length = 5 + frame.body.length := Frame.encode_length _
  have enough : ¬ (frame.encode ++ rest).length < 5 + frame.body.length := by
    rw [List.length_append, whole]
    omega
  have body : ((frame.encode ++ rest).drop 5).take frame.body.length = frame.body := by
    rw [shape, List.drop_left' header]
    exact List.take_left' rfl
  rw [splitFrame, bodyLength_encode, if_neg enough, body, List.drop_left' whole]
  rfl

theorem splitFrame_of_stream {bytes future : Bytes} {frames : List WireFrame}
    (stream : bytes ++ future = encodeAll (frames.map WireFrame.toFrame)) :
    match splitFrame bytes with
    | some (frame, rest) => ∃ next later, frames = next :: later ∧ frame = next.toFrame ∧
        rest ++ future = encodeAll (later.map WireFrame.toFrame)
    | none => future = [] → frames = [] := by
  cases frames with
  | nil =>
      have empty : bytes = [] := (List.append_eq_nil_iff.mp stream).1
      subst empty
      have none : splitFrame [] = none := if_pos (Nat.lt_of_lt_of_le (by decide) (Nat.le_add_right 5 _))
      simp only [none, implies_true]
  | cons next later =>
      have whole : next.encode.length = 5 + next.body.length := Frame.encode_length _
      simp only [encodeAll, List.map_cons, List.flatMap_cons] at stream
      by_cases complete : next.encode.length ≤ bytes.length
      · have front : bytes.take next.encode.length = next.encode := by
          have taken := congrArg (List.take next.encode.length) stream
          rw [List.take_append_of_le_length complete, List.take_left' rfl] at taken
          exact taken
        have shape : bytes = next.encode ++ bytes.drop next.encode.length := by
          calc bytes = bytes.take next.encode.length ++ bytes.drop next.encode.length :=
                (List.take_append_drop _ _).symm
            _ = next.encode ++ bytes.drop next.encode.length := by rw [front]
        rw [shape, List.append_assoc] at stream
        rw [shape, splitFrame_encode]
        exact ⟨next, later, rfl, rfl, List.append_cancel_left stream⟩
      · have none : splitFrame bytes = none := by
          rw [splitFrame, if_pos]
          by_cases header : 5 ≤ bytes.length
          · have same : bodyLength bytes = next.body.length := by
              have front : (bytes ++ future).take bytes.length = bytes := List.take_left' rfl
              rw [← front, bodyLength_take _ header, stream, bodyLength_encode]
            omega
          · omega
        simp only [none]
        intro same
        subst same
        have length := congrArg List.length stream
        simp only [List.append_nil, List.length_append] at length
        omega

theorem splitFrame_length {bytes rest : Bytes} {frame : Frame}
    (split : splitFrame bytes = some (frame, rest)) :
    frame.encode.length + rest.length = bytes.length := by
  rw [splitFrame] at split
  split at split
  · contradiction
  · cases split
    simp only [Frame.encode_length, List.length_take, List.length_drop]
    omega

end ReplicationStream

namespace ReaderRun

theorem after_append (events : List ReaderEvent) (event : ReaderEvent) :
    after (events ++ [event]) = (after events).step event := by
  simp only [after, List.foldl_append, List.foldl_cons, List.foldl_nil]

/-- A poll waits on, or returns the front frame of the unread bytes. -/
theorem step_poll {run : ReaderRun} (pending : run.stream.Pending) :
    (∃ stream, run.step .poll = { run with stream } ∧ stream.unread = run.stream.unread ∧
      stream.Pending ∧ ReplicationStream.splitFrame run.stream.unread = none) ∨
    (∃ frame rest, ReplicationStream.splitFrame run.stream.unread = some (frame, rest) ∧
      run.step .poll = { run with
        stream := { reader := rest, taken := [] }
        returned := run.returned ++ [frame] }) := by
  have polled := ReplicationStream.readMessage_polled pending
  rw [ReplicationStream.Polled] at polled
  cases split : ReplicationStream.splitFrame run.stream.unread with
  | none =>
      simp only [split] at polled
      obtain ⟨waiting, unread, nextPending⟩ := polled
      cases result : run.stream.readMessage with
      | mk frame next =>
          rw [result] at waiting unread nextPending
          cases waiting
          exact Or.inl ⟨next, by simp only [step, result], unread, nextPending, rfl⟩
  | some found =>
      obtain ⟨frame, rest⟩ := found
      simp only [split] at polled
      exact Or.inr ⟨frame, rest, rfl, by simp only [step, polled]⟩

theorem after_pending (events : List ReaderEvent) : (after events).stream.Pending := by
  induction events using List.reverseRecOn with
  | nil => exact ReplicationStream.pending_of_empty rfl
  | append_singleton events event pending =>
      rw [after_append]
      cases event with
      | arrival bytes => exact pending
      | timeout => exact ReplicationStream.pending_of_empty rfl
      | poll =>
          rcases step_poll pending with ⟨stream, stepped, _, nextPending, _⟩ | ⟨frame, rest, _, stepped⟩
          · rw [stepped]
            exact nextPending
          · rw [stepped]
            exact ReplicationStream.pending_of_empty rfl

/-- Every byte that arrived is in a returned frame, thrown away, or unread. -/
theorem after_bytes (events : List ReaderEvent) :
    (encodeAll (after events).returned).length + (after events).dropped.flatten.length +
      (after events).stream.unread.length = (events.flatMap ReaderEvent.arrived).length := by
  induction events using List.reverseRecOn with
  | nil => rfl
  | append_singleton events event conserved =>
      rw [after_append, List.flatMap_append, List.length_append, ← conserved]
      cases event with
      | arrival bytes =>
          simp only [step, ReplicationStream.unread, ReaderEvent.arrived, List.length_append,
            List.flatMap_cons, List.flatMap_nil, List.append_nil]
          omega
      | timeout =>
          simp only [step, ReplicationStream.unread, ReaderEvent.arrived, List.length_append,
            List.flatMap_cons, List.flatMap_nil, List.append_nil, List.flatten_append,
            List.flatten_cons, List.flatten_nil, List.length_nil, List.nil_append]
          omega
      | poll =>
          rcases step_poll (after_pending events) with
            ⟨stream, stepped, unread, _, _⟩ | ⟨frame, rest, split, stepped⟩
          · simp only [stepped, unread, ReaderEvent.arrived, List.flatMap_cons, List.flatMap_nil,
              List.append_nil, List.length_nil, Nat.add_zero]
          · have taken := ReplicationStream.splitFrame_length split
            simp only [stepped, encodeAll, List.flatMap_append, List.flatMap_cons, List.flatMap_nil,
              List.append_nil, List.length_append, ReaderEvent.arrived, List.length_nil] at taken ⊢
            have left : ({ reader := rest, taken := [] } : ReplicationStream).unread = rest := rfl
            rw [left]
            omega

/-- The run is in step with a stream: the frames it has returned are the first
    ones, and the unread bytes with those still to arrive are the others. -/
def InStep (frames : List WireFrame) (future : Bytes) (run : ReaderRun) : Prop :=
  ∃ read later, frames = read ++ later ∧ run.returned = read.map WireFrame.toFrame ∧
    run.stream.unread ++ future = encodeAll (later.map WireFrame.toFrame)

theorem step_inStep {frames : List WireFrame} {future : Bytes} {run : ReaderRun} {event : ReaderEvent}
    (pending : run.stream.Pending) (inStep : run.InStep frames (event.arrived ++ future))
    (clean : event = .timeout → run.stream.taken = []) : (run.step event).InStep frames future := by
  obtain ⟨read, later, same, returned, unread⟩ := inStep
  cases event with
  | arrival bytes =>
      refine ⟨read, later, same, returned, ?_⟩
      simp only [step, ReplicationStream.unread, ReaderEvent.arrived, List.append_assoc] at unread ⊢
      exact unread
  | timeout =>
      refine ⟨read, later, same, returned, ?_⟩
      have empty := clean rfl
      simp only [step, ReplicationStream.unread, ReaderEvent.arrived, empty, List.nil_append] at unread ⊢
      exact unread
  | poll =>
      simp only [ReaderEvent.arrived, List.nil_append] at unread
      rcases step_poll pending with ⟨stream, stepped, kept, _, _⟩ | ⟨frame, rest, split, stepped⟩
      · rw [stepped]
        refine ⟨read, later, same, returned, ?_⟩
        rw [kept]
        exact unread
      · have front := ReplicationStream.splitFrame_of_stream unread
        simp only [split] at front
        obtain ⟨next, others, shape, rfl, tail⟩ := front
        rw [stepped]
        refine ⟨read ++ [next], others, ?_, ?_, tail⟩
        · rw [same, shape, List.append_assoc, List.singleton_append]
        · simp only [returned, List.map_append, List.map_cons, List.map_nil]

theorem step_dropped_grows (run : ReaderRun) (event : ReaderEvent) :
    run.dropped <+: (run.step event).dropped := by
  cases event with
  | arrival bytes => exact List.prefix_rfl
  | timeout => exact List.prefix_append _ _
  | poll =>
      simp only [step]
      split <;> exact List.prefix_rfl

theorem after_inStep {frames : List WireFrame} {future : Bytes} {events : List ReaderEvent}
    (stream : events.flatMap ReaderEvent.arrived ++ future =
      encodeAll (frames.map WireFrame.toFrame))
    (clean : ∀ bytes ∈ (after events).dropped, bytes = []) : (after events).InStep frames future := by
  induction events using List.reverseRecOn generalizing future with
  | nil => exact ⟨[], frames, rfl, rfl, stream⟩
  | append_singleton events event ih =>
      rw [after_append] at clean ⊢
      simp only [List.flatMap_append, List.flatMap_cons, List.flatMap_nil, List.append_nil,
        List.append_assoc] at stream
      have before := ih stream
        (fun bytes member => clean bytes ((step_dropped_grows _ event).subset member))
      apply step_inStep (after_pending events) before
      intro same
      subst same
      exact clean _ (List.mem_append_right _ List.mem_cons_self)

/-- The calls return the frames of the stream exactly when no timeout catches a
    call that has taken bytes. -/
theorem frames_returned_iff {frames : List WireFrame} {events : List ReaderEvent}
    (stream : events.flatMap ReaderEvent.arrived = encodeAll (frames.map WireFrame.toFrame))
    (finished : (after events).stream.readMessage.1 = none) :
    (after events).returned = frames.map WireFrame.toFrame ↔
      ∀ bytes ∈ (after events).dropped, bytes = [] := by
  constructor
  · intro returned bytes member
    have conserved := after_bytes events
    rw [returned, stream] at conserved
    have nothing : (after events).dropped.flatten.length = 0 := by omega
    have empty := List.eq_nil_of_length_eq_zero nothing
    exact List.flatten_eq_nil_iff.mp empty bytes member
  · intro clean
    have whole : events.flatMap ReaderEvent.arrived ++ [] =
        encodeAll (frames.map WireFrame.toFrame) := by rw [List.append_nil, stream]
    obtain ⟨read, later, same, returned, unread⟩ := after_inStep whole clean
    have front := ReplicationStream.splitFrame_of_stream unread
    have polled := ReplicationStream.readMessage_polled (after_pending events)
    rw [ReplicationStream.Polled] at polled
    cases split : ReplicationStream.splitFrame (after events).stream.unread with
    | none =>
        simp only [split] at front
        rw [same, front trivial, List.append_nil, returned]
    | some found =>
        simp only [split] at polled
        rw [polled] at finished
        contradiction

/-- Five bytes of a six-byte message, a timeout, and the last byte. -/
def cutAtHeader : List ReaderEvent :=
  [.arrival [0x64, 0, 0, 0, 5], .poll, .timeout, .arrival [0x6B], .poll]

theorem frame_lost_at_timeout :
    cutAtHeader.flatMap ReaderEvent.arrived = encodeAll [{ tag := 0x64, body := [0x6B] }] ∧
      (after cutAtHeader).stream.readMessage.1 = none ∧
      (after cutAtHeader).returned ≠ [{ tag := 0x64, body := [0x6B] }] := by
  decide

theorem frames_returned_cut_between :
    (after [.arrival [0x64, 0, 0, 0], .arrival [5, 0x6B], .poll, .timeout, .poll]).returned =
      [{ tag := 0x64, body := [0x6B] }] := by
  have stream : [.arrival [0x64, 0, 0, 0], .arrival [5, 0x6B], .poll, .timeout, .poll].flatMap
      ReaderEvent.arrived =
        encodeAll ([⟨{ tag := 0x64, body := [0x6B] }, by decide⟩].map WireFrame.toFrame) := by decide
  apply (frames_returned_iff stream (by decide)).mpr
  decide

end ReaderRun

end PgCapture.Postgres
