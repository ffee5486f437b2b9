import PgCapture.Postgres.Reader
import PgCapture.Error
import Mathlib.Logic.Function.Iterate

namespace PgCapture.Postgres.WholeStream

open PgCapture.Data

/-! # Frames of a whole stream

`read_message` when no caller drops it.  The stream is all the server ever
sends; `parse` stands for the protocol library's parser.  The body's size is the
length field less four: below four the subtraction panics in a build with
`overflowChecks`, and wraps around in one without.
-/

/-- Take exactly `count` bytes, unless the stream ends before. -/
def readExact (count : Nat) (stream : Bytes) : Option (Bytes × Bytes) :=
  if count ≤ stream.length then some (stream.take count, stream.drop count) else none

def subtract (overflowChecks : Bool) (left right : UInt32) : Option UInt32 :=
  if overflowChecks ∧ left < right then none else some (left - right)

/-- A call, with the size of its body buffer and what it hands to the parser, as
far as it gets. -/
structure ReadCall (μ : Type) where
  bodySize : Option Nat
  parsed : Option Bytes
  result : Outcome Error μ
  rest : Bytes

section ReadMessage

variable (overflowChecks : Bool) (parse : Bytes → Except String (Option μ))

def parseMessage (fullMessage : Bytes) : Outcome Error μ :=
  match parse fullMessage with
  | .error reason => .err (.protocol ("Failed to parse message: " ++ reason))
  | .ok none => .err (.protocol "Incomplete message")
  | .ok (some message) => .ok message

def readMessage (stream : Bytes) : ReadCall μ :=
  match readExact 5 stream with
  | none => { bodySize := none, parsed := none, result := .err (.io "early eof"), rest := [] }
  | some (lengthBuf, afterHeader) =>
      let tag := lengthBuf.headD 0
      let length := UInt32.ofNat (bigEndian (lengthBuf.drop 1))
      match subtract overflowChecks length 4 with
      | none => { bodySize := none, parsed := none, result := .panic, rest := afterHeader }
      | some size =>
          match readExact size.toNat afterHeader with
          | none =>
              { bodySize := some size.toNat, parsed := none
                result := .err (.io "early eof"), rest := [] }
          | some (body, rest) =>
              let fullMessage := tag :: (putU32 length ++ body)
              { bodySize := some size.toNat, parsed := some fullMessage
                result := parseMessage parse fullMessage, rest }

/-- What is left to read after a number of calls. -/
def streamAfter (count : Nat) (stream : Bytes) : Bytes :=
  (fun stream => (readMessage overflowChecks parse stream).rest)^[count] stream

/-- The call after `count` others. -/
def call (stream : Bytes) (count : Nat) : ReadCall μ :=
  readMessage overflowChecks parse (streamAfter overflowChecks parse count stream)

end ReadMessage

def lengthField (stream : Bytes) : Nat := bigEndian ((stream.drop 1).take 4)

/-- A call whose subtraction is exact, and which fails or takes one frame. -/
structure Exact (stream : Bytes) (call : ReadCall μ) : Prop where
  size : 5 ≤ stream.length → ∃ size, call.bodySize = some size ∧ size + 4 = lengthField stream
  frame : match call.result with
    | .ok _ => 1 + lengthField stream ≤ stream.length ∧
        call.parsed = some (stream.take (1 + lengthField stream)) ∧
        call.rest = stream.drop (1 + lengthField stream)
    | .err _ => True
    | .panic => False

/-- Every call on the stream is exact, and a stream of frames is read frame by frame. -/
structure Framed (overflowChecks : Bool) (parse : Bytes → Except String (Option μ))
    (stream : Bytes) : Prop where
  exact : ∀ count, Exact (streamAfter overflowChecks parse count stream)
    (call overflowChecks parse stream count)
  inOrder : ∀ frames : List WireFrame, stream = encodeAll (frames.map WireFrame.toFrame) →
    ∀ count frame, frames[count]? = some frame →
      (call overflowChecks parse stream count).parsed = some frame.encode ∧
        (call overflowChecks parse stream count).result = parseMessage parse frame.encode

/-- Where the next frame starts, by the length field of this one. -/
def afterFrame (stream : Bytes) : Bytes :=
  if stream.length < 5 then [] else stream.drop (1 + lengthField stream)

theorem lengthField_lt (stream : Bytes) : lengthField stream < 2 ^ 32 := by
  have bound := bigEndian_lt ((stream.drop 1).take 4)
  have width : ((stream.drop 1).take 4).length ≤ 4 := List.length_take_le 4 _
  exact Nat.lt_of_lt_of_le bound (Nat.pow_le_pow_right (by decide) width)

theorem lengthField_encode (frame : WireFrame) (rest : Bytes) :
    lengthField (frame.encode ++ rest) = frame.body.length + 4 := by
  rw [lengthField]
  exact ReplicationStream.lengthBytes_encode frame rest

theorem subtract_exact (overflowChecks : Bool) {length : Nat} (enough : 4 ≤ length)
    (fits : length < 2 ^ 32) :
    ∃ size, subtract overflowChecks (UInt32.ofNat length) 4 = some size ∧ size.toNat = length - 4 := by
  have value : (UInt32.ofNat length).toNat = length := UInt32.toNat_ofNat_of_lt' fits
  have noBorrow : ¬ UInt32.ofNat length < 4 := by
    rw [UInt32.lt_iff_toNat_lt, value]
    exact Nat.not_lt.mpr enough
  refine ⟨UInt32.ofNat length - 4, ?_, ?_⟩
  · rw [subtract, if_neg (fun both => noBorrow both.2)]
  · rw [UInt32.toNat_sub_of_le _ _ (UInt32.not_lt.mp noBorrow), value]
    rfl

section Calls

variable (overflowChecks : Bool) (parse : Bytes → Except String (Option μ))

theorem readMessage_of_short {stream : Bytes} (short : stream.length < 5) :
    readMessage overflowChecks parse stream =
      { bodySize := none, parsed := none, result := .err (.io "early eof"), rest := [] } := by
  rw [readMessage, readExact, if_neg (Nat.not_le.mpr short)]

/-- A header as it is read back: the tag and the four bytes of the length. -/
theorem header_of_le {stream : Bytes} (header : 5 ≤ stream.length) :
    ∃ tag length rest, stream = tag :: (length ++ rest) ∧ length.length = 4 ∧
      lengthField stream = bigEndian length := by
  cases stream with
  | nil => cases header
  | cons tag stream =>
      have enough : 4 ≤ stream.length := Nat.le_of_succ_le_succ header
      refine ⟨tag, stream.take 4, stream.drop 4, ?_, List.length_take_of_le enough, rfl⟩
      rw [List.take_append_drop]

theorem readMessage_of_header {tag : UInt8} {length rest : Bytes} (width : length.length = 4) :
    readMessage overflowChecks parse (tag :: (length ++ rest)) =
      match subtract overflowChecks (UInt32.ofNat (bigEndian length)) 4 with
      | none => { bodySize := none, parsed := none, result := .panic, rest }
      | some size =>
          match readExact size.toNat rest with
          | none =>
              { bodySize := some size.toNat, parsed := none
                result := .err (.io "early eof"), rest := [] }
          | some (body, rest) =>
              { bodySize := some size.toNat, parsed := some (tag :: (length ++ body))
                result := parseMessage parse (tag :: (length ++ body)), rest } := by
  have header : 5 ≤ (tag :: (length ++ rest)).length := by
    rw [List.length_cons, List.length_append]
    omega
  have taken : (tag :: (length ++ rest)).take 5 = tag :: length := by
    rw [List.take_succ_cons, List.take_left' width]
  have left : (tag :: (length ++ rest)).drop 5 = rest := by
    rw [List.drop_succ_cons, List.drop_left' width]
  have fits : bigEndian length < 2 ^ 32 := by
    have bound := bigEndian_lt length
    rwa [width] at bound
  have printed : putU32 (UInt32.ofNat (bigEndian length)) = length := by
    rw [putU32, UInt32.toNat_ofNat_of_lt' fits, ← width, toBigEndian_bigEndian]
  rw [readMessage, readExact, if_pos header, taken, left]
  simp only [List.headD_cons, List.drop_succ_cons, List.drop_zero, printed]

theorem readMessage_of_length {stream : Bytes} (header : 5 ≤ stream.length)
    (enough : 4 ≤ lengthField stream) :
    readMessage overflowChecks parse stream =
      if 1 + lengthField stream ≤ stream.length then
        { bodySize := some (lengthField stream - 4)
          parsed := some (stream.take (1 + lengthField stream))
          result := parseMessage parse (stream.take (1 + lengthField stream))
          rest := stream.drop (1 + lengthField stream) }
      else
        { bodySize := some (lengthField stream - 4), parsed := none
          result := .err (.io "early eof"), rest := [] } := by
  obtain ⟨size, subtracted, value⟩ := subtract_exact overflowChecks enough (lengthField_lt stream)
  obtain ⟨tag, length, rest, rfl, width, field⟩ := header_of_le header
  have whole : 1 + lengthField (tag :: (length ++ rest)) = length.length + size.toNat + 1 := by omega
  have front : (tag :: (length ++ rest)).take (length.length + size.toNat + 1) =
      tag :: (length ++ rest.take size.toNat) := by
    rw [List.take_succ_cons, List.take_append, List.take_of_length_le (Nat.le_add_right _ _),
      Nat.add_sub_cancel_left]
  have tail : (tag :: (length ++ rest)).drop (length.length + size.toNat + 1) =
      rest.drop size.toNat := by
    rw [List.drop_succ_cons, List.drop_append, List.drop_eq_nil_of_le (Nat.le_add_right _ _),
      Nat.add_sub_cancel_left, List.nil_append]
  have inside : length.length + size.toNat + 1 ≤ (tag :: (length ++ rest)).length ↔
      size.toNat ≤ rest.length := by
    rw [List.length_cons, List.length_append]
    omega
  rw [field] at subtracted
  rw [readMessage_of_header overflowChecks parse width, subtracted, whole, ← value, front, tail]
  simp only [readExact, inside]
  by_cases complete : size.toNat ≤ rest.length
  · simp only [if_pos complete]
  · simp only [if_neg complete]

theorem parseMessage_ne_panic (fullMessage : Bytes) : parseMessage parse fullMessage ≠ .panic := by
  rw [parseMessage]
  split <;> simp

/-- With a length field of at least four a call does what the framing asks. -/
theorem readMessage_exact {stream : Bytes} (fits : 5 ≤ stream.length → 4 ≤ lengthField stream) :
    Exact stream (readMessage overflowChecks parse stream) ∧
      (readMessage overflowChecks parse stream).rest = afterFrame stream := by
  by_cases header : 5 ≤ stream.length
  · have enough := fits header
    have next : afterFrame stream = stream.drop (1 + lengthField stream) :=
      if_neg (Nat.not_lt.mpr header)
    rw [readMessage_of_length overflowChecks parse header enough, next]
    by_cases complete : 1 + lengthField stream ≤ stream.length
    · rw [if_pos complete]
      refine ⟨⟨fun _ => ⟨_, rfl, Nat.sub_add_cancel enough⟩, ?_⟩, rfl⟩
      cases answer : parseMessage parse (stream.take (1 + lengthField stream)) with
      | ok message => exact ⟨complete, rfl, rfl⟩
      | err reason => trivial
      | panic => exact absurd answer (parseMessage_ne_panic parse _)
    · rw [if_neg complete, List.drop_eq_nil_of_le (Nat.le_of_not_le complete)]
      exact ⟨⟨fun _ => ⟨_, rfl, Nat.sub_add_cancel enough⟩, trivial⟩, rfl⟩
  · have short := Nat.not_le.mp header
    rw [readMessage_of_short overflowChecks parse short, afterFrame, if_pos short]
    exact ⟨⟨fun long => absurd long header, trivial⟩, rfl⟩

theorem streamAfter_succ (count : Nat) (stream : Bytes) :
    streamAfter overflowChecks parse (count + 1) stream =
      (call overflowChecks parse stream count).rest :=
  Function.iterate_succ_apply' _ _ _

theorem streamAfter_eq {stream : Bytes}
    (lengths : ∀ count, 5 ≤ (afterFrame^[count] stream).length →
      4 ≤ lengthField (afterFrame^[count] stream)) (count : Nat) :
    streamAfter overflowChecks parse count stream = afterFrame^[count] stream := by
  induction count with
  | zero => rfl
  | succ count ih =>
      have exact := (readMessage_exact overflowChecks parse (lengths count)).2
      rw [streamAfter_succ, call, ih, exact, Function.iterate_succ_apply']

theorem lengths_of_framed {stream : Bytes} (framed : Framed overflowChecks parse stream)
    (count : Nat) :
    streamAfter overflowChecks parse count stream = afterFrame^[count] stream ∧
      (5 ≤ (afterFrame^[count] stream).length → 4 ≤ lengthField (afterFrame^[count] stream)) := by
  have field : ∀ count, 5 ≤ (streamAfter overflowChecks parse count stream).length →
      4 ≤ lengthField (streamAfter overflowChecks parse count stream) := by
    intro count header
    obtain ⟨size, _, whole⟩ := (framed.exact count).size header
    omega
  induction count with
  | zero => exact ⟨rfl, field 0⟩
  | succ count ih =>
      have exact := (readMessage_exact overflowChecks parse ih.2).2
      have same : streamAfter overflowChecks parse (count + 1) stream = afterFrame^[count + 1] stream := by
        rw [streamAfter_succ, call, ih.1, exact, Function.iterate_succ_apply']
      exact ⟨same, same ▸ field (count + 1)⟩

/-- On a stream of frames the length fields lead from one frame to the next. -/
theorem afterFrame_encodeAll (frames : List WireFrame) (count : Nat) :
    afterFrame^[count] (encodeAll (frames.map WireFrame.toFrame)) =
      encodeAll ((frames.drop count).map WireFrame.toFrame) := by
  induction count generalizing frames with
  | zero => rfl
  | succ count ih =>
      rw [Function.iterate_succ_apply]
      cases frames with
      | nil =>
          have ended : afterFrame (encodeAll []) = encodeAll [] := rfl
          rw [List.map_nil, ended, List.drop_nil]
          exact (ih []).trans (by rw [List.drop_nil])
      | cons frame frames =>
          have length : ¬ (encodeAll ((frame :: frames).map WireFrame.toFrame)).length < 5 := by
            simp only [encodeAll, List.map_cons, List.flatMap_cons, List.length_append,
              Frame.encode_length]
            omega
          have next : afterFrame (encodeAll ((frame :: frames).map WireFrame.toFrame)) =
              encodeAll (frames.map WireFrame.toFrame) := by
            rw [afterFrame, if_neg length]
            simp only [encodeAll, List.map_cons, List.flatMap_cons]
            rw [lengthField_encode]
            apply List.drop_left'
            rw [Frame.encode_length]
            omega
          rw [next, List.drop_succ_cons]
          exact ih frames

theorem lengths_encodeAll (frames : List WireFrame) (count : Nat) :
    5 ≤ (afterFrame^[count] (encodeAll (frames.map WireFrame.toFrame))).length →
      4 ≤ lengthField (afterFrame^[count] (encodeAll (frames.map WireFrame.toFrame))) := by
  rw [afterFrame_encodeAll]
  intro header
  cases left : frames.drop count with
  | nil =>
      rw [left] at header
      cases header
  | cons frame later =>
      simp only [encodeAll, List.map_cons, List.flatMap_cons]
      rw [lengthField_encode]
      exact Nat.le_add_left 4 _

/-- The call at a frame's place hands this frame to the parser. -/
theorem call_encodeAll {frames : List WireFrame} {count : Nat} {frame : WireFrame}
    (found : frames[count]? = some frame) :
    (call overflowChecks parse (encodeAll (frames.map WireFrame.toFrame)) count).parsed =
        some frame.encode ∧
      (call overflowChecks parse (encodeAll (frames.map WireFrame.toFrame)) count).result =
        parseMessage parse frame.encode := by
  have position := streamAfter_eq overflowChecks parse (lengths_encodeAll frames) count
  obtain ⟨inside, rfl⟩ := List.getElem?_eq_some_iff.mp found
  rw [afterFrame_encodeAll, List.drop_eq_getElem_cons inside] at position
  simp only [encodeAll, List.map_cons, List.flatMap_cons] at position
  have field := lengthField_encode frames[count]
    (((frames.drop (count + 1)).map WireFrame.toFrame).flatMap Frame.encode)
  have whole : 1 + (frames[count].body.length + 4) = frames[count].encode.length := by
    rw [Frame.encode_length]
    omega
  have front : (frames[count].encode ++
      ((frames.drop (count + 1)).map WireFrame.toFrame).flatMap Frame.encode).take
        (1 + (frames[count].body.length + 4)) = frames[count].encode :=
    List.take_left' whole.symm
  rw [call, encodeAll, position, readMessage_of_length, field, if_pos, front]
  · exact ⟨rfl, rfl⟩
  · rw [List.length_append]
    omega
  · rw [List.length_append]
    omega
  · rw [field]
    exact Nat.le_add_left 4 _

end Calls

/-- The framing is exact exactly when no frame announces less than the four
bytes of its own length field. -/
theorem framed_iff (overflowChecks : Bool) (parse : Bytes → Except String (Option μ))
    (stream : Bytes) :
    Framed overflowChecks parse stream ↔
      ∀ count, 5 ≤ (afterFrame^[count] stream).length →
        4 ≤ lengthField (afterFrame^[count] stream) := by
  constructor
  · intro framed count
    exact (lengths_of_framed overflowChecks parse framed count).2
  · intro lengths
    refine ⟨fun count => ?_, ?_⟩
    · rw [call, streamAfter_eq overflowChecks parse lengths]
      exact (readMessage_exact overflowChecks parse (lengths count)).1
    · rintro frames rfl count frame found
      exact call_encodeAll overflowChecks parse found

/-- A header that announces three bytes: the body would have `2 ^ 32 - 1`. -/
theorem threeBytes_not_framed :
    (readMessage true (fun _ => .ok (some ())) [0x5A, 0, 0, 0, 3]).result = .panic ∧
      (readMessage false (fun _ => .ok (some ())) [0x5A, 0, 0, 0, 3]).bodySize = some 4294967295 ∧
      ¬ Framed true (fun _ => .ok (some ())) [0x5A, 0, 0, 0, 3] ∧
      ¬ Framed false (fun _ => .ok (some ())) [0x5A, 0, 0, 0, 3] := by
  have unframed : ∀ overflowChecks,
      ¬ Framed overflowChecks (fun _ => .ok (some ())) [0x5A, 0, 0, 0, 3] := by
    intro overflowChecks framed
    have length := (lengths_of_framed overflowChecks _ framed 0).2 (by decide)
    exact absurd length (by decide)
  exact ⟨by decide, by decide, unframed true, unframed false⟩

end PgCapture.Postgres.WholeStream
