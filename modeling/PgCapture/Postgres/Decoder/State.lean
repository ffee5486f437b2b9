import PgCapture.Postgres.Decoder

namespace PgCapture.Postgres

open PgCapture.Data Cursor

/-! # What one message does to the decoder

The three mutable fields are written by different handlers: the header writes
the position before the body is looked at, BEGIN writes the transaction and
RELATION the table of relations.  Each field after a call is therefore a
function of the message and of the same field before it.

The position is the one field a rejected message can change.  It is overwritten
by the next header before anything reads it, so two decoders that differ only
there answer every feed alike.
-/

/-- What a handler reads behind the header and its own message type. -/
def readBehind (msgType : UInt8) (handler : Cursor Error α) (data : Bytes) : Option α :=
  match xLogData? data with
  | some (_, first :: cursor) => if first = msgType then (handler.run cursor).toOption else none
  | _ => none

def relation? (data : Bytes) : Option RelationInfo :=
  readBehind Tag.relation relationInfo data

def beginXid? (data : Bytes) : Option UInt32 :=
  readBehind Tag.begin PgOutputDecoder.beginXid data

def PgOutputDecoder.advance (self : PgOutputDecoder) (data : Bytes) : PgOutputDecoder :=
  { relations := match relation? data with
      | some relation => Function.update self.relations relation.id (some relation)
      | none => self.relations
    currentLsn := match xLogData? data with
      | some (endLsn, _) => some (formatLsn endLsn)
      | none => self.currentLsn
    currentXid := match beginXid? data with
      | some xid => some xid
      | none => self.currentXid
    databaseName := self.databaseName }

theorem readBehind_none {data : Bytes} (headless : xLogData? data = none)
    (msgType : UInt8) (handler : Cursor Error α) : readBehind msgType handler data = none := by
  simp only [readBehind, headless]

theorem readBehind_nil {data : Bytes} {endLsn : UInt64} (headed : xLogData? data = some (endLsn, []))
    (msgType : UInt8) (handler : Cursor Error α) : readBehind msgType handler data = none := by
  simp only [readBehind, headed]

theorem readBehind_cons {data cursor : Bytes} {endLsn : UInt64} {first : UInt8}
    (headed : xLogData? data = some (endLsn, first :: cursor))
    (msgType : UInt8) (handler : Cursor Error α) :
    readBehind msgType handler data =
      if first = msgType then (handler.run cursor).toOption else none := by
  simp only [readBehind, headed]

theorem readBehind_some {msgType : UInt8} {handler : Cursor Error α} {data : Bytes} {value : α}
    (read : readBehind msgType handler data = some value) :
    ∃ endLsn cursor, xLogData? data = some (endLsn, msgType :: cursor) ∧
      handler.run cursor = .ok value := by
  cases headed : xLogData? data with
  | none =>
      rw [readBehind_none headed] at read
      contradiction
  | some header =>
      obtain ⟨endLsn, body⟩ := header
      cases body with
      | nil =>
          rw [readBehind_nil headed] at read
          contradiction
      | cons first cursor =>
          rw [readBehind_cons headed] at read
          split at read
          · rename_i same
            subst first
            exact ⟨endLsn, cursor, rfl, Outcome.toOption_eq_some.mp read⟩
          · contradiction

variable (crates : Crates)

theorem decode_state (self : PgOutputDecoder) (clock : Clock) (data : Bytes) :
    (self.decode crates clock data).2 = self.advance data := by
  cases headed : xLogData? data with
  | none =>
      rw [decode_headless crates headed]
      simp only [PgOutputDecoder.advance, relation?, beginXid?, readBehind_none headed, headed]
  | some header =>
      obtain ⟨endLsn, body⟩ := header
      rw [decode_headed crates headed]
      cases body with
      | nil =>
          simp only [PgOutputDecoder.advance, relation?, beginXid?, readBehind_nil headed, headed]
          rfl
      | cons msgType cursor =>
          simp only [PgOutputDecoder.advance, relation?, beginXid?, readBehind_cons headed, headed]
          simp only [PgOutputDecoder.decodeBody]
          split
          · cases read : PgOutputDecoder.beginXid.run cursor with
            | ok xid => simp only [PgOutputDecoder.decodeBegin, read]; rfl
            | err reason => simp only [PgOutputDecoder.decodeBegin, read]; rfl
            | panic => simp only [PgOutputDecoder.decodeBegin, read]; rfl
          · rfl
          · cases read : relationInfo.run cursor with
            | ok relation => simp only [PgOutputDecoder.decodeRelation, read]; rfl
            | err reason => simp only [PgOutputDecoder.decodeRelation, read]; rfl
            | panic => simp only [PgOutputDecoder.decodeRelation, read]; rfl
          · rfl
          · rfl
          · rfl
          · rfl
          · rename_i notBegin _ notRelation _ _ _ _
            have noBegin : msgType ≠ Tag.begin := fun same => notBegin same
            have noRelation : msgType ≠ Tag.relation := fun same => notRelation same
            simp only [if_neg noBegin, if_neg noRelation]
            rfl

theorem decode_of_relation {data : Bytes} {relation : RelationInfo}
    (announced : relation? data = some relation) (self : PgOutputDecoder) (clock : Clock) :
    (self.decode crates clock data).1 = .ok none := by
  obtain ⟨endLsn, cursor, headed, read⟩ := readBehind_some announced
  rw [decode_headed crates headed, PgOutputDecoder.decodeBody_relation]
  simp only [PgOutputDecoder.decodeRelation, read]

theorem decode_of_begin {data : Bytes} {xid : UInt32}
    (opened : beginXid? data = some xid) (self : PgOutputDecoder) (clock : Clock) :
    (self.decode crates clock data).1 = .ok (some (.begin xid)) := by
  obtain ⟨endLsn, cursor, headed, read⟩ := readBehind_some opened
  rw [decode_headed crates headed, PgOutputDecoder.decodeBody_begin]
  simp only [PgOutputDecoder.decodeBegin, read]

/-- Equal relations, transaction and database; the position may differ. -/
structure PgOutputDecoder.SameHistory (left right : PgOutputDecoder) : Prop where
  relations : left.relations = right.relations
  currentXid : left.currentXid = right.currentXid
  databaseName : left.databaseName = right.databaseName

namespace PgOutputDecoder.SameHistory

theorem atLsn {left right : PgOutputDecoder} (same : left.SameHistory right) (lsn : UInt64) :
    left.atLsn lsn = right.atLsn lsn := by
  obtain ⟨relations, currentXid, databaseName⟩ := same
  simp only [PgOutputDecoder.atLsn, relations, currentXid, databaseName]

theorem answer {left right : PgOutputDecoder} (same : left.SameHistory right)
    (clock : Clock) (data : Bytes) :
    (left.decode crates clock data).1 = (right.decode crates clock data).1 := by
  cases headed : xLogData? data with
  | none => rw [decode_headless crates headed, decode_headless crates headed]
  | some header =>
      obtain ⟨endLsn, body⟩ := header
      rw [decode_headed crates headed, decode_headed crates headed, same.atLsn]

theorem decode {left right : PgOutputDecoder} (same : left.SameHistory right)
    (clock : Clock) (data : Bytes) :
    (left.decode crates clock data).2.SameHistory (right.decode crates clock data).2 := by
  rw [decode_state, decode_state]
  obtain ⟨relations, currentXid, databaseName⟩ := same
  constructor
  · simp only [PgOutputDecoder.advance, relations]
  · simp only [PgOutputDecoder.advance, currentXid]
  · simp only [PgOutputDecoder.advance, databaseName]

/-- A message that announces no relation and opens no transaction leaves only
    its position behind. -/
theorem of_inert {data : Bytes} (noRelation : relation? data = none) (noBegin : beginXid? data = none)
    (self : PgOutputDecoder) (clock : Clock) :
    (self.decode crates clock data).2.SameHistory self := by
  rw [decode_state]
  constructor
  · simp only [PgOutputDecoder.advance, noRelation]
  · simp only [PgOutputDecoder.advance, noBegin]
  · rfl

theorem of_err {self : PgOutputDecoder} {clock : Clock} {data : Bytes} {reason : Error}
    (rejected : (self.decode crates clock data).1 = .err reason) :
    (self.decode crates clock data).2.SameHistory self := by
  have noRelation : relation? data = none := by
    cases announced : relation? data with
    | none => rfl
    | some relation =>
        rw [decode_of_relation crates announced] at rejected
        contradiction
  have noBegin : beginXid? data = none := by
    cases opened : beginXid? data with
    | none => rfl
    | some xid =>
        rw [decode_of_begin crates opened] at rejected
        contradiction
  exact of_inert crates noRelation noBegin self clock

end PgOutputDecoder.SameHistory

namespace PgOutputDecoder

/-- The answers to a feed of messages, in order.  A read out of range is the
    last answer: the call does not return. -/
def decodeAll (self : PgOutputDecoder) : List (Clock × Bytes) → List Answer
  | [] => []
  | (clock, data) :: feed =>
      match self.decode crates clock data with
      | (.panic, _) => [.panic]
      | (answer, next) => answer :: next.decodeAll feed

theorem decodeAll_cons_panic {self : PgOutputDecoder} {clock : Clock} {data : Bytes}
    (panicked : (self.decode crates clock data).1 = .panic) (feed : List (Clock × Bytes)) :
    self.decodeAll crates ((clock, data) :: feed) = [.panic] := by
  rw [decodeAll]
  split
  · rfl
  · rename_i answer next returned result
    rw [result] at panicked
    exact absurd panicked returned

theorem decodeAll_cons {self : PgOutputDecoder} {clock : Clock} {data : Bytes}
    (returned : (self.decode crates clock data).1 ≠ .panic) (feed : List (Clock × Bytes)) :
    self.decodeAll crates ((clock, data) :: feed) =
      (self.decode crates clock data).1 ::
        (self.decode crates clock data).2.decodeAll crates feed := by
  rw [decodeAll]
  split
  · rename_i next result
    rw [result] at returned
    contradiction
  · rename_i answer next _ result
    rw [result]

theorem SameHistory.decodeAll {left right : PgOutputDecoder} (same : left.SameHistory right)
    (feed : List (Clock × Bytes)) :
    left.decodeAll crates feed = right.decodeAll crates feed := by
  induction feed generalizing left right with
  | nil => rfl
  | cons message feed ih =>
      obtain ⟨clock, data⟩ := message
      have answers := same.answer crates clock data
      cases answered : (right.decode crates clock data).1 with
      | panic =>
          rw [decodeAll_cons_panic crates (answers.trans answered),
            decodeAll_cons_panic crates answered]
      | ok value =>
          have returned : (right.decode crates clock data).1 ≠ .panic := by simp [answered]
          rw [decodeAll_cons crates returned, decodeAll_cons crates (answers ▸ returned), answers,
            ih (same.decode crates clock data)]
      | err reason =>
          have returned : (right.decode crates clock data).1 ≠ .panic := by simp [answered]
          rw [decodeAll_cons crates returned, decodeAll_cons crates (answers ▸ returned), answers,
            ih (same.decode crates clock data)]

/-- A rejected message is invisible to every message after it. -/
theorem decodeAll_after_rejected {self : PgOutputDecoder} {clock : Clock} {data : Bytes}
    {reason : Error} (rejected : (self.decode crates clock data).1 = .err reason)
    (feed : List (Clock × Bytes)) :
    (self.decode crates clock data).2.decodeAll crates feed = self.decodeAll crates feed :=
  (SameHistory.of_err crates rejected).decodeAll crates feed

/-- A RELATION message cut off inside its second column. -/
def truncatedRelation : Bytes :=
  Tag.xLogData :: List.replicate 24 0 ++
    [Tag.relation, 0, 0, 0, 7, 1, 0x73, 1, 0x74, 0x64, 0, 2,
      1, 1, 0x61, 0, 0, 0, 23, 0, 0, 0, 0, 0, 9, 0x62]

theorem decodeAll_after_truncatedRelation :
    let begin : Bytes := Tag.xLogData :: List.replicate 24 0 ++ Tag.begin :: List.replicate 19 0 ++ [5]
    ((new "db").decode .idle ⟨0, 0⟩ truncatedRelation).2.decodeAll .idle
        [(⟨1, 1⟩, begin), (⟨2, 2⟩, truncatedRelation)] =
      (new "db").decodeAll .idle [(⟨1, 1⟩, begin), (⟨2, 2⟩, truncatedRelation)] := by
  have rejected : ((new "db").decode .idle ⟨0, 0⟩ truncatedRelation).1 =
      .err (.invalidMessage "Invalid column name length: 9 (remaining: 1)") := rfl
  exact decodeAll_after_rejected .idle rejected _

end PgOutputDecoder

end PgCapture.Postgres
