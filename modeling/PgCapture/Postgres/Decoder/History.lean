import PgCapture.Postgres.Decoder.State

namespace PgCapture.Postgres

open PgCapture.Data Cursor

/-! # Reading a change from the history of the feed

The decoder answers from tables it updates on the way.  The reference reads the
same facts off the messages themselves: the relation and the transaction of a
row are looked up backwards in the feed, the position is in the row's own
header, and the images are the row's tuples under the columns of that relation.
-/

/-- The most recent relation with this id among the messages. -/
def relationBefore (history : List Bytes) (id : UInt32) : Option RelationInfo :=
  history.reverse.findSome? fun data => (relation? data).filter fun relation => relation.id = id

/-- The most recent transaction opened among the messages. -/
def xidBefore (history : List Bytes) : Option UInt32 :=
  history.reverse.findSome? beginXid?

def isRow (data : Bytes) : Bool :=
  match xLogData? data with
  | some (_, msgType :: _) => msgType = Tag.insert ∨ msgType = Tag.update ∨ msgType = Tag.delete
  | _ => false

def rowRelationId? (data : Bytes) : Option UInt32 :=
  match xLogData? data with
  | some (_, _ :: cursor) => if isRow data then (getU32.run cursor : Outcome Error UInt32).toOption else none
  | _ => none

structure RowImages where
  op : ChangeOperation
  before : Option Json
  after : Option Json

variable (crates : Crates)

def insertImages (columns : List ColumnInfo) : Cursor Error RowImages := do
  let _relId ← getU32
  let _tupleType ← getU8
  let tupleData ← decodeTupleData crates columns
  pure { op := .insert, before := none, after := some tupleData }

def updateImages (columns : List ColumnInfo) : Cursor Error RowImages := do
  let _relId ← getU32
  let tuples ← PgOutputDecoder.updateTuples crates columns
  pure { op := .update, before := tuples.1, after := tuples.2 }

def deleteImages (columns : List ColumnInfo) : Cursor Error RowImages := do
  let _relId ← getU32
  let _tupleType ← getU8
  let oldTuple ← decodeTupleData crates columns
  pure { op := .delete, before := some oldTuple, after := none }

/-- The images a row message spells under the given columns. -/
def rowImages (columns : List ColumnInfo) (data : Bytes) : Option RowImages :=
  match xLogData? data with
  | some (_, msgType :: cursor) =>
      if msgType = Tag.insert then ((insertImages crates columns).run cursor).toOption
      else if msgType = Tag.update then ((updateImages crates columns).run cursor).toOption
      else if msgType = Tag.delete then ((deleteImages crates columns).run cursor).toOption
      else none
  | _ => none

def ReadRow (self : PgOutputDecoder) (clock : Clock) (images : List ColumnInfo → Cursor Error RowImages)
    (cursor : Bytes) (answer : Option DecodedMessage) : Prop :=
  ∃ id relation row, getU32.run cursor = .ok id (ε := Error) ∧ self.relations id = some relation ∧
    (images relation.columns).run cursor = .ok row ∧
    answer = some (.change (self.changeEvent clock relation row.op row.before row.after))

namespace PgOutputDecoder

theorem relation_eq_ok {self : PgOutputDecoder} {id : UInt32} {bytes rest : Bytes}
    {relation : RelationInfo} (found : self.relation id bytes = .ok (relation, rest)) :
    self.relations id = some relation ∧ rest = bytes := by
  rw [PgOutputDecoder.relation] at found
  cases lookup : self.relations id with
  | none =>
      rw [lookup] at found
      contradiction
  | some known =>
      rw [lookup] at found
      cases found
      exact ⟨rfl, rfl⟩

/-- What INSERT and DELETE have in common: one tuple behind a tuple type that is
    not refused. -/
def oneTuple (self : PgOutputDecoder) (clock : Clock) (tooShort : Error) (refused : UInt8 → Prop)
    [DecidablePred refused] (unexpected : UInt8 → Error) (row : Json → RowImages) :
    Cursor Error (Option DecodedMessage) := do
  let left ← remaining
  if left < 6 then fail tooShort
  else do
    let relId ← getU32
    let tupleType ← getU8
    if refused tupleType then fail (unexpected tupleType)
    else do
      let relation ← self.relation relId
      let tuple ← decodeTupleData crates relation.columns
      pure (some (.change (self.changeEvent clock relation (row tuple).op (row tuple).before
        (row tuple).after)))

theorem decodeInsert_oneTuple (self : PgOutputDecoder) (clock : Clock) :
    self.decodeInsert crates clock =
      self.oneTuple crates clock (.invalidMessage "Invalid INSERT message size")
        (fun tupleType => tupleType ≠ Tag.newTuple)
        (fun tupleType => .invalidMessage s!"Unexpected tuple type in INSERT: {tupleType}")
        (fun tuple => { op := .insert, before := none, after := some tuple }) :=
  rfl

theorem decodeDelete_oneTuple (self : PgOutputDecoder) (clock : Clock) :
    self.decodeDelete crates clock =
      self.oneTuple crates clock (.invalidMessage "Invalid DELETE message size")
        (fun tupleType => tupleType ≠ Tag.oldTuple ∧ tupleType ≠ Tag.keyTuple)
        (fun tupleType => .invalidMessage s!"Unexpected tuple type in DELETE: {tupleType}")
        (fun tuple => { op := .delete, before := some tuple, after := none }) :=
  rfl

section OneTuple

variable {self : PgOutputDecoder} {cursor : Bytes} {tooShort : Error} {refused : UInt8 → Prop}
variable [DecidablePred refused] {unexpected : UInt8 → Error} {row : Json → RowImages}

theorem oneTuple_readRow {clock : Clock} {answer : Option DecodedMessage}
    (decoded : (self.oneTuple crates clock tooShort refused unexpected row).run cursor = .ok answer) :
    ReadRow self clock (fun columns => do
      let _relId ← getU32
      let _tupleType ← getU8
      let tuple ← decodeTupleData crates columns
      pure (row tuple)) cursor answer := by
  obtain ⟨rest, decoded⟩ := run_eq_ok.mp decoded
  rw [oneTuple, bind_of_ok (remaining_apply cursor)] at decoded
  split at decoded
  · contradiction
  · obtain ⟨id, afterId, readId, decoded⟩ := bind_eq_ok.mp decoded
    obtain ⟨tupleType, afterType, readType, decoded⟩ := bind_eq_ok.mp decoded
    split at decoded
    · contradiction
    · obtain ⟨relation, afterLookup, lookup, decoded⟩ := bind_eq_ok.mp decoded
      obtain ⟨tuple, afterTuple, readTuple, decoded⟩ := bind_eq_ok.mp decoded
      cases decoded
      obtain ⟨known, rfl⟩ := relation_eq_ok lookup
      refine ⟨id, relation, row tuple, run_of_ok readId, known, ?_, rfl⟩
      rw [run_bind_of_ok readId, run_bind_of_ok readType, run_bind_of_ok readTuple]
      rfl

/-- A lookup of an unknown relation fails whatever the row looks like. -/
theorem relation_bind_unknown {self : PgOutputDecoder} {id : UInt32} (unknown : self.relations id = none)
    (next : RelationInfo → Cursor Error α) (bytes : Bytes) :
    (self.relation id >>= next).run bytes =
      .err (.invalidMessage s!"Unknown relation ID: {id}") := by
  have lookup : self.relation id = fail (.invalidMessage s!"Unknown relation ID: {id}") := by
    rw [PgOutputDecoder.relation, unknown]
  rw [lookup]
  rfl

theorem oneTuple_unknown (clock : Clock)
    (unknown : ∀ id, getU32.run cursor = .ok id (ε := Error) → self.relations id = none) :
    ∃ reason, (self.oneTuple crates clock tooShort refused unexpected row).run cursor = .err reason := by
  rw [oneTuple, run_bind_of_ok (remaining_apply cursor)]
  split
  · exact ⟨_, rfl⟩
  · have readId := getU32_of_le (ε := Error) (show 4 ≤ cursor.length by omega)
    have missing := unknown _ (run_of_ok readId)
    rw [run_bind_of_ok readId]
    cases tail : cursor.drop 4 with
    | nil =>
        have length := congrArg List.length tail
        simp only [List.length_drop, List.length_nil] at length
        omega
    | cons tupleType tuple =>
        rw [run_bind_of_ok (getU8_cons tupleType tuple)]
        split
        · exact ⟨_, rfl⟩
        · exact ⟨_, relation_bind_unknown missing _ _⟩

end OneTuple

theorem decodeInsert_readRow {self : PgOutputDecoder} {clock : Clock} {cursor : Bytes}
    {answer : Option DecodedMessage}
    (decoded : (self.decodeInsert crates clock).run cursor = .ok answer) :
    ReadRow self clock (insertImages crates) cursor answer := by
  rw [decodeInsert_oneTuple] at decoded
  exact oneTuple_readRow crates decoded

theorem decodeUpdate_readRow {self : PgOutputDecoder} {clock : Clock} {cursor : Bytes}
    {answer : Option DecodedMessage}
    (decoded : (self.decodeUpdate crates clock).run cursor = .ok answer) :
    ReadRow self clock (updateImages crates) cursor answer := by
  obtain ⟨rest, decoded⟩ := run_eq_ok.mp decoded
  rw [decodeUpdate, bind_of_ok (remaining_apply cursor)] at decoded
  split at decoded
  · contradiction
  · obtain ⟨id, afterId, readId, decoded⟩ := bind_eq_ok.mp decoded
    obtain ⟨relation, afterLookup, lookup, decoded⟩ := bind_eq_ok.mp decoded
    obtain ⟨tuples, afterTuples, readTuples, decoded⟩ := bind_eq_ok.mp decoded
    cases decoded
    obtain ⟨known, rfl⟩ := relation_eq_ok lookup
    refine ⟨id, relation, ⟨.update, tuples.1, tuples.2⟩, run_of_ok readId, known, ?_, rfl⟩
    rw [updateImages, run_bind_of_ok readId, run_bind_of_ok readTuples]
    rfl

theorem decodeDelete_readRow {self : PgOutputDecoder} {clock : Clock} {cursor : Bytes}
    {answer : Option DecodedMessage}
    (decoded : (self.decodeDelete crates clock).run cursor = .ok answer) :
    ReadRow self clock (deleteImages crates) cursor answer := by
  rw [decodeDelete_oneTuple] at decoded
  exact oneTuple_readRow crates decoded

theorem decodeInsert_unknown {self : PgOutputDecoder} {cursor : Bytes} (clock : Clock)
    (unknown : ∀ id, getU32.run cursor = .ok id (ε := Error) → self.relations id = none) :
    ∃ reason, (self.decodeInsert crates clock).run cursor = .err reason := by
  rw [decodeInsert_oneTuple]
  exact oneTuple_unknown crates clock unknown

theorem decodeUpdate_unknown {self : PgOutputDecoder} {cursor : Bytes} (clock : Clock)
    (unknown : ∀ id, getU32.run cursor = .ok id (ε := Error) → self.relations id = none) :
    ∃ reason, (self.decodeUpdate crates clock).run cursor = .err reason := by
  rw [decodeUpdate, run_bind_of_ok (remaining_apply cursor)]
  split
  · exact ⟨_, rfl⟩
  · have readId := getU32_of_le (ε := Error) (show 4 ≤ cursor.length by omega)
    have missing := unknown _ (run_of_ok readId)
    rw [run_bind_of_ok readId]
    exact ⟨_, relation_bind_unknown missing _ _⟩

theorem decodeDelete_unknown {self : PgOutputDecoder} {cursor : Bytes} (clock : Clock)
    (unknown : ∀ id, getU32.run cursor = .ok id (ε := Error) → self.relations id = none) :
    ∃ reason, (self.decodeDelete crates clock).run cursor = .err reason := by
  rw [decodeDelete_oneTuple]
  exact oneTuple_unknown crates clock unknown

end PgOutputDecoder

theorem rowRelationId?_of_row {data cursor : Bytes} {endLsn : UInt64} {msgType : UInt8}
    (headed : xLogData? data = some (endLsn, msgType :: cursor))
    (row : msgType = Tag.insert ∨ msgType = Tag.update ∨ msgType = Tag.delete) :
    rowRelationId? data = (getU32.run cursor : Outcome Error UInt32).toOption := by
  have known : isRow data = true := by
    simp only [isRow, headed, decide_eq_true_eq]
    exact row
  simp only [rowRelationId?, headed, known, if_true]

theorem decode_change {self : PgOutputDecoder} {clock : Clock} {data : Bytes} {event : ChangeEvent}
    (decoded : (self.decode crates clock data).1 = .ok (some (.change event))) :
    ∃ endLsn body id relation row, xLogData? data = some (endLsn, body) ∧
      rowRelationId? data = some id ∧ self.relations id = some relation ∧
      rowImages crates relation.columns data = some row ∧
      event = (self.atLsn endLsn).changeEvent clock relation row.op row.before row.after := by
  cases headed : xLogData? data with
  | none =>
      rw [decode_headless crates headed] at decoded
      cases data with
      | nil => cases decoded
      | cons tag cursor =>
          simp only [headlessAnswer] at decoded
          split at decoded <;> cases decoded
  | some header =>
      obtain ⟨endLsn, body⟩ := header
      rw [decode_headed crates headed] at decoded
      cases body with
      | nil => cases decoded
      | cons msgType cursor =>
          simp only [PgOutputDecoder.decodeBody] at decoded
          split at decoded
          · simp only [PgOutputDecoder.decodeBegin] at decoded
            split at decoded <;> cases decoded
          · obtain ⟨rest, decoded⟩ := run_eq_ok.mp decoded
            rw [PgOutputDecoder.decodeCommit, bind_of_ok (remaining_apply cursor)] at decoded
            split at decoded
            · contradiction
            · obtain ⟨flags, afterFlags, readFlags, decoded⟩ := bind_eq_ok.mp decoded
              obtain ⟨commitLsn, afterCommit, readCommit, decoded⟩ := bind_eq_ok.mp decoded
              obtain ⟨endOfCommit, afterEnd, readEnd, decoded⟩ := bind_eq_ok.mp decoded
              obtain ⟨timestamp, afterTimestamp, readTimestamp, decoded⟩ := bind_eq_ok.mp decoded
              cases decoded
          · simp only [PgOutputDecoder.decodeRelation] at decoded
            split at decoded <;> cases decoded
          · obtain ⟨id, relation, row, readId, known, images, same⟩ :=
              PgOutputDecoder.decodeInsert_readRow crates decoded
            cases same
            have named := rowRelationId?_of_row headed (Or.inl rfl)
            rw [readId] at named
            refine ⟨endLsn, _, id, relation, row, rfl, named, known, ?_, rfl⟩
            simp only [rowImages, headed]
            exact Outcome.toOption_eq_some.mpr images
          · obtain ⟨id, relation, row, readId, known, images, same⟩ :=
              PgOutputDecoder.decodeUpdate_readRow crates decoded
            cases same
            have named := rowRelationId?_of_row headed (Or.inr (Or.inl rfl))
            rw [readId] at named
            refine ⟨endLsn, _, id, relation, row, rfl, named, known, ?_, rfl⟩
            simp only [rowImages, headed]
            exact Outcome.toOption_eq_some.mpr images
          · obtain ⟨id, relation, row, readId, known, images, same⟩ :=
              PgOutputDecoder.decodeDelete_readRow crates decoded
            cases same
            have named := rowRelationId?_of_row headed (Or.inr (Or.inr rfl))
            rw [readId] at named
            refine ⟨endLsn, _, id, relation, row, rfl, named, known, ?_, rfl⟩
            simp only [rowImages, headed]
            exact Outcome.toOption_eq_some.mpr images
          · cases decoded
          · cases decoded

theorem decode_unknown {self : PgOutputDecoder} {data : Bytes} (clock : Clock) (row : isRow data)
    (unknown : ∀ id, rowRelationId? data = some id → self.relations id = none) :
    ∃ reason, (self.decode crates clock data).1 = .err reason := by
  cases headed : xLogData? data with
  | none => simp [isRow, headed] at row
  | some header =>
      obtain ⟨endLsn, body⟩ := header
      rw [decode_headed crates headed]
      cases body with
      | nil => simp [isRow, headed] at row
      | cons msgType cursor =>
          have kind : msgType = Tag.insert ∨ msgType = Tag.update ∨ msgType = Tag.delete := by
            simpa only [isRow, headed, decide_eq_true_eq] using row
          have missing : ∀ id, getU32.run cursor = .ok id (ε := Error) →
              (self.atLsn endLsn).relations id = none := by
            intro id readId
            apply unknown
            rw [rowRelationId?_of_row headed kind, readId, Outcome.toOption_ok]
          rcases kind with rfl | rfl | rfl
          · rw [PgOutputDecoder.decodeBody_insert]
            exact PgOutputDecoder.decodeInsert_unknown crates clock missing
          · rw [PgOutputDecoder.decodeBody_update]
            exact PgOutputDecoder.decodeUpdate_unknown crates clock missing
          · rw [PgOutputDecoder.decodeBody_delete]
            exact PgOutputDecoder.decodeDelete_unknown crates clock missing

namespace PgOutputDecoder

def after (self : PgOutputDecoder) (feed : List (Clock × Bytes)) : PgOutputDecoder :=
  feed.foldl (fun state message => (state.decode crates message.1 message.2).2) self

/-- The fields of a decoder are what the messages it has seen say. -/
structure Recalls (decoder : PgOutputDecoder) (databaseName : String) (history : List Bytes) : Prop where
  relations : ∀ id, decoder.relations id = relationBefore history id
  currentXid : decoder.currentXid = xidBefore history
  databaseName : decoder.databaseName = databaseName

theorem new_recalls (databaseName : String) : (new databaseName).Recalls databaseName [] where
  relations := fun _ => rfl
  currentXid := rfl
  databaseName := rfl

theorem Recalls.decode {self : PgOutputDecoder} {databaseName : String} {history : List Bytes}
    (recalls : self.Recalls databaseName history) (clock : Clock) (data : Bytes) :
    (self.decode crates clock data).2.Recalls databaseName (history ++ [data]) := by
  rw [decode_state]
  constructor
  · intro id
    simp only [advance, relationBefore, List.reverse_append, List.reverse_cons, List.reverse_nil,
      List.nil_append, List.singleton_append, List.findSome?_cons]
    cases announced : relation? data with
    | none =>
        simp only [Option.filter_none]
        exact recalls.relations id
    | some relation =>
        by_cases same : relation.id = id
        · simp [same, Option.filter]
        · simp only [Option.filter, same, decide_false, Function.update_of_ne (Ne.symm same)]
          exact recalls.relations id
  · simp only [advance, xidBefore, List.reverse_append, List.reverse_cons, List.reverse_nil,
      List.nil_append, List.singleton_append, List.findSome?_cons]
    cases opened : beginXid? data with
    | none => exact recalls.currentXid
    | some xid => rfl
  · exact recalls.databaseName

theorem Recalls.after {self : PgOutputDecoder} {databaseName : String} {history : List Bytes}
    (recalls : self.Recalls databaseName history) (feed : List (Clock × Bytes)) :
    (self.after crates feed).Recalls databaseName (history ++ feed.map Prod.snd) := by
  induction feed generalizing self history with
  | nil => simpa [PgOutputDecoder.after] using recalls
  | cons message feed ih =>
      have next := ih (recalls.decode crates message.1 message.2)
      simpa [PgOutputDecoder.after] using next

theorem decodeAll_getElem {self : PgOutputDecoder} {feed : List (Clock × Bytes)} {index : Nat}
    {answer : Answer} (answered : (self.decodeAll crates feed)[index]? = some answer) :
    ∃ message, feed[index]? = some message ∧
      answer = ((self.after crates (feed.take index)).decode crates message.1 message.2).1 := by
  induction feed generalizing self index with
  | nil => simp [decodeAll] at answered
  | cons message feed ih =>
      obtain ⟨clock, data⟩ := message
      by_cases panicked : (self.decode crates clock data).1 = .panic
      · rw [decodeAll_cons_panic crates panicked] at answered
        cases index with
        | zero =>
            refine ⟨(clock, data), rfl, ?_⟩
            cases answered
            exact panicked.symm
        | succ index => simp at answered
      · rw [decodeAll_cons crates panicked] at answered
        cases index with
        | zero =>
            refine ⟨(clock, data), rfl, ?_⟩
            cases answered
            rfl
        | succ index =>
            simp only [List.getElem?_cons_succ] at answered
            obtain ⟨message, found, same⟩ := ih answered
            exact ⟨message, found, same⟩

/-- A message that leaves nothing behind can be taken out of the feed: only its
    own answer goes. -/
theorem decodeAll_eraseIdx {self : PgOutputDecoder} {feed : List (Clock × Bytes)} {index : Nat}
    {message : Clock × Bytes} {answer : Answer}
    (found : feed[index]? = some message)
    (answered : (self.decodeAll crates feed)[index]? = some answer)
    (silent : (answer = .ok none ∧ relation? message.2 = none) ∨ ∃ reason, answer = .err reason) :
    self.decodeAll crates (feed.eraseIdx index) = (self.decodeAll crates feed).eraseIdx index := by
  induction feed generalizing self index with
  | nil => simp at found
  | cons first feed ih =>
      obtain ⟨clock, data⟩ := first
      by_cases panicked : (self.decode crates clock data).1 = .panic
      · rw [decodeAll_cons_panic crates panicked] at answered
        cases index with
        | zero =>
            cases answered
            rcases silent with ⟨same, _⟩ | ⟨reason, same⟩ <;> cases same
        | succ index => simp at answered
      · rw [decodeAll_cons crates panicked] at answered ⊢
        cases index with
        | zero =>
            cases found
            simp only [List.getElem?_cons_zero, Option.some.injEq] at answered
            subst answered
            have same : (self.decode crates clock data).2.SameHistory self := by
              rcases silent with ⟨quiet, noRelation⟩ | ⟨reason, rejected⟩
              · have noBegin : beginXid? data = none := by
                  cases opened : beginXid? data with
                  | none => rfl
                  | some xid =>
                      rw [decode_of_begin crates opened] at quiet
                      cases quiet
                exact SameHistory.of_inert crates noRelation noBegin self clock
              · exact SameHistory.of_err crates rejected
            exact (same.decodeAll crates feed).symm
        | succ index =>
            simp only [List.getElem?_cons_succ] at answered found
            simp only [List.eraseIdx_cons_succ]
            rw [decodeAll_cons crates panicked, ih found answered]

end PgOutputDecoder

/-- The event read off a row message and the messages before it. -/
def eventFromHistory (databaseName : String) (history : List Bytes) (clock : Clock) (data : Bytes) :
    Option ChangeEvent := do
  let (endLsn, _) ← xLogData? data
  let id ← rowRelationId? data
  let relation ← relationBefore history id
  let row ← rowImages crates relation.columns data
  some
    { schema := relation.schema
      table := relation.table
      op := row.op
      tsMs := clock.event
      before := row.before
      after := row.after
      source :=
        { version := "0.1.0"
          connector := "pg-capture"
          tsMs := clock.source
          db := databaseName
          schema := relation.schema
          table := relation.table
          lsn := formatLsn endLsn
          xid := some ((xidBefore history).getD 0) } }

/-- A change is the event its history spells, a row without an announced
    relation is rejected, and a message that is rejected or skipped could as
    well not have been there. -/
theorem decodeAll_follows_history (databaseName : String) (feed : List (Clock × Bytes)) :
    (∀ index event message, feed[index]? = some message →
      ((PgOutputDecoder.new databaseName).decodeAll crates feed)[index]? =
        some (.ok (some (.change event))) →
      eventFromHistory crates databaseName ((feed.take index).map Prod.snd) message.1 message.2 =
        some event) ∧
    (∀ index answer message, feed[index]? = some message →
      ((PgOutputDecoder.new databaseName).decodeAll crates feed)[index]? = some answer →
      isRow message.2 →
      (∀ id, rowRelationId? message.2 = some id →
        relationBefore ((feed.take index).map Prod.snd) id = none) →
      ∃ reason, answer = .err reason) ∧
    (∀ index answer message, feed[index]? = some message →
      ((PgOutputDecoder.new databaseName).decodeAll crates feed)[index]? = some answer →
      (answer = .ok none ∧ relation? message.2 = none) ∨ (∃ reason, answer = .err reason) →
      (PgOutputDecoder.new databaseName).decodeAll crates (feed.eraseIdx index) =
        ((PgOutputDecoder.new databaseName).decodeAll crates feed).eraseIdx index) := by
  have recalls : ∀ index, ((PgOutputDecoder.new databaseName).after crates
      (feed.take index)).Recalls databaseName ((feed.take index).map Prod.snd) :=
    fun index => (PgOutputDecoder.new_recalls databaseName).after crates (feed.take index)
  refine ⟨?_, ?_, ?_⟩
  · intro index event message found answered
    obtain ⟨same, foundSame, decoded⟩ := PgOutputDecoder.decodeAll_getElem crates answered
    rw [found] at foundSame
    cases foundSame
    obtain ⟨endLsn, body, id, relation, row, headed, named, known, images, rfl⟩ :=
      decode_change crates decoded.symm
    rw [(recalls index).relations] at known
    simp only [eventFromHistory, headed, named, known, images, Option.bind_eq_bind, Option.bind_some,
      PgOutputDecoder.changeEvent, PgOutputDecoder.atLsn, SourceMetadata.new, SourceMetadata.withXid,
      (recalls index).currentXid, (recalls index).databaseName, Option.getD_some]
  · intro index answer message found answered row unknown
    obtain ⟨same, foundSame, rfl⟩ := PgOutputDecoder.decodeAll_getElem crates answered
    rw [found] at foundSame
    cases foundSame
    apply decode_unknown crates message.1 row
    intro id named
    rw [(recalls index).relations]
    exact unknown id named
  · intro index answer message found answered silent
    exact PgOutputDecoder.decodeAll_eraseIdx crates found answered silent

/-- A row before its relation is announced, the announcement, a BEGIN, and the
    row once more. -/
def announcedLate : List (Clock × Bytes) :=
  let header : Bytes := Tag.xLogData :: List.replicate 15 0 ++ [9] ++ List.replicate 8 0
  let row : Bytes := header ++ [Tag.insert, 0, 0, 0, 7, Tag.newTuple, 0, 1, Tag.nullCell]
  let relation : Bytes := header ++
    [Tag.relation, 0, 0, 0, 7, 1, 0x73, 1, 0x74, 0x64, 0, 1, 1, 1, 0x61, 0, 0, 0, 23, 0, 0, 0, 0]
  let begin : Bytes := header ++ Tag.begin :: List.replicate 19 0 ++ [5]
  [(⟨1, 1⟩, row), (⟨2, 2⟩, relation), (⟨3, 3⟩, begin), (⟨4, 4⟩, row)]

theorem announcedLate_follows_history :
    (∃ event message, announcedLate[3]? = some message ∧
      eventFromHistory .idle "db" ((announcedLate.take 3).map Prod.snd) message.1 message.2 =
        some event) ∧
    (∃ answer reason, ((PgOutputDecoder.new "db").decodeAll .idle announcedLate)[0]? =
      some answer ∧ answer = .err reason) ∧
    (PgOutputDecoder.new "db").decodeAll .idle (announcedLate.eraseIdx 0) =
      ((PgOutputDecoder.new "db").decodeAll .idle announcedLate).eraseIdx 0 := by
  obtain ⟨change, unknown, silent⟩ := decodeAll_follows_history .idle "db" announcedLate
  obtain ⟨reason, rejected⟩ := unknown 0 _ _ rfl rfl rfl (fun id _ => rfl)
  refine ⟨⟨_, _, rfl, change 3 _ _ rfl rfl⟩, ⟨_, reason, rfl, rejected⟩, ?_⟩
  exact silent 0 _ _ rfl rfl (Or.inr ⟨reason, rejected⟩)

end PgCapture.Postgres
