import PgCapture.Postgres.Connection
import PgCapture.Postgres.Decoder.History

namespace PgCapture.Postgres

open PgCapture.Data Cursor

/-! # One header, two parsers

The connection takes the XLogData header off before it hands a message on, and
the decoder expects the header to be there.  The decoder therefore reads the
body as a message of its own, and the two readings agree only on bodies that
mean nothing to it.
-/

theorem xLogData?_of_returned {debugText : String → String} {write : Except Error Unit}
    {payload : Bytes} {message : ReplicationMessage}
    (received : recvCopybothMessage debugText write (.copyData payload) = .returned message) :
    xLogData? payload = some (message.walEnd, message.data) := by
  cases payload with
  | nil => cases received
  | cons messageType cursor =>
      simp only [recvCopybothMessage, parseCopybothMessage] at received
      split at received
      · rename_i walStart walEnd timestamp data parsed
        cases received
        split at parsed
        · split at parsed
          · contradiction
          · rename_i long
            have enough : 24 ≤ cursor.length := by omega
            rw [parseXLogData_of_le enough] at parsed
            cases parsed
            exact if_pos ⟨rfl, enough⟩
        · split at parsed
          · contradiction
          · obtain ⟨keepalive, read, same⟩ := Outcome.map_eq_ok.mp parsed
            obtain ⟨walEnd, timestamp, replyRequested, rfl⟩ := parsePrimaryKeepalive_ok read
            cases same
        · cases parsed
      · split at received
        · split at received <;> cases received
        · cases received
      · cases received
      · cases received
      · cases received

/-- A body that the decoder passes over: there is nothing in it, its type has no
    handler, or it announces a relation exactly as the decoder has it. -/
def Inert (self : PgOutputDecoder) : Bytes → Prop
  | [] => True
  | msgType :: cursor =>
      if msgType = Tag.relation then
        ∃ relation, relationInfo.run cursor = .ok relation ∧
          self.relations relation.id = some relation
      else msgType ∉ [Tag.begin, Tag.commit, Tag.insert, Tag.update, Tag.delete]

theorem not_inert {self : PgOutputDecoder} {msgType : UInt8} {cursor : Bytes}
    (handled : msgType ∈ [Tag.begin, Tag.commit, Tag.insert, Tag.update, Tag.delete]) :
    ¬ Inert self (msgType :: cursor) := by
  have other : msgType ≠ Tag.relation := by
    intro same
    subst same
    exact absurd handled (by decide)
  rw [Inert, if_neg other]
  exact not_not_intro handled

theorem inert_of_unhandled {self : PgOutputDecoder} {msgType : UInt8} {cursor : Bytes}
    (noRelation : msgType ≠ Tag.relation)
    (unhandled : msgType ∉ [Tag.begin, Tag.commit, Tag.insert, Tag.update, Tag.delete]) :
    Inert self (msgType :: cursor) := by
  rw [Inert, if_neg noRelation]
  exact unhandled

variable (crates : Crates)

theorem decodeBody_currentLsn (self : PgOutputDecoder) (clock : Clock) (body : Bytes) :
    (self.decodeBody crates clock body).2.currentLsn = self.currentLsn := by
  cases body with
  | nil => rfl
  | cons msgType cursor =>
      simp only [PgOutputDecoder.decodeBody]
      split
      · simp only [PgOutputDecoder.decodeBegin]
        split <;> rfl
      · rfl
      · simp only [PgOutputDecoder.decodeRelation]
        split <;> rfl
      all_goals rfl

theorem decodeCommit_ok {cursor : Bytes} {answer : Option DecodedMessage}
    (decoded : PgOutputDecoder.decodeCommit.run cursor = .ok answer) : answer = some .commit := by
  obtain ⟨rest, decoded⟩ := run_eq_ok.mp decoded
  rw [PgOutputDecoder.decodeCommit, bind_of_ok (remaining_apply cursor)] at decoded
  split at decoded
  · contradiction
  · obtain ⟨flags, afterFlags, readFlags, decoded⟩ := bind_eq_ok.mp decoded
    obtain ⟨commitLsn, afterCommit, readCommit, decoded⟩ := bind_eq_ok.mp decoded
    obtain ⟨endLsn, afterEnd, readEnd, decoded⟩ := bind_eq_ok.mp decoded
    obtain ⟨timestamp, afterTimestamp, readTimestamp, decoded⟩ := bind_eq_ok.mp decoded
    cases decoded
    rfl

theorem not_silent_of_readRow {self : PgOutputDecoder} {clock : Clock}
    {images : List ColumnInfo → Cursor Error RowImages} {cursor : Bytes} :
    ¬ ReadRow self clock images cursor none := by
  intro found
  obtain ⟨id, relation, row, readId, known, read, same⟩ := found
  cases same

theorem decodeBody_inert_iff (self : PgOutputDecoder) (clock : Clock) (body : Bytes) :
    self.decodeBody crates clock body = (.ok none, self) ↔ Inert self body := by
  cases body with
  | nil => exact ⟨fun _ => trivial, fun _ => rfl⟩
  | cons msgType cursor =>
      simp only [PgOutputDecoder.decodeBody]
      split
      · refine ⟨fun same => ?_, fun inert => absurd inert (not_inert (by decide))⟩
        have answer := congrArg Prod.fst same
        simp only [PgOutputDecoder.decodeBegin] at answer
        split at answer <;> cases answer
      · refine ⟨fun same => ?_, fun inert => absurd inert (not_inert (by decide))⟩
        have answer := decodeCommit_ok (congrArg Prod.fst same)
        cases answer
      · simp only [PgOutputDecoder.decodeRelation]
        constructor
        · intro same
          split at same
          · rename_i relation read
            have relations := congrFun (congrArg PgOutputDecoder.relations
              (congrArg Prod.snd same)) relation.id
            exact ⟨relation, read, by simpa using relations.symm⟩
          · cases congrArg Prod.fst same
          · cases congrArg Prod.fst same
        · intro found
          obtain ⟨relation, read, stored⟩ := found
          have kept : Function.update self.relations relation.id (some relation) = self.relations := by
            rw [← stored]
            exact Function.update_eq_self _ _
          simp only [read, kept]
      · refine ⟨fun same => ?_, fun inert => absurd inert (not_inert (by decide))⟩
        exact absurd (PgOutputDecoder.decodeInsert_readRow crates (congrArg Prod.fst same))
          not_silent_of_readRow
      · refine ⟨fun same => ?_, fun inert => absurd inert (not_inert (by decide))⟩
        exact absurd (PgOutputDecoder.decodeUpdate_readRow crates (congrArg Prod.fst same))
          not_silent_of_readRow
      · refine ⟨fun same => ?_, fun inert => absurd inert (not_inert (by decide))⟩
        exact absurd (PgOutputDecoder.decodeDelete_readRow crates (congrArg Prod.fst same))
          not_silent_of_readRow
      · exact ⟨fun _ => inert_of_unhandled (by decide) (by decide), fun _ => rfl⟩
      · rename_i noBegin noCommit noRelation noInsert noUpdate noDelete _
        refine ⟨fun _ => inert_of_unhandled noRelation ?_, fun _ => rfl⟩
        simp only [List.mem_cons, List.not_mem_nil, or_false, not_or]
        exact ⟨noBegin, noCommit, noInsert, noUpdate, noDelete⟩

/-- The bodies that read alike with their header and without it: an inert body
    at the position the decoder already has, or a complete message inside the
    message, at the same position and inert itself. -/
def ReadsAlike (self : PgOutputDecoder) (walEnd : UInt64) (data : Bytes) : Prop :=
  match xLogData? data with
  | some (endLsn, body) => endLsn = walEnd ∧ Inert self body
  | none => data.head? ≠ some Tag.xLogData ∧ self.currentLsn = some (formatLsn walEnd) ∧ Inert self data

theorem cons_of_xLogData? {data body : Bytes} {endLsn : UInt64}
    (headed : xLogData? data = some (endLsn, body)) : ∃ cursor, data = Tag.xLogData :: cursor := by
  cases data with
  | nil => cases headed
  | cons tag cursor =>
      simp only [xLogData?] at headed
      split at headed
      · rename_i accepted
        exact ⟨cursor, by rw [accepted.1]⟩
      · contradiction

theorem headlessAnswer_of_no_tag {data : Bytes} (noTag : data.head? ≠ some Tag.xLogData) :
    headlessAnswer data = .ok none := by
  cases data with
  | nil => rfl
  | cons tag cursor =>
      have other : tag ≠ Tag.xLogData := by
        intro same
        subst same
        exact noTag rfl
      simp only [headlessAnswer, if_pos other]

theorem headlessAnswer_of_tag (cursor : Bytes) :
    headlessAnswer (Tag.xLogData :: cursor) =
      .err (.invalidMessage "Invalid XLogData header size") := rfl

theorem inert_atLsn (self : PgOutputDecoder) (lsn : UInt64) (body : Bytes) :
    Inert (self.atLsn lsn) body ↔ Inert self body := by
  cases body <;> exact Iff.rfl

/-- What the loop feeds to the decoder has the effect of the message it received
    exactly when the body reads alike both ways. -/
theorem decode_received_iff {debugText : String → String} {write : Except Error Unit}
    {payload : Bytes} {message : ReplicationMessage}
    (received : recvCopybothMessage debugText write (.copyData payload) = .returned message)
    (self : PgOutputDecoder) (clock : Clock) :
    self.decode crates clock message.data = self.decode crates clock payload ↔
      ReadsAlike self message.walEnd message.data := by
  have whole := decode_headed crates (xLogData?_of_returned received) self clock
  rw [whole, ReadsAlike]
  cases headed : xLogData? message.data with
  | some header =>
      obtain ⟨endLsn, body⟩ := header
      -- behind its real header the body is a message of the unknown type 'w'
      have skipped : (self.atLsn message.walEnd).decodeBody crates clock message.data =
          (.ok none, self.atLsn message.walEnd) := by
        obtain ⟨cursor, same⟩ := cons_of_xLogData? headed
        rw [same]
        rfl
      rw [decode_headed crates headed, skipped]
      constructor
      · intro same
        have position := congrArg (fun answer => answer.2.currentLsn) same
        simp only [decodeBody_currentLsn, PgOutputDecoder.atLsn, Option.some.injEq] at position
        have sameLsn := formatLsn_injective position
        subst sameLsn
        rw [decodeBody_inert_iff, inert_atLsn] at same
        exact ⟨rfl, same⟩
      · intro found
        obtain ⟨rfl, inert⟩ := found
        rw [decodeBody_inert_iff, inert_atLsn]
        exact inert
  | none =>
      rw [decode_headless crates headed]
      constructor
      · intro same
        have position := congrArg (fun answer => answer.2.currentLsn) same
        simp only [decodeBody_currentLsn, PgOutputDecoder.atLsn] at position
        have still : self.atLsn message.walEnd = self := by
          rw [PgOutputDecoder.atLsn, ← position]
        rw [still] at same
        cases data : message.data with
        | nil => exact ⟨by simp, position, trivial⟩
        | cons tag cursor =>
            by_cases tagged : tag = Tag.xLogData
            · -- an incomplete header is an error, an unknown type is not
              subst tagged
              rw [data, headlessAnswer_of_tag] at same
              cases congrArg Prod.fst same
            · have noTag : (tag :: cursor).head? ≠ some Tag.xLogData := by
                simpa using tagged
              rw [data, headlessAnswer_of_no_tag noTag] at same
              exact ⟨noTag, position, (decodeBody_inert_iff crates self clock _).mp same.symm⟩
      · intro found
        obtain ⟨noTag, position, inert⟩ := found
        have still : self.atLsn message.walEnd = self := by
          rw [PgOutputDecoder.atLsn, ← position]
        rw [still, (decodeBody_inert_iff crates self clock message.data).mpr inert,
          headlessAnswer_of_no_tag noTag]

def payloadAt9 (body : Bytes) : Bytes :=
  Tag.xLogData :: List.replicate 15 0 ++ [9] ++ List.replicate 8 0 ++ body

theorem decode_received_truncate :
    ((PgOutputDecoder.new "db").atLsn 9).decode .idle ⟨0, 0⟩ [Tag.truncate] =
      ((PgOutputDecoder.new "db").atLsn 9).decode .idle ⟨0, 0⟩
        (payloadAt9 [Tag.truncate]) := by
  have received : recvCopybothMessage id (.ok ()) (.copyData (payloadAt9 [Tag.truncate])) =
      .returned { data := [Tag.truncate], walStart := 0, walEnd := 9 } := by decide
  apply (decode_received_iff .idle received _ _).mpr
  exact ⟨by decide, rfl, inert_of_unhandled (by decide) (by decide)⟩

/-- A BEGIN reaches the decoder without its header and is passed over. -/
theorem begin_not_decoded : ∃ message,
    recvCopybothMessage id (.ok ()) (.copyData (payloadAt9 (Tag.begin :: List.replicate 19 0 ++ [7]))) =
      .returned message ∧
    ((PgOutputDecoder.new "db").decode .idle ⟨0, 0⟩ message.data).1 = .ok none ∧
    ((PgOutputDecoder.new "db").decode .idle ⟨0, 0⟩
      (payloadAt9 (Tag.begin :: List.replicate 19 0 ++ [7]))).1 = .ok (some (.begin 7)) ∧
    (PgOutputDecoder.new "db").decode .idle ⟨0, 0⟩ message.data ≠
      (PgOutputDecoder.new "db").decode .idle ⟨0, 0⟩
        (payloadAt9 (Tag.begin :: List.replicate 19 0 ++ [7])) := by
  refine ⟨_, rfl, rfl, rfl, ?_⟩
  intro same
  have answers := congrArg Prod.fst same
  cases answers

end PgCapture.Postgres
