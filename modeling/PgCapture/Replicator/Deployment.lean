import PgCapture.CheckpointFile.Register
import PgCapture.Replicator.Passes

namespace PgCapture

open Data Postgres

/-! # Attempts on a disk

Attempts follow one another, in one process or in several, and each loads what
the saves of the earlier ones left on the disk.  Whatever they go through, they
behave as if the checkpoint were a value that is handed on.
-/

variable {toStringPretty : Checkpoint → String}

/-- An attempt runs up to an exit, or until its process is killed after so many
    actions; one that is killed before it asks for a position has failed to connect. -/
inductive Phase (D : Type) (toStringPretty : Checkpoint → String) where
  | attempt (self : Replicator D) (met : Attempt) (actions : Nat)
      (saves : List (SaveCall toStringPretty))
  | delete (unlinked : Except String Unit)

/-- What PostgreSQL, Kafka and the checkpoint file see of an attempt. -/
structure Seen where
  requested : Option String
  taken : List (Nat × Action)

namespace Phase

def saves : Phase D toStringPretty → List (SaveCall toStringPretty)
  | attempt _ _ _ saves => saves
  | delete _ => []

end Phase

section Behaviour

variable (decoder : Decoder D)

/-- The attempt as it goes when the manager's load returns `load`. -/
def seen (self : Replicator D) (met : Attempt) (actions : Nat)
    (load : Except Error (Option Checkpoint)) : Seen :=
  let result := Replicator.runWithRetry decoder self { met with load }
  { requested := result.requested
    taken := (traceOf (receive self.config decoder) (result.turns.getD [])).take actions }

variable (readsText : String → Except String Checkpoint) (manager : CheckpointManager)

def onDisk (fs : FileSystem Path) : List (Phase D toStringPretty) → List Seen × FileSystem Path
  | [] => ([], fs)
  | .attempt self met actions saves :: phases =>
      let first := seen decoder self met actions (manager.load readsText fs)
      let later := onDisk (manager.saveAll fs saves) phases
      (first :: later.1, later.2)
  | .delete unlinked :: phases => onDisk (manager.delete unlinked fs).1 phases

def inRegister (value : Option Checkpoint) : List (Phase D toStringPretty) →
    List Seen × Option Checkpoint
  | [] => ([], value)
  | .attempt self met actions _ :: phases =>
      let first := seen decoder self met actions (.ok value)
      let later := inRegister (fileAfter value first.taken) phases
      (first :: later.1, later.2)
  | .delete unlinked :: phases => inRegister (if unlinked.isOk then none else value) phases

end Behaviour

def Action.stored : Action → Option Checkpoint
  | .saved checkpoint => some checkpoint
  | _ => none

def storedIn (taken : List (Nat × Action)) : List Checkpoint :=
  taken.filterMap fun entry => entry.2.stored

theorem fileAfter_eq (value : Option Checkpoint) (taken : List (Nat × Action)) :
    fileAfter value taken = (storedIn taken).getLast?.or value := by
  induction taken generalizing value with
  | nil => rfl
  | cons entry taken ih =>
      obtain ⟨number, action⟩ := entry
      cases action with
      | saved checkpoint =>
          have first : storedIn ((number, .saved checkpoint) :: taken) = checkpoint :: storedIn taken :=
            rfl
          rw [fileAfter, ih, first, List.getLast?_cons]
          cases (storedIn taken).getLast? <;> rfl
      | received message answer => exact ih value
      | standbyStatus lsn => exact ih value
      | delivered message topic event => exact ih value

section Refinement

variable (decoder : Decoder D) (readsText : String → Except String Checkpoint)
  (manager : CheckpointManager)

/-- The last save that completes in an attempt is the last one it has seen complete. -/
def Recorded (fs : FileSystem Path) : List (Phase D toStringPretty) → Prop
  | [] => True
  | .attempt self met actions saves :: phases =>
      manager.lastSaved fs saves =
          (storedIn (seen decoder self met actions (manager.load readsText fs)).taken).getLast? ∧
        Recorded (manager.saveAll fs saves) phases
  | .delete unlinked :: phases => Recorded (manager.delete unlinked fs).1 phases

end Refinement

/-- Saves that are cut short anywhere, restarts and deletes show no difference
    between the file and a value that only completed saves and deletes change. -/
theorem disk_refines_register (decoder : Decoder D)
    (readsText : String → Except String Checkpoint) (manager : CheckpointManager)
    (temporary : manager.HasTemporary)
    (fs : FileSystem Path) (value : Option Checkpoint)
    (loads : manager.load readsText fs = .ok value) (phases : List (Phase D toStringPretty))
    (reads : ∀ phase ∈ phases, ∀ save ∈ phase.saves,
      CheckpointManager.ReadsBack readsText toStringPretty save.checkpoint)
    (seen : ∀ phase ∈ phases, ∀ save ∈ phase.saves, save.lost = [])
    (recorded : Recorded decoder readsText manager fs phases) :
    (onDisk decoder readsText manager fs phases).1 = (inRegister decoder value phases).1 ∧
      manager.load readsText (onDisk decoder readsText manager fs phases).2 =
        .ok (inRegister decoder value phases).2 := by
  induction phases generalizing fs value with
  | nil => exact ⟨rfl, loads⟩
  | cons phase phases ih =>
      have readsFirst := reads phase List.mem_cons_self
      have seenFirst := seen phase List.mem_cons_self
      have readsLater := fun other member => reads other (List.mem_cons_of_mem phase member)
      have seenLater := fun other member => seen other (List.mem_cons_of_mem phase member)
      cases phase with
      | attempt self met actions saves =>
          obtain ⟨last, recordedLater⟩ := recorded
          have saved : manager.load readsText (manager.saveAll fs saves) =
              .ok (fileAfter value (PgCapture.seen decoder self met actions (.ok value)).taken) := by
            rw [fileAfter_eq, ← loads, ← last]
            exact CheckpointManager.load_saveAll temporary seenFirst readsFirst loads
          obtain ⟨same, file⟩ := ih _ _ saved readsLater seenLater recordedLater
          refine ⟨?_, file⟩
          simp only [onDisk, inRegister, loads, same]
      | delete unlinked =>
          exact ih _ _ (CheckpointManager.load_delete loads unlinked) readsLater seenLater recorded

/-- The text of position nine or ten. -/
def nineOrTen (checkpoint : Checkpoint) : String :=
  if checkpoint = ⟨ReplicationMessage.formatLsn 9, 0, 1⟩ then
    "\x7b\n  \"lsn\": \"0/9\",\n  \"timestamp\": \"1970-01-01T00:00:00Z\",\n  \"message_count\": 1\n\x7d"
  else
    "\x7b\n  \"lsn\": \"0/A\",\n  \"timestamp\": \"1970-01-01T00:00:00Z\",\n  \"message_count\": 2\n\x7d"

def readsNineOrTen (text : String) : Except String Checkpoint :=
  if text = nineOrTen ⟨ReplicationMessage.formatLsn 9, 0, 1⟩ then
    .ok ⟨ReplicationMessage.formatLsn 9, 0, 1⟩
  else if text = nineOrTen ⟨ReplicationMessage.formatLsn 10, 0, 2⟩ then
    .ok ⟨ReplicationMessage.formatLsn 10, 0, 2⟩
  else .error "EOF while parsing a value at line 1 column 0"

/-- A process killed while it saves position ten starts again at nine, and at
    zero once the file has been deleted. -/
theorem disk_refines_register_killed :
    let process : Replicator Unit := { Replicator.new sampleConfig with shutdownReceiver := true }
    let inputs := [messageAt 9 (.succeed true), messageAt 10 (.succeed true)]
    let nine : Checkpoint := ⟨ReplicationMessage.formatLsn 9, 0, 1⟩
    let ten : Checkpoint := ⟨ReplicationMessage.formatLsn 10, 0, 2⟩
    (onDisk everyMessageAChange readsNineOrTen (.new "checkpoint.json") .empty
      [.attempt process (.resume none inputs) 7
        [{ CheckpointManager.stopsOpen nineOrTen nine with reached := 4 },
          { CheckpointManager.stopsOpen nineOrTen ten with reached := 3 }],
        .attempt process (.resume none []) 0 [], .delete (.ok ()),
        .attempt process (.resume none []) 0 []]).1.map Seen.requested =
      [some "0/0", some (ReplicationMessage.formatLsn 9), some "0/0"] := by
  intro process inputs nine ten
  have refined := disk_refines_register everyMessageAChange readsNineOrTen
    (.new "checkpoint.json") (by decide) .empty none rfl
    [.attempt process (.resume none inputs) 7
      [{ CheckpointManager.stopsOpen nineOrTen nine with reached := 4 },
        { CheckpointManager.stopsOpen nineOrTen ten with reached := 3 }],
      .attempt process (.resume none []) 0 [], .delete (.ok ()),
      .attempt process (.resume none []) 0 []] ?_ ?_ ?_
  · exact congrArg (List.map Seen.requested) refined.1
  · intro phase member save inSaves
    simp only [List.mem_cons, List.not_mem_nil, or_false] at member
    rcases member with rfl | rfl | rfl | rfl
    · simp only [Phase.saves, List.mem_cons, List.not_mem_nil, or_false] at inSaves
      rcases inSaves with rfl | rfl <;> rfl
    · contradiction
    · contradiction
    · contradiction
  · intro phase member save inSaves
    simp only [List.mem_cons, List.not_mem_nil, or_false] at member
    rcases member with rfl | rfl | rfl | rfl
    · simp only [Phase.saves, List.mem_cons, List.not_mem_nil, or_false] at inSaves
      rcases inSaves with rfl | rfl <;> rfl
    · contradiction
    · contradiction
    · contradiction
  · exact ⟨rfl, rfl, rfl, trivial⟩

end PgCapture
