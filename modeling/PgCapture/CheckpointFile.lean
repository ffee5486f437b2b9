import PgCapture.Data.FileSystem
import PgCapture.Data.Utf8
import PgCapture.Replicator

namespace PgCapture

open PgCapture.Data

/-! # The checkpoint file

A save writes a temporary file next to the checkpoint file and renames it over
the checkpoint file.  The temporary name is the checkpoint's own name with
another extension.
-/

/-- A path by its components; the last one may name a file.  Behind a trailing
slash it can only name a directory. -/
structure Path where
  absolute : Bool
  directory : List String
  fileName : Option String
  trailing : Bool
deriving DecidableEq, Repr

namespace Path

/-- Empty components and `.` do not count, and a path that ends in `..` names
no file. -/
def ofText (text : String) : Path :=
  let written := (text.toList.splitOn '/').map String.ofList
  let parts := written.filter fun part => part ≠ "" ∧ part ≠ "."
  let absolute := text.toList.head? = some '/'
  let trailing := written.getLast? = some "" ∨ written.getLast? = some "."
  match parts.reverse with
  | [] => ⟨absolute, [], none, trailing⟩
  | last :: before =>
      if last = ".." then ⟨absolute, parts, none, trailing⟩
      else ⟨absolute, before.reverse, some last, trailing⟩

/-- The text before and after the last dot. -/
def splitAtLastDot : List Char → Option (List Char × List Char)
  | [] => none
  | char :: rest =>
      match splitAtLastDot rest with
      | some (before, after) => some (char :: before, after)
      | none => if char = '.' then some ([], rest) else none

/-- The stem and the extension of a file name; a leading dot starts no extension. -/
def splitFileName (name : String) : String × Option String :=
  match splitAtLastDot name.toList with
  | some (before, after) =>
      if before = [] then (name, none) else (String.ofList before, some (String.ofList after))
  | none => (name, none)

def extension (path : Path) : Option String := path.fileName.bind fun name => (splitFileName name).2

/-- The old extension goes first.  Of a name like `..tmp` that leaves `..`, which
names no file and takes no extension. -/
def withExtension (path : Path) (extension : String) : Path :=
  match path.fileName with
  | some name =>
      if (splitFileName name).1 = "." ∧ (splitFileName name).2.isSome ∧ path.trailing = false then
        { path with directory := path.directory ++ [".."], fileName := none }
      else { path with fileName := some ((splitFileName name).1 ++ "." ++ extension), trailing := false }
  | none => path

end Path

structure CheckpointManager where
  filePath : Path
deriving DecidableEq, Repr

/-- What a call of `save` does to the file system, one operation after another. -/
inductive SaveStep where
  | create
  | write (piece : Bytes)
  | sync
  | rename
deriving DecidableEq, Repr

/-- An open file and the place the next byte goes to. -/
structure Handle where
  file : Nat
  offset : Nat
deriving DecidableEq, Repr

structure SaveState where
  fs : FileSystem Path
  handle : Option Handle

variable (fromStr : String → Except String Checkpoint) (toStringPretty : Checkpoint → String)

namespace CheckpointManager

def new (checkpointPath : String) : CheckpointManager := ⟨Path.ofText checkpointPath⟩

def tempPath (self : CheckpointManager) : Path := self.filePath.withExtension "tmp"

def load (self : CheckpointManager) (fs : FileSystem Path) : Except Error (Option Checkpoint) :=
  match fs.view self.filePath with
  | none => .ok none
  | some .directory => .error (.io "Is a directory (os error 21)")
  | some (.file bytes) =>
      if Utf8.encode (Utf8.fromUtf8Lossy bytes) = bytes then
        match fromStr (Utf8.fromUtf8Lossy bytes) with
        | .ok checkpoint => .ok (some checkpoint)
        | .error reason => .error (.connection s!"Invalid checkpoint file: {reason}")
      else .error (.io "stream did not contain valid UTF-8")

/-- One operation.  A path without a file name cannot be opened for writing, and
a file cannot be renamed to a path with a trailing slash. -/
def step (self : CheckpointManager) (state : SaveState) : SaveStep → Option SaveState
  | .create =>
      if self.tempPath.fileName = none then none
      else (state.fs.create self.tempPath).map fun opened => ⟨opened.1, some ⟨opened.2, 0⟩⟩
  | .write piece => state.handle.map fun handle =>
      ⟨state.fs.writeAt handle.file handle.offset piece,
        some ⟨handle.file, handle.offset + piece.length⟩⟩
  | .sync => some state
  | .rename =>
      if self.filePath.trailing then none
      else (state.fs.rename self.tempPath self.filePath).map fun fs => ⟨fs, state.handle⟩

/-- Run operations up to the first that fails; whether all of them ran. -/
def runSteps (self : CheckpointManager) : List SaveStep → SaveState → SaveState × Bool
  | [], state => (state, true)
  | operation :: rest, state =>
      match self.step state operation with
      | some next => self.runSteps rest next
      | none => (state, false)

end CheckpointManager

/-- How much of a file is written in the background at once. -/
def maxBufSize : Nat := 2 * 1024 * 1024

/-- The bytes behind the last full buffer of a text. -/
def lastBuffer (length : Nat) : Nat := (length - 1) % maxBufSize + 1

/-- A call of `save` that ends after `reached` operations, by a crash or an error,
or runs to its end.  The text goes out in any number of pieces.  `write_all` has
returned before the last buffer is on the disk, and `sync_all` waits for that
write without a look at its error: the call goes on when it fails, and the file
does without the bytes that are `lost`. -/
structure SaveCall where
  checkpoint : Checkpoint
  pieces : List Bytes
  lost : Bytes
  joined : pieces.flatten ++ lost = Utf8.encode (toStringPretty checkpoint)
  buffered : lost.length ≤ lastBuffer (Utf8.encode (toStringPretty checkpoint)).length
  reached : Nat

/-- A call whose writes do not fail unseen. -/
structure SaveAttempt extends SaveCall toStringPretty where
  seen : lost = []

variable {toStringPretty}

instance : Coe (SaveAttempt toStringPretty) (SaveCall toStringPretty) := ⟨SaveAttempt.toSaveCall⟩

namespace SaveCall

def steps (call : SaveCall toStringPretty) : List SaveStep :=
  .create :: (call.pieces.map .write ++ [.sync, .rename])

end SaveCall

theorem SaveAttempt.flatten_pieces (attempt : SaveAttempt toStringPretty) :
    attempt.pieces.flatten = Utf8.encode (toStringPretty attempt.checkpoint) := by
  rw [← attempt.joined, attempt.seen, List.append_nil]

namespace CheckpointManager

/-- The file system after the call, and whether it completed. -/
def save (self : CheckpointManager) (call : SaveCall toStringPretty) (fs : FileSystem Path) :
    FileSystem Path × Bool :=
  let ended := self.runSteps (call.steps.take call.reached) ⟨fs, none⟩
  (ended.1.fs, ended.2 && call.steps.length ≤ call.reached)

def saveAll (self : CheckpointManager) (fs : FileSystem Path) :
    List (SaveCall toStringPretty) → FileSystem Path
  | [] => fs
  | call :: calls => self.saveAll (self.save call fs).1 calls

/-- The checkpoint of the last save that ran all its operations. -/
def lastSaved (self : CheckpointManager) (fs : FileSystem Path) :
    List (SaveCall toStringPretty) → Option Checkpoint
  | [] => none
  | call :: calls =>
      let next := self.save call fs
      (self.lastSaved next.1 calls).or (if next.2 then some call.checkpoint else none)

/-- The library reads back what it wrote for this checkpoint. -/
def ReadsBack (fromStr : String → Except String Checkpoint) (toStringPretty : Checkpoint → String)
    (checkpoint : Checkpoint) : Prop :=
  fromStr (toStringPretty checkpoint) = .ok checkpoint

/-- Wherever each of the calls that occur stops, a load returns the checkpoint of
    the last one that ran to its end, or what it returned before if none did; a
    call that ran to its end leaves its whole text in the checkpoint file, and one
    that did not leaves the file alone. -/
structure Atomic (manager : CheckpointManager) (occurs : SaveCall toStringPretty → Prop) : Prop where
  loads : ∀ (fs : FileSystem Path) (calls : List (SaveCall toStringPretty)),
    (∀ call ∈ calls, occurs call) →
    (∀ call ∈ calls, ReadsBack fromStr toStringPretty call.checkpoint) →
    manager.load fromStr (manager.saveAll fs calls) =
      match manager.lastSaved fs calls with
      | some checkpoint => .ok (some checkpoint)
      | none => manager.load fromStr fs
  whole : ∀ (fs : FileSystem Path) (call : SaveCall toStringPretty), occurs call →
    (manager.save call fs).2 = true →
    (manager.save call fs).1.view manager.filePath =
      some (.file (Utf8.encode (toStringPretty call.checkpoint)))
  unchanged : ∀ (fs : FileSystem Path) (call : SaveCall toStringPretty), occurs call →
    (manager.save call fs).2 = false →
    (manager.save call fs).1.view manager.filePath = fs.view manager.filePath

/-- The checkpoint file is as it was, and the open file is another one. -/
structure Apart (manager : CheckpointManager) (before : FileSystem Path) (state : SaveState) : Prop where
  target : state.fs.view manager.filePath = before.view manager.filePath
  handle : ∀ handle, state.handle = some handle →
    state.fs.entry manager.filePath ≠ some (.file handle.file)

/-- The temporary file is open behind its last byte and holds these bytes. -/
def Holds (self : CheckpointManager) (written : Bytes) (state : SaveState) : Prop :=
  ∃ file, state.handle = some ⟨file, written.length⟩ ∧
    state.fs.entry self.tempPath = some (.file file) ∧ state.fs.contents file = written

variable {self : CheckpointManager} {before : FileSystem Path} {state next : SaveState}

theorem step_create (opened : self.step state .create = some next) :
    self.tempPath.fileName ≠ none ∧ ∃ file,
      state.fs.create self.tempPath = some (next.fs, file) ∧ next.handle = some ⟨file, 0⟩ := by
  rw [step] at opened
  split at opened
  · contradiction
  · rename_i named
    obtain ⟨result, created, rfl⟩ := Option.map_eq_some_iff.mp opened
    exact ⟨named, result.2, created, rfl⟩

theorem Apart.step (apart : self.Apart before state) (different : self.tempPath ≠ self.filePath)
    {operation : SaveStep} (notRename : operation ≠ .rename)
    (ran : self.step state operation = some next) : self.Apart before next := by
  cases operation with
  | create =>
      obtain ⟨_, file, created, opened⟩ := step_create ran
      obtain ⟨named, _, others⟩ := FileSystem.create_spec created
      refine ⟨(others _ (Ne.symm different)).trans apart.target, ?_⟩
      intro handle isHandle shared
      rw [opened] at isHandle
      cases isHandle
      exact different (next.fs.oneName _ _ _ named shared)
  | write piece =>
      obtain ⟨handle, opened, rfl⟩ := Option.map_eq_some_iff.mp ran
      have other := apart.handle handle opened
      refine ⟨(FileSystem.setContents_view other _).trans apart.target, ?_⟩
      intro later isHandle
      cases isHandle
      exact other
  | sync =>
      cases ran
      exact apart
  | rename => contradiction

theorem Apart.runSteps (apart : self.Apart before state) (different : self.tempPath ≠ self.filePath)
    {operations : List SaveStep} (noRename : .rename ∉ operations) :
    self.Apart before (self.runSteps operations state).1 := by
  induction operations generalizing state with
  | nil => exact apart
  | cons operation operations ih =>
      rw [List.mem_cons, not_or] at noRename
      rw [CheckpointManager.runSteps]
      cases ran : self.step state operation with
      | none => exact apart
      | some next => exact ih (apart.step different (Ne.symm noRename.1) ran) noRename.2

theorem Holds.write {written : Bytes} (holds : self.Holds written state) (piece : Bytes) :
    ∃ next, self.step state (.write piece) = some next ∧ self.Holds (written ++ piece) next := by
  obtain ⟨file, opened, named, contents⟩ := holds
  refine ⟨⟨state.fs.writeAt file written.length piece, some ⟨file, written.length + piece.length⟩⟩,
    ?_, file, ?_, named, ?_⟩
  · rw [CheckpointManager.step, opened]
    rfl
  · rw [List.length_append]
  · rw [FileSystem.writeAt, contents, FileSystem.overwrite_end, FileSystem.setContents_self]

theorem Holds.runSteps {written : Bytes} (holds : self.Holds written state) (pieces : List Bytes)
    (rest : List SaveStep) :
    ∃ next, self.runSteps (pieces.map .write ++ rest) state = self.runSteps rest next ∧
      self.Holds (written ++ pieces.flatten) next := by
  induction pieces generalizing written state with
  | nil =>
      refine ⟨state, rfl, ?_⟩
      rwa [List.flatten_nil, List.append_nil]
  | cons piece pieces ih =>
      obtain ⟨next, ran, holdsNext⟩ := holds.write piece
      obtain ⟨last, rest, holdsLast⟩ := ih holdsNext
      refine ⟨last, ?_, ?_⟩
      · rw [List.map_cons, List.cons_append, CheckpointManager.runSteps, ran]
        exact rest
      · rwa [List.flatten_cons, ← List.append_assoc]

theorem runSteps_append (front rest : List SaveStep) (state : SaveState) :
    self.runSteps (front ++ rest) state =
      if (self.runSteps front state).2 then self.runSteps rest (self.runSteps front state).1
      else self.runSteps front state := by
  induction front generalizing state with
  | nil => rfl
  | cons operation front ih =>
      rw [List.cons_append, runSteps, runSteps]
      cases self.step state operation with
      | none => rfl
      | some next => exact ih next

end CheckpointManager

/-- Everything a save does before it renames. -/
def SaveCall.preparation (call : SaveCall toStringPretty) : List SaveStep :=
  .create :: (call.pieces.map .write ++ [.sync])

theorem SaveCall.steps_eq (call : SaveCall toStringPretty) :
    call.steps = call.preparation ++ [.rename] := by
  rw [steps, preparation, List.cons_append, List.append_assoc]
  rfl

theorem SaveCall.length_steps (call : SaveCall toStringPretty) :
    call.steps.length = call.preparation.length + 1 := by
  rw [call.steps_eq, List.length_append, List.length_singleton]

theorem SaveCall.rename_not_mem_preparation (call : SaveCall toStringPretty) :
    .rename ∉ call.preparation := by
  simp [preparation]

namespace CheckpointManager

variable {self : CheckpointManager} {fs : FileSystem Path} {call : SaveCall toStringPretty}

theorem apart_opened (fs : FileSystem Path) : self.Apart fs ⟨fs, none⟩ where
  target := rfl
  handle := by
    intro handle absent
    contradiction

/-- Once the temporary file is open nothing fails before the rename. -/
theorem prepared {first : SaveState} (opened : self.step ⟨fs, none⟩ .create = some first)
    (call : SaveCall toStringPretty) :
    ∃ last, self.runSteps call.preparation ⟨fs, none⟩ = (last, true) ∧
      self.Holds call.pieces.flatten last := by
  obtain ⟨_, file, created, isHandle⟩ := step_create opened
  obtain ⟨named, emptied, _⟩ := FileSystem.create_spec created
  have holds : self.Holds [] first := ⟨file, isHandle, named, emptied⟩
  obtain ⟨last, ran, holdsLast⟩ := holds.runSteps call.pieces [.sync]
  refine ⟨last, ?_, holdsLast⟩
  rw [SaveCall.preparation, runSteps, opened]
  exact ran

theorem save_unopened (unopened : self.step ⟨fs, none⟩ .create = none) : self.save call fs = (fs, false) := by
  cases reached : call.reached with
  | zero => simp [save, reached, runSteps, SaveCall.steps]
  | succ count => simp [save, reached, SaveCall.steps, runSteps, unopened]

theorem save_early (early : call.reached < call.steps.length) : (self.save call fs).2 = false := by
  have unfinished : ¬ call.steps.length ≤ call.reached := Nat.not_le_of_lt early
  simp [save, unfinished]

/-- A save whose operations all get their turn is decided by the rename. -/
theorem save_late {last : SaveState}
    (ran : self.runSteps call.preparation ⟨fs, none⟩ = (last, true))
    (late : call.steps.length ≤ call.reached) :
    self.save call fs = match self.step last .rename with
      | some next => (next.fs, true)
      | none => (last.fs, false) := by
  have all : self.runSteps (call.steps.take call.reached) ⟨fs, none⟩ = self.runSteps [.rename] last := by
    rw [List.take_of_length_le late, call.steps_eq, runSteps_append, ran]
    rfl
  rw [save, all, runSteps]
  cases self.step last .rename with
  | none => rfl
  | some next => simp [runSteps, late]

theorem save_interrupted (different : self.tempPath ≠ self.filePath)
    (interrupted : (self.save call fs).2 = false) :
    (self.save call fs).1.view self.filePath = fs.view self.filePath := by
  have noRename := call.rename_not_mem_preparation
  have apart := (apart_opened fs).runSteps different noRename
  by_cases early : call.reached ≤ call.preparation.length
  · rw [save, call.steps_eq, List.take_append_of_le_length early]
    exact ((apart_opened fs).runSteps different
      (fun member => noRename (List.mem_of_mem_take member))).target
  · have late : call.steps.length ≤ call.reached := by
      rw [call.length_steps]
      omega
    cases opened : self.step ⟨fs, none⟩ .create with
    | none => rw [save_unopened opened]
    | some first =>
        obtain ⟨last, ran, _⟩ := prepared opened call
        rw [save_late ran late] at interrupted ⊢
        rw [ran] at apart
        cases renamed : self.step last .rename with
        | none => exact apart.target
        | some next =>
            rw [renamed] at interrupted
            contradiction

/-- The temporary file can be opened, and the checkpoint file can be replaced. -/
structure Renames (manager : CheckpointManager) : Prop where
  named : manager.tempPath.fileName ≠ none
  noSlash : manager.filePath.trailing = false

/-- A completed save leaves what it wrote under the checkpoint's name, also when
    the temporary file has that name. -/
theorem save_completed (completed : (self.save call fs).2 = true) :
    self.Renames ∧ call.steps.length ≤ call.reached ∧
      (self.save call fs).1.view self.filePath = some (.file call.pieces.flatten) := by
  have late : call.steps.length ≤ call.reached := by
    by_contra early
    rw [save_early (Nat.lt_of_not_le early)] at completed
    contradiction
  cases opened : self.step ⟨fs, none⟩ .create with
  | none =>
      rw [save_unopened opened] at completed
      contradiction
  | some first =>
      obtain ⟨last, ran, file, _, named, contents⟩ := prepared opened call
      rw [save_late ran late] at completed ⊢
      cases renamed : self.step last .rename with
      | none =>
          rw [renamed] at completed
          contradiction
      | some next =>
          rw [step] at renamed
          split at renamed
          · contradiction
          · rename_i noSlash
            obtain ⟨moved, isMoved, rfl⟩ := Option.map_eq_some_iff.mp renamed
            refine ⟨⟨(step_create opened).1, Bool.eq_false_iff.mpr noSlash⟩, late, ?_⟩
            rw [FileSystem.rename_view named isMoved, contents]

/-- A save whose file opens and whose target is no directory completes, if
    nothing stops it. -/
theorem save_completes {first : SaveState} (opened : self.step ⟨fs, none⟩ .create = some first)
    (renames : self.Renames) (noDirectory : fs.view self.filePath ≠ some .directory)
    (late : call.steps.length ≤ call.reached) : (self.save call fs).2 = true := by
  obtain ⟨last, ran, file, _, named, _⟩ := prepared opened call
  have free : last.fs.view self.filePath ≠ some .directory := by
    by_cases same : self.tempPath = self.filePath
    · rw [← same, FileSystem.view_file named]
      simp
    · have apart := (apart_opened fs).runSteps same call.rename_not_mem_preparation
      rw [ran] at apart
      rw [apart.target]
      exact noDirectory
  obtain ⟨moved, isMoved⟩ := Option.isSome_iff_exists.mp (FileSystem.rename_isSome named free)
  have renamed : self.step last .rename = some ⟨moved, last.handle⟩ := by
    simp only [step, renames.noSlash, Bool.false_eq_true, if_false, isMoved, Option.map_some]
  rw [save_late ran late, renamed]

theorem step_create_eq (named : self.tempPath.fileName ≠ none) :
    self.step ⟨fs, none⟩ .create =
      (fs.create self.tempPath).map fun opened => ⟨opened.1, some ⟨opened.2, 0⟩⟩ := by
  rw [step, if_neg named]

theorem runSteps_entry {state : SaveState} {operations : List SaveStep}
    (quiet : ∀ operation ∈ operations, operation ≠ .create ∧ operation ≠ .rename) :
    (self.runSteps operations state).1.fs.entry = state.fs.entry := by
  induction operations generalizing state with
  | nil => rfl
  | cons operation operations ih =>
      obtain ⟨notCreate, notRename⟩ := quiet operation List.mem_cons_self
      rw [runSteps]
      cases ran : self.step state operation with
      | none => rfl
      | some next =>
          have later : (self.runSteps operations next).1.fs.entry = next.fs.entry :=
            ih fun other member => quiet other (List.mem_cons_of_mem _ member)
          refine later.trans ?_
          cases operation with
          | create => contradiction
          | rename => contradiction
          | sync =>
              cases ran
              rfl
          | write piece =>
              obtain ⟨handle, _, rfl⟩ := Option.map_eq_some_iff.mp ran
              rfl

/-- A save that stops once its file is open leaves a file at the temporary path. -/
theorem save_opened {first : SaveState} (opened : self.step ⟨fs, none⟩ .create = some first)
    (begun : call.reached ≠ 0) (early : call.reached < call.steps.length) :
    (self.save call fs).1.view self.tempPath ≠ none := by
  obtain ⟨_, file, created, _⟩ := step_create opened
  obtain ⟨named, _, _⟩ := FileSystem.create_spec created
  obtain ⟨count, reached⟩ := Nat.exists_eq_succ_of_ne_zero begun
  have inside : count ≤ (call.pieces.map SaveStep.write ++ [SaveStep.sync]).length := by
    rw [SaveCall.length_steps, SaveCall.preparation, List.length_cons] at early
    omega
  have taken : call.steps.take call.reached =
      .create :: (call.pieces.map SaveStep.write ++ [SaveStep.sync]).take count := by
    rw [reached, call.steps_eq, SaveCall.preparation, List.cons_append, List.take_succ_cons,
      List.take_append_of_le_length inside]
  have kept : (self.save call fs).1.entry self.tempPath = some (.file file) := by
    simp only [save, taken, runSteps, opened]
    rw [runSteps_entry, named]
    intro operation member
    rcases List.mem_append.mp (List.mem_of_mem_take member) with write | sync
    · obtain ⟨piece, _, rfl⟩ := List.mem_map.mp write
      simp
    · rw [List.mem_singleton.mp sync]
      simp
  rw [FileSystem.view_file kept]
  simp

theorem load_congr {left right : FileSystem Path}
    (same : left.view self.filePath = right.view self.filePath) :
    self.load fromStr left = self.load fromStr right := by
  rw [load, load, same]

theorem load_saved {checkpoint : Checkpoint}
    (saved : fs.view self.filePath = some (.file (Utf8.encode (toStringPretty checkpoint))))
    (readsBack : ReadsBack fromStr toStringPretty checkpoint) :
    self.load fromStr fs = .ok (some checkpoint) := by
  rw [ReadsBack] at readsBack
  simp only [load, saved, Utf8.fromUtf8Lossy_encode, if_true, readsBack]

/-- One save decides what a load finds; a run of saves is decided by its last
    completed one. -/
theorem atomic_of_save {occurs : SaveCall toStringPretty → Prop}
    (completed : ∀ (fs : FileSystem Path) (call : SaveCall toStringPretty), occurs call →
      (self.save call fs).2 = true → (self.save call fs).1.view self.filePath =
        some (.file (Utf8.encode (toStringPretty call.checkpoint))))
    (interrupted : ∀ (fs : FileSystem Path) (call : SaveCall toStringPretty), occurs call →
      (self.save call fs).2 = false →
        (self.save call fs).1.view self.filePath = fs.view self.filePath) :
    self.Atomic fromStr occurs where
  loads := by
    intro fs calls
    induction calls generalizing fs with
    | nil =>
        intro _ _
        rfl
    | cons call calls ih =>
        intro occur readsBack
        have first := occur call List.mem_cons_self
        have later := ih (self.save call fs).1
          (fun other member => occur other (List.mem_cons_of_mem _ member))
          fun other member => readsBack other (List.mem_cons_of_mem _ member)
        rw [saveAll, later, lastSaved]
        cases self.lastSaved (self.save call fs).1 calls with
        | some checkpoint => rfl
        | none =>
            cases ended : (self.save call fs).2 with
            | true =>
                exact load_saved fromStr (completed fs call first ended)
                  (readsBack call List.mem_cons_self)
            | false => exact load_congr fromStr (interrupted fs call first ended)
  whole := completed
  unchanged := interrupted

end CheckpointManager

namespace Path

theorem splitAtLastDot_eq_some {chars before after : List Char}
    (split : splitAtLastDot chars = some (before, after)) : chars = before ++ '.' :: after := by
  induction chars generalizing before with
  | nil => contradiction
  | cons char rest ih =>
      rw [splitAtLastDot] at split
      cases found : splitAtLastDot rest with
      | some parts =>
          rw [found] at split
          cases split
          rw [List.cons_append, ← ih found]
      | none =>
          rw [found] at split
          by_cases dot : char = '.'
          · simp only [if_pos dot] at split
            cases split
            rw [dot]
            rfl
          · simp only [if_neg dot] at split
            contradiction

/-- Another extension gives another name, unless it is the extension the name has. -/
theorem splitFileName_stem_eq (name extension : String) :
    (splitFileName name).1 ++ "." ++ extension = name ↔ (splitFileName name).2 = some extension := by
  have longer : name ++ "." ++ extension ≠ name := by
    intro same
    have length := congrArg (fun text : String => text.toList.length) same
    simp only [String.toList_append, List.length_append] at length
    have dot : ".".toList.length = 1 := rfl
    omega
  rw [splitFileName]
  cases split : splitAtLastDot name.toList with
  | none => simpa using longer
  | some parts =>
      obtain ⟨before, after⟩ := parts
      have whole := splitAtLastDot_eq_some split
      by_cases hidden : before = []
      · simpa [hidden] using longer
      · have joined : name = String.ofList before ++ "." ++ String.ofList after := by
          apply String.toList_inj.mp
          rw [whole]
          simp
        simp only [if_neg hidden, Option.some.injEq]
        constructor
        · intro same
          rw [joined] at same
          have chars := congrArg String.toList same
          simp only [String.toList_append, String.toList_ofList, List.append_assoc,
            List.append_cancel_left_eq] at chars
          rw [← chars, String.ofList_toList]
        · intro same
          rw [← same, joined]

/-- The path names a file with this extension, and names it without a slash; of
    `..` and the extension the temporary path is the directory above. -/
def HasOwn (path : Path) (extension : String) : Prop :=
  path.extension = some extension ∧ path.fileName ≠ some (".." ++ extension) ∧ path.trailing = false

instance (path : Path) (extension : String) : Decidable (path.HasOwn extension) :=
  inferInstanceAs (Decidable (_ ∧ _ ∧ _))

theorem splitFileName_some {name stem extension : String}
    (split : splitFileName name = (stem, some extension)) : name = stem ++ "." ++ extension := by
  rw [splitFileName] at split
  cases found : splitAtLastDot name.toList with
  | none =>
      rw [found] at split
      cases split
  | some parts =>
      obtain ⟨before, after⟩ := parts
      rw [found] at split
      by_cases hidden : before = []
      · simp [hidden] at split
      · simp only [if_neg hidden, Prod.mk.injEq, Option.some.injEq] at split
        obtain ⟨rfl, rfl⟩ := split
        apply String.toList_inj.mp
        rw [splitAtLastDot_eq_some found]
        simp

/-- The temporary path is the path itself exactly for a name that has the
    extension already, or for no name at all. -/
theorem withExtension_eq_self {path : Path} {extension : String} :
    path.withExtension extension = path ↔ path.fileName = none ∨ path.HasOwn extension := by
  obtain ⟨absolute, directory, fileName, trailing⟩ := path
  cases fileName with
  | none => simp [withExtension]
  | some name =>
      have stem := splitFileName_stem_eq name extension
      cases split : splitFileName name with
      | mk before after =>
          rw [split] at stem
          simp only [withExtension, HasOwn, Path.extension, Option.bind_some, split, reduceCtorEq, false_or,
            ne_eq, Option.some.injEq]
          by_cases dots : before = "." ∧ after.isSome ∧ trailing = false
          · rw [if_pos dots]
            refine iff_of_false (by simp) ?_
            rintro ⟨same, other, _⟩
            subst same
            apply other
            rw [splitFileName_some split, dots.1]
            rfl
          · rw [if_neg dots]
            simp only [Path.mk.injEq, Option.some.injEq, true_and, stem, eq_comm (a := false)]
            constructor
            · rintro ⟨same, noSlash⟩
              subst same
              refine ⟨rfl, ?_, noSlash⟩
              intro isDots
              have joined := splitFileName_some split
              rw [isDots] at joined
              have chars := congrArg String.toList joined
              simp only [String.toList_append, List.append_cancel_right_eq] at chars
              refine dots ⟨String.toList_inj.mp ?_, rfl, noSlash⟩
              have twoDots : "..".toList = ".".toList ++ ".".toList := rfl
              rw [twoDots, List.append_cancel_right_eq] at chars
              exact chars.symm
            · rintro ⟨same, _, noSlash⟩
              exact ⟨same, noSlash⟩

end Path

namespace CheckpointManager

/-- The call does no harm on this path.  Where a rename can come about, no write of
    its last buffer fails unless it stops before the rename; and where the
    checkpoint file is its own temporary file, it does not stop in between. -/
def Spares (manager : CheckpointManager) (call : SaveCall toStringPretty) : Prop :=
  manager.Renames → (call.lost = [] ∨ call.reached < call.steps.length) ∧
    (manager.filePath.HasOwn "tmp" → call.reached = 0 ∨ call.steps.length ≤ call.reached)

theorem Renames.fileName {self : CheckpointManager} (renames : self.Renames) :
    self.filePath.fileName ≠ none := by
  intro nameless
  apply renames.named
  rw [tempPath, Path.withExtension, nameless]
  exact nameless

theorem Renames.opened_empty {self : CheckpointManager} (renames : self.Renames) :
    self.step ⟨.empty, none⟩ .create =
      some ⟨FileSystem.empty.addFile self.tempPath, some ⟨0, 0⟩⟩ := by
  rw [step_create_eq renames.named]
  rfl

theorem Spares.whole {self : CheckpointManager} {fs : FileSystem Path} {call : SaveCall toStringPretty}
    (spares : self.Spares call) (completed : (self.save call fs).2 = true) :
    (self.save call fs).1.view self.filePath =
      some (.file (Utf8.encode (toStringPretty call.checkpoint))) := by
  obtain ⟨renames, late, written⟩ := save_completed completed
  have kept : call.lost = [] := (spares renames).1.resolve_right (Nat.not_lt_of_le late)
  rw [written, ← call.joined, kept, List.append_nil]

theorem Spares.unchanged {self : CheckpointManager} {fs : FileSystem Path} {call : SaveCall toStringPretty}
    (spares : self.Spares call) (interrupted : (self.save call fs).2 = false) :
    (self.save call fs).1.view self.filePath = fs.view self.filePath := by
  by_cases different : self.tempPath ≠ self.filePath
  · exact save_interrupted different interrupted
  · rw [not_not] at different
    cases opened : self.step ⟨fs, none⟩ .create with
    | none => rw [save_unopened opened]
    | some first =>
        have named := (step_create opened).1
        have own : self.filePath.HasOwn "tmp" :=
          (Path.withExtension_eq_self.mp different).resolve_left (different ▸ named)
        rcases (spares ⟨named, own.2.2⟩).2 own with zero | late
        · simp [save, zero, runSteps]
        · have noDirectory : fs.view self.filePath ≠ some .directory := by
            obtain ⟨_, file, created, _⟩ := step_create opened
            rw [← different]
            exact FileSystem.create_noDirectory created
          rw [save_completes opened ⟨named, own.2.2⟩ noDirectory late] at interrupted
          contradiction

theorem Atomic.spares {self : CheckpointManager} {occurs : SaveCall toStringPretty → Prop}
    (atomic : self.Atomic fromStr occurs) {call : SaveCall toStringPretty} (occur : occurs call) :
    self.Spares call := by
  intro renames
  have opened := renames.opened_empty
  constructor
  · by_contra lossy
    rw [not_or, Nat.not_lt] at lossy
    obtain ⟨lost, late⟩ := lossy
    have completed : (self.save call .empty).2 = true :=
      save_completes opened renames (by simp [FileSystem.view, FileSystem.empty]) late
    have whole := atomic.whole .empty call occur completed
    rw [(save_completed completed).2.2, ← call.joined] at whole
    have same := Entry.file.inj (Option.some.inj whole)
    exact lost (List.self_eq_append_right.mp same)
  · intro own
    by_contra stops
    rw [not_or, Nat.not_le] at stops
    obtain ⟨begun, early⟩ := stops
    have same : self.tempPath = self.filePath := Path.withExtension_eq_self.mpr (.inr own)
    have there := save_opened opened begun early
    rw [same, atomic.unchanged .empty call occur (save_early early)] at there
    exact there rfl

/-- Whatever calls occur: the file is replaced atomically by all of them exactly
    when none of them does harm. -/
theorem atomic_iff (checkpointPath : String) (occurs : SaveCall toStringPretty → Prop) :
    (new checkpointPath).Atomic fromStr occurs ↔
      ∀ call, occurs call → (new checkpointPath).Spares call := by
  constructor
  · intro atomic call occur
    exact atomic.spares fromStr occur
  · intro spares
    exact atomic_of_save fromStr (fun fs call occur => (spares call occur).whole)
      fun fs call occur => (spares call occur).unchanged

variable (toStringPretty)

/-- A save that stops as soon as its file is open. -/
def stopsOpen (checkpoint : Checkpoint) : SaveAttempt toStringPretty where
  checkpoint := checkpoint
  pieces := [Utf8.encode (toStringPretty checkpoint)]
  lost := []
  joined := by rw [List.flatten_cons, List.flatten_nil, List.append_nil, List.append_nil]
  buffered := Nat.zero_le _
  reached := 1
  seen := rfl

def storedText : Checkpoint → String := fun _ =>
  "\x7b\n  \"lsn\": \"0/9\",\n  \"timestamp\": \"1970-01-01T00:00:00Z\",\n  \"message_count\": 1\n\x7d"

def readStored (text : String) : Except String Checkpoint :=
  if text = "" then .error "EOF while parsing a value at line 1 column 0" else .ok ⟨"0/9", 0, 1⟩

def runsThrough : SaveAttempt storedText :=
  { stopsOpen storedText ⟨"0/9", 0, 1⟩ with reached := 4 }

theorem load_after_interrupted_save :
    (new "checkpoint.tmp").lastSaved .empty
        [runsThrough.toSaveCall, (stopsOpen storedText ⟨"0/10", 5, 2⟩).toSaveCall] = some ⟨"0/9", 0, 1⟩ ∧
      (new "checkpoint.tmp").load readStored ((new "checkpoint.tmp").saveAll .empty
          [runsThrough.toSaveCall, (stopsOpen storedText ⟨"0/10", 5, 2⟩).toSaveCall]) =
        .error (.connection
          "Invalid checkpoint file: EOF while parsing a value at line 1 column 0") := by
  constructor
  · rfl
  · rfl

/-- A save on a full disk: not one byte of the text is written, and nobody sees it. -/
def losesAll : SaveCall storedText where
  checkpoint := ⟨"0/9", 0, 1⟩
  pieces := []
  lost := Utf8.encode (storedText ⟨"0/9", 0, 1⟩)
  joined := rfl
  buffered := by decide
  reached := 3

example : (new "checkpoint.json").lastSaved .empty [losesAll] = some ⟨"0/9", 0, 1⟩ ∧
    (new "checkpoint.json").load readStored ((new "checkpoint.json").saveAll .empty [losesAll]) =
      .error (.connection "Invalid checkpoint file: EOF while parsing a value at line 1 column 0") :=
  ⟨rfl, rfl⟩

end CheckpointManager

end PgCapture
