import PgCapture.CheckpointFile

namespace PgCapture

open PgCapture.Data

/-! # Overlapping saves

Several calls of `save` share the temporary file.  They take turns at the file
system in any order, one operation at a time, and any of them may stop for good.
-/

/-- Who opened the temporary file last, and who has written what to it since. -/
structure Draft (ι : Type) where
  creator : ι
  written : List (ι × Bytes)
deriving DecidableEq, Repr

/-- The calls on their way.  `draft` is a record of the run; no call reads it. -/
structure OverlappingSaves (ι : Type) where
  fs : FileSystem Path
  handle : ι → Option Handle
  remaining : ι → List SaveStep
  draft : Option (Draft ι)

namespace OverlappingSaves

variable {ι : Type} {toStringPretty : Checkpoint → String}

def begin (fs : FileSystem Path) (calls : ι → SaveAttempt toStringPretty) : OverlappingSaves ι :=
  { fs
    handle := fun _ => none
    remaining := fun call => (calls call).steps
    draft := none }

def draftAfter (self : CheckpointManager) (state : OverlappingSaves ι) (call : ι) :
    SaveStep → Option (Draft ι)
  | .create => some { creator := call, written := [] }
  | .write piece =>
      if ∃ handle ∈ state.handle call, state.fs.entry self.tempPath = some (.file handle.file) then
        state.draft.map fun draft => { draft with written := draft.written ++ [(call, piece)] }
      else state.draft
  | .sync => state.draft
  | .rename => none

section Whole

variable (self : CheckpointManager) (calls : ι → SaveAttempt toStringPretty)

/-- There is no checkpoint file, or it is the whole text of the checkpoint that
was saved before or of one whose save has begun. -/
def Whole (saved : Option Checkpoint) (begun : List ι) (fs : FileSystem Path) : Prop :=
  fs.view self.filePath = none ∨ ∃ checkpoint,
    (saved = some checkpoint ∨ ∃ call ∈ begun, (calls call).checkpoint = checkpoint) ∧
      fs.view self.filePath = some (.file (Utf8.encode (toStringPretty checkpoint)))

variable {self calls}

theorem Whole.mono {saved : Option Checkpoint} {begun : List ι} {fs next : FileSystem Path}
    (whole : Whole self calls saved begun fs)
    (same : next.view self.filePath = fs.view self.filePath) (call : ι) :
    Whole self calls saved (begun ++ [call]) next := by
  rw [Whole, same]
  rcases whole with absent | ⟨checkpoint, source, text⟩
  · exact .inl absent
  · refine .inr ⟨checkpoint, ?_, text⟩
    rcases source with before | ⟨other, member, same⟩
    · exact .inl before
    · exact .inr ⟨other, List.mem_append_left _ member, same⟩

end Whole

section Turns

variable [DecidableEq ι] (self : CheckpointManager) (calls : ι → SaveAttempt toStringPretty)

def proceed (state : OverlappingSaves ι) (call : ι) (operation : SaveStep) (rest : List SaveStep)
    (next : SaveState) : OverlappingSaves ι :=
  { fs := next.fs
    handle := Function.update state.handle call next.handle
    remaining := Function.update state.remaining call rest
    draft := state.draftAfter self call operation }

/-- A call's next operation; an operation that fails ends the call. -/
def step (state : OverlappingSaves ι) (call : ι) : OverlappingSaves ι :=
  match state.remaining call with
  | [] => state
  | operation :: rest =>
      match self.step ⟨state.fs, state.handle call⟩ operation with
      | some next => state.proceed self call operation rest next
      | none => { state with remaining := Function.update state.remaining call [] }

def run (state : OverlappingSaves ι) (schedule : List ι) : OverlappingSaves ι :=
  schedule.foldl (step self) state

/-- The call does not write to a file that has become the checkpoint file, and
does not rename a temporary file unless it has all the pieces of the call that
opened it last and nothing else. -/
def Orderly (state : OverlappingSaves ι) (call : ι) : Prop :=
  match state.remaining call with
  | .write _ :: _ => ∀ handle ∈ state.handle call,
      state.fs.entry self.filePath ≠ some (.file handle.file)
  | .rename :: _ => state.fs.entry self.tempPath ≠ none → ∃ draft ∈ state.draft,
      draft.written = (calls draft.creator).pieces.map fun piece => (draft.creator, piece)
  | _ => True

def OrderlyRun (state : OverlappingSaves ι) : List ι → Prop
  | [] => True
  | call :: schedule =>
      Orderly self calls state call ∧ OrderlyRun (state.step self call) schedule

end Turns

/-- What an orderly run keeps: a draft that only its creator has written to is
what the creator has written so far. -/
structure Ordered (manager : CheckpointManager) (calls : ι → SaveAttempt toStringPretty)
    (saved : Option Checkpoint) (begun : List ι) (state : OverlappingSaves ι) : Prop where
  whole : Whole manager calls saved begun state.fs
  begun : ∀ draft ∈ state.draft, draft.creator ∈ begun
  holds : ∀ draft ∈ state.draft, ∀ file, state.fs.entry manager.tempPath = some (.file file) →
    (∀ write ∈ draft.written, write.1 = draft.creator) →
      state.fs.contents file = (draft.written.map Prod.snd).flatten ∧
        state.handle draft.creator = some ⟨file, (draft.written.map Prod.snd).flatten.length⟩

/-- A turn after which nothing but the remaining operations is different. -/
theorem Ordered.idle {self : CheckpointManager} {calls : ι → SaveAttempt toStringPretty}
    {saved : Option Checkpoint} {begun : List ι} {state same : OverlappingSaves ι}
    (ordered : Ordered self calls saved begun state) (call : ι)
    (fs : same.fs = state.fs) (handle : same.handle = state.handle)
    (draft : same.draft = state.draft) : Ordered self calls saved (begun ++ [call]) same := by
  refine ⟨ordered.whole.mono (by rw [fs]) call, ?_, ?_⟩
  · intro other isDraft
    rw [draft] at isDraft
    exact List.mem_append_left _ (ordered.begun other isDraft)
  · rw [fs, handle, draft]
    exact ordered.holds

section Steps

variable [DecidableEq ι] {self : CheckpointManager} {calls : ι → SaveAttempt toStringPretty}
  {saved : Option Checkpoint} {begun : List ι} {state : OverlappingSaves ι} {call : ι} {next : SaveState}

theorem Ordered.create (ordered : Ordered self calls saved begun state)
    (different : self.tempPath ≠ self.filePath)
    (ran : self.step ⟨state.fs, state.handle call⟩ .create = some next) (rest : List SaveStep) :
    Ordered self calls saved (begun ++ [call]) (state.proceed self call .create rest next) := by
  obtain ⟨_, file, created, opened⟩ := CheckpointManager.step_create ran
  obtain ⟨named, emptied, others⟩ := FileSystem.create_spec created
  refine ⟨ordered.whole.mono (others _ (Ne.symm different)) call, ?_, ?_⟩
  · intro draft isDraft
    cases isDraft
    exact List.mem_append_right _ List.mem_cons_self
  · intro draft isDraft other found _
    cases isDraft
    obtain rfl : file = other := by
      rw [proceed, named] at found
      cases found
      rfl
    refine ⟨emptied, ?_⟩
    simp only [proceed, Function.update_self, opened, List.map_nil, List.flatten_nil, List.length_nil]

theorem Ordered.write (ordered : Ordered self calls saved begun state) {piece : Bytes}
    (apart : ∀ handle ∈ state.handle call, state.fs.entry self.filePath ≠ some (.file handle.file))
    (ran : self.step ⟨state.fs, state.handle call⟩ (.write piece) = some next)
    (rest : List SaveStep) :
    Ordered self calls saved (begun ++ [call]) (state.proceed self call (.write piece) rest next) := by
  obtain ⟨handle, opened, rfl⟩ := Option.map_eq_some_iff.mp ran
  have isHandle : state.handle call = some handle := opened
  refine ⟨ordered.whole.mono (FileSystem.setContents_view (apart handle isHandle) _) call, ?_, ?_⟩
  · intro draft isDraft
    rw [proceed, draftAfter] at isDraft
    split at isDraft
    · obtain ⟨before, found, rfl⟩ := Option.map_eq_some_iff.mp isDraft
      exact List.mem_append_left _ (ordered.begun before found)
    · exact List.mem_append_left _ (ordered.begun draft isDraft)
  · intro draft isDraft file named own
    have named : state.fs.entry self.tempPath = some (.file file) := named
    simp only [proceed, draftAfter, isHandle, Option.mem_def, Option.some.injEq, exists_eq_left',
      named, Entry.file.injEq] at isDraft
    by_cases same : file = handle.file
    · subst same
      rw [if_pos rfl] at isDraft
      obtain ⟨before, found, rfl⟩ := Option.map_eq_some_iff.mp isDraft
      have byCreator : call = before.creator := own (call, piece)
        (List.mem_append_right _ List.mem_cons_self)
      obtain ⟨contents, position⟩ := ordered.holds before found _ named
        fun write member => own write (List.mem_append_left _ member)
      rw [← byCreator, isHandle, Option.some.injEq] at position
      have offset := congrArg Handle.offset position
      simp only [proceed, List.map_append, List.map_cons, List.map_nil, List.flatten_append,
        List.flatten_cons, List.flatten_nil, List.append_nil, List.length_append]
      refine ⟨?_, ?_⟩
      · rw [FileSystem.writeAt, FileSystem.setContents_self, contents, offset,
          FileSystem.overwrite_end]
      · rw [← byCreator, Function.update_self, offset]
    · rw [if_neg same] at isDraft
      obtain ⟨contents, position⟩ := ordered.holds draft isDraft file named own
      have notCreator : draft.creator ≠ call := by
        intro isCall
        rw [isCall, isHandle, Option.some.injEq] at position
        exact same (congrArg Handle.file position).symm
      refine ⟨?_, ?_⟩
      · simp only [proceed, FileSystem.writeAt, FileSystem.setContents]
        rw [Function.update_of_ne same, contents]
      · simp only [proceed, Function.update_of_ne notCreator, position]

theorem Ordered.rename (ordered : Ordered self calls saved begun state)
    (different : self.tempPath ≠ self.filePath)
    (complete : state.fs.entry self.tempPath ≠ none → ∃ draft ∈ state.draft,
      draft.written = (calls draft.creator).pieces.map fun piece => (draft.creator, piece))
    (ran : self.step ⟨state.fs, state.handle call⟩ .rename = some next) (rest : List SaveStep) :
    Ordered self calls saved (begun ++ [call]) (state.proceed self call .rename rest next) := by
  rw [CheckpointManager.step] at ran
  split at ran
  · contradiction
  · obtain ⟨fs, renamed, rfl⟩ := Option.map_eq_some_iff.mp ran
    obtain ⟨file, named⟩ := FileSystem.rename_source renamed different
    obtain ⟨draft, isDraft, pieces⟩ := complete (by rw [named]; exact Option.some_ne_none _)
    have own : ∀ write ∈ draft.written, write.1 = draft.creator := by
      rw [pieces]
      intro write member
      obtain ⟨piece, _, rfl⟩ := List.mem_map.mp member
      rfl
    have contents := (ordered.holds draft isDraft file named own).1
    have text : (draft.written.map Prod.snd).flatten =
        Utf8.encode (toStringPretty (calls draft.creator).checkpoint) := by
      rw [pieces, List.map_map, ← (calls draft.creator).flatten_pieces]
      exact congrArg List.flatten (List.map_id _)
    have noDraft : ∀ draft, draft ∉ (state.proceed self call .rename rest ⟨fs, state.handle call⟩).draft :=
      fun draft isDraft => by cases isDraft
    refine ⟨.inr ⟨(calls draft.creator).checkpoint, .inr ⟨draft.creator, ?_, rfl⟩, ?_⟩,
      fun other isOther => absurd isOther (noDraft other),
      fun other isOther => absurd isOther (noDraft other)⟩
    · exact List.mem_append_left _ (ordered.begun draft isDraft)
    · rw [proceed, FileSystem.rename_view named renamed, contents, text]

theorem Ordered.step (ordered : Ordered self calls saved begun state)
    (different : self.tempPath ≠ self.filePath) (orderly : Orderly self calls state call) :
    Ordered self calls saved (begun ++ [call]) (state.step self call) := by
  cases left : state.remaining call with
  | nil =>
      simp only [OverlappingSaves.step, left]
      exact ordered.idle call rfl rfl rfl
  | cons operation rest =>
      simp only [OverlappingSaves.step, left]
      rw [Orderly, left] at orderly
      cases ran : self.step ⟨state.fs, state.handle call⟩ operation with
      | none => exact ordered.idle call rfl rfl rfl
      | some next =>
          cases operation with
          | create => exact ordered.create different ran rest
          | write piece => exact ordered.write orderly ran rest
          | sync =>
              cases ran
              exact ordered.idle call rfl (Function.update_eq_self _ _) rfl
          | rename => exact ordered.rename different orderly ran rest

end Steps

section Runs

variable [DecidableEq ι] {self : CheckpointManager} {calls : ι → SaveAttempt toStringPretty}
  {saved : Option Checkpoint} {state : OverlappingSaves ι}

theorem Ordered.run {begun : List ι} (ordered : Ordered self calls saved begun state)
    (different : self.tempPath ≠ self.filePath) {schedule moment : List ι}
    (orderly : OrderlyRun self calls state schedule) (reached : moment <+: schedule) :
    Ordered self calls saved (begun ++ moment) (state.run self moment) := by
  induction moment generalizing begun state schedule with
  | nil =>
      rw [List.append_nil]
      exact ordered
  | cons call moment ih =>
      obtain ⟨rest, rfl⟩ := reached
      have next := ordered.step different orderly.1
      have later := ih next orderly.2 (List.prefix_append moment rest)
      rw [List.append_assoc] at later
      exact later

/-- In an orderly run of overlapping saves the checkpoint file is whole at
every moment. -/
theorem whole_at_every_moment (different : self.tempPath ≠ self.filePath)
    (fs : FileSystem Path) (before : Whole self calls saved [] fs) (schedule : List ι)
    (orderly : OrderlyRun self calls (begin fs calls) schedule) :
    ∀ moment, moment <+: schedule →
      Whole self calls saved moment ((begin fs calls).run self moment).fs := by
  intro moment reached
  have start : Ordered self calls saved [] (begin fs calls) := by
    refine ⟨before, ?_, ?_⟩
    · intro draft isDraft
      cases isDraft
    · intro draft isDraft
      cases isDraft
  exact (start.run different orderly reached).whole

end Runs

open CheckpointManager

def twoSaves : Fin 2 → SaveAttempt storedText
  | 0 => runsThrough
  | 1 => stopsOpen storedText ⟨"0/10", 5, 2⟩

/-- The second save runs to its end while the first has its file open. -/
theorem whole_beside_open_save :
    Whole (new "checkpoint.json") twoSaves none [0, 1, 1, 1, 1]
      ((begin .empty twoSaves).run (new "checkpoint.json") [0, 1, 1, 1, 1]).fs := by
  have orderly : OrderlyRun (new "checkpoint.json") twoSaves (begin .empty twoSaves)
      [0, 1, 1, 1, 1] := by
    refine ⟨trivial, trivial, ?_, trivial, fun _ => ⟨_, rfl, rfl⟩, trivial⟩
    intro handle opened
    cases opened
    decide
  exact whole_at_every_moment (by decide) .empty (.inl rfl) _ orderly _ List.prefix_rfl

/-- The second save opens the temporary file between the first one's last write
and its rename. -/
theorem interleaved_saves_empty :
    ((begin .empty twoSaves).run (new "checkpoint.json") [0, 0, 0, 1, 0]).fs.view
        (new "checkpoint.json").filePath = some (.file []) ∧
      ¬ Whole (new "checkpoint.json") twoSaves none [0, 0, 0, 1, 0]
        ((begin .empty twoSaves).run (new "checkpoint.json") [0, 0, 0, 1, 0]).fs := by
  have empty : ((begin .empty twoSaves).run (new "checkpoint.json") [0, 0, 0, 1, 0]).fs.view
      (new "checkpoint.json").filePath = some (.file []) := by rfl
  refine ⟨empty, ?_⟩
  rw [Whole, empty]
  rintro (absent | ⟨checkpoint, _, text⟩)
  · cases absent
  · have content : Utf8.encode (storedText ⟨"0/9", 0, 1⟩) ≠ [] := by decide
    exact content (Entry.file.inj (Option.some.inj text)).symm

end OverlappingSaves

end PgCapture
