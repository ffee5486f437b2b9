import PgCapture.Data.Cursor
import Mathlib.Logic.Function.Basic

namespace PgCapture.Data

/-! # Named files

Names lead to files, and a writer that has opened a file writes to the file, not
to the name: renaming moves a name and leaves the contents alone.  Every file
has at most one name.
-/

/-- What a name leads to. -/
inductive Entry (α : Type) where
  | file (contents : α)
  | directory
deriving DecidableEq, Repr

structure FileSystem (κ : Type) where
  entry : κ → Option (Entry Nat)
  contents : Nat → Bytes
  used : Nat
  inUse : ∀ name file, entry name = some (.file file) → file < used
  oneName : ∀ left right file, entry left = some (.file file) → entry right = some (.file file) →
    left = right

namespace FileSystem

variable {κ : Type}

def empty : FileSystem κ where
  entry := fun _ => none
  contents := fun _ => []
  used := 0
  inUse := by
    intro name file absent
    contradiction
  oneName := by
    intro left right file absent
    contradiction

/-- What a reader of this name finds. -/
def view (fs : FileSystem κ) (name : κ) : Option (Entry Bytes) :=
  match fs.entry name with
  | some (.file file) => some (.file (fs.contents file))
  | some .directory => some .directory
  | none => none

theorem view_file {fs : FileSystem κ} {name : κ} {file : Nat}
    (found : fs.entry name = some (.file file)) : fs.view name = some (.file (fs.contents file)) := by
  simp only [view, found]

def setContents (fs : FileSystem κ) (file : Nat) (bytes : Bytes) : FileSystem κ :=
  { fs with contents := Function.update fs.contents file bytes }

@[simp] theorem setContents_entry (fs : FileSystem κ) (file : Nat) (bytes : Bytes) :
    (fs.setContents file bytes).entry = fs.entry := rfl

@[simp] theorem setContents_self (fs : FileSystem κ) (file : Nat) (bytes : Bytes) :
    (fs.setContents file bytes).contents file = bytes := Function.update_self _ _ _

theorem setContents_view {fs : FileSystem κ} {name : κ} {file : Nat}
    (other : fs.entry name ≠ some (.file file)) (bytes : Bytes) :
    (fs.setContents file bytes).view name = fs.view name := by
  simp only [view, setContents_entry]
  cases found : fs.entry name with
  | none => rfl
  | some entry =>
      cases entry with
      | directory => rfl
      | file kept =>
          have different : kept ≠ file := by
            intro same
            exact other (by rw [found, same])
          simp only [setContents, Function.update_of_ne different]

/-- Bytes written at an offset; a gap behind the end is filled with zeros. -/
def overwrite (bytes : Bytes) (offset : Nat) (piece : Bytes) : Bytes :=
  bytes.take offset ++ List.replicate (offset - bytes.length) 0 ++ piece ++
    bytes.drop (offset + piece.length)

theorem overwrite_end (bytes piece : Bytes) : overwrite bytes bytes.length piece = bytes ++ piece := by
  have past : bytes.drop (bytes.length + piece.length) = [] :=
    List.drop_eq_nil_of_le (Nat.le_add_right _ _)
  rw [overwrite, List.take_length, Nat.sub_self, past, List.append_nil]
  simp

def writeAt (fs : FileSystem κ) (file offset : Nat) (piece : Bytes) : FileSystem κ :=
  fs.setContents file (overwrite (fs.contents file) offset piece)

variable [DecidableEq κ]

def addFile (fs : FileSystem κ) (name : κ) : FileSystem κ where
  entry := Function.update fs.entry name (some (.file fs.used))
  contents := Function.update fs.contents fs.used []
  used := fs.used + 1
  inUse := by
    intro other file found
    by_cases same : other = name
    · subst same
      rw [Function.update_self] at found
      cases found
      exact Nat.lt_succ_self _
    · rw [Function.update_of_ne same] at found
      exact Nat.lt_succ_of_lt (fs.inUse other file found)
  oneName := by
    intro left right file foundLeft foundRight
    by_cases sameLeft : left = name
    · by_cases sameRight : right = name
      · rw [sameLeft, sameRight]
      · subst sameLeft
        rw [Function.update_self] at foundLeft
        rw [Function.update_of_ne sameRight] at foundRight
        cases foundLeft
        exact absurd (fs.inUse right _ foundRight) (Nat.lt_irrefl _)
    · rw [Function.update_of_ne sameLeft] at foundLeft
      by_cases sameRight : right = name
      · subst sameRight
        rw [Function.update_self] at foundRight
        cases foundRight
        exact absurd (fs.inUse left _ foundLeft) (Nat.lt_irrefl _)
      · rw [Function.update_of_ne sameRight] at foundRight
        exact fs.oneName left right file foundLeft foundRight

/-- Open a file for writing from its start, with nothing in it. -/
def create (fs : FileSystem κ) (name : κ) : Option (FileSystem κ × Nat) :=
  match fs.entry name with
  | some (.file file) => some (fs.setContents file [], file)
  | some .directory => none
  | none => some (fs.addFile name, fs.used)

theorem create_spec {fs next : FileSystem κ} {name : κ} {file : Nat}
    (created : fs.create name = some (next, file)) :
    next.entry name = some (.file file) ∧ next.contents file = [] ∧
      ∀ other, other ≠ name → next.view other = fs.view other := by
  rw [create] at created
  split at created
  · rename_i kept found
    cases created
    refine ⟨found, setContents_self fs _ [], ?_⟩
    intro other different
    apply setContents_view
    intro shared
    exact different (fs.oneName other name _ shared found)
  · contradiction
  · cases created
    refine ⟨Function.update_self _ _ _, Function.update_self _ _ _, ?_⟩
    intro other different
    simp only [view, addFile, Function.update_of_ne different]
    cases found : fs.entry other with
    | none => rfl
    | some entry =>
        cases entry with
        | directory => rfl
        | file kept =>
            have older := fs.inUse other kept found
            simp only [Function.update_of_ne (Nat.ne_of_lt older)]

theorem create_noDirectory {fs next : FileSystem κ} {name : κ} {file : Nat}
    (created : fs.create name = some (next, file)) : fs.view name ≠ some .directory := by
  rw [create] at created
  split at created
  · rename_i kept found
    rw [view_file found]
    simp
  · contradiction
  · rename_i absent
    rw [view, absent]
    simp

/-- Give the file of one name the other name, over a file that has it. -/
def moveFile (fs : FileSystem κ) (source target : κ) (file : Nat)
    (found : fs.entry source = some (.file file)) (different : source ≠ target) : FileSystem κ where
  entry := Function.update (Function.update fs.entry target (some (.file file))) source none
  contents := fs.contents
  used := fs.used
  inUse := by
    intro name other foundName
    by_cases isSource : name = source
    · subst isSource
      rw [Function.update_self] at foundName
      contradiction
    · rw [Function.update_of_ne isSource] at foundName
      by_cases isTarget : name = target
      · subst isTarget
        rw [Function.update_self] at foundName
        cases foundName
        exact fs.inUse source _ found
      · rw [Function.update_of_ne isTarget] at foundName
        exact fs.inUse name other foundName
  oneName := by
    have origin : ∀ name other, Function.update (Function.update fs.entry target (some (.file file)))
        source none name = some (.file other) →
        (name = target ∧ other = file) ∨ (name ≠ target ∧ name ≠ source ∧
          fs.entry name = some (.file other)) := by
      intro name other foundName
      by_cases isSource : name = source
      · subst isSource
        rw [Function.update_self] at foundName
        contradiction
      · rw [Function.update_of_ne isSource] at foundName
        by_cases isTarget : name = target
        · subst isTarget
          rw [Function.update_self] at foundName
          cases foundName
          exact Or.inl ⟨rfl, rfl⟩
        · rw [Function.update_of_ne isTarget] at foundName
          exact Or.inr ⟨isTarget, isSource, foundName⟩
    intro left right other foundLeft foundRight
    rcases origin left other foundLeft with ⟨isTarget, rfl⟩ | ⟨_, leftNotSource, leftFound⟩
    · rcases origin right _ foundRight with ⟨alsoTarget, _⟩ | ⟨_, rightNotSource, rightFound⟩
      · rw [isTarget, alsoTarget]
      · exact absurd (fs.oneName right source _ rightFound found) rightNotSource
    · rcases origin right other foundRight with ⟨_, rfl⟩ | ⟨_, _, rightFound⟩
      · exact absurd (fs.oneName left source _ leftFound found) leftNotSource
      · exact fs.oneName left right other leftFound rightFound

/-- Rename a file; onto itself it changes nothing. -/
def rename (fs : FileSystem κ) (source target : κ) : Option (FileSystem κ) :=
  if different : source ≠ target then
    match found : fs.entry source, fs.entry target with
    | some (.file file), none => some (fs.moveFile source target file found different)
    | some (.file file), some (.file _) => some (fs.moveFile source target file found different)
    | _, _ => none
  else if (fs.entry source).isSome then some fs
  else none

theorem rename_source {fs next : FileSystem κ} {source target : κ}
    (renamed : fs.rename source target = some next) (different : source ≠ target) :
    ∃ file, fs.entry source = some (.file file) := by
  rw [rename, dif_pos different] at renamed
  split at renamed
  · rename_i file found _
    exact ⟨file, found⟩
  · rename_i file _ found _
    exact ⟨file, found⟩
  · contradiction

theorem rename_view {fs next : FileSystem κ} {source target : κ} {file : Nat}
    (found : fs.entry source = some (.file file)) (renamed : fs.rename source target = some next) :
    next.view target = some (.file (fs.contents file)) := by
  by_cases different : source ≠ target
  · have moved : next = fs.moveFile source target file found different := by
      rw [rename, dif_pos different] at renamed
      split at renamed
      · rename_i other isFile _
        obtain rfl : other = file := by
          rw [found] at isFile
          cases isFile
          rfl
        exact (Option.some.inj renamed).symm
      · rename_i other _ isFile _
        obtain rfl : other = file := by
          rw [found] at isFile
          cases isFile
          rfl
        exact (Option.some.inj renamed).symm
      · contradiction
    subst moved
    simp only [view, moveFile, Function.update_of_ne (Ne.symm different), Function.update_self]
  · rw [rename, dif_neg different, found, Option.isSome_some, if_pos rfl] at renamed
    cases renamed
    rw [not_not] at different
    exact view_file (different ▸ found)

/-- A file can be renamed over anything but a directory. -/
theorem rename_isSome {fs : FileSystem κ} {source target : κ} {file : Nat}
    (found : fs.entry source = some (.file file)) (free : fs.view target ≠ some .directory) :
    (fs.rename source target).isSome := by
  by_cases different : source ≠ target
  · rw [rename, dif_pos different]
    split
    · rfl
    · rfl
    · rename_i absent present
      cases there : fs.entry target with
      | none => exact absurd there (absent file found)
      | some entry =>
          cases entry with
          | directory => exact absurd (by rw [view, there]) free
          | file kept => exact absurd there (present file kept found)
  · rw [rename, dif_neg different, found]
    rfl

/-- Take the name away. -/
def unlink (fs : FileSystem κ) (name : κ) : FileSystem κ where
  entry := Function.update fs.entry name none
  contents := fs.contents
  used := fs.used
  inUse := by
    intro other file found
    by_cases same : other = name
    · rw [same, Function.update_self] at found
      contradiction
    · rw [Function.update_of_ne same] at found
      exact fs.inUse other file found
  oneName := by
    intro left right file foundLeft foundRight
    have kept : ∀ other, Function.update fs.entry name none other = some (.file file) →
        fs.entry other = some (.file file) := by
      intro other found
      by_cases same : other = name
      · rw [same, Function.update_self] at found
        contradiction
      · rwa [Function.update_of_ne same] at found
    exact fs.oneName left right file (kept left foundLeft) (kept right foundRight)

theorem unlink_view (fs : FileSystem κ) (name : κ) : (fs.unlink name).view name = none := by
  simp only [view, unlink, Function.update_self]

end FileSystem

end PgCapture.Data
