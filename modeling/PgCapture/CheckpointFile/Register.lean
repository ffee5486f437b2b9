import PgCapture.CheckpointFile

namespace PgCapture

open PgCapture.Data

/-! # The checkpoint file as a register

To its users the file is one cell that holds a checkpoint or nothing.  A save
sets it, a delete clears it, and a crash inside either leaves it at one of the
two values.
-/

namespace CheckpointManager

/-- `unlinked` is what the system answers to the removal of a file. -/
def delete (self : CheckpointManager) (unlinked : Except String Unit) (fs : FileSystem Path) :
    FileSystem Path × Except Error Unit :=
  match fs.view self.filePath with
  | none => (fs, .ok ())
  | some .directory => (fs, .error (.io "Is a directory (os error 21)"))
  | some (.file _) =>
      match unlinked with
      | .ok () => (fs.unlink self.filePath, .ok ())
      | .error reason => (fs, .error (.io reason))

/-- The temporary file has another name than the checkpoint file, or neither has one. -/
def HasTemporary (self : CheckpointManager) : Prop := ¬ self.filePath.HasOwn "tmp"

instance (self : CheckpointManager) : Decidable self.HasTemporary := inferInstanceAs (Decidable (¬ _))

variable {readsText : String → Except String Checkpoint} {toStringPretty : Checkpoint → String}
  {self : CheckpointManager} {fs : FileSystem Path} {value : Option Checkpoint}

theorem HasTemporary.spares (temporary : self.HasTemporary) {call : SaveCall toStringPretty}
    (seen : call.lost = []) : self.Spares call := by
  intro renames
  exact ⟨.inl seen, fun own => absurd own temporary⟩

theorem load_saveAll (temporary : self.HasTemporary) {saves : List (SaveCall toStringPretty)}
    (seen : ∀ save ∈ saves, save.lost = [])
    (reads : ∀ save ∈ saves, ReadsBack readsText toStringPretty save.checkpoint)
    (loads : self.load readsText fs = .ok value) :
    self.load readsText (self.saveAll fs saves) = .ok ((self.lastSaved fs saves).or value) := by
  have atomic : self.Atomic readsText fun call : SaveCall toStringPretty => call.lost = [] :=
    atomic_of_save readsText (fun fs call seen => (temporary.spares seen).whole)
      fun fs call seen => (temporary.spares seen).unchanged
  rw [atomic.loads fs saves seen reads]
  cases self.lastSaved fs saves with
  | none => exact loads
  | some checkpoint => rfl

theorem load_delete (loads : self.load readsText fs = .ok value) (unlinked : Except String Unit) :
    self.load readsText (self.delete unlinked fs).1 = .ok (if unlinked.isOk then none else value) := by
  cases found : fs.view self.filePath with
  | none =>
      have unset : value = none := by
        rw [load, found] at loads
        exact (Except.ok.inj loads).symm
      simp only [delete, found, loads, unset, ite_self]
  | some entry =>
      cases entry with
      | directory =>
          rw [load, found] at loads
          contradiction
      | file bytes =>
          cases unlinked with
          | error reason =>
              simp only [delete, found, loads]
              rfl
          | ok _ =>
              simp only [delete, found, load, FileSystem.unlink_view]
              rfl

end CheckpointManager

end PgCapture
