import Mathlib.Data.List.Forall2
import Mathlib.Data.List.Induction
import Mathlib.Data.Set.Function
import Mathlib.Logic.Function.Basic

namespace PgCapture.Data.ChangeLog

/-! # Copies of a table

A table has at most one row for a key.  Whoever applies the log of its changes
keeps a copy of it, also with rows and keys written in another way, as long as
keys that differ are still different.
-/

abbrev Table (κ ρ : Type) := κ → Option ρ

def Table.empty : Table κ ρ := fun _ => none

/-- A change names the rows it takes away by any row with their key.  An update
    without an old row leaves the key as it is. -/
inductive RowChange (ρ : Type) where
  | insert (row : ρ)
  | update (old : Option ρ) (row : ρ)
  | delete (old : ρ)

def RowChange.rows : RowChange ρ → List ρ
  | insert row => [row]
  | update old row => old.toList ++ [row]
  | delete old => [old]

/-- The row a change is about. -/
def RowChange.row : RowChange ρ → ρ
  | insert row => row
  | update _ row => row
  | delete old => old

theorem RowChange.row_mem (change : RowChange ρ) : change.row ∈ change.rows := by
  cases change <;> simp [RowChange.row, RowChange.rows]

/-- All rows of the change have one key: no update moves a row to another key. -/
def RowChange.KeepsKey (key : ρ → κ) (change : RowChange ρ) : Prop :=
  ∀ row ∈ change.rows, key row = key change.row

def RowChange.map (f : ρ → τ) : RowChange ρ → RowChange τ
  | insert row => .insert (f row)
  | update old row => .update (old.map f) (f row)
  | delete old => .delete (f old)

open Classical in
noncomputable def apply (key : ρ → κ) (table : Table κ ρ) : RowChange ρ → Table κ ρ
  | .insert row => Function.update table (key row) (some row)
  | .update none row => Function.update table (key row) (some row)
  | .update (some old) row =>
      Function.update (Function.update table (key old) none) (key row) (some row)
  | .delete old => Function.update table (key old) none

noncomputable def applyAll (key : ρ → κ) (table : Table κ ρ) (changes : List (RowChange ρ)) : Table κ ρ :=
  changes.foldl (apply key) table

open Classical in
/-- What a change writes under a key: a row, or that there is none. -/
noncomputable def written (key : ρ → κ) : RowChange ρ → κ → Option (Option ρ)
  | .insert row, asked => if asked = key row then some (some row) else none
  | .update none row, asked => if asked = key row then some (some row) else none
  | .update (some old) row, asked =>
      if asked = key row then some (some row) else if asked = key old then some none else none
  | .delete old, asked => if asked = key old then some none else none

open Classical in
theorem apply_eq (key : ρ → κ) (table : Table κ ρ) (change : RowChange ρ) (asked : κ) :
    apply key table change asked = (written key change asked).getD (table asked) := by
  cases change with
  | insert row =>
      rw [apply, written, Function.update_apply]
      split <;> rfl
  | delete old =>
      rw [apply, written, Function.update_apply]
      split <;> rfl
  | update old row =>
      cases old with
      | none =>
          rw [apply, written, Function.update_apply]
          split <;> rfl
      | some old =>
          rw [apply, written, Function.update_apply, Function.update_apply]
          split
          · rfl
          · split <;> rfl

theorem written_isSome_iff {key : ρ → κ} {change : RowChange ρ} (keeps : change.KeepsKey key)
    {asked : κ} : (written key change asked).isSome ↔ asked = key change.row := by
  cases change with
  | insert row =>
      rw [written, RowChange.row]
      split <;> simp [*]
  | delete old =>
      rw [written, RowChange.row]
      split <;> simp [*]
  | update old row =>
      cases old with
      | none =>
          rw [written, RowChange.row]
          split <;> simp [*]
      | some old =>
          have same : key old = key row := keeps old List.mem_cons_self
          rw [written, RowChange.row, same]
          split <;> simp [*]

/-- The last change that writes under a key decides what is there. -/
theorem applyAll_eq_last (key : ρ → κ) (table : Table κ ρ) (changes : List (RowChange ρ)) (asked : κ) :
    applyAll key table changes asked =
      (changes.filterMap (written key · asked)).getLast?.getD (table asked) := by
  induction changes generalizing table with
  | nil => rfl
  | cons change changes ih =>
      have rest := ih (apply key table change)
      change applyAll key (apply key table change) changes asked = _
      rw [rest, apply_eq]
      cases wrote : written key change asked with
      | none => simp only [List.filterMap_cons, wrote, Option.getD_none]
      | some row => simp only [List.filterMap_cons, wrote, List.getLast?_cons, Option.getD_some]

/-- The same change, of rows that are written in another way. -/
inductive Shows (shown : ρ → ρ' → Prop) : RowChange ρ → RowChange ρ' → Prop where
  | insert : shown row copy → Shows shown (.insert row) (.insert copy)
  | update : Option.Rel shown old oldCopy → shown row copy →
      Shows shown (.update old row) (.update oldCopy copy)
  | delete : shown old copy → Shows shown (.delete old) (.delete copy)

section Shows

variable {shown : ρ → ρ' → Prop} {f : ρ → τ} {g : ρ' → τ}

/-- Whatever the rows and the copies agree on, the changes agree on. -/
theorem Shows.map_eq {change : RowChange ρ} {copied : RowChange ρ'} (shows : Shows shown change copied)
    (agree : ∀ row ∈ change.rows, ∀ copy, shown row copy → g copy = f row) :
    copied.map g = change.map f := by
  cases shows with
  | insert row =>
      have same := agree _ List.mem_cons_self _ row
      rw [RowChange.map, RowChange.map, same]
  | delete old =>
      have same := agree _ List.mem_cons_self _ old
      rw [RowChange.map, RowChange.map, same]
  | update old row =>
      cases old with
      | none =>
          have same := agree _ List.mem_cons_self _ row
          rw [RowChange.map, RowChange.map, same, Option.map_none, Option.map_none]
      | some old =>
          have sameOld := agree _ List.mem_cons_self _ old
          have same := agree _ (List.mem_cons_of_mem _ List.mem_cons_self) _ row
          rw [RowChange.map, RowChange.map, same, Option.map_some, Option.map_some, sameOld]

theorem map_eq_of_shows {changes : List (RowChange ρ)} {log : List (RowChange ρ')}
    (follows : List.Forall₂ (Shows shown) changes log)
    (agree : ∀ change ∈ changes, ∀ row ∈ change.rows, ∀ copy, shown row copy → g copy = f row) :
    log.map (RowChange.map g) = changes.map (RowChange.map f) := by
  induction follows with
  | nil => rfl
  | cons first _ ih =>
      have rest := ih fun change member => agree change (List.mem_cons_of_mem _ member)
      rw [List.map_cons, List.map_cons, rest, first.map_eq (agree _ List.mem_cons_self)]

theorem Shows.row {change : RowChange ρ} {copied : RowChange ρ'} (shows : Shows shown change copied) :
    shown change.row copied.row := by
  cases shows with
  | insert row => exact row
  | delete old => exact old
  | update old row => exact row

theorem Shows.keepsKey {key : ρ → κ} {copyKey : ρ' → κ'} {embed : κ → κ'}
    (agree : ∀ row copy, shown row copy → copyKey copy = embed (key row)) {change : RowChange ρ}
    {copied : RowChange ρ'} (shows : Shows shown change copied) (keeps : change.KeepsKey key) :
    copied.KeepsKey copyKey := by
  cases shows with
  | insert row =>
      intro other member
      rw [List.mem_singleton.mp member]
      rfl
  | delete old =>
      intro other member
      rw [List.mem_singleton.mp member]
      rfl
  | update old row =>
      intro other member
      rcases List.mem_append.mp member with isOld | isRow
      · cases old with
        | none => contradiction
        | some old =>
            rw [List.mem_singleton.mp isOld, agree _ _ old, keeps _ List.mem_cons_self]
            exact (agree _ _ row).symm
      · rw [List.mem_singleton.mp isRow]
        rfl

end Shows

section Copies

variable {keys : Set κ} {embed : κ → κ'} {shown : ρ → ρ' → Prop}

/-- The copy has the row of every key, and no other rows. -/
structure Copies (keys : Set κ) (embed : κ → κ') (shown : ρ → ρ' → Prop) (table : Table κ ρ)
    (copy : Table κ' ρ') : Prop where
  rows : ∀ key ∈ keys, Option.Rel shown (table key) (copy (embed key))
  others : ∀ other, other ∉ embed '' keys → copy other = none

namespace Copies

theorem empty : Copies keys embed shown Table.empty Table.empty where
  rows := fun _ _ => .none
  others := fun _ _ => rfl

variable {table : Table κ ρ} {copy : Table κ' ρ'}

open Classical in
theorem update (copies : Copies keys embed shown table copy) (apart : Set.InjOn embed keys) {key : κ}
    (inside : key ∈ keys) {row : Option ρ} {other : Option ρ'} (same : Option.Rel shown row other) :
    Copies keys embed shown (Function.update table key row)
      (Function.update copy (embed key) other) where
  rows := by
    intro asked member
    by_cases isKey : asked = key
    · subst isKey
      rw [Function.update_self, Function.update_self]
      exact same
    · have different : embed asked ≠ embed key := fun equal => isKey (apart member inside equal)
      rw [Function.update_of_ne isKey, Function.update_of_ne different]
      exact copies.rows asked member
  others := by
    intro asked outside
    have different : asked ≠ embed key := by
      rintro rfl
      exact outside (Set.mem_image_of_mem embed inside)
    rw [Function.update_of_ne different]
    exact copies.others asked outside

variable {key : ρ → κ} {copyKey : ρ' → κ'}

theorem apply (copies : Copies keys embed shown table copy) (apart : Set.InjOn embed keys)
    (agree : ∀ row other, shown row other → copyKey other = embed (key row)) {change : RowChange ρ}
    {copied : RowChange ρ'} (shows : Shows shown change copied)
    (inside : ∀ row ∈ change.rows, key row ∈ keys) :
    Copies keys embed shown (ChangeLog.apply key table change)
      (ChangeLog.apply copyKey copy copied) := by
  cases shows with
  | insert row =>
      have rowInside := inside _ List.mem_cons_self
      simp only [ChangeLog.apply, agree _ _ row]
      exact copies.update apart rowInside (.some row)
  | delete old =>
      have oldInside := inside _ List.mem_cons_self
      simp only [ChangeLog.apply, agree _ _ old]
      exact copies.update apart oldInside .none
  | update old row =>
      cases old with
      | none =>
          have rowInside := inside _ List.mem_cons_self
          simp only [ChangeLog.apply, agree _ _ row]
          exact copies.update apart rowInside (.some row)
      | some old =>
          have oldInside := inside _ List.mem_cons_self
          have rowInside := inside _ (List.mem_cons_of_mem _ List.mem_cons_self)
          simp only [ChangeLog.apply, agree _ _ row, agree _ _ old]
          exact (copies.update apart oldInside .none).update apart rowInside (.some row)

/-- A copy that follows the log stays a copy. -/
theorem applyAll (copies : Copies keys embed shown table copy) (apart : Set.InjOn embed keys)
    (agree : ∀ row other, shown row other → copyKey other = embed (key row))
    {changes : List (RowChange ρ)} {log : List (RowChange ρ')}
    (follows : List.Forall₂ (Shows shown) changes log)
    (inside : ∀ change ∈ changes, ∀ row ∈ change.rows, key row ∈ keys) :
    Copies keys embed shown (ChangeLog.applyAll key table changes)
      (ChangeLog.applyAll copyKey copy log) := by
  induction follows generalizing table copy with
  | nil => exact copies
  | cons first _ ih =>
      have next := copies.apply apart agree first (inside _ List.mem_cons_self)
      exact ih next fun change member => inside change (List.mem_cons_of_mem _ member)

end Copies

end Copies

theorem exists_of_forall₂ {related : α → β → Prop} {entries : List α} {others : List β}
    (pairwise : List.Forall₂ related entries others) {other : β} (member : other ∈ others) :
    ∃ entry ∈ entries, related entry other := by
  induction pairwise with
  | nil => contradiction
  | cons first _ ih =>
      rcases List.mem_cons.mp member with rfl | later
      · exact ⟨_, List.mem_cons_self, first⟩
      · obtain ⟨entry, isEntry, both⟩ := ih later
        exact ⟨entry, List.mem_cons_of_mem _ isEntry, both⟩

section Routes

variable {key : ρ → κ} {change? : α → Option (RowChange ρ)} {route : α → δ} [DecidableEq δ]

/-- The entry's change writes under the key. -/
def Writes (key : ρ → κ) (change? : α → Option (RowChange ρ)) (entry : α) (asked : κ) : Prop :=
  ((change? entry).bind (written key · asked)).isSome

/-- Every route in its own order. -/
def Interleaves (route : α → δ) (sent received : List α) : Prop :=
  ∀ path, received.filter (route · = path) = sent.filter (route · = path)

/-- Nothing but what was sent, and at last the last entry of every route. -/
structure KeepsLatest (route : α → δ) (sent received : List α) : Prop where
  wasSent : ∀ entry ∈ received, entry ∈ sent
  latest : ∀ path, (received.filter (route · = path)).getLast? = (sent.filter (route · = path)).getLast?

theorem Interleaves.mem {sent received : List α} (interleaves : Interleaves route sent received)
    {entry : α} (member : entry ∈ received) : entry ∈ sent := by
  have inRoute : entry ∈ received.filter (route · = route entry) :=
    List.mem_filter.mpr ⟨member, decide_eq_true rfl⟩
  rw [interleaves] at inRoute
  exact (List.mem_filter.mp inRoute).1

theorem filterMap_filter_of_writes {entries : List α} {asked : κ} {path : δ}
    (routed : ∀ entry ∈ entries, Writes key change? entry asked → route entry = path) :
    (entries.filter (route · = path)).filterMap (fun entry => (change? entry).bind (written key · asked)) =
      entries.filterMap fun entry => (change? entry).bind (written key · asked) := by
  rw [List.filterMap_filter]
  apply List.filterMap_congr
  intro entry member
  split
  · rfl
  · rename_i elsewhere
    cases wrote : (change? entry).bind (written key · asked) with
    | none => rfl
    | some row =>
        have writes : Writes key change? entry asked := Option.isSome_of_eq_some wrote
        exact absurd (decide_eq_true (routed entry member writes)) elsewhere

/-- Mixing the routes changes nothing when every key is written by one of them. -/
theorem applyAll_interleaved {sent received : List α} (interleaves : Interleaves route sent received)
    (routed : ∀ asked, ∃ path, ∀ entry ∈ sent, Writes key change? entry asked → route entry = path)
    (table : Table κ ρ) :
    applyAll key table (received.filterMap change?) = applyAll key table (sent.filterMap change?) := by
  funext asked
  obtain ⟨path, routed⟩ := routed asked
  rw [applyAll_eq_last, applyAll_eq_last, List.filterMap_filterMap, List.filterMap_filterMap,
    ← filterMap_filter_of_writes routed,
    ← filterMap_filter_of_writes fun entry member => routed entry (interleaves.mem member),
    interleaves]

theorem getLast?_filterMap_of_isSome {f : α → Option β} {entries : List α}
    (answers : ∀ entry ∈ entries, (f entry).isSome) :
    (entries.filterMap f).getLast? = entries.getLast?.bind f := by
  induction entries using List.reverseRecOn with
  | nil => rfl
  | append_singleton entries entry _ =>
      obtain ⟨value, found⟩ := Option.isSome_iff_exists.mp (answers entry (by simp))
      rw [List.filterMap_append, List.filterMap_cons_some found, List.filterMap_nil,
        List.getLast?_concat, List.getLast?_concat, Option.bind_some, found]

/-- The last entry of every route is enough when a route writes one key, and all
    its entries do. -/
theorem applyAll_of_latest {sent received : List α} (keeps : KeepsLatest route sent received)
    (routed : ∀ asked, (∀ entry ∈ sent, ¬ Writes key change? entry asked) ∨
      ∃ path, ∀ entry ∈ sent, Writes key change? entry asked ↔ route entry = path)
    (table : Table κ ρ) :
    applyAll key table (received.filterMap change?) = applyAll key table (sent.filterMap change?) := by
  funext asked
  rw [applyAll_eq_last, applyAll_eq_last, List.filterMap_filterMap, List.filterMap_filterMap]
  rcases routed asked with never | ⟨path, routed⟩
  · have silent : ∀ entries : List α, (∀ entry ∈ entries, entry ∈ sent) →
        entries.filterMap (fun entry => (change? entry).bind (written key · asked)) = [] := by
      intro entries inSent
      rw [List.filterMap_eq_nil_iff]
      intro entry member
      exact Option.not_isSome_iff_eq_none.mp (never entry (inSent entry member))
    rw [silent received keeps.wasSent, silent sent fun _ member => member]
  · have last : ∀ entries : List α, (∀ entry ∈ entries, entry ∈ sent) →
        (entries.filterMap fun entry => (change? entry).bind (written key · asked)).getLast? =
          (entries.filter (route · = path)).getLast?.bind fun entry =>
            (change? entry).bind (written key · asked) := by
      intro entries inSent
      rw [← filterMap_filter_of_writes fun entry member => (routed entry (inSent entry member)).mp]
      apply getLast?_filterMap_of_isSome
      intro entry member
      obtain ⟨isEntry, onPath⟩ := List.mem_filter.mp member
      exact (routed entry (inSent entry isEntry)).mpr (of_decide_eq_true onPath)
    rw [last received keeps.wasSent, last sent fun _ member => member, keeps.latest]

end Routes

end PgCapture.Data.ChangeLog
