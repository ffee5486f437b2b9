import Mathlib.Order.Lattice
import Mathlib.Data.List.Basic

namespace PgCapture.Data.OrderedMap

/-! # Maps kept in key order

An association list with one entry for each key, in increasing order of the
keys: the entries of a tree map.
-/

variable {κ α : Type} [LinearOrder κ]

/-- Insert an entry in its place, replacing an entry of the same key. -/
def insert (key : κ) (value : α) : List (κ × α) → List (κ × α)
  | [] => [(key, value)]
  | (other, kept) :: rest =>
      if key < other then (key, value) :: (other, kept) :: rest
      else if key = other then (key, value) :: rest
      else (other, kept) :: insert key value rest

def get? (key : κ) : List (κ × α) → Option α
  | [] => none
  | (other, value) :: rest => if key = other then some value else get? key rest

def keys (map : List (κ × α)) : List κ := map.map Prod.fst

def insertAll (entries map : List (κ × α)) : List (κ × α) :=
  entries.foldl (fun map entry => insert entry.1 entry.2 map) map

@[simp] theorem insertAll_nil (map : List (κ × α)) : insertAll [] map = map := rfl

@[simp] theorem insertAll_cons (key : κ) (value : α) (entries map : List (κ × α)) :
    insertAll ((key, value) :: entries) map = insertAll entries (insert key value map) := rfl

theorem get?_insert (map : List (κ × α)) (key other : κ) (value : α) :
    get? other (insert key value map) = if other = key then some value else get? other map := by
  induction map with
  | nil => rfl
  | cons entry rest ih =>
      obtain ⟨first, kept⟩ := entry
      by_cases before : key < first
      · simp only [insert, if_pos before, get?]
      · by_cases same : key = first
        · subst same
          rw [insert, if_neg before, if_pos rfl, get?, get?]
          by_cases found : other = key
          · rw [if_pos found, if_pos found]
          · rw [if_neg found, if_neg found, if_neg found]
        · simp only [insert, if_neg before, if_neg same, get?, ih]
          by_cases found : other = first
          · subst found
            rw [if_pos rfl, if_pos rfl, if_neg (Ne.symm same)]
          · rw [if_neg found, if_neg found]

theorem get?_eq_none_iff (map : List (κ × α)) (key : κ) : get? key map = none ↔ key ∉ keys map := by
  induction map with
  | nil => simp [get?, keys]
  | cons entry rest ih =>
      obtain ⟨first, value⟩ := entry
      by_cases found : key = first
      · simp [get?, keys, found]
      · simpa [get?, keys, found] using ih

theorem get?_of_mem {map : List (κ × α)} {key : κ} {value : α} (distinct : (keys map).Nodup)
    (member : (key, value) ∈ map) : get? key map = some value := by
  induction map with
  | nil => contradiction
  | cons entry rest ih =>
      obtain ⟨fresh, restDistinct⟩ := List.nodup_cons.mp distinct
      rcases List.mem_cons.mp member with rfl | later
      · simp only [get?, if_true]
      · have other : key ≠ entry.1 := by
          intro same
          subst same
          exact fresh (List.mem_map.mpr ⟨_, later, rfl⟩)
        simp only [get?, if_neg other, ih restDistinct later]

theorem mem_of_get? {map : List (κ × α)} {key : κ} {value : α} (found : get? key map = some value) :
    (key, value) ∈ map := by
  induction map with
  | nil => contradiction
  | cons entry rest ih =>
      obtain ⟨first, kept⟩ := entry
      rw [get?] at found
      split at found
      · rename_i same
        cases found
        exact same ▸ List.mem_cons_self
      · exact List.mem_cons_of_mem _ (ih found)

theorem get?_append (key : κ) (front rest : List (κ × α)) :
    get? key (front ++ rest) = (get? key front).or (get? key rest) := by
  induction front with
  | nil => rfl
  | cons entry front ih =>
      rw [List.cons_append, get?, get?, ih]
      split
      · rfl
      · rfl

theorem get?_map {β : Type} (name : β → κ) (value : β → α) (items : List β) (key : κ) :
    get? key (items.map fun item => (name item, value item)) =
      (items.find? fun item => name item = key).map value := by
  induction items with
  | nil => rfl
  | cons item items ih =>
      rw [List.map_cons, get?, List.find?_cons]
      by_cases same : key = name item
      · simp [same]
      · simp [same, Ne.symm same, ih]

/-- The last entry of a key is the one that stays. -/
theorem get?_insertAll_reverse (entries map : List (κ × α)) (key : κ) :
    get? key (insertAll entries map) = (get? key entries.reverse).or (get? key map) := by
  induction entries generalizing map with
  | nil => rfl
  | cons entry rest ih =>
      obtain ⟨first, value⟩ := entry
      rw [insertAll_cons, ih, get?_insert, List.reverse_cons, get?_append, Option.or_assoc, get?]
      split
      · rfl
      · rfl

theorem mem_keys_insertAll (entries map : List (κ × α)) (key : κ) :
    key ∈ keys (insertAll entries map) ↔ key ∈ keys entries ∨ key ∈ keys map := by
  rw [← not_iff_not, ← get?_eq_none_iff, get?_insertAll_reverse, Option.or_eq_none_iff,
    get?_eq_none_iff, get?_eq_none_iff, not_or, keys, List.map_reverse, List.mem_reverse]
  rfl

/-- Inserting entries of distinct keys makes exactly those entries the map's. -/
theorem get?_insertAll {entries : List (κ × α)} (distinct : (keys entries).Nodup) (key : κ) :
    get? key (insertAll entries []) = get? key entries := by
  have reversed : (keys entries.reverse).Nodup := by
    rw [keys, List.map_reverse]
    exact List.pairwise_reverse.mpr (distinct.imp Ne.symm)
  rw [get?_insertAll_reverse]
  cases found : get? key entries with
  | some value =>
      rw [get?_of_mem reversed (List.mem_reverse.mpr (mem_of_get? found))]
      rfl
  | none =>
      have absent := (get?_eq_none_iff entries key).mp found
      have absentReversed : key ∉ keys entries.reverse := by
        rwa [keys, List.map_reverse, List.mem_reverse]
      rw [(get?_eq_none_iff _ key).mpr absentReversed]
      rfl

/-- A map keeps every entry inserted into it exactly when entries of one key agree. -/
theorem get?_insertAll_all_iff (entries : List (κ × α)) :
    (∀ entry ∈ entries, get? entry.1 (insertAll entries []) = some entry.2) ↔
      ∀ left ∈ entries, ∀ right ∈ entries, left.1 = right.1 → left.2 = right.2 := by
  constructor
  · intro kept left leftMember right rightMember same
    have leftKept := kept left leftMember
    rw [same, kept right rightMember] at leftKept
    exact (Option.some.inj leftKept).symm
  · intro agree entry member
    rw [get?_insertAll_reverse]
    cases found : get? entry.1 entries.reverse with
    | none =>
        have absent := (get?_eq_none_iff _ _).mp found
        rw [keys, List.map_reverse, List.mem_reverse] at absent
        exact absurd (List.mem_map.mpr ⟨entry, member, rfl⟩) absent
    | some value =>
        have last := List.mem_reverse.mp (mem_of_get? found)
        rw [agree entry member _ last rfl]
        rfl

theorem insert_sorted {map : List (κ × α)} (sorted : (keys map).Pairwise (· < ·))
    (key : κ) (value : α) : (keys (insert key value map)).Pairwise (· < ·) := by
  induction map with
  | nil => simp [insert, keys]
  | cons entry rest ih =>
      obtain ⟨first, kept⟩ := entry
      obtain ⟨least, restSorted⟩ := List.pairwise_cons.mp sorted
      by_cases before : key < first
      · rw [insert, if_pos before]
        refine List.pairwise_cons.mpr ⟨?_, sorted⟩
        intro other member
        rcases List.mem_cons.mp member with rfl | later
        · exact before
        · exact lt_trans before (least other later)
      · by_cases same : key = first
        · subst same
          rw [insert, if_neg before, if_pos rfl]
          exact sorted
        · rw [insert, if_neg before, if_neg same]
          refine List.pairwise_cons.mpr ⟨?_, ih restSorted⟩
          intro other member
          by_cases new : other = key
          · subst new
            exact lt_of_le_of_ne (not_lt.mp before) (Ne.symm same)
          · have kept : other ∈ keys rest := by
              by_contra absent
              have lookup := get?_insert rest key other value
              rw [if_neg new, (get?_eq_none_iff rest other).mpr absent] at lookup
              exact (get?_eq_none_iff _ other).mp lookup member
            exact least other kept

theorem insertAll_sorted (entries : List (κ × α)) {map : List (κ × α)}
    (sorted : (keys map).Pairwise (· < ·)) : (keys (insertAll entries map)).Pairwise (· < ·) := by
  induction entries generalizing map with
  | nil => exact sorted
  | cons entry rest ih =>
      rw [insertAll_cons]
      exact ih (insert_sorted sorted _ _)

end PgCapture.Data.OrderedMap
