import PgCapture.Data.Json

namespace PgCapture.Data

/-! # JSON objects as maps

A text may name a field of an object twice, and in any order.  A reader that
builds maps keeps the last field of each name, in key order.
-/

namespace OrderedMap

variable {κ α : Type} [LinearOrder κ]

theorem insert_last {map : List (κ × α)} {key : κ} (last : ∀ other ∈ keys map, other < key)
    (value : α) : insert key value map = map ++ [(key, value)] := by
  induction map with
  | nil => rfl
  | cons entry map ih =>
      obtain ⟨first, kept⟩ := entry
      obtain ⟨before, later⟩ := List.forall_mem_cons.mp last
      rw [insert, if_neg (lt_asymm before), if_neg (ne_of_gt before), ih later, List.cons_append]

/-- Entries in key order are the map they make. -/
theorem insertAll_of_sorted {entries map : List (κ × α)}
    (sorted : (keys (map ++ entries)).Pairwise (· < ·)) : insertAll entries map = map ++ entries := by
  induction entries generalizing map with
  | nil => rw [insertAll_nil, List.append_nil]
  | cons entry entries ih =>
      obtain ⟨key, value⟩ := entry
      have last : ∀ other ∈ keys map, other < key := by
        intro other member
        rw [keys, List.map_append] at sorted
        exact (List.pairwise_append.mp sorted).2.2 other member key List.mem_cons_self
      rw [insertAll_cons, insert_last last]
      have moved : map ++ (key, value) :: entries = map ++ [(key, value)] ++ entries := by simp
      rw [moved] at sorted ⊢
      exact ih sorted

theorem mem_of_mem_insert {map : List (κ × α)} {key : κ} {value : α} {entry : κ × α}
    (member : entry ∈ insert key value map) : entry = (key, value) ∨ entry ∈ map := by
  induction map with
  | nil => exact .inl (List.mem_singleton.mp member)
  | cons first map ih =>
      obtain ⟨other, kept⟩ := first
      rw [insert] at member
      split at member
      · exact List.mem_cons.mp member
      · split at member
        · exact (List.mem_cons.mp member).imp_right (List.mem_cons_of_mem _)
        · rcases List.mem_cons.mp member with rfl | later
          · exact .inr List.mem_cons_self
          · exact (ih later).imp_right (List.mem_cons_of_mem _)

theorem mem_of_mem_insertAll {entries map : List (κ × α)} {entry : κ × α}
    (member : entry ∈ insertAll entries map) : entry ∈ entries ∨ entry ∈ map := by
  induction entries generalizing map with
  | nil => exact .inr member
  | cons first entries ih =>
      rcases ih member with later | inserted
      · exact .inl (List.mem_cons_of_mem _ later)
      · rcases mem_of_mem_insert inserted with rfl | kept
        · exact .inl List.mem_cons_self
        · exact .inr kept

end OrderedMap

namespace Json

mutual
/-- The value with every object as a map. -/
def inKeyOrder : Json → Json
  | .array items => .array (itemsInKeyOrder items)
  | .object fields => .object (OrderedMap.insertAll (fieldsInKeyOrder fields) [])
  | value => value

def itemsInKeyOrder : List Json → List Json
  | [] => []
  | item :: items => inKeyOrder item :: itemsInKeyOrder items

def fieldsInKeyOrder : List (String × Json) → List (String × Json)
  | [] => []
  | (key, value) :: fields => (key, inKeyOrder value) :: fieldsInKeyOrder fields
end

/-- Every object in the value is a map. -/
def InKeyOrder (value : Json) : Prop := inKeyOrder value = value

theorem itemsInKeyOrder_eq_map (items : List Json) :
    itemsInKeyOrder items = items.map inKeyOrder := by
  induction items with
  | nil => rfl
  | cons item items ih => rw [itemsInKeyOrder, List.map_cons, ih]

theorem fieldsInKeyOrder_eq_map (fields : List (String × Json)) :
    fieldsInKeyOrder fields = fields.map fun field => (field.1, inKeyOrder field.2) := by
  induction fields with
  | nil => rfl
  | cons field fields ih => rw [fieldsInKeyOrder, List.map_cons, ih]

theorem InKeyOrder.array {items : List Json} (ordered : ∀ item ∈ items, InKeyOrder item) :
    InKeyOrder (.array items) := by
  have same : items.map inKeyOrder = items :=
    (List.map_congr_left ordered).trans (List.map_id items)
  rw [InKeyOrder, inKeyOrder, itemsInKeyOrder_eq_map, same]

theorem InKeyOrder.object {fields : List (String × Json)}
    (sorted : (OrderedMap.keys fields).Pairwise (· < ·))
    (ordered : ∀ field ∈ fields, InKeyOrder field.2) : InKeyOrder (.object fields) := by
  have same : (fields.map fun field => (field.1, inKeyOrder field.2)) = fields := by
    refine (List.map_congr_left ?_).trans (List.map_id fields)
    intro field member
    exact Prod.ext rfl (ordered field member)
  rw [InKeyOrder, inKeyOrder, fieldsInKeyOrder_eq_map, same, OrderedMap.insertAll_of_sorted sorted,
    List.nil_append]

end Json

end PgCapture.Data
