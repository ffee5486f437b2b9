import Mathlib.Data.List.Basic
import Mathlib.Data.List.Forall2

namespace PgCapture.Data.Separated

/-! # Texts joined by a separator

A joined text determines the pieces between its separators and nothing more:
parts that contain the separator themselves can be divided in several ways.
-/

theorem mem_intercalate {separator value : α} (different : value ≠ separator)
    {parts : List (List α)} :
    value ∈ [separator].intercalate parts ↔ ∃ part ∈ parts, value ∈ part := by
  induction parts with
  | nil => simp
  | cons part parts ih =>
      cases parts with
      | nil => simp
      | cons next parts =>
          rw [List.intercalate_cons_cons, List.mem_append, List.mem_append, ih,
            List.exists_mem_cons_iff _ part]
          simp [different]

theorem intercalate_ne_nil {separator : α} {part : List α} (content : part ≠ [])
    (parts : List (List α)) : [separator].intercalate (part :: parts) ≠ [] := by
  cases parts with
  | nil =>
      rw [List.intercalate_singleton]
      exact content
  | cons next parts =>
      rw [List.intercalate_cons_cons]
      exact List.append_ne_nil_of_left_ne_nil (List.append_ne_nil_of_left_ne_nil content _) _

variable [BEq α]

/-- The pieces between the separators of every part, in order. -/
def pieces (separator : α) (parts : List (List α)) : List (List α) :=
  parts.flatMap (·.splitOn separator)

theorem length_splitOn (separator : α) (part : List α) :
    (part.splitOn separator).length = part.count separator + 1 := by
  induction part with
  | nil => rfl
  | cons value part ih =>
      rw [List.splitOn_cons_eq_if_modifyHead, List.count_cons]
      by_cases mark : value == separator
      · rw [if_pos mark, if_pos mark, List.length_cons, ih]
      · rw [if_neg mark, if_neg mark, List.length_modifyHead, ih, Nat.add_zero]

variable [LawfulBEq α]

theorem splitOn_intercalate_eq_pieces (separator : α) {parts : List (List α)} (some : parts ≠ []) :
    ([separator].intercalate parts).splitOn separator = pieces separator parts := by
  induction parts with
  | nil => contradiction
  | cons part parts ih =>
      cases parts with
      | nil => simp [pieces]
      | cons next parts =>
          rw [List.intercalate_cons_cons, List.append_assoc, List.singleton_append,
            List.splitOn_append_cons_self, ih (List.cons_ne_nil _ _)]
          rfl

theorem intercalate_pieces (separator : α) {parts : List (List α)} (some : parts ≠ []) :
    [separator].intercalate (pieces separator parts) = [separator].intercalate parts := by
  rw [← splitOn_intercalate_eq_pieces separator some, List.intercalate_splitOn]

theorem intercalate_eq_iff (separator : α) {left right : List (List α)} (someLeft : left ≠ [])
    (someRight : right ≠ []) :
    [separator].intercalate left = [separator].intercalate right ↔
      pieces separator left = pieces separator right := by
  constructor
  · intro same
    rw [← splitOn_intercalate_eq_pieces separator someLeft, same,
      splitOn_intercalate_eq_pieces separator someRight]
  · intro same
    rw [← intercalate_pieces separator someLeft, same, intercalate_pieces separator someRight]

theorem splitOn_injective (separator : α) :
    Function.Injective (List.splitOn separator : List α → List (List α)) := by
  intro left right same
  have joined := congrArg [separator].intercalate same
  rwa [List.intercalate_splitOn, List.intercalate_splitOn] at joined

/-- The number of separators in each part is all that the pieces leave open. -/
theorem eq_of_pieces_eq (separator : α) {left right : List (List α)}
    (counts : left.map (List.count separator) = right.map (List.count separator))
    (same : pieces separator left = pieces separator right) : left = right := by
  induction left generalizing right with
  | nil =>
      have empty : right = [] := by simpa using counts.symm
      exact empty.symm
  | cons part left ih =>
      cases right with
      | nil => cases counts
      | cons other right =>
          obtain ⟨first, rest⟩ := List.cons.inj counts
          have lengths : (part.splitOn separator).length = (other.splitOn separator).length := by
            rw [length_splitOn, length_splitOn, first]
          obtain ⟨head, tail⟩ := List.append_inj same lengths
          rw [splitOn_injective separator head, ih rest tail]

/-- When joining is injective at two lists of parts: unless the same pieces are
divided differently among the parts. -/
theorem intercalate_injective_iff (separator : α) {left right : List (List α)}
    (someLeft : left ≠ []) (someRight : right ≠ []) :
    ([separator].intercalate left = [separator].intercalate right → left = right) ↔
      ¬ (pieces separator left = pieces separator right ∧
        left.map (List.count separator) ≠ right.map (List.count separator)) := by
  rw [intercalate_eq_iff separator someLeft someRight, not_and, not_not]
  constructor
  · intro injective same
    rw [injective same]
  · intro counts same
    exact eq_of_pieces_eq separator (counts same) same

/-- The text before the first separator and the text after it. -/
def cut (separator : α) : List α → Option (List α × List α)
  | [] => none
  | value :: rest =>
      if value == separator then some ([], rest)
      else (cut separator rest).map fun (before, after) => (value :: before, after)

theorem cut_of_not_mem {separator : α} {text : List α} (absent : separator ∉ text) :
    cut separator text = none := by
  induction text with
  | nil => rfl
  | cons value rest ih =>
      obtain ⟨other, later⟩ := List.ne_and_not_mem_of_not_mem_cons absent
      rw [cut, if_neg (by simpa using other.symm), ih later]
      rfl

theorem cut_append {separator : α} {before : List α} (absent : separator ∉ before)
    (after : List α) : cut separator (before ++ separator :: after) = some (before, after) := by
  induction before with
  | nil =>
      rw [List.nil_append, cut]
      exact if_pos (beq_self_eq_true separator)
  | cons value before ih =>
      obtain ⟨other, later⟩ := List.ne_and_not_mem_of_not_mem_cons absent
      rw [List.cons_append, cut, if_neg (by simpa using other.symm), ih later]
      rfl

theorem cut_eq_some_iff {separator : α} {text before after : List α} :
    cut separator text = some (before, after) ↔
      separator ∉ before ∧ text = before ++ separator :: after := by
  constructor
  · intro found
    by_cases present : separator ∈ text
    · obtain ⟨first, second, rfl, absent⟩ := List.eq_append_cons_of_mem present
      rw [cut_append absent] at found
      cases found
      exact ⟨absent, rfl⟩
    · rw [cut_of_not_mem present] at found
      contradiction
  · rintro ⟨absent, rfl⟩
    exact cut_append absent after

/-- A text is cut at a separator it has, or at one before it. -/
theorem cut_append_cases {separator : α} {first second before after : List α}
    (found : cut separator (first ++ separator :: second) = some (before, after)) :
    (separator ∉ first ∧ before = first ∧ after = second) ∨
      ∃ more, first = before ++ separator :: more := by
  by_cases present : separator ∈ first
  · obtain ⟨early, more, rfl, absent⟩ := List.eq_append_cons_of_mem present
    rw [List.append_assoc, List.cons_append, cut_append absent] at found
    cases found
    exact .inr ⟨more, rfl⟩
  · rw [cut_append present] at found
    cases found
    exact .inl ⟨present, rfl, rfl⟩

omit [BEq α] [LawfulBEq α] in
/-- A pattern without the separator lies on one side of it. -/
theorem infix_append_cons_iff {separator : α} {pattern : List α} (absent : separator ∉ pattern)
    (first second : List α) :
    pattern <:+: first ++ separator :: second ↔ pattern <:+: first ∨ pattern <:+: second := by
  have starts : ∀ piece rest : List α, separator ∉ piece → piece <+: separator :: rest →
      piece = [] := by
    intro piece rest without start
    rcases List.prefix_cons_iff.mp start with empty | ⟨tail, rfl, -⟩
    · exact empty
    · exact absurd List.mem_cons_self without
  constructor
  · intro inside
    rcases List.infix_append_iff.mp inside with left | right | ⟨ending, start, rfl, left, right⟩
    · exact .inl left
    · rcases List.infix_cons_iff.mp right with start | later
      · rw [starts pattern second absent start]
        exact .inl List.nil_infix
      · exact .inr later
    · rw [List.mem_append, not_or] at absent
      rw [starts start second absent.2 right, List.append_nil]
      exact .inl left.isInfix
  · rintro (left | right)
    · exact List.infix_append_of_infix_left left
    · exact List.infix_append_of_infix_right (List.infix_cons right)

end PgCapture.Data.Separated
