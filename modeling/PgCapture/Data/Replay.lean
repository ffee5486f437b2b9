import Mathlib.Data.List.Basic
import Mathlib.Order.Lattice

namespace PgCapture.Data

/-! # Replaying a log

A reader hands on the items of a log and keeps a bookmark.  Whenever it starts
again it reads what lies behind its bookmark, so items it handed on without
moving the bookmark past them are handed on again.
-/

section Replay

variable [LinearOrder P] (position : α → P)

def behind (log : List α) (bookmark : P) : List α :=
  log.filter fun item => bookmark < position item

/-- One pass of the reader: it starts behind one bookmark, hands items on in
    order, and leaves a bookmark with nothing skipped in between. -/
structure Pass (log : List α) (start stop : P) (given : List α) : Prop where
  inOrder : given <+: behind position log start
  complete : ∀ item ∈ behind position log start, position item ≤ stop → item ∈ given
  forward : start ≤ stop

/-- Passes that follow one another, each given by the bookmark it leaves and the
    items it hands on. -/
def Passes (log : List α) : P → List (P × List α) → Prop
  | _, [] => True
  | start, (stop, given) :: passes => Pass position log start stop given ∧ Passes log stop passes

def lastBookmark (start : P) : List (P × List α) → P
  | [] => start
  | pass :: passes => lastBookmark pass.1 passes

variable {position}

theorem mem_behind {log : List α} {bookmark : P} {item : α} :
    item ∈ behind position log bookmark ↔ item ∈ log ∧ bookmark < position item := by
  simp [behind]

theorem behind_sorted {log : List α} (bookmark : P)
    (sorted : log.Pairwise fun first second => position first < position second) :
    (behind position log bookmark).Pairwise fun first second => position first < position second :=
  sorted.filter _

theorem behind_behind {log : List α} {start stop : P} (forward : start ≤ stop) :
    behind position (behind position log start) stop = behind position log stop := by
  simp only [behind, List.filter_filter]
  apply List.filter_congr
  intro item member
  rw [Bool.eq_iff_iff]
  simp only [Bool.and_eq_true, decide_eq_true_eq, and_iff_left_iff_imp]
  exact fun past => lt_of_le_of_lt forward past

theorem mem_of_mem_prefix {front items : List α} {item last : α}
    (sorted : items.Pairwise fun first second => position first < position second)
    (initial : front <+: items) (lastMem : last ∈ front) (member : item ∈ items)
    (before : position item ≤ position last) : item ∈ front := by
  obtain ⟨rest, rfl⟩ := initial
  rcases List.mem_append.mp member with inFront | inRest
  · exact inFront
  · have after := (List.pairwise_append.mp sorted).2.2 last lastMem item inRest
    exact absurd before (not_le_of_gt after)

theorem Pass.append_behind {log given : List α} {start stop : P}
    (sorted : log.Pairwise fun first second => position first < position second)
    (pass : Pass position log start stop given) (saved : ∀ item ∈ given, position item ≤ stop) :
    given ++ behind position log stop = behind position log start := by
  obtain ⟨rest, whole⟩ := pass.inOrder
  have order := behind_sorted start sorted
  rw [← whole] at order
  have givenPast : behind position given stop = [] := by
    rw [behind, List.filter_eq_nil_iff]
    intro item member
    simpa using saved item member
  have restBehind : behind position rest stop = rest := by
    rw [behind, List.filter_eq_self]
    intro item member
    by_contra notBehind
    have early : position item ≤ stop := by simpa using notBehind
    have inGiven := pass.complete item (by rw [← whole]; exact List.mem_append_right _ member) early
    exact lt_irrefl _ ((List.pairwise_append.mp order).2.2 item inGiven item member)
  have left : behind position log stop = rest := by
    rw [← behind_behind pass.forward, ← whole, behind, List.filter_append]
    change behind position given stop ++ behind position rest stop = rest
    rw [givenPast, restBehind, List.nil_append]
  rw [left, whole]

theorem behind_subset {log : List α} {start stop : P} {item : α} (forward : start ≤ stop)
    (member : item ∈ behind position log stop) : item ∈ behind position log start := by
  obtain ⟨inLog, past⟩ := mem_behind.mp member
  exact mem_behind.mpr ⟨inLog, lt_of_le_of_lt forward past⟩

/-- Nothing is lost and nothing comes from elsewhere: what lies behind the first
    bookmark is handed on, or still lies behind the last one. -/
theorem mem_passes_iff {log : List α} {start : P} {passes : List (P × List α)} {item : α}
    (follow : Passes position log start passes) :
    item ∈ passes.flatMap Prod.snd ++ behind position log (lastBookmark start passes) ↔
      item ∈ behind position log start := by
  induction passes generalizing start with
  | nil => exact Iff.rfl
  | cons pass passes ih =>
      obtain ⟨stop, given⟩ := pass
      obtain ⟨first, rest⟩ := follow
      rw [List.flatMap_cons, List.append_assoc, List.mem_append]
      constructor
      · intro handedOn
        rcases handedOn with here | later
        · exact first.inOrder.subset here
        · exact behind_subset first.forward ((ih rest).mp later)
      · intro member
        rcases le_or_gt (position item) stop with early | late
        · exact Or.inl (first.complete item member early)
        · exact Or.inr ((ih rest).mpr (mem_behind.mpr ⟨(mem_behind.mp member).1, late⟩))

/-- Nothing is handed on twice exactly when every pass moves its bookmark past
    all it handed on. -/
theorem passes_eq_behind_iff {log : List α} {start : P} {passes : List (P × List α)}
    (sorted : log.Pairwise fun first second => position first < position second)
    (follow : Passes position log start passes) :
    passes.flatMap Prod.snd ++ behind position log (lastBookmark start passes) =
        behind position log start ↔
      ∀ pass ∈ passes, ∀ item ∈ pass.2, position item ≤ pass.1 := by
  induction passes generalizing start with
  | nil => simp [lastBookmark]
  | cons pass passes ih =>
      obtain ⟨stop, given⟩ := pass
      obtain ⟨first, rest⟩ := follow
      rw [List.flatMap_cons, List.append_assoc]
      constructor
      · intro once
        have saved : ∀ item ∈ given, position item ≤ stop := by
          intro item member
          by_contra unsaved
          -- what lies behind the bookmark is handed on once more
          have inLog := (mem_behind.mp (first.inOrder.subset member)).1
          have again := (mem_passes_iff rest).mpr (mem_behind.mpr ⟨inLog, not_le.mp unsaved⟩)
          have order := behind_sorted start sorted
          rw [← once] at order
          exact lt_irrefl _ ((List.pairwise_append.mp order).2.2 item member item again)
        have remaining := once.trans (first.append_behind sorted saved).symm
        have others := (ih rest).mp (List.append_cancel_left remaining)
        intro pass passMem
        rcases List.mem_cons.mp passMem with rfl | later
        · exact saved
        · exact others pass later
      · intro saved
        have remaining := (ih rest).mpr fun pass later => saved pass (List.mem_cons_of_mem _ later)
        have here := saved (stop, given) List.mem_cons_self
        calc given ++ (passes.flatMap Prod.snd ++ behind position log (lastBookmark stop passes))
          _ = given ++ behind position log stop := by rw [remaining]
          _ = behind position log start := first.append_behind sorted here

/-- Doing a run of items a second time right after the first changes nothing. -/
def Repeatable (act : σ → α → σ) : Prop :=
  ∀ (state : σ) (items : List α), items.foldl act (items.foldl act state) = items.foldl act state

theorem filter_append_behind {items : List α} (stop : P)
    (sorted : items.Pairwise fun first second => position first < position second) :
    items.filter (fun item => position item ≤ stop) ++ behind position items stop = items := by
  induction items with
  | nil => rfl
  | cons item items ih =>
      obtain ⟨least, sortedRest⟩ := List.pairwise_cons.mp sorted
      rcases le_or_gt (position item) stop with early | late
      · have notBehind : ¬ stop < position item := not_lt_of_ge early
        simp only [behind, List.filter_cons, early, notBehind, decide_true, decide_false, if_true,
          Bool.false_eq_true, if_false, List.cons_append]
        exact congrArg _ (ih sortedRest)
      · -- what follows lies behind the bookmark as well
        have none : (item :: items).filter (fun item => position item ≤ stop) = [] := by
          rw [List.filter_eq_nil_iff]
          intro other member
          rw [decide_eq_true_eq, not_le]
          rcases List.mem_cons.mp member with rfl | later
          · exact late
          · exact late.trans (least other later)
        have all : behind position (item :: items) stop = item :: items := by
          rw [behind, List.filter_eq_self]
          intro other member
          rw [decide_eq_true_eq]
          rcases List.mem_cons.mp member with rfl | later
          · exact late
          · exact late.trans (least other later)
        rw [none, all, List.nil_append]

theorem Pass.foldl_behind {act : σ → α → σ} (repeatable : Repeatable act) {log given : List α}
    {start stop : P}
    (sorted : log.Pairwise fun first second => position first < position second)
    (pass : Pass position log start stop given) (state : σ) :
    (behind position log stop).foldl act (given.foldl act state) =
      (behind position log start).foldl act state := by
  obtain ⟨rest, whole⟩ := pass.inOrder
  have order := behind_sorted start sorted
  rw [← whole] at order
  have restBehind : behind position rest stop = rest := by
    rw [behind, List.filter_eq_self]
    intro item member
    by_contra notBehind
    have early : position item ≤ stop := by simpa using notBehind
    have inGiven := pass.complete item (by rw [← whole]; exact List.mem_append_right _ member) early
    exact lt_irrefl _ ((List.pairwise_append.mp order).2.2 item inGiven item member)
  -- the items before the bookmark, those handed on behind it, and the rest
  have split := filter_append_behind stop (List.pairwise_append.mp order).1
  have again : behind position log stop = behind position given stop ++ rest := by
    rw [← behind_behind pass.forward, ← whole, behind, List.filter_append]
    exact congrArg _ restBehind
  have twice : (behind position given stop).foldl act (given.foldl act state) = given.foldl act state := by
    have done : given.foldl act state = (behind position given stop).foldl act
        ((given.filter fun item => position item ≤ stop).foldl act state) := by
      rw [← List.foldl_append, split]
    rw [done]
    exact repeatable _ _
  rw [again, ← whole, List.foldl_append, List.foldl_append, twice]

/-- Whatever is handed on again on the way, the state is the one that everything
    handed on once leads to. -/
theorem foldl_passes {act : σ → α → σ} (repeatable : Repeatable act) {log : List α} {start : P}
    {passes : List (P × List α)}
    (sorted : log.Pairwise fun first second => position first < position second)
    (follow : Passes position log start passes) (state : σ) :
    (passes.flatMap Prod.snd ++ behind position log (lastBookmark start passes)).foldl act state =
      (behind position log start).foldl act state := by
  induction passes generalizing start state with
  | nil => rfl
  | cons pass passes ih =>
      obtain ⟨stop, given⟩ := pass
      obtain ⟨first, rest⟩ := follow
      rw [List.flatMap_cons, List.append_assoc, List.foldl_append, lastBookmark, ih rest]
      exact first.foldl_behind repeatable sorted state

/-- Items that overwrite are repeatable: under each key the last one to write counts. -/
theorem repeatable_of_written {κ ρ : Type} {act : (κ → ρ) → α → κ → ρ} {written : α → κ → Option ρ}
    (acts : ∀ state item key, act state item key = (written item key).getD (state key)) :
    Repeatable act := by
  have last : ∀ (items : List α) state key, items.foldl act state key =
      (items.filterMap fun item => written item key).getLast?.getD (state key) := by
    intro items
    induction items with
    | nil => exact fun state key => rfl
    | cons item items ih =>
        intro state key
        rw [List.foldl_cons, ih, acts, List.filterMap_cons]
        cases written item key with
        | none => rfl
        | some value =>
            simp only [List.getLast?_cons, Option.getD_some]
  intro state items
  funext key
  rw [last, last]
  cases (items.filterMap fun item => written item key).getLast? <;> rfl

/-- A reader whose bookmark is past all it handed on. -/
structure Handover (position : α → P) (log : List α) (start stop : P) (given : List α) : Prop where
  inOrder : given <+: behind position log start
  covered : ∀ item ∈ given, position item ≤ stop
  forward : start ≤ stop

def Handovers (position : α → P) (log : List α) : P → List (P × List α) → Prop
  | _, [] => True
  | start, (stop, given) :: passes =>
      Handover position log start stop given ∧ Handovers position log stop passes

/-- Nothing is skipped. -/
def Complete (position : α → P) (log : List α) : P → List (P × List α) → Prop
  | _, [] => True
  | start, (stop, given) :: passes =>
      (∀ item ∈ behind position log start, position item ≤ stop → item ∈ given) ∧
        Complete position log stop passes

theorem Handover.given_prefix {log given : List α} {start stop : P}
    (handover : Handover position log start stop given) :
    given <+: (behind position log start).filter fun item => position item ≤ stop := by
  have all : given.filter (fun item => position item ≤ stop) = given := by
    rw [List.filter_eq_self]
    exact fun item member => decide_eq_true (handover.covered item member)
  have front := handover.inOrder.filter fun item => decide (position item ≤ stop)
  rwa [all] at front

theorem Handover.behind_split {log given : List α} {start stop : P}
    (sorted : log.Pairwise fun first second => position first < position second)
    (handover : Handover position log start stop given) :
    (behind position log start).filter (fun item => position item ≤ stop) ++ behind position log stop =
      behind position log start := by
  rw [← behind_behind handover.forward]
  exact filter_append_behind stop (behind_sorted start sorted)

theorem handovers_sublist {log : List α} {start : P} {passes : List (P × List α)}
    (sorted : log.Pairwise fun first second => position first < position second)
    (follow : Handovers position log start passes) :
    (passes.flatMap Prod.snd ++ behind position log (lastBookmark start passes)).Sublist
      (behind position log start) := by
  induction passes generalizing start with
  | nil => exact List.Sublist.refl _
  | cons pass passes ih =>
      obtain ⟨stop, given⟩ := pass
      obtain ⟨first, rest⟩ := follow
      rw [List.flatMap_cons, List.append_assoc, lastBookmark, ← first.behind_split sorted]
      exact first.given_prefix.sublist.append (ih rest)

theorem eq_of_prefix_of_subset {front items : List α} (initial : front <+: items)
    (sorted : items.Pairwise fun first second => position first < position second)
    (all : ∀ item ∈ items, item ∈ front) : front = items := by
  obtain ⟨rest, rfl⟩ := initial
  cases rest with
  | nil => exact (List.append_nil front).symm
  | cons item rest =>
      have inFront := all item (List.mem_append_right _ List.mem_cons_self)
      have before := (List.pairwise_append.mp sorted).2.2 item inFront item List.mem_cons_self
      exact absurd before (lt_irrefl _)

/-- All is handed on exactly once when nothing is skipped, and only then. -/
theorem handovers_eq_behind_iff {log : List α} {start : P} {passes : List (P × List α)}
    (sorted : log.Pairwise fun first second => position first < position second)
    (follow : Handovers position log start passes) :
    passes.flatMap Prod.snd ++ behind position log (lastBookmark start passes) =
        behind position log start ↔
      Complete position log start passes := by
  induction passes generalizing start with
  | nil => exact iff_of_true rfl trivial
  | cons pass passes ih =>
      obtain ⟨stop, given⟩ := pass
      obtain ⟨first, rest⟩ := follow
      have split := first.behind_split sorted
      have front := first.given_prefix
      rw [List.flatMap_cons, List.append_assoc, lastBookmark, Complete, ← ih rest]
      constructor
      · intro once
        rw [← split] at once
        have shorter := front.length_le
        have later := (handovers_sublist sorted rest).length_le
        have total := congrArg List.length once
        simp only [List.length_append] at total later
        have sameFront : given = (behind position log start).filter fun item => position item ≤ stop :=
          front.eq_of_length (by omega)
        rw [← sameFront] at once
        refine ⟨?_, List.append_cancel_left once⟩
        intro item member early
        rw [sameFront]
        exact List.mem_filter.mpr ⟨member, decide_eq_true early⟩
      · intro complete
        obtain ⟨none, others⟩ := complete
        have sameFront : given = (behind position log start).filter fun item => position item ≤ stop := by
          apply eq_of_prefix_of_subset front ((behind_sorted start sorted).filter _)
          intro item member
          obtain ⟨inBehind, early⟩ := List.mem_filter.mp member
          exact none item inBehind (of_decide_eq_true early)
        rw [others, sameFront, split]

end Replay

end PgCapture.Data
