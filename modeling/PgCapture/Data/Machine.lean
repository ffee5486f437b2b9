import Mathlib.Data.List.Basic

namespace PgCapture.Data

/-! # Machines that act on the outside

A machine reacts to one input after another, each time with a list of actions,
until it exits or its inputs end.  Actions carry the number of the step that
took them.  A machine that is killed between two actions has taken a prefix of
its trace.
-/

structure Reaction (σ α ε : Type) where
  actions : List α
  state : σ
  exit : Option ε

/-- An executed step: its number, and the state and the input it started from. -/
structure Executed (σ ι : Type) where
  number : Nat
  state : σ
  input : ι

section Machine

variable (react : σ → ι → Reaction σ α ε)

def executedFrom (number : Nat) (state : σ) : List ι → List (Executed σ ι)
  | [] => []
  | input :: inputs =>
      let reaction := react state input
      { number, state, input } ::
        match reaction.exit with
        | some _ => []
        | none => executedFrom (number + 1) reaction.state inputs

/-- The state a machine ends in and how it exited, if it did. -/
def outcome (state : σ) : List ι → σ × Option ε
  | [] => (state, none)
  | input :: inputs =>
      let reaction := react state input
      match reaction.exit with
      | some exit => (reaction.state, some exit)
      | none => outcome reaction.state inputs

theorem outcome_cons_eq_none {state reached : σ} {input : ι} {inputs : List ι} :
    outcome react state (input :: inputs) = (reached, none) ↔
      (react state input).exit = none ∧ outcome react (react state input).state inputs = (reached, none) := by
  rw [outcome]
  cases (react state input).exit with
  | some exit => simp
  | none => simp

def Executed.actions (step : Executed σ ι) : List α := (react step.state step.input).actions

def Executed.trace (step : Executed σ ι) : List (Nat × α) :=
  (step.actions react).map fun action => (step.number, action)

def traceOf (steps : List (Executed σ ι)) : List (Nat × α) := steps.flatMap (Executed.trace react)

theorem mem_trace {step : Executed σ ι} {number : Nat} {action : α} :
    (number, action) ∈ step.trace react ↔ number = step.number ∧ action ∈ step.actions react := by
  simp only [Executed.trace, List.mem_map, Prod.mk.injEq]
  constructor
  · intro found
    obtain ⟨taken, member, rfl, rfl⟩ := found
    exact ⟨rfl, member⟩
  · intro found
    obtain ⟨rfl, member⟩ := found
    exact ⟨action, member, rfl, rfl⟩

theorem mem_traceOf {steps : List (Executed σ ι)} {number : Nat} {action : α} :
    (number, action) ∈ traceOf react steps ↔
      ∃ step ∈ steps, number = step.number ∧ action ∈ step.actions react := by
  simp only [traceOf, List.mem_flatMap, mem_trace]

theorem traceOf_append (first second : List (Executed σ ι)) :
    traceOf react (first ++ second) = traceOf react first ++ traceOf react second :=
  List.flatMap_append

theorem traceOf_cons (step : Executed σ ι) (steps : List (Executed σ ι)) :
    traceOf react (step :: steps) = step.trace react ++ traceOf react steps :=
  List.flatMap_cons

/-- What a run shows of one kind, when no step shows more than one of it. -/
theorem traceOf_filterMap {kind : α → Option β} {own : Executed σ ι → Option β}
    {steps : List (Executed σ ι)}
    (shown : ∀ step ∈ steps, (step.actions react).filterMap kind = (own step).toList) :
    (traceOf react steps).filterMap (fun entry => kind entry.2) = steps.filterMap own := by
  induction steps with
  | nil => rfl
  | cons step steps ih =>
      have here : (step.trace react).filterMap (fun entry => kind entry.2) = (own step).toList := by
        rw [Executed.trace, List.filterMap_map]
        exact shown step List.mem_cons_self
      have rest := ih fun later member => shown later (List.mem_cons_of_mem _ member)
      rw [traceOf_cons, List.filterMap_append, here, rest, List.filterMap_cons]
      cases own step <;> rfl

theorem executedFrom_number_le {number : Nat} {state : σ} {inputs : List ι} {step : Executed σ ι}
    (member : step ∈ executedFrom react number state inputs) : number ≤ step.number := by
  induction inputs generalizing number state with
  | nil => contradiction
  | cons input inputs ih =>
      simp only [executedFrom] at member
      rcases List.mem_cons.mp member with rfl | later
      · exact Nat.le_refl _
      · split at later
        · contradiction
        · exact Nat.le_of_succ_le (ih later)

theorem executedFrom_input_mem {number : Nat} {state : σ} {inputs : List ι} {step : Executed σ ι}
    (member : step ∈ executedFrom react number state inputs) : step.input ∈ inputs := by
  induction inputs generalizing number state with
  | nil => contradiction
  | cons input inputs ih =>
      simp only [executedFrom] at member
      rcases List.mem_cons.mp member with rfl | later
      · exact List.mem_cons_self
      · split at later
        · contradiction
        · exact List.mem_cons_of_mem _ (ih later)

theorem executedFrom_inputs (number : Nat) (state : σ) (inputs : List ι) :
    (executedFrom react number state inputs).map Executed.input <+: inputs := by
  induction inputs generalizing number state with
  | nil => exact List.prefix_rfl
  | cons input inputs ih =>
      simp only [executedFrom, List.map_cons, List.cons_prefix_cons, true_and]
      split
      · exact List.nil_prefix
      · exact ih _ _

/-- Inputs are left over only behind an exit. -/
theorem executedFrom_stops (number : Nat) (state : σ) (inputs : List ι) :
    ∃ rest, inputs = (executedFrom react number state inputs).map Executed.input ++ rest ∧
      (rest ≠ [] → ∃ last ∈ (executedFrom react number state inputs).getLast?,
        (react last.state last.input).exit ≠ none) := by
  induction inputs generalizing number state with
  | nil => exact ⟨[], rfl, fun left => absurd rfl left⟩
  | cons input inputs ih =>
      cases exits : (react state input).exit with
      | some exit =>
          refine ⟨inputs, ?_, fun _ => ⟨⟨number, state, input⟩, ?_, ?_⟩⟩
          · simp only [executedFrom, exits, List.map_cons, List.map_nil, List.cons_append, List.nil_append]
          · simp only [executedFrom, exits, List.getLast?_singleton, Option.mem_def]
          · rw [exits]
            exact Option.some_ne_none exit
      | none =>
          obtain ⟨rest, split, stops⟩ := ih (number + 1) (react state input).state
          refine ⟨rest, ?_, ?_⟩
          · simp only [executedFrom, exits, List.map_cons, List.cons_append]
            rw [← split]
          · intro left
            obtain ⟨last, isLast, exited⟩ := stops left
            refine ⟨last, ?_, exited⟩
            simp only [executedFrom, exits, List.getLast?_cons, Option.mem_def.mp isLast,
              Option.getD_some, Option.mem_def]

/-- What holds of the first state and survives every step that does not exit
    holds of the state each executed step starts from. -/
theorem executedFrom_invariant (motive : List (Executed σ ι) → σ → Prop)
    {number : Nat} {state : σ} {inputs : List ι} {done later : List (Executed σ ι)}
    {step : Executed σ ι} (start : motive [] state)
    (preserved : ∀ done (step : Executed σ ι), (react step.state step.input).exit = none →
      motive done step.state → motive (done ++ [step]) (react step.state step.input).state)
    (executed : executedFrom react number state inputs = done ++ step :: later) :
    motive done step.state := by
  induction inputs generalizing motive number state done with
  | nil => simp [executedFrom] at executed
  | cons input inputs ih =>
      simp only [executedFrom] at executed
      cases done with
      | nil =>
          obtain ⟨rfl, _⟩ := List.cons.inj executed
          exact start
      | cons first done =>
          obtain ⟨rfl, rest⟩ := List.cons.inj executed
          split at rest
          · simp at rest
          · rename_i stays
            exact ih (fun others => motive ({ number, state, input } :: others))
              (preserved [] { number, state, input } stays start)
              (fun others => preserved (_ :: others)) rest

theorem executedFrom_ordered (number : Nat) (state : σ) (inputs : List ι) :
    (executedFrom react number state inputs).Pairwise fun first second =>
      first.number < second.number := by
  induction inputs generalizing number state with
  | nil => exact List.Pairwise.nil
  | cons input inputs ih =>
      simp only [executedFrom]
      refine List.pairwise_cons.mpr ⟨?_, ?_⟩
      · intro step member
        split at member
        · contradiction
        · exact executedFrom_number_le react member
      · split
        · exact List.Pairwise.nil
        · exact ih _ _

theorem number_lt_of_mem_done {steps done later : List (Executed σ ι)} {step other : Executed σ ι}
    (ordered : steps.Pairwise fun first second => first.number < second.number)
    (split : steps = done ++ step :: later) (member : other ∈ done) : other.number < step.number := by
  rw [split] at ordered
  exact (List.pairwise_append.mp ordered).2.2 other member step List.mem_cons_self

theorem mem_done_of_number_lt {steps done later : List (Executed σ ι)} {step other : Executed σ ι}
    (ordered : steps.Pairwise fun first second => first.number < second.number)
    (split : steps = done ++ step :: later) (member : other ∈ steps)
    (before : other.number < step.number) : other ∈ done := by
  rw [split] at ordered member
  rcases List.mem_append.mp member with inDone | inRest
  · exact inDone
  · rcases List.mem_cons.mp inRest with same | inLater
    · rw [same] at before
      exact absurd before (Nat.lt_irrefl _)
    · have behind := (List.pairwise_cons.mp (List.pairwise_append.mp ordered).2.1).1 other inLater
      exact absurd before (Nat.lt_asymm behind)

theorem mem_done_or_eq {steps done later : List (Executed σ ι)} {step other : Executed σ ι}
    (ordered : steps.Pairwise fun first second => first.number < second.number)
    (split : steps = done ++ step :: later) (member : other ∈ steps)
    (notAfter : other.number ≤ step.number) : other ∈ done ∨ other = step := by
  rcases Nat.lt_or_eq_of_le notAfter with before | same
  · exact Or.inl (mem_done_of_number_lt ordered split member before)
  · rw [split] at ordered member
    rcases List.mem_append.mp member with inDone | inRest
    · exact Or.inl inDone
    · rcases List.mem_cons.mp inRest with equal | inLater
      · exact Or.inr equal
      · have behind := (List.pairwise_cons.mp (List.pairwise_append.mp ordered).2.1).1 other inLater
        exact absurd same (Nat.ne_of_gt behind)

theorem eq_of_number_eq {steps : List (Executed σ ι)} {first second : Executed σ ι}
    (ordered : steps.Pairwise fun first second => first.number < second.number)
    (firstMem : first ∈ steps) (secondMem : second ∈ steps) (same : first.number = second.number) :
    first = second := by
  obtain ⟨done, later, split⟩ := List.append_of_mem secondMem
  rcases mem_done_or_eq ordered split firstMem (Nat.le_of_eq same) with inDone | equal
  · exact absurd same (Nat.ne_of_lt (number_lt_of_mem_done ordered split inDone))
  · exact equal

theorem pairwise_iff_split {related : β → β → Prop} {entries : List β} :
    entries.Pairwise related ↔
      ∀ before first between second after,
        entries = before ++ first :: (between ++ second :: after) → related first second := by
  induction entries with
  | nil => exact iff_of_true List.Pairwise.nil fun before first between second after split => by simp at split
  | cons entry entries ih =>
      rw [List.pairwise_cons, ih]
      constructor
      · rintro ⟨head, tail⟩ before first between second after split
        cases before with
        | nil =>
            obtain ⟨rfl, rfl⟩ := List.cons.inj split
            exact head second (List.mem_append_right between List.mem_cons_self)
        | cons other before => exact tail before first between second after (List.cons.inj split).2
      · intro all
        refine ⟨fun second member => ?_, fun before first between second after split => ?_⟩
        · obtain ⟨between, after, rfl⟩ := List.append_of_mem member
          exact all [] entry between second after rfl
        · exact all (entry :: before) first between second after (by rw [split, List.cons_append])

theorem prefix_of_split (before : List β) (entry : β) (after : List β) :
    before ++ [entry] <+: before ++ entry :: after :=
  ⟨after, by rw [List.append_assoc, List.singleton_append]⟩

/-- A killed run has finished some steps and taken part of the actions of the
    next one. -/
theorem prefix_traceOf {steps : List (Executed σ ι)} {taken : List (Nat × α)}
    (killed : taken <+: traceOf react steps) :
    (taken = traceOf react steps) ∨
    ∃ done step later part, steps = done ++ step :: later ∧ taken = traceOf react done ++ part ∧
      part <+: step.trace react := by
  induction steps generalizing taken with
  | nil =>
      exact Or.inl (List.prefix_nil.mp killed)
  | cons step steps ih =>
      rw [traceOf_cons] at killed ⊢
      obtain ⟨lost, whole⟩ := killed
      rcases List.append_eq_append_iff.mp whole with ⟨tail, early, _⟩ | ⟨rest, rfl, restWhole⟩
      · exact Or.inr ⟨[], step, steps, taken, rfl, rfl, ⟨tail, early.symm⟩⟩
      · rcases ih ⟨lost, restWhole.symm⟩ with rfl | ⟨done, next, later, part, rfl, rfl, inside⟩
        · exact Or.inl rfl
        · refine Or.inr ⟨step :: done, next, later, part, rfl, ?_, inside⟩
          rw [traceOf_cons, List.append_assoc]

/-- Just before one of its actions, a run has finished the earlier steps and
    taken the earlier actions of the same step. -/
theorem before_action {steps : List (Executed σ ι)} {before : List (Nat × α)} {number : Nat}
    {action : α} (taken : before ++ [(number, action)] <+: traceOf react steps) :
    ∃ done step later front back, steps = done ++ step :: later ∧
      step.actions react = front ++ action :: back ∧ number = step.number ∧
      before = traceOf react done ++ front.map fun earlier => (step.number, earlier) := by
  induction steps generalizing before with
  | nil =>
      have empty := List.prefix_nil.mp taken
      simp at empty
  | cons step steps ih =>
      obtain ⟨rest, whole⟩ := taken
      rw [traceOf_cons, List.append_assoc, List.singleton_append] at whole
      -- the action belongs to this step, or to a later one behind the whole step
      have place : (∃ tail, step.trace react = before ++ (number, action) :: tail) ∨
          ∃ tail, before = step.trace react ++ tail ∧
            traceOf react steps = tail ++ (number, action) :: rest := by
        rcases List.append_eq_append_iff.mp whole with ⟨tail, inside, others⟩ | ⟨tail, behind, others⟩
        · cases tail with
          | nil =>
              rw [List.append_nil] at inside
              exact Or.inr ⟨[], by rw [inside, List.append_nil], others.symm⟩
          | cons head tail =>
              rw [List.cons_append] at others
              obtain ⟨same, _⟩ := List.cons.inj others
              exact Or.inl ⟨tail, by rw [inside, same]⟩
        · exact Or.inr ⟨tail, behind, others⟩
      rcases place with ⟨tail, inside⟩ | ⟨tail, behind, others⟩
      · obtain ⟨front, others, split, mapped, restMapped⟩ := List.map_eq_append_iff.mp inside
        obtain ⟨taken, back, rfl, same, _⟩ := List.map_eq_cons_iff.mp restMapped
        obtain ⟨numbers, rfl⟩ := Prod.mk.inj same
        exact ⟨[], step, steps, front, back, rfl, split, numbers.symm, mapped.symm⟩
      · have later : tail ++ [(number, action)] <+: traceOf react steps :=
          ⟨rest, by rw [others, List.append_assoc, List.singleton_append]⟩
        obtain ⟨done, next, remaining, front, back, rfl, split, rfl, rfl⟩ := ih later
        refine ⟨step :: done, next, remaining, front, back, rfl, split, rfl, ?_⟩
        rw [behind, traceOf_cons, List.append_assoc]

theorem taken_before_action {steps done later : List (Executed σ ι)} {step : Executed σ ι}
    {front back : List α} {action : α} (split : steps = done ++ step :: later)
    (actions : step.actions react = front ++ action :: back) :
    traceOf react done ++ front.map (fun earlier => (step.number, earlier)) ++
      [(step.number, action)] <+: traceOf react steps := by
  rw [split, traceOf_append, traceOf_cons, Executed.trace, actions]
  simp only [List.map_append, List.map_cons, List.append_assoc, List.cons_append,
    List.prefix_append_right_inj]
  exact ⟨back.map (fun earlier => (step.number, earlier)) ++ traceOf react later, rfl⟩

end Machine

end PgCapture.Data
