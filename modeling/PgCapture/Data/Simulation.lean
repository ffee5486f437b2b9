import PgCapture.Data.Machine
import Mathlib.Data.List.Forall2

namespace PgCapture.Data

/-! # Machines that run another machine

A machine simulates another one when each of its reactions is the other's
reaction to an input that it makes up from its own state.  Its runs are then
runs of the other machine, action for action.
-/

section Outcome

variable (react : σ → ι → Reaction σ α ε)

/-- What holds of the first state and survives every step holds of the state a
    run ends in, also behind the step that exits. -/
theorem outcome_invariant (motive : List (Executed σ ι) → σ → Prop) {number : Nat} {state : σ}
    {inputs : List ι} (start : motive [] state)
    (preserved : ∀ done (step : Executed σ ι), step.input ∈ inputs → motive done step.state →
      motive (done ++ [step]) (react step.state step.input).state) :
    motive (executedFrom react number state inputs) (outcome react state inputs).1 := by
  induction inputs generalizing motive number state with
  | nil => exact start
  | cons input inputs ih =>
      have first := preserved [] { number, state, input } List.mem_cons_self start
      simp only [executedFrom, outcome]
      split
      · exact first
      · exact ih (fun others => motive ({ number, state, input } :: others)) first
          fun done step member before =>
            preserved (_ :: done) step (List.mem_cons_of_mem _ member) before

end Outcome

/-- Every reaction of `react` is one of `other`. -/
structure Simulates (react : σ → ι → Reaction σ α ε) (other : τ → κ → Reaction τ α ε)
    (view : σ → τ) (input : σ → ι → κ) : Prop where
  actions : ∀ state given, (react state given).actions = (other (view state) (input state given)).actions
  state : ∀ state given, view (react state given).state = (other (view state) (input state given)).state
  exit : ∀ state given, (react state given).exit = (other (view state) (input state given)).exit

namespace Simulates

variable {react : σ → ι → Reaction σ α ε} {other : τ → κ → Reaction τ α ε} {view : σ → τ}
  {input : σ → ι → κ}

/-- The step the simulated machine takes. -/
def viewed (view : σ → τ) (input : σ → ι → κ) (step : Executed σ ι) : Executed τ κ :=
  { number := step.number, state := view step.state, input := input step.state step.input }

variable (simulates : Simulates react other view input)

/-- The inputs that the simulated machine is given along a run. -/
def inner (input : σ → ι → κ) (steps : List (Executed σ ι)) : List κ :=
  steps.map fun step => input step.state step.input

include simulates

/-- A run of the machine is a run of the other. -/
theorem executedFrom_viewed (number : Nat) (state : σ) (inputs : List ι) :
    (executedFrom react number state inputs).map (viewed view input) =
      executedFrom other number (view state) (inner input (executedFrom react number state inputs)) := by
  induction inputs generalizing number state with
  | nil => rfl
  | cons given inputs ih =>
      have exits := simulates.exit state given
      have next := ih (number + 1) (react state given).state
      rw [simulates.state] at next
      cases stops : (react state given).exit with
      | some reason =>
          rw [stops] at exits
          simp only [executedFrom, stops, ← exits, inner, List.map_cons, List.map_nil, viewed]
      | none =>
          rw [stops] at exits
          simp only [inner] at next
          simp only [executedFrom, stops, ← exits, inner, List.map_cons, next, viewed]

theorem outcome_viewed (number : Nat) (state : σ) (inputs : List ι) :
    let stop := outcome react state inputs
    (view stop.1, stop.2) =
      outcome other (view state) (inner input (executedFrom react number state inputs)) := by
  induction inputs generalizing number state with
  | nil => rfl
  | cons given inputs ih =>
      have exits := simulates.exit state given
      have next := ih (number + 1) (react state given).state
      rw [simulates.state] at next
      cases stops : (react state given).exit with
      | some reason =>
          rw [stops] at exits
          simp only [executedFrom, outcome, stops, ← exits, inner, List.map_cons, simulates.state]
      | none =>
          rw [stops] at exits
          simp only [inner] at next
          simp only [executedFrom, outcome, stops, ← exits, inner, List.map_cons, next]

theorem traceOf_viewed (steps : List (Executed σ ι)) :
    traceOf react steps = traceOf other (steps.map (viewed view input)) := by
  induction steps with
  | nil => rfl
  | cons step steps ih =>
      have here : step.trace react = (viewed view input step).trace other := by
        rw [Executed.trace, Executed.trace, Executed.actions, simulates.actions]
        rfl
      rw [traceOf_cons, List.map_cons, traceOf_cons, here, ih]

end Simulates

/-- Two machines whose steps stay related and show the same `seen` actions. -/
structure Lockstep (react : σ → ι → Reaction σ α ε) (other : τ → κ → Reaction τ α ε)
    (related : σ → τ → Prop) (given : ι → κ → Prop) (seen : α → Bool) : Prop where
  exit : ∀ {state reached input taken}, related state reached → given input taken →
    (react state input).exit = (other reached taken).exit
  state : ∀ {state reached input taken}, related state reached → given input taken →
    related (react state input).state (other reached taken).state
  actions : ∀ {state reached input taken}, related state reached → given input taken →
    (react state input).actions.filter seen = (other reached taken).actions.filter seen

namespace Lockstep

variable {react : σ → ι → Reaction σ α ε} {other : τ → κ → Reaction τ α ε}
  {related : σ → τ → Prop} {given : ι → κ → Prop} {seen : α → Bool}

variable (lockstep : Lockstep react other related given seen)
include lockstep

theorem outcome {state : σ} {reached : τ} (start : related state reached) {inputs : List ι}
    {others : List κ} (same : List.Forall₂ given inputs others) :
    (outcome react state inputs).2 = (Data.outcome other reached others).2 ∧
      related (Data.outcome react state inputs).1 (Data.outcome other reached others).1 := by
  induction same generalizing state reached with
  | nil => exact ⟨rfl, start⟩
  | cons first _ ih =>
      have exits := lockstep.exit start first
      have next := lockstep.state start first
      simp only [Data.outcome, exits]
      split
      · exact ⟨rfl, next⟩
      · exact ih next

theorem traceOf {number : Nat} {state : σ} {reached : τ} (start : related state reached)
    {inputs : List ι} {others : List κ} (same : List.Forall₂ given inputs others) :
    (traceOf react (executedFrom react number state inputs)).filter (fun entry => seen entry.2) =
      (Data.traceOf other (executedFrom other number reached others)).filter
        fun entry => seen entry.2 := by
  induction same generalizing number state reached with
  | nil => rfl
  | cons first _ ih =>
      have exits := lockstep.exit start first
      have shown := lockstep.actions start first
      simp only [executedFrom, exits, traceOf_cons, List.filter_append, Executed.trace,
        Executed.actions, List.filter_map, Function.comp_def, shown]
      congr 1
      split
      · rfl
      · exact ih (lockstep.state start first)

end Lockstep

end PgCapture.Data
