import PgCapture.Data.Machine

namespace PgCapture.Data

/-! # Machines that wait for their inputs

A dialogue is what a machine and its peer can see of a run: every attempt to
read, every input that arrives, every action and the exit.  An attempt that no
input follows is the end of what is seen, the machine waits there.
-/

inductive Event (ι α ε : Type) where
  | reading
  | received (input : ι)
  | acted (action : α)
  | exited (exit : ε)
deriving DecidableEq, Repr

section Dialogue

variable (react : σ → ι → Reaction σ α ε)

def dialogue (state : σ) : List ι → List (Event ι α ε)
  | [] => [.reading]
  | input :: inputs =>
      let reaction := react state input
      .reading :: .received input :: (reaction.actions.map .acted ++
        match reaction.exit with
        | some exit => [.exited exit]
        | none => dialogue reaction.state inputs)

/-- The machine never goes back to reading with an input unanswered that needs
    an answer. -/
def Prompt (needs : ι → Prop) (answers : Event ι α ε → Prop) (events : List (Event ι α ε)) : Prop :=
  ∀ before input meanwhile after,
    events = before ++ .received input :: (meanwhile ++ .reading :: after) → needs input →
      ∃ event ∈ meanwhile, answers event

variable {needs : ι → Prop} {answers : Event ι α ε → Prop}

theorem prompt_nil : Prompt needs answers ([] : List (Event ι α ε)) := by
  intro before input meanwhile after split
  simp at split

theorem prompt_cons {event : Event ι α ε} {events : List (Event ι α ε)}
    (silent : ∀ input, event ≠ .received input) :
    Prompt needs answers (event :: events) ↔ Prompt needs answers events := by
  constructor
  · intro prompt before input meanwhile after split
    exact prompt (event :: before) input meanwhile after (by rw [split, List.cons_append])
  · intro prompt before input meanwhile after split
    cases before with
    | nil => exact absurd (List.cons.inj split).1 (silent input)
    | cons first before => exact prompt before input meanwhile after (List.cons.inj split).2

theorem prompt_actions (actions : List α) (events : List (Event ι α ε)) :
    Prompt needs answers (actions.map .acted ++ events) ↔ Prompt needs answers events := by
  induction actions with
  | nil => exact Iff.rfl
  | cons action actions ih => exact (prompt_cons (fun input => by simp)).trans ih

theorem prompt_received {input : ι} {events : List (Event ι α ε)} :
    Prompt needs answers (.received input :: events) ↔
      (needs input → ∀ meanwhile after, events = meanwhile ++ .reading :: after →
        ∃ event ∈ meanwhile, answers event) ∧ Prompt needs answers events := by
  constructor
  · intro prompt
    refine ⟨fun needed meanwhile after split => ?_, fun before other meanwhile after split => ?_⟩
    · exact prompt [] input meanwhile after (by rw [split, List.nil_append]) needed
    · exact prompt (.received input :: before) other meanwhile after (by rw [split, List.cons_append])
  · rintro ⟨answered, prompt⟩ before other meanwhile after split needed
    cases before with
    | nil =>
        obtain ⟨same, rest⟩ := List.cons.inj split
        cases same
        exact answered needed meanwhile after rest
    | cons first before => exact prompt before other meanwhile after (List.cons.inj split).2 needed

theorem acted_mem_of_split {actions : List α} {rest meanwhile after : List (Event ι α ε)}
    (split : actions.map .acted ++ rest = meanwhile ++ .reading :: after) {action : α}
    (taken : action ∈ actions) : .acted action ∈ meanwhile := by
  induction actions generalizing meanwhile with
  | nil => contradiction
  | cons first actions ih =>
      cases meanwhile with
      | nil => cases (List.cons.inj split).1
      | cons event meanwhile =>
          obtain ⟨same, tail⟩ := List.cons.inj split
          subst same
          rcases List.mem_cons.mp taken with rfl | later
          · exact List.mem_cons_self
          · exact List.mem_cons_of_mem _ (ih tail later)

theorem prompt_received_exit {input : ι} {actions : List α} {exit : ε} :
    Prompt needs answers (.received input :: (actions.map .acted ++ [.exited exit])) := by
  refine prompt_received.mpr ⟨fun _ meanwhile after split => ?_, ?_⟩
  · have reading : Event.reading ∈ actions.map (Event.acted (ι := ι)) ++ [.exited exit] := by
      rw [split]
      exact List.mem_append_right _ List.mem_cons_self
    simp at reading
  · rw [prompt_actions, prompt_cons (by simp)]
    exact prompt_nil

theorem prompt_received_reading {input : ι} {actions : List α} {events : List (Event ι α ε)} :
    Prompt needs answers (.received input :: (actions.map .acted ++ .reading :: events)) ↔
      (needs input → ∃ action ∈ actions, answers (.acted action)) ∧
        Prompt needs answers (.reading :: events) := by
  rw [prompt_received, prompt_actions]
  refine and_congr_left fun _ => imp_congr_right fun _ => ⟨fun answered => ?_, ?_⟩
  · obtain ⟨event, member, answer⟩ := answered _ _ rfl
    obtain ⟨action, taken, rfl⟩ := List.mem_map.mp member
    exact ⟨action, taken, answer⟩
  · rintro ⟨action, taken, answer⟩ meanwhile after split
    exact ⟨_, acted_mem_of_split split taken, answer⟩

theorem dialogue_reading (state : σ) (inputs : List ι) :
    ∃ rest, dialogue react state inputs = .reading :: rest := by
  cases inputs with
  | nil => exact ⟨[], rfl⟩
  | cons input inputs => exact ⟨_, rfl⟩

/-- A dialogue is prompt when every step it takes either exits or answers. -/
theorem prompt_dialogue_iff (state : σ) (inputs : List ι) :
    Prompt needs answers (dialogue react state inputs) ↔
      ∀ before input rest reached, inputs = before ++ input :: rest →
        outcome react state before = (reached, none) → needs input →
          (react reached input).exit = none →
            ∃ action ∈ (react reached input).actions, answers (.acted action) := by
  induction inputs generalizing state with
  | nil =>
      rw [dialogue, prompt_cons (by simp)]
      exact iff_of_true prompt_nil fun before input rest reached split => by simp at split
  | cons input inputs ih =>
      rw [dialogue, prompt_cons (by simp)]
      cases exit : (react state input).exit with
      | some exit =>
          refine ⟨fun _ before other rest reached split ran needed stays => ?_,
            fun _ => prompt_received_exit⟩
          cases before with
          | nil =>
              obtain ⟨rfl, -⟩ := List.cons.inj split
              cases ran
              rw [exit] at stays
              contradiction
          | cons first before =>
              obtain ⟨rfl, -⟩ := List.cons.inj split
              have stayed := (outcome_cons_eq_none react).mp ran
              rw [exit] at stayed
              exact absurd stayed.1 (by simp)
      | none =>
          obtain ⟨rest, starts⟩ := dialogue_reading react (react state input).state inputs
          have later := ih (react state input).state
          rw [starts] at later
          simp only [starts]
          rw [prompt_received_reading, later]
          constructor
          · rintro ⟨answered, prompt⟩ before other rest reached split ran needed stays
            cases before with
            | nil =>
                obtain ⟨rfl, -⟩ := List.cons.inj split
                cases ran
                exact answered needed
            | cons first before =>
                obtain ⟨rfl, tail⟩ := List.cons.inj split
                have stayed := (outcome_cons_eq_none react).mp ran
                exact prompt before other rest reached tail stayed.2 needed stays
          · intro prompt
            refine ⟨fun needed => prompt [] input inputs state rfl rfl needed exit, ?_⟩
            intro before other rest reached split ran needed stays
            exact prompt (input :: before) other rest reached (by rw [split, List.cons_append])
              ((outcome_cons_eq_none react).mpr ⟨exit, ran⟩) needed stays

theorem not_acted_mem_dialogue_nil {state : σ} {action : α} :
    .acted action ∉ dialogue react state [] := by
  simp [dialogue]

theorem acted_mem_dialogue_cons {state : σ} {input : ι} {inputs : List ι} {action : α} :
    .acted action ∈ dialogue react state (input :: inputs) ↔
      action ∈ (react state input).actions ∨
        ((react state input).exit = none ∧
          .acted action ∈ dialogue react (react state input).state inputs) := by
  rw [dialogue]
  cases (react state input).exit with
  | some exit => simp
  | none => simp

/-- What holds of every action of a step that starts from an invariant holds of
    every action of the dialogue. -/
theorem acted_dialogue_of_invariant {invariant : σ → Prop} {holds : α → Prop}
    (actions : ∀ state input, invariant state → ∀ action ∈ (react state input).actions, holds action)
    (keeps : ∀ state input, invariant state → invariant (react state input).state)
    {state : σ} (start : invariant state) {inputs : List ι} {action : α}
    (acted : .acted action ∈ dialogue react state inputs) : holds action := by
  induction inputs generalizing state with
  | nil => exact absurd acted (not_acted_mem_dialogue_nil react)
  | cons input inputs ih =>
      rcases (acted_mem_dialogue_cons react).mp acted with now | ⟨-, later⟩
      · exact actions state input start action now
      · exact ih (keeps state input start) later

end Dialogue

end PgCapture.Data
