import PgCapture.Replicator.Retry

namespace PgCapture

open Data Postgres

/-! # Backoff

`run` with what it does between two attempts: it counts the failure, sleeps, and
drops the connections.
-/

/-- The attempts, the seconds slept between them, and what `run` returns, if it
    does: the last attempt may still be going, or panic. -/
structure RunResult (D : Type) where
  attempts : List (AttemptResult D)
  sleeps : List Nat
  returned : Option (Except Error Unit)

namespace Replicator

def baseDelay : Nat := 1

def delay (retryCount : Nat) : Nat := baseDelay * 2 ^ (min retryCount 4 - 1)

variable (decoder : Decoder D)

/-- The loop of `run`, with `retries` more failures to go after which it tries again. -/
def runLoop : Nat → Replicator D → (Nat → Attempt) → RunResult D
  | retries, self, attempts =>
      let result := runWithRetry decoder self (attempts 0)
      match result.exit with
      | some (.returned reason) =>
          if reason = .shutdown then
            { attempts := [result], sleeps := [], returned := some (.ok ()) }
          else
            match retries with
            | 0 => { attempts := [result], sleeps := [], returned := some (.error reason) }
            | retries + 1 =>
                let later := runLoop retries (reset result.replicator) fun index => attempts (index + 1)
                { later with
                  attempts := result :: later.attempts
                  sleeps := delay (maxRetries - retries) :: later.sleeps }
      | _ => { attempts := [result], sleeps := [], returned := none }

def runTimed (self : Replicator D) (attempts : Nat → Attempt) : RunResult D :=
  runLoop decoder maxRetries { self with shutdownReceiver := true } attempts

/-- What an attempt's exit makes `run` return, if it is the last. -/
def returnOf (result : AttemptResult D) : Option (Except Error Unit) :=
  match result.exit with
  | some (.returned reason) => some (if reason = .shutdown then .ok () else .error reason)
  | _ => none

variable {decoder} {retries : Nat} {self : Replicator D} {attempts : Nat → Attempt}

theorem runLoop_retried (retried : (runWithRetry decoder self (attempts 0)).Retried) :
    runLoop decoder (retries + 1) self attempts =
      let later := runLoop decoder retries
        (reset (runWithRetry decoder self (attempts 0)).replicator) fun index => attempts (index + 1)
      { later with
        attempts := runWithRetry decoder self (attempts 0) :: later.attempts
        sleeps := delay (maxRetries - retries) :: later.sleeps } := by
  obtain ⟨reason, exit, other⟩ := retried
  rw [runLoop]
  simp only [exit, if_neg other]

theorem runLoop_last (last : retries = 0 ∨ ¬ (runWithRetry decoder self (attempts 0)).Retried) :
    runLoop decoder retries self attempts =
      { attempts := [runWithRetry decoder self (attempts 0)], sleeps := []
        returned := returnOf (runWithRetry decoder self (attempts 0)) } := by
  have shape : ∀ reason, (runWithRetry decoder self (attempts 0)).exit = some (.returned reason) →
      reason ≠ .shutdown → retries = 0 := by
    intro reason exit other
    rcases last with none | stopped
    · exact none
    · exact absurd ⟨reason, exit, other⟩ stopped
  rw [runLoop]
  cases exit : (runWithRetry decoder self (attempts 0)).exit with
  | none => simp only [exit, returnOf]
  | some stop =>
      cases stop with
      | panicked => simp only [exit, returnOf]
      | returned reason =>
          by_cases shutdown : reason = .shutdown
          · simp only [exit, returnOf, if_pos shutdown]
          · obtain rfl := shape reason exit shutdown
            simp only [exit, returnOf, if_neg shutdown]

theorem runLoop_attempts (retries : Nat) (self : Replicator D) (attempts : Nat → Attempt) :
    (runLoop decoder retries self attempts).attempts = runFrom decoder retries self attempts := by
  induction retries generalizing self attempts with
  | zero => rw [runLoop_last (Or.inl rfl), runFrom]
  | succ retries ih =>
      by_cases retried : (runWithRetry decoder self (attempts 0)).Retried
      · rw [runLoop_retried retried, runFrom_retried decoder retried, ← ih]
      · rw [runLoop_last (Or.inr retried), runFrom_stopped decoder retried]

theorem runFrom_length_le (decoder : Decoder D) (retries : Nat) (self : Replicator D)
    (attempts : Nat → Attempt) : (runFrom decoder retries self attempts).length ≤ retries + 1 := by
  induction retries generalizing self attempts with
  | zero => exact Nat.le_refl 1
  | succ retries ih =>
      by_cases retried : (runWithRetry decoder self (attempts 0)).Retried
      · rw [runFrom_retried decoder retried, List.length_cons]
        exact Nat.succ_le_succ (ih _ _)
      · rw [runFrom_stopped decoder retried, List.length_singleton]
        omega

theorem retried_iff (last : AttemptResult D) :
    last.Retried ↔ ∃ reason, returnOf last = some (.error reason) := by
  rw [AttemptResult.Retried, returnOf]
  cases last.exit with
  | none => simp
  | some exit =>
      cases exit with
      | panicked => simp
      | returned reason =>
          by_cases shutdown : reason = .shutdown
          · simp [shutdown]
          · simp [shutdown]

/-- The pauses that `retries` more failures can lead to. -/
def pauses : Nat → List Nat
  | 0 => []
  | retries + 1 => delay (maxRetries - retries) :: pauses retries

theorem runLoop_sleeps (retries : Nat) (self : Replicator D) (attempts : Nat → Attempt) :
    (runLoop decoder retries self attempts).sleeps =
      (pauses retries).take ((runLoop decoder retries self attempts).attempts.length - 1) := by
  induction retries generalizing self attempts with
  | zero => rw [runLoop_last (Or.inl rfl), List.length_singleton, List.take_zero]
  | succ retries ih =>
      by_cases retried : (runWithRetry decoder self (attempts 0)).Retried
      · have more := runFrom_length_pos decoder retries
          (reset (runWithRetry decoder self (attempts 0)).replicator) fun index => attempts (index + 1)
        rw [← runLoop_attempts] at more
        obtain ⟨count, length⟩ := Nat.exists_eq_succ_of_ne_zero (Nat.ne_of_gt more)
        have later := ih (reset (runWithRetry decoder self (attempts 0)).replicator)
          fun index => attempts (index + 1)
        rw [length] at later
        rw [runLoop_retried retried]
        simp only [later, pauses, List.length_cons, length, Nat.succ_sub_one,
          List.take_succ_cons]
      · rw [runLoop_last (Or.inr retried), List.length_singleton, List.take_zero]

/-- The last attempt decides what `run` returns; an error only after all retries. -/
theorem runLoop_returned (retries : Nat) (self : Replicator D) (attempts : Nat → Attempt) :
    ∃ last ∈ (runLoop decoder retries self attempts).attempts.getLast?,
      (runLoop decoder retries self attempts).returned = returnOf last ∧
      (last.Retried → (runLoop decoder retries self attempts).attempts.length = retries + 1) := by
  induction retries generalizing self attempts with
  | zero =>
      rw [runLoop_last (Or.inl rfl)]
      exact ⟨_, rfl, rfl, fun _ => rfl⟩
  | succ retries ih =>
      by_cases retried : (runWithRetry decoder self (attempts 0)).Retried
      · obtain ⟨last, isLast, returned, all⟩ := ih
          (reset (runWithRetry decoder self (attempts 0)).replicator) fun index => attempts (index + 1)
        rw [runLoop_retried retried]
        refine ⟨last, ?_, returned, fun failed => congrArg (· + 1) (all failed)⟩
        rw [List.getLast?_cons, Option.mem_def.mp isLast]
        rfl
      · rw [runLoop_last (Or.inr retried)]
        exact ⟨_, rfl, rfl, fun failed => absurd failed retried⟩

/-- `run` returns what its last attempt ended with, an error after six attempts
    only, and sleeps 1, 2, 4, 8 and 8 seconds between them, never longer. -/
theorem run_backs_off (decoder : Decoder D) (self : Replicator D) (attempts : Nat → Attempt) :
    (runTimed decoder self attempts).attempts = run decoder self attempts ∧
      (runTimed decoder self attempts).sleeps =
        [1, 2, 4, 8, 8].take ((runTimed decoder self attempts).attempts.length - 1) ∧
      (runTimed decoder self attempts).attempts.length ≤ 6 ∧
      ∃ last ∈ (runTimed decoder self attempts).attempts.getLast?,
        (runTimed decoder self attempts).returned = returnOf last ∧
        (last.Retried ↔ ∃ reason, (runTimed decoder self attempts).returned = some (.error reason)) ∧
        (last.Retried → (runTimed decoder self attempts).attempts.length = 6) := by
  have made : (runTimed decoder self attempts).attempts = run decoder self attempts :=
    runLoop_attempts maxRetries _ attempts
  obtain ⟨last, isLast, returned, all⟩ : ∃ last ∈ (runTimed decoder self attempts).attempts.getLast?,
      (runTimed decoder self attempts).returned = returnOf last ∧
      (last.Retried → (runTimed decoder self attempts).attempts.length = 6) :=
    runLoop_returned maxRetries _ attempts
  refine ⟨made, runLoop_sleeps maxRetries _ attempts, ?_, last, isLast, returned, ?_, all⟩
  · rw [made]
    exact runFrom_length_le decoder maxRetries _ attempts
  · rw [returned]
    exact retried_iff last

end Replicator

end PgCapture
