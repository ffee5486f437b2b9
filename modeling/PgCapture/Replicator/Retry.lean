import PgCapture.Replicator.Turns

namespace PgCapture

open Data Postgres

/-! # Retries

The receive loop takes the shutdown receiver out of the replicator, and the
reset between two attempts does not put it back.
-/

structure Attempt.Succeeds (attempt : Attempt) : Prop where
  connect : attempt.connect = .ok ()
  identifySystem : attempt.identifySystem = .ok ()
  createReplicationSlot : Replicator.slotReady attempt.createReplicationSlot = .ok ()
  kafkaProducer : attempt.kafkaProducer = .ok ()
  topicManager : attempt.topicManager = .ok ()
  load : ∃ checkpoint, attempt.load = .ok checkpoint
  startReplication : attempt.startReplication = .ok ()

def AttemptResult.Entered (result : AttemptResult D) : Prop := result.turns.isSome

/-- The attempt ended with an error that `run` retries after. -/
def AttemptResult.Retried (result : AttemptResult D) : Prop :=
  ∃ reason, result.exit = some (.returned reason) ∧ reason ≠ .shutdown

namespace Replicator

variable (decoder : Decoder D)

theorem runWithRetry_of_succeeds (self : Replicator D) {attempt : Attempt}
    (succeeds : attempt.Succeeds) :
    (runWithRetry decoder self attempt).turns.isSome = self.shutdownReceiver ∧
      (runWithRetry decoder self attempt).replicator.shutdownReceiver = false := by
  obtain ⟨connect, identifySystem, slot, kafkaProducer, topicManager, ⟨checkpoint, load⟩, started⟩ :=
    succeeds
  simp only [runWithRetry, initializeConnections, connect, identifySystem, slot, kafkaProducer,
    topicManager, replicationLoop, load, started]
  cases checkpoint <;> cases receiver : self.shutdownReceiver <;> simp [AttemptResult.failed]

theorem runWithRetry_of_fails (self : Replicator D) {attempt : Attempt} (fails : ¬ attempt.Succeeds) :
    ∃ next requested reason, runWithRetry decoder self attempt = .failed next requested reason ∧
      next.shutdownReceiver = self.shutdownReceiver := by
  simp only [runWithRetry, initializeConnections]
  cases connect : attempt.connect with
  | error reason => exact ⟨_, _, reason, rfl, rfl⟩
  | ok _ =>
  cases identifySystem : attempt.identifySystem with
  | error reason => exact ⟨_, _, reason, rfl, rfl⟩
  | ok _ =>
  cases slot : slotReady attempt.createReplicationSlot with
  | error reason => exact ⟨_, _, reason, rfl, rfl⟩
  | ok _ =>
  cases kafkaProducer : attempt.kafkaProducer with
  | error reason => exact ⟨_, _, reason, rfl, rfl⟩
  | ok _ =>
  cases topicManager : attempt.topicManager with
  | error reason => exact ⟨_, _, reason, rfl, rfl⟩
  | ok _ =>
  cases load : attempt.load with
  | error reason =>
      simp only [replicationLoop, load]
      exact ⟨_, _, reason, rfl, rfl⟩
  | ok checkpoint =>
  cases started : attempt.startReplication with
  | error reason =>
      simp only [replicationLoop, load, started]
      cases checkpoint <;> exact ⟨_, _, reason, rfl, rfl⟩
  | ok _ =>
      exact absurd ⟨connect, identifySystem, slot, kafkaProducer, topicManager, ⟨_, load⟩, started⟩ fails

/-- An attempt enters the loop exactly when its stages succeed and the receiver
    is still there. -/
theorem runWithRetry_entered (self : Replicator D) (attempt : Attempt) :
    (runWithRetry decoder self attempt).Entered ↔ attempt.Succeeds ∧ self.shutdownReceiver := by
  rw [AttemptResult.Entered]
  by_cases succeeds : attempt.Succeeds
  · simp [(runWithRetry_of_succeeds decoder self succeeds).1, succeeds]
  · obtain ⟨next, requested, reason, failed, _⟩ := runWithRetry_of_fails decoder self succeeds
    simp [failed, AttemptResult.failed, succeeds]

theorem runWithRetry_receiver (self : Replicator D) (attempt : Attempt) :
    (runWithRetry decoder self attempt).replicator.shutdownReceiver ↔
      self.shutdownReceiver ∧ ¬ attempt.Succeeds := by
  by_cases succeeds : attempt.Succeeds
  · simp [(runWithRetry_of_succeeds decoder self succeeds).2, succeeds]
  · obtain ⟨next, requested, reason, failed, same⟩ := runWithRetry_of_fails decoder self succeeds
    simp [failed, AttemptResult.failed, succeeds, same]

theorem runFrom_retried {retries : Nat} {self : Replicator D} {attempts : Nat → Attempt}
    (retried : (runWithRetry decoder self (attempts 0)).Retried) :
    runFrom decoder (retries + 1) self attempts = runWithRetry decoder self (attempts 0) ::
      runFrom decoder retries (reset (runWithRetry decoder self (attempts 0)).replicator)
        fun index => attempts (index + 1) := by
  obtain ⟨reason, exit, other⟩ := retried
  simp only [runFrom, exit, if_neg other]

theorem runFrom_stopped {retries : Nat} {self : Replicator D} {attempts : Nat → Attempt}
    (stopped : ¬ (runWithRetry decoder self (attempts 0)).Retried) :
    runFrom decoder retries self attempts = [runWithRetry decoder self (attempts 0)] := by
  cases retries with
  | zero => rfl
  | succ retries =>
      simp only [runFrom]
      split
      · rename_i reason exit
        split
        · rfl
        · rename_i other
          exact absurd ⟨reason, exit, other⟩ stopped
      · rfl

theorem runFrom_length_pos (retries : Nat) (self : Replicator D) (attempts : Nat → Attempt) :
    0 < (runFrom decoder retries self attempts).length := by
  apply List.length_pos_of_mem
  exact List.mem_of_mem_head? (runFrom_head decoder retries self attempts)

theorem made_cases {retries index : Nat} {self : Replicator D} {attempts : Nat → Attempt}
    {result : AttemptResult D} (made : (runFrom decoder retries self attempts)[index]? = some result) :
    (index = 0 ∧ result = runWithRetry decoder self (attempts 0)) ∨
    ∃ before rest, index = before + 1 ∧ retries = rest + 1 ∧
      (runWithRetry decoder self (attempts 0)).Retried ∧
      (runFrom decoder rest (reset (runWithRetry decoder self (attempts 0)).replicator)
        fun index => attempts (index + 1))[before]? = some result := by
  cases index with
  | zero =>
      have first := runFrom_head decoder retries self attempts
      rw [List.head?_eq_getElem?, made] at first
      exact Or.inl ⟨rfl, Option.some.inj first⟩
  | succ before =>
      by_cases retried : (runWithRetry decoder self (attempts 0)).Retried
      · cases retries with
        | zero => simp [runFrom] at made
        | succ rest =>
            rw [runFrom_retried decoder retried] at made
            exact Or.inr ⟨before, rest, rfl, rfl, retried, made⟩
      · rw [runFrom_stopped decoder retried] at made
        simp at made

/-- An attempt is followed by another one exactly when it is retried and not the
    last one allowed. -/
theorem followed_iff {retries index : Nat} {self : Replicator D} {attempts : Nat → Attempt}
    {result : AttemptResult D} (made : (runFrom decoder retries self attempts)[index]? = some result) :
    index + 1 < (runFrom decoder retries self attempts).length ↔ index < retries ∧ result.Retried := by
  induction index generalizing retries self attempts with
  | zero =>
      rcases made_cases decoder made with ⟨_, rfl⟩ | ⟨before, rest, impossible, _⟩
      · by_cases retried : (runWithRetry decoder self (attempts 0)).Retried
        · cases retries with
          | zero => simp [runFrom]
          | succ rest => simp [runFrom_retried decoder retried, runFrom_length_pos, retried]
        · simp [runFrom_stopped decoder retried, retried]
      · contradiction
  | succ index ih =>
      rcases made_cases decoder made with ⟨impossible, _⟩ | ⟨before, rest, same, rfl, retried, later⟩
      · contradiction
      · cases same
        rw [runFrom_retried decoder retried, List.length_cons, Nat.add_lt_add_iff_right,
          Nat.add_lt_add_iff_right]
        exact ih later

/-- An attempt of a run enters the loop exactly when it is the first one whose
    stages succeed. -/
theorem entered_iff {retries index : Nat} {self : Replicator D} {attempts : Nat → Attempt}
    {result : AttemptResult D} (made : (runFrom decoder retries self attempts)[index]? = some result) :
    result.Entered ↔ self.shutdownReceiver ∧ (attempts index).Succeeds ∧
      ∀ earlier < index, ¬ (attempts earlier).Succeeds := by
  induction index generalizing retries self attempts with
  | zero =>
      rcases made_cases decoder made with ⟨_, rfl⟩ | ⟨before, rest, impossible, _⟩
      · rw [runWithRetry_entered]
        simp [and_comm]
      · contradiction
  | succ index ih =>
      rcases made_cases decoder made with ⟨impossible, _⟩ | ⟨before, rest, same, rfl, retried, later⟩
      · contradiction
      · cases same
        rw [ih later, Nat.forall_lt_succ_left]
        change (runWithRetry decoder self (attempts 0)).replicator.shutdownReceiver ∧ _ ↔ _
        rw [runWithRetry_receiver]
        tauto

theorem retried_of_followed {retries index : Nat} {self : Replicator D} {attempts : Nat → Attempt}
    {result : AttemptResult D} (made : (runFrom decoder retries self attempts)[index]? = some result)
    (followed : index + 1 < (runFrom decoder retries self attempts).length) : result.Retried :=
  ((followed_iff decoder made).mp followed).2

/-- After an attempt that entered the loop and failed, `run` goes on while
    retries are left, and a later attempt whose stages succeed enters the loop. -/
def Recovers (self : Replicator D) (attempts : Nat → Attempt) : Prop :=
  ∀ index result, (run decoder self attempts)[index]? = some result → result.Entered →
    result.Retried →
      (index < maxRetries → index + 1 < (run decoder self attempts).length) ∧
      ∀ later other, index < later → (run decoder self attempts)[later]? = some other →
        (attempts later).Succeeds → other.Entered

/-- A run recovers exactly when the stages of at most one of its attempts succeed. -/
theorem recovers_iff (self : Replicator D) (attempts : Nat → Attempt) :
    Recovers decoder self attempts ↔
      ∀ first second, first < second → second < (run decoder self attempts).length →
        ¬ ((attempts first).Succeeds ∧ (attempts second).Succeeds) := by
  constructor
  · intro recovers first second before made both
    -- the first attempt whose stages succeed took the receiver
    classical
    have some : ∃ index, (attempts index).Succeeds := ⟨first, both.1⟩
    have least := Nat.find_min' some both.1
    have early : Nat.find some < second := Nat.lt_of_le_of_lt least before
    have enteringMade := List.getElem?_eq_getElem (Nat.lt_trans early made)
    have entering := (entered_iff decoder enteringMade).mpr
      ⟨rfl, Nat.find_spec some, fun index earlier => Nat.find_min some earlier⟩
    have retried := retried_of_followed decoder enteringMade (Nat.lt_of_le_of_lt early made)
    have again := (recovers _ _ enteringMade entering retried).2 second _ early
      (List.getElem?_eq_getElem made) both.2
    have alone := ((entered_iff decoder (List.getElem?_eq_getElem made)).mp again).2.2
    exact alone _ early (Nat.find_spec some)
  · intro single index result made entered retried
    refine ⟨fun left => (followed_iff decoder made).mpr ⟨left, retried⟩, ?_⟩
    intro later other after otherMade succeeds
    have stages := ((entered_iff decoder made).mp entered).2.1
    obtain ⟨bound, _⟩ := List.getElem?_eq_some_iff.mp otherMade
    exact absurd ⟨stages, succeeds⟩ (single index later after bound)

/-- After the server closed the stream in the loop, an attempt whose stages all succeed
    ends for want of the shutdown receiver. -/
theorem receiver_lost :
    ¬ Recovers everyMessageAChange (Replicator.new sampleConfig) fun _ =>
      Attempt.resume none [.socket (.failed (.io "early eof")) (.succeed false)] := by
  intro recovers
  have entered := (recovers 0 _ rfl rfl ⟨.io "early eof", rfl, by simp⟩).2 1 _
    (Nat.lt_succ_self 0) rfl ⟨rfl, rfl, rfl, rfl, rfl, ⟨none, rfl⟩, rfl⟩
  cases entered

end Replicator

end PgCapture
