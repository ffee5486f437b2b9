import PgCapture.Replicator.Passes

namespace PgCapture

open Data Postgres

/-! # Positions that move backwards

The loop reports and saves positions as they come: the end of the message it
received, the end that a keepalive names, a constant from `send_keepalive`.
Nothing compares a position with the ones before it.
-/

/-- What is done with the connection while the loop runs: a turn of the loop, or
    a call of `send_keepalive` between two turns. -/
inductive ConnectionUse where
  | loop (input : Input)
  | keepalive (now : Int64) (write : Except Error Unit)

abbrev Use (D : Type) := Executed (LoopState D) ConnectionUse

def keepaliveActions (now : Int64) (write : Except Error Unit) : List Action :=
  match sendKeepalive true now write with
  | .ok _ => [.standbyStatus keepaliveLsn]
  | .error _ => []

def Action.reported : Action → Option UInt64
  | .standbyStatus lsn => some lsn
  | _ => none

/-- The position that the checkpoint file holds from here on. -/
def Action.saved? : Action → Option UInt64
  | .saved checkpoint => readLsn checkpoint.lsn
  | _ => none

def reportedIn (taken : List (Nat × Action)) : List UInt64 :=
  taken.filterMap fun entry => entry.2.reported

def savedIn (taken : List (Nat × Action)) : List UInt64 :=
  taken.filterMap fun entry => entry.2.saved?

/-- Neither the reported nor the saved positions ever move backwards. -/
def NeverBackwards (taken : List (Nat × Action)) : Prop :=
  (reportedIn taken).Pairwise (· ≤ ·) ∧ (savedIn taken).Pairwise (· ≤ ·)

namespace ConnectionUse

def message : ConnectionUse → Option ReplicationMessage
  | loop input => input.message
  | keepalive _ _ => none

/-- The server's position that is sent back to it, if the socket takes it. -/
def confirmed : ConnectionUse → Option UInt64
  | loop (.socket (.replied walEnd) _) => some walEnd
  | loop (.socket (.returned message) { standbyStatus := .ok (), .. }) => some message.walEnd
  | _ => none

def KeptAlive : ConnectionUse → Prop
  | keepalive _ (.ok ()) => True
  | _ => False

/-- Two uses, one after the other: a confirmed position is followed by none that
    is smaller, and by a keepalive only if it is zero. -/
def InOrder (earlier later : ConnectionUse) : Prop :=
  ∀ lsn, earlier.confirmed = some lsn →
    (∀ next, later.confirmed = some next → lsn ≤ next) ∧ (later.KeptAlive → lsn = 0)

end ConnectionUse

variable (config : Config) (decoder : Decoder D)

def serve (state : LoopState D) : ConnectionUse → Reaction (LoopState D) Action Exit
  | .loop input => receive config decoder state input
  | .keepalive now write => { actions := keepaliveActions now write, state, exit := none }

def uses (state : LoopState D) (inputs : List ConnectionUse) : List (Use D) :=
  executedFrom (serve config decoder) 0 state inputs

/-- The use saves a checkpoint, if there is a position to save. -/
def Saves (step : Use D) : Prop :=
  match step.input with
  | .loop (.shutdown _ (.ok ())) => True
  | .loop (.socket (.returned message) outcomes) =>
      outcomes.save = .ok () ∧ outcomes.checkpointDue = true ∧
        (handleAnswer config outcomes message
          (decoder.decode step.state.decoder outcomes.clock message.data).1).exit = none
  | _ => False

/-- Where the last message of these uses ends, or `start` without one. -/
def lastEnd (start : Option UInt64) (steps : List (Use D)) : Option UInt64 :=
  ((steps.filterMap fun step => step.input.message).getLast?.map ReplicationMessage.walEnd).or start

structure Forward (start : Option UInt64) (steps : List (Use D)) : Prop where
  reports : steps.Pairwise fun earlier later => earlier.input.InOrder later.input
  saves : ∀ before saver between next after,
    steps = before ++ saver :: (between ++ next :: after) →
      Saves config decoder saver → Saves config decoder next →
        ∀ lsn, lastEnd start (before ++ [saver]) = some lsn →
          ∀ later, lastEnd start (before ++ saver :: between ++ [next]) = some later → lsn ≤ later

/-- The position a use reports. -/
def ConnectionUse.report : ConnectionUse → Option UInt64
  | .loop (.socket (.replied walEnd) _) => some walEnd
  | .loop (.socket (.returned message) { standbyStatus := .ok (), .. }) => some message.walEnd
  | .keepalive _ (.ok ()) => some keepaliveLsn
  | _ => none

theorem ConnectionUse.report_eq (use : ConnectionUse) (lsn : UInt64) :
    use.report = some lsn ↔ use.confirmed = some lsn ∨ use.KeptAlive ∧ lsn = 0 := by
  cases use with
  | keepalive now write =>
      cases write with
      | error reason => simp [report, confirmed, KeptAlive]
      | ok _ => simp [report, confirmed, KeptAlive, keepaliveLsn, eq_comm]
  | loop input =>
      have same : (ConnectionUse.loop input).report = (ConnectionUse.loop input).confirmed := by
        cases input with
        | shutdown now save => rfl
        | timeout => rfl
        | socket received outcomes =>
            obtain ⟨clock, standbyStatus, topic, sent, due, now, save⟩ := outcomes
            cases received <;> cases standbyStatus <;> rfl
      simp [same, KeptAlive]

theorem loop_reported (turn : Turn D) :
    (turn.actions (receive config decoder)).filterMap Action.reported = (report turn).toList := by
  rw [turn_filterMap]
  simp [Action.reported]

theorem use_reported (step : Use D) :
    (step.actions (serve config decoder)).filterMap Action.reported = step.input.report.toList := by
  obtain ⟨number, state, input⟩ := step
  cases input with
  | keepalive now write =>
      cases write <;> rfl
  | loop input =>
      have turn := loop_reported config decoder ⟨number, state, input⟩
      refine Eq.trans turn ?_
      cases input with
      | shutdown now save => rfl
      | timeout => rfl
      | socket received outcomes =>
          obtain ⟨clock, standbyStatus, topic, sent, due, now, save⟩ := outcomes
          cases received <;> cases standbyStatus <;> rfl

theorem inOrder_iff (earlier later : ConnectionUse) :
    (∀ lsn, earlier.report = some lsn → ∀ next, later.report = some next → lsn ≤ next) ↔
      earlier.InOrder later := by
  simp only [ConnectionUse.report_eq, ConnectionUse.InOrder]
  constructor
  · intro ordered lsn confirmed
    refine ⟨fun next follows => ordered lsn (.inl confirmed) next (.inl follows), fun kept => ?_⟩
    exact UInt64.le_zero_iff.mp (ordered lsn (.inl confirmed) 0 (.inr ⟨kept, rfl⟩))
  · rintro ordered lsn (confirmed | ⟨_, rfl⟩) next reported
    · rcases reported with follows | ⟨kept, rfl⟩
      · exact (ordered lsn confirmed).1 next follows
      · exact UInt64.le_of_eq ((ordered lsn confirmed).2 kept)
    · exact UInt64.zero_le

def savedBy (step : Use D) : Option UInt64 :=
  match step.input with
  | .loop input => savedLsn config decoder ⟨step.number, step.state, input⟩
  | .keepalive _ _ => none

theorem loop_saved (turn : Turn D) :
    (turn.actions (receive config decoder)).filterMap Action.saved? =
      (savedLsn config decoder turn).toList := by
  rw [turn_filterMap]
  simp [Action.saved?, checkpointOf_lsn]

theorem use_saved (step : Use D) :
    (step.actions (serve config decoder)).filterMap Action.saved? = (savedBy config decoder step).toList := by
  obtain ⟨number, state, input⟩ := step
  cases input with
  | keepalive now write => cases write <;> rfl
  | loop input => exact loop_saved config decoder ⟨number, state, input⟩

/-- A saving use saves the end of its own message, or the position it finds. -/
theorem savedBy_eq_some {step : Use D} {lsn : UInt64} :
    savedBy config decoder step = some lsn ↔ Saves config decoder step ∧
      (step.input.message.map ReplicationMessage.walEnd).or step.state.currentLsn = some lsn := by
  obtain ⟨number, state, input⟩ := step
  cases input with
  | keepalive now write => simp [savedBy, Saves]
  | loop input =>
      cases input with
      | timeout => simp [savedBy, savedLsn, Saves]
      | shutdown now save =>
          cases save <;> simp [savedBy, savedLsn, Saves, ConnectionUse.message, Input.message]
      | socket received outcomes =>
          cases received with
          | ignored => simp [savedBy, savedLsn, Saves]
          | replied walEnd => simp [savedBy, savedLsn, Saves]
          | failed reason => simp [savedBy, savedLsn, Saves]
          | panicked => simp [savedBy, savedLsn, Saves]
          | returned message =>
              obtain ⟨clock, standbyStatus, topic, sent, due, now, save⟩ := outcomes
              cases save <;> cases due <;>
                simp [savedBy, savedLsn, Saves, goesOn, ConnectionUse.message, Input.message]

theorem serve_currentLsn (state : LoopState D) (use : ConnectionUse) :
    (serve config decoder state use).state.currentLsn =
      (use.message.map ReplicationMessage.walEnd).or state.currentLsn := by
  cases use with
  | keepalive now write => rfl
  | loop input => exact receive_currentLsn config decoder state input

theorem lastEnd_concat (start : Option UInt64) (steps : List (Use D)) (step : Use D) :
    lastEnd start (steps ++ [step]) =
      (step.input.message.map ReplicationMessage.walEnd).or (lastEnd start steps) := by
  rw [lastEnd, lastEnd, List.filterMap_append]
  cases own : step.input.message with
  | none => simp [own]
  | some message => simp [own]

theorem currentLsn_lastEnd {state : LoopState D} {inputs : List ConnectionUse} {done later : List (Use D)}
    {step : Use D} (executed : uses config decoder state inputs = done ++ step :: later) :
    step.state.currentLsn = lastEnd state.currentLsn done := by
  apply executedFrom_invariant (serve config decoder)
    (fun done reached => reached.currentLsn = lastEnd state.currentLsn done) ?_ ?_ executed
  · rfl
  · intro done step _ before
    rw [serve_currentLsn, before, lastEnd_concat]

theorem savedBy_lastEnd {state : LoopState D} {inputs : List ConnectionUse} {done later : List (Use D)}
    {step : Use D} (executed : uses config decoder state inputs = done ++ step :: later) (lsn : UInt64) :
    savedBy config decoder step = some lsn ↔
      Saves config decoder step ∧ lastEnd state.currentLsn (done ++ [step]) = some lsn := by
  rw [savedBy_eq_some, currentLsn_lastEnd config decoder executed, lastEnd_concat]

theorem reportedIn_sorted_iff (steps : List (Use D)) :
    (reportedIn (traceOf (serve config decoder) steps)).Pairwise (· ≤ ·) ↔
      steps.Pairwise fun earlier later => earlier.input.InOrder later.input := by
  have reported : reportedIn (traceOf (serve config decoder) steps) =
      steps.filterMap fun step => step.input.report :=
    traceOf_filterMap _ fun step _ => use_reported config decoder step
  rw [reported, List.pairwise_filterMap]
  exact List.Pairwise.iff fun (earlier later : Use D) => inOrder_iff earlier.input later.input

theorem savedIn_sorted_iff (state : LoopState D) (inputs : List ConnectionUse) :
    (savedIn (traceOf (serve config decoder) (uses config decoder state inputs))).Pairwise (· ≤ ·) ↔
      ∀ before saver between next after,
        uses config decoder state inputs = before ++ saver :: (between ++ next :: after) →
          Saves config decoder saver → Saves config decoder next →
            ∀ lsn, lastEnd state.currentLsn (before ++ [saver]) = some lsn →
              ∀ later, lastEnd state.currentLsn (before ++ saver :: between ++ [next]) = some later →
                lsn ≤ later := by
  have saved : savedIn (traceOf (serve config decoder) (uses config decoder state inputs)) =
      (uses config decoder state inputs).filterMap (savedBy config decoder) :=
    traceOf_filterMap _ fun step _ => use_saved config decoder step
  rw [saved, List.pairwise_filterMap, pairwise_iff_split]
  refine forall_congr' fun before => forall_congr' fun saver => forall_congr' fun between =>
    forall_congr' fun next => forall_congr' fun after => forall_congr' fun split => ?_
  have again : uses config decoder state inputs = (before ++ saver :: between) ++ next :: after := by
    rw [split, List.append_assoc, List.cons_append]
  have first := savedBy_lastEnd config decoder split
  have second := savedBy_lastEnd config decoder again
  simp only [first, second]
  constructor
  · intro sorted saves savesNext lsn last later lastNext
    exact sorted lsn ⟨saves, last⟩ later ⟨savesNext, lastNext⟩
  · rintro sorted lsn ⟨saves, last⟩ later ⟨savesNext, lastNext⟩
    exact sorted saves savesNext lsn last later lastNext

/-- Nothing moves backwards exactly if the server's positions come in order, no
    keepalive follows one above zero, and every save finds a message that ends
    no earlier than the last one before any earlier save. -/
theorem never_backwards_iff (config : Config) (decoder : Decoder D) (state : LoopState D)
    (inputs : List ConnectionUse) :
    NeverBackwards (traceOf (serve config decoder) (uses config decoder state inputs)) ↔
      Forward config decoder state.currentLsn (uses config decoder state inputs) := by
  constructor
  · rintro ⟨reported, saved⟩
    exact ⟨(reportedIn_sorted_iff config decoder _).mp reported,
      (savedIn_sorted_iff config decoder state inputs).mp saved⟩
  · rintro ⟨reports, saves⟩
    exact ⟨(reportedIn_sorted_iff config decoder _).mpr reports,
      (savedIn_sorted_iff config decoder state inputs).mpr saves⟩

/-- Two transactions end at 5 and 9 and their changes arrive the other way
    round; a keepalive follows. -/
theorem positions_move_backwards :
    ¬ NeverBackwards (traceOf (serve sampleConfig everyMessageAChange)
      (uses sampleConfig everyMessageAChange emptyLoop
        [.loop (messageAt 9 (Outcomes.succeed true)), .loop (messageAt 5 (Outcomes.succeed true)),
          .keepalive 0 (.ok ())])) := by
  rintro ⟨reported, _⟩
  have descending : ¬ [(9 : UInt64), 5, 0].Pairwise (· ≤ ·) := by decide
  exact descending reported

end PgCapture
