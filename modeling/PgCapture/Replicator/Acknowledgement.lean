import PgCapture.Replicator.Turns

namespace PgCapture

open Data Postgres

/-! # Acknowledgement and delivery

PostgreSQL may discard what a standby status update reports as flushed, so a
position must not be reported before the changes up to it are delivered.  The
loop reports the position of a message on receipt.
-/

/-- In the actions taken so far, no reported position covers a change that was
    received and not delivered. -/
def Acknowledged (taken : List (Nat × Action)) : Prop :=
  ∀ reporter lsn, (reporter, .standbyStatus lsn) ∈ taken →
    ∀ number message event, (number, .received message (.ok (some (.change event)))) ∈ taken →
      message.walEnd ≤ lsn → ∃ topic, (number, .delivered message topic event) ∈ taken

def KafkaSucceeds : Input → Prop
  | .socket _ outcomes => outcomes.ensureTopicExists = .ok () ∧ outcomes.sendChangeEvent = .ok ()
  | _ => True

variable (config : Config) (decoder : Decoder D)

theorem delivery_of_change {turn : Turn D} {message : ReplicationMessage} {event : ChangeEvent}
    (kafka : KafkaSucceeds turn.input)
    (received : receipt decoder turn = some (message, .ok (some (.change event)))) :
    delivery decoder turn = some (message, event) := by
  obtain ⟨outcomes, input, answered⟩ := (receipt_eq_some decoder).mp received
  rw [input] at kafka
  exact (delivery_eq_some decoder).mpr ⟨outcomes, input, answered, kafka.1, kafka.2⟩

theorem opened_prefix {state : LoopState D} {inputs : List Input} {done later : List (Turn D)}
    {turn : Turn D} (executed : turns config decoder state inputs = done ++ turn :: later) :
    traceOf (receive config decoder) done ++
        (opening decoder turn).map (fun action => (turn.number, action)) <+:
      trace config decoder state inputs := by
  rw [trace, executed, traceOf_append, traceOf_cons, Executed.trace, turn_actions, List.map_append,
    List.append_assoc, ← List.append_assoc (traceOf _ done)]
  exact List.prefix_append _ _

/-- With a Kafka that always succeeds, no reachable state has reported an
    undelivered change exactly when no position is reported before a change it
    covers was received: neither by an earlier turn, nor by the turn of the
    change itself. -/
theorem acknowledged_iff (state : LoopState D) (inputs : List Input)
    (kafka : ∀ input ∈ inputs, KafkaSucceeds input) :
    (∀ taken, taken <+: trace config decoder state inputs → Acknowledged taken) ↔
      ∀ reporter ∈ turns config decoder state inputs, ∀ lsn, report reporter = some lsn →
        ∀ turn ∈ turns config decoder state inputs, ∀ message event,
          receipt decoder turn = some (message, .ok (some (.change event))) →
          message.walEnd ≤ lsn → turn.number < reporter.number := by
  have ordered := executedFrom_ordered (receive config decoder) 0 state inputs
  constructor
  · intro acknowledged reporter reporterMem lsn reported turn turnMem message event received covered
    by_contra late
    obtain ⟨done, later, executed⟩ := List.append_of_mem turnMem
    have reportedBefore : reporter ∈ done ∨ reporter = turn :=
      mem_done_or_eq ordered executed reporterMem (Nat.le_of_not_lt late)
    have taken := opened_prefix config decoder executed
    have reportTaken : (reporter.number, .standbyStatus lsn) ∈
        traceOf (receive config decoder) done ++
          (opening decoder turn).map (fun action => (turn.number, action)) := by
      apply List.mem_append.mpr
      rcases reportedBefore with inDone | same
      · exact Or.inl ((mem_traceOf _).mpr ⟨reporter, inDone, rfl, standbyStatus_mem.mpr reported⟩)
      · subst same
        exact Or.inr (by simp [opening, reported])
    have receiptTaken : (turn.number, .received message (.ok (some (.change event)))) ∈
        traceOf (receive config decoder) done ++
          (opening decoder turn).map (fun action => (turn.number, action)) := by
      apply List.mem_append_right
      simp [opening, received]
    obtain ⟨topic, delivered⟩ := acknowledged _ taken reporter.number lsn reportTaken turn.number message
      event receiptTaken covered
    rcases List.mem_append.mp delivered with inDone | inOpening
    · obtain ⟨other, otherMem, same, _⟩ := (mem_traceOf _).mp inDone
      have before := number_lt_of_mem_done ordered executed otherMem
      omega
    · simp [opening] at inOpening
  · intro early taken killed reporter lsn reported number message event received covered
    obtain ⟨reporterTurn, reporterMem, rfl, reports⟩ := (mem_traceOf _).mp (killed.subset reported)
    obtain ⟨turn, turnMem, rfl, receives⟩ := (mem_traceOf _).mp (killed.subset received)
    rw [standbyStatus_mem] at reports
    rw [received_mem] at receives
    have before := early reporterTurn reporterMem lsn reports turn turnMem message event receives covered
    have sent := delivery_of_change decoder
      (kafka _ (executedFrom_input_mem (receive config decoder) turnMem)) receives
    refine ⟨topicOf config event, ?_⟩
    have delivered : .delivered message (topicOf config event) event ∈
        turn.actions (receive config decoder) := delivered_mem.mpr ⟨sent, rfl⟩
    rcases prefix_traceOf _ killed with rfl | ⟨done, step, later, part, executed, rfl, inside⟩
    · exact (mem_traceOf _).mpr ⟨turn, turnMem, rfl, delivered⟩
    · -- the report is in the trace so far, so the turn before it is complete
      have notAfter : reporterTurn.number ≤ step.number := by
        rcases List.mem_append.mp reported with inDone | inPart
        · obtain ⟨other, otherMem, same, _⟩ := (mem_traceOf _).mp inDone
          have order := number_lt_of_mem_done ordered executed otherMem
          omega
        · have same := ((mem_trace _).mp (inside.subset inPart)).1
          omega
      have complete := mem_done_of_number_lt ordered executed turnMem (Nat.lt_of_lt_of_le before notAfter)
      exact List.mem_append_left _ ((mem_traceOf _).mpr ⟨turn, complete, rfl, delivered⟩)

/-- A crash right after the status update of the first change. -/
theorem reported_before_delivered :
    (∀ input ∈ [messageAt 9 (.succeed false)], KafkaSucceeds input) ∧
    ∃ taken, taken <+: trace sampleConfig everyMessageAChange emptyLoop [messageAt 9 (.succeed false)] ∧
      ¬ Acknowledged taken := by
  refine ⟨?_, [(0, .received { data := [], walStart := 0, walEnd := 9 } (.ok (some (.change someChange)))),
    (0, .standbyStatus 9)], ⟨[_], rfl⟩, ?_⟩
  · intro input member
    rw [List.mem_singleton.mp member]
    exact ⟨rfl, rfl⟩
  · intro acknowledged
    obtain ⟨topic, delivered⟩ := acknowledged 0 9 (by simp) 0 _ someChange List.mem_cons_self (by decide)
    simp at delivered

/-- A change whose own status update fails is delivered before a keepalive
    reports its position. -/
theorem acknowledged_after_failed_update :
    Acknowledged (trace sampleConfig everyMessageAChange emptyLoop
      [messageAt 9 { Outcomes.succeed false with standbyStatus := .error (.io "broken pipe") },
        .socket (.replied 9) (.succeed false)]) := by
  apply (acknowledged_iff sampleConfig everyMessageAChange emptyLoop _ ?_).mpr ?_ _ List.prefix_rfl
  · intro input member
    rcases List.mem_cons.mp member with rfl | later
    · exact ⟨rfl, rfl⟩
    · rw [List.mem_singleton.mp later]
      exact ⟨rfl, rfl⟩
  · intro reporter reporterMem lsn reported turn turnMem message event received covered
    rcases List.mem_cons.mp reporterMem with rfl | reporterLater
    · cases reported
    · rcases List.mem_cons.mp turnMem with rfl | turnLater
      · rw [List.mem_singleton.mp reporterLater]
        decide
      · rw [List.mem_singleton.mp turnLater] at received
        cases received

end PgCapture
