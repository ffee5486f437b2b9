import PgCapture.Replicator.Turns

namespace PgCapture

open Data Postgres

/-! # Checkpoints and delivery

A checkpoint stands for everything received so far: replication resumes behind
it.  The loop goes on after decode, Kafka and serialization errors, and the next
checkpoint covers the message that failed.
-/

/-- `carries` says which messages are row changes. -/
def CheckpointsCover (carries : Bytes → Bool) (actions : List (Nat × Action)) : Prop :=
  ∀ before saver checkpoint, before ++ [(saver, .saved checkpoint)] <+: actions →
    ∀ number message answer, (number, .received message answer) ∈ before → carries message.data →
      ∃ topic event, (number, .delivered message topic event) ∈ before

variable (carries : Bytes → Bool) (config : Config) (decoder : Decoder D)

/-- The turn receives a row change and goes wrong: the decoder does not answer
    with a change, the topic check fails, or the event is not serialized, sent
    and acknowledged. -/
def Loses (turn : Turn D) : Prop :=
  ∃ message outcomes, turn.input = .socket (.returned message) outcomes ∧ carries message.data ∧
    ((∀ event, (decoder.decode turn.state.decoder outcomes.clock message.data).1 ≠
        .ok (some (.change event))) ∨
      outcomes.ensureTopicExists ≠ .ok () ∨ outcomes.sendChangeEvent ≠ .ok ())

theorem delivery_of_not_loses {turn : Turn D} {message : ReplicationMessage} {answer : Answer}
    (received : receipt decoder turn = some (message, answer)) (row : carries message.data)
    (kept : ¬ Loses carries decoder turn) : ∃ event, delivery decoder turn = some (message, event) := by
  obtain ⟨outcomes, input, answered⟩ := (receipt_eq_some decoder).mp received
  by_contra undelivered
  apply kept
  refine ⟨message, outcomes, input, row, ?_⟩
  by_contra fine
  simp only [not_or, not_forall, not_not] at fine
  obtain ⟨⟨event, change⟩, topic, sent⟩ := fine
  exact undelivered ⟨event, (delivery_eq_some decoder).mpr ⟨outcomes, input, change, topic, sent⟩⟩

theorem not_loses_of_delivery {turn : Turn D} {message : ReplicationMessage} {event : ChangeEvent}
    (delivered : delivery decoder turn = some (message, event)) : ¬ Loses carries decoder turn := by
  obtain ⟨outcomes, input, change, topic, sent⟩ := (delivery_eq_some decoder).mp delivered
  intro lost
  obtain ⟨other, otherOutcomes, otherInput, _, failure⟩ := lost
  rw [input] at otherInput
  cases otherInput
  rcases failure with noChange | noTopic | notSent
  · exact noChange event change
  · exact noTopic topic
  · exact notSent sent

theorem mem_of_mem_append_saved {front : List Action} {action last : Action}
    (member : action ∈ front ++ [last]) (other : action ≠ last) : action ∈ front := by
  rcases List.mem_append.mp member with inFront | isLast
  · exact inFront
  · exact absurd (List.mem_singleton.mp isLast) other

/-- Before a checkpoint is saved, every row change received is delivered, if no
    turn so far lost one. -/
theorem delivered_before_saved {state : LoopState D} {inputs : List Input}
    {before : List (Nat × Action)} {saver : Nat} {checkpoint : Checkpoint}
    (taken : before ++ [(saver, .saved checkpoint)] <+: trace config decoder state inputs)
    (kept : ∀ turn ∈ turns config decoder state inputs, turn.number ≤ saver →
      ¬ Loses carries decoder turn)
    {number : Nat} {message : ReplicationMessage} {answer : Answer}
    (received : (number, .received message answer) ∈ before) (row : carries message.data) :
    ∃ topic event, (number, .delivered message topic event) ∈ before := by
  have ordered := executedFrom_ordered (receive config decoder) 0 state inputs
  obtain ⟨done, step, later, front, back, executed, actions, rfl, rfl⟩ := before_action _ taken
  have last := saved_last actions
  subst last
  rcases List.mem_append.mp received with inDone | inFront
  · obtain ⟨turn, turnDone, rfl, receivedMem⟩ := (mem_traceOf _).mp inDone
    have earlier := number_lt_of_mem_done ordered executed turnDone
    have turnMem : turn ∈ turns config decoder state inputs := by
      rw [executed]
      exact List.mem_append_left _ turnDone
    obtain ⟨event, delivered⟩ := delivery_of_not_loses carries decoder
      (received_mem.mp receivedMem) row (kept turn turnMem (Nat.le_of_lt earlier))
    refine ⟨topicOf config event, event, List.mem_append_left _ ?_⟩
    exact (mem_traceOf _).mpr ⟨turn, turnDone, rfl, delivered_mem.mpr ⟨delivered, rfl⟩⟩
  · obtain ⟨action, actionMem, same⟩ := List.mem_map.mp inFront
    obtain ⟨rfl, rfl⟩ := Prod.mk.inj same
    have stepMem : step ∈ turns config decoder state inputs := by
      rw [executed]
      exact List.mem_append_right _ List.mem_cons_self
    have receivedMem : .received message answer ∈ step.actions (receive config decoder) := by
      rw [actions]
      exact List.mem_append_left _ actionMem
    obtain ⟨event, delivered⟩ := delivery_of_not_loses carries decoder
      (received_mem.mp receivedMem) row (kept step stepMem (Nat.le_refl _))
    have deliveredMem : .delivered message (topicOf config event) event ∈
        step.actions (receive config decoder) := delivered_mem.mpr ⟨delivered, rfl⟩
    rw [actions] at deliveredMem
    have inFront := mem_of_mem_append_saved deliveredMem (by simp)
    refine ⟨topicOf config event, event, List.mem_append_right _ ?_⟩
    exact List.mem_map.mpr ⟨_, inFront, rfl⟩

/-- Every checkpoint of a run covers delivered changes only, exactly when no
    turn at or after a lost change saves one. -/
theorem checkpoints_cover_iff (state : LoopState D) (inputs : List Input) :
    CheckpointsCover carries (trace config decoder state inputs) ↔
      ∀ saver ∈ turns config decoder state inputs, (savedLsn config decoder saver).isSome →
        ∀ turn ∈ turns config decoder state inputs, Loses carries decoder turn →
          saver.number < turn.number := by
  have ordered := executedFrom_ordered (receive config decoder) 0 state inputs
  constructor
  · intro cover saver saverMem saves turn turnMem lost
    by_contra late
    obtain ⟨lsn, saved⟩ := Option.isSome_iff_exists.mp saves
    obtain ⟨done, later, executed⟩ := List.append_of_mem saverMem
    have savedMem : .saved (checkpointOf config decoder saver lsn) ∈
        saver.actions (receive config decoder) := saved_mem.mpr ⟨lsn, saved, rfl⟩
    obtain ⟨front, back, actions⟩ := List.append_of_mem savedMem
    obtain ⟨message, outcomes, input, row, _⟩ := id lost
    have received := (receipt_eq_some decoder).mpr ⟨outcomes, input, rfl⟩
    have receivedMem : .received message
        (decoder.decode turn.state.decoder outcomes.clock message.data).1 ∈
          turn.actions (receive config decoder) := received_mem.mpr received
    have taken := taken_before_action (receive config decoder) executed actions
    have last := saved_last actions
    subst last
    have receivedBefore : (turn.number, .received message
        (decoder.decode turn.state.decoder outcomes.clock message.data).1) ∈
          traceOf (receive config decoder) done ++
            front.map (fun earlier => (saver.number, earlier)) := by
      apply List.mem_append.mpr
      rcases mem_done_or_eq ordered executed turnMem (Nat.le_of_not_lt late) with inDone | same
      · exact Or.inl ((mem_traceOf _).mpr ⟨turn, inDone, rfl, receivedMem⟩)
      · subst same
        rw [actions] at receivedMem
        have inFront := mem_of_mem_append_saved receivedMem (by simp)
        exact Or.inr (List.mem_map.mpr ⟨_, inFront, rfl⟩)
    obtain ⟨topic, event, delivered⟩ := cover _ _ _ taken turn.number message _ receivedBefore row
    have inTrace : (turn.number, .delivered message topic event) ∈ trace config decoder state inputs :=
      taken.subset (List.mem_append_left _ delivered)
    obtain ⟨other, otherMem, same, sent⟩ := (mem_traceOf _).mp inTrace
    have equal := eq_of_number_eq ordered turnMem otherMem same
    subst equal
    exact not_loses_of_delivery carries decoder (delivered_mem.mp sent).1 lost
  · intro noSave before saver checkpoint taken number message answer received row
    obtain ⟨step, stepMem, rfl, savedMem⟩ := (mem_traceOf _).mp (taken.subset (List.mem_append_right _
      (List.mem_singleton.mpr rfl)))
    obtain ⟨lsn, saved, _⟩ := saved_mem.mp savedMem
    apply delivered_before_saved carries config decoder taken ?_ received row
    intro turn turnMem notAfter lost
    have before := noSave step stepMem (by rw [saved]; rfl) turn turnMem lost
    omega

/-- Kafka refuses the change at 9 and the loop saves 9. -/
theorem checkpoint_passes_refused_change :
    ¬ CheckpointsCover (fun _ => true) (trace sampleConfig everyMessageAChange emptyLoop
      [messageAt 9 { Outcomes.succeed true with
        sendChangeEvent := .error
          (.kafka "Message production error: MessageSizeTooLarge (Broker: Message size too large)") }]) := by
  intro cover
  obtain ⟨topic, event, delivered⟩ := cover [_, _] 0 { lsn := formatLsn 9, timestamp := 0, messageCount := 1 }
    List.prefix_rfl 0 { data := [], walStart := 0, walEnd := 9 } (.ok (some (.change someChange)))
    List.mem_cons_self rfl
  simp at delivered

end PgCapture
