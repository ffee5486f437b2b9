import PgCapture.Data.Replay
import PgCapture.Replicator.Acknowledgement
import PgCapture.Replicator.Checkpointing

namespace PgCapture

open Data Postgres

/-! # One pass over the log

Between a start and its end, a replicator hands on the row changes that lie
behind the checkpoint it started from, in the order of the log, and moves the
checkpoint.  It may end anywhere: what it has taken is a prefix of its trace.
-/

def Input.message : Input → Option ReplicationMessage
  | .socket (.returned message) _ => some message
  | _ => none

def Action.receipt : Action → Option ReplicationMessage
  | .received message _ => some message
  | _ => none

def Action.delivery : Action → Option ReplicationMessage
  | .delivered message _ _ => some message
  | _ => none

def receivedIn (taken : List (Nat × Action)) : List ReplicationMessage :=
  taken.filterMap fun entry => entry.2.receipt

def deliveredIn (taken : List (Nat × Action)) : List ReplicationMessage :=
  taken.filterMap fun entry => entry.2.delivery

theorem receivedIn_append (first second : List (Nat × Action)) :
    receivedIn (first ++ second) = receivedIn first ++ receivedIn second :=
  List.filterMap_append

theorem deliveredIn_append (first second : List (Nat × Action)) :
    deliveredIn (first ++ second) = deliveredIn first ++ deliveredIn second :=
  List.filterMap_append

def fileAfter (file : Option Checkpoint) : List (Nat × Action) → Option Checkpoint
  | [] => file
  | (_, .saved checkpoint) :: taken => fileAfter (some checkpoint) taken
  | _ :: taken => fileAfter file taken

theorem fileAfter_append (file : Option Checkpoint) (first second : List (Nat × Action)) :
    fileAfter file (first ++ second) = fileAfter (fileAfter file first) second := by
  induction first generalizing file with
  | nil => rfl
  | cons entry first ih =>
      obtain ⟨number, action⟩ := entry
      cases action <;> exact ih _

theorem fileAfter_cases (file : Option Checkpoint) (taken : List (Nat × Action)) :
    ((∀ saver checkpoint, (saver, .saved checkpoint) ∉ taken) ∧ fileAfter file taken = file) ∨
    ∃ before saver checkpoint after, taken = before ++ (saver, .saved checkpoint) :: after ∧
      (∀ later other, (later, .saved other) ∉ after) ∧ fileAfter file taken = some checkpoint := by
  induction taken generalizing file with
  | nil => exact Or.inl ⟨fun _ _ => List.not_mem_nil, rfl⟩
  | cons entry taken ih =>
      -- the entry saves a checkpoint or leaves the file as it is
      have step : (∃ saver checkpoint, entry = (saver, .saved checkpoint)) ∨
          ((∀ saver checkpoint, entry ≠ (saver, .saved checkpoint)) ∧
            fileAfter file (entry :: taken) = fileAfter file taken) := by
        obtain ⟨number, action⟩ := entry
        cases action with
        | saved checkpoint => exact Or.inl ⟨number, checkpoint, rfl⟩
        | received message answer => exact Or.inr ⟨by simp, rfl⟩
        | standbyStatus lsn => exact Or.inr ⟨by simp, rfl⟩
        | delivered message topic event => exact Or.inr ⟨by simp, rfl⟩
      rcases step with ⟨saver, checkpoint, rfl⟩ | ⟨other, same⟩
      · rcases ih (some checkpoint) with ⟨none, same⟩ | ⟨before, later, last, after, rfl, none, same⟩
        · exact Or.inr ⟨[], saver, checkpoint, taken, rfl, none, same⟩
        · exact Or.inr ⟨_ :: before, later, last, after, rfl, none, same⟩
      · rcases ih file with ⟨none, kept⟩ | ⟨before, later, last, after, rfl, none, kept⟩
        · refine Or.inl ⟨?_, same.trans kept⟩
          intro saver checkpoint member
          rcases List.mem_cons.mp member with isEntry | inTaken
          · exact other saver checkpoint isEntry.symm
          · exact none saver checkpoint inTaken
        · exact Or.inr ⟨entry :: before, later, last, after, rfl, none, same.trans kept⟩

variable (carries : Bytes → Bool) (config : Config) (decoder : Decoder D)

theorem receipt_message (turn : Turn D) :
    (receipt decoder turn).map Prod.fst = turn.input.message := by
  obtain ⟨number, state, input⟩ := turn
  cases input with
  | socket received outcomes => cases received <;> rfl
  | shutdown now save => rfl
  | timeout => rfl

theorem turn_receipts (turn : Turn D) :
    (turn.actions (receive config decoder)).filterMap Action.receipt = turn.input.message.toList := by
  rw [turn_filterMap, ← receipt_message decoder, Option.map_eq_bind]
  simp [Action.receipt]

theorem turn_deliveries (turn : Turn D) :
    (turn.actions (receive config decoder)).filterMap Action.delivery =
      ((delivery decoder turn).map Prod.fst).toList := by
  rw [turn_filterMap, Option.map_eq_bind]
  simp [Action.delivery]

def messagesOf (steps : List (Turn D)) : List ReplicationMessage :=
  steps.filterMap fun turn => turn.input.message

theorem messagesOf_cons (turn : Turn D) (steps : List (Turn D)) :
    messagesOf (turn :: steps) = turn.input.message.toList ++ messagesOf steps := by
  simp only [messagesOf, List.filterMap_cons]
  cases turn.input.message <;> rfl

theorem messagesOf_append (first second : List (Turn D)) :
    messagesOf (first ++ second) = messagesOf first ++ messagesOf second :=
  List.filterMap_append

theorem receivedIn_traceOf (steps : List (Turn D)) :
    receivedIn (traceOf (receive config decoder) steps) = messagesOf steps :=
  traceOf_filterMap _ fun turn _ => turn_receipts config decoder turn

theorem receivedIn_trace (state : LoopState D) (inputs : List Input) :
    receivedIn (trace config decoder state inputs) <+: inputs.filterMap Input.message := by
  rw [trace, receivedIn_traceOf]
  have front := executedFrom_inputs (receive config decoder) 0 state inputs
  have messages := front.filterMap Input.message
  rw [List.filterMap_map] at messages
  exact messages

/-- The decoder answers a message with a change exactly when it carries one. -/
def Decodes (turn : Turn D) : Prop :=
  ∀ message answer, receipt decoder turn = some (message, answer) →
    (carries message.data ↔ ∃ event, answer = .ok (some (.change event)))

def isChange : Answer → Bool
  | .ok (some (.change _)) => true
  | _ => false

theorem decodes_iff {turn : Turn D} : Decodes carries decoder turn ↔
    ∀ received ∈ receipt decoder turn, carries received.1.data = isChange received.2 := by
  have changes : ∀ answer, isChange answer = true ↔ ∃ event, answer = .ok (some (.change event)) := by
    intro answer
    unfold isChange
    split
    · exact iff_of_true rfl ⟨_, rfl⟩
    · rename_i other
      exact iff_of_false Bool.false_ne_true fun ⟨event, same⟩ => other event same
  constructor
  · rintro decodes ⟨message, answer⟩ received
    exact Bool.eq_iff_iff.mpr ((decodes message answer received).trans (changes answer).symm)
  · intro same message answer received
    rw [same (message, answer) received]
    exact changes answer

instance (turn : Turn D) : Decidable (Decodes carries decoder turn) :=
  decidable_of_iff _ (decodes_iff carries decoder).symm

theorem not_loses_of_decodes {turn : Turn D} (decodes : Decodes carries decoder turn)
    (kafka : KafkaSucceeds turn.input) : ¬ Loses carries decoder turn := by
  intro lost
  obtain ⟨message, outcomes, input, row, failure⟩ := lost
  have received := (receipt_eq_some decoder).mpr ⟨outcomes, input, rfl⟩
  obtain ⟨event, change⟩ := (decodes _ _ received).mp row
  rw [input] at kafka
  rcases failure with noChange | noTopic | notSent
  · exact noChange event change
  · exact noTopic kafka.1
  · exact notSent kafka.2

theorem delivery_message {turn : Turn D} (decodes : Decodes carries decoder turn)
    (kafka : KafkaSucceeds turn.input) :
    (delivery decoder turn).map Prod.fst = turn.input.message.filter fun message => carries message.data := by
  rw [← receipt_message decoder]
  cases received : receipt decoder turn with
  | none =>
      cases sent : delivery decoder turn with
      | none => rfl
      | some pair =>
          obtain ⟨outcomes, input, answered, _⟩ := (delivery_eq_some decoder).mp sent
          have some := (receipt_eq_some decoder).mpr ⟨outcomes, input, answered⟩
          rw [received] at some
          contradiction
  | some pair =>
      obtain ⟨message, answer⟩ := pair
      by_cases row : carries message.data
      · obtain ⟨event, rfl⟩ := (decodes message answer received).mp row
        rw [delivery_of_change decoder kafka received]
        simp [Option.filter, row]
      · cases sent : delivery decoder turn with
        | none => simp [Option.filter, row]
        | some pair =>
            obtain ⟨outcomes, input, answered, _⟩ := (delivery_eq_some decoder).mp sent
            have again := (receipt_eq_some decoder).mpr ⟨outcomes, input, answered⟩
            have change := (decodes _ _ again).mpr ⟨_, rfl⟩
            rw [again] at received
            cases received
            exact absurd change row

theorem deliveredIn_traceOf {steps : List (Turn D)}
    (decodes : ∀ turn ∈ steps, Decodes carries decoder turn)
    (kafka : ∀ turn ∈ steps, KafkaSucceeds turn.input) :
    deliveredIn (traceOf (receive config decoder) steps) =
      (receivedIn (traceOf (receive config decoder) steps)).filter fun message => carries message.data := by
  rw [receivedIn_traceOf, messagesOf, List.filter_filterMap]
  apply traceOf_filterMap
  intro turn member
  rw [turn_deliveries, delivery_message carries decoder (decodes turn member) (kafka turn member)]

theorem receive_currentLsn (state : LoopState D) (input : Input) :
    (receive config decoder state input).state.currentLsn =
      (input.message.map ReplicationMessage.walEnd).or state.currentLsn := by
  cases input with
  | shutdown now save => rfl
  | timeout => rfl
  | socket received outcomes => cases received <;> rfl

/-- The loop's position is where its last message ended. -/
theorem currentLsn_eq {state : LoopState D} {inputs : List Input} {done later : List (Turn D)}
    {turn : Turn D} (fresh : state.currentLsn = none)
    (executed : turns config decoder state inputs = done ++ turn :: later) :
    turn.state.currentLsn = (messagesOf done).getLast?.map ReplicationMessage.walEnd := by
  apply executedFrom_invariant (receive config decoder)
    (fun done state => state.currentLsn = (messagesOf done).getLast?.map ReplicationMessage.walEnd)
    fresh ?_ executed
  intro done turn _ before
  rw [receive_currentLsn, before, messagesOf_append, messagesOf_cons]
  cases turn.input.message with
  | none => simp [messagesOf]
  | some message => simp [messagesOf]

theorem savedLsn_position {turn : Turn D} {lsn : UInt64}
    (saved : savedLsn config decoder turn = some lsn) :
    (turn.input.message.map ReplicationMessage.walEnd).or turn.state.currentLsn = some lsn := by
  obtain ⟨number, state, input⟩ := turn
  rw [savedLsn] at saved
  split at saved
  · rename_i same
    simp only at same
    subst same
    exact saved
  · rename_i message clock standbyStatus topic sent now same
    simp only at same
    subst same
    split at saved
    · exact saved
    · contradiction
  · contradiction

theorem checkpointOf_lsn (turn : Turn D) (lsn : UInt64) :
    (checkpointOf config decoder turn lsn).lsn = formatLsn lsn := by
  rw [checkpointOf]
  split <;> rfl

/-- A checkpoint stands for the last message received before it. -/
theorem saved_position {state : LoopState D} {inputs : List Input} {before : List (Nat × Action)}
    {saver : Nat} {checkpoint : Checkpoint} (fresh : state.currentLsn = none)
    (taken : before ++ [(saver, .saved checkpoint)] <+: trace config decoder state inputs) :
    ∃ message, (receivedIn before).getLast? = some message ∧
      checkpoint.lsn = formatLsn message.walEnd := by
  obtain ⟨done, step, later, front, back, executed, actions, rfl, rfl⟩ := before_action _ taken
  have savedMem : .saved checkpoint ∈ step.actions (receive config decoder) := by
    rw [actions]
    exact List.mem_append_right _ List.mem_cons_self
  obtain ⟨lsn, saved, rfl⟩ := saved_mem.mp savedMem
  have own : front.filterMap Action.receipt = step.input.message.toList := by
    have whole := turn_receipts config decoder step
    rw [actions, saved_last actions, List.filterMap_append] at whole
    exact (List.append_nil _).symm.trans whole
  have messages : receivedIn (traceOf (receive config decoder) done ++
      front.map fun earlier => (step.number, earlier)) =
        messagesOf done ++ step.input.message.toList := by
    rw [receivedIn_append, receivedIn, receivedIn, List.filterMap_map]
    change receivedIn _ ++ front.filterMap Action.receipt = _
    rw [receivedIn_traceOf, own]
  have position := savedLsn_position config decoder saved
  rw [currentLsn_eq config decoder fresh executed, ← Option.map_or] at position
  obtain ⟨message, last, same⟩ := Option.map_eq_some_iff.mp position
  refine ⟨message, ?_, ?_⟩
  · rw [messages, List.getLast?_append, ← last]
    cases step.input.message <;> rfl
  · rw [checkpointOf_lsn, same]

theorem delivered_front {turn : Turn D} {front back : List Action} {message : ReplicationMessage}
    {topic : String} {event : ChangeEvent}
    (actions : turn.actions (receive config decoder) = front ++ .delivered message topic event :: back) :
    message ∈ front.filterMap Action.receipt ∧ ∀ checkpoint, .saved checkpoint ∉ front := by
  constructor
  · have sent : .delivered message topic event ∈ turn.actions (receive config decoder) := by
      rw [actions]
      exact List.mem_append_right _ List.mem_cons_self
    obtain ⟨outcomes, input, answered, _⟩ := (delivery_eq_some decoder).mp (delivered_mem.mp sent).1
    have received := (receipt_eq_some decoder).mpr ⟨outcomes, input, answered⟩
    rw [turn_actions, opening, received] at actions
    simp only [Option.toList_some, List.map_cons, List.map_nil, List.cons_append] at actions
    cases front with
    | nil => cases (List.cons.inj actions).1
    | cons first front =>
        rw [← (List.cons.inj actions).1]
        exact List.mem_cons_self
  · intro checkpoint member
    obtain ⟨early, others, rfl⟩ := List.append_of_mem member
    rw [List.append_assoc, List.cons_append] at actions
    have last := saved_last actions
    simp at last

/-- A message is received before it is delivered, with no checkpoint in between. -/
theorem received_before_delivered {state : LoopState D} {inputs : List Input}
    {before : List (Nat × Action)} {number : Nat} {message : ReplicationMessage} {topic : String}
    {event : ChangeEvent}
    (taken : before ++ [(number, .delivered message topic event)] <+: trace config decoder state inputs) :
    ∃ earlier own, before = earlier ++ own ∧ message ∈ receivedIn own ∧
      ∀ saver checkpoint, (saver, .saved checkpoint) ∉ own := by
  obtain ⟨done, step, later, front, back, executed, actions, rfl, split⟩ := before_action _ taken
  obtain ⟨received, unsaved⟩ := delivered_front config decoder actions
  refine ⟨_, _, split, ?_, ?_⟩
  · rw [receivedIn, List.filterMap_map]
    exact received
  · intro saver checkpoint member
    obtain ⟨action, inFront, pair⟩ := List.mem_map.mp member
    cases pair
    exact unsaved checkpoint inFront

def endOf (message : ReplicationMessage) : Nat := message.walEnd.toNat

def resumeLsn (file : Option Checkpoint) : Nat :=
  ((readLsn (Replicator.startLsn file)).map UInt64.toNat).getD 0

theorem resumeLsn_saved {checkpoint : Checkpoint} {lsn : UInt64} (same : checkpoint.lsn = formatLsn lsn) :
    resumeLsn (some checkpoint) = lsn.toNat := by
  simp [resumeLsn, Replicator.startLsn, same]

theorem receivedIn_initial {first second : List (Nat × Action)} (initial : first <+: second) :
    receivedIn first <+: receivedIn second :=
  initial.filterMap _

def DeliveriesSaved (taken : List (Nat × Action)) : Prop :=
  ∀ before number message topic event after,
    taken = before ++ (number, .delivered message topic event) :: after →
      ∃ saver checkpoint, (saver, .saved checkpoint) ∈ after

theorem deliveriesSaved_concat (front : List (Nat × Action)) (saver : Nat) (checkpoint : Checkpoint) :
    DeliveriesSaved (front ++ [(saver, .saved checkpoint)]) := by
  intro before number message topic event after split
  rcases List.eq_nil_or_concat after with rfl | ⟨others, last, rfl⟩
  · cases (List.append_inj' split rfl).2
  · have shape : before ++ (number, .delivered message topic event) :: others.concat last =
        (before ++ (number, .delivered message topic event) :: others) ++ [last] := by simp
    rw [shape] at split
    cases (List.append_inj' split rfl).2
    exact ⟨saver, checkpoint, by simp⟩

section Life

variable {carries config decoder} {log : List ReplicationMessage} {state : LoopState D}
variable {inputs : List Input} {file : Option Checkpoint} {taken : List (Nat × Action)}

/-- What a life that resumes from `file` may meet: the server resends the log,
    Kafka succeeds, and every message is decoded. -/
structure Undisturbed (carries : Bytes → Bool) (config : Config) (decoder : Decoder D)
    (log : List ReplicationMessage) (start : Nat) (state : LoopState D) (inputs : List Input) :
    Prop where
  fresh : state.currentLsn = none
  served : inputs.filterMap Input.message <+: behind endOf log start
  kafka : ∀ input ∈ inputs, KafkaSucceeds input
  decodes : ∀ turn ∈ turns config decoder state inputs, Decodes carries decoder turn

theorem Undisturbed.kafka_turns {start : Nat}
    (life : Undisturbed carries config decoder log start state inputs) :
    ∀ turn ∈ turns config decoder state inputs, KafkaSucceeds turn.input :=
  fun _ member => life.kafka _ (executedFrom_input_mem (receive config decoder) member)

variable (sorted : log.Pairwise fun first second => endOf first < endOf second)
variable (life : Undisturbed carries config decoder log (resumeLsn file) state inputs)
variable (killed : taken <+: trace config decoder state inputs)

include life killed

theorem received_resent : receivedIn taken <+: behind endOf log (resumeLsn file) :=
  ((receivedIn_initial killed).trans (receivedIn_trace config decoder state inputs)).trans life.served

theorem lt_of_received {message : ReplicationMessage} (member : message ∈ receivedIn taken) :
    resumeLsn file < endOf message :=
  (mem_behind.mp ((received_resent life killed).subset member)).2

include sorted

theorem received_sorted : (receivedIn taken).Pairwise fun first second => endOf first < endOf second :=
  (behind_sorted _ sorted).sublist (received_resent life killed).sublist

theorem saved_covers {before : List (Nat × Action)} {saver : Nat} {checkpoint : Checkpoint}
    (saved : before ++ [(saver, .saved checkpoint)] <+: taken) :
    ∃ last ∈ receivedIn before, resumeLsn (some checkpoint) = endOf last ∧
      ∀ message ∈ receivedIn before, endOf message ≤ endOf last := by
  obtain ⟨last, isLast, position⟩ :=
    saved_position config decoder life.fresh (saved.trans killed)
  have order := received_sorted sorted life ((List.prefix_append _ _).trans (saved.trans killed))
  obtain ⟨others, split⟩ := List.getLast?_eq_some_iff.mp isLast
  rw [split] at order ⊢
  refine ⟨last, List.mem_append_right _ List.mem_cons_self, resumeLsn_saved position, ?_⟩
  intro message member
  rcases List.mem_append.mp member with inOthers | same
  · exact Nat.le_of_lt ((List.pairwise_append.mp order).2.2 message inOthers last List.mem_cons_self)
  · rw [List.mem_singleton.mp same]

/-- A life leaves its checkpoint where it was, or behind a message it received
    before it saved. -/
theorem resume_cases :
    resumeLsn (fileAfter file taken) = resumeLsn file ∨
    ∃ before saver checkpoint, before ++ [(saver, .saved checkpoint)] <+: taken ∧
      ∃ last ∈ receivedIn before, resumeLsn (fileAfter file taken) = endOf last := by
  rcases fileAfter_cases file taken with ⟨_, same⟩ | ⟨before, saver, checkpoint, after, split, _, same⟩
  · exact Or.inl (by rw [same])
  · have saved : before ++ [(saver, .saved checkpoint)] <+: taken := by
      rw [split]
      exact prefix_of_split before _ after
    obtain ⟨last, lastMem, position, _⟩ := saved_covers sorted life killed saved
    exact Or.inr ⟨before, saver, checkpoint, saved, last, lastMem, by rw [same, position]⟩

theorem resume_forward : resumeLsn file ≤ resumeLsn (fileAfter file taken) := by
  rcases resume_cases sorted life killed with same | ⟨before, saver, checkpoint, saved, last, lastMem, position⟩
  · exact Nat.le_of_eq same.symm
  · rw [position]
    exact Nat.le_of_lt
      (lt_of_received life ((List.prefix_append _ _).trans (saved.trans killed)) lastMem)

/-- Nothing that carries a change is skipped between the two checkpoints. -/
theorem delivered_of_le_resume {message : ReplicationMessage}
    (resent : message ∈ behind endOf log (resumeLsn file)) (row : carries message.data)
    (early : endOf message ≤ resumeLsn (fileAfter file taken)) : message ∈ deliveredIn taken := by
  rcases resume_cases sorted life killed with same | ⟨before, saver, checkpoint, saved, last, lastMem, position⟩
  · rw [same] at early
    exact absurd early (Nat.not_le_of_lt (mem_behind.mp resent).2)
  · rw [position] at early
    have initial := received_resent life ((List.prefix_append _ _).trans (saved.trans killed))
    have received := mem_of_mem_prefix (behind_sorted _ sorted) initial lastMem resent early
    obtain ⟨⟨number, action⟩, receiptMem, isReceipt⟩ := List.mem_filterMap.mp received
    obtain ⟨answer, rfl⟩ : ∃ answer, action = .received message answer := by
      cases action <;> simp_all [Action.receipt]
    obtain ⟨topic, event, delivered⟩ := delivered_before_saved carries config decoder
      (saved.trans killed) (fun turn turnMem _ => not_loses_of_decodes carries decoder
        (life.decodes turn turnMem) (life.kafka_turns turn turnMem)) receiptMem row
    have inTaken := saved.subset (List.mem_append_left _ delivered)
    exact List.mem_filterMap.mpr ⟨_, inTaken, rfl⟩

/-- A life hands on a prefix of the row changes behind its checkpoint, and
    leaves a checkpoint behind which nothing is missing. -/
theorem life_pass :
    Pass endOf (log.filter fun message => carries message.data) (resumeLsn file)
      (resumeLsn (fileAfter file taken)) (deliveredIn taken) := by
  have changes : behind endOf (log.filter fun message => carries message.data) (resumeLsn file) =
      (behind endOf log (resumeLsn file)).filter fun message => carries message.data :=
    List.filter_comm _ _ _
  refine ⟨?_, ?_, resume_forward sorted life killed⟩
  · have whole : deliveredIn taken <+: deliveredIn (trace config decoder state inputs) :=
      killed.filterMap _
    rw [trace, deliveredIn_traceOf carries config decoder life.decodes life.kafka_turns] at whole
    rw [changes]
    exact whole.trans ((received_resent life List.prefix_rfl).filter _)
  · intro message member early
    rw [changes] at member
    obtain ⟨resent, row⟩ := List.mem_filter.mp member
    exact delivered_of_le_resume sorted life killed resent row early

theorem lt_of_delivered {before : List (Nat × Action)} {number : Nat} {message : ReplicationMessage}
    {topic : String} {event : ChangeEvent}
    (delivered : before ++ [(number, .delivered message topic event)] <+: taken) :
    resumeLsn (fileAfter file before) < endOf message := by
  have early := delivered.trans killed
  have initial := (List.prefix_append before _).trans early
  obtain ⟨earlier, own, split, received, unsaved⟩ := received_before_delivered config decoder early
  rcases fileAfter_cases file before with ⟨_, same⟩ | ⟨first, saver, checkpoint, rest, split', _, same⟩
  · rw [same]
    apply lt_of_received life initial
    rw [split, receivedIn_append]
    exact List.mem_append_right _ received
  · -- the checkpoint was saved before the message was received
    have behindSave : message ∈ receivedIn rest := by
      rw [split'] at split
      rcases List.append_eq_append_iff.mp split with ⟨tail, _, inside⟩ | ⟨tail, _, inside⟩
      · cases tail with
        | nil =>
            rw [List.nil_append] at inside
            exact absurd (by rw [← inside]; exact List.mem_cons_self) (unsaved saver checkpoint)
        | cons head tail =>
            rw [List.cons_append] at inside
            obtain ⟨_, rfl⟩ := List.cons.inj inside
            rw [receivedIn_append]
            exact List.mem_append_right _ received
      · exact absurd (by rw [inside]; exact List.mem_append_right _ List.mem_cons_self)
          (unsaved saver checkpoint)
    have saved : first ++ [(saver, .saved checkpoint)] <+: before := by
      rw [split']
      exact prefix_of_split first _ rest
    obtain ⟨last, lastMem, position, _⟩ :=
      saved_covers sorted life killed (saved.trans ((List.prefix_append _ _).trans delivered))
    have order := received_sorted sorted life initial
    rw [split', receivedIn_append] at order
    rw [same, position]
    exact (List.pairwise_append.mp order).2.2 last lastMem message behindSave

/-- A life ends behind all it delivered exactly when it saved a checkpoint after
    its last delivery. -/
theorem deliveries_saved_iff :
    (∀ message ∈ deliveredIn taken, endOf message ≤ resumeLsn (fileAfter file taken)) ↔
      DeliveriesSaved taken := by
  constructor
  · intro covered before number message topic event after split
    subst split
    by_contra unsaved
    have delivered : before ++ [(number, .delivered message topic event)] <+:
        before ++ (number, .delivered message topic event) :: after := prefix_of_split before _ after
    have unchanged : fileAfter file (before ++ (number, .delivered message topic event) :: after) =
        fileAfter file before := by
      rw [fileAfter_append]
      rcases fileAfter_cases (fileAfter file before) after with
        ⟨_, same⟩ | ⟨first, saver, checkpoint, rest, rfl, _⟩
      · exact same
      · exact absurd ⟨saver, checkpoint, List.mem_append_right _ List.mem_cons_self⟩ unsaved
    have late := lt_of_delivered sorted life killed delivered
    have deliveredMem : message ∈
        deliveredIn (before ++ (number, .delivered message topic event) :: after) := by
      rw [deliveredIn_append]
      exact List.mem_append_right _ List.mem_cons_self
    have early := covered message deliveredMem
    rw [unchanged] at early
    exact absurd early (Nat.not_le_of_lt late)
  · intro saved message member
    obtain ⟨⟨number, action⟩, deliveredMem, isDelivery⟩ := List.mem_filterMap.mp member
    obtain ⟨topic, event, rfl⟩ : ∃ topic event, action = .delivered message topic event := by
      cases action <;> simp_all [Action.delivery]
    obtain ⟨before, after, split⟩ := List.append_of_mem deliveredMem
    obtain ⟨saver, checkpoint, savedMem⟩ := saved before number message topic event after split
    have delivered : before ++ [(number, .delivered message topic event)] <+: taken := by
      rw [split]
      exact prefix_of_split before _ after
    obtain ⟨earlier, own, rfl, received, _⟩ :=
      received_before_delivered config decoder (delivered.trans killed)
    rw [split, fileAfter_append]
    rcases fileAfter_cases (fileAfter file (earlier ++ own)) after with
      ⟨unsaved, _⟩ | ⟨first, last, final, rest, rfl, _, same⟩
    · exact absurd savedMem (unsaved saver checkpoint)
    · have savedLast : (earlier ++ own ++ (number, .delivered message topic event) :: first) ++
          [(last, .saved final)] <+: taken := by
        rw [split]
        simp
      obtain ⟨newest, _, position, covers⟩ := saved_covers sorted life killed savedLast
      change endOf message ≤ resumeLsn (fileAfter _ (first ++ (last, .saved final) :: rest))
      rw [same, position]
      apply covers
      rw [receivedIn_append, receivedIn_append]
      exact List.mem_append_left _ (List.mem_append_right _ received)

end Life

end PgCapture
