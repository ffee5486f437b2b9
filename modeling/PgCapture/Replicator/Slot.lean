import PgCapture.Replicator.Deployment
import PgCapture.Replicator.Positions
import PgCapture.Replicator.Restart

namespace PgCapture

open Data Postgres

/-! # Restarts against a slot

A replication slot keeps the greatest position that was reported to it, and
sends nothing that ends there or before, whatever position is asked for.  The
loop reports a message before it delivers it, so a slot never has a change
delivered twice, and loses what was reported and not delivered.
-/

/-- What outlives the process: its checkpoint file and the slot. -/
structure Durable where
  file : Option Checkpoint
  confirmed : UInt64

/-- The slot's position behind these reports; it never moves back. -/
def confirmedAfter (confirmed : UInt64) (reports : List UInt64) : UInt64 :=
  reports.foldl (fun confirmed lsn => if confirmed < lsn then lsn else confirmed) confirmed

/-- The slot sends what ends behind this position. -/
def Durable.start (durable : Durable) : Nat := max (resumeLsn durable.file) durable.confirmed.toNat

def Durable.after (durable : Durable) (taken : List (Nat × Action)) : Durable where
  file := fileAfter durable.file taken
  confirmed := confirmedAfter durable.confirmed (reportedIn taken)

section Lives

variable (carries : Bytes → Bool) (config : Config) (decoder : Decoder D)

/-- The lives of a deployment, each with what it finds. -/
def slotIncarnations : Durable → List Life → List (Durable × Life)
  | _, [] => []
  | durable, life :: lives =>
      (durable, life) :: slotIncarnations (durable.after (life.taken config decoder durable.file)) lives

def slotAfter : Durable → List Life → Durable
  | durable, [] => durable
  | durable, life :: lives => slotAfter (durable.after (life.taken config decoder durable.file)) lives

def slotDeliveries (durable : Durable) (lives : List Life) : List ReplicationMessage :=
  (slotIncarnations config decoder durable lives).flatMap fun born =>
    deliveredIn (born.2.taken config decoder born.1.file)

/-- The slot sends in order what lies behind its start, it reads every status
    update, Kafka succeeds, and the decoder decodes every message. -/
structure SlotLived (log : List ReplicationMessage) (durable : Durable) (life : Life) : Prop where
  served : life.inputs.filterMap Input.message <+: behind endOf log durable.start
  statuses : ∀ message outcomes, .socket (.returned message) outcomes ∈ life.inputs →
    outcomes.standbyStatus = .ok ()
  kafka : ∀ input ∈ life.inputs, KafkaSucceeds input
  decodes : ∀ turn ∈ life.turns config decoder durable.file, Decodes carries decoder turn

/-- Every change that the slot confirms in this life is delivered in it. -/
def ConfirmsDelivered (changes : List ReplicationMessage) (durable : Durable) (life : Life) : Prop :=
  ∀ message ∈ behind endOf changes durable.start,
    endOf message ≤ (durable.after (life.taken config decoder durable.file)).confirmed.toNat →
      message ∈ deliveredIn (life.taken config decoder durable.file)

end Lives

theorem confirmedAfter_le (confirmed : UInt64) (reports : List UInt64) :
    confirmed.toNat ≤ (confirmedAfter confirmed reports).toNat := by
  induction reports generalizing confirmed with
  | nil => exact Nat.le_refl _
  | cons lsn reports ih =>
      rw [confirmedAfter, List.foldl_cons]
      split
      · rename_i later
        exact Nat.le_trans (Nat.le_of_lt (UInt64.lt_iff_toNat_lt.mp later)) (ih lsn)
      · exact ih confirmed

theorem le_confirmedAfter {confirmed lsn : UInt64} {reports : List UInt64} (member : lsn ∈ reports) :
    lsn.toNat ≤ (confirmedAfter confirmed reports).toNat := by
  induction reports generalizing confirmed with
  | nil => contradiction
  | cons first reports ih =>
      rw [confirmedAfter, List.foldl_cons]
      rcases List.mem_cons.mp member with rfl | later
      · split
        · exact confirmedAfter_le lsn reports
        · rename_i notLater
          have covered : lsn.toNat ≤ confirmed.toNat :=
            Nat.le_of_not_lt fun before => notLater (UInt64.lt_iff_toNat_lt.mpr before)
          exact Nat.le_trans covered (confirmedAfter_le confirmed reports)
      · exact ih later

/-- Some checkpoint file makes a process ask for where the slot starts. -/
theorem Durable.exists_file (durable : Durable) : ∃ file, resumeLsn file = durable.start := by
  rcases Nat.le_total (resumeLsn durable.file) durable.confirmed.toNat with slot | file
  · exact ⟨some ⟨formatLsn durable.confirmed, 0, 0⟩,
      (resumeLsn_saved rfl).trans (Nat.max_eq_right slot).symm⟩
  · exact ⟨durable.file, (Nat.max_eq_left file).symm⟩

/-- A life saves a checkpoint of its own, or leaves the file alone. -/
theorem fileAfter_self_or (taken : List (Nat × Action)) :
    (∀ file, fileAfter file taken = file) ∨ ∀ file other, fileAfter file taken = fileAfter other taken := by
  cases saved : (storedIn taken).getLast? with
  | none =>
      refine Or.inl fun file => ?_
      rw [fileAfter_eq, saved]
      rfl
  | some checkpoint =>
      refine Or.inr fun file other => ?_
      rw [fileAfter_eq, fileAfter_eq, saved]
      rfl

section Life

variable {carries : Bytes → Bool} {config : Config} {decoder : Decoder D}
  {log : List ReplicationMessage} {durable : Durable} {life : Life}

theorem reported_front {turn : Turn D} {front back : List Action} {message : ReplicationMessage}
    {topic : String} {event : ChangeEvent}
    (statuses : ∀ message outcomes, turn.input = .socket (.returned message) outcomes →
      outcomes.standbyStatus = .ok ())
    (actions : turn.actions (receive config decoder) = front ++ .delivered message topic event :: back) :
    .standbyStatus message.walEnd ∈ front := by
  have sent : .delivered message topic event ∈ turn.actions (receive config decoder) := by
    rw [actions]
    exact List.mem_append_right _ List.mem_cons_self
  obtain ⟨outcomes, input, answered, _⟩ := (delivery_eq_some decoder).mp (delivered_mem.mp sent).1
  have received := (receipt_eq_some decoder).mpr ⟨outcomes, input, answered⟩
  have reported : report turn = some message.walEnd := by
    simp only [report, input, statuses message outcomes input]
  rw [turn_actions, opening, received, reported] at actions
  simp only [Option.toList_some, List.map_cons, List.map_nil, List.cons_append, List.nil_append] at actions
  -- the receipt and the report come first
  cases front with
  | nil => cases (List.cons.inj actions).1
  | cons first rest =>
      cases rest with
      | nil => cases (List.cons.inj (List.cons.inj actions).2).1
      | cons second rest =>
          rw [← (List.cons.inj (List.cons.inj actions).2).1]
          exact List.mem_cons_of_mem _ List.mem_cons_self

theorem reported_of_delivered {message : ReplicationMessage}
    (lived : SlotLived carries config decoder log durable life)
    (delivered : message ∈ deliveredIn (life.taken config decoder durable.file)) :
    message.walEnd ∈ reportedIn (life.taken config decoder durable.file) := by
  obtain ⟨⟨number, action⟩, member, isDelivery⟩ := List.mem_filterMap.mp delivered
  obtain ⟨topic, event, rfl⟩ : ∃ topic event, action = .delivered message topic event := by
    cases action <;> simp_all [Action.delivery]
  obtain ⟨before, after, split⟩ := List.append_of_mem member
  have killed : life.taken config decoder durable.file <+:
      trace config decoder (Life.start config decoder durable.file) life.inputs :=
    Life.taken_prefix durable.file life
  rw [split] at killed ⊢
  obtain ⟨done, step, later, front, back, executed, actions, rfl, rfl⟩ :=
    before_action (receive config decoder) ((prefix_of_split before _ after).trans killed)
  have statuses : ∀ message outcomes, step.input = .socket (.returned message) outcomes →
      outcomes.standbyStatus = .ok () := by
    intro message outcomes input
    have inInputs : step.input ∈ life.inputs := executedFrom_input_mem (receive config decoder)
      (executed ▸ List.mem_append_right _ List.mem_cons_self)
    exact lived.statuses message outcomes (input ▸ inInputs)
  have reported := reported_front statuses actions
  apply List.mem_filterMap.mpr
  refine ⟨(step.number, .standbyStatus message.walEnd), ?_, rfl⟩
  apply List.mem_append_left
  apply List.mem_append_right
  exact List.mem_map.mpr ⟨_, reported, rfl⟩

variable (sorted : log.Pairwise fun first second => endOf first < endOf second)
variable (lived : SlotLived carries config decoder log durable life)
include lived

theorem SlotLived.undisturbed {file : Option Checkpoint} (same : resumeLsn file = durable.start) :
    Undisturbed carries config decoder log (resumeLsn file) (Life.start config decoder durable.file)
      life.inputs where
  fresh := rfl
  served := same ▸ lived.served
  kafka := lived.kafka
  decodes := by
    rw [← Life.turns_eq]
    exact lived.decodes

include sorted

/-- The slot's start after a life is no earlier, and its part from the checkpoint
    file is behind changes only that were delivered. -/
theorem slot_resume :
    durable.start ≤ (durable.after (life.taken config decoder durable.file)).start ∧
      ∀ message ∈ behind endOf (log.filter fun message => carries message.data) durable.start,
        endOf message ≤ resumeLsn (fileAfter durable.file (life.taken config decoder durable.file)) →
          message ∈ deliveredIn (life.taken config decoder durable.file) := by
  obtain ⟨file, start⟩ := durable.exists_file
  have pass := life_pass sorted (lived.undisturbed start) (Life.taken_prefix durable.file life)
  rw [start] at pass
  have confirmed := confirmedAfter_le durable.confirmed
    (reportedIn (life.taken config decoder durable.file))
  rcases fileAfter_self_or (life.taken config decoder durable.file) with kept | saved
  · constructor
    · simp only [Durable.start, Durable.after, kept]
      exact max_le_max_left _ confirmed
    · intro message member early
      rw [kept] at early
      have late := (mem_behind.mp member).2
      exact absurd (Nat.le_trans early (Nat.le_max_left _ _)) (Nat.not_le_of_lt late)
  · have same := saved durable.file file
    constructor
    · refine Nat.le_trans pass.forward ?_
      rw [← same]
      exact Nat.le_max_left _ _
    · intro message member early
      exact pass.complete message member (same ▸ early)

theorem life_handover :
    Handover endOf (log.filter fun message => carries message.data) durable.start
      (durable.after (life.taken config decoder durable.file)).start
      (deliveredIn (life.taken config decoder durable.file)) where
  inOrder := by
    obtain ⟨file, start⟩ := durable.exists_file
    rw [← start]
    exact (life_pass sorted (lived.undisturbed start) (Life.taken_prefix durable.file life)).inOrder
  covered := by
    intro message delivered
    have confirmed : endOf message ≤ (confirmedAfter durable.confirmed
        (reportedIn (life.taken config decoder durable.file))).toNat :=
      le_confirmedAfter (reported_of_delivered lived delivered)
    exact Nat.le_trans confirmed (Nat.le_max_right _ _)
  forward := (slot_resume sorted lived).1

end Life

section Deployment

variable {carries : Bytes → Bool} {config : Config} {decoder : Decoder D}
  {changes : List ReplicationMessage} {durable : Durable} {lives : List Life}

def handoverOf (config : Config) (decoder : Decoder D) (born : Durable × Life) :
    Nat × List ReplicationMessage :=
  ((born.1.after (born.2.taken config decoder born.1.file)).start,
    deliveredIn (born.2.taken config decoder born.1.file))

variable (lived : ∀ born ∈ slotIncarnations config decoder durable lives,
  ∃ sent, Sends carries changes sent ∧ SlotLived carries config decoder sent born.1 born.2)
include lived

theorem slot_handovers :
    Handovers endOf changes durable.start
      ((slotIncarnations config decoder durable lives).map (handoverOf config decoder)) := by
  induction lives generalizing durable with
  | nil => trivial
  | cons life lives ih =>
      obtain ⟨sent, sends, first⟩ := lived (durable, life) List.mem_cons_self
      have handover := life_handover sends.sorted first
      rw [sends.changes] at handover
      exact ⟨handover, ih fun born later => lived born (List.mem_cons_of_mem _ later)⟩

theorem complete_iff_confirms :
    Complete endOf changes durable.start
        ((slotIncarnations config decoder durable lives).map (handoverOf config decoder)) ↔
      ∀ born ∈ slotIncarnations config decoder durable lives,
        ConfirmsDelivered config decoder changes born.1 born.2 := by
  induction lives generalizing durable with
  | nil => simp [slotIncarnations, Complete]
  | cons life lives ih =>
      have rest := ih fun born later => lived born (List.mem_cons_of_mem _ later)
      obtain ⟨sent, sends, first⟩ := lived (durable, life) List.mem_cons_self
      have resume := (slot_resume sends.sorted first).2
      rw [sends.changes] at resume
      simp only [slotIncarnations, List.map_cons, List.forall_mem_cons, ← rest]
      apply and_congr_left
      intro _
      constructor
      · intro complete message member confirmed
        exact complete message member (Nat.le_trans confirmed (Nat.le_max_right _ _))
      · intro confirms message member early
        rcases le_max_iff.mp early with file | slot
        · exact resume message member file
        · exact confirms message member slot

end Deployment

theorem lastBookmark_slot (config : Config) (decoder : Decoder D) (durable : Durable)
    (lives : List Life) :
    lastBookmark durable.start
        ((slotIncarnations config decoder durable lives).map (handoverOf config decoder)) =
      (slotAfter config decoder durable lives).start := by
  induction lives generalizing durable with
  | nil => rfl
  | cons life lives ih => exact ih _

theorem slotDeliveries_eq (config : Config) (decoder : Decoder D) (durable : Durable)
    (lives : List Life) :
    slotDeliveries config decoder durable lives =
      ((slotIncarnations config decoder durable lives).map (handoverOf config decoder)).flatMap
        Prod.snd := by
  rw [List.flatMap_map]
  rfl

/-- Killed after the report of the change at 9. -/
def reportedAt9 : Life where
  inputs := [announcedAt 8, updatedAt 5 9].map (arriving false)
  actions := 4

/-- The slot sends what is behind 9. -/
def sentBehind9 : Life where
  inputs := [announcedAt 10, updatedAt 4 11].map (arriving false)
  actions := 5

def cutShortLog : List ReplicationMessage := [updatedAt 5 9, updatedAt 4 11]

set_option maxRecDepth 8000 in
theorem cutShort_after : Durable.after ⟨none, 0⟩ (reportedAt9.taken sampleConfig (pgOutput .idle) none) =
    ⟨none, 9⟩ := rfl

theorem arriving_reported {messages : List ReplicationMessage} {message : ReplicationMessage}
    {outcomes : Outcomes}
    (member : Input.socket (.returned message) outcomes ∈ messages.map (arriving false)) :
    outcomes.standbyStatus = .ok () := by
  obtain ⟨other, _, same⟩ := List.mem_map.mp member
  cases same
  rfl

set_option maxRecDepth 8000 in
theorem cutShort_sent (born : Durable × Life)
    (member : born ∈ slotIncarnations sampleConfig (pgOutput .idle) ⟨none, 0⟩ [reportedAt9, sentBehind9]) :
    ∃ sent, Sends isRow cutShortLog sent ∧
      SlotLived isRow sampleConfig (pgOutput .idle) sent born.1 born.2 := by
  have start : resumeLsn none = 0 := by
    decide
  rw [slotIncarnations, cutShort_after, slotIncarnations, slotIncarnations] at member
  rcases List.mem_cons.mp member with rfl | later
  · refine ⟨announcedAt 8 :: cutShortLog, ⟨?_, rfl⟩,
      ⟨?_, fun _ _ => arriving_reported, fun input => kafka_arriving, by decide⟩⟩
    · simp [cutShortLog, announcedAt, updatedAt, endOf]
    · rw [reportedAt9, filterMap_arriving]
      simp [Durable.start, start, behind, endOf, cutShortLog, announcedAt, updatedAt]
  · rw [List.mem_singleton.mp later]
    refine ⟨[updatedAt 5 9, announcedAt 10, updatedAt 4 11], ⟨?_, rfl⟩,
      ⟨?_, fun _ _ => arriving_reported, fun input => kafka_arriving, by decide⟩⟩
    · simp [announcedAt, updatedAt, endOf]
    · rw [sentBehind9, filterMap_arriving]
      simp [Durable.start, start, behind, endOf, announcedAt, updatedAt]

end PgCapture
