import PgCapture.Postgres.Decoder.History
import PgCapture.Postgres.RowOp
import PgCapture.Replicator.Passes

namespace PgCapture

open Data Postgres

/-! # Delivery across restarts

A process that is killed starts again from its checkpoint file, and the server
resends what lies behind the saved position.  Each life of the process is a pass
over the row changes of the server's log, with the checkpoint as the bookmark.
-/

/-- A life of the process: what its first attempt meets, and how many actions it
    takes until it is killed.  No later attempt gets into the loop. -/
structure Life where
  inputs : List Input
  actions : Nat

variable (carries : Bytes → Bool) (config : Config) (decoder : Decoder D)

namespace Life

def firstAttempt (file : Option Checkpoint) (life : Life) : Option (AttemptResult D) :=
  (Replicator.run decoder (Replicator.new config) fun _ => Attempt.resume file life.inputs).head?

def requested (file : Option Checkpoint) (life : Life) : Option UInt64 :=
  ((firstAttempt config decoder file life).bind AttemptResult.requested).bind readLsn

def turns (file : Option Checkpoint) (life : Life) : List (Turn D) :=
  ((firstAttempt config decoder file life).bind AttemptResult.turns).getD []

def taken (file : Option Checkpoint) (life : Life) : List (Nat × Action) :=
  (traceOf (receive config decoder) (turns config decoder file life)).take life.actions

def start (file : Option Checkpoint) : LoopState D :=
  { decoder := decoder.new config.database, currentLsn := none
    totalMessageCount := match file with
      | some checkpoint => checkpoint.messageCount
      | none => 0 }

theorem firstAttempt_eq (file : Option Checkpoint) (life : Life) :
    ∃ result, firstAttempt config decoder file life = some result ∧
      result.requested = some (Replicator.startLsn file) ∧
      result.turns = some (PgCapture.turns config decoder (start config decoder file) life.inputs) := by
  refine ⟨_, Replicator.runFrom_head decoder _ _ _, ?_, ?_⟩
  · cases file <;> rfl
  · cases file <;> rfl

theorem requested_eq (file : Option Checkpoint) (life : Life) :
    requested config decoder file life = readLsn (Replicator.startLsn file) := by
  obtain ⟨result, first, asked, _⟩ := firstAttempt_eq config decoder file life
  rw [requested, first, Option.bind_some, asked, Option.bind_some]

theorem turns_eq (file : Option Checkpoint) (life : Life) :
    turns config decoder file life =
      PgCapture.turns config decoder (start config decoder file) life.inputs := by
  obtain ⟨result, first, _, loop⟩ := firstAttempt_eq config decoder file life
  rw [turns, first, Option.bind_some, loop, Option.getD_some]

end Life

/-- The lives of a deployment, each with the checkpoint file it finds. -/
def incarnations : Option Checkpoint → List Life → List (Option Checkpoint × Life)
  | _, [] => []
  | file, life :: lives =>
      (file, life) :: incarnations (fileAfter file (life.taken config decoder file)) lives

def finalFile : Option Checkpoint → List Life → Option Checkpoint
  | file, [] => file
  | file, life :: lives => finalFile (fileAfter file (life.taken config decoder file)) lives

def passOf (born : Option Checkpoint × Life) : Nat × List ReplicationMessage :=
  let taken := born.2.taken config decoder born.1
  (resumeLsn (fileAfter born.1 taken), deliveredIn taken)

/-- The server resends in order what ends behind the requested position, Kafka
    succeeds, and the decoder decodes every message. -/
structure Lived (log : List ReplicationMessage) (file : Option Checkpoint) (life : Life) : Prop where
  served : ∃ lsn, life.requested config decoder file = some lsn ∧
    life.inputs.filterMap Input.message <+: behind endOf log lsn.toNat
  kafka : ∀ input ∈ life.inputs, KafkaSucceeds input
  decodes : ∀ turn ∈ life.turns config decoder file, Decodes carries decoder turn

/-- A life that handles all the server has left to send. -/
structure Streamed (log : List ReplicationMessage) (file : Option Checkpoint) (life : Life) : Prop where
  unkilled : life.taken config decoder file =
    traceOf (receive config decoder) (life.turns config decoder file)
  received : ∃ lsn, life.requested config decoder file = some lsn ∧
    receivedIn (life.taken config decoder file) = behind endOf log lsn.toNat

/-- What the server may send in one life: the changes, and what carries none at
    places of its own among them, such as a table that is announced again. -/
structure Sends (changes sent : List ReplicationMessage) : Prop where
  sorted : sent.Pairwise fun first second => endOf first < endOf second
  changes : sent.filter (fun message => carries message.data) = changes

section Deployment

variable {carries config decoder} {log : List ReplicationMessage} {file : Option Checkpoint} {life : Life}

theorem resumeLsn_of_requested {lsn : UInt64} (asked : life.requested config decoder file = some lsn) :
    resumeLsn file = lsn.toNat := by
  rw [Life.requested_eq] at asked
  rw [resumeLsn, asked, Option.map_some, Option.getD_some]

theorem Lived.undisturbed (lived : Lived carries config decoder log file life) :
    Undisturbed carries config decoder log (resumeLsn file) (Life.start config decoder file)
      life.inputs := by
  obtain ⟨lsn, asked, messages⟩ := lived.served
  refine ⟨rfl, ?_, lived.kafka, ?_⟩
  · rw [resumeLsn_of_requested asked]
    exact messages
  · rw [← Life.turns_eq]
    exact lived.decodes

theorem Life.taken_prefix (file : Option Checkpoint) (life : Life) :
    life.taken config decoder file <+: trace config decoder (Life.start config decoder file) life.inputs := by
  rw [Life.taken, Life.turns_eq]
  exact List.take_prefix _ _

theorem Streamed.deliveredIn_eq (lived : Lived carries config decoder log file life)
    (streamed : Streamed config decoder log file life) :
    deliveredIn (life.taken config decoder file) =
      behind endOf (log.filter fun message => carries message.data) (resumeLsn file) := by
  obtain ⟨lsn, asked, all⟩ := streamed.received
  have kafka : ∀ turn ∈ life.turns config decoder file, KafkaSucceeds turn.input := by
    rw [Life.turns_eq]
    exact lived.undisturbed.kafka_turns
  rw [streamed.unkilled] at all ⊢
  rw [deliveredIn_traceOf carries config decoder lived.decodes kafka, all,
    resumeLsn_of_requested asked]
  exact List.filter_comm _ _ _

theorem lives_pass {changes : List ReplicationMessage} {lives : List Life}
    (lived : ∀ born ∈ incarnations config decoder file lives,
      ∃ sent, Sends carries changes sent ∧ Lived carries config decoder sent born.1 born.2) :
    Passes endOf changes (resumeLsn file)
      ((incarnations config decoder file lives).map (passOf config decoder)) := by
  induction lives generalizing file with
  | nil => trivial
  | cons life lives ih =>
      obtain ⟨sent, sends, first⟩ := lived (file, life) List.mem_cons_self
      have pass := life_pass sends.sorted first.undisturbed (Life.taken_prefix file life)
      rw [sends.changes] at pass
      exact ⟨pass, ih fun born later => lived born (List.mem_cons_of_mem _ later)⟩

theorem lastBookmark_lives (file : Option Checkpoint) (lives : List Life) :
    lastBookmark (resumeLsn file) ((incarnations config decoder file lives).map (passOf config decoder)) =
      resumeLsn (finalFile config decoder file lives) := by
  induction lives generalizing file with
  | nil => rfl
  | cons life lives ih => exact ih _

end Deployment

def deliveries (file : Option Checkpoint) (lives : List Life) : List ReplicationMessage :=
  (incarnations config decoder file lives).flatMap fun born =>
    deliveredIn (born.2.taken config decoder born.1)

theorem incarnations_append (file : Option Checkpoint) (lives : List Life) (last : Life) :
    incarnations config decoder file (lives ++ [last]) =
      incarnations config decoder file lives ++ [(finalFile config decoder file lives, last)] := by
  induction lives generalizing file with
  | nil => rfl
  | cons life lives ih => exact congrArg _ (ih _)

/-- The first life asks for everything but what ends at position 0. -/
theorem resumes_behind_zero (carries : Bytes → Bool) (log : List ReplicationMessage) :
    behind endOf (log.filter fun message => carries message.data) (resumeLsn none) =
        log.filter (fun message => carries message.data) ↔
      ∀ message ∈ log, carries message.data → message.walEnd ≠ 0 := by
  have start : resumeLsn none = 0 := by
    decide
  rw [start, behind, List.filter_eq_self]
  simp only [List.mem_filter, decide_eq_true_eq, and_imp]
  apply forall₂_congr
  intro message member
  apply imp_congr_right
  intro row
  rw [endOf, Nat.pos_iff_ne_zero, ne_eq, ne_eq, ← UInt64.toNat_inj]
  rfl

/-- Over any number of lives that end in one that streams the rest of the log,
    each row change is delivered exactly once and in log order, exactly when no
    life is killed between a delivery and the next checkpoint and no change ends
    at position 0. -/
theorem delivered_once_iff {log : List ReplicationMessage}
    (sorted : log.Pairwise fun first second => endOf first < endOf second)
    (lives : List Life) (last : Life)
    (lived : ∀ born ∈ incarnations config decoder none (lives ++ [last]),
      Lived carries config decoder log born.1 born.2)
    (streamed : Streamed config decoder log (finalFile config decoder none lives) last) :
    deliveries config decoder none (lives ++ [last]) =
        log.filter (fun message => carries message.data) ↔
      (∀ born ∈ incarnations config decoder none lives,
        DeliveriesSaved (born.2.taken config decoder born.1)) ∧
      ∀ message ∈ log, carries message.data → message.walEnd ≠ 0 := by
  rw [incarnations_append] at lived
  have earlier : ∀ born ∈ incarnations config decoder none lives,
      Lived carries config decoder log born.1 born.2 :=
    fun born member => lived born (List.mem_append_left _ member)
  have final : Lived carries config decoder log (finalFile config decoder none lives) last :=
    lived _ (List.mem_append_right _ (List.mem_singleton.mpr rfl))
  have passes := lives_pass fun born member => ⟨log, ⟨sorted, rfl⟩, earlier born member⟩
  have total : deliveries config decoder none (lives ++ [last]) =
      ((incarnations config decoder none lives).map (passOf config decoder)).flatMap Prod.snd ++
        behind endOf (log.filter fun message => carries message.data)
          (lastBookmark (resumeLsn none)
            ((incarnations config decoder none lives).map (passOf config decoder))) := by
    rw [lastBookmark_lives, ← streamed.deliveredIn_eq final, deliveries, incarnations_append,
      List.flatMap_append, List.flatMap_map, List.flatMap_singleton]
    rfl
  have once := passes_eq_behind_iff (sorted.filter fun message => carries message.data) passes
  rw [← total] at once
  have saved : (∀ pass ∈ (incarnations config decoder none lives).map (passOf config decoder),
      ∀ message ∈ pass.2, endOf message ≤ pass.1) ↔
      ∀ born ∈ incarnations config decoder none lives,
        DeliveriesSaved (born.2.taken config decoder born.1) := by
    rw [List.forall_mem_map]
    apply forall₂_congr
    intro born member
    exact deliveries_saved_iff sorted (earlier born member).undisturbed (Life.taken_prefix born.1 born.2)
  rw [← saved, ← once, ← resumes_behind_zero]
  constructor
  · intro all
    have whole : behind endOf (log.filter fun message => carries message.data) (resumeLsn none) =
        log.filter fun message => carries message.data := by
      rw [behind, List.filter_eq_self]
      intro message member
      rw [← all, total] at member
      exact decide_eq_true (mem_behind.mp ((mem_passes_iff passes).mp member)).2
    exact ⟨all.trans whole.symm, whole⟩
  · intro parts
    exact parts.1.trans parts.2

theorem everyMessageAChange_decodes (turn : Turn Unit) :
    Decodes (fun _ => true) everyMessageAChange turn := by
  intro message answer received
  obtain ⟨outcomes, _, rfl⟩ := (receipt_eq_some _).mp received
  exact ⟨fun _ => ⟨someChange, rfl⟩, fun _ => rfl⟩

theorem messageAt_kafka {walEnd : UInt64} {due : Bool} {input : Input}
    (member : input ∈ [messageAt walEnd (.succeed due)]) : KafkaSucceeds input := by
  rw [List.mem_singleton.mp member]
  exact ⟨rfl, rfl⟩

/-- Killed between the delivery of the change at 9 and the checkpoint, the
    process delivers it again in its next life. -/
theorem delivered_twice :
    let log := [({ data := [], walStart := 0, walEnd := 9 } : ReplicationMessage)]
    let lives := [({ inputs := [messageAt 9 (.succeed true)], actions := 3 } : Life)]
    let last : Life := { inputs := [messageAt 9 (.succeed true)], actions := 4 }
    (∀ born ∈ incarnations sampleConfig everyMessageAChange none (lives ++ [last]),
      Lived (fun _ => true) sampleConfig everyMessageAChange log born.1 born.2) ∧
    Streamed sampleConfig everyMessageAChange log
      (finalFile sampleConfig everyMessageAChange none lives) last ∧
    deliveries sampleConfig everyMessageAChange none (lives ++ [last]) ≠
      log.filter (fun _ => true) := by
  intro log lives last
  have served (life : Life) (same : life.inputs = [messageAt 9 (.succeed true)]) :
      Lived (fun _ => true) sampleConfig everyMessageAChange log none life := by
    refine ⟨⟨0, ?_, ?_⟩, ?_, fun turn _ => everyMessageAChange_decodes turn⟩
    · rw [Life.requested_eq]
      decide
    · rw [same]
      exact List.prefix_rfl
    · rw [same]
      exact fun input member => messageAt_kafka member
  refine ⟨?_, ⟨List.take_of_length_le (Nat.le_refl 4), 0, ?_, ?_⟩, ?_⟩
  · intro born member
    rcases List.mem_cons.mp member with rfl | later
    · exact served _ rfl
    · rw [List.mem_singleton.mp later]
      exact served _ rfl
  · rw [Life.requested_eq]
    decide
  · change log = behind endOf log 0
    simp [log, behind, endOf]
  · intro once
    have lengths : 2 = 1 := congrArg List.length once
    contradiction

/-- The stock's table is announced. -/
def announcedAt (walEnd : UInt64) : ReplicationMessage :=
  { data := MockMessageBuilder.relationMessage ⟨0, 0⟩ stock, walStart := 0, walEnd }

/-- Its first row gets this number. -/
def updatedAt (number : UInt8) (walEnd : UInt64) : ReplicationMessage :=
  { data := RowOp.message ⟨0, 0⟩ (.update none (stockRow 1 number)), walStart := 0, walEnd }

def arriving (checkpointDue : Bool) (message : ReplicationMessage) : Input :=
  .socket (.returned message) (.succeed checkpointDue)

theorem kafka_arriving {due : Bool} {messages : List ReplicationMessage} {input : Input}
    (member : input ∈ messages.map (arriving due)) : KafkaSucceeds input := by
  obtain ⟨message, _, rfl⟩ := List.mem_map.mp member
  exact ⟨rfl, rfl⟩

theorem filterMap_arriving (due : Bool) (messages : List ReplicationMessage) :
    (messages.map (arriving due)).filterMap Input.message = messages := by
  rw [List.filterMap_map]
  exact List.filterMap_some

/-- Killed right after the checkpoint at 9, the process goes on with the change
    at 11, behind another announcement of its table. -/
def savedAt9 : Life where
  inputs := [announcedAt 8, updatedAt 5 9].map (arriving true)
  actions := 7

def resumedAt9 : Life where
  inputs := [announcedAt 10, updatedAt 4 11].map (arriving false)
  actions := 5

def announcedTwice : List ReplicationMessage :=
  [announcedAt 8, updatedAt 5 9, announcedAt 10, updatedAt 4 11]

theorem announcedTwice_sorted :
    announcedTwice.Pairwise fun first second => endOf first < endOf second := by
  simp [announcedTwice, announcedAt, updatedAt, endOf]

set_option maxRecDepth 8000 in
theorem savedAt9_lived : Lived isRow sampleConfig (pgOutput .idle) announcedTwice none savedAt9 where
  served := by
    refine ⟨0, ?_, ?_⟩
    · rw [Life.requested_eq]
      decide
    · rw [savedAt9, filterMap_arriving]
      simp [announcedTwice, behind, announcedAt, updatedAt, endOf]
  kafka := fun input => kafka_arriving
  decodes := by decide

/-- The checkpoint that the first life leaves. -/
def checkpointAt9 : Checkpoint := ⟨formatLsn 9, 0, 1⟩

set_option maxRecDepth 8000 in
theorem resumedAt9_lived :
    Lived isRow sampleConfig (pgOutput .idle) announcedTwice (some checkpointAt9) resumedAt9 where
  served := by
    refine ⟨9, ?_, ?_⟩
    · rw [Life.requested_eq]
      exact readLsn_formatLsn 9
    · rw [resumedAt9, filterMap_arriving]
      simp [announcedTwice, behind, announcedAt, updatedAt, endOf]
  kafka := fun input => kafka_arriving
  decodes := by decide

set_option maxRecDepth 8000 in
theorem delivered_once_after_checkpoint :
    deliveries sampleConfig (pgOutput .idle) none [savedAt9, resumedAt9] = [updatedAt 5 9, updatedAt 4 11] := by
  have file : fileAfter none (savedAt9.taken sampleConfig (pgOutput .idle) none) = some checkpointAt9 := rfl
  have lives : incarnations sampleConfig (pgOutput .idle) none ([savedAt9] ++ [resumedAt9]) =
      [(none, savedAt9), (some checkpointAt9, resumedAt9)] := by
    simp only [List.singleton_append, incarnations, file]
  have streamed : Streamed sampleConfig (pgOutput .idle) announcedTwice
      (finalFile sampleConfig (pgOutput .idle) none [savedAt9]) resumedAt9 := by
    rw [finalFile, file, finalFile]
    refine ⟨rfl, 9, ?_, ?_⟩
    · rw [Life.requested_eq]
      exact readLsn_formatLsn 9
    · simp only [behind, announcedTwice]
      rfl
  have once := (delivered_once_iff isRow sampleConfig (pgOutput .idle) announcedTwice_sorted [savedAt9]
    resumedAt9 ?_ streamed).mpr ⟨?_, ?_⟩
  · exact once.trans rfl
  · rw [lives]
    intro born member
    rcases List.mem_cons.mp member with rfl | later
    · exact savedAt9_lived
    · rw [List.mem_singleton.mp later]
      exact resumedAt9_lived
  · intro born member
    rw [List.mem_singleton.mp member]
    exact deliveriesSaved_concat [_, _, _, _, _, _] 1 _
  · intro message member _
    simp only [announcedTwice, List.mem_cons, List.not_mem_nil, or_false] at member
    rcases member with rfl | rfl | rfl | rfl <;> decide

end PgCapture
