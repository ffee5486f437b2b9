import PgCapture.Kafka.Producer

namespace PgCapture.Kafka

open Postgres

/-! # Batches

A batch goes to the producer's queue record by record, and then the deliveries
are awaited in the same order.  `answers` is what the queue says to each record:
an error, or a future.  `messageTimedOut` stands for the Kafka library's text of
that error.
-/

/-- What a delivery future turns out to be within the delivery timeout. -/
inductive Delivery where
  | delivered (partition offset : Int)
  | failed (reason : String)
  | cancelled
  | timedOut
deriving DecidableEq, Repr

/-- A record that was handed to the producer, and the producer's answer. -/
structure Handed where
  record : Record
  answer : Except String Delivery

structure BatchResult where
  handed : List Handed
  result : Except Error (List (Except Error (Int × Int)))

/-- The queueing loop: what it hands over, and the futures unless one record is
rejected. -/
def enqueue (topic : String) (answers : Nat → Except String Delivery) :
    List (Option String × String) → List Handed × Except Error (List Delivery)
  | [] => ([], .ok [])
  | (key, payload) :: payloads =>
      match answers 0 with
      | .error reason => ([⟨⟨topic, key, payload⟩, .error reason⟩], .error (.kafka reason))
      | .ok delivery =>
          let rest := enqueue topic (fun index => answers (index + 1)) payloads
          (⟨⟨topic, key, payload⟩, .ok delivery⟩ :: rest.1, rest.2.map (delivery :: ·))

def deliveryResult (messageTimedOut : String) : Delivery → Except Error (Int × Int)
  | .delivered partition offset => .ok (partition, offset)
  | .failed reason => .error (.kafka reason)
  | .cancelled => .error (.kafka messageTimedOut)
  | .timedOut => .error (.kafka messageTimedOut)

def sendBatch (messageTimedOut topic : String) (answers : Nat → Except String Delivery)
    (payloads : List (Option String × String)) : BatchResult :=
  let queued := enqueue topic answers payloads
  { handed := queued.1
    result := queued.2.map fun futures => futures.map (deliveryResult messageTimedOut) }

def batchPayloads (extractKey : ChangeEvent → Option String)
    (serialize : ChangeEvent → Except Error String) :
    List ChangeEvent → Except Error (List (Option String × String))
  | [] => .ok []
  | event :: events => do
      let key := extractKey event
      let payload ← serialize event
      let payloads ← batchPayloads extractKey serialize events
      pure ((key, payload) :: payloads)

/-- The whole batch goes to the topic of its first event. -/
def sendChangeEventsBatch (messageTimedOut : String) (config : Config)
    (extractKey : ChangeEvent → Option String) (serialize : ChangeEvent → Except Error String)
    (answers : Nat → Except String Delivery) : List ChangeEvent → BatchResult
  | [] => { handed := [], result := .ok [] }
  | first :: events =>
      let topic := config.topicName first.schema first.table
      match batchPayloads extractKey serialize (first :: events) with
      | .error reason => { handed := [], result := .error reason }
      | .ok payloads => sendBatch messageTimedOut topic answers payloads

def Accepted (answers : Nat → Except String Delivery) (index : Nat) : Prop :=
  ∃ delivery, answers index = .ok delivery

def records (topic : String) (payloads : List (Option String × String)) : List Record :=
  payloads.map fun entry => ⟨topic, entry.1, entry.2⟩

variable {topic : String} {answers : Nat → Except String Delivery}
  {payloads : List (Option String × String)}

theorem accepted_shift {bound : Nat} :
    (∀ index < bound + 1, Accepted answers index) ↔
      Accepted answers 0 ∧ ∀ index < bound, Accepted (fun index => answers (index + 1)) index := by
  constructor
  · intro accepted
    exact ⟨accepted 0 (Nat.succ_pos _), fun index below => accepted (index + 1) (by omega)⟩
  · intro accepted index below
    cases index with
    | zero => exact accepted.1
    | succ index => exact accepted.2 index (by omega)

/-- What is handed over is a beginning of the batch. -/
theorem enqueue_begins :
    (enqueue topic answers payloads).1.map Handed.record <+: records topic payloads := by
  induction payloads generalizing answers with
  | nil => exact List.prefix_rfl
  | cons entry payloads ih =>
      rw [enqueue]
      cases answer : answers 0 with
      | error reason => exact List.prefix_append _ _
      | ok delivery => exact List.cons_prefix_cons.mpr ⟨rfl, ih⟩

theorem handed_record {index : Nat} {handed : Handed}
    (found : (enqueue topic answers payloads).1[index]? = some handed) :
    (records topic payloads)[index]? = some handed.record := by
  obtain ⟨rest, whole⟩ := @enqueue_begins topic answers payloads
  have front : ((enqueue topic answers payloads).1.map Handed.record)[index]? =
      some handed.record := by
    rw [List.getElem?_map, found, Option.map_some]
  rw [← whole]
  exact List.getElem?_append_left (List.getElem?_eq_some_iff.mp front).1 ▸ front

/-- All of it is handed over unless a record before the last is rejected. -/
theorem enqueue_all_iff :
    (enqueue topic answers payloads).1.map Handed.record = records topic payloads ↔
      ∀ index < payloads.length - 1, Accepted answers index := by
  induction payloads generalizing answers with
  | nil => simp [enqueue, records]
  | cons entry payloads ih =>
      rw [enqueue, records, List.map_cons]
      cases payloads with
      | nil => cases answer : answers 0 <;> simp [enqueue]
      | cons next payloads =>
          rw [List.length_cons, Nat.add_sub_cancel, List.length_cons, accepted_shift]
          cases answer : answers 0 with
          | error reason => simp [Accepted, answer]
          | ok delivery =>
              have first : Accepted answers 0 := ⟨delivery, answer⟩
              have rest := @ih fun index => answers (index + 1)
              rw [List.length_cons, Nat.add_sub_cancel] at rest
              rw [← rest]
              simp [first, records]

theorem enqueue_rejected {reason : String} (rejected : answers 0 = .error reason)
    {handed : Handed} (member : handed ∈ (enqueue topic answers payloads).1) :
    handed.answer = .error reason := by
  cases payloads with
  | nil => cases member
  | cons entry payloads =>
      rw [enqueue, rejected, List.mem_singleton] at member
      rw [member]

/-- When the queue takes every record there is a future for each, in order. -/
theorem enqueue_accepted (accepted : ∀ index < payloads.length, Accepted answers index) :
    ∃ futures, (enqueue topic answers payloads).2 = .ok futures ∧
      (enqueue topic answers payloads).1.map Handed.answer = futures.map .ok := by
  induction payloads generalizing answers with
  | nil => exact ⟨[], rfl, rfl⟩
  | cons entry payloads ih =>
      rw [List.length_cons, accepted_shift] at accepted
      obtain ⟨⟨delivery, answer⟩, later⟩ := accepted
      obtain ⟨futures, queued, answered⟩ := ih later
      refine ⟨delivery :: futures, ?_, ?_⟩
      · simp only [enqueue, answer, queued]
        rfl
      · simp only [enqueue, answer, List.map_cons, answered]

/-- One rejection makes the loop fail. -/
theorem enqueue_failed (notAll : ¬ ∀ index < payloads.length, Accepted answers index) :
    ∃ reason, (enqueue topic answers payloads).2 = .error reason := by
  induction payloads generalizing answers with
  | nil => simp at notAll
  | cons entry payloads ih =>
      rw [List.length_cons, accepted_shift] at notAll
      cases answer : answers 0 with
      | error reason => exact ⟨.kafka reason, by simp only [enqueue, answer]⟩
      | ok delivery =>
          have first : Accepted answers 0 := ⟨delivery, answer⟩
          obtain ⟨reason, failed⟩ := ih fun later => notAll ⟨first, later⟩
          refine ⟨reason, ?_⟩
          simp only [enqueue, answer, failed]
          rfl

/-- Each accepted record has its outcome at the index of its payload, and an
error leaves nothing with the producer. -/
structure Accounted (messageTimedOut topic : String) (payloads : List (Option String × String))
    (batch : BatchResult) : Prop where
  reported : ∀ (index : Nat) (record : Record) (delivery : Delivery),
    batch.handed[index]? = some ⟨record, .ok delivery⟩ →
    (records topic payloads)[index]? = some record ∧
      ∃ outcomes, batch.result = .ok outcomes ∧ outcomes.length = batch.handed.length ∧
        outcomes[index]? = some (deliveryResult messageTimedOut delivery)
  refused : ∀ reason, batch.result = .error reason →
    ∀ handed ∈ batch.handed, ∀ delivery, handed.answer ≠ .ok delivery

theorem accounted_of_rejected (messageTimedOut topic : String)
    (payloads : List (Option String × String)) {reason : String} (rejected : answers 0 = .error reason) :
    Accounted messageTimedOut topic payloads (sendBatch messageTimedOut topic answers payloads) where
  reported := by
    intro index record delivery found
    have answer := enqueue_rejected rejected (List.mem_of_getElem? found)
    cases answer
  refused := by
    intro failure _ handed member delivery accepted
    rw [enqueue_rejected rejected member] at accepted
    cases accepted

theorem accounted_of_accepted (messageTimedOut topic : String)
    (accepted : ∀ index < payloads.length, Accepted answers index) :
    Accounted messageTimedOut topic payloads (sendBatch messageTimedOut topic answers payloads) := by
  obtain ⟨futures, queued, answered⟩ := @enqueue_accepted topic answers payloads accepted
  have result : (sendBatch messageTimedOut topic answers payloads).result =
      .ok (futures.map (deliveryResult messageTimedOut)) := by
    rw [sendBatch, queued]
    rfl
  refine ⟨?_, ?_⟩
  · intro index record delivery found
    rw [sendBatch] at found ⊢
    have asked := congrArg (Option.map Handed.answer) found
    rw [← List.getElem?_map, answered, List.getElem?_map, Option.map_some,
      Option.map_eq_some_iff] at asked
    obtain ⟨future, awaited, same⟩ := asked
    cases same
    refine ⟨handed_record found, _, result, ?_, ?_⟩
    · have lengths := congrArg List.length answered
      rw [List.length_map, List.length_map] at lengths
      rw [List.length_map, lengths]
    · rw [List.getElem?_map, awaited, Option.map_some]
  · intro reason failed
    rw [result] at failed
    cases failed

/-- A batch accounts for its records exactly when the queue takes all of them or
refuses the first one. -/
theorem sendBatch_accounted_iff (messageTimedOut topic : String)
    (answers : Nat → Except String Delivery) (payloads : List (Option String × String)) :
    Accounted messageTimedOut topic payloads (sendBatch messageTimedOut topic answers payloads) ↔
      (∃ reason, answers 0 = .error reason) ∨
        ∀ index < payloads.length, ∃ delivery, answers index = .ok delivery := by
  constructor
  · intro accounted
    by_contra neither
    rw [not_or] at neither
    obtain ⟨taken, notAll⟩ := neither
    obtain ⟨reason, failed⟩ := @enqueue_failed topic answers payloads notAll
    have result : (sendBatch messageTimedOut topic answers payloads).result = .error reason := by
      rw [sendBatch, failed]
      rfl
    cases payloads with
    | nil => simp at notAll
    | cons entry payloads =>
        cases answer : answers 0 with
        | error reason => exact taken ⟨reason, answer⟩
        | ok delivery =>
            have member : ⟨⟨topic, entry.1, entry.2⟩, .ok delivery⟩ ∈
                (sendBatch messageTimedOut topic answers (entry :: payloads)).handed := by
              simp only [sendBatch, enqueue, answer]
              exact List.mem_cons_self
            exact accounted.refused reason result _ member delivery rfl
  · intro condition
    cases condition with
    | inl rejected =>
        obtain ⟨reason, rejected⟩ := rejected
        exact accounted_of_rejected messageTimedOut topic payloads rejected
    | inr accepted => exact accounted_of_accepted messageTimedOut topic accepted

/-- The queue takes one record and is full. -/
def fullAfterOne : Nat → Except String Delivery
  | 0 => .ok (.delivered 0 0)
  | _ + 1 => .error "Message production error: QueueFull (Local: Queue full)"

theorem fullAfterOne_not_accounted :
    (sendBatch "timed out" "cdc.public.users" fullAfterOne [(none, "a"), (none, "b")]).result =
        .error (.kafka "Message production error: QueueFull (Local: Queue full)") ∧
      ¬ Accounted "timed out" "cdc.public.users" [(none, "a"), (none, "b")]
        (sendBatch "timed out" "cdc.public.users" fullAfterOne [(none, "a"), (none, "b")]) := by
  refine ⟨rfl, ?_⟩
  intro accounted
  exact accounted.refused _ rfl _ List.mem_cons_self _ rfl

/-- The records that sending the events one by one hands to the producer. -/
def sentOneByOne (config : Config) (extractKey : ChangeEvent → Option String)
    (serialize : ChangeEvent → Except Error String) (events : List ChangeEvent) : List Record :=
  events.filterMap fun event => (changeRecord config extractKey event (serialize event)).toOption

section Routes

variable {config : Config} {extractKey : ChangeEvent → Option String}
  {serialize : ChangeEvent → Except Error String} {events : List ChangeEvent}

/-- The payload of an event, when the serializer succeeds. -/
def payloadOf (serialize : ChangeEvent → Except Error String) (event : ChangeEvent) : String :=
  (serialize event).toOption.getD ""

theorem payloadOf_spec {event : ChangeEvent} (succeeds : ∃ payload, serialize event = .ok payload) :
    serialize event = .ok (payloadOf serialize event) := by
  obtain ⟨payload, serialized⟩ := succeeds
  rw [payloadOf, serialized]
  rfl

theorem sentOneByOne_eq (succeeds : ∀ event ∈ events, ∃ payload, serialize event = .ok payload) :
    sentOneByOne config extractKey serialize events = events.map fun event =>
      ⟨config.topicName event.schema event.table, extractKey event, payloadOf serialize event⟩ := by
  induction events with
  | nil => rfl
  | cons event events ih =>
      have serialized := payloadOf_spec (succeeds event List.mem_cons_self)
      have rest := ih fun other member => succeeds other (List.mem_cons_of_mem _ member)
      rw [sentOneByOne] at rest ⊢
      rw [List.filterMap_cons, serialized, List.map_cons, rest]
      rfl

theorem batchPayloads_eq (succeeds : ∀ event ∈ events, ∃ payload, serialize event = .ok payload) :
    batchPayloads extractKey serialize events =
      .ok (events.map fun event => (extractKey event, payloadOf serialize event)) := by
  induction events with
  | nil => rfl
  | cons event events ih =>
      have serialized := payloadOf_spec (succeeds event List.mem_cons_self)
      have rest := ih fun other member => succeeds other (List.mem_cons_of_mem _ member)
      rw [batchPayloads, serialized, rest]
      rfl

/-- The records of one topic are those of every event's own topic. -/
theorem map_topic_eq_iff (topic : String) :
    events.map (fun event =>
        (⟨topic, extractKey event, payloadOf serialize event⟩ : Record)) =
      events.map (fun event =>
        ⟨config.topicName event.schema event.table, extractKey event, payloadOf serialize event⟩) ↔
      ∀ event ∈ events, config.topicName event.schema event.table = topic := by
  rw [List.map_inj_left]
  constructor
  · intro same event member
    exact (congrArg Record.topic (same event member)).symm
  · intro same event member
    rw [same event member]

end Routes

/-- A batch hands over what sending one by one does exactly when all its events
have the topic of the first and no record before the last is rejected. -/
theorem sendChangeEventsBatch_handed_iff (messageTimedOut : String) (config : Config)
    (extractKey : ChangeEvent → Option String) (serialize : ChangeEvent → Except Error String)
    (answers : Nat → Except String Delivery) (events : List ChangeEvent)
    (succeeds : ∀ event ∈ events, ∃ payload, serialize event = .ok payload) :
    (sendChangeEventsBatch messageTimedOut config extractKey serialize answers events).handed.map
        Handed.record = sentOneByOne config extractKey serialize events ↔
      (∀ left ∈ events, ∀ right ∈ events,
        config.topicName left.schema left.table = config.topicName right.schema right.table) ∧
      ∀ index < events.length - 1, ∃ delivery, answers index = .ok delivery := by
  cases events with
  | nil => simp [sendChangeEventsBatch, sentOneByOne]
  | cons first events =>
      have built := @batchPayloads_eq extractKey serialize (first :: events) succeeds
      let topic := config.topicName first.schema first.table
      let payloads := (first :: events).map fun event => (extractKey event, payloadOf serialize event)
      have handed : (sendChangeEventsBatch messageTimedOut config extractKey serialize answers
          (first :: events)).handed = (enqueue topic answers payloads).1 := by
        simp only [sendChangeEventsBatch, built]
        rfl
      have counts : payloads.length = (first :: events).length := List.length_map _
      have batch : records topic payloads = (first :: events).map fun event =>
          ⟨topic, extractKey event, payloadOf serialize event⟩ := List.map_map ..
      have all := @enqueue_all_iff topic answers payloads
      rw [counts] at all
      rw [handed, sentOneByOne_eq succeeds]
      constructor
      · intro same
        have lengths : ((enqueue topic answers payloads).1.map Handed.record).length =
            (records topic payloads).length := by
          rw [same, batch, List.length_map, List.length_map]
        have whole := enqueue_begins.eq_of_length lengths
        rw [whole, batch, map_topic_eq_iff] at same
        refine ⟨?_, all.mp whole⟩
        intro left leftMember right rightMember
        rw [same left leftMember, same right rightMember]
      · intro condition
        obtain ⟨topics, accepted⟩ := condition
        rw [all.mpr accepted, batch, map_topic_eq_iff]
        intro event member
        exact topics event member first List.mem_cons_self

def publicConfig : Config := { database := "db", topicPrefix := "cdc" }

def insertInto (table : String) : ChangeEvent :=
  .insertInto table "0/9" (.object [("id", .integer 1)])

def takesAll : Nat → Except String Delivery := fun index => .ok (.delivered 0 index)

theorem sendChangeEventsBatch_handed_users :
    (sendChangeEventsBatch "timed out" publicConfig (fun _ => none) (fun _ => .ok "event") takesAll
        [insertInto "users", insertInto "users"]).handed.map Handed.record =
      sentOneByOne publicConfig (fun _ => none) (fun _ => .ok "event")
        [insertInto "users", insertInto "users"] :=
  (sendChangeEventsBatch_handed_iff "timed out" publicConfig (fun _ => none) (fun _ => .ok "event")
    takesAll [insertInto "users", insertInto "users"] (fun _ _ => ⟨"event", rfl⟩)).mpr
    ⟨by simp, fun index _ => ⟨.delivered 0 index, rfl⟩⟩

/-- The second event goes to the topic of the first one's table. -/
theorem sendChangeEventsBatch_mixed_tables :
    (sendChangeEventsBatch "timed out" publicConfig (fun _ => none) (fun _ => .ok "event") takesAll
        [insertInto "users", insertInto "orders"]).handed.map Handed.record ≠
      sentOneByOne publicConfig (fun _ => none) (fun _ => .ok "event")
        [insertInto "users", insertInto "orders"] := by
  decide

end PgCapture.Kafka
