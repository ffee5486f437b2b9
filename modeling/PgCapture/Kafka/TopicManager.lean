import PgCapture.Error
import Mathlib.Data.Finset.Insert

namespace PgCapture.Kafka

/-! # The topic manager

The manager remembers the topics it has found or created and answers for them
without asking again.  The broker's topics change through the manager's calls
alone; what the broker does with a request is part of the call.
-/

/-- A topic as the manager asks for it. -/
structure NewTopic where
  name : String
  numPartitions : Int
  replication : Int
  config : List (String × String)
deriving DecidableEq, Repr

/-- What becomes of a request about one topic: it fails as a whole, the broker
refuses it, or it is done.  One that is not reported done may still be applied. -/
inductive AdminAnswer where
  | failed (reason : String) (applied : Bool)
  | refused (reason : String) (applied : Bool)
  | done
deriving DecidableEq, Repr

namespace AdminAnswer

def applied : AdminAnswer → Bool
  | failed _ applied => applied
  | refused _ applied => applied
  | done => true

/-- The results of the request, one for each topic in it. -/
def results (topic : String) : AdminAnswer → Except String (List (Except (String × String) String))
  | failed reason _ => .error reason
  | refused reason _ => .ok [.error (topic, reason)]
  | done => .ok [.ok topic]

end AdminAnswer

/-- The topics that exist. -/
abbrev Broker := List String

namespace Broker

def addTopic (broker : Broker) (topic : String) : Broker :=
  if topic ∈ broker then broker else broker ++ [topic]

def removeTopic (broker : Broker) (topic : String) : Broker := broker.filter (· ≠ topic)

theorem mem_addTopic {broker : Broker} {topic other : String} :
    other ∈ broker.addTopic topic ↔ other ∈ broker ∨ other = topic := by
  rw [addTopic]
  split
  · rename_i present
    exact (or_iff_left_of_imp (· ▸ present)).symm
  · rw [List.mem_append, List.mem_singleton]

theorem mem_removeTopic {broker : Broker} {topic other : String} :
    other ∈ broker.removeTopic topic ↔ other ∈ broker ∧ other ≠ topic := by
  simp [removeTopic]

end Broker

structure TopicManager where
  defaultPartitions : Int
  defaultReplicationFactor : Int
  createdTopics : Finset String

def checkResults : List (Except (String × String) String) → Except Error Unit
  | [] => .ok ()
  | .ok _ :: results => checkResults results
  | .error (_, reason) :: _ => .error (.kafka reason)

def adminResult (topicName : String) (answer : AdminAnswer) : Except Error Unit :=
  match answer.results topicName with
  | .error reason => .error (.kafka reason)
  | .ok results => checkResults results

namespace TopicManager

def new (partitions replicationFactor : Int) : TopicManager :=
  { defaultPartitions := partitions
    defaultReplicationFactor := replicationFactor
    createdTopics := ∅ }

/-- `metadata` is what becomes of the request for metadata: the names it lists, which
    may be of topics that do not exist. -/
def topicExists (metadata : Except String (List String)) (topicName : String) : Except Error Bool :=
  match metadata with
  | .error reason => .error (.kafka reason)
  | .ok topics => .ok (topics.any (· = topicName))

def newTopic (self : TopicManager) (topicName : String) : NewTopic :=
  { name := topicName
    numPartitions := self.defaultPartitions
    replication := self.defaultReplicationFactor
    config := [("cleanup.policy", "delete"), ("retention.ms", "604800000"),
      ("compression.type", "snappy")] }

def createTopic (self : TopicManager) (broker : Broker) (creation : NewTopic → AdminAnswer)
    (topicName : String) : Except Error Unit × Broker :=
  let answer := creation (self.newTopic topicName)
  (adminResult topicName answer, if answer.applied then broker.addTopic topicName else broker)

def remember (self : TopicManager) (topicName : String) : TopicManager :=
  { self with createdTopics := insert topicName self.createdTopics }

def ensureTopicExists (self : TopicManager) (broker : Broker)
    (metadata : Except String (List String)) (creation : NewTopic → AdminAnswer) (topicName : String) :
    Except Error Unit × TopicManager × Broker :=
  if topicName ∈ self.createdTopics then (.ok (), self, broker)
  else match topicExists metadata topicName with
    | .ok true => (.ok (), self.remember topicName, broker)
    | .ok false =>
        match self.createTopic broker creation topicName with
        | (.ok (), broker) => (.ok (), self.remember topicName, broker)
        | (.error reason, broker) => (.error reason, self, broker)
    | .error reason => (.error reason, self, broker)

/-- The remembered topics stay as they are. -/
def deleteTopic (broker : Broker) (deletion : AdminAnswer) (topicName : String) :
    Except Error Unit × Broker :=
  (adminResult topicName deletion,
    if deletion.applied then broker.removeTopic topicName else broker)

end TopicManager

inductive TopicCall where
  | ensureTopicExists (topic : String) (metadata : Except String Unit)
      (creation : NewTopic → AdminAnswer)
  | deleteTopic (topic : String) (deletion : AdminAnswer)

structure Topics where
  manager : TopicManager
  broker : Broker

namespace Topics

/-- Metadata lists exactly the topics that exist. -/
def step (state : Topics) : TopicCall → Except Error Unit × Topics
  | .ensureTopicExists topic metadata creation =>
      let (result, manager, broker) := state.manager.ensureTopicExists state.broker
        (metadata.map fun _ => state.broker) creation topic
      (result, { manager, broker })
  | .deleteTopic topic deletion =>
      let (result, broker) := TopicManager.deleteTopic state.broker deletion topic
      (result, { state with broker })

def run (state : Topics) (calls : List TopicCall) : Topics :=
  calls.foldl (fun state call => (state.step call).2) state

/-- Whenever the manager says that a topic exists, it does. -/
def Truthful (start : Topics) (calls : List TopicCall) : Prop :=
  ∀ before topic metadata creation rest,
    calls = before ++ .ensureTopicExists topic metadata creation :: rest →
      ((start.run before).step (.ensureTopicExists topic metadata creation)).1 = .ok () →
        topic ∈ ((start.run before).step (.ensureTopicExists topic metadata creation)).2.broker

/-- A topic that is remembered and does not exist. -/
def Stale (state : Topics) (topic : String) : Prop :=
  topic ∈ state.manager.createdTopics ∧ topic ∉ state.broker

end Topics

theorem applied_of_adminResult {topicName : String} {answer : AdminAnswer}
    (reported : adminResult topicName answer = .ok ()) : answer.applied = true := by
  cases answer with
  | failed reason applied => cases reported
  | refused reason applied => cases reported
  | done => rfl

theorem TopicManager.mem_createTopic (self : TopicManager) (broker : Broker)
    (creation : NewTopic → AdminAnswer) {topicName other : String} (different : other ≠ topicName) :
    other ∈ (self.createTopic broker creation topicName).2 ↔ other ∈ broker := by
  simp only [createTopic]
  split
  · rw [Broker.mem_addTopic, or_iff_left different]
  · rfl

/-- The manager remembers, or finds the topic listed or creates it, or fails. -/
theorem TopicManager.ensureTopicExists_cases (self : TopicManager) (broker : Broker)
    (metadata : Except String (List String)) (creation : NewTopic → AdminAnswer) (topicName : String) :
    (topicName ∈ self.createdTopics ∧
        self.ensureTopicExists broker metadata creation topicName = (.ok (), self, broker)) ∨
      (topicName ∉ self.createdTopics ∧ ∃ result manager next,
        self.ensureTopicExists broker metadata creation topicName = (result, manager, next) ∧
        (∀ other, other ≠ topicName → (other ∈ next ↔ other ∈ broker)) ∧
        ((result = .ok () ∧ manager = self.remember topicName ∧
            (topicName ∈ next ∨ next = broker ∧ ∃ topics, metadata = .ok topics ∧ topicName ∈ topics)) ∨
          ((∃ reason, result = .error reason) ∧ manager = self))) := by
  by_cases known : topicName ∈ self.createdTopics
  · left
    exact ⟨known, by rw [ensureTopicExists, if_pos known]⟩
  · right
    refine ⟨known, ?_⟩
    rw [ensureTopicExists, if_neg known]
    cases metadata with
    | error reason => exact ⟨_, _, _, rfl, fun _ _ => Iff.rfl, .inr ⟨⟨_, rfl⟩, rfl⟩⟩
    | ok topics =>
        simp only [topicExists]
        cases exists? : topics.any (· = topicName) with
        | true =>
            have found : topicName ∈ topics := by simpa using exists?
            exact ⟨_, _, _, rfl, fun _ _ => Iff.rfl, .inl ⟨rfl, rfl, .inr ⟨rfl, topics, rfl, found⟩⟩⟩
        | false =>
            have others : ∀ other, other ≠ topicName →
                (other ∈ (self.createTopic broker creation topicName).2 ↔ other ∈ broker) :=
              fun _ different => self.mem_createTopic broker creation different
            cases created : self.createTopic broker creation topicName with
            | mk result next =>
                rw [created] at others
                cases result with
                | error reason => exact ⟨_, _, _, rfl, others, .inr ⟨⟨_, rfl⟩, rfl⟩⟩
                | ok done =>
                    rw [createTopic, Prod.mk.injEq] at created
                    have applied := applied_of_adminResult created.1
                    refine ⟨_, _, _, rfl, others, .inl ⟨rfl, rfl, .inl ?_⟩⟩
                    rw [← created.2, if_pos applied, Broker.mem_addTopic]
                    exact .inr rfl

theorem adminResult_error {topicName : String} {answer : AdminAnswer} {reason : Error}
    (failed : adminResult topicName answer = .error reason) : ∃ text, reason = .kafka text := by
  cases answer with
  | failed text applied =>
      cases failed
      exact ⟨text, rfl⟩
  | refused text applied =>
      cases failed
      exact ⟨text, rfl⟩
  | done => contradiction

theorem TopicManager.ensureTopicExists_error {self : TopicManager} {broker : Broker}
    {metadata : Except String (List String)} {creation : NewTopic → AdminAnswer} {topicName : String}
    {reason : Error}
    (failed : (self.ensureTopicExists broker metadata creation topicName).1 = .error reason) :
    ∃ text, reason = .kafka text := by
  rw [ensureTopicExists] at failed
  split at failed
  · contradiction
  · cases metadata with
    | error text =>
        cases failed
        exact ⟨text, rfl⟩
    | ok answered =>
        simp only [topicExists, createTopic] at failed
        split at failed
        · contradiction
        · split at failed
          · contradiction
          · rename_i created
            cases failed
            exact adminResult_error (congrArg Prod.fst created)
        · contradiction

/-- No topic is lost while another one is asked for. -/
theorem TopicManager.ensureTopicExists_keeps (self : TopicManager) {broker : Broker}
    (metadata : Except String (List String)) (creation : NewTopic → AdminAnswer) (topicName : String)
    {topic : String} (present : topic ∈ broker) :
    topic ∈ (self.ensureTopicExists broker metadata creation topicName).2.2 := by
  have created : topic ∈ (self.createTopic broker creation topicName).2 := by
    simp only [createTopic]
    split
    · exact Broker.mem_addTopic.mpr (.inl present)
    · exact present
  rw [ensureTopicExists]
  split
  · exact present
  · split
    · exact present
    · split
      · rename_i made
        exact congrArg Prod.snd made ▸ created
      · rename_i made
        exact congrArg Prod.snd made ▸ created
    · exact present

namespace Topics

variable {state : Topics} {topic : String}

/-- With such metadata a topic that is answered for exists. -/
theorem step_ensure (state : Topics) (metadata : Except String Unit)
    (creation : NewTopic → AdminAnswer) (asked : String) :
    (asked ∈ state.manager.createdTopics ∧
        state.step (.ensureTopicExists asked metadata creation) = (.ok (), state)) ∨
      (asked ∉ state.manager.createdTopics ∧ ∃ result manager next,
        state.step (.ensureTopicExists asked metadata creation) = (result, ⟨manager, next⟩) ∧
        (∀ other, other ≠ asked → (other ∈ next ↔ other ∈ state.broker)) ∧
        ((result = .ok () ∧ manager = state.manager.remember asked ∧ asked ∈ next) ∨
          ((∃ reason, result = .error reason) ∧ manager = state.manager))) := by
  rw [step]
  rcases state.manager.ensureTopicExists_cases state.broker (metadata.map fun _ => state.broker)
    creation asked with ⟨known, same⟩ | ⟨unknown, result, manager, next, same, others, outcome⟩
  · rw [same]
    exact .inl ⟨known, rfl⟩
  · rw [same]
    refine .inr ⟨unknown, result, manager, next, rfl, others, ?_⟩
    rcases outcome with ⟨answered, remembered, found | ⟨rfl, topics, listed, member⟩⟩ | failed
    · exact .inl ⟨answered, remembered, found⟩
    · cases metadata with
      | error reason => contradiction
      | ok _ =>
          cases listed
          exact .inl ⟨answered, remembered, member⟩
    · exact .inr failed

/-- A topic becomes stale only by a deletion while it is remembered, and stays
stale from then on. -/
theorem step_stale (call : TopicCall) :
    (state.step call).2.Stale topic ↔ state.Stale topic ∨ ∃ deletion,
      call = .deleteTopic topic deletion ∧ deletion.applied ∧
        topic ∈ state.manager.createdTopics := by
  cases call with
  | ensureTopicExists asked metadata creation =>
      have unrelated : ¬ ∃ deletion,
          TopicCall.ensureTopicExists asked metadata creation = .deleteTopic topic deletion ∧
            deletion.applied ∧ topic ∈ state.manager.createdTopics := by
        rintro ⟨deletion, same, _⟩
        cases same
      rw [or_iff_left unrelated]
      rcases state.step_ensure metadata creation asked with
        ⟨_, same⟩ | ⟨unknown, result, manager, next, same, others, outcome⟩
      · rw [same]
      · rw [same]
        by_cases isAsked : topic = asked
        · subst isAsked
          rcases outcome with ⟨_, _, found⟩ | ⟨_, rfl⟩
          · exact iff_of_false (fun stale => stale.2 found) (fun stale => unknown stale.1)
          · exact iff_of_false (fun stale => unknown stale.1) (fun stale => unknown stale.1)
        · have remembered : topic ∈ manager.createdTopics ↔ topic ∈ state.manager.createdTopics := by
            rcases outcome with ⟨_, rfl, _⟩ | ⟨_, rfl⟩
            · rw [TopicManager.remember, Finset.mem_insert, or_iff_right isAsked]
            · rfl
          rw [Stale, Stale, remembered, others topic isAsked]
  | deleteTopic asked deletion =>
      simp only [step, TopicManager.deleteTopic, Stale]
      by_cases applied : deletion.applied
      · rw [if_pos applied, Broker.mem_removeTopic]
        by_cases isAsked : topic = asked
        · subst isAsked
          constructor
          · intro stale
            exact .inr ⟨deletion, rfl, applied, stale.1⟩
          · rintro (stale | ⟨_, _, _, remembered⟩)
            · exact ⟨stale.1, fun kept => kept.2 rfl⟩
            · exact ⟨remembered, fun kept => kept.2 rfl⟩
        · have other : asked ≠ topic := Ne.symm isAsked
          simp [isAsked, other]
      · rw [if_neg applied, or_iff_left]
        rintro ⟨other, same, isApplied, _⟩
        cases same
        exact applied isApplied

theorem run_stale (calls : List TopicCall) :
    (state.run calls).Stale topic ↔ state.Stale topic ∨ ∃ before deletion rest,
      calls = before ++ .deleteTopic topic deletion :: rest ∧ deletion.applied ∧
        topic ∈ (state.run before).manager.createdTopics := by
  induction calls generalizing state with
  | nil => simp [run]
  | cons call calls ih =>
      have later : (state.run (call :: calls)) = (state.step call).2.run calls := rfl
      rw [later, ih, step_stale, or_assoc]
      apply or_congr_right
      constructor
      · rintro (⟨deletion, rfl, applied, remembered⟩ | ⟨before, deletion, rest, rfl, found⟩)
        · exact ⟨[], deletion, calls, rfl, applied, remembered⟩
        · exact ⟨call :: before, deletion, rest, rfl, found⟩
      · rintro ⟨before, deletion, rest, split, applied, remembered⟩
        cases before with
        | nil =>
            cases split
            exact .inl ⟨deletion, rfl, applied, remembered⟩
        | cons first before =>
            cases split
            exact .inr ⟨before, deletion, rest, rfl, applied, remembered⟩

/-- An answer that a topic exists is true unless the topic is stale. -/
theorem ensure_true_iff (metadata : Except String Unit) (creation : NewTopic → AdminAnswer) :
    ((state.step (.ensureTopicExists topic metadata creation)).1 = .ok () →
        topic ∈ (state.step (.ensureTopicExists topic metadata creation)).2.broker) ↔
      ¬ state.Stale topic := by
  rcases state.step_ensure metadata creation topic with
    ⟨known, same⟩ | ⟨unknown, result, manager, next, same, _, outcome⟩
  · rw [same]
    simp [Stale, known]
  · rw [same]
    refine iff_of_true ?_ (fun stale => unknown stale.1)
    rcases outcome with ⟨_, _, found⟩ | ⟨⟨reason, rfl⟩, _⟩
    · exact fun _ => found
    · exact fun answered => by cases answered

/-- The answers are true in exactly the runs in which no topic is asked for
again after it was deleted while the manager remembered it. -/
theorem truthful_iff (partitions replicationFactor : Int) (broker : Broker)
    (calls : List TopicCall) :
    Truthful ⟨.new partitions replicationFactor, broker⟩ calls ↔
      ∀ before topic deletion rest, calls = before ++ .deleteTopic topic deletion :: rest →
        deletion.applied →
        topic ∈ (run ⟨.new partitions replicationFactor, broker⟩ before).manager.createdTopics →
        ∀ metadata creation, .ensureTopicExists topic metadata creation ∉ rest := by
  have fresh : ∀ topic, ¬ Stale ⟨.new partitions replicationFactor, broker⟩ topic :=
    fun topic stale => absurd stale.1 (Finset.notMem_empty topic)
  simp only [Truthful, ensure_true_iff, run_stale, fresh, false_or]
  constructor
  · rintro truthful before topic deletion rest rfl applied remembered metadata creation member
    obtain ⟨between, after, rfl⟩ := List.append_of_mem member
    apply truthful (before ++ .deleteTopic topic deletion :: between) topic metadata creation after
    · rw [List.append_assoc, List.cons_append]
    · exact ⟨before, deletion, between, rfl, applied, remembered⟩
  · rintro never before topic metadata creation rest rfl ⟨first, deletion, between, rfl, applied, remembered⟩
    apply never first topic deletion (between ++ .ensureTopicExists topic metadata creation :: rest) _
      applied remembered metadata creation
    · exact List.mem_append_right _ List.mem_cons_self
    · rw [List.append_assoc, List.cons_append]

/-- Created, deleted, and asked for again. -/
def deletedBetween : List TopicCall :=
  [.ensureTopicExists "cdc.public.users" (.ok ()) fun _ => .done,
    .deleteTopic "cdc.public.users" .done]

theorem deletedBetween_not_truthful :
    ((run ⟨.new 1 1, []⟩ deletedBetween).step
        (.ensureTopicExists "cdc.public.users" (.ok ()) fun _ => .done)).1 = .ok () ∧
      ((run ⟨.new 1 1, []⟩ deletedBetween).step
        (.ensureTopicExists "cdc.public.users" (.ok ()) fun _ => .done)).2.broker = [] ∧
      ¬ Truthful ⟨.new 1 1, []⟩
        (deletedBetween ++ [.ensureTopicExists "cdc.public.users" (.ok ()) fun _ => .done]) := by
  refine ⟨by decide, by decide, fun truthful => ?_⟩
  have claimed := truthful deletedBetween _ _ _ [] rfl (by decide)
  exact absurd claimed (by decide)

end Topics

end PgCapture.Kafka
