import PgCapture.Replicator

namespace PgCapture.Kafka

open Postgres

/-! # The producer

One change event becomes one record: the table's topic, the key the strategy
extracts, and the serialized event.  Kafka answers for the record as a whole.
-/

structure Record where
  topic : String
  key : Option String
  payload : String
deriving DecidableEq, Repr

/-- The record of an event; `serialized` is what the serializer answers. -/
def changeRecord (config : Config) (extractKey : ChangeEvent → Option String) (event : ChangeEvent)
    (serialized : Except Error String) : Except Error Record := do
  let topic := config.topicName event.schema event.table
  let key := extractKey event
  let payload ← serialized
  pure { topic, key, payload }

/-- `send` is what becomes of a record that is handed to Kafka. -/
def sendChangeEvent (config : Config) (extractKey : ChangeEvent → Option String) (event : ChangeEvent)
    (serialized : Except Error String) (send : Record → Except Error Unit) : Except Error Unit := do
  let record ← changeRecord config extractKey event serialized
  send record

theorem changeRecord_topic {config : Config} {extractKey : ChangeEvent → Option String}
    {event : ChangeEvent} {serialized : Except Error String} {record : Record}
    (built : changeRecord config extractKey event serialized = .ok record) :
    record.topic = config.topicName event.schema event.table := by
  cases serialized with
  | error reason => cases built
  | ok payload =>
      cases built
      rfl

theorem sendChangeEvent_of_built {config : Config} {extractKey : ChangeEvent → Option String}
    {event : ChangeEvent} {serialized : Except Error String} {record : Record}
    (built : changeRecord config extractKey event serialized = .ok record)
    (send : Record → Except Error Unit) :
    sendChangeEvent config extractKey event serialized send = send record := by
  rw [sendChangeEvent, built]
  rfl

theorem sendChangeEvent_of_refused {config : Config} {extractKey : ChangeEvent → Option String}
    {event : ChangeEvent} {serialized : Except Error String} {reason : Error}
    (refused : changeRecord config extractKey event serialized = .error reason)
    (send : Record → Except Error Unit) :
    sendChangeEvent config extractKey event serialized send = .error reason := by
  rw [sendChangeEvent, refused]
  rfl

end PgCapture.Kafka
