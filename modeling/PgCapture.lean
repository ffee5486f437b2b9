import PgCapture.Data.Cursor
import PgCapture.Data.Utf8
import PgCapture.Data.Hex
import PgCapture.Data.OrderedMap
import PgCapture.Data.Binary
import PgCapture.Data.Json
import PgCapture.Data.Json.KeyOrder
import PgCapture.Crates
import PgCapture.Postgres.Value
import PgCapture.Error
import PgCapture.Postgres.Lsn
import PgCapture.Postgres.Types
import PgCapture.Postgres.Decoder
import PgCapture.Postgres.Decoder.State
import PgCapture.Postgres.Decoder.History
import PgCapture.Postgres.Decoder.RoundTrip
import PgCapture.Postgres.Connection
import PgCapture.Postgres.Framing
import PgCapture.Postgres.Reader
import PgCapture.Postgres.Commands
import PgCapture.Data.Machine
import PgCapture.Data.Simulation
import PgCapture.Data.ChangeLog
import PgCapture.Replicator
import PgCapture.Replicator.Turns
import PgCapture.Replicator.Acknowledgement
import PgCapture.Replicator.Checkpointing
import PgCapture.Data.Replay
import PgCapture.Replicator.Restart
import PgCapture.Replicator.Retry
import PgCapture.Postgres.Decoder.Tuple
import PgCapture.Postgres.Decoder.Truncation
import PgCapture.Postgres.Decoder.Shape
import PgCapture.Postgres.Decoder.Toast
import PgCapture.Postgres.Decoder.Nulls
import PgCapture.Postgres.Decoder.PgRelation
import PgCapture.CheckpointFile
import PgCapture.Data.Dialogue
import PgCapture.Postgres.Authentication
import PgCapture.Postgres.Receiving
import PgCapture.Kafka.Producer
import PgCapture.Replicator.Session
import PgCapture.Replicator.Positions
import PgCapture.Data.Separated
import PgCapture.Postgres.Arrays
import PgCapture.Postgres.Formats
import PgCapture.Replicator.Resume
import PgCapture.Kafka.Serializer
import PgCapture.Postgres.FromJson
import PgCapture.Postgres.Decoder.Images
import PgCapture.Kafka.Payload
import PgCapture.Kafka.Batch
import PgCapture.Kafka.KeyStrategy
import PgCapture.CheckpointFile.Overlap
import PgCapture.CheckpointFile.Register
import PgCapture.Kafka.TopicManager
import PgCapture.Postgres.WholeStream
import PgCapture.Data.Percent
import PgCapture.Postgres.ConnectionString
import PgCapture.Replicator.SetUp
import PgCapture.Postgres.RowOp
import PgCapture.Postgres.Restore
import PgCapture.Replicator.Pipeline
import PgCapture.Replicator.Pipeline.Log
import PgCapture.Replicator.Pipeline.Unseen
import PgCapture.Replicator.Pipeline.Mirror
import PgCapture.Replicator.Pipeline.Restored
import PgCapture.Replicator.Deployment
import PgCapture.Replicator.Backoff
import PgCapture.Replicator.ConformingServer
import PgCapture.Replicator.Redelivery
import PgCapture.Replicator.Slot
import PgCapture.Replicator.Echo
import PgCapture.Kafka.Partitions
