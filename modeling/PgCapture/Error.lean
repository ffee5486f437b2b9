namespace PgCapture

/-! # Errors

The crate's error type.  Errors of other libraries are carried as their text.
-/

inductive Error where
  | config (message : String)
  | postgres (message : String)
  | kafka (message : String)
  | serialization (message : String)
  | io (message : String)
  | connection (message : String)
  | authentication (message : String)
  | protocol (message : String)
  | replication (message : String)
  | invalidMessage (message : String)
  | timeout (message : String)
  | shutdown
deriving DecidableEq, Repr

def Error.toString : Error → String
  | .config message => "Configuration error: " ++ message
  | .postgres message => "PostgreSQL error: " ++ message
  | .kafka message => "Kafka error: " ++ message
  | .serialization message => "Serialization error: " ++ message
  | .io message => "IO error: " ++ message
  | .connection message => "Connection error: " ++ message
  | .authentication message => "Authentication error: " ++ message
  | .protocol message => "Protocol error: " ++ message
  | .replication message => "Replication error: " ++ message
  | .invalidMessage message => "Invalid message format: " ++ message
  | .timeout message => "Timeout error: " ++ message
  | .shutdown => "Shutdown requested"

end PgCapture
