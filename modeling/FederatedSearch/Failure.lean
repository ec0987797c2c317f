import FederatedSearch.Query.SyntaxError

/-!
# Failures

All the ways in which an operation can fail, by cause. A failure is fatal when the whole operation
is given up for it, and scoped when only one backend is. The wording of every cause is here.
-/

namespace FederatedSearch

/-- Why a configuration is refused. -/
inductive ConfigurationFault where
  | missingHost
  | missingDatabase
  | zeroStaleness
  | zeroSweep
  | missingCachePath
  | zeroPageSize
  | pageSizeAboveMax
  | zeroQueryLength
  | emptyMarker
  /-- The catalog has no backend. -/
  | emptyCatalog
  /-- The dataset cannot be read from its file. -/
  | unreadableDataset (path : String)
  /-- The configuration cannot be read from its file. -/
  | unreadableConfig
  /-- A cause that the caller describes. -/
  | described (text : String)
  deriving DecidableEq, Repr

/-- The wording of a cause. -/
def ConfigurationFault.message : ConfigurationFault → String
  | .missingHost => "Backend host must be set"
  | .missingDatabase => "Backend database must be set"
  | .zeroStaleness => "Cache staleness window must be non-zero"
  | .zeroSweep => "Session sweep window must be non-zero"
  | .missingCachePath => "File cache store requires a path"
  | .zeroPageSize => "Default page size must be non-zero"
  | .pageSizeAboveMax => "Default page size cannot exceed max page size"
  | .zeroQueryLength => "Max query length must be non-zero"
  | .emptyMarker => "Highlight markers must be non-empty"
  | .emptyCatalog => "Backend exposes no searchable database"
  | .unreadableDataset path => "Cannot read backend dataset " ++ path
  | .unreadableConfig => "Failed to read config file"
  | .described text => text

/-- Why a backend cannot be reached. -/
inductive ConnectionFault where
  /-- The server is down. -/
  | unreachable (host : String) (port : Nat)
  /-- One backend is down. -/
  | unavailable (backend : Nat)
  /-- A cause that the caller describes. -/
  | described (text : String)
  deriving DecidableEq, Repr

/-- The wording of a cause. -/
def ConnectionFault.message : ConnectionFault → String
  | .unreachable host port => "cannot reach " ++ host ++ ":" ++ toString port
  | .unavailable backend => "backend " ++ toString backend ++ " is unavailable"
  | .described text => text

/-- Why there is no session. -/
inductive SessionFault where
  /-- The caller is anonymous. -/
  | anonymous
  /-- The server has not been connected to. -/
  | notConnected
  /-- The server refused to create a session. -/
  | notCreated (reason : SessionFault)
  /-- A cause that the caller describes. -/
  | described (text : String)
  deriving DecidableEq, Repr

/-- The wording of a cause. -/
def SessionFault.message : SessionFault → String
  | .anonymous => "no authenticated user"
  | .notConnected => "backend is not connected"
  | .notCreated reason => "unable to create backend session: Session error: " ++ reason.message
  | .described text => text

/-- Why an execution on a backend fails. -/
inductive ExecutionFault where
  /-- The backend is down. -/
  | unavailable
  /-- The session does not exist. -/
  | unknownSession (id : String)
  /-- A cause that the caller describes. -/
  | described (text : String)
  deriving DecidableEq, Repr

/-- The wording of a cause. -/
def ExecutionFault.message : ExecutionFault → String
  | .unavailable => "backend unavailable"
  | .unknownSession id => "unknown session " ++ id
  | .described text => text

/-- Why stored data cannot be used or changed. -/
inductive StorageFault where
  /-- A record is not there. -/
  | recordNotFound (backend record : Nat)
  /-- A backend is not there. -/
  | unknownBackend (backend : Nat)
  /-- The file of cached rows does not hold rows. -/
  | corruptCache
  /-- A cause that the caller describes. -/
  | described (text : String)
  deriving DecidableEq, Repr

/-- The wording of a cause. -/
def StorageFault.message : StorageFault → String
  | .recordNotFound backend record =>
    "record " ++ toString record ++ " not found on backend " ++ toString backend
  | .unknownBackend backend => "unknown backend " ++ toString backend
  | .corruptCache => "Corrupt cache file"
  | .described text => text

/-- An operation that the engine does not have. -/
inductive UnsupportedFault where
  /-- An entry of a feed cannot be indexed. -/
  | feedEntry
  /-- A cause that the caller describes. -/
  | described (text : String)
  deriving DecidableEq, Repr

/-- The wording of a cause. -/
def UnsupportedFault.message : UnsupportedFault → String
  | .feedEntry => "feed entry indexing is not supported by this engine"
  | .described text => text

/-- **A failure of an operation.** -/
inductive Failure where
  /-- The configuration cannot be used. -/
  | configuration (fault : ConfigurationFault)
  /-- A backend cannot be reached. -/
  | connection (fault : ConnectionFault)
  /-- There is no session. -/
  | session (fault : SessionFault)
  /-- An execution on a backend fails. -/
  | execution (backend : Nat) (fault : ExecutionFault)
  /-- A query is refused. -/
  | query (error : Query.SyntaxError)
  /-- The engine does not have the operation. -/
  | unsupported (fault : UnsupportedFault)
  /-- Stored data cannot be used or changed. -/
  | storage (fault : StorageFault)
  /-- A file cannot be read or written. -/
  | file
  /-- A text is not the data it should be. -/
  | malformedData
  /-- A text is not a configuration. -/
  | malformedConfig
  /-- A span of time is too long, or leads out of the calendar. -/
  | timeOverflow
  deriving DecidableEq, Repr

namespace Failure

/-- **The failure ends the whole operation.** -/
def isFatal : Failure → Bool
  | .configuration _ | .connection _ | .session _ => true
  | _ => false

/-- **The failure is one of a single backend.** -/
def isPerBackend : Failure → Bool
  | .execution _ _ | .query _ => true
  | _ => false

/-- **The wording of a failure.** Some carry the words of the system and have none here. -/
def message? : Failure → Option String
  | .configuration fault => some ("Configuration error: " ++ fault.message)
  | .connection fault => some ("Connection error: " ++ fault.message)
  | .session fault => some ("Session error: " ++ fault.message)
  | .execution backend fault =>
    some ("Query execution failed on backend " ++ toString backend ++ ": " ++ fault.message)
  | .query e =>
    some ("Parse error at position " ++ toString e.position ++ ": " ++ e.fault.message)
  | .unsupported fault => some ("Unsupported operation: " ++ fault.message)
  | .storage fault => some ("Storage error: " ++ fault.message)
  | .file | .malformedData | .malformedConfig | .timeOverflow => none

end Failure

end FederatedSearch
