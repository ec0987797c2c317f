import FederatedSearch.Calendar.Instant
import FederatedSearch.Number.Binary64

/-!
# Rows of the session cache

For each session one row says which query was executed last in it, when, and with what outcome.
-/

namespace FederatedSearch

open Calendar

/-- **A row of the cache.** -/
structure Row where
  /-- The session. -/
  session : String
  /-- The text of the query that was executed last; empty when there is none. -/
  query : String
  /-- When it was executed. -/
  queryTime : Instant
  /-- The seconds that its executions took together. -/
  duration : Number.Binary64
  /-- The number of hits that it has. -/
  total : Nat
  /-- When the row was written last. -/
  lastAccess : Instant
  deriving DecidableEq, Repr

namespace Row

/-- The row of a session that was opened just now. -/
def created (session : String) (now : Instant) : Row :=
  ⟨session, "", now, .zero false, 0, now⟩

/-- The row after an execution. -/
def executed (r : Row) (query : String) (now : Instant) (duration : Number.Binary64)
    (total : Nat) : Row :=
  { r with query, queryTime := now, duration, total, lastAccess := now }

/-- The row after executions that all failed: it stands for no query. -/
def emptied (r : Row) (now : Instant) : Row :=
  { r with query := "", duration := .zero false, total := 0, lastAccess := now }

/-- The row was not written after a time. -/
def idleSince (r : Row) (cutoff : Instant) : Bool := r.lastAccess.le cutoff

/-- **A row is stale for a query** when it is of another query, or older than `maxAge`. -/
def isStale (r : Row) (query : String) (now : Instant) (maxAge : Span) : Bool :=
  r.query != query || (now.since r.queryTime).longerThan maxAge

end Row

end FederatedSearch
