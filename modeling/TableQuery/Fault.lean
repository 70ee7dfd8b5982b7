import TableQuery.Error

/-!
# Faults of a database driver

What a database driver reports, and which failure of a data source each report means: a pool or a
worker that is gone is a lost connection, a statement that the database refuses is a failed query,
and a cell of the wrong type cannot be decoded.

* `Fault` — the reports;
* `Fault.toError` — the failure of a data source that a report means;
* `Fault.report` — the wording of a report in the log.
-/

namespace TableQuery

/-- A report of a database driver. -/
inductive Fault where
  /-- No connection became free in time. -/
  | poolTimedOut
  /-- The pool of connections is closed. -/
  | poolClosed
  /-- The thread that serves the database is gone. -/
  | workerCrashed
  /-- A transfer failed. -/
  | transfer (detail : String)
  /-- A secure connection failed. -/
  | secureTransfer (detail : String)
  /-- The database broke the rules of the conversation. -/
  | conversation (detail : String)
  /-- The database refused the statement. -/
  | refused (detail : String)
  /-- A row has no column of this name. -/
  | noColumn (name : String)
  /-- A row has no column at this place. -/
  | noColumnAt (index length : String)
  /-- The cell of this column cannot be read. -/
  | unreadableColumn (index detail : String)
  /-- A cell cannot be read. -/
  | unreadable (detail : String)
  /-- The database has no such type. -/
  | noType (name : String)
  /-- There is no row where there should be one. -/
  | noRow
  /-- The address or an option of the connection is wrong. -/
  | setting (detail : String)
  deriving DecidableEq, Repr

namespace Fault

/-- A wrong address or option, in words. -/
def settingDetail (detail : String) : String := "error with configuration: " ++ detail

/-- The failure of a data source that a report means. -/
def toError : Fault → DataSourceError
  | .poolTimedOut => ⟨.timeout, "Connection pool timed out"⟩
  | .poolClosed => ⟨.connectionFailed, "Connection pool is closed"⟩
  | .workerCrashed => ⟨.connectionFailed, "Database worker crashed"⟩
  | .transfer detail => ⟨.connectionFailed, detail⟩
  | .secureTransfer detail => ⟨.connectionFailed, "TLS error: " ++ detail⟩
  | .conversation detail => ⟨.queryFailed, detail⟩
  | .refused detail => ⟨.queryFailed, detail⟩
  | .noColumn name => ⟨.queryFailed, "Column not found: " ++ name⟩
  | .noColumnAt index length =>
    ⟨.queryFailed, "Column index " ++ index ++ " out of bounds (len: " ++ length ++ ")"⟩
  | .unreadableColumn index detail =>
    ⟨.decode, "Failed to decode column " ++ index ++ ": " ++ detail⟩
  | .unreadable detail => ⟨.decode, detail⟩
  | .noType name => ⟨.decode, "Type not found: " ++ name⟩
  | .noRow =>
    ⟨.other, "no rows returned by a query that expected to return at least one row"⟩
  | .setting detail => ⟨.other, settingDetail detail⟩

/-- The wording of a report in the log. -/
def report : Fault → String
  | .poolTimedOut => "pool timed out while waiting for an open connection"
  | .poolClosed => "attempted to acquire a connection on a closed pool"
  | .workerCrashed => "attempted to communicate with a crashed background worker"
  | .transfer detail => "error communicating with database: " ++ detail
  | .secureTransfer detail =>
    "error occurred while attempting to establish a TLS connection: " ++ detail
  | .conversation detail => "encountered unexpected or invalid data: " ++ detail
  | .refused detail => "error returned from database: " ++ detail
  | .noColumn name => "no column found for name: " ++ name
  | .noColumnAt index length =>
    "column index out of bounds: the len is " ++ length ++ ", but the index is " ++ index
  | .unreadableColumn index detail =>
    "error occurred while decoding column " ++ index ++ ": " ++ detail
  | .unreadable detail => "error occurred while decoding: " ++ detail
  | .noType name => "type named " ++ name ++ " not found"
  | .noRow => "no rows returned by a query that expected to return at least one row"
  | .setting detail => settingDetail detail

end Fault

end TableQuery
