import TableQuery.Json

/-!
# Settings

The settings of a program that queries tables, in three sections: queries, the database, and the
log.  Every setting has a default, and the defaults together are a complete set of settings.

* `QuerySettings`, `DatabaseSettings`, `LoggingSettings` — the sections;
* `QuerySettings.pageCap` — the greatest page size, unless pages may have any size;
* `Settings` — all sections, with the JSON form.
-/

namespace TableQuery

/-- How queries are made. -/
structure QuerySettings where
  /-- The greatest page size; zero admits any. -/
  maxPageSize : UInt64 := 1000
  /-- The directory of query files. -/
  queriesDir : String := "queries"
  /-- The log shows the values of statements. -/
  logStatements : Bool := false
  deriving DecidableEq, Inhabited, Repr

/-- The greatest page size, unless pages may have any size. -/
def QuerySettings.pageCap (s : QuerySettings) : Option UInt64 :=
  if s.maxPageSize = 0 then none else some s.maxPageSize

/-- How the database is reached. -/
structure DatabaseSettings where
  /-- The address of the database. -/
  url : String := ""
  /-- The greatest number of connections. -/
  maxConnections : UInt32 := 5
  /-- The number of connections that are kept open. -/
  minConnections : UInt32 := 0
  /-- How long to wait for a connection, in seconds. -/
  connectionTimeout : UInt64 := 10
  deriving DecidableEq, Inhabited, Repr

/-- How events are logged. -/
structure LoggingSettings where
  /-- The filter of the log. -/
  level : String := "info"
  /-- The log is written as JSON. -/
  json : Bool := false
  deriving DecidableEq, Inhabited, Repr

/-- All settings. -/
structure Settings where
  /-- How queries are made. -/
  query : QuerySettings := {}
  /-- How the database is reached. -/
  database : DatabaseSettings := {}
  /-- How events are logged. -/
  logging : LoggingSettings := {}
  deriving DecidableEq, Inhabited, Repr

namespace Settings

/-- The JSON form of the query section. -/
def queryJson (s : QuerySettings) : Json := .ofFields
  [("max_page_size", .int s.maxPageSize.toNat), ("queries_dir", .text s.queriesDir),
    ("log_statements", .bool s.logStatements)]

/-- The JSON form of the database section. -/
def databaseJson (s : DatabaseSettings) : Json := .ofFields
  [("url", .text s.url), ("max_connections", .int s.maxConnections.toNat),
    ("min_connections", .int s.minConnections.toNat),
    ("connection_timeout_secs", .int s.connectionTimeout.toNat)]

/-- The JSON form of the logging section. -/
def loggingJson (s : LoggingSettings) : Json := .ofFields
  [("level", .text s.level), ("json", .bool s.json)]

/-- The JSON form of all settings. -/
def toJson (s : Settings) : Json := .ofFields
  [("query", queryJson s.query), ("database", databaseJson s.database),
    ("logging", loggingJson s.logging)]

end Settings

end TableQuery
