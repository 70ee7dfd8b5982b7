import TableQuery.Kind

/-!
# Errors

An error is a cause; its wording is a function of the cause.  There are four families:

* `ConfigurationError` — the program was put together wrongly: operators, tables, statements;
* `RequestError` — the request parameters do not make a query;
* `MappingError` — a row does not make a value of the target type;
* `DataSourceError` — the database failed, perhaps only for now.

`Error` is their sum, and `Error.isRetriable` says when it helps to try again.
-/

namespace TableQuery

/-! ## Configuration -/

/-- The kinds of configuration errors. -/
inductive ConfigurationKind where
  /-- No operator has this id. -/
  | unknownOperator
  /-- An operator has this id already. -/
  | duplicateOperator
  /-- The table has no base query. -/
  | missingDataTable
  /-- The type has no table. -/
  | unregisteredType
  /-- The type has a table already. -/
  | duplicateTable
  /-- A name or a column stands twice in a table. -/
  | duplicateProperty
  /-- Two values have one name. -/
  | parameterCollision
  /-- A placeholder has no value. -/
  | unboundParameter
  /-- A name is no identifier. -/
  | invalidIdentifier
  /-- A query file cannot be read. -/
  | unreadableQueryFile
  deriving DecidableEq, Repr

/-- The name of a kind. -/
def ConfigurationKind.name : ConfigurationKind → String
  | .unknownOperator => "unknown_operator"
  | .duplicateOperator => "duplicate_operator"
  | .missingDataTable => "missing_data_table"
  | .unregisteredType => "unregistered_type"
  | .duplicateTable => "duplicate_table"
  | .duplicateProperty => "duplicate_property"
  | .parameterCollision => "parameter_collision"
  | .unboundParameter => "unbound_parameter"
  | .invalidIdentifier => "invalid_identifier"
  | .unreadableQueryFile => "unreadable_query_file"

/-- What is wrong with operators, tables or statements. -/
inductive ConfigurationError where
  /-- No operator has this id. -/
  | unknownOperator (id : String)
  /-- An operator has this id already. -/
  | duplicateOperator (id : String)
  /-- The table of this type has no base query. -/
  | missingDataTable (typeName : String)
  /-- This type has no table. -/
  | unregisteredType (typeName : String)
  /-- This type has a table already. -/
  | duplicateTable (typeName : String)
  /-- The table of the type declares a property twice. -/
  | duplicateProperty (typeName property : String)
  /-- The table of the type has a column twice. -/
  | duplicateColumn (typeName column : String)
  /-- Two values have this name. -/
  | parameterCollision (key : String)
  /-- The placeholder of this name has no value. -/
  | unboundParameter (name : String)
  /-- The text is no identifier. -/
  | invalidIdentifier (text : String)
  /-- The query file at this path cannot be read. -/
  | unreadableQueryFile (path reason : String)
  /-- A cause that a user of the library states in words. -/
  | stated (kind : ConfigurationKind) (detail : String)
  deriving DecidableEq, Repr

namespace ConfigurationError

/-- The kind of a cause. -/
def kind : ConfigurationError → ConfigurationKind
  | .unknownOperator _ => .unknownOperator
  | .duplicateOperator _ => .duplicateOperator
  | .missingDataTable _ => .missingDataTable
  | .unregisteredType _ => .unregisteredType
  | .duplicateTable _ => .duplicateTable
  | .duplicateProperty _ _ => .duplicateProperty
  | .duplicateColumn _ _ => .duplicateProperty
  | .parameterCollision _ => .parameterCollision
  | .unboundParameter _ => .unboundParameter
  | .invalidIdentifier _ => .invalidIdentifier
  | .unreadableQueryFile _ _ => .unreadableQueryFile
  | .stated kind _ => kind

/-- The cause in words. -/
def detail : ConfigurationError → String
  | .unknownOperator id => "no filter operator registered for `" ++ id ++ "`"
  | .duplicateOperator id => "filter operator `" ++ id ++ "` is already registered"
  | .missingDataTable typeName => "`" ++ typeName ++ "` declares no data table"
  | .unregisteredType typeName =>
    "`" ++ typeName ++ "` is not registered with the property resolver"
  | .duplicateTable typeName => "`" ++ typeName ++ "` is already registered"
  | .duplicateProperty typeName property =>
    "`" ++ typeName ++ "` declares property `" ++ property ++ "` twice"
  | .duplicateColumn typeName column =>
    "`" ++ typeName ++ "` maps column `" ++ column ++ "` twice"
  | .parameterCollision key => "parameter `" ++ key ++ "` is bound more than once"
  | .unboundParameter name => "no value bound for parameter `:" ++ name ++ "`"
  | .invalidIdentifier text => "`" ++ text ++ "` is not a valid SQL identifier"
  | .unreadableQueryFile path reason => "failed to read query file " ++ path ++ ": " ++ reason
  | .stated _ detail => detail

/-- The wording of the error. -/
def message (e : ConfigurationError) : String :=
  "Configuration " ++ e.kind.name ++ " error: " ++ e.detail

end ConfigurationError

/-! ## Requests -/

/-- What is wrong with the parameters of a request. -/
inductive RequestError where
  /-- A page or a size is no natural number of sixty-four bits. -/
  | notACount (key raw : String)
  /-- An order has no such direction. -/
  | unknownDirection (raw : String)
  /-- An order names no property. -/
  | unknownOrder (name : String)
  /-- A filter is no pair of a property and an operator. -/
  | notAPair (raw : String)
  /-- A filter has no operator after its comma. -/
  | noOperator (raw : String)
  /-- A filter names no property. -/
  | unknownFilter (name : String)
  /-- The text of a property does not write a value of its kind. -/
  | unreadable (property : String) (cause : Kind.Unreadable)
  /-- A cause that a user of the library states in words. -/
  | stated (detail : String)
  deriving DecidableEq, Repr

namespace RequestError

/-- The cause in words. -/
def detail : RequestError → String
  | .notACount key raw => "`" ++ key ++ "` must be a non-negative integer, got `" ++ raw ++ "`"
  | .unknownDirection raw => "unknown sort direction `" ++ raw ++ "`"
  | .unknownOrder name => "cannot sort by unknown property `" ++ name ++ "`"
  | .notAPair raw => "filter `" ++ raw ++ "` must look like `property,operator`"
  | .noOperator raw => "filter `" ++ raw ++ "` names no operator"
  | .unknownFilter name => "cannot filter by unknown property `" ++ name ++ "`"
  | .unreadable property cause => "`" ++ property ++ "`: " ++ cause.message
  | .stated detail => detail

/-- The wording of the error. -/
def message (e : RequestError) : String := "Invalid query: " ++ e.detail

end RequestError

/-! ## Rows -/

/-- Why a row does not make a value of the target type. -/
structure MappingError where
  /-- The target type. -/
  typeName : String
  /-- The property or the place inside the value, unless it is the value as a whole. -/
  field : Option String
  /-- The cause in words. -/
  detail : String
  deriving DecidableEq, Repr

/-- The wording of the error. -/
def MappingError.message (e : MappingError) : String :=
  let place := match e.field with
    | none => ""
    | some field => " at `" ++ field ++ "`"
  "Failed to map row into `" ++ e.typeName ++ "`" ++ place ++ ": " ++ e.detail

/-! ## Data sources -/

/-- The kinds of failures of a data source. -/
inductive DataSourceKind where
  /-- There is no connection. -/
  | connectionFailed
  /-- No answer came in time. -/
  | timeout
  /-- The statement was refused. -/
  | queryFailed
  /-- The answer cannot be read. -/
  | decode
  /-- Any other failure. -/
  | other
  deriving DecidableEq, Repr

/-- The name of a kind. -/
def DataSourceKind.name : DataSourceKind → String
  | .connectionFailed => "connection_failed"
  | .timeout => "timeout"
  | .queryFailed => "query_failed"
  | .decode => "decode"
  | .other => "other"

/-- A failure of a data source. -/
structure DataSourceError where
  /-- The kind of failure. -/
  kind : DataSourceKind
  /-- What the data source says about it. -/
  detail : String
  deriving DecidableEq, Repr

namespace DataSourceError

/-- The wording of the error. -/
def message (e : DataSourceError) : String :=
  "Data source " ++ e.kind.name ++ " error: " ++ e.detail

/-- A lost connection and a late answer may be gone at the next try. -/
def isRetriable (e : DataSourceError) : Bool :=
  match e.kind with
  | .connectionFailed | .timeout => true
  | _ => false

end DataSourceError

/-! ## The sum -/

/-- What may go wrong with a query. -/
inductive Error where
  /-- Operators, tables or statements. -/
  | configuration (cause : ConfigurationError)
  /-- The parameters of the request. -/
  | request (cause : RequestError)
  /-- A row. -/
  | mapping (cause : MappingError)
  | dataSource (cause : DataSourceError)
  deriving DecidableEq, Repr

namespace Error

/-- The wording of an error. -/
def message : Error → String
  | .configuration e => e.message
  | .request e => e.message
  | .mapping e => e.message
  | .dataSource e => e.message

/-- Only a data source may do better at the next try. -/
def isRetriable : Error → Bool
  | .dataSource e => e.isRetriable
  | _ => false

end Error

end TableQuery
