import Retention.Database.Locator

/-! # Dialects

A scheme names a dialect, and behind a plus sign a member of it. Only members that are drivers make an engine, and of
these only the ones whose modules are at hand.
-/

namespace Retention.Database

/-- What an engine with a driver works on: a store that it keeps itself, or a server, to which a concurrent driver holds many
connections at once. -/
inductive Driver where
  | embedded
  | server (isConcurrent : Bool)
  deriving DecidableEq, Repr

/-- What a name stands for in a dialect: a driver, a driver that lacks a module, a module, a type, a value of a type, or one
of the things that only name what they do not have. -/
inductive Member where
  | driver (driver : Driver)
  | lacking (module : String)
  | module (path : String)
  | type (name : String)
  | value (typeName : String)
  | terse
  deriving DecidableEq, Repr

/-- The members of a dialect by name. The base is the driver used by default. -/
structure Dialect where
  name : String
  members : List (String × Member)
  deriving Repr

inductive NoDriver where
  | manyMembers
  | unknown (name : String)
  | notADriver (member : Member)
  | lacks (module : String)
  deriving DecidableEq, Repr

namespace Dialect

def drivers (driver : Driver) (names : List String) : List (String × Member) :=
  names.map fun name => (name, .driver driver)

def lacking (name module : String) : String × Member := (name, .lacking module)

def modules (package : String) (names : List String) : List (String × Member) :=
  names.map fun name => (name, .module (package ++ "." ++ name))

def types (names : List String) : List (String × Member) :=
  names.map fun name => (name, .type name)

def values (typeName : String) (names : List String) : List (String × Member) :=
  names.map fun name => (name, .value typeName)

def terse (names : List String) : List (String × Member) :=
  names.map fun name => (name, .terse)

/-- The names that every module has, wherever it comes from. -/
def commonMembers : List (String × Member) :=
  values "dict" ["__annotations__", "__dict__"] ++ values "str" ["__name__", "__package__"] ++
  values "method-wrapper" ["__delattr__", "__eq__", "__ge__", "__getattribute__", "__gt__", "__hash__", "__init__",
    "__le__", "__lt__", "__ne__", "__repr__", "__setattr__", "__str__"] ++
  values "builtin_function_or_method" ["__dir__", "__format__", "__getstate__", "__init_subclass__", "__new__",
    "__reduce__", "__reduce_ex__", "__sizeof__", "__subclasshook__"] ++
  [("__class__", .type "module"), ("__doc__", .value "NoneType"), ("__spec__", .value "ModuleSpec")]

def moduleMembers : List (String × Member) :=
  commonMembers ++ values "str" ["__cached__", "__file__"] ++
    [("__builtins__", .value "dict"), ("__loader__", .value "SourceFileLoader")]

def packageMembers : List (String × Member) :=
  moduleMembers ++ [("__path__", .value "list"), ("__all__", .value "tuple")]

def sqlite : Dialect where
  name := "sqlite"
  members := drivers .embedded ["base", "pysqlite"] ++
    [lacking "aiosqlite" "aiosqlite", lacking "pysqlcipher" "pysqlcipher3"] ++
    modules "sqlalchemy.dialects.sqlite" ["dml", "json"] ++
    types ["BLOB", "BOOLEAN", "CHAR", "DATE", "DATETIME", "DECIMAL", "FLOAT", "INTEGER", "JSON", "JSONB", "NUMERIC", "REAL",
      "SMALLINT", "TEXT", "TIME", "TIMESTAMP", "VARCHAR", "Insert"] ++
    [("insert", .value "function"), ("dialect", .type "SQLiteDialect_pysqlite")] ++ packageMembers

def postgresql : Dialect where
  name := "postgresql"
  members := drivers (.server false) ["base", "psycopg"] ++ drivers (.server true) ["psycopg_async"] ++
    [lacking "psycopg2" "psycopg2", lacking "psycopg2cffi" "psycopg2cffi", lacking "asyncpg" "asyncpg",
      lacking "pg8000" "pg8000"] ++
    modules "sqlalchemy.dialects.postgresql" ["_psycopg_common", "bitstring", "dml", "ext", "json", "named_types",
      "operators", "pg_catalog", "ranges", "types"] ++
    [("arraylib", .module "sqlalchemy.dialects.postgresql.array")] ++
    types ["ARRAY", "array", "BIGINT", "BIT", "BOOLEAN", "BYTEA", "CHAR", "CIDR", "CITEXT", "DATE", "DOMAIN",
      "DOUBLE_PRECISION", "ENUM", "FLOAT", "HSTORE", "hstore", "INET", "INTEGER", "INTERVAL", "JSON", "JSONB", "JSONPATH",
      "MACADDR", "MACADDR8", "MONEY", "NUMERIC", "OID", "REAL", "REGCLASS", "REGCONFIG", "SMALLINT", "TEXT", "TIME",
      "TIMESTAMP", "TSQUERY", "TSVECTOR", "UUID", "VARCHAR", "DATEMULTIRANGE", "DATERANGE", "INT4MULTIRANGE",
      "INT4RANGE", "INT8MULTIRANGE", "INT8RANGE", "MultiRange", "NUMMULTIRANGE", "NUMRANGE", "Range", "TSMULTIRANGE",
      "TSRANGE", "TSTZMULTIRANGE", "TSTZRANGE", "AbstractMultiRange", "AbstractRange", "AbstractSingleRange", "BitString",
      "CreateDomainType", "CreateEnumType", "DropDomainType", "DropEnumType", "NamedType", "ExcludeConstraint", "Insert",
      "aggregate_order_by", "phraseto_tsquery", "plainto_tsquery", "to_tsquery", "to_tsvector", "ts_headline",
      "websearch_to_tsquery"] ++
    values "function" ["All", "Any", "array_agg", "distinct_on", "insert"] ++
    [("ModuleType", .type "module"), ("dialect", .type "PGDialect_psycopg")] ++ packageMembers

/-- The drivers of the two dialects that share a package, and its modules. -/
def mysqlDrivers : List (String × Member) :=
  [lacking "base" "MySQLdb", lacking "mysqldb" "MySQLdb", lacking "pymysql" "pymysql", lacking "mysqlconnector" "mysql",
    lacking "mariadbconnector" "mariadb", lacking "asyncmy" "asyncmy", lacking "aiomysql" "aiomysql",
    lacking "cymysql" "cymysql", lacking "pyodbc" "pyodbc"] ++
  modules "sqlalchemy.dialects.mysql" ["_mariadb_shim", "dml", "enumerated", "expression", "json", "mariadb", "reflection",
    "reserved_words", "types"]

def mysql : Dialect where
  name := "mysql"
  members := mysqlDrivers ++
    types ["BIGINT", "BINARY", "BIT", "BLOB", "BOOLEAN", "CHAR", "DATE", "DATETIME", "DECIMAL", "DOUBLE", "ENUM", "FLOAT",
      "INET4", "INET6", "INTEGER", "JSON", "LONGBLOB", "LONGTEXT", "MEDIUMBLOB", "MEDIUMINT", "MEDIUMTEXT", "NCHAR",
      "NUMERIC", "NVARCHAR", "REAL", "SET", "SMALLINT", "TEXT", "TIME", "TIMESTAMP", "TINYBLOB", "TINYINT", "TINYTEXT",
      "VARBINARY", "VARCHAR", "YEAR", "Insert", "match"] ++
    values "function" ["insert", "limit"] ++ [("dialect", .type "MySQLDialect_mysqldb")] ++ packageMembers

def mariadb : Dialect where
  name := "mariadb"
  members := mysqlDrivers

def oracle : Dialect where
  name := "oracle"
  members := [lacking "base" "oracledb", lacking "oracledb" "oracledb", lacking "oracledb_async" "oracledb",
      lacking "cx_oracle" "cx_Oracle"] ++
    modules "sqlalchemy.dialects.oracle" ["dictionary", "json", "types", "vector"] ++
    types ["BFILE", "BINARY_DOUBLE", "BINARY_FLOAT", "BLOB", "BOOLEAN", "CHAR", "CLOB", "DATE", "DOUBLE_PRECISION", "FLOAT",
      "INTERVAL", "JSON", "LONG", "NCHAR", "NCLOB", "NUMBER", "NVARCHAR", "RAW", "REAL", "ROWID", "TIMESTAMP", "VARCHAR",
      "VARCHAR2", "VECTOR", "SparseVector", "VectorIndexConfig"] ++
    terse ["VectorDistanceType", "VectorIndexType", "VectorStorageFormat", "VectorStorageType"] ++
    [("NVARCHAR2", .type "NVARCHAR"), ("ModuleType", .type "module"), ("dialect", .type "OracleDialect_oracledb")] ++
    packageMembers

def mssql : Dialect where
  name := "mssql"
  members := [lacking "base" "pyodbc", lacking "pyodbc" "pyodbc", lacking "pymssql" "pymssql",
      lacking "aioodbc" "aioodbc", lacking "mssqlpython" "mssql_python"] ++
    modules "sqlalchemy.dialects.mssql" ["information_schema", "json"] ++
    types ["BIGINT", "BINARY", "BIT", "CHAR", "DATE", "DATETIME", "DATETIME2", "DATETIMEOFFSET", "DECIMAL",
      "DOUBLE_PRECISION", "FLOAT", "IMAGE", "INTEGER", "JSON", "MONEY", "NCHAR", "NTEXT", "NUMERIC", "NVARCHAR", "REAL",
      "ROWVERSION", "SMALLDATETIME", "SMALLINT", "SMALLMONEY", "SQL_VARIANT", "TEXT", "TIME", "TIMESTAMP", "TINYINT",
      "UNIQUEIDENTIFIER", "VARBINARY", "VARCHAR", "XML"] ++
    [("try_cast", .value "function"), ("dialect", .type "MSDialect_pyodbc")] ++ packageMembers

/-- A module beside the dialects that has members but no driver. -/
def typing : Dialect where
  name := "_typing"
  members := types ["Any", "Column", "ColumnCollection", "ColumnCollectionConstraint", "Index", "Iterable", "Mapping"] ++
    terse ["Optional", "Union", "_OnConflictConstraintT", "_OnConflictIndexElementsT", "_OnConflictIndexWhereT",
      "_OnConflictSetT", "_OnConflictWhereT"] ++
    [("annotations", .value "_Feature"), ("roles", .module "sqlalchemy.sql.roles")] ++ moduleMembers

def package : Dialect where
  name := "__init__"
  members := types ["Any", "Callable"] ++ values "PluginLoader" ["plugins", "registry"] ++
    [("TYPE_CHECKING", .value "bool"), ("Type", .type "type"), ("Optional", .terse), ("_auto_fn", .value "function"),
      ("annotations", .value "_Feature"), ("util", .module "sqlalchemy.util"), ("__all__", .value "tuple")] ++ moduleMembers

/-- The directory of what is kept of modules, which is a package without a file. -/
def caches : Dialect where
  name := "__pycache__"
  members := commonMembers ++
    [("__file__", .value "NoneType"), ("__loader__", .value "NamespaceLoader"), ("__path__", .value "_NamespacePath")]

def all : List Dialect :=
  [sqlite, postgresql, mysql, mariadb, oracle, mssql, typing, package, caches]

def driverOf : Member → Except NoDriver Driver
  | .driver driver => .ok driver
  | .lacking module => .error (.lacks module)
  | member => .error (.notADriver member)

/-- The driver of a scheme, which is the base if no member is named. -/
def ofScheme (scheme : List Char) : Except NoDriver Driver :=
  let name := String.ofList (scheme.map fun c => if c = '+' then '.' else c)
  match Text.splitOn '+' scheme with
  | _ :: _ :: _ :: _ => .error .manyMembers
  | dialect :: member =>
    let memberName := String.ofList (member.headD "base".toList)
    match all.find? (·.name == String.ofList dialect) with
    | none => .error (.unknown name)
    | some d =>
      match d.members.find? (·.1 == memberName) with
      | none => .error (.unknown name)
      | some (_, member) => driverOf member
  | [] => .error (.unknown name)

end Dialect

def Member.complaint : Member → String
  | .type name => "type object '" ++ name ++ "' has no attribute 'dialect'"
  | .value typeName => "'" ++ typeName ++ "' object has no attribute 'dialect'"
  | .module path => "module '" ++ path ++ "' has no attribute 'dialect'"
  | _ => "dialect"

def NoDriver.toCause : NoDriver → Cause
  | .manyMembers => .mishap ⟨.value, "too many values to unpack (expected 2)"⟩
  | .unknown name => .driver ⟨.plugin, none, "Can't load plugin: sqlalchemy.dialects:" ++ name⟩
  | .notADriver member => .mishap ⟨.attribute, member.complaint⟩
  | .lacks module => .mishap ⟨.missingModule, "No module named '" ++ module ++ "'"⟩

end Retention.Database
