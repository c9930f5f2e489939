import DumpSummary.Dialect.Basic
import DumpSummary.Sql.Syntax

/-!
# The words for types

Which words and phrases name a built-in type.  Most are the same in every dialect; a dialect may add words and
may give a common word a meaning of its own.

## Contents

* `TypeWord`: what a word stands for;
* `commonTypes`, `ownTypes`: the words of all dialects and of one;
* `typeWord?`: the type that a word names.
-/

namespace DumpSummary.Sql

/-- What a word for a type stands for. -/
inductive TypeWord
  /-- A type with parameters of sizes. -/
  | sized (kind : TypeKind)
  /-- A type whose parameters are its members. -/
  | members (kind : TypeKind)
  /-- Arrays. -/
  | array
  /-- A type made of other types. -/
  | nested (name : String)
  /-- A type made of named fields. -/
  | struct
  /-- Lengths of time. -/
  | interval
  /-- The name of a kind of database object, which takes no parameters. -/
  | object (name : String)

/-- The types that are spelled like their words in every dialect. -/
def plainTypes : List String :=
  ["BIT", "MEDIUMINT", "JSON", "JSONB", "BPCHAR", "DATE", "TIME", "INET", "IPADDRESS", "IPPREFIX", "GEOGRAPHY",
    "GEOMETRY", "VARIANT", "INT4RANGE", "INT4MULTIRANGE", "INT8RANGE", "INT8MULTIRANGE", "NUMRANGE",
    "NUMMULTIRANGE", "TSRANGE", "TSMULTIRANGE", "TSTZRANGE", "TSTZMULTIRANGE", "DATERANGE", "DATEMULTIRANGE",
    "DECFLOAT", "BIGDECIMAL", "INT128", "INT256", "UINT128", "UINT256", "TIMESTAMP_S", "TIMESTAMP_MS",
    "TIMESTAMP_NS", "TIMESTAMPNTZ", "HLLSKETCH", "SUPER"]

/-- The words for types that all dialects share. -/
def commonTypes : List (String × TypeKind) :=
  [("TINYINT", .tinyInt), ("INT1", .tinyInt), ("BYTE", .tinyInt), ("INT8", .tinyInt),
    ("SMALLINT", .smallInt), ("INT2", .smallInt), ("INT16", .smallInt), ("SHORT", .smallInt),
    ("INT", .int), ("INTEGER", .int), ("INT4", .int), ("INT32", .int),
    ("BIGINT", .bigInt), ("INT64", .bigInt), ("LONG", .bigInt), ("UINT", .unsigned "INT"),
    ("REAL", .float), ("FLOAT", .float), ("FLOAT4", .float),
    ("FLOAT8", .double), ("DOUBLE", .double), ("DOUBLE PRECISION", .double),
    ("DECIMAL", .decimal), ("DEC", .decimal), ("NUMERIC", .decimal), ("NUMBER", .decimal), ("FIXED", .decimal),
    ("BOOL", .boolean), ("BOOLEAN", .boolean),
    ("CHAR", .char), ("CHARACTER", .char), ("NCHAR", .nchar),
    ("VARCHAR", .varchar), ("VARCHAR2", .varchar), ("CHAR VARYING", .varchar), ("CHARACTER VARYING", .varchar),
    ("NVARCHAR", .nvarchar), ("NVARCHAR2", .nvarchar),
    ("TEXT", .text), ("STRING", .text), ("STR", .text), ("CLOB", .text), ("LONGVARCHAR", .text),
    ("TINYTEXT", .sizedText "TINYTEXT"), ("MEDIUMTEXT", .sizedText "MEDIUMTEXT"),
    ("LONGTEXT", .sizedText "LONGTEXT"),
    ("BINARY", .binary), ("VARBINARY", .varbinary), ("BYTEA", .varbinary), ("BLOB", .varbinary),
    ("TINYBLOB", .sizedBlob "TINYBLOB"), ("MEDIUMBLOB", .sizedBlob "MEDIUMBLOB"),
    ("LONGBLOB", .sizedBlob "LONGBLOB"),
    ("TIMETZ", .timeWithZone), ("DATETIME", .dateTime), ("TIMESTAMP", .timestamp),
    ("TIMESTAMPTZ", .timestampWithZone), ("TIMESTAMPLTZ", .timestampWithLocalZone),
    ("TIMESTAMP_LTZ", .timestampWithLocalZone), ("TIMESTAMP_NTZ", .plain "TIMESTAMPNTZ"), ("UUID", .uuid),
    ("HUGEINT", .plain "INT128"), ("UHUGEINT", .plain "UINT128"), ("BIGNUMERIC", .plain "BIGDECIMAL")]

/-- The words for types that one dialect adds or gives another meaning. -/
def ownTypes : Dialect → List (String × TypeKind)
  | .mysql => [("YEAR", .plain "YEAR"), ("SERIAL", .plain "SERIAL"), ("BLOB", .plain "BLOB"), ("SIGNED", .bigInt),
      ("SIGNED INTEGER", .bigInt), ("UNSIGNED", .unsigned "BIGINT"), ("UNSIGNED INTEGER", .unsigned "BIGINT")]
  | .postgres => [("INT8", .bigInt), ("FLOAT", .double), ("SERIAL", .plain "SERIAL"),
      ("BIGSERIAL", .plain "BIGSERIAL"), ("SMALLSERIAL", .plain "SMALLSERIAL"), ("MONEY", .plain "MONEY"),
      ("HSTORE", .plain "HSTORE"), ("POINT", .plain "POINT"), ("NAME", .plain "NAME"), ("XML", .plain "XML")]
  | .sqlServer => [("TIMESTAMP", .rowVersion), ("ROWVERSION", .rowVersion), ("TINYINT", .unsigned "TINYINT"),
      ("MONEY", .plain "MONEY"), ("SMALLMONEY", .plain "SMALLMONEY"), ("XML", .plain "XML"),
      ("UNIQUEIDENTIFIER", .uuid), ("SQL_VARIANT", .plain "SQL_VARIANT"), ("DATETIME2", .plain "DATETIME2"),
      ("SMALLDATETIME", .plain "SMALLDATETIME"), ("DATETIMEOFFSET", .timestampWithZone), ("NTEXT", .ntext),
      ("IMAGE", .plain "IMAGE")]
  | .oracle => [("BINARY_FLOAT", .float), ("BINARY_DOUBLE", .double)]
  | _ => []

/-- The names of kinds of database object in PostgreSQL. -/
def objectTypes : List String :=
  ["OID", "REGCLASS", "REGCOLLATION", "REGCONFIG", "REGDICTIONARY", "REGNAMESPACE", "REGOPER", "REGOPERATOR",
    "REGPROC", "REGPROCEDURE", "REGROLE", "REGTYPE"]

/-- What a word or phrase, in capitals, stands for as a type. -/
def typeWord? (d : Dialect) (key : String) : Option TypeWord :=
  match (ownTypes d).lookup key with
  | some kind => some (.sized kind)
  | none =>
    if key = "ENUM" then some (.members .enum)
    else if key = "SET" then if d = .mysql then some (.members (.plain "SET")) else none
    else if key = "ARRAY" then some .array
    else if key = "MAP" then some (.nested "MAP")
    else if key = "STRUCT" then some .struct
    else if key = "INTERVAL" then some .interval
    else if objectTypes.contains key then if d = .postgres then some (.object key) else none
    else match commonTypes.lookup key with
      | some kind => some (.sized kind)
      | none => if plainTypes.contains key then some (.sized (.plain key)) else none

end DumpSummary.Sql
