import CatalogDdl.ColumnType.Name

/-!
# The built-in type mapping

Every source type has a target type. Most names have a fixed target; some depend on the length, the
precision or the scale of the column; the interval and timestamp families are recognised by a part
of the name; any other type becomes a text.

- `TypeAttributes`: the three numbers of a column.
- `TypeFamily`: how the target of a family of names depends on them.
- `builtinType`: the display form of the source type, which override rules are matched with, and the
  target type.
-/

namespace CatalogDdl

/-- The three numbers of a column. -/
structure TypeAttributes where
  length : Int
  precision : Int
  scale : Int
  deriving DecidableEq, Repr

/-- The display form of a source type and the target type. -/
structure TypeMapping where
  origin : String
  target : String
  deriving DecidableEq, Repr

/-- How a target type depends on the numbers of a column. -/
inductive TypeFamily where
  /-- Not at all. -/
  | fixed (target : String)
  /-- Numbers of given precision and scale. -/
  | number
  /-- One type below length 256, another from there on. -/
  | character (short long : String)
  /-- A type of the same length. -/
  | varying (target : String)
  /-- A type of the same length for a source type displayed without it. -/
  | unsized (target : String)
  /-- Binary strings. -/
  | raw
  /-- Binary floating point numbers, which have single precision unless one is given. -/
  | float
  /-- Decimals, displayed with precision and scale if they have any. -/
  | decimal
  /-- Decimals, always displayed with precision and scale. -/
  | numeric
  deriving DecidableEq, Repr

/-- The families by the names of their types. -/
def typeFamilies : List (String × TypeFamily) := [
  ("NUMBER", .number),
  ("CHAR", .character "CHAR" "VARCHAR"),
  ("CHARACTER", .character "CHARACTER" "VARCHAR"),
  ("NCHAR", .character "NCHAR" "NVARCHAR"),
  ("VARCHAR2", .varying "VARCHAR"),
  ("VARCHAR", .varying "VARCHAR"),
  ("NVARCHAR2", .varying "NVARCHAR"),
  ("NCHAR VARYING", .unsized "NCHAR VARYING"),
  ("UROWID", .unsized "VARCHAR"),
  ("RAW", .raw),
  ("FLOAT", .float),
  ("DECIMAL", .decimal),
  ("NUMERIC", .numeric),
  ("CLOB", .fixed "LONGTEXT"),
  ("NCLOB", .fixed "TEXT"),
  ("BLOB", .fixed "BLOB"),
  ("LONG", .fixed "LONGTEXT"),
  ("LONG RAW", .fixed "LONGBLOB"),
  ("BFILE", .fixed "VARCHAR(255)"),
  ("DATE", .fixed "DATETIME"),
  ("BINARY_FLOAT", .fixed "DOUBLE"),
  ("BINARY_DOUBLE", .fixed "DOUBLE"),
  ("REAL", .fixed "DOUBLE"),
  ("DOUBLE PRECISION", .fixed "DOUBLE"),
  ("INTEGER", .fixed "INT"),
  ("SMALLINT", .fixed "DECIMAL(38)"),
  ("ROWID", .fixed "CHAR(10)"),
  ("XMLTYPE", .fixed "LONGTEXT")]

/-- A type with one parameter. -/
def withParameter (name : String) (n : Int) : String := name ++ "(" ++ toString n ++ ")"

/-- A type with two parameters. -/
def withParameters (name : String) (m n : Int) : String :=
  name ++ "(" ++ toString m ++ "," ++ toString n ++ ")"

/-- The type that holds the integers of a given decimal precision. -/
def integerType (precision : Int) : String :=
  if 1 ≤ precision && precision ≤ 2 then "TINYINT"
  else if 3 ≤ precision && precision ≤ 4 then "SMALLINT"
  else if 5 ≤ precision && precision ≤ 8 then "INT"
  else if 9 ≤ precision && precision ≤ 18 then "BIGINT"
  else if 19 ≤ precision && precision ≤ 38 then withParameter "DECIMAL" precision
  else withParameters "DECIMAL" precision 4

/-- The mapping of numbers. A scale that is not positive makes them integers. -/
def numberType (precision scale : Int) : TypeMapping :=
  if 0 < scale then
    ⟨withParameters "NUMBER" precision scale, withParameters "DECIMAL" precision scale⟩
  else if precision = 0 then ⟨"NUMBER", "DECIMAL(65,30)"⟩
  else ⟨withParameter "NUMBER" precision, integerType precision⟩

/-- The mapping of a type of a family. -/
def TypeFamily.mapping (name : String) (a : TypeAttributes) : TypeFamily → TypeMapping
  | fixed target => ⟨name, target⟩
  | number => numberType a.precision a.scale
  | character short long =>
    ⟨withParameter name a.length, withParameter (if a.length < 256 then short else long) a.length⟩
  | varying target => ⟨withParameter name a.length, withParameter target a.length⟩
  | unsized target => ⟨name, withParameter target a.length⟩
  | raw =>
    ⟨withParameter "RAW" a.length,
      withParameter (if a.length < 256 then "BINARY" else "VARBINARY") a.length⟩
  | float => ⟨name, if a.precision = 0 then "FLOAT" else "DOUBLE"⟩
  | decimal =>
    if a.precision = 0 && a.scale = 0 then ⟨name, "DECIMAL"⟩
    else ⟨withParameters name a.precision a.scale, withParameters "DECIMAL" a.precision a.scale⟩
  | numeric =>
    ⟨withParameters name a.precision a.scale,
      if a.precision = 0 && a.scale = 0 then "DECIMAL"
      else withParameters "DECIMAL" a.precision a.scale⟩

/-- The number of digits that a timestamp keeps of a second. -/
def secondDigits (precision : Int) : Int := max 0 (min precision 6)

/-- The mapping of a type that belongs to no family: intervals, timestamps with and without a zone,
and everything else. -/
def recognisedType (name : String) (precision : Int) : TypeMapping :=
  if Text.contains name "INTERVAL" then ⟨name, "VARCHAR(30)"⟩
  else if Text.contains name "TIMESTAMP" then
    if Text.contains name "TIME ZONE" then ⟨name, withParameter "DATETIME" (secondDigits precision)⟩
    else ⟨name, withParameter "TIMESTAMP" (secondDigits precision)⟩
  else ⟨name, "TEXT"⟩

/-- The display form of a source type and its target type without override rules. -/
def builtinType (dataType : String) (a : TypeAttributes) : TypeMapping :=
  let name := TypeName.canonical (TypeName.normalize dataType)
  match typeFamilies.lookup name with
  | some family => family.mapping name a
  | none => recognisedType name a.precision

end CatalogDdl
