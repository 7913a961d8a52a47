import SchemaCompiler.Text.Blank
import SchemaCompiler.Text.Split

/-!
# Column types

A declared column type is a known base name, then optional parameters, then an
optional `unsigned`, then an optional array mark. Case does not matter.
-/

namespace SchemaCompiler.Sql

open Text

def baseTypes : List String := [
  "smallint", "integer", "int", "int2", "int4", "int8", "bigint", "tinyint", "mediumint",
  "serial", "smallserial", "bigserial", "real", "float", "float4", "float8", "double",
  "double precision", "decimal", "numeric", "money", "boolean", "bool", "bit", "char",
  "character", "varchar", "character varying", "nchar", "nvarchar", "text", "tinytext",
  "mediumtext", "longtext", "citext", "blob", "longblob", "bytea", "binary", "varbinary",
  "date", "time", "timetz", "datetime", "timestamp", "timestamptz", "timestamp with time zone",
  "timestamp without time zone", "interval", "year", "json", "jsonb", "uuid", "enum", "inet",
  "cidr", "macaddr", "xml"]

/-- Why a column type is refused; each names the type as declared. -/
inductive ColumnTypeError where
  | empty
  | unterminated (type : String)
  | noParameters (type : String)
  | unsupported (type : String)
deriving DecidableEq, Repr

def ColumnTypeError.message : ColumnTypeError → String
  | .empty => "column type is empty"
  | .unterminated type => "unterminated parameter list in type `" ++ type ++ "`"
  | .noParameters type => "empty parameter list in type `" ++ type ++ "`"
  | .unsupported type => "unsupported column type `" ++ type ++ "`"

/-- A text without `ending` and the blanks before it. -/
def withoutEnding (ending : String) (cs : List Char) : List Char :=
  trimEnd ((dropEnd? ending.toList cs).getD cs)

/-- The base name of a type, whose parameters must not be blank. -/
def baseName (type : String) (cs : List Char) : Except ColumnTypeError (List Char) :=
  match cut? '(' cs with
  | none => .ok cs
  | some (name, parameters) =>
    if parameters.getLast? ≠ some ')' then .error (.unterminated type)
    else if isBlankText parameters.dropLast then .error (.noParameters type)
    else .ok (trim name)

def validateColumnType (type : String) : Except ColumnTypeError Unit :=
  let lowered := (trim type.toList).map Char.toLower
  if lowered.isEmpty then .error .empty
  else match baseName type (withoutEnding "unsigned" (withoutEnding "[]" lowered)) with
    | .error e => .error e
    | .ok base => if baseTypes.contains (.ofList base) then .ok () else .error (.unsupported type)

end SchemaCompiler.Sql
