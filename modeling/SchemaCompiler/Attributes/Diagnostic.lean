import SchemaCompiler.Attributes
import SchemaCompiler.Sql.Check
import SchemaCompiler.Sql.ColumnType
import SchemaCompiler.Sql.Reference

/-!
# Diagnostics of attribute tags

Which values of a column's or a table's tag are errors and which only deserve a
warning. An unknown key is a warning.
-/

namespace SchemaCompiler

open Sql

inductive Severity where
  | error
  | warning
deriving DecidableEq, Repr

inductive TagProblem where
  | flagWithValue (value : String)
  | columnName (value : String)
  | columnType (cause : ColumnTypeError)
  | default (cause : DefaultWarning)
  | valueRequired
  | foreignKey (cause : ForeignKeyError)
  | check (cause : CheckError)
  | enumeration (cause : EnumError)
  | size (value : String)
  | indexName (value : String)
  | indexSpec (cause : IndexSpecError)
  | unknownColumnKey
  | unknownTableKey
  | nullConflict
  | nullablePrimaryKey
deriving DecidableEq, Repr

/-- One finding about one key. -/
structure Diagnostic where
  key : String
  problem : TagProblem
deriving DecidableEq, Repr

def Diagnostic.severity (d : Diagnostic) : Severity :=
  match d.problem with
  | .flagWithValue _ | .default _ | .unknownColumnKey | .unknownTableKey => .warning
  | _ => .error

def Diagnostic.message (d : Diagnostic) : String :=
  match d.problem with
  | .flagWithValue value => "`" ++ d.key ++ "` is a flag; value `" ++ value ++ "` is ignored"
  | .columnName value => "invalid column name `" ++ value ++ "`"
  | .columnType cause => cause.message
  | .default cause => cause.message
  | .valueRequired => "`" ++ d.key ++ "` requires a value"
  | .foreignKey cause => cause.message
  | .check cause => cause.message
  | .enumeration cause => cause.message
  | .size value => "size must be a positive integer, got `" ++ value ++ "`"
  | .indexName value => "invalid index name `" ++ value ++ "`"
  | .indexSpec cause => cause.message
  | .unknownColumnKey => "unknown attribute `" ++ d.key ++ "`"
  | .unknownTableKey => "unknown table attribute `" ++ d.key ++ "`"
  | .nullConflict => "`null` and `not_null` are mutually exclusive"
  | .nullablePrimaryKey => "a primary key column cannot be nullable"

namespace Attributes

def columnKeys : List String := [
  "-", "primary_key", "column", "type", "unique", "not_null", "null", "default",
  "auto_increment", "index", "unique_index", "foreign_key", "check", "enum", "size", "comment"]

def flagKeys : List String := ["primary_key", "unique", "not_null", "null", "auto_increment"]

/-- The cause of a refused value, under its kind of problem. -/
def refusal (problem : ε → TagProblem) : Except ε α → List TagProblem
  | .ok _ => []
  | .error cause => [problem cause]

def requireValue (value : String) : List TagProblem :=
  if value = "" then [.valueRequired] else []

def sizeProblems (value : String) : List TagProblem :=
  match Text.word32? value.toList with
  | some (_ + 1) => []
  | _ => [.size value]

def columnProblems (key value : String) : List TagProblem :=
  if key = "-" then []
  else if flagKeys.contains key then if value = "" then [] else [.flagWithValue value]
  else match key with
  | "column" => if isIdentifier value then [] else [.columnName value]
  | "type" => refusal .columnType (validateColumnType value)
  | "default" => (checkDefault value).toList.map .default
  | "foreign_key" =>
    requireValue value ++
      (valuesOf value).flatMap fun v => refusal .foreignKey (ForeignKey.parse v)
  | "check" =>
    requireValue value ++ (valuesOf value).flatMap fun v => refusal .check (validateCheck v)
  | "enum" => refusal .enumeration (enumValues value)
  | "size" => sizeProblems value
  | "comment" => requireValue value
  | "index" | "unique_index" =>
    ((valuesOf value).filter (!isIdentifier ·)).map .indexName
  | _ => [.unknownColumnKey]

def tableProblems (key value : String) : List TagProblem :=
  match key with
  | "table" | "comment" => requireValue value
  | "index" | "unique_index" =>
    requireValue value ++ (valuesOf value).flatMap fun v => refusal .indexSpec (IndexSpec.parse v)
  | "check" =>
    requireValue value ++ (valuesOf value).flatMap fun v => refusal .check (validateCheck v)
  | _ => [.unknownTableKey]

def entryDiagnostics (problems : String → String → List TagProblem) (entry : String × String) :
    List Diagnostic :=
  (problems entry.1 entry.2).map fun problem => ⟨entry.1, problem⟩

def conflicts (attributes : Attributes) : List Diagnostic :=
  (if attributes.has "null" && attributes.has "not_null" then [⟨"null", .nullConflict⟩] else []) ++
  (if attributes.has "primary_key" && attributes.has "null" then
    [⟨"primary_key", .nullablePrimaryKey⟩] else [])

def columnDiagnostics (attributes : Attributes) : List Diagnostic :=
  attributes.entries.flatMap (entryDiagnostics columnProblems) ++ attributes.conflicts

def tableDiagnostics (attributes : Attributes) : List Diagnostic :=
  attributes.entries.flatMap (entryDiagnostics tableProblems)

end Attributes

end SchemaCompiler
