import SchemaCompiler.Artifact.Code
import SchemaCompiler.Artifact.Payload

/-!
# Column descriptors

One file with a module for every entity: a constant for each column, and tables
of the columns, indexes, checks and enumerated values.
-/

namespace SchemaCompiler.ColumnsFile

open Code

/-- The names that a module uses for its own constants. -/
def reservedNames : List String := ["TABLE", "ALL", "PRIMARY_KEY", "COLUMNS", "INDEXES", "CHECKS"]

def columnConstantName (column : Column) : String :=
  let name := constantName column.name
  if reservedNames.contains name then name ++ "_COLUMN" else name

def columnConstant (column : Column) : Constant :=
  { docs := column.comment.toList
    name := columnConstantName column
    type := "&str"
    value := .inline (Text.quoted column.name) }

def descriptor (column : Column) : List String :=
  block "Column" [
    "name: " ++ Text.quoted column.name ++ ",",
    "sql_type: " ++ Text.quoted column.sqlType ++ ",",
    "nullable: " ++ boolLiteral column.isNullable ++ ",",
    "primary_key: " ++ boolLiteral column.isPrimaryKey ++ ",",
    "unique: " ++ boolLiteral column.isUnique ++ ",",
    "auto_increment: " ++ boolLiteral column.isAutoIncrement ++ ",",
    "default: " ++ optionLiteral column.default ++ ",",
    "references: " ++ optionLiteral (column.foreignKey.map (·.text)) ++ ","] ","

def indexDescriptor (index : Index) : String :=
  "Index " ++ braced ("name: " ++ Text.quoted index.name ++ ", columns: " ++ slice index.columns ++
    ", unique: " ++ boolLiteral index.isUnique) ++ ","

def checkExpressions (entity : Entity) : List String :=
  entity.constraints.filterMap fun constraint =>
    match constraint.kind with
    | .check _ expression => some expression
    | _ => none

def enumConstant? (constraint : Constraint) : Option Constant :=
  match constraint.kind with
  | .enumeration column values =>
    some {
      docs := ["Allowed values of `" ++ column ++ "`"]
      name := constantName column ++ "_VALUES"
      type := "&[&str]"
      value := .inline (slice values) }
  | _ => none

/-- The constants of an entity's module, in the groups that empty lines part. -/
def constantGroups (entity : Entity) : List (List Constant) :=
  [ { name := "TABLE", type := "&str", value := .inline (Text.quoted entity.table) } ::
      entity.columns.map columnConstant,
    [ { name := "PRIMARY_KEY", type := "&[&str]", value := .inline (slice entity.primaryKeys) },
      { name := "ALL", type := "&[&str]", value := .inline (slice entity.columnNames) } ],
    [ { name := "COLUMNS", type := "&[Column]",
        value := .items (entity.columns.flatMap descriptor) } ],
    [ { name := "INDEXES", type := "&[Index]",
        value := .items (entity.indexes.map indexDescriptor) } ],
    [ { name := "CHECKS", type := "&[&str]",
        value := .inline (slice (checkExpressions entity)) } ] ]
  ++ (entity.constraints.filterMap enumConstant?).map fun constant => [constant]

def entityModule (entity : Entity) : List String :=
  ("/// `" ++ entity.table ++ "` (" ++ entity.name ++ ")") ::
    block ("pub mod " ++ identifier (Naming.snake entity.name))
      (paragraphs (["use super::" ++ opening ++ "Column, Index" ++ closing ++ ";"] ::
        (constantGroups entity).map (·.flatMap Constant.lines)))

def derive : String := "#[derive(Debug, Clone, Copy, PartialEq, Eq)]"

def columnType : List String :=
  "/// Static description of one column." :: derive :: block "pub struct Column" [
    "pub name: &'static str,",
    "pub sql_type: &'static str,",
    "pub nullable: bool,",
    "pub primary_key: bool,",
    "pub unique: bool,",
    "pub auto_increment: bool,",
    "pub default: Option<&'static str>,",
    "/// `table.column` this column references",
    "pub references: Option<&'static str>,"]

def indexType : List String :=
  "/// Static description of one index." :: derive :: block "pub struct Index" [
    "pub name: &'static str,",
    "pub columns: &'static [&'static str],",
    "pub unique: bool,"]

def body (model : Model) : List (List String) :=
  ["//! Column descriptors for every entity."] :: columnType :: indexType ::
    model.entities.map entityModule

end SchemaCompiler.ColumnsFile
