import SchemaCompiler.Artifact.Code
import SchemaCompiler.Artifact.Payload
import SchemaCompiler.Sql.Statement

/-!
# Repositories

One file for each entity with the statements on its rows. Columns that count up
by themselves are left to the database and read back.
-/

namespace SchemaCompiler.RepositoryFile

open Code Sql

/-- A statement under the name of its constant. -/
structure NamedStatement where
  name : String
  statement : Statement

def insertable (entity : Entity) : List String :=
  (entity.columns.filter (!·.isAutoIncrement)).map (·.name)

/-- The columns that an update sets. -/
def settable (entity : Entity) : List String :=
  (entity.columns.filter (!·.isPrimaryKey)).map (·.name)

/-- The columns by whose value alone a row is found. -/
def uniqueColumns (entity : Entity) : List Column :=
  entity.columns.filter fun column => column.isUnique && !column.isPrimaryKey

def update? (entity : Entity) : Option NamedStatement :=
  match settable entity with
  | [] => none
  | columns => some ⟨"UPDATE", .update entity.table (assignments columns)
      (equalities entity.primaryKeys (columns.length + 1))⟩

def keyStatements (entity : Entity) : List NamedStatement :=
  match entity.primaryKeys with
  | [] => []
  | keys =>
    ⟨"FIND_BY_PK", .selectWhere entity.columnNames entity.table (equalities keys 1)⟩ ::
      (update? entity).toList ++
      [⟨"DELETE", .delete entity.table (equalities keys 1)⟩]

def findByColumn (entity : Entity) (column : Column) : NamedStatement :=
  ⟨"FIND_BY_" ++ constantName column.name,
    .selectWhere entity.columnNames entity.table [.equals column.name 1]⟩

def statements (entity : Entity) : List NamedStatement :=
  [ ⟨"SELECT_ALL", .selectAll entity.columnNames entity.table⟩,
    ⟨"COUNT", .count entity.table []⟩,
    ⟨"INSERT", .insert entity.table (insertable entity) entity.columnNames⟩ ] ++
  keyStatements entity ++
  (uniqueColumns entity).map (findByColumn entity)

def NamedStatement.constant (s : NamedStatement) : Constant :=
  { name := s.name, type := "&'static str", value := .inline (Text.quoted s.statement.text) }

def tableConstants (entity : Entity) : List Constant :=
  [ { name := "TABLE", type := "&'static str", value := .inline (Text.quoted entity.table) },
    { name := "COLUMNS", type := "&'static [&'static str]",
      value := .inline (slice entity.columnNames) } ]

def constantGroups (entity : Entity) : List (List Constant) :=
  [tableConstants entity, (statements entity).map NamedStatement.constant]

def typeName (entity : Entity) : String :=
  Naming.pascal entity.name ++ "Repository"

def body (entity : Entity) : List (List String) :=
  [ ["//! Repository SQL for `" ++ entity.table ++ "` (" ++ entity.name ++ ")."],
    [ "/// CRUD statements for `" ++ entity.table ++
        "` rows. Placeholders are positional (`$1`, `$2`, ...).",
      "#[derive(Debug, Clone, Copy, Default)]",
      "pub struct " ++ typeName entity ++ ";" ],
    block ("impl " ++ typeName entity)
      (paragraphs ((constantGroups entity).map (·.flatMap Constant.lines))) ]

end SchemaCompiler.RepositoryFile
