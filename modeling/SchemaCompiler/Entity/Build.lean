import SchemaCompiler.Entity.Basic
import SchemaCompiler.Entity.SqlType
import SchemaCompiler.Naming.Inflection
import SchemaCompiler.TagCache

/-!
# Entities of declarations

First the tags of a declaration are read, in order, through the cache; this can
fail. Then the entity is put together from what the tags say. A field with a
relationship tag is a relation, a field whose attribute tag has the key `-` is
left out, and every other field is a column.
-/

namespace SchemaCompiler

open Sql

-- ---------------------------------------------------------------------------
-- Reading tags
-- ---------------------------------------------------------------------------

inductive TaggedField where
  | relation (field : Field) (tag : String) (relationship : Relationship)
  | column (field : Field) (attributes : Attributes)

/-- A relationship tag that is refused, and where it stands. -/
structure FieldTagError where
  entity : String
  field : String
  tag : String
  cause : RelationTagError
deriving DecidableEq, Repr

def FieldTagError.message (e : FieldTagError) : String :=
  "Invalid tag on " ++ e.entity ++ "." ++ e.field ++ " (`" ++ e.tag ++ "`): " ++ e.cause.message

def TagCache.readOptional (cache : TagCache) : Option String → Attributes × TagCache
  | none => ({}, cache)
  | some raw => cache.readAttributes raw

def TagCache.readField (cache : TagCache) (entity : String) (field : Field) :
    Except FieldTagError TaggedField × TagCache :=
  match field.relationship with
  | some tag =>
    match cache.readRelationship tag with
    | (.error cause, cache) => (.error ⟨entity, field.name, tag, cause⟩, cache)
    | (.ok relationship, cache) => (.ok (.relation field tag relationship), cache)
  | none =>
    let (attributes, cache) := cache.readOptional field.attributes
    (.ok (.column field attributes), cache)

def TagCache.readFields (cache : TagCache) (entity : String) :
    List Field → Except FieldTagError (List TaggedField) × TagCache
  | [] => (.ok [], cache)
  | field :: rest =>
    match cache.readField entity field with
    | (.error e, cache) => (.error e, cache)
    | (.ok tagged, cache) =>
      match cache.readFields entity rest with
      | (.error e, cache) => (.error e, cache)
      | (.ok more, cache) => (.ok (tagged :: more), cache)

-- ---------------------------------------------------------------------------
-- Columns and relations
-- ---------------------------------------------------------------------------

def Column.ofField (field : Field) (attributes : Attributes) : Column :=
  let isPrimaryKey := attributes.has "primary_key"
  { fieldName := field.name
    name := (attributes.value? "column").getD (Naming.snake field.name)
    declaredType := field.type.base
    sqlType :=
      match attributes.value? "type" with
      | some type => type
      | none =>
        if attributes.has "enum" then "text"
        else inferSqlType field.type.base field.type.isCollection
          ((attributes.value? "size").bind fun size => Text.word32? size.toList)
    hasExplicitType := (attributes.value? "type").isSome
    isPointer := field.type.isPointer
    isCollection := field.type.isCollection
    isNullable :=
      attributes.has "null" ||
        (field.type.isPointer && !attributes.has "not_null" && !isPrimaryKey)
    isPrimaryKey
    isUnique := attributes.has "unique"
    isAutoIncrement := attributes.has "auto_increment"
    default := attributes.value? "default"
    foreignKey :=
      (attributes.values "foreign_key").head?.bind fun value => (ForeignKey.parse value).toOption
    comment := attributes.value? "comment"
    display := field.display
    attributes
    line := field.line }

def RelationField.ofField (field : Field) (tag : String) (relationship : Relationship) :
    RelationField :=
  { fieldName := field.name
    declaredType := field.type.base
    isPointer := field.type.isPointer
    isCollection := field.type.isCollection
    tag
    relationship
    display := field.display
    line := field.line }

namespace TaggedField

def relation? : TaggedField → Option RelationField
  | relation field tag relationship => some (.ofField field tag relationship)
  | column .. => none

def column? : TaggedField → Option Column
  | relation .. => none
  | column field attributes =>
    if attributes.has "-" then none else some (.ofField field attributes)

end TaggedField

-- ---------------------------------------------------------------------------
-- Indexes
-- ---------------------------------------------------------------------------

inductive IndexKey where
  | index
  | uniqueIndex

namespace IndexKey

def name : IndexKey → String
  | index => "index"
  | uniqueIndex => "unique_index"

def isUnique : IndexKey → Bool
  | index => false
  | uniqueIndex => true

def mark : IndexKey → String
  | index => "idx"
  | uniqueIndex => "uq"

def all : List IndexKey := [index, uniqueIndex]

/-- The name of an index that is declared without one. -/
def defaultName (key : IndexKey) (table columns : String) : String :=
  key.mark ++ "_" ++ table ++ "_" ++ columns

end IndexKey

/-- The names under which a column is indexed by a key. -/
def Column.indexNames (table : String) (column : Column) (key : IndexKey) : List String :=
  if !column.attributes.has key.name then []
  else match column.attributes.values key.name with
    | [] => [key.defaultName table column.name]
    | names => names

/-- Columns under one name and uniqueness share an index. -/
def addToIndex (name column : String) (isUnique : Bool) : List Index → List Index
  | [] => [⟨name, [column], isUnique⟩]
  | index :: rest =>
    if index.name = name ∧ index.isUnique = isUnique then
      (if column ∈ index.columns then index
        else { index with columns := index.columns ++ [column] }) :: rest
    else index :: addToIndex name column isUnique rest

structure IndexEntry where
  name : String
  column : String
  isUnique : Bool

def Column.indexEntries (table : String) (column : Column) : List IndexEntry :=
  IndexKey.all.flatMap fun key =>
    (column.indexNames table key).map fun name => ⟨name, column.name, key.isUnique⟩

def columnIndexes (table : String) (columns : List Column) : List Index :=
  (columns.flatMap (·.indexEntries table)).foldl
    (fun indexes entry => addToIndex entry.name entry.column entry.isUnique indexes) []

/-- The indexes of a table's tag; a specification that is refused declares none. -/
def tableIndexes (table : String) (attributes : Attributes) : List Index :=
  IndexKey.all.flatMap fun key =>
    (attributes.values key.name).filterMap fun value =>
      (IndexSpec.parse value).toOption.map fun spec =>
        ⟨spec.name.getD (key.defaultName table (Text.join "_" spec.columns)), spec.columns,
          key.isUnique⟩

-- ---------------------------------------------------------------------------
-- Constraints
-- ---------------------------------------------------------------------------

/-- The first name stands alone, the others are numbered from two. -/
def numbered (base : String) (position : Nat) : String :=
  if position = 0 then base else base ++ "_" ++ toString (position + 1)

def checks (base : String) (column : Option String) (attributes : Attributes) :
    List Constraint :=
  (attributes.values "check").zipIdx.map fun (expression, position) =>
    ⟨numbered ("chk_" ++ base) position, .check column expression⟩

def Column.constraints (table : String) (column : Column) : List Constraint :=
  let base := table ++ "_" ++ column.name
  checks base (some column.name) column.attributes ++
  (column.foreignKey.toList.map fun references =>
    ⟨"fk_" ++ base, .foreignKey column.name references⟩) ++
  ((column.attributes.value? "enum").bind (enumValues · |>.toOption)).toList.map fun values =>
    ⟨"enum_" ++ base, .enumeration column.name values⟩

-- ---------------------------------------------------------------------------
-- Entities
-- ---------------------------------------------------------------------------

def Entity.assemble (declaration : Declaration) (attributes : Attributes)
    (fields : List TaggedField) : Entity :=
  let table := (attributes.value? "table").getD (Naming.tableName declaration.name)
  let columns := fields.filterMap TaggedField.column?
  { name := declaration.name
    table
    hasExplicitTable := (attributes.value? "table").isSome
    file := declaration.file
    columns
    relations := fields.filterMap TaggedField.relation?
    primaryKeys := (columns.filter (·.isPrimaryKey)).map (·.name)
    indexes := columnIndexes table columns ++ tableIndexes table attributes
    constraints := columns.flatMap (·.constraints table) ++ checks table none attributes
    attributes }

def Entity.build (cache : TagCache) (declaration : Declaration) :
    Except FieldTagError Entity × TagCache :=
  let (attributes, cache) := cache.readOptional declaration.table
  match cache.readFields declaration.name declaration.fields with
  | (.error e, cache) => (.error e, cache)
  | (.ok fields, cache) => (.ok (.assemble declaration attributes fields), cache)

end SchemaCompiler
