import SchemaCompiler.Attributes.Diagnostic
import SchemaCompiler.Model.Basic
import SchemaCompiler.Report

/-!
# Validation of models

All faults of a model: first those of each entity in turn, then duplicate
tables, duplicate modules and ill-formed table names. One fault never hides
another.
-/

namespace SchemaCompiler

open Sql

/-- The side of a relation that a key stands for. -/
inductive KeyRole where
  | foreign
  | target
  | source
deriving DecidableEq, Repr

def KeyRole.name : KeyRole → String
  | foreign => "foreign key"
  | target => "target key"
  | source => "source key"

inductive FaultKind where
  | noPrimaryKey
  | tag (diagnostic : Diagnostic)
  | unknownIndexColumn (key column : String)
  | duplicateColumn (column : String)
  | foreignTable (table : String)
  | unknownReference (reference : ForeignKey)
  | targetNotFound (target : String)
  | missingKey (role : KeyRole) (column owner : String)
  | notCollection (kind : RelationKind)
  | collection (kind : RelationKind)
  | typeDiffers (declared target : String)
  | duplicateTable (table : String) (entities : List String)
  | duplicateModule (name : String) (entities : List String)
  | badExplicitTable (table : String)
  | badDerivedTable (table entity : String)
deriving DecidableEq, Repr

def FaultKind.severity : FaultKind → Severity
  | tag diagnostic => diagnostic.severity
  | foreignTable _ | notCollection _ | collection _ | typeDiffers .. => .warning
  | _ => .error

def FaultKind.message : FaultKind → String
  | noPrimaryKey => "no primary key defined"
  | tag diagnostic => diagnostic.message
  | unknownIndexColumn key column => key ++ " references unknown column `" ++ column ++ "`"
  | duplicateColumn column => "duplicate column name `" ++ column ++ "`"
  | foreignTable table => "foreign key references table `" ++ table ++ "` outside the model"
  | unknownReference reference =>
    "foreign key references unknown column `" ++ reference.text ++ "`"
  | targetNotFound target => "relationship target `" ++ target ++ "` not found"
  | missingKey role column owner =>
    role.name ++ " column `" ++ column ++ "` not found on " ++ owner
  | notCollection kind => kind.name ++ " field is not a collection"
  | collection kind => kind.name ++ " field is a collection"
  | typeDiffers declared target =>
    "field type `" ++ declared ++ "` differs from relationship target `" ++ target ++ "`"
  | duplicateTable table entities =>
    "duplicate table name `" ++ table ++ "` declared by " ++ Text.join ", " entities
  | duplicateModule name entities =>
    "duplicate module name `" ++ name ++ "` derived from " ++ Text.join ", " entities
  | badExplicitTable table =>
    "invalid table name `" ++ table ++ "`: use lower-case words joined by single underscores"
  | badDerivedTable table entity =>
    "invalid table name `" ++ table ++ "` derived from `" ++ entity ++
      "`: declare one with `table:`"

/-- A fault at its place. The field is empty for a fault of the whole entity. -/
structure Fault where
  entity : String
  field : String
  kind : FaultKind
deriving DecidableEq, Repr

def Fault.issue (fault : Fault) : Issue :=
  ⟨fault.entity, fault.field, fault.kind.message⟩

-- ---------------------------------------------------------------------------
-- Faults of one entity
-- ---------------------------------------------------------------------------

namespace Entity

def primaryKeyFaults (entity : Entity) : List FaultKind :=
  if entity.primaryKeys.isEmpty then [.noPrimaryKey] else []

def declaredIndexColumns (entity : Entity) (key : IndexKey) : List String :=
  (entity.attributes.values key.name).flatMap fun value =>
    match IndexSpec.parse value with
    | .ok spec => spec.columns
    | .error _ => []

def indexFaults (entity : Entity) : List FaultKind :=
  IndexKey.all.flatMap fun key =>
    ((entity.declaredIndexColumns key).filter (!entity.hasColumn ·)).map
      (.unknownIndexColumn key.name)

def tableFaults (entity : Entity) : List FaultKind :=
  entity.primaryKeyFaults ++ entity.attributes.tableDiagnostics.map .tag ++ entity.indexFaults

end Entity

namespace Column

def duplicateFaults (seen : List String) (column : Column) : List FaultKind :=
  if column.name ∈ seen then [.duplicateColumn column.name] else []

def referenceFaults (model : Model) (column : Column) : List FaultKind :=
  match column.foreignKey with
  | none => []
  | some reference =>
    match model.usersOf reference.table with
    | [] => [.foreignTable reference.table]
    | users =>
      if users.any (·.hasColumn reference.column) then [] else [.unknownReference reference]

def faults (model : Model) (seen : List String) (column : Column) : List FaultKind :=
  column.duplicateFaults seen ++ column.attributes.columnDiagnostics.map .tag ++
    column.referenceFaults model

end Column

/-- The faults of columns after those whose names were `seen`. -/
def columnFaults (model : Model) (entity : String) (seen : List String) :
    List Column → List Fault
  | [] => []
  | column :: rest =>
    (column.faults model seen).map (⟨entity, column.fieldName, ·⟩) ++
      columnFaults model entity (seen ++ [column.name]) rest

def requireColumn (owner : Entity) (column : String) (role : KeyRole) : List FaultKind :=
  if owner.hasColumn column then [] else [.missingKey role column owner.name]

namespace RelationField

/-- The columns of a join table are not checked. -/
def keyFaults (entity target : Entity) (field : RelationField) : List FaultKind :=
  match field.relationship.relation with
  | .belongsTo _ foreignKey targetKey =>
    requireColumn entity foreignKey .foreign ++ requireColumn target targetKey .target
  | .hasOne _ foreignKey sourceKey | .hasMany _ foreignKey sourceKey =>
    requireColumn target foreignKey .foreign ++ requireColumn entity sourceKey .source
  | .manyToMany .. => []

def shapeFaults (field : RelationField) : List FaultKind :=
  let kind := field.relationship.kind
  if kind.isToMany && !field.isCollection then [.notCollection kind]
  else if !kind.isToMany && field.isCollection then [.collection kind]
  else []

def typeFaults (field : RelationField) : List FaultKind :=
  let target := field.relationship.target
  if field.relationship.kind ≠ .manyToMany ∧
      String.ofList (Text.lastName field.declaredType.toList) ≠ target then
    [.typeDiffers field.declaredType target]
  else []

def faults (model : Model) (entity : Entity) (field : RelationField) : List FaultKind :=
  match model.get? field.relationship.target with
  | none => [.targetNotFound field.relationship.target]
  | some target => field.keyFaults entity target ++ field.shapeFaults ++ field.typeFaults

end RelationField

def Entity.faults (model : Model) (entity : Entity) : List Fault :=
  entity.tableFaults.map (⟨entity.name, "", ·⟩) ++
  columnFaults model entity.name [] entity.columns ++
  entity.relations.flatMap fun field =>
    (field.faults model entity).map (⟨entity.name, field.fieldName, ·⟩)

-- ---------------------------------------------------------------------------
-- Faults of the whole model
-- ---------------------------------------------------------------------------

/-- Words of lowercase letters and digits, joined by single underscores. -/
def isTableName (name : String) : Bool :=
  (Text.pieces '_' name.toList).all fun word =>
    !word.isEmpty && word.all fun c => c.isLower || c.isDigit

/-- Adds a name to the group of its key, which keeps the place of its first. -/
def addToGroup (key name : String) : List (String × List String) → List (String × List String)
  | [] => [(key, [name])]
  | (k, names) :: rest =>
    if k = key then (k, names ++ [name]) :: rest else (k, names) :: addToGroup key name rest

/-- The names of entities by a key, in the order in which the keys first occur. -/
def groupNames (key : Entity → String) (entities : List Entity) : List (String × List String) :=
  entities.foldl (fun groups entity => addToGroup (key entity) entity.name groups) []

def groupFaults (kind : String → List String → FaultKind) (groups : List (String × List String)) :
    List Fault :=
  groups.filterMap fun (key, names) =>
    match names with
    | first :: _ :: _ => some ⟨first, "", kind key names⟩
    | _ => none

def Entity.moduleName (entity : Entity) : String :=
  Naming.snake entity.name

def Entity.tableNameFault? (entity : Entity) : Option Fault :=
  if isTableName entity.table then none
  else if entity.hasExplicitTable then
    some ⟨entity.name, "", .badExplicitTable entity.table⟩
  else some ⟨entity.name, "", .badDerivedTable entity.table entity.name⟩

namespace Model

def tableFaults (model : Model) : List Fault :=
  groupFaults .duplicateTable (groupNames (·.table) model.entities) ++
  groupFaults .duplicateModule (groupNames (·.moduleName) model.entities) ++
  model.entities.filterMap Entity.tableNameFault?

def faults (model : Model) : List Fault :=
  model.entities.flatMap (·.faults model) ++ model.tableFaults

def issues (model : Model) (severity : Severity) : List Issue :=
  (model.faults.filter (·.kind.severity = severity)).map Fault.issue

def validate (model : Model) : Report :=
  ⟨model.issues .error, model.issues .warning⟩

end Model

end SchemaCompiler
