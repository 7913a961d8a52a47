import SchemaCompiler.Artifact.Code
import SchemaCompiler.Artifact.Payload
import SchemaCompiler.Sql.Statement

/-!
# Relationship loaders

One file with a module for every entity that has relations. A loader selects the
rows on the other side of a relation by the key of the owning row, the only
parameter. A dependent statement is run before the owner is deleted.
-/

namespace SchemaCompiler.RelationsFile

open Code Sql

def targetTable (field : RelationField) (target : Entity) : String :=
  field.targetTable.getD target.table

/-- The condition that a row belongs to an owner of this type of entity. -/
def ownerTypeConditions (entity : Entity) (field : RelationField) : List Condition :=
  field.relationship.options.polymorphic.toList.map fun stem =>
    .equalsText (stem ++ "_type") entity.name

def keyConditions (entity : Entity) (field : RelationField) : List Condition :=
  match field.relationship.relation with
  | .belongsTo _ _ targetKey => [.equals targetKey 1]
  | .hasOne _ foreignKey _ | .hasMany _ foreignKey _ =>
    .equals foreignKey 1 :: ownerTypeConditions entity field
  | .manyToMany _ _ joinSourceKey _ _ _ => [.equals ("j." ++ joinSourceKey) 1]

def conditions (entity : Entity) (field : RelationField) : List Condition :=
  keyConditions entity field ++
    field.relationship.options.conditions.toList.map .verbatim

def loaderColumns (field : RelationField) (target : Entity) : List String :=
  match field.relationship.relation with
  | .manyToMany .. => target.columnNames.map ("t." ++ ·)
  | _ => target.columnNames

def loaderSource (field : RelationField) (target : Entity) : String :=
  let table := targetTable field target
  match field.relationship.relation with
  | .manyToMany _ joinTable _ joinTargetKey _ targetKey =>
    table ++ " t INNER JOIN " ++ joinTable ++ " j ON j." ++ joinTargetKey ++ " = t." ++ targetKey
  | _ => table

def loader (entity : Entity) (field : RelationField) (target : Entity) : Statement :=
  .select (loaderColumns field target) (loaderSource field target) (conditions entity field)
    field.relationship.options.orderBy (!field.relationship.kind.isToMany)

def loaderDoc (entity : Entity) (field : RelationField) (target : Entity) : String :=
  match field.relationship.relation with
  | .belongsTo _ foreignKey _ =>
    "belongs_to " ++ target.name ++ " via `" ++ entity.table ++ "." ++ foreignKey ++ "`"
  | .hasOne _ foreignKey sourceKey | .hasMany _ foreignKey sourceKey =>
    field.relationship.kind.name ++ " " ++ target.name ++ " via `" ++
      targetTable field target ++ "." ++ foreignKey ++ "` (key: `" ++ sourceKey ++ "`)"
  | .manyToMany _ joinTable .. =>
    "many_to_many " ++ target.name ++ " through `" ++ joinTable ++ "`"

/-- A dependent statement and what its constant's name ends with. -/
structure Dependent where
  ending : String
  statement : Statement

def dependentOn (action : DependentAction) (table foreignKey : String) : Dependent :=
  match action with
  | .destroy | .delete => ⟨"DEPENDENT", .delete table [.equals foreignKey 1]⟩
  | .nullify => ⟨"DEPENDENT", .update table [.null foreignKey] [.equals foreignKey 1]⟩
  | .restrict => ⟨"DEPENDENT_COUNT", .count table [.equals foreignKey 1]⟩

/-- Nothing depends on the owner of a to-one relation that holds the key itself. -/
def dependent? (action : DependentAction) (field : RelationField) (target : Entity) :
    Option Dependent :=
  match field.relationship.relation with
  | .belongsTo .. => none
  | .hasOne _ foreignKey _ | .hasMany _ foreignKey _ =>
    some (dependentOn action (targetTable field target) foreignKey)
  | .manyToMany _ joinTable joinSourceKey _ _ _ =>
    some ⟨"DEPENDENT", .delete joinTable [.equals joinSourceKey 1]⟩

def statementConstant (docs : List String) (name : String) (statement : Statement) : Constant :=
  { docs, name, type := "&str", value := .inline (Text.quoted statement.text) }

def loaderConstant (entity : Entity) (field : RelationField) (target : Entity) : Constant :=
  statementConstant
    (loaderDoc entity field target ::
      field.relationship.options.through.toList.map fun through => "Through `" ++ through ++ "`")
    (constantName field.fieldName) (loader entity field target)

def dependentConstant? (field : RelationField) (target : Entity) : Option Constant :=
  field.relationship.options.dependent.bind fun action =>
    (dependent? action field target).map fun dependent =>
      statementConstant ["Run before deleting the owner (dependent: " ++ action.name ++ ")"]
        (constantName field.fieldName ++ "_" ++ dependent.ending) dependent.statement

/-- The constants of one relation, whose target must be in the model. -/
def relationConstants (model : Model) (entity : Entity) (field : RelationField) :
    Except TemplateError (List Constant) :=
  match model.get? field.relationship.target with
  | none =>
    .error (.targetNotFound entity.name field.fieldName field.relationship.target)
  | some target =>
    .ok (loaderConstant entity field target :: (dependentConstant? field target).toList)

def moduleConstants (model : Model) (entity : Entity) :
    Except TemplateError (List (List Constant)) :=
  entity.relations.mapM (relationConstants model entity)

def moduleLines (entity : Entity) (groups : List (List Constant)) : List String :=
  ("/// Relationships of `" ++ entity.table ++ "` (" ++ entity.name ++ ")") ::
    block ("pub mod " ++ identifier (Naming.snake entity.name))
      (paragraphs (groups.map (·.flatMap Constant.lines)))

def entityModule (model : Model) (entity : Entity) : Except TemplateError (List String) := do
  pure (moduleLines entity (← moduleConstants model entity))

def body (model : Model) : Except TemplateError (List (List String)) := do
  let modules ← model.withRelations.mapM (entityModule model)
  pure (["//! Relationship loaders. Every statement takes the owning row's key as `$1`."] ::
    modules)

end SchemaCompiler.RelationsFile
