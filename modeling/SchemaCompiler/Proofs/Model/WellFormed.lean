import SchemaCompiler.Model.Validation

/-!
# Well-formed models

The conditions on the entities, relations and tables of a model, said without
the faults that a validation collects.
-/

namespace SchemaCompiler

open Sql

/-- The columns that join two entities are columns of the right sides. Join tables
are not part of a model. -/
def RelationField.Joins (entity target : Entity) (field : RelationField) : Prop :=
  match field.relationship.relation with
  | .belongsTo _ foreignKey targetKey =>
    foreignKey ∈ entity.columnNames ∧ targetKey ∈ target.columnNames
  | .hasOne _ foreignKey sourceKey | .hasMany _ foreignKey sourceKey =>
    foreignKey ∈ target.columnNames ∧ sourceKey ∈ entity.columnNames
  | .manyToMany .. => True

/-- The target is in the model and can be joined. -/
def RelationField.Resolves (model : Model) (entity : Entity) (field : RelationField) : Prop :=
  ∃ target ∈ model.entities,
    target.name = field.relationship.target ∧ field.Joins entity target

/-- A table of the model that is referred to has the column on one of its entities. -/
def Sql.ForeignKey.Resolves (model : Model) (reference : ForeignKey) : Prop :=
  (∃ user ∈ model.entities, user.table = reference.table) →
    ∃ owner ∈ model.entities,
      owner.table = reference.table ∧ reference.column ∈ owner.columnNames

structure Column.WellFormed (model : Model) (column : Column) : Prop where
  tag : ∀ diagnostic ∈ column.attributes.columnDiagnostics, diagnostic.severity ≠ .error
  reference : ∀ reference, column.foreignKey = some reference → reference.Resolves model

structure Entity.WellFormed (model : Model) (entity : Entity) : Prop where
  primaryKey : ∃ column ∈ entity.columns, column.isPrimaryKey
  tag : ∀ diagnostic ∈ entity.attributes.tableDiagnostics, diagnostic.severity ≠ .error
  indexColumns : ∀ (key : IndexKey) (value : String) (spec : IndexSpec),
    value ∈ entity.attributes.values key.name → IndexSpec.parse value = .ok spec →
      ∀ column ∈ spec.columns, column ∈ entity.columnNames
  distinctColumns : entity.columnNames.Nodup
  columns : ∀ column ∈ entity.columns, column.WellFormed model
  relations : ∀ field ∈ entity.relations, field.Resolves model entity

structure Model.WellFormed (model : Model) : Prop where
  entities : ∀ entity ∈ model.entities, entity.WellFormed model
  distinctTables : (model.entities.map (·.table)).Nodup
  tableNames : ∀ entity ∈ model.entities, isTableName entity.table
  distinctModules : (model.entities.map (·.moduleName)).Nodup

end SchemaCompiler
