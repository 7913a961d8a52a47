import SchemaCompiler.Attributes
import SchemaCompiler.Declaration
import SchemaCompiler.Relation.Basic
import SchemaCompiler.Sql.Reference

/-!
# Entities

A persisted type with its table, columns, relations, indexes and constraints.
-/

namespace SchemaCompiler

structure Column where
  fieldName : String
  name : String
  declaredType : String
  sqlType : String
  /-- Whether the tag gives the column type. -/
  hasExplicitType : Bool
  isPointer : Bool
  isCollection : Bool
  isNullable : Bool
  isPrimaryKey : Bool
  isUnique : Bool
  isAutoIncrement : Bool
  default : Option String
  foreignKey : Option Sql.ForeignKey
  comment : Option String
  display : Option String
  attributes : Attributes
  line : Nat
deriving DecidableEq, Repr

structure RelationField where
  fieldName : String
  declaredType : String
  isPointer : Bool
  isCollection : Bool
  tag : String
  relationship : Relationship
  /-- The target's table, once it is resolved. -/
  targetTable : Option String := none
  display : Option String
  line : Nat
deriving DecidableEq, Repr

structure Index where
  name : String
  columns : List String
  isUnique : Bool
deriving DecidableEq, Repr

inductive ConstraintKind where
  /-- A check of one column, or of the table. -/
  | check (column : Option String) (expression : String)
  | foreignKey (column : String) (references : Sql.ForeignKey)
  | enumeration (column : String) (values : List String)
deriving DecidableEq, Repr

structure Constraint where
  name : String
  kind : ConstraintKind
deriving DecidableEq, Repr

structure Entity where
  name : String
  table : String
  /-- Whether the tag gives the table's name. -/
  hasExplicitTable : Bool
  file : String
  columns : List Column
  relations : List RelationField
  primaryKeys : List String
  indexes : List Index
  constraints : List Constraint
  attributes : Attributes
deriving DecidableEq, Repr

namespace Entity

def columnNames (entity : Entity) : List String :=
  entity.columns.map (·.name)

def column? (entity : Entity) (name : String) : Option Column :=
  entity.columns.find? (·.name = name)

def hasColumn (entity : Entity) (name : String) : Bool :=
  (entity.column? name).isSome

def hasRelations (entity : Entity) : Bool :=
  !entity.relations.isEmpty

end Entity

end SchemaCompiler
