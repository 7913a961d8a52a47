/-!
# Declarations

The facts about one record type in source text: its name, its tags, and its
public fields.
-/

namespace SchemaCompiler

/-- A field's type without the pointers and collections around it. -/
structure TypeShape where
  base : String
  isPointer : Bool := false
  isCollection : Bool := false
deriving DecidableEq, Repr

structure Field where
  name : String
  type : TypeShape
  /-- The attribute tag. -/
  attributes : Option String := none
  /-- The relationship tag. -/
  relationship : Option String := none
  display : Option String := none
  line : Nat
deriving DecidableEq, Repr

def Field.isPersistent (field : Field) : Bool :=
  field.attributes.isSome || field.relationship.isSome

structure Declaration where
  name : String
  file : String
  line : Nat
  /-- The attribute tag of the whole type. -/
  table : Option String := none
  fields : List Field
deriving DecidableEq, Repr

/-- A declaration that carries no tag to persist it is an ordinary helper type. -/
def Declaration.isEntity (declaration : Declaration) : Bool :=
  declaration.table.isSome || declaration.fields.any Field.isPersistent

structure Failure where
  path : String
  message : String
deriving DecidableEq, Repr

end SchemaCompiler
