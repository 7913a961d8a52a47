import SchemaCompiler.Source.Token
import SchemaCompiler.Source.TypeExpr

/-!
# Items

What a source file holds: records with their fields, modules with their items,
and that there are other items.
-/

namespace SchemaCompiler.Source

/-- What an attribute says behind its path. -/
inductive AttributeForm where
  | bare
  /-- A delimited list, with its word if it holds only one. -/
  | list (word? : Option String)
  /-- An equals sign and a string literal. -/
  | text (value : String)
  /-- An equals sign and any other value. -/
  | value
deriving DecidableEq, Repr

structure Attribute where
  path : String
  form : AttributeForm
deriving DecidableEq, Repr

inductive Visibility where
  | inherited
  | everywhere
  /-- Visible in a part of the program only. -/
  | restricted
deriving DecidableEq, Repr

structure RecordField where
  attributes : List Attribute
  visibility : Visibility
  name : Word
  line : Nat
  type : TypeExpr
deriving DecidableEq, Repr

structure Record where
  attributes : List Attribute
  name : Word
  line : Nat
  fields : List RecordField
deriving DecidableEq, Repr

inductive Items where
  | empty
  | record (record : Record) (rest : Items)
  | module (attributes : List Attribute) (items : Items) (rest : Items)
  /-- Any other item, also a structure without named fields or a module without items. -/
  | other (rest : Items)
deriving DecidableEq, Repr

end SchemaCompiler.Source
