/-!
# Relations between entities

The four shapes of association, the keys each one has, and the options they
share.
-/

namespace SchemaCompiler

inductive RelationKind where
  /-- To one; this entity holds the foreign key. -/
  | belongsTo
  /-- To one; the target holds the foreign key. -/
  | hasOne
  /-- To many; the target holds the foreign key. -/
  | hasMany
  /-- To many, through a table that joins both. -/
  | manyToMany
deriving DecidableEq, Repr

namespace RelationKind

def name : RelationKind → String
  | belongsTo => "belongs_to"
  | hasOne => "has_one"
  | hasMany => "has_many"
  | manyToMany => "many_to_many"

def ofTag? : String → Option RelationKind
  | "belongs_to" => some belongsTo
  | "has_one" => some hasOne
  | "has_many" => some hasMany
  | "many_to_many" | "has_many_through" => some manyToMany
  | _ => none

def isToMany : RelationKind → Bool
  | hasMany | manyToMany => true
  | belongsTo | hasOne => false

/-- The options of a kind besides those that all kinds share. -/
def ownOptions : RelationKind → List String
  | belongsTo => ["foreign_key", "target_key"]
  | hasOne | hasMany => ["foreign_key", "source_key", "through"]
  | manyToMany =>
    ["join_table", "join_source_key", "join_target_key", "source_key", "target_key", "through"]

end RelationKind

/-- An association with all its keys. -/
inductive Relation where
  | belongsTo (target foreignKey targetKey : String)
  | hasOne (target foreignKey sourceKey : String)
  | hasMany (target foreignKey sourceKey : String)
  | manyToMany (target joinTable joinSourceKey joinTargetKey sourceKey targetKey : String)
deriving DecidableEq, Repr

namespace Relation

def kind : Relation → RelationKind
  | belongsTo .. => .belongsTo
  | hasOne .. => .hasOne
  | hasMany .. => .hasMany
  | manyToMany .. => .manyToMany

def target : Relation → String
  | belongsTo target .. | hasOne target .. | hasMany target .. | manyToMany target .. => target

end Relation

/-- What happens to dependent rows before their owner is removed. -/
inductive DependentAction where
  | destroy
  | delete
  | nullify
  | restrict
deriving DecidableEq, Repr

namespace DependentAction

def name : DependentAction → String
  | destroy => "destroy"
  | delete => "delete"
  | nullify => "nullify"
  | restrict => "restrict"

def ofName? : String → Option DependentAction
  | "destroy" => some destroy
  | "delete" => some delete
  | "nullify" => some nullify
  | "restrict" => some restrict
  | _ => none

def unknownMessage (name : String) : String :=
  "Unknown dependent action: " ++ name

end DependentAction

structure RelationOptions where
  orderBy : Option String := none
  dependent : Option DependentAction := none
  validate : Option Bool := none
  autosave : Option Bool := none
  polymorphic : Option String := none
  through : Option String := none
  conditions : Option String := none
deriving DecidableEq, Repr

/-- A relation and its options, as a relationship tag declares them. -/
structure Relationship where
  relation : Relation
  options : RelationOptions
deriving DecidableEq, Repr

namespace Relationship

def kind (r : Relationship) : RelationKind := r.relation.kind

def target (r : Relationship) : String := r.relation.target

end Relationship

end SchemaCompiler
