import SchemaCompiler.Relation.Basic
import SchemaCompiler.Naming.Case

/-!
# Relationship tags

A relationship tag is `kind:Target,option:value,toggle`. Reading stops at the
first defect: of the head, then of the segments from left to right, then of the
options taken together. These are held in a map, so of several options that do not
apply the one is named that the order of the map has first.
-/

namespace SchemaCompiler

open Text

inductive RelationTagError where
  | emptyTag
  | missingKind (segment : String)
  | unknownKind (kind : String)
  | missingTarget (kind : RelationKind)
  | malformedOption (segment : String)
  | unknownOption (key : String)
  | unknownToken (token : String)
  | duplicateOption (key : String)
  | invalidDependent (value : String)
  | optionNotApplicable (key : String) (kind : RelationKind)
  | missingField (kind : RelationKind) (field : String)
deriving DecidableEq, Repr

def RelationTagError.message : RelationTagError → String
  | .emptyTag => "relationship tag is empty"
  | .missingKind segment => "first segment `" ++ segment ++ "` must be `kind:Target`"
  | .unknownKind kind =>
    "unknown relationship kind `" ++ kind ++
      "` (expected belongs_to, has_one, has_many or many_to_many)"
  | .missingTarget kind => kind.name ++ " relationship is missing its target entity"
  | .malformedOption segment => "malformed option segment `" ++ segment ++ "`"
  | .unknownOption key => "unknown relationship option `" ++ key ++ "`"
  | .unknownToken token => "unknown bare token `" ++ token ++ "`"
  | .duplicateOption key => "option `" ++ key ++ "` given more than once"
  | .invalidDependent value =>
    "invalid value `" ++ value ++
      "` for `dependent` (expected destroy, delete, nullify or restrict)"
  | .optionNotApplicable key kind =>
    "option `" ++ key ++ "` does not apply to " ++ kind.name ++ " relationships"
  | .missingField kind field => kind.name ++ " relationship requires `" ++ field ++ "`"

/-- An order in which a map gives its keys. Two maps with the same keys may differ in it. -/
structure MapOrder where
  arrange : List String → List String
  perm : ∀ keys, (arrange keys).Perm keys

/-- The order in which the keys were put into the map. -/
def MapOrder.asGiven : MapOrder where
  arrange keys := keys
  perm := List.Perm.refl

namespace Relationship

def optionKeys : List String := [
  "foreign_key", "source_key", "target_key", "join_table", "join_source_key",
  "join_target_key", "order_by", "dependent", "polymorphic", "through", "conditions"]

def sharedOptions : List String := ["order_by", "dependent", "polymorphic", "conditions"]

/-- The column a key refers to when the tag does not name it. -/
def identityColumn : String := "id"

/-- What the segments after the head say. -/
structure Settings where
  values : List (String × String) := []
  validate : Option Bool := none
  autosave : Option Bool := none
deriving DecidableEq, Repr

def parseHead (head : List Char) : Except RelationTagError (RelationKind × String) :=
  if head.isEmpty then .error .emptyTag
  else match cut? ':' head with
    | none => .error (.missingKind (.ofList head))
    | some (kind, target) =>
      let kindName := String.ofList (trim kind)
      match RelationKind.ofTag? kindName with
      | none => .error (.unknownKind kindName)
      | some kind =>
        let target := trim target
        if target.isEmpty then .error (.missingTarget kind) else .ok (kind, .ofList target)

def addOption (settings : Settings) (segment key value : String) :
    Except RelationTagError Settings :=
  if key = "" ∨ value = "" then .error (.malformedOption segment)
  else if key ∉ optionKeys then .error (.unknownOption key)
  else if (settings.values.lookup key).isSome then .error (.duplicateOption key)
  else .ok { settings with values := settings.values ++ [(key, value)] }

/-- The slot of a toggle with its setting in it. It can be filled only once. -/
def fill (name : String) (slot : Option Bool) (enabled : Bool) :
    Except RelationTagError (Option Bool) :=
  if slot.isSome then .error (.duplicateOption name) else .ok (some enabled)

def addToggle (settings : Settings) (token : String) : Except RelationTagError Settings := do
  match token with
  | "validate" => pure { settings with validate := ← fill "validate" settings.validate true }
  | "no_validate" => pure { settings with validate := ← fill "validate" settings.validate false }
  | "autosave" => pure { settings with autosave := ← fill "autosave" settings.autosave true }
  | "no_autosave" => pure { settings with autosave := ← fill "autosave" settings.autosave false }
  | token => .error (.unknownToken token)

/-- One trimmed segment, which is not empty. -/
def addSegment (settings : Settings) (segment : List Char) : Except RelationTagError Settings :=
  match cut? ':' segment with
  | some (key, value) =>
    addOption settings (.ofList segment) (.ofList (trim key)) (.ofList (trim value))
  | none => addToggle settings (.ofList segment)

def addSegments (settings : Settings) : List (List Char) → Except RelationTagError Settings
  | [] => .ok settings
  | segment :: rest =>
    match addSegment settings segment with
    | .error e => .error e
    | .ok settings => addSegments settings rest

def applies (kind : RelationKind) (key : String) : Bool :=
  sharedOptions.contains key || kind.ownOptions.contains key

/-- Refuses the first of the keys that the kind does not have. -/
def checkApplicable (kind : RelationKind) (keys : List String) : Except RelationTagError Unit :=
  match keys.find? (!applies kind ·) with
  | some key => .error (.optionNotApplicable key kind)
  | none => .ok ()

def parseDependent (values : List (String × String)) :
    Except RelationTagError (Option DependentAction) :=
  match values.lookup "dependent" with
  | none => .ok none
  | some value =>
    match DependentAction.ofName? value with
    | none => .error (.invalidDependent value)
    | some action => .ok (some action)

def required (kind : RelationKind) (values : List (String × String)) (field : String) :
    Except RelationTagError String :=
  match values.lookup field with
  | none => .error (.missingField kind field)
  | some value => .ok value

def identity (values : List (String × String)) (field : String) : String :=
  (values.lookup field).getD identityColumn

/-- The keys of a relation, with the defaults of those that may be left out. -/
def buildRelation (target : String) (values : List (String × String)) :
    RelationKind → Except RelationTagError Relation
  | .belongsTo =>
    let foreignKey := (values.lookup "foreign_key").getD (Naming.snake target ++ "_id")
    .ok (.belongsTo target foreignKey (identity values "target_key"))
  | .hasOne => do
    let foreignKey ← required .hasOne values "foreign_key"
    pure (.hasOne target foreignKey (identity values "source_key"))
  | .hasMany => do
    let foreignKey ← required .hasMany values "foreign_key"
    pure (.hasMany target foreignKey (identity values "source_key"))
  | .manyToMany => do
    let joinTable ← required .manyToMany values "join_table"
    let joinSourceKey ← required .manyToMany values "join_source_key"
    let joinTargetKey ← required .manyToMany values "join_target_key"
    pure (.manyToMany target joinTable joinSourceKey joinTargetKey
      (identity values "source_key") (identity values "target_key"))

def tagSegments (raw : String) : List (List Char) :=
  (pieces ',' raw.toList).map trim

def ofSegments (order : MapOrder) (head : List Char) (rest : List (List Char)) :
    Except RelationTagError Relationship := do
  let (kind, target) ← parseHead head
  let settings ← addSegments {} (rest.filter (!·.isEmpty))
  checkApplicable kind (order.arrange (settings.values.map (·.1)))
  let dependent ← parseDependent settings.values
  let relation ← buildRelation target settings.values kind
  pure {
    relation
    options := {
      orderBy := settings.values.lookup "order_by"
      dependent
      validate := settings.validate
      autosave := settings.autosave
      polymorphic := settings.values.lookup "polymorphic"
      through := settings.values.lookup "through"
      conditions := settings.values.lookup "conditions" } }

def parse (raw : String) (order : MapOrder := .asGiven) : Except RelationTagError Relationship :=
  match tagSegments raw with
  | [] => .error .emptyTag
  | head :: rest => ofSegments order head rest

end Relationship

end SchemaCompiler
