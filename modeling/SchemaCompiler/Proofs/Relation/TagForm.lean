import Mathlib.Data.List.Forall2
import SchemaCompiler.Relation.Tag

/-!
# The form of relationship tags

What a tag has to be to be read, what it then says, and which of its defects comes
first. A tag is taken as a whole here, and not in the steps in which it is read.
-/

namespace SchemaCompiler

/-- The options that a kind has no defaults for, in the order in which they are missed. -/
def RelationKind.requiredOptions : RelationKind → List String
  | belongsTo => []
  | hasOne | hasMany => ["foreign_key"]
  | manyToMany => ["join_table", "join_source_key", "join_target_key"]

namespace Relationship

open Text

-- ---------------------------------------------------------------------------
-- Segments
-- ---------------------------------------------------------------------------

/-- The first segment of a tag, trimmed. -/
def headSegment (raw : String) : List Char :=
  (tagSegments raw).headD []

/-- The segments after the first that are not blank, trimmed. -/
def laterSegments (raw : String) : List (List Char) :=
  (tagSegments raw).tail.filter (!·.isEmpty)

/-- A segment is `key:value`, where the key has no colon. Both are trimmed. -/
def IsPair (segment : List Char) (key value : String) : Prop :=
  ∃ before after, segment = before ++ ':' :: after ∧ ':' ∉ before ∧
    key = .ofList (trim before) ∧ value = .ofList (trim after)

/-- A first segment with a kind that is known and a target. -/
def NamesTarget (head : List Char) (kind : RelationKind) (target : String) : Prop :=
  ∃ name, IsPair head name target ∧ RelationKind.ofTag? name = some kind ∧ target ≠ ""

/-- What a later segment may say. -/
inductive Setting where
  | option (key value : String)
  | validate (enabled : Bool)
  | autosave (enabled : Bool)
deriving DecidableEq, Repr

/-- What a tag may speak of only once. -/
inductive Subject where
  | option (key : String)
  | validate
  | autosave
deriving DecidableEq, Repr

def Subject.name : Subject → String
  | option key => key
  | validate => "validate"
  | autosave => "autosave"

namespace Setting

def subject : Setting → Subject
  | option key _ => .option key
  | validate _ => .validate
  | autosave _ => .autosave

def pair? : Setting → Option (String × String)
  | option key value => some (key, value)
  | _ => none

def validate? : Setting → Option Bool
  | validate enabled => some enabled
  | _ => none

def autosave? : Setting → Option Bool
  | autosave enabled => some enabled
  | _ => none

end Setting

def toggles : List (String × Setting) := [
  ("validate", .validate true), ("no_validate", .validate false),
  ("autosave", .autosave true), ("no_autosave", .autosave false)]

inductive Gives : List Char → Setting → Prop
  | option {segment : List Char} {key value : String} (pair : IsPair segment key value)
      (known : key ∈ optionKeys) (filled : value ≠ "") : Gives segment (.option key value)
  | toggle {name : String} {setting : Setting} (known : (name, setting) ∈ toggles) :
      Gives name.toList setting

/-- Every segment says something, and no two speak of the same. -/
structure GivesAll (segments : List (List Char)) (said : List Setting) : Prop where
  each : List.Forall₂ Gives segments said
  once : (said.map Setting.subject).Nodup

-- ---------------------------------------------------------------------------
-- Tags that are read
-- ---------------------------------------------------------------------------

structure TagForm (raw : String) (kind : RelationKind) (target : String) (said : List Setting) :
    Prop where
  head : NamesTarget (headSegment raw) kind target
  later : GivesAll (laterSegments raw) said

def given (said : List Setting) (key : String) : Option String :=
  (said.filterMap Setting.pair?).lookup key

def Applies (kind : RelationKind) (key : String) : Prop :=
  key ∈ sharedOptions ∨ key ∈ kind.ownOptions

def AllApply (kind : RelationKind) (said : List Setting) : Prop :=
  ∀ key value, .option key value ∈ said → Applies kind key

/-- An option that is given and does not apply to the kind. -/
structure Stray (kind : RelationKind) (said : List Setting) (key : String) : Prop where
  holds : ∃ value, .option key value ∈ said
  strange : ¬ Applies kind key

def KnownDependent (said : List Setting) : Prop :=
  ∀ value, given said "dependent" = some value →
    ∃ action, DependentAction.ofName? value = some action

def Readable (raw : String) : Prop :=
  ∃ kind target said, TagForm raw kind target said ∧ AllApply kind said ∧ KnownDependent said ∧
    ∀ key ∈ kind.requiredOptions, ∃ value, given said key = some value

/-- A relation with the keys that are given, and the defaults of the others. -/
inductive Keyed (said : List Setting) (target : String) : Relation → Prop
  | belongsTo :
      Keyed said target (.belongsTo target
        ((given said "foreign_key").getD (Naming.snake target ++ "_id"))
        ((given said "target_key").getD "id"))
  | hasOne {foreignKey : String} (foreign : given said "foreign_key" = some foreignKey) :
      Keyed said target (.hasOne target foreignKey ((given said "source_key").getD "id"))
  | hasMany {foreignKey : String} (foreign : given said "foreign_key" = some foreignKey) :
      Keyed said target (.hasMany target foreignKey ((given said "source_key").getD "id"))
  | manyToMany {joinTable joinSourceKey joinTargetKey : String}
      (table : given said "join_table" = some joinTable)
      (source : given said "join_source_key" = some joinSourceKey)
      (other : given said "join_target_key" = some joinTargetKey) :
      Keyed said target (.manyToMany target joinTable joinSourceKey joinTargetKey
        ((given said "source_key").getD "id") ((given said "target_key").getD "id"))

structure Describes (said : List Setting) (target : String) (r : Relationship) : Prop where
  keys : Keyed said target r.relation
  orderBy : r.options.orderBy = given said "order_by"
  dependent : r.options.dependent.map (·.name) = given said "dependent"
  validate : r.options.validate = said.findSome? Setting.validate?
  autosave : r.options.autosave = said.findSome? Setting.autosave?
  polymorphic : r.options.polymorphic = given said "polymorphic"
  through : r.options.through = given said "through"
  conditions : r.options.conditions = given said "conditions"

-- ---------------------------------------------------------------------------
-- Defects
-- ---------------------------------------------------------------------------

inductive HeadDefect : List Char → RelationTagError → Prop
  | empty : HeadDefect [] .emptyTag
  | unpaired {head : List Char} (filled : head ≠ []) (unpaired : ':' ∉ head) :
      HeadDefect head (.missingKind (.ofList head))
  | unknownKind {head : List Char} {name target : String} (pair : IsPair head name target)
      (unknown : RelationKind.ofTag? name = none) : HeadDefect head (.unknownKind name)
  | noTarget {head : List Char} {name : String} {kind : RelationKind} (pair : IsPair head name "")
      (known : RelationKind.ofTag? name = some kind) : HeadDefect head (.missingTarget kind)

/-- The defect of a segment after those that `said` something. -/
inductive SegmentDefect (said : List Setting) : List Char → RelationTagError → Prop
  | halfEmpty {segment : List Char} {key value : String} (pair : IsPair segment key value)
      (empty : key = "" ∨ value = "") :
      SegmentDefect said segment (.malformedOption (.ofList segment))
  | unknownOption {segment : List Char} {key value : String} (pair : IsPair segment key value)
      (named : key ≠ "") (filled : value ≠ "") (unknown : key ∉ optionKeys) :
      SegmentDefect said segment (.unknownOption key)
  | unknownToken {segment : List Char} (unpaired : ':' ∉ segment)
      (unknown : String.ofList segment ∉ toggles.map Prod.fst) :
      SegmentDefect said segment (.unknownToken (.ofList segment))
  | repeated {segment : List Char} {setting : Setting} (fine : Gives segment setting)
      (before : setting.subject ∈ said.map Setting.subject) :
      SegmentDefect said segment (.duplicateOption setting.subject.name)

/-- The first defect of a tag: of its head, then of its leftmost bad segment, then an
option that does not apply, then a dependent action that is not known, then the first
required option that is missing. Of several options that do not apply none is first. -/
inductive FirstDefect (raw : String) : RelationTagError → Prop
  | head {e : RelationTagError} (defect : HeadDefect (headSegment raw) e) : FirstDefect raw e
  | segment {kind : RelationKind} {target : String} {said : List Setting} {segment : List Char}
      {before after : List (List Char)} {e : RelationTagError}
      (head : NamesTarget (headSegment raw) kind target)
      (place : laterSegments raw = before ++ segment :: after) (fine : GivesAll before said)
      (defect : SegmentDefect said segment e) : FirstDefect raw e
  | inapplicable {kind : RelationKind} {target key value : String} {said : List Setting}
      (form : TagForm raw kind target said) (holds : .option key value ∈ said)
      (strange : ¬ Applies kind key) : FirstDefect raw (.optionNotApplicable key kind)
  | dependent {kind : RelationKind} {target value : String} {said : List Setting}
      (form : TagForm raw kind target said) (apply : AllApply kind said)
      (holds : given said "dependent" = some value)
      (unknown : DependentAction.ofName? value = none) : FirstDefect raw (.invalidDependent value)
  | missing {kind : RelationKind} {target key : String} {said : List Setting}
      {before after : List String} (form : TagForm raw kind target said)
      (apply : AllApply kind said) (known : KnownDependent said)
      (order : kind.requiredOptions = before ++ key :: after)
      (fine : ∀ k ∈ before, ∃ value, given said k = some value) (lacks : given said key = none) :
      FirstDefect raw (.missingField kind key)

/-- Outcomes of one text that are the same but for which option they name, where several do
not apply. -/
inductive SameReading (raw : String) :
    Except RelationTagError Relationship → Except RelationTagError Relationship → Prop
  | same (outcome) : SameReading raw outcome outcome
  | strays {kind target said key other} (form : TagForm raw kind target said)
      (first : Stray kind said key) (second : Stray kind said other) :
      SameReading raw (.error (.optionNotApplicable key kind))
        (.error (.optionNotApplicable other kind))

end Relationship

end SchemaCompiler
