import SchemaCompiler.Entity.Build

/-!
# Models

The entities of one run in the order they were found, each name once. An index
gives the position of every name, so that an entity is found by its name.
-/

namespace SchemaCompiler

/-- The position of every name among entities. -/
def positionsOf (entities : List Entity) : List (String × Nat) :=
  entities.zipIdx.map fun (entity, position) => (entity.name, position)

structure Model where
  entities : List Entity := []
  positions : List (String × Nat) := []
  inStep : positions = positionsOf entities := by rfl

/-- Two declarations of one entity. -/
structure DuplicateEntity where
  name : String
  first : String
  second : String
deriving DecidableEq, Repr

def DuplicateEntity.message (e : DuplicateEntity) : String :=
  "Entity " ++ e.name ++ " is declared in both " ++ e.first ++ " and " ++ e.second

inductive ModelError where
  | tag (cause : FieldTagError)
  | duplicate (cause : DuplicateEntity)
deriving DecidableEq, Repr

def ModelError.message : ModelError → String
  | .tag cause => cause.message
  | .duplicate cause => cause.message

namespace Model

def get? (model : Model) (name : String) : Option Entity :=
  (model.positions.lookup name).bind (model.entities[·]?)

def contains (model : Model) (name : String) : Bool :=
  (model.positions.lookup name).isSome

def names (model : Model) : List String :=
  model.entities.map (·.name)

def push (model : Model) (entity : Entity) : Model where
  entities := model.entities ++ [entity]
  positions := model.positions ++ [(entity.name, model.entities.length)]
  inStep := by simp [model.inStep, positionsOf, List.zipIdx_append]

/-- The outcome of adding an entity, and the model after it. -/
def tryInsert (model : Model) (entity : Entity) : Except DuplicateEntity Unit × Model :=
  match model.get? entity.name with
  | some held => (.error ⟨entity.name, held.file, entity.file⟩, model)
  | none => (.ok (), model.push entity)

/-- The model with an entity added, for those who stop at a refusal. -/
def insert (model : Model) (entity : Entity) : Except DuplicateEntity Model :=
  match model.tryInsert entity with
  | (.error e, _) => .error e
  | (.ok (), next) => .ok next

def withRelations (model : Model) : List Entity :=
  model.entities.filter (·.hasRelations)

def usersOf (model : Model) (table : String) : List Entity :=
  model.entities.filter (·.table = table)

/-- The table of every entity by its name. -/
def tables (model : Model) : List (String × String) :=
  model.entities.map fun entity => (entity.name, entity.table)

def targetTable? (model : Model) (relation : RelationField) : Option String :=
  model.tables.lookup relation.relationship.target

def resolveRelation (model : Model) (relation : RelationField) : RelationField :=
  { relation with targetTable := model.targetTable? relation }

def resolveEntity (model : Model) (entity : Entity) : Entity :=
  { entity with relations := entity.relations.map model.resolveRelation }

/-- Every relation with the table of its target, if the target is in the model. -/
def resolve (model : Model) : Model where
  entities := model.entities.map model.resolveEntity
  positions := model.positions
  inStep := by
    simp [model.inStep, positionsOf, List.zipIdx_map, resolveEntity, Function.comp_def]

def extend (model : Model) (cache : TagCache) :
    List Declaration → Except ModelError Model × TagCache
  | [] => (.ok model, cache)
  | declaration :: rest =>
    match Entity.build cache declaration with
    | (.error e, cache) => (.error (.tag e), cache)
    | (.ok entity, cache) =>
      match model.insert entity with
      | .error e => (.error (.duplicate e), cache)
      | .ok model => model.extend cache rest

def build (cache : TagCache) (declarations : List Declaration) :
    Except ModelError Model × TagCache :=
  ({} : Model).extend cache declarations

end Model

end SchemaCompiler
