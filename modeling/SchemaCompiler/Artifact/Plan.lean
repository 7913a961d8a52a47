import SchemaCompiler.Artifact.Kind
import SchemaCompiler.Model.Basic

/-!
# Planned files

Which files a run makes, and for which entity each of them is.
-/

namespace SchemaCompiler

/-- A file to be rendered, for the whole model or for one entity. -/
structure Plan where
  kind : ArtifactKind
  entity? : Option Entity
  moduleName : String

namespace Plan

def label (plan : Plan) : String :=
  match plan.entity? with
  | none => plan.kind.name
  | some entity => plan.kind.name ++ ":" ++ entity.name

def fileName (plan : Plan) : String :=
  plan.moduleName ++ ".rs"

def ofKind (model : Model) (kind : ArtifactKind) : List Plan :=
  match kind.modelModule?, kind.entityEnding? with
  | some name, _ => [⟨kind, none, name⟩]
  | none, some ending =>
    model.entities.map fun entity => ⟨kind, some entity, Naming.snake entity.name ++ ending⟩
  | none, none => []

/-- The requested kinds, each once and in order. Loaders need a relation. -/
def kinds (model : Model) (requested : List ArtifactKind) : List ArtifactKind :=
  ArtifactKind.all.filter fun kind =>
    requested.contains kind && (kind ≠ .relations || !model.withRelations.isEmpty)

def all (model : Model) (requested : List ArtifactKind) : List Plan :=
  (kinds model requested).flatMap (ofKind model)

end Plan

end SchemaCompiler
