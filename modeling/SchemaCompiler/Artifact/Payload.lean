import SchemaCompiler.Artifact.Kind
import SchemaCompiler.Model.Basic
import SchemaCompiler.Timestamp

/-!
# What a template sees

Every template sees the whole model, so that it can look up the targets of
relations. A template for one entity sees that entity as well.
-/

namespace SchemaCompiler

structure Payload where
  package : String
  generatedAt : Timestamp
  model : Model
  entity? : Option Entity := none
  /-- The kinds of this run, in the order in which they are rendered. -/
  kinds : List ArtifactKind

inductive TemplateError where
  | entityExpected
  | unknownHelper (name : String)
  | targetNotFound (entity field target : String)
  | custom (message : String)
deriving DecidableEq, Repr

def TemplateError.message : TemplateError → String
  | entityExpected => "template expects an entity payload"
  | unknownHelper name => "unknown template helper `" ++ name ++ "`"
  | targetNotFound entity field target =>
    entity ++ "." ++ field ++ ": relationship target `" ++ target ++ "` is not in the model"
  | custom message => message

namespace Payload

def entity (payload : Payload) : Except TemplateError Entity :=
  match payload.entity? with
  | some entity => .ok entity
  | none => .error .entityExpected

def helper (_payload : Payload) (name input : String) : Except TemplateError String :=
  match Naming.helper? name with
  | some f => .ok (f input)
  | none => .error (.unknownHelper name)

def timestamp (payload : Payload) : String :=
  payload.generatedAt.text

def includes (payload : Payload) (kind : ArtifactKind) : Bool :=
  payload.kinds.contains kind

end Payload

abbrev Renderer := ArtifactKind → Payload → Except TemplateError String

end SchemaCompiler
