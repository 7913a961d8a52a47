import SchemaCompiler.Artifact.Template

/-!
# Artifacts

The files of one run. All of them are rendered before the first is written, and
no two may have one name.
-/

namespace SchemaCompiler

/-- A rendered file that is not written yet. -/
structure Artifact where
  kind : ArtifactKind
  /-- The kind, or the kind and the entity. -/
  label : String
  fileName : String
  contents : String
deriving DecidableEq, Repr

inductive RenderError where
  | template (label : String) (cause : TemplateError)
  | sameFile (label fileName first : String)
deriving DecidableEq, Repr

def RenderError.label : RenderError → String
  | template label _ | sameFile label _ _ => label

def RenderError.reason : RenderError → String
  | template _ cause => cause.message
  | sameFile _ fileName first => "file `" ++ fileName ++ "` already produced by " ++ first

def RenderError.message (e : RenderError) : String :=
  "Failed to render artifact " ++ e.label ++ ": " ++ e.reason

namespace Artifact

/-- A text that starts with the marker; it is put before one that does not. -/
def marked (text : String) : String :=
  if Template.marker.toList.isPrefixOf text.toList then text
  else Template.marker ++ "\n\n" ++ text

/-- What the templates of a run have in common. -/
structure Setting where
  package : String
  generatedAt : Timestamp
  renderer : Renderer := Template.render

def ofPlan (setting : Setting) (model : Model) (kinds : List ArtifactKind) (plan : Plan) :
    Except RenderError Artifact :=
  let payload : Payload := {
    package := setting.package
    generatedAt := setting.generatedAt
    model
    entity? := plan.entity?
    kinds }
  match setting.renderer plan.kind payload with
  | .error cause => .error (.template plan.label cause)
  | .ok text => .ok ⟨plan.kind, plan.label, plan.fileName, marked text⟩

/-- The first artifact whose file one of those before it has. -/
def checkFileNames (before : List Artifact) : List Artifact → Except RenderError Unit
  | [] => .ok ()
  | artifact :: rest =>
    match before.find? (·.fileName = artifact.fileName) with
    | some first => .error (.sameFile artifact.label artifact.fileName first.label)
    | none => checkFileNames (before ++ [artifact]) rest

def renderAll (setting : Setting) (model : Model) (requested : List ArtifactKind) :
    Except RenderError (List Artifact) := do
  let artifacts ← (Plan.all model requested).mapM
    (ofPlan setting model (Plan.kinds model requested))
  checkFileNames [] artifacts
  pure artifacts

end Artifact

end SchemaCompiler
