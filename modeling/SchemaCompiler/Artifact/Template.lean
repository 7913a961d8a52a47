import SchemaCompiler.Artifact.ColumnsFile
import SchemaCompiler.Artifact.QueryFile
import SchemaCompiler.Artifact.RelationsFile
import SchemaCompiler.Artifact.RepositoryFile
import SchemaCompiler.Artifact.RootFile

/-!
# The built-in templates

Plain modules of constant statements and descriptors, which depend on nothing.
-/

namespace SchemaCompiler.Template

/-- The first line of every generated file. -/
def marker : String := "// Code generated by schemagen. DO NOT EDIT."

def header (payload : Payload) : List String := [
  marker,
  "// Package: " ++ payload.package,
  "// Generated at: " ++ payload.timestamp]

def body (kind : ArtifactKind) (payload : Payload) : Except TemplateError (List (List String)) :=
  match kind with
  | .columns => pure (ColumnsFile.body payload.model)
  | .repository => do pure (RepositoryFile.body (← payload.entity))
  | .query => do pure (QueryFile.body (← payload.entity))
  | .relations => RelationsFile.body payload.model
  | .root => pure (RootFile.body payload)

def lines (kind : ArtifactKind) (payload : Payload) : Except TemplateError (List String) := do
  pure (Code.paragraphs (header payload :: (← body kind payload)))

def render : Renderer := fun kind payload => do
  pure (Text.unlines (← lines kind payload))

end SchemaCompiler.Template
