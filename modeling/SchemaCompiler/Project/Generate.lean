import SchemaCompiler.Artifact.Basic
import SchemaCompiler.Project.Compile

/-!
# Generating files

A run compiles a directory, renders all artifacts and then writes them in order.
It stops at the first failure, and nothing is written before everything is
rendered.
-/

namespace SchemaCompiler

/-- Writes a text to a path and tells what is there after it. -/
abbrev Writer (σ : Type) := σ → (path contents : String) → Except FileError Unit × σ

def Folder.writer : Writer Folder := fun root path contents =>
  root.write path (.ofText contents)

structure WriteError where
  label : String
  path : String
  cause : FileError
deriving DecidableEq, Repr

def WriteError.message (e : WriteError) : String :=
  "Failed to write artifact " ++ e.label ++ " to " ++ e.path

/-- Writes artifacts into a directory, up to the first that fails. -/
def Artifact.writeAll {σ : Type} (writer : Writer σ) (directory : String) (state : σ) :
    List Artifact → Except WriteError (List String) × σ
  | [] => (.ok [], state)
  | artifact :: rest =>
    let path := Path.join directory artifact.fileName
    match writer state path artifact.contents with
    | (.error cause, state) => (.error ⟨artifact.label, path, cause⟩, state)
    | (.ok (), state) =>
      match writeAll writer directory state rest with
      | (.error e, state) => (.error e, state)
      | (.ok paths, state) => (.ok (path :: paths), state)

structure GenerateOptions where
  input : String
  output : String
  kinds : List ArtifactKind := ArtifactKind.all
  scan : ScanOptions := {}
  setting : Artifact.Setting

inductive GenerateError where
  | compile (cause : CompileError)
  | invalid (report : Report)
  | render (cause : RenderError)
  | write (cause : WriteError)
deriving DecidableEq, Repr

def GenerateError.message : GenerateError → String
  | compile cause => cause.message
  | invalid report =>
    "Schema validation failed with " ++ toString report.errors.length ++ " error(s)"
  | render cause => cause.message
  | write cause => cause.message

structure Summary where
  entities : Nat
  /-- The paths written, in order. -/
  files : List String
  warnings : List Issue
  skipped : List Failure
deriving DecidableEq, Repr

/-- A compiled directory and the artifacts that are to be written. -/
def GenerateOptions.prepare (options : GenerateOptions) (root : Folder) :
    Except GenerateError (Compiled × List Artifact) := do
  let compiled ← (root.compile options.input options.scan).mapError .compile
  unless compiled.report.isValid do throw (.invalid compiled.report)
  let artifacts ←
    (Artifact.renderAll options.setting compiled.model options.kinds).mapError .render
  return (compiled, artifacts)

/-- A run on the files below a root, with any writer. -/
def GenerateOptions.runWith {σ : Type} (options : GenerateOptions) (root : Folder)
    (writer : Writer σ) (state : σ) : Except GenerateError Summary × σ :=
  match options.prepare root with
  | .error e => (.error e, state)
  | .ok (compiled, artifacts) =>
    match Artifact.writeAll writer options.output state artifacts with
    | (.error e, state) => (.error (.write e), state)
    | (.ok files, state) =>
      (.ok {
        entities := compiled.model.entities.length
        files
        warnings := compiled.report.warnings
        skipped := compiled.skipped }, state)

/-- A run that writes to the files it reads. -/
def GenerateOptions.run (options : GenerateOptions) (root : Folder) :
    Except GenerateError Summary × Folder :=
  options.runWith root Folder.writer root

end SchemaCompiler
