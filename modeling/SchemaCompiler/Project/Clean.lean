import SchemaCompiler.Artifact.Template
import SchemaCompiler.Folder.Basic

/-!
# Removing generated files

A file is generated if its first line is the marker, up to blanks at the end.
-/

namespace SchemaCompiler

def Content.firstLine (content : Content) : Content :=
  content.takeWhile (· ≠ 10)

/-- Whether a first line is the marker. It has to be text. -/
def Content.isGenerated (content : Content) : Except FileError Bool :=
  match content.firstLine.text? with
  | some line => .ok (Text.trimEnd line.toList = Template.marker.toList)
  | none => .error .invalidData

structure CleanError where
  path : String
  cause : FileError
deriving DecidableEq, Repr

def CleanError.message (e : CleanError) : String :=
  "Failed to clean generated file " ++ e.path

namespace Folder

def isGenerated (root : Folder) (path : String) : Except FileError Bool := do
  (← root.read path).isGenerated

/-- Removes the generated ones of some files in a directory, up to the first that
fails. -/
def removeGenerated (root : Folder) (directory : String) :
    List (String × Content) → Except CleanError (List String) × Folder
  | [] => (.ok [], root)
  | (name, content) :: rest =>
    let path := Path.join directory name
    match content.isGenerated with
    | .error cause => (.error ⟨path, cause⟩, root)
    | .ok false => root.removeGenerated directory rest
    | .ok true =>
      match root.remove path with
      | .error cause => (.error ⟨path, cause⟩, root)
      | .ok root =>
        match root.removeGenerated directory rest with
        | (.error e, root) => (.error e, root)
        | (.ok removed, root) => (.ok (path :: removed), root)

/-- Removes the generated source files directly inside a directory. One that is not
there has none. -/
def clean (root : Folder) (directory : String) : Except CleanError (List String) × Folder :=
  match root.folderAt directory with
  | .error _ => (.ok [], root)
  | .ok inner =>
    root.removeGenerated directory (inner.ownFiles.filter fun (name, _) => Path.isSourceName name)

end Folder

end SchemaCompiler
