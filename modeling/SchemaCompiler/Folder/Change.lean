import SchemaCompiler.Folder.Basic

/-!
# Changes of a folder

What is done to a folder to turn it into another. Folders are added, never
removed.
-/

namespace SchemaCompiler

inductive Change where
  | remove (place : Folder.Place)
  | makeFolder (place : Folder.Place)
  | write (place : Folder.Place) (content : Content)
deriving DecidableEq

namespace Folder

/-- All folders inside, each before those in it. -/
def folders : Folder → List Place
  | empty => []
  | file _ _ rest => rest.folders
  | folder name inner rest => [name] :: (inner.folders.map (name :: ·) ++ rest.folders)

def fileAt? (root : Folder) (place : Place) : Option Content :=
  match root.locate place with
  | .ok (.file content) => some content
  | _ => none

def hasFolder (root : Folder) (place : Place) : Bool :=
  (root.requireFolder place).isOk

/-- The files to remove, the folders to add and the files to write, in this order. -/
def changes (before after : Folder) : List Change :=
  (before.files.filter fun (place, _) => (after.fileAt? place).isNone).map
      (fun (place, _) => .remove place) ++
    (after.folders.filter fun place => !before.hasFolder place).map .makeFolder ++
    (after.files.filter fun (place, content) => before.fileAt? place ≠ some content).map
      fun (place, content) => .write place content

end Folder

end SchemaCompiler
