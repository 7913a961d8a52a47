import SchemaCompiler.Folder.Path

/-!
# Folders

A folder is a value: its entries ordered by name, each a file with its bytes or
a folder in turn. Paths are followed from one folder, the working directory.
-/

namespace SchemaCompiler

abbrev Content := List UInt8

def Content.ofText (text : String) : Content :=
  text.toUTF8.data.toList

def Content.text? (content : Content) : Option String :=
  String.fromUTF8? ⟨content.toArray⟩

inductive Folder where
  | empty
  | file (name : String) (content : Content) (rest : Folder)
  | folder (name : String) (inner rest : Folder)
deriving DecidableEq

inductive FileError where
  | notFound
  | notADirectory
  | isADirectory
  | alreadyExists
  | invalidData
deriving DecidableEq, Repr

inductive Entry where
  | file (content : Content)
  | folder (inner : Folder)

namespace Folder

def ofEntry (name : String) (entry : Entry) (rest : Folder) : Folder :=
  match entry with
  | .file content => file name content rest
  | .folder inner => folder name inner rest

def find? (name : String) : Folder → Option Entry
  | empty => none
  | file n content rest => if n = name then some (.file content) else rest.find? name
  | folder n inner rest => if n = name then some (.folder inner) else rest.find? name

/-- The folder in which a name stands for an entry, in the order of names. -/
def put (name : String) (entry : Entry) : Folder → Folder
  | empty => ofEntry name entry empty
  | file n content rest =>
    if n = name then ofEntry name entry rest
    else if name < n then ofEntry name entry (file n content rest)
    else file n content (rest.put name entry)
  | folder n inner rest =>
    if n = name then ofEntry name entry rest
    else if name < n then ofEntry name entry (folder n inner rest)
    else folder n inner (rest.put name entry)

def erase (name : String) : Folder → Folder
  | empty => empty
  | file n content rest => if n = name then rest else file n content (rest.erase name)
  | folder n inner rest => if n = name then rest else folder n inner (rest.erase name)

-- ---------------------------------------------------------------------------
-- Places
-- ---------------------------------------------------------------------------

def locate (root : Folder) : List String → Except FileError Entry
  | [] => .ok (.folder root)
  | name :: names =>
    match root.find? name with
    | none => .error .notFound
    | some (.folder inner) => inner.locate names
    | some (.file content) => if names.isEmpty then .ok (.file content) else .error .notADirectory

/-- The names of a place, from the working directory. -/
abbrev Place := List String

def requireFolder (root : Folder) (place : Place) : Except FileError Unit :=
  match root.locate place with
  | .error e => .error e
  | .ok (.file _) => .error .notADirectory
  | .ok (.folder _) => .ok ()

/-- The place above; above the working directory it is called by its dots. -/
def above (place : Place) : Place :=
  match place.getLast? with
  | none | some ".." => place ++ [".."]
  | some _ => place.dropLast

/-- The place to which one piece of a path leads. -/
def advance (place : Place) (piece : String) : Place :=
  if piece = "" ∨ piece = "." then place
  else if piece = ".." then above place
  else place ++ [piece]

/-- Follows the pieces of a path from a place. All but the last name must be
folders. -/
def follow (root : Folder) (place : Place) : List String → Except FileError Place
  | [] => .ok place
  | piece :: rest => do
    root.requireFolder place
    root.follow (advance place piece) rest

/-- Where a path begins and the pieces to follow from there. -/
def stepsOf (path : String) : Place × List String :=
  let steps := (Text.pieces '/' path.toList).map String.ofList
  if Path.isAbsolute path then (["/"], steps.drop 1) else ([], steps)

/-- The places that lie on the way of a path, its own last. -/
def placesOn (path : String) : List Place :=
  let (start, steps) := stepsOf path
  steps.foldl (fun places piece => places ++ [advance (places.getLastD start) piece]) [start]

def resolve (root : Folder) (path : String) : Except FileError Place :=
  if path = "" then .error .notFound
  else
    let (start, steps) := stepsOf path
    root.follow start steps

def entry (root : Folder) (path : String) : Except FileError Entry := do
  root.locate (← root.resolve path)

def folderAt (root : Folder) (path : String) : Except FileError Folder :=
  match root.entry path with
  | .error e => .error e
  | .ok (.file _) => .error .notADirectory
  | .ok (.folder inner) => .ok inner

def read (root : Folder) (path : String) : Except FileError Content :=
  match root.entry path with
  | .error e => .error e
  | .ok (.file content) => .ok content
  | .ok (.folder _) => .error .isADirectory

def readText (root : Folder) (path : String) : Except FileError String := do
  match (← root.read path).text? with
  | some text => .ok text
  | none => .error .invalidData

-- ---------------------------------------------------------------------------
-- Changes
-- ---------------------------------------------------------------------------

/-- Puts an entry at a place whose folders exist. -/
def putAt (entry : Entry) : Place → Folder → Folder
  | [], root => root
  | [name], root => root.put name entry
  | name :: names, root =>
    match root.find? name with
    | some (.folder inner) => root.put name (.folder (putAt entry names inner))
    | _ => root

def eraseAt : Place → Folder → Folder
  | [], root => root
  | [name], root => root.erase name
  | name :: names, root =>
    match root.find? name with
    | some (.folder inner) => root.put name (.folder (eraseAt names inner))
    | _ => root

def makeFolders (root : Folder) (place : Place) : List String → Except FileError Folder
  | [] => .ok root
  | piece :: rest =>
    if piece = "" ∨ piece = "." then root.makeFolders place rest
    else if piece = ".." then root.makeFolders (above place) rest
    else
      let next := place ++ [piece]
      match root.locate next with
      | .ok (.folder _) => root.makeFolders next rest
      | .ok (.file _) => .error (if rest.isEmpty then .alreadyExists else .notADirectory)
      | .error .notFound => (putAt (.folder empty) next root).makeFolders next rest
      | .error e => .error e

def makeFolder (root : Folder) (path : String) : Except FileError Folder :=
  let (start, steps) := stepsOf path
  root.makeFolders start steps

/-- The pieces of a path before its last one. -/
def parentSteps (path : String) : Place × List String :=
  let (start, steps) := stepsOf path
  (start, steps.dropLast)

/-- Writes a file into a folder that exists. -/
def writeHere (root : Folder) (path : String) (content : Content) : Except FileError Folder := do
  let place ← root.resolve path
  match root.locate place with
  | .ok (.folder _) => .error .isADirectory
  | .ok (.file _) | .error .notFound => .ok (putAt (.file content) place root)
  | .error e => .error e

/-- Writes a file and makes the folders above it. Those stay if writing fails. -/
def write (root : Folder) (path : String) (content : Content) :
    Except FileError Unit × Folder :=
  let (start, steps) := parentSteps path
  match root.makeFolders start steps with
  | .error e => (.error e, root)
  | .ok made =>
    match made.writeHere path content with
    | .error e => (.error e, made)
    | .ok written => (.ok (), written)

def remove (root : Folder) (path : String) : Except FileError Folder := do
  let place ← root.resolve path
  match ← root.locate place with
  | .file _ => .ok (eraseAt place root)
  | .folder _ => .error .isADirectory

-- ---------------------------------------------------------------------------
-- Listing
-- ---------------------------------------------------------------------------

def ownFiles : Folder → List (String × Content)
  | empty => []
  | file name content rest => (name, content) :: rest.ownFiles
  | folder _ _ rest => rest.ownFiles

/-- All files, with the names on the way to them. A folder's files come where its
name falls. -/
def files : Folder → List (Place × Content)
  | empty => []
  | file name content rest => ([name], content) :: rest.files
  | folder name inner rest =>
    inner.files.map (fun (place, content) => (name :: place, content)) ++ rest.files

def pathBelow (directory : String) (place : Place) : String :=
  place.foldl Path.join directory

def filePaths (root : Folder) (directory : String) : List String :=
  match root.folderAt directory with
  | .error _ => []
  | .ok inner =>
    (inner.files.map fun (place, _) => pathBelow directory place).mergeSort
      fun a b => decide (a ≤ b)

end Folder

end SchemaCompiler
