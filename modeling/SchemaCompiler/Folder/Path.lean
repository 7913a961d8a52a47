import SchemaCompiler.Text.Split

/-!
# Paths

The parts of a path, and paths put together. Slashes part the components; empty
ones and single dots are not kept, except a dot at the very start.
-/

namespace SchemaCompiler.Path

open Text

inductive Component where
  /-- The slash at the start of an absolute path. -/
  | root
  /-- A dot at the start. -/
  | here
  | parent
  | name (text : String)
deriving DecidableEq, Repr

def component? (piece : List Char) : Option Component :=
  if piece.isEmpty || piece == ['.'] then none
  else if piece == ['.', '.'] then some .parent
  else some (.name (.ofList piece))

def start (path : List Char) : List Component :=
  match path with
  | '/' :: _ => [.root]
  | ['.'] | '.' :: '/' :: _ => [.here]
  | _ => []

def components (path : String) : List Component :=
  start path.toList ++ (pieces '/' path.toList).filterMap component?

def fileName? (path : String) : Option String :=
  match (components path).getLast? with
  | some (.name text) => some text
  | _ => none

/-- Whether the last components of a path are all those of another. -/
def endsWith (path ending : String) : Bool :=
  (components ending).isSuffixOf (components path)

def isAbsolute (path : String) : Bool :=
  path.toList.head? == some '/'

/-- A path inside a directory. An absolute path stays as it is. -/
def join (directory path : String) : String :=
  if isAbsolute path then path
  else match directory.toList.getLast? with
    | none => path
    | some '/' => directory ++ path
    | some _ => directory ++ "/" ++ path

/-- Whether a file's name has the ending of source files and something before it. -/
def isSourceName (name : String) : Bool :=
  match dropEnd? ['.', 'r', 's'] name.toList with
  | some (_ :: _) => true
  | _ => false

def isTestName (name : String) : Bool :=
  name = "tests.rs" || "_test.rs".toList.isSuffixOf name.toList ||
    "_tests.rs".toList.isSuffixOf name.toList

def isTestFile (path : String) : Bool :=
  (fileName? path).any isTestName

end SchemaCompiler.Path
