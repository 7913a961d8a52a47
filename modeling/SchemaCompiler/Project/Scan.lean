import SchemaCompiler.Folder.Basic
import SchemaCompiler.Folder.Glob
import SchemaCompiler.Source.Declarations

/-!
# Scanning directories

The source files of a directory and what they declare. A file or declaration that
cannot be used is skipped with its reason, and the others are not affected.
-/

namespace SchemaCompiler

-- ---------------------------------------------------------------------------
-- Source files
-- ---------------------------------------------------------------------------

namespace Folder

def isSkippedFolder (name : String) : Bool :=
  name ∈ ["tests", "target", "benches"] || name.toList.head? = some '.'

def isSourceFile (name : String) : Bool :=
  Path.isSourceName name && !Path.isTestName name

/-- The source files that are not tests, with the names on the way to them. A folder's
files come where its name falls. -/
def sources (recursive : Bool) : Folder → List (Place × Content)
  | empty => []
  | file name content rest =>
    (if isSourceFile name then [([name], content)] else []) ++ rest.sources recursive
  | folder name inner rest =>
    (if recursive && !isSkippedFolder name then
      (inner.sources recursive).map fun (place, content) => (name :: place, content)
    else []) ++ rest.sources recursive

end Folder

/-- Which files of a directory are scanned. -/
structure ScanOptions where
  recursive : Bool := false
  /-- Patterns for files to leave out, by their path from the directory. -/
  exclude : List String := []

/-- How a scan reads files and parses their texts. -/
structure Reader where
  /-- The text of the file at a path, if it can be read. -/
  text? : (path : String) → Content → Option String := fun _ content => content.text?
  parse : String → Except Source.SyntaxError Source.Items := Source.Items.parse

-- ---------------------------------------------------------------------------
-- What files add
-- ---------------------------------------------------------------------------

structure ScanResult where
  /-- The entities, in the order of files and then of their text. -/
  declarations : List Declaration := []
  /-- The names of records without tags. -/
  helpers : List String := []
  skipped : List Failure := []
  filesScanned : Nat := 0
deriving DecidableEq, Repr

namespace ScanResult

def count (result : ScanResult) : ScanResult :=
  { result with filesScanned := result.filesScanned + 1 }

def skip (result : ScanResult) (failure : Failure) : ScanResult :=
  { result with skipped := result.skipped ++ [failure] }

def addDeclaration (result : ScanResult) : Except Failure Declaration → ScanResult
  | .error failure => result.skip failure
  | .ok declaration =>
    if declaration.isEntity then
      { result with declarations := result.declarations ++ [declaration] }
    else { result with helpers := result.helpers ++ [declaration.name] }

def unreadableMessage (path : String) : String :=
  "Failed to read source file: " ++ path

/-- The result with what a source text declares, or why it cannot be used. -/
def addText (result : ScanResult) (reader : Reader) (path text : String) : ScanResult :=
  match Source.declarations text path reader.parse with
  | .error e => result.skip ⟨path, SourceError.message ⟨path, e.line⟩⟩
  | .ok found => found.foldl addDeclaration result

def addFile (result : ScanResult) (reader : Reader) (path : String) (content : Content) :
    ScanResult :=
  match reader.text? path content with
  | none => result.count.skip ⟨path, unreadableMessage path⟩
  | some text => result.count.addText reader path text

/-- What a source text declares by itself. -/
def ofText (path text : String) (reader : Reader := {}) : ScanResult :=
  ({} : ScanResult).addText reader path text

end ScanResult

-- ---------------------------------------------------------------------------
-- Whole directories
-- ---------------------------------------------------------------------------

inductive ScanError where
  | inputFolder (path : String)
  | excludePattern (pattern : String) (cause : Glob.PatternError)
deriving DecidableEq, Repr

def ScanError.message : ScanError → String
  | inputFolder path => "Failed to read input directory: " ++ path
  | excludePattern pattern cause =>
    "Invalid exclude pattern '" ++ pattern ++ "': " ++ cause.message

abbrev Pattern := List Glob.Token

def ScanOptions.patterns (options : ScanOptions) : Except ScanError (List Pattern) :=
  options.exclude.mapM fun pattern => (Glob.parse pattern).mapError (.excludePattern pattern)

def isExcluded (patterns : List Pattern) (place : Folder.Place) : Bool :=
  patterns.any (Glob.matchesText · (Text.join "/" place).toList)

def Folder.selected (inner : Folder) (recursive : Bool) (patterns : List Pattern) :
    List (Folder.Place × Content) :=
  (inner.sources recursive).filter fun (place, _) => !isExcluded patterns place

def Folder.scan (root : Folder) (directory : String) (options : ScanOptions)
    (reader : Reader := {}) : Except ScanError ScanResult := do
  let inner ← (root.folderAt directory).mapError fun _ => .inputFolder directory
  let patterns ← options.patterns
  return (inner.selected options.recursive patterns).foldl
    (fun result (place, content) =>
      result.addFile reader (Folder.pathBelow directory place) content) {}

end SchemaCompiler
