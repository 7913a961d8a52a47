import SchemaCompiler.CommandLine.Arguments
import SchemaCompiler.Project.Generate

/-!
# Commands

What the arguments of the program ask for.
-/

namespace SchemaCompiler.CommandLine

inductive Command where
  | generate (input output package : String) (kinds : List ArtifactKind) (scan : ScanOptions)
  | validate (input : String) (scan : ScanOptions)
  | clean (output : String)

def Command.paths : Command → List String
  | generate input output .. => [input, output]
  | validate input _ => [input]
  | clean output => [output]

def defaultPackage : String := "models"

def scanOptions (occurrences : List Occurrence) : ScanOptions :=
  ⟨has occurrences .recursive, values occurrences .exclude⟩

def readKinds (value : String) : Except UsageError (List ArtifactKind) :=
  (Text.pieces ',' value.toList).mapM fun piece =>
    let name := String.ofList piece
    match ArtifactKind.ofName? name with
    | some kind => .ok kind
    | none => .error (.badValue .artifacts (ArtifactKind.unknownMessage name))

/-- The kinds of all lists; all kinds if there is no list. -/
def requestedKinds (occurrences : List Occurrence) : Except UsageError (List ArtifactKind) := do
  let kinds ← (values occurrences .artifacts).mapM readKinds
  return if kinds.isEmpty then ArtifactKind.all else kinds.flatten

def readGenerate (arguments : List String) : Except UsageError Command := do
  let occurrences ← readOptions OptionName.all arguments
  return .generate (← path occurrences .input) (← path occurrences .output)
    ((values occurrences .package).head?.getD defaultPackage) (← requestedKinds occurrences)
    (scanOptions occurrences)

def readValidate (arguments : List String) : Except UsageError Command := do
  let occurrences ← readOptions [.verbose, .recursive, .input, .exclude] arguments
  return .validate (← path occurrences .input) (scanOptions occurrences)

def readClean (arguments : List String) : Except UsageError Command := do
  let occurrences ← readOptions [.verbose, .output] arguments
  return .clean (← path occurrences .output)

/-- The command of arguments. Only `--verbose` may stand before its name. -/
def Command.read (arguments : List String) : Except UsageError Command := do
  let leading := arguments.takeWhile isOptionLike
  let _ ← readOptions [.verbose] leading
  match arguments.dropWhile isOptionLike with
  | [] => throw .noCommand
  | name :: rest =>
    if "--" ∈ leading then throw (.unexpectedArgument name)
    match name with
    | "generate" => readGenerate rest
    | "validate" => readValidate rest
    | "clean" => readClean rest
    | _ => throw (.unknownCommand name)

end SchemaCompiler.CommandLine
