import SchemaCompiler.Text.Split

/-!
# Command-line arguments

Options are written `--name value`, `--name=value`, `-n value`, `-nvalue` or
`-n=value`, and flags may share one dash. A value does not start with a dash,
unless it is a dash alone or joined to its option.
-/

namespace SchemaCompiler.CommandLine

inductive OptionName where
  | verbose
  | recursive
  | input
  | output
  | package
  | artifacts
  | exclude
deriving DecidableEq, Repr

namespace OptionName

def all : List OptionName :=
  [verbose, recursive, input, output, package, artifacts, exclude]

def long : OptionName → String
  | verbose => "verbose"
  | recursive => "recursive"
  | input => "input"
  | output => "output"
  | package => "package"
  | artifacts => "artifacts"
  | exclude => "exclude"

def short : OptionName → Char
  | verbose => 'v'
  | recursive => 'r'
  | input => 'i'
  | output => 'o'
  | package => 'p'
  | artifacts => 'a'
  | exclude => 'e'

def takesValue : OptionName → Bool
  | verbose | recursive => false
  | input | output | package | artifacts | exclude => true

def isRepeatable : OptionName → Bool
  | artifacts | exclude => true
  | verbose | recursive | input | output | package => false

end OptionName

inductive UsageError where
  | noCommand
  | unknownCommand (name : String)
  | unexpectedArgument (argument : String)
  | missingValue (option : OptionName)
  | unexpectedValue (option : OptionName)
  | repeated (option : OptionName)
  | missing (option : OptionName)
  | emptyPath (option : OptionName)
  | badValue (option : OptionName) (reason : String)
deriving DecidableEq, Repr

def UsageError.message : UsageError → String
  | noCommand => "a command is expected: generate, validate or clean"
  | unknownCommand name => "unrecognized command '" ++ name ++ "'"
  | unexpectedArgument argument => "unexpected argument '" ++ argument ++ "'"
  | missingValue option => "'--" ++ option.long ++ "' needs a value"
  | unexpectedValue option => "'--" ++ option.long ++ "' takes no value"
  | repeated option => "'--" ++ option.long ++ "' is given more than once"
  | missing option => "'--" ++ option.long ++ "' is required"
  | emptyPath option => "'--" ++ option.long ++ "' needs a path"
  | badValue option reason => "invalid value for '--" ++ option.long ++ "': " ++ reason

/-- An option as it is given, with its value if it takes one. -/
structure Occurrence where
  option : OptionName
  value : String := ""
deriving DecidableEq, Repr

/-- What one argument says: options, and maybe one whose value is the next argument. -/
structure Reading where
  occurrences : List Occurrence
  waiting : Option OptionName := none

-- ---------------------------------------------------------------------------
-- Single arguments
-- ---------------------------------------------------------------------------

def isOptionLike (argument : String) : Bool :=
  match argument.toList with
  | '-' :: _ :: _ => true
  | _ => false

def readLong (allowed : List OptionName) (argument : String) (written : List Char) :
    Except UsageError Reading :=
  let (name, value?) :=
    match Text.cut? '=' written with
    | some (name, value) => (name, some (String.ofList value))
    | none => (written, none)
  match allowed.find? (·.long.toList = name), value? with
  | none, _ => .error (.unexpectedArgument argument)
  | some option, some value =>
    if option.takesValue then .ok ⟨[⟨option, value⟩], none⟩ else .error (.unexpectedValue option)
  | some option, none =>
    if option.takesValue then .ok ⟨[], some option⟩ else .ok ⟨[⟨option, ""⟩], none⟩

/-- A value joined to its letter, maybe with an equals sign between them. -/
def joinedValue (written : List Char) : String :=
  .ofList ((Text.dropStart? ['='] written).getD written)

def readShort (allowed : List OptionName) (argument : String) : List Char →
    Except UsageError Reading
  | [] => .ok ⟨[], none⟩
  | letter :: rest =>
    match allowed.find? (·.short = letter) with
    | none => .error (.unexpectedArgument argument)
    | some option =>
      if option.takesValue then
        if rest.isEmpty then .ok ⟨[], some option⟩
        else .ok ⟨[⟨option, joinedValue rest⟩], none⟩
      else do
        let reading ← readShort allowed argument rest
        return { reading with occurrences := ⟨option, ""⟩ :: reading.occurrences }

def readArgument (allowed : List OptionName) (argument : String) : Except UsageError Reading :=
  match argument.toList with
  | '-' :: '-' :: written => readLong allowed argument written
  | '-' :: letter :: letters => readShort allowed argument (letter :: letters)
  | _ => .error (.unexpectedArgument argument)

-- ---------------------------------------------------------------------------
-- All arguments
-- ---------------------------------------------------------------------------

/-- Reads options, the first of which may be a value that is waited for. Two dashes end
them, and nothing follows. -/
def readFrom (allowed : List OptionName) :
    Option OptionName → List String → Except UsageError (List Occurrence)
  | some option, [] => .error (.missingValue option)
  | none, [] => .ok []
  | some option, argument :: rest =>
    if isOptionLike argument then .error (.missingValue option)
    else do return ⟨option, argument⟩ :: (← readFrom allowed none rest)
  | none, argument :: rest =>
    if argument = "--" then
      match rest with
      | [] => .ok []
      | extra :: _ => .error (.unexpectedArgument extra)
    else do
      let reading ← readArgument allowed argument
      return reading.occurrences ++ (← readFrom allowed reading.waiting rest)

def repeated? : List Occurrence → Option OptionName
  | [] => none
  | first :: rest =>
    if !first.option.isRepeatable && rest.any (·.option = first.option) then some first.option
    else repeated? rest

def readOptions (allowed : List OptionName) (arguments : List String) :
    Except UsageError (List Occurrence) := do
  let occurrences ← readFrom allowed none arguments
  match repeated? occurrences with
  | some option => throw (.repeated option)
  | none => return occurrences

def has (occurrences : List Occurrence) (option : OptionName) : Bool :=
  occurrences.any (·.option = option)

def values (occurrences : List Occurrence) (option : OptionName) : List String :=
  (occurrences.filter (·.option = option)).map (·.value)

def path (occurrences : List Occurrence) (option : OptionName) : Except UsageError String :=
  match (values occurrences option).head? with
  | none => .error (.missing option)
  | some "" => .error (.emptyPath option)
  | some value => .ok value

end SchemaCompiler.CommandLine
