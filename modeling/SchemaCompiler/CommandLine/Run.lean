import SchemaCompiler.CommandLine.Command
import SchemaCompiler.Project.Clean

/-!
# Running commands

A command on the files below a folder: what the program prints, how it exits and
which files are there afterwards.
-/

namespace SchemaCompiler.CommandLine

structure Outcome where
  exitCode : Nat := 0
  output : String := ""
  /-- The text on the error stream. -/
  errors : String := ""
deriving DecidableEq, Repr

def Outcome.printed (text : String) : Outcome :=
  { output := text }

def Outcome.failed (message : String) : Outcome :=
  { exitCode := 1, errors := "Error: " ++ message ++ "\n" }

/-- A report ends the program well only if it is valid. -/
def Outcome.reported (report : Report) : Outcome :=
  { exitCode := if report.isValid then 0 else 1, output := report.text ++ "\n" }

def Outcome.misused (e : UsageError) : Outcome :=
  { exitCode := 2, errors := "error: " ++ e.message ++ "\n" }

def Command.run (command : Command) (now : Timestamp) (root : Folder) : Outcome × Folder :=
  match command with
  | .generate input output package kinds scan =>
    let options : GenerateOptions :=
      { input, output, kinds, scan, setting := { package, generatedAt := now } }
    match options.run root with
    | (.ok summary, root) => (.printed (Text.unlines summary.files), root)
    | (.error (.invalid report), root) => (.reported report, root)
    | (.error e, root) => (.failed e.message, root)
  | .validate input scan =>
    match root.compile input scan with
    | .ok compiled => (.reported compiled.report, root)
    | .error e => (.failed e.message, root)
  | .clean output =>
    match root.clean output with
    | (.ok removed, root) => (.printed (Text.unlines (removed.map ("removed " ++ ·))), root)
    | (.error e, root) => (.failed e.message, root)

def run (arguments : List String) (now : Timestamp) (root : Folder) : Outcome × Folder :=
  match Command.read arguments with
  | .error e => (.misused e, root)
  | .ok command => command.run now root

end SchemaCompiler.CommandLine
