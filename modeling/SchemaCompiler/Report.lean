import SchemaCompiler.Text.Split

/-!
# Validation reports

Issues in the order they were found, errors and warnings apart.
-/

namespace SchemaCompiler

/-- A problem of an entity, or of one of its fields if `field` is not empty. -/
structure Issue where
  entity : String
  field : String
  message : String
deriving DecidableEq, Repr

def Issue.text (issue : Issue) : String :=
  if issue.field = "" then issue.entity ++ ": " ++ issue.message
  else issue.entity ++ "." ++ issue.field ++ ": " ++ issue.message

structure Report where
  errors : List Issue := []
  warnings : List Issue := []
deriving DecidableEq, Repr

namespace Report

def isValid (report : Report) : Bool :=
  report.errors.isEmpty

def addError (report : Report) (issue : Issue) : Report :=
  { report with errors := report.errors ++ [issue] }

def addWarning (report : Report) (issue : Issue) : Report :=
  { report with warnings := report.warnings ++ [issue] }

def lines (report : Report) : List String :=
  report.errors.map (fun issue => "error: " ++ issue.text) ++
    report.warnings.map fun issue => "warning: " ++ issue.text

def verdict (report : Report) : String :=
  if report.isValid then
    "validation passed (" ++ toString report.warnings.length ++ " warning(s))"
  else
    "validation failed: " ++ toString report.errors.length ++ " error(s), " ++
      toString report.warnings.length ++ " warning(s)"

def text (report : Report) : String :=
  Text.unlines report.lines ++ report.verdict

end Report

end SchemaCompiler
