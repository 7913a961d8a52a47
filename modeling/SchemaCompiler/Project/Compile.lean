import SchemaCompiler.Model.Validation
import SchemaCompiler.Project.Scan

/-!
# Compiling directories

The model that a directory's source files declare, with the report on it.
-/

namespace SchemaCompiler

inductive CompileError where
  | scan (cause : ScanError)
  | model (cause : ModelError)
deriving DecidableEq, Repr

def CompileError.message : CompileError → String
  | scan cause => cause.message
  | model cause => cause.message

structure Compiled where
  model : Model
  report : Report
  skipped : List Failure
  filesScanned : Nat

/-- A model as it is compiled: relations know their tables only if it is valid. -/
def Model.checked (model : Model) : Model × Report :=
  let report := model.validate
  (if report.isValid then model.resolve else model, report)

def Folder.compile (root : Folder) (directory : String) (options : ScanOptions) :
    Except CompileError Compiled := do
  let scanned ← (root.scan directory options).mapError .scan
  let model ← (Model.build {} scanned.declarations).1.mapError .model
  let (model, report) := model.checked
  return { model, report, skipped := scanned.skipped, filesScanned := scanned.filesScanned }

end SchemaCompiler
