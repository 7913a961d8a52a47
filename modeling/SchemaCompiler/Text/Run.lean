/-!
# Sets of characters as runs

A property of characters is a list of evenly spaced runs of code points.
-/

namespace SchemaCompiler.Text

/-- The code points `first`, `first + step`, … not past `last`. -/
structure Run where
  first : Nat
  last : Nat
  step : Nat

def Run.contains (run : Run) (code : Nat) : Bool :=
  run.first ≤ code && code ≤ run.last && (code - run.first) % run.step == 0

def inRuns (runs : List Run) (code : Nat) : Bool :=
  runs.any (·.contains code)

end SchemaCompiler.Text
