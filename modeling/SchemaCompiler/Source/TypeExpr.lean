import SchemaCompiler.Declaration
import SchemaCompiler.Text.Split

/-!
# Type expressions

The types that source text writes, and the shape of each: its base without the
pointers and collections around it.
-/

namespace SchemaCompiler.Source

inductive TypeExpr where
  | reference (target : TypeExpr)
  | pointer (target : TypeExpr)
  | slice (element : TypeExpr)
  | array (element : TypeExpr)
  | parenthesized (inner : TypeExpr)
  /-- A path whose last segment has no type among its arguments. -/
  | named (path : List String)
  /-- A path and the first type among the arguments of its last segment. -/
  | applied (path : List String) (argument : TypeExpr)
  | unit
  /-- Any other form of type. -/
  | other
deriving DecidableEq, Repr

/-- What a generic type holds its argument in. -/
inductive Wrapper where
  | pointer
  | collection
deriving DecidableEq, Repr

def Wrapper.ofName? (name : String) : Option Wrapper :=
  if name ∈ ["Option", "Box", "Rc", "Arc"] then some .pointer
  else if name ∈ ["Vec", "VecDeque", "LinkedList", "HashSet", "BTreeSet"] then some .collection
  else none

/-- The wrapper that a path names by its last segment. -/
def Wrapper.ofPath? (path : List String) : Option Wrapper :=
  path.getLast?.bind ofName?

def Wrapper.around (wrapper : Wrapper) (shape : TypeShape) : TypeShape :=
  match wrapper with
  | pointer => { shape with isPointer := true }
  | collection => { shape with isCollection := true }

/-- The shape of a type. A wrapper counts only if it has a type to hold. -/
def TypeExpr.shape : TypeExpr → TypeShape
  | reference target | pointer target => Wrapper.pointer.around target.shape
  | slice element | array element => Wrapper.collection.around element.shape
  | parenthesized inner => inner.shape
  | named path => { base := Text.join "::" path }
  | applied path argument =>
    match Wrapper.ofPath? path with
    | some wrapper => wrapper.around argument.shape
    | none => { base := Text.join "::" path }
  | unit => { base := "()" }
  | other => { base := "unknown" }

end SchemaCompiler.Source
