import SchemaCompiler.Naming.Inflection
import SchemaCompiler.Text.Quoted
import SchemaCompiler.Text.Split

/-!
# Pieces of generated code

Code is a list of lines. Identifiers and literals of the generated language are
made here.
-/

namespace SchemaCompiler.Code

open Text

-- ---------------------------------------------------------------------------
-- Blocks
-- ---------------------------------------------------------------------------

def opening : String := "\x7b"

def closing : String := "\x7d"

/-- Four more spaces before every line that is not empty. -/
def indent (lines : List String) : List String :=
  lines.map fun line => if line = "" then "" else "    " ++ line

/-- Lines in braces after `head`; `tail` follows the brace that closes. -/
def block (head : String) (body : List String) (tail : String := "") : List String :=
  (head ++ " " ++ opening) :: indent body ++ [closing ++ tail]

def braced (inner : String) : String :=
  opening ++ " " ++ inner ++ " " ++ closing

/-- Groups of lines with an empty line between them. -/
def paragraphs : List (List String) → List String
  | [] => []
  | [group] => group
  | group :: rest => group ++ "" :: paragraphs rest

-- ---------------------------------------------------------------------------
-- Literals
-- ---------------------------------------------------------------------------

def slice (items : List String) : String :=
  "&[" ++ join ", " (items.map quoted) ++ "]"

def optionLiteral : Option String → String
  | some text => "Some(" ++ quoted text ++ ")"
  | none => "None"

def boolLiteral (b : Bool) : String :=
  if b then "true" else "false"

-- ---------------------------------------------------------------------------
-- Identifiers
-- ---------------------------------------------------------------------------

/-- The words that the generated language reserves. -/
def keywords : List String := [
  "as", "async", "await", "break", "const", "continue", "crate", "dyn", "else", "enum",
  "extern", "false", "fn", "for", "if", "impl", "in", "let", "loop", "match", "mod", "move",
  "mut", "pub", "ref", "return", "self", "static", "struct", "super", "trait", "true", "type",
  "unsafe", "use", "where", "while", "abstract", "become", "box", "do", "final", "gen", "macro",
  "override", "priv", "try", "typeof", "unsized", "virtual", "yield"]

/-- A module name; a reserved word is written in raw form. -/
def identifier (name : String) : String :=
  if keywords.contains name then "r#" ++ name else name

def constantText (cs : List Char) : List Char :=
  let upper := cs.flatMap uppercase
  if upper.head?.any Char.isDigit then '_' :: upper else upper

/-- Upper snake case, with an underscore before a digit at the start. -/
def constantName (name : String) : String :=
  .ofList (constantText (Naming.snake name).toList)

-- ---------------------------------------------------------------------------
-- Items
-- ---------------------------------------------------------------------------

inductive Value where
  | inline (text : String)
  /-- A slice with its items on lines of their own. -/
  | items (lines : List String)

/-- A public constant and the comment before it. -/
structure Constant where
  docs : List String := []
  name : String
  type : String
  value : Value

def Constant.lines (constant : Constant) : List String :=
  let head := "pub const " ++ constant.name ++ ": " ++ constant.type ++ " = "
  constant.docs.map ("/// " ++ ·) ++
    match constant.value with
    | .inline text => [head ++ text ++ ";"]
    | .items lines => [head ++ "&["] ++ indent lines ++ ["];"]

structure Method where
  docs : List String := []
  name : String
  parameters : String
  result : String
  body : List String

def Method.lines (method : Method) : List String :=
  method.docs.map ("/// " ++ ·) ++
    block ("pub fn " ++ method.name ++ "(" ++ method.parameters ++ ") -> " ++ method.result)
      method.body

end SchemaCompiler.Code
