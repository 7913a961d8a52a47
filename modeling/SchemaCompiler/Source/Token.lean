import SchemaCompiler.Text.Identifier

/-!
# Tokens of source text

Source text is read as words, literals, punctuation marks and delimiters. Every
token knows the line on which it starts.
-/

namespace SchemaCompiler.Source

open Text

/-- A name or keyword. A raw one is written with a mark before it. -/
structure Word where
  isRaw : Bool := false
  first : Char
  rest : List Char
  starts : startsIdentifier first = true := by decide
  continues : rest.all continuesIdentifier = true := by decide
deriving DecidableEq, Repr

namespace Word

/-- The word without its mark. -/
def name (word : Word) : String :=
  .ofList (word.first :: word.rest)

def text (word : Word) : String :=
  if word.isRaw then "r#" ++ word.name else word.name

def length (word : Word) : Nat :=
  word.rest.length + if word.isRaw then 3 else 1

/-- The word that documentation stands for. -/
def doc : Word where
  first := 'd'
  rest := ['o', 'c']

end Word

inductive Delimiter where
  | parenthesis
  | bracket
  | brace
deriving DecidableEq, Repr

inductive TokenShape where
  | word (word : Word)
  /-- A name after a quote. -/
  | lifetime (text : String)
  /-- A string literal, with the text it stands for. -/
  | text (value : String)
  | integer (written : List Char)
  | float (written : List Char)
  /-- A byte, character, byte string or terminated string. -/
  | literal
  /-- One character of punctuation, and whether another one follows at once. -/
  | mark (char : Char) (isJoint : Bool)
  | opening (delimiter : Delimiter)
  | closing (delimiter : Delimiter)
deriving DecidableEq, Repr

structure Token where
  shape : TokenShape
  line : Nat
deriving DecidableEq, Repr

/-- Source text that cannot be read, by the line at which it goes wrong. -/
structure SyntaxError where
  line : Nat
deriving DecidableEq, Repr

def Delimiter.ofOpening? : Char → Option Delimiter
  | '(' => some .parenthesis
  | '[' => some .bracket
  | '{' => some .brace
  | _ => none

def Delimiter.ofClosing? : Char → Option Delimiter
  | ')' => some .parenthesis
  | ']' => some .bracket
  | '}' => some .brace
  | _ => none

def keywords : List String := [
  "_", "abstract", "as", "async", "await", "become", "box", "break", "const", "continue", "crate",
  "do", "dyn", "else", "enum", "extern", "false", "final", "fn", "for", "if", "impl", "in", "let",
  "loop", "macro", "match", "mod", "move", "mut", "override", "priv", "pub", "ref", "return",
  "Self", "self", "static", "struct", "super", "trait", "true", "try", "type", "typeof", "unsafe",
  "unsized", "use", "virtual", "where", "while", "yield"]

end SchemaCompiler.Source
