import SchemaCompiler.Source.Grammar.Basic

/-!
# Attributes and plain paths

Attributes of items, fields and expressions, with the paths that have no
arguments.
-/

namespace SchemaCompiler.Source.Grammar

open Source.Parser

variable (grammar : Grammar)

/-- The words besides names with which a path may start or go on. -/
def pathWords : List String :=
  ["super", "self", "Self", "crate"]

def atPathWord (tokens : List Token) : Bool :=
  atName tokens || atAnyWord pathWords tokens

def plainSegment (path : String) : Parser (Option String) := do
  if ← mark? "::" then
    if ← test atPathWord then pure (some (path ++ "::" ++ (← anyWord).text)) else fail
  else pure none

def plainPath : Parser String := do
  let start := if ← mark? "::" then "::" else ""
  if ← test atPathWord then iterate plainSegment (start ++ (← anyWord).text)
  else fail

/-- The word of a list that holds nothing else. -/
def listWord : Parser (Option String) := do
  match ← attempt name with
  | some word => return if ← test atEnd then some word.text else none
  | none => pure none

/-- A string literal that is all there is. -/
def loneText? : List Token → Option String
  | ⟨.text value, _⟩ :: rest => if atEnd rest then some value else none
  | _ => none

def attributeValue : Parser AttributeForm := do
  match loneText? (← tokens) with
  | some value => do advance 1; pure (.text value)
  | none =>
    if ← test fun tokens => atMark "#" tokens && atOpening .bracket (afterTree tokens) then fail
    else
      let _ ← grammar.expression
      pure .value

def attributeForm : Parser AttributeForm := do
  if ← test atAnyOpening then
    let word ← ahead (do advance 1; listWord)
    anyGroup
    pure (.list word)
  else if ← mark? "=" then attributeValue grammar
  else pure .bare

def attributeContent : Parser Attribute := do
  let path ← if ← keyword? "unsafe" then pure "unsafe" else plainPath
  return { path, form := ← attributeForm grammar }

def outerAttribute : Parser Attribute := do
  mark "#"
  group .bracket (attributeContent grammar)

def innerAttribute : Parser Attribute := do
  mark "#"
  mark "!"
  group .bracket (attributeContent grammar)

def outerAttributes : Parser (List Attribute) :=
  many (!atMark "#" ·) (outerAttribute grammar)

/-- Attributes inside of what they are about. -/
def innerAttributes : Parser (List Attribute) :=
  many (fun tokens => !(atMark "#" tokens && atMark "!" (afterTree tokens)))
    (innerAttribute grammar)

end SchemaCompiler.Source.Grammar
