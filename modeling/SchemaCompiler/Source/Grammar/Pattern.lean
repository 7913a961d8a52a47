import SchemaCompiler.Source.Grammar.Path

/-!
# Patterns

A pattern tells the line of its dots if it is a range that lacks an end.
-/

namespace SchemaCompiler.Source.Grammar

open Source.Parser

variable (grammar : Grammar)

/-- The dots of a range, and whether its end belongs to it. -/
def rangeDots : Parser Bool := do
  if ← mark? "..=" then pure true
  else if ← test (atMark "...") then fail
  else
    mark ".."
    pure false

/-- The dots of a range, of which three may be written for an end that belongs to it. -/
def patternDots : Parser Bool := do
  if ← mark? "..." then pure true else rangeDots

def atBar (tokens : List Token) : Bool :=
  atMark "|" tokens && !atAnyMark ["||", "|="] tokens

def nextAlternative (_ : Option Nat) : Parser (Option (Option Nat)) := do
  if ← take? 1 atBar then
    let _ ← grammar.pattern
    pure (some none)
  else pure none

def patterns : Parser (Option Nat) := do
  let isLed ← mark? "|"
  let first ← grammar.pattern
  iterate (nextAlternative grammar) (if isLed then none else first)

-- ---------------------------------------------------------------------------
-- Ranges
-- ---------------------------------------------------------------------------

def atRangeStop (tokens : List Token) : Bool :=
  atEnd tokens || atAnyMark ["|", "=", ",", ";"] tokens ||
    (atMark ":" tokens && !atMark "::" tokens) || atWord "if" tokens

def rangeEnd? : Parser Bool := do
  let start ← tokens
  if atRangeStop start then pure false
  else
    match literalSize? start with
    | some size => advance size
    | none =>
      if atPathWord start || atAnyMark ["::", "<"] start then
        let _ ← qualifiedPath grammar true
      else if atWord "const" start then
        advance 1
        attributedBlock grammar
      else fail
    pure true

/-- The dots and upper end of a range. A range that includes its upper end has one. -/
def rangeRest (dots : Parser Bool) : Parser (Bool × Bool) := do
  let isClosed ← dots
  let hasEnd ← rangeEnd? grammar
  if isClosed && !hasEnd then fail
  pure (isClosed, hasEnd)

def upwardRange : Parser (Option Nat) := do
  let line := lineOf (← tokens)
  let (_, hasEnd) ← rangeRest grammar patternDots
  pure (if hasEnd then none else some line)

def literalPattern : Parser (Option Nat) := do
  let _ ← rangeEnd? grammar
  if ← test (atMark "..") then upwardRange grammar else pure none

def downwardRange : Parser (Option Nat) := do
  let line := lineOf (← tokens)
  let (_, hasEnd) ← rangeRest grammar rangeDots
  pure (if hasEnd then some line else none)

-- ---------------------------------------------------------------------------
-- Groups
-- ---------------------------------------------------------------------------

def patternList : Parser Unit := do
  let _ ← commaSeparated (patterns grammar)

/-- An element of a slice, which is no range that lacks an end. -/
def slicePattern : Parser Unit := do
  match ← patterns grammar with
  | some line => failAt line
  | none => pure ()

/-- The number of a field: digits and nothing behind them. -/
def atIndex : List Token → Bool
  | ⟨.integer written, _⟩ :: _ => written.all fun c => c.isDigit || c = '_'
  | _ => false

/-- A field's name or number, and whether it is a name. -/
def member : Parser Bool := do
  if ← take? 1 atName then pure true
  else
    expect 1 atIndex
    pure false

/-- A field; whether others may follow. -/
def fieldPattern : Parser Bool := do
  let _ ← outerAttributes grammar
  if ← mark? ".." then pure false
  else
    let isBoxed ← keyword? "box"
    let isReference ← keyword? "ref"
    let isMutable ← keyword? "mut"
    if isBoxed || isReference || isMutable then
      let _ ← name
    else
      let isNamed ← member
      if !isNamed || (← test (atMark ":")) then
        mark ":"
        let _ ← patterns grammar
    pure true

/-- Fields with commas between them, up to one that is the last. -/
def nextField (field : Parser Bool) (_ : Unit) : Parser (Option Unit) := do
  if ← test atEnd then pure none
  else if ← field then
    if ← test atEnd then pure none
    else
      mark ","
      pure (some ())
  else pure none

def fieldList (field : Parser Bool) : Parser Unit :=
  iterate (nextField field) ()

-- ---------------------------------------------------------------------------
-- Single patterns
-- ---------------------------------------------------------------------------

def pathPattern : Parser (Option Nat) := do
  let path ← qualifiedPath grammar true
  let next ← tokens
  if path.isPlain && atMark "!" next && !atMark "!=" next then
    advance 1
    anyGroup
    pure none
  else if atOpening .brace next then
    group .brace (fieldList (fieldPattern grammar))
    pure none
  else if atOpening .parenthesis next then
    group .parenthesis (patternList grammar)
    pure none
  else if atMark ".." next then upwardRange grammar
  else pure none

def bindingPattern : Parser (Option Nat) := do
  let _ ← keyword? "ref"
  let _ ← keyword? "mut"
  unless ← keyword? "self" do
    let _ ← name
  if ← mark? "@" then
    let _ ← grammar.pattern
  pure none

/-- Whether a name starts a pattern that is more than a binding. -/
def atPathPattern (tokens : List Token) : Bool :=
  let next := afterTree tokens
  (atName tokens &&
    (atAnyMark ["::", "!", ".."] next || atOpening .brace next || atOpening .parenthesis next)) ||
  (atWord "self" tokens && atMark "::" next) || atAnyMark ["::", "<"] tokens ||
  atAnyWord ["Self", "super", "crate"] tokens

def patternRule : Parser (Option Nat) := do
  let start ← tokens
  if atPathPattern start then pathPattern grammar
  else if atWord "_" start then
    advance 1
    pure none
  else if atWord "box" start then
    advance 1
    let _ ← grammar.pattern
    pure none
  else if atMark "-" start || atLiteral start || atWord "const" start then literalPattern grammar
  else if atAnyWord ["ref", "mut", "self"] start || atName start then bindingPattern grammar
  else if atMark "&" start then
    advance 1
    let _ ← keyword? "mut"
    let _ ← grammar.pattern
    pure none
  else if atOpening .parenthesis start then
    group .parenthesis (patternList grammar)
    pure none
  else if atOpening .bracket start then
    let _ ← group .bracket (commaSeparated (slicePattern grammar))
    pure none
  else if atMark ".." start && !atMark "..." start then downwardRange grammar
  else fail

end SchemaCompiler.Source.Grammar
