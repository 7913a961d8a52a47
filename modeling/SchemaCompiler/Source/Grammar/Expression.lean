import SchemaCompiler.Source.Grammar.Pattern
import SchemaCompiler.Source.Grammar.Type

/-!
# Expressions
-/

namespace SchemaCompiler.Source.Grammar

open Source.Parser

variable (grammar : Grammar)

-- ---------------------------------------------------------------------------
-- Operators
-- ---------------------------------------------------------------------------

/-- Operators between two expressions. One that starts with another stands before it. -/
def operatorTable : List (String × Precedence) := [
  ("+=", .assignment), ("-=", .assignment), ("*=", .assignment), ("/=", .assignment),
  ("%=", .assignment), ("^=", .assignment), ("&=", .assignment), ("|=", .assignment),
  ("<<=", .assignment), (">>=", .assignment), ("&&", .and), ("||", .or), ("<<", .shift),
  (">>", .shift), ("==", .comparison), ("<=", .comparison), ("!=", .comparison),
  (">=", .comparison), ("+", .sum), ("-", .sum), ("*", .product), ("/", .product),
  ("%", .product), ("^", .bitXor), ("&", .bitAnd), ("|", .bitOr), ("<", .comparison),
  (">", .comparison)]

def operator? (tokens : List Token) : Option (String × Precedence) :=
  operatorTable.find? fun (text, _) => atMark text tokens

def atAssignment (tokens : List Token) : Bool :=
  atMark "=" tokens && !atMark "=>" tokens

/-- How tightly what follows an expression binds it. -/
def nextPrecedence (tokens : List Token) : Precedence :=
  match operator? tokens with
  | some (_, precedence) => precedence
  | none =>
    if atAssignment tokens then .assignment
    else if atMark ".." tokens then .range
    else if atWord "as" tokens then .cast
    else .lowest

/-- The tokens behind the two dots of a range that has no upper end. -/
def atOpenRangeEnd (allowRecord : Bool) (tokens : List Token) : Bool :=
  atEnd tokens || (atMark "." tokens && !atMark ".." tokens) ||
    (!allowRecord && atOpening .brace tokens) || atWord "as" tokens ||
    atAnyMark [",", ";", "?", "=>", "=", "+", "/", "%", "^", ">", "<=", "!=", "-=", "*=", "&=",
      "|=", "<<="] tokens

def expressionRange (allowRecord : Bool) : Parser ExpressionForm := do
  let isClosed ← rangeDots
  unless !isClosed && (← test (atOpenRangeEnd allowRecord)) do
    let _ ← grammar.rightSide allowRecord .range
  pure .range

/-- What would apply to the type of a cast instead of its value. -/
def atAppliedCast (tokens : List Token) : Bool :=
  (atMark "." tokens && !atMark ".." tokens) || atMark "?" tokens || atOpening .bracket tokens ||
    atOpening .parenthesis tokens

def operatorsRule (left : ExpressionForm) (allowRecord : Bool) (least : Precedence) :
    Parser ExpressionForm := do
  let next ← tokens
  if left = .range then pure left
  else match operator? next with
    | some (text, precedence) =>
      if precedence.rank < least.rank then pure left
      else if precedence = .comparison ∧ left = .comparison then fail
      else
        advance text.length
        let _ ← grammar.rightSide allowRecord precedence
        let form := if precedence = .comparison then .comparison else .other
        grammar.operators form allowRecord least
    | none =>
      if least.rank ≤ Precedence.assignment.rank ∧ atAssignment next then
        advance 1
        let _ ← grammar.rightSide allowRecord .assignment
        grammar.operators .other allowRecord least
      else if least.rank ≤ Precedence.range.rank ∧ atMark ".." next then
        expressionRange grammar allowRecord
      else if least.rank ≤ Precedence.cast.rank ∧ atWord "as" next then
        advance 1
        let _ ← grammar.type false
        if ← test atAppliedCast then fail
        grammar.operators .other allowRecord least
      else pure left

/-- Takes in what binds more tightly than the operator to the left. -/
def climb (allowRecord : Bool) (operator : Precedence) (form : ExpressionForm) :
    Parser (Option ExpressionForm) := do
  let before ← tokens
  let next := nextPrecedence before
  if operator.rank < next.rank ∨ (next = operator ∧ operator = .assignment) then
    let form ← grammar.operators form allowRecord next
    if (← tokens).length = before.length then pure none else pure (some form)
  else pure none

def rightSideRule (allowRecord : Bool) (operator : Precedence) : Parser ExpressionForm := do
  iterate (climb grammar allowRecord operator) (← grammar.unary allowRecord)

def expressionRule (allowRecord : Bool) : Parser ExpressionForm := do
  grammar.operators (← grammar.unary allowRecord) allowRecord .lowest

-- ---------------------------------------------------------------------------
-- Calls, fields and indices
-- ---------------------------------------------------------------------------

def callArguments : Parser Unit := do
  let _ ← group .parenthesis (commaSeparated grammar.expression)

def isIndexText (written : List Char) : Bool :=
  !written.isEmpty && written.all fun c => c.isDigit || c = '_'

/-- Two field numbers that look like one number with a point. It may end with the point
before the next field. -/
def fieldNumbers : Parser Bool := do
  match ← tokens with
  | ⟨.float written, _⟩ :: _ =>
    let endsWithPoint := written.getLast? = some '.'
    let whole := if endsWithPoint then written.dropLast else written
    if (Text.pieces '.' whole).all isIndexText then
      advance 1
      pure !endsWithPoint
    else fail
  | _ => pure false

def fieldOrMethod : Parser Unit := do
  unless ← fieldNumbers do
    unless ← keyword? "await" do
      let isNamed ← member
      if isNamed then
        let hasArguments ← mark? "::"
        if hasArguments then
          let _ ← genericArguments grammar
        if hasArguments || (← test (atOpening .parenthesis)) then callArguments grammar

def nextTrailer (form : ExpressionForm) : Parser (Option ExpressionForm) := do
  let next ← tokens
  if atOpening .parenthesis next then
    callArguments grammar
    pure (some .other)
  else if atOpening .bracket next then
    let _ ← group .bracket grammar.expression
    pure (some .other)
  else if form = .range then pure none
  else if atMark "." next && !atMark ".." next then
    advance 1
    fieldOrMethod grammar
    pure (some .other)
  else if atMark "?" next then
    advance 1
    pure (some .other)
  else pure none

def trailers (form : ExpressionForm) : Parser ExpressionForm :=
  iterate (nextTrailer grammar) form

-- ---------------------------------------------------------------------------
-- Control flow
-- ---------------------------------------------------------------------------

/-- One condition of a chain and its block; whether another one follows. -/
def branch (_ : Unit) : Parser (Option Unit) := do
  keyword "if"
  let _ ← grammar.expression false
  block grammar
  if ← keyword? "else" then
    if ← test (atWord "if") then pure (some ())
    else
      block grammar
      pure none
  else pure none

def whileLoop : Parser Unit := do
  keyword "while"
  let _ ← grammar.expression false
  attributedBlock grammar

def forLoop : Parser Unit := do
  keyword "for"
  let _ ← patterns grammar
  keyword "in"
  let _ ← grammar.expression false
  attributedBlock grammar

def endlessLoop : Parser Unit := do
  keyword "loop"
  attributedBlock grammar

def matchArm : Parser Unit := do
  let _ ← outerAttributes grammar
  let _ ← patterns grammar
  if ← keyword? "if" then
    let _ ← grammar.expression
  mark "=>"
  let body ← grammar.standalone
  if body ≠ .block ∧ !(← test atEnd) then mark ","
  else
    let _ ← mark? ","

def matchExpression : Parser Unit := do
  keyword "match"
  let _ ← grammar.expression false
  group .brace do
    let _ ← innerAttributes grammar
    let _ ← many atEnd (matchArm grammar)

def labeled : Parser Unit := do
  lifetime
  mark ":"
  let start ← tokens
  if atWord "while" start then whileLoop grammar
  else if atWord "for" start then forLoop grammar
  else if atWord "loop" start then endlessLoop grammar
  else attributedBlock grammar

/-- Whether lifetimes follow a `for`, which then starts no loop. -/
def atLifetimes (tokens : List Token) : Bool :=
  let next := afterTree (afterTree tokens)
  atMark "<" (afterTree tokens) && (atLifetime next || atMark ">" next)

/-- Reads an expression that ends with its block, if there is one. -/
def blockExpression? : Parser Bool := do
  let start ← tokens
  let isBeforeBlock := atOpening .brace (afterTree start)
  if atWord "if" start then iterate (branch grammar) ()
  else if atWord "while" start then whileLoop grammar
  else if atWord "for" start && !atLifetimes start then forLoop grammar
  else if atWord "loop" start then endlessLoop grammar
  else if atWord "match" start then matchExpression grammar
  else if atWord "try" start && isBeforeBlock then
    advance 1
    block grammar
  else if atWord "unsafe" start || (atWord "const" start && isBeforeBlock) then
    advance 1
    attributedBlock grammar
  else if atOpening .brace start then attributedBlock grammar
  else if atLifetime start then labeled grammar
  else return false
  return true

-- ---------------------------------------------------------------------------
-- Jumps and closures
-- ---------------------------------------------------------------------------

def atExpression (tokens : List Token) : Bool :=
  (word? tokens).isSome || atAnyOpening tokens || atLiteral tokens || atLifetime tokens ||
    (atMark "!" tokens && !atMark "!=" tokens) ||
    (atMark "-" tokens && !atAnyMark ["-=", "->"] tokens) ||
    (atMark "*" tokens && !atMark "*=" tokens) || (atMark "|" tokens && !atMark "|=" tokens) ||
    (atMark "&" tokens && !atMark "&=" tokens) || atAnyMark ["..", "::", "#"] tokens ||
    (atMark "<" tokens && !atAnyMark ["<=", "<<="] tokens)

def jumpValue : Parser Unit := do
  if ← test atExpression then
    let _ ← grammar.expression

/-- A jump out of a loop. A label with a colon would start another loop. -/
def breakExpression (allowRecord : Bool) : Parser Unit := do
  let start ← tokens
  if atLifetime start && atMark ":" (afterTree start) then
    let _ ← grammar.expression
    failAt (lineOf start)
  let _ ← lifetime?
  if allowRecord || !(← test (atOpening .brace)) then jumpValue grammar

def closureParameter : Parser Unit := do
  let _ ← outerAttributes grammar
  let _ ← grammar.pattern
  if ← mark? ":" then
    let _ ← grammar.type

def closure (allowRecord : Bool) : Parser Unit := do
  let _ ← boundLifetimes? grammar
  let _ ← keyword? "const"
  let _ ← keyword? "static"
  let _ ← keyword? "async"
  let _ ← keyword? "move"
  mark "|"
  let _ ← separated "," (atMark "|") (closureParameter grammar)
  mark "|"
  if ← mark? "->" then
    let _ ← grammar.type
    block grammar
  else
    let _ ← grammar.expression allowRecord

def atClosure (tokens : List Token) : Bool :=
  let next := afterTree tokens
  atMark "|" tokens || atAnyWord ["move", "static"] tokens ||
    (atWord "for" tokens && atLifetimes tokens) ||
    (atWord "const" tokens && !atOpening .brace next) ||
    (atWord "async" tokens && (atMark "|" next || atWord "move" next))

def atAsyncBlock (tokens : List Token) : Bool :=
  let next := afterTree tokens
  atWord "async" tokens &&
    (atOpening .brace next || (atWord "move" next && atOpening .brace (afterTree next)))

-- ---------------------------------------------------------------------------
-- Atoms
-- ---------------------------------------------------------------------------

/-- A field of a record literal, or the record to take the others from. -/
def fieldValue : Parser Bool := do
  if ← mark? ".." then
    unless ← test atEnd do
      let _ ← grammar.expression
    pure false
  else
    let _ ← outerAttributes grammar
    let isNamed ← member
    if !isNamed || (← test (atMark ":")) then
      mark ":"
      let _ ← grammar.expression
    pure true

def pathExpression (allowRecord : Bool) : Parser ExpressionForm := do
  let path ← qualifiedPath grammar true
  let next ← tokens
  if path.isPlain && atMark "!" next && !atMark "!=" next then
    advance 1
    let isBraced ← test (atOpening .brace)
    anyGroup
    pure (if isBraced then .bracedMacro else .other)
  else
    if allowRecord && atOpening .brace next then group .brace (fieldList (fieldValue grammar))
    pure .other

def arrayElements : Parser Unit := do
  unless ← test atEnd do
    let _ ← grammar.expression
    if ← mark? ";" then
      let _ ← grammar.expression
    else unless ← test atEnd do
      mark ","
      let _ ← commaSeparated grammar.expression

def letExpression (allowRecord : Bool) : Parser Unit := do
  let _ ← patterns grammar
  mark "="
  let _ ← grammar.operators (← grammar.unary allowRecord) allowRecord .comparison

def atPathExpression (tokens : List Token) : Bool :=
  let next := afterTree tokens
  atPathWord tokens || atAnyMark ["::", "<"] tokens ||
    (atWord "try" tokens && atAnyMark ["!", "::"] next)

/-- An expression that starts with a keyword of its own. -/
def wordExpression (allowRecord : Bool) : Parser Unit := do
  let start ← tokens
  if atAnyWord ["return", "yield"] start then
    advance 1
    jumpValue grammar
  else if atWord "break" start then
    advance 1
    breakExpression grammar allowRecord
  else if atWord "continue" start then
    advance 1
    let _ ← lifetime?
  else if atWord "become" start then
    advance 1
    let _ ← grammar.expression
  else if atWord "let" start then
    advance 1
    letExpression grammar allowRecord
  else keyword "_"

def atom (allowRecord : Bool) : Parser ExpressionForm := do
  let start ← tokens
  if atLiteral start then
    advance 1
    pure .other
  else if atAsyncBlock start then
    advance 1
    let _ ← keyword? "move"
    block grammar
    pure .other
  else if atClosure start then
    closure grammar allowRecord
    pure .other
  else if atPathExpression start then pathExpression grammar allowRecord
  else if atOpening .parenthesis start then
    let _ ← group .parenthesis (commaSeparated grammar.expression)
    pure .other
  else if atOpening .bracket start then
    group .bracket (arrayElements grammar)
    pure .other
  else if atMark ".." start then expressionRange grammar allowRecord
  else if ← blockExpression? grammar then pure .block
  else
    wordExpression grammar allowRecord
    pure .other

-- ---------------------------------------------------------------------------
-- Prefixed expressions
-- ---------------------------------------------------------------------------

/-- What stands between an ampersand and the place it refers to. -/
def referenceKind : Parser Unit := do
  if ← test fun tokens =>
      atWord "raw" tokens && atAnyWord ["mut", "const"] (afterTree tokens) then
    advance 2
  else
    let _ ← keyword? "mut"

/-- Attributes do not go with a range that starts with its dots. -/
def unaryRule (allowRecord : Bool) : Parser ExpressionForm := do
  let attributes ← outerAttributes grammar
  let start ← tokens
  if atMark "&" start then
    advance 1
    referenceKind
    let _ ← grammar.unary allowRecord
    pure .other
  else if atAnyMark ["*", "!", "-"] start then
    advance 1
    let _ ← grammar.unary allowRecord
    pure .other
  else
    let form ← trailers grammar (← atom grammar allowRecord)
    if form = .range ∧ !attributes.isEmpty then failAt (lineOf start)
    pure form

/-- An expression goes on behind its block only with a point or question mark. -/
def standaloneRule : Parser ExpressionForm := do
  let _ ← outerAttributes grammar
  if ← blockExpression? grammar then
    if ← test fun tokens =>
        (atMark "." tokens && !atMark ".." tokens) || atMark "?" tokens then
      grammar.operators (← trailers grammar .block) true .lowest
    else pure .block
  else grammar.operators (← grammar.unary true) true .lowest

end SchemaCompiler.Source.Grammar
