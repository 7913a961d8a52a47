import SchemaCompiler.Source.Grammar.Path

/-!
# Types and bounds
-/

namespace SchemaCompiler.Source.Grammar

open Source.Parser

variable (grammar : Grammar)

def returnType (allowPlus : Bool) : Parser Unit := do
  if ← mark? "->" then
    let _ ← grammar.type allowPlus

def boundLifetimes? : Parser Bool := do
  if ← keyword? "for" then
    mark "<"
    let _ ← separated "," (atMark ">") do
      let _ ← outerAttributes grammar
      lifetime
    mark ">"
    pure true
  else pure false

def convention? : Parser Bool := do
  if ← keyword? "extern" then
    let _ ← take? 1 atText
    pure true
  else pure false

-- ---------------------------------------------------------------------------
-- Bounds
-- ---------------------------------------------------------------------------

def atParenthesizedArguments (tokens : List Token) : Bool :=
  atOpening .parenthesis tokens ||
    (atMark "::" tokens && atOpening .parenthesis (afterTree (afterTree tokens)))

def traitBound : Parser Unit := do
  let hasLifetimes ← boundLifetimes? grammar
  let isOptional ← mark? "?"
  if isOptional && !hasLifetimes then
    let _ ← boundLifetimes? grammar
  let segments ← path grammar false
  if segments.getLast?.any (!·.hasArguments) && (← test atParenthesizedArguments) then
    let _ ← mark? "::"
    let _ ← group .parenthesis (commaSeparated grammar.type)
    returnType grammar false

def capturedParameter : Parser Unit :=
  expect 1 fun tokens => atLifetime tokens || atName tokens || atWord "Self" tokens

/-- The parameters that an opaque type depends on. -/
def capture : Parser Unit := do
  keyword "use"
  mark "<"
  let _ ← separated "," (atMark ">") capturedParameter
  mark ">"

def boundRule (allowCapture : Bool) : Parser Bool := do
  if ← lifetime? then pure false
  else if ← test (atWord "use") then
    let line := lineOf (← tokens)
    capture
    if allowCapture then pure false else failAt line
  else if ← test (atOpening .parenthesis) then
    group .parenthesis (traitBound grammar)
    pure true
  else
    traitBound grammar
    pure true

def atBound (tokens : List Token) : Bool :=
  (word? tokens).isSome || atAnyMark ["::", "?"] tokens || atLifetime tokens ||
    atOpening .parenthesis tokens

/-- A further bound behind a plus sign, unless the sign is the last thing. -/
def nextBound (allowCapture isTrait : Bool) : Parser (Option Bool) := do
  if ← mark? "+" then
    if ← test atBound then return some ((← grammar.bound allowCapture) || isTrait)
    else pure none
  else pure none

/-- The bounds of a trait object or opaque type. One of them is a trait; if not, it fails
at the line of its first token. -/
def objectBounds (line : Nat) (allowPlus allowCapture : Bool) : Parser Unit := do
  let first ← grammar.bound allowCapture
  let hasTrait ←
    if allowPlus then iterate (nextBound grammar allowCapture) first else pure first
  unless hasTrait do failAt line

-- ---------------------------------------------------------------------------
-- Types
-- ---------------------------------------------------------------------------

def argumentName : Parser Unit := do
  if ← test fun tokens =>
      (atName tokens || atAnyWord ["_", "self"] tokens) && atMark ":" (afterTree tokens) &&
        !atMark "::" (afterTree tokens) then
    advance 2

def pointerArgument : Parser Unit := do
  let _ ← outerAttributes grammar
  argumentName
  unless ← mark? "..." do
    let _ ← grammar.type

def functionPointer : Parser Unit := do
  let _ ← boundLifetimes? grammar
  let _ ← keyword? "unsafe"
  let _ ← convention?
  keyword "fn"
  let _ ← group .parenthesis (commaSeparated (pointerArgument grammar))
  returnType grammar false

/-- Passes over the bounds that make a path or parenthesized type a trait object. -/
def moreBounds : Parser Unit := do
  let _ ← iterate (nextBound grammar false) true

def pathType (isObject allowPlus : Bool) : Parser TypeExpr := do
  let path ← qualifiedPath grammar false
  if path.isQualified then pure path.type
  else if path.isPlain && (← test fun tokens => atMark "!" tokens && !atMark "!=" tokens) then
    advance 1
    anyGroup
    pure .other
  else if isObject || (allowPlus && (← test (atMark "+"))) then
    if allowPlus then moreBounds grammar
    pure .other
  else pure path.type

/-- What stands between the parentheses of a type. -/
inductive Enclosed where
  | whole (type : TypeExpr)
  /-- A type that parentheses are put around, and whether it is a path. -/
  | inner (type : TypeExpr) (isPath : Bool)
  | optionalTrait

def enclosed : Parser Enclosed := do
  let start ← tokens
  if atEnd start then pure (.whole .unit)
  else if atLifetime start then
    objectBounds grammar (lineOf start) true false
    pure (.whole (.parenthesized .other))
  else if atMark "?" start then
    traitBound grammar
    pure .optionalTrait
  else
    let first ← grammar.type
    if ← mark? "," then
      let _ ← commaSeparated grammar.type
      pure (.whole .other)
    else
      let isPath := (atPathWord start || atMark "::" start) && !(first matches .other)
      pure (.inner first isPath)

def parenthesizedType (allowPlus : Bool) : Parser TypeExpr := do
  match ← group .parenthesis (enclosed grammar) with
  | .whole type => pure type
  | .optionalTrait =>
    moreBounds grammar
    pure .other
  | .inner type isPath =>
    if isPath && allowPlus && (← test (atMark "+")) then
      moreBounds grammar
      pure .other
    else pure (.parenthesized type)

def bracketedType : Parser TypeExpr := do
  let element ← grammar.type
  if ← mark? ";" then
    let _ ← grammar.expression
    pure (.array element)
  else pure (.slice element)

def rawPointer : Parser TypeExpr := do
  mark "*"
  expect 1 (atAnyWord ["const", "mut"])
  return .pointer (← grammar.type false)

def referenceType : Parser TypeExpr := do
  mark "&"
  let _ ← lifetime?
  let _ ← keyword? "mut"
  return .reference (← grammar.type false)

def atTypePath (tokens : List Token) : Bool :=
  atPathWord tokens || atAnyMark ["::", "<"] tokens

/-- What may follow the lifetimes of a type. -/
def atQuantified (tokens : List Token) : Bool :=
  atPathWord tokens || atAnyWord ["fn", "unsafe", "extern"] tokens

def typeRule (allowPlus : Bool) : Parser TypeExpr := do
  let isObject ← boundLifetimes? grammar
  let start ← tokens
  if isObject && !atQuantified start then fail
  else if atOpening .parenthesis start then parenthesizedType grammar allowPlus
  else if atAnyWord ["fn", "unsafe", "extern"] start then
    functionPointer grammar
    pure .other
  else if atTypePath start then pathType grammar isObject allowPlus
  else if atWord "dyn" start then
    advance 1
    let _ ← mark? "*"
    objectBounds grammar (lineOf start) allowPlus false
    pure .other
  else if atOpening .bracket start then group .bracket (bracketedType grammar)
  else if atMark "*" start then rawPointer grammar
  else if atMark "&" start then referenceType grammar
  else if atMark "!" start || atWord "_" start then
    advance 1
    pure .other
  else if atWord "impl" start then
    advance 1
    objectBounds grammar (lineOf start) allowPlus true
    pure .other
  else if atLifetime start then
    objectBounds grammar (lineOf start) true false
    pure .other
  else fail

end SchemaCompiler.Source.Grammar
