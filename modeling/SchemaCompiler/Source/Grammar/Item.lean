import SchemaCompiler.Source.Grammar.Generics
import SchemaCompiler.Source.Grammar.Statement

/-!
# Items

Records and modules are kept. All other items are read and passed over.
-/

namespace SchemaCompiler.Source.Grammar

open Source.Parser

variable (grammar : Grammar)

/-- A visibility. Parentheses behind `pub` may belong to a type instead. -/
def visibility : Parser Visibility := do
  if ← keyword? "pub" then
    let inside := (← tokens).drop 1
    if !(← test (atOpening .parenthesis)) then pure .everywhere
    else if atAnyWord ["crate", "self", "super"] inside && atEnd (inside.drop 1) then
      advance 3
      pure .restricted
    else if atWord "in" inside then
      group .parenthesis do
        keyword "in"
        let _ ← plainPath
      pure .restricted
    else pure .everywhere
  else pure .inherited

def nameOrUnderscore : Parser Unit :=
  expect 1 fun tokens => atName tokens || atWord "_" tokens

def initialValue? : Parser Unit := do
  if ← mark? "=" then
    let _ ← grammar.expression

-- ---------------------------------------------------------------------------
-- Data types
-- ---------------------------------------------------------------------------

/-- The type of a field. One without a name may have its fields written out. -/
def fieldType (isNamed : Bool) : Parser TypeExpr := do
  let start ← tokens
  if !isNamed && atAnyWord ["struct", "union"] start && atOpening .brace (afterTree start) then
    advance 1
    anyGroup
    pure .other
  else grammar.type

def recordField : Parser RecordField := do
  let attributes ← outerAttributes grammar
  let visibility ← visibility
  let start ← tokens
  let isNamed := !atWord "_" start
  let name ← if isNamed then name else anyWord
  mark ":"
  let type ← fieldType grammar isNamed
  return { attributes, visibility, name, line := lineOf start, type }

def recordFields : Parser (List RecordField) :=
  group .brace (commaSeparated (recordField grammar))

def tupleField : Parser Unit := do
  let _ ← outerAttributes grammar
  let _ ← visibility
  let _ ← grammar.type

def tupleFields : Parser Unit := do
  let _ ← group .parenthesis (commaSeparated (tupleField grammar))

def recordItem (attributes : List Attribute) : Parser (Items → Items) := do
  keyword "struct"
  let line := lineOf (← tokens)
  let name ← name
  generics grammar
  let hasWhere ← test (atWord "where")
  whereClause grammar
  if ← test (atOpening .brace) then
    return .record { attributes, name, line, fields := ← recordFields grammar }
  else
    if !hasWhere && (← test (atOpening .parenthesis)) then
      tupleFields grammar
      whereClause grammar
    mark ";"
    pure .other

def variant : Parser Unit := do
  let _ ← outerAttributes grammar
  let _ ← visibility
  let _ ← name
  if ← test (atOpening .brace) then
    let _ ← recordFields grammar
  else if ← test (atOpening .parenthesis) then tupleFields grammar
  initialValue? grammar

def enumeration : Parser Unit := do
  keyword "enum"
  let _ ← name
  generics grammar
  whereClause grammar
  let _ ← group .brace (commaSeparated (variant grammar))

def union : Parser Unit := do
  keyword "union"
  let _ ← name
  generics grammar
  whereClause grammar
  let _ ← recordFields grammar

-- ---------------------------------------------------------------------------
-- Functions
-- ---------------------------------------------------------------------------

def withoutWord (text : String) (tokens : List Token) : List Token :=
  if atWord text tokens then tokens.drop 1 else tokens

/-- Whether a function's signature starts here. -/
def atSignature (allowSafe : Bool) (start : List Token) : Bool :=
  let tokens := withoutWord "async" (withoutWord "const" start)
  let tokens :=
    if allowSafe && atWord "safe" tokens then tokens.drop 1 else withoutWord "unsafe" tokens
  let tokens :=
    if atWord "extern" tokens then
      let rest := tokens.drop 1
      if atText rest then rest.drop 1 else rest
    else tokens
  atWord "fn" tokens

/-- The object that a method is called on, by its line. -/
def receiver : Parser Nat := do
  let isReference ← mark? "&"
  if isReference then
    let _ ← lifetime?
  let _ ← keyword? "mut"
  let line := lineOf (← tokens)
  keyword "self"
  unless isReference do
    if ← mark? ":" then
      let _ ← grammar.type
  pure line

/-- The dots for further arguments, which end a list. -/
def variadicEnd : Parser Unit := do
  unless ← test atEnd do mark ","

/-- An argument that is not the receiver; whether others may follow. -/
def typedArgument : Parser Bool := do
  if ← test fun tokens => atName tokens && atMark "<" (afterTree tokens) then
    let _ ← grammar.type
    pure true
  else
    let _ ← grammar.pattern
    mark ":"
    if ← mark? "..." then
      variadicEnd
      pure false
    else
      let _ ← grammar.type
      pure true

/-- The next argument. Only the first one can be the receiver. -/
def nextArgument (isFirst : Bool) : Parser (Option Bool) := do
  if ← test atEnd then pure none
  else
    let _ ← outerAttributes grammar
    if ← mark? "..." then
      variadicEnd
      pure none
    else
      let goesOn ← match ← attempt (receiver grammar) with
        | some line => if isFirst then pure true else failAt line
        | none => typedArgument grammar
      if !goesOn || (← test atEnd) then pure none
      else
        mark ","
        pure (some false)

def signature (allowSafe : Bool) : Parser Unit := do
  let _ ← keyword? "const"
  let _ ← keyword? "async"
  unless allowSafe && (← keyword? "safe") do
    let _ ← keyword? "unsafe"
  let _ ← convention?
  keyword "fn"
  let _ ← name
  generics grammar
  let _ ← group .parenthesis (iterate (nextArgument grammar) true)
  returnType grammar true
  whereClause grammar

/-- A function with its body, or only its signature. -/
def function (allowSafe : Bool) : Parser Unit := do
  signature grammar allowSafe
  unless ← mark? ";" do attributedBlock grammar

-- ---------------------------------------------------------------------------
-- Constants, aliases and macros
-- ---------------------------------------------------------------------------

def constant : Parser Unit := do
  keyword "const"
  nameOrUnderscore
  generics grammar
  mark ":"
  let _ ← grammar.type
  initialValue? grammar
  whereClause grammar
  mark ";"

def staticItem : Parser Unit := do
  keyword "static"
  let _ ← keyword? "mut"
  let _ ← name
  if ← mark? "=" then
    let _ ← grammar.expression
  else
    mark ":"
    let _ ← grammar.type
    if ← test (!atMark ";" ·) then
      mark "="
      let _ ← grammar.expression
  mark ";"

def atAliasEnd (tokens : List Token) : Bool :=
  atWord "where" tokens || atAnyMark ["=", ";"] tokens

/-- A type's name, bounds and definition. Its conditions stand before the definition or
behind it. -/
def typeAlias (whereFirst : Bool) : Parser Unit := do
  keyword "type"
  let _ ← name
  generics grammar
  if ← mark? ":" then
    let _ ← separated "+" atAliasEnd grammar.bound
  if whereFirst then whereClause grammar
  if ← mark? "=" then
    let _ ← grammar.type
  unless whereFirst do whereClause grammar
  mark ";"

/-- A macro call. One in braces needs no semicolon. -/
def macroCall (allowName : Bool) : Parser Unit := do
  let _ ← plainPath
  mark "!"
  if allowName then
    let _ ← take? 1 fun tokens => atName tokens || atWord "try" tokens
  let isBraced ← test (atOpening .brace)
  anyGroup
  unless isBraced do mark ";"

def macroDefinition : Parser Unit := do
  keyword "macro"
  let _ ← name
  if ← test (atOpening .parenthesis) then anyGroup
  if ← test (atOpening .brace) then anyGroup else fail

/-- Where a macro call may start as an item. -/
def atMacroCall (tokens : List Token) : Bool :=
  atName tokens || atAnyWord ["self", "super", "crate"] tokens || atMark "::" tokens

-- ---------------------------------------------------------------------------
-- Imports and foreign items
-- ---------------------------------------------------------------------------

def rename? : Parser Unit := do
  if ← keyword? "as" then nameOrUnderscore

def useBranch (allowRoot : Bool) : Parser Unit := do
  let isRoot ← if allowRoot then mark? "::" else pure false
  grammar.useTree (allowRoot && !isRoot)

def useTreeRule (allowRoot : Bool) : Parser Unit := do
  let start ← tokens
  if atName start || atAnyWord ["self", "super", "crate", "try"] start then
    advance 1
    if ← mark? "::" then grammar.useTree false else rename?
  else if atMark "*" start then advance 1
  else
    let _ ← group .brace (commaSeparated (useBranch grammar allowRoot))

def useItem : Parser Unit := do
  keyword "use"
  let isRoot ← mark? "::"
  grammar.useTree !isRoot
  mark ";"

def externCrate : Parser Unit := do
  keyword "extern"
  keyword "crate"
  unless ← keyword? "self" do
    let _ ← name
  rename?
  mark ";"

def foreignStatic : Parser Unit := do
  unless ← keyword? "unsafe" do
    let _ ← keyword? "safe"
  keyword "static"
  let _ ← keyword? "mut"
  let _ ← name
  mark ":"
  let _ ← grammar.type
  initialValue? grammar
  mark ";"

def foreignFunction : Parser Unit := do
  signature grammar true
  if ← test (atOpening .brace) then attributedBlock grammar else mark ";"

def foreignItem : Parser Unit := do
  let _ ← outerAttributes grammar
  let visibility ← visibility
  let start ← tokens
  if atSignature true start then foreignFunction grammar
  else if atWord "static" start ||
      (atAnyWord ["unsafe", "safe"] start && atWord "static" (afterTree start)) then
    foreignStatic grammar
  else if atWord "type" start then typeAlias grammar true
  else if visibility = .inherited && atMacroCall start then macroCall false
  else fail

def foreignBlock : Parser Unit := do
  let _ ← keyword? "unsafe"
  unless ← convention? do fail
  group .brace do
    let _ ← innerAttributes grammar
    let _ ← many atEnd (foreignItem grammar)

-- ---------------------------------------------------------------------------
-- Traits and implementations
-- ---------------------------------------------------------------------------

/-- An item of a trait or implementation. -/
def memberItem (inTrait : Bool) : Parser Unit := do
  let _ ← outerAttributes grammar
  let visibility ← visibility
  let isDefault ← take? 1 fun tokens =>
    atWord "default" tokens && (inTrait || !atMark "!" (afterTree tokens))
  let start ← tokens
  if atSignature false start then function grammar false
  else if atWord "const" start then constant grammar
  else if atWord "type" start then typeAlias grammar false
  else if visibility = .inherited && !isDefault && atMacroCall start then macroCall false
  else fail

def memberItems (inTrait : Bool) : Parser Unit :=
  group .brace do
    let _ ← innerAttributes grammar
    let _ ← many atEnd (memberItem grammar inTrait)

def atTraitBody (tokens : List Token) : Bool :=
  atWord "where" tokens || atOpening .brace tokens

def traitItem : Parser Unit := do
  let isPlain ← test (atWord "trait")
  let _ ← keyword? "unsafe"
  let _ ← keyword? "auto"
  keyword "trait"
  let _ ← name
  generics grammar
  if isPlain && (← mark? "=") then
    let _ ← separated "+" (fun tokens => atWord "where" tokens || atMark ";" tokens) grammar.bound
    whereClause grammar
    mark ";"
  else
    if ← mark? ":" then
      let _ ← separated "+" atTraitBody grammar.bound
    whereClause grammar
    memberItems grammar true

/-- Whether an angle bracket opens parameters and not the type before a path. -/
def atParameters (tokens : List Token) : Bool :=
  let next := afterTree tokens
  let third := afterTree next
  atMark "<" tokens &&
    (atAnyMark [">", "#"] next || atWord "const" next ||
      ((atLifetime next || atName next) &&
        (atAnyMark [">", ",", "="] third || (atMark ":" third && !atMark "::" third))))

def implementation : Parser Unit := do
  let _ ← keyword? "default"
  let _ ← keyword? "unsafe"
  keyword "impl"
  if ← test atParameters then generics grammar
  if ← test fun tokens =>
      atWord "const" tokens || (atMark "?" tokens && atWord "const" (afterTree tokens)) then
    let _ ← mark? "?"
    keyword "const"
  let _ ← take? 1 fun tokens => atMark "!" tokens && !atOpening .brace (afterTree tokens)
  let _ ← grammar.type
  if ← keyword? "for" then
    let _ ← grammar.type
  whereClause grammar
  memberItems grammar false

-- ---------------------------------------------------------------------------
-- All items
-- ---------------------------------------------------------------------------

/-- Items up to the end of a group or text. -/
def items : Parser Items := do
  let found ← many atEnd grammar.item
  pure (found.foldr (· ·) .empty)

def moduleItem (attributes : List Attribute) : Parser (Items → Items) := do
  let _ ← keyword? "unsafe"
  keyword "mod"
  if ← test (atWord "try") then advance 1
  else
    let _ ← name
  if ← mark? ";" then pure .other
  else group .brace do
    let inner ← innerAttributes grammar
    return .module (attributes ++ inner) (← items grammar)

def passed (parser : Parser Unit) : Parser (Items → Items) := do
  parser
  pure .other

def unsafeItem (attributes : List Attribute) (start : List Token) (isForeign : Parser Unit) :
    Parser (Items → Items) :=
  let next := afterTree start
  if atWord "trait" next || (atWord "auto" next && atWord "trait" (afterTree next)) then
    passed (traitItem grammar)
  else if atWord "impl" next then passed (implementation grammar)
  else if atWord "extern" next then passed isForeign
  else if atWord "mod" next then moduleItem grammar attributes
  else do
    advance 1
    fail

def externItem (start : List Token) (isForeign : Parser Unit) : Parser (Items → Items) :=
  let next := afterTree start
  if atWord "crate" next then passed externCrate
  else if atOpening .brace next then passed isForeign
  else if atText next then
    if atOpening .brace (afterTree next) then passed isForeign
    else do
      advance 2
      fail
  else do
    advance 1
    fail

def itemRule : Parser (Items → Items) := do
  let attributes ← outerAttributes grammar
  let line := lineOf (← tokens)
  let visibility ← visibility
  let start ← tokens
  let next := afterTree start
  let isInherited := visibility = .inherited
  let foreign := if isInherited then foreignBlock grammar else failAt line
  if atSignature false start then passed (function grammar false)
  else if atWord "extern" start then externItem start foreign
  else if atWord "use" start then passed (useItem grammar)
  else if atWord "static" start then passed (staticItem grammar)
  else if atWord "const" start then passed (constant grammar)
  else if atWord "unsafe" start then unsafeItem grammar attributes start foreign
  else if atWord "mod" start then moduleItem grammar attributes
  else if atWord "type" start then passed (typeAlias grammar true)
  else if atWord "struct" start then recordItem grammar attributes
  else if atWord "enum" start then passed (enumeration grammar)
  else if atWord "union" start && atName next then passed (union grammar)
  else if atWord "trait" start || (atWord "auto" start && atWord "trait" next) then
    passed (traitItem grammar)
  else if atWord "impl" start || (atWord "default" start && !atMark "!" next) then
    passed (implementation grammar)
  else if atWord "macro" start then passed macroDefinition
  else if isInherited && atMacroCall start then passed (macroCall true)
  else fail

end SchemaCompiler.Source.Grammar
