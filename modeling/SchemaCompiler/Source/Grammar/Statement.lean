import SchemaCompiler.Source.Grammar.Expression

/-!
# Statements
-/

namespace SchemaCompiler.Source.Grammar

open Source.Parser

variable (grammar : Grammar)

/-- The words that start an item wherever they stand. -/
def itemWords : List String :=
  ["pub", "extern", "use", "fn", "mod", "type", "struct", "enum", "trait", "impl", "macro"]

def atStaticItem (tokens : List Token) : Bool :=
  let next := afterTree tokens
  let third := afterTree next
  atWord "static" tokens &&
    (atWord "mut" next ||
      (atName next && !(atWord "async" next && (atWord "move" third || atMark "|" third))))

def atConstantItem (tokens : List Token) : Bool :=
  let next := afterTree tokens
  atWord "const" tokens &&
    !(atOpening .brace next || atAnyWord ["static", "move"] next || atMark "|" next ||
      (atWord "async" next && !atAnyWord ["unsafe", "extern", "fn"] (afterTree next)))

def atItem (tokens : List Token) : Bool :=
  let next := afterTree tokens
  atAnyWord itemWords tokens || atStaticItem tokens || atConstantItem tokens ||
    (atWord "crate" tokens && !atMark "::" next) ||
    (atWord "unsafe" tokens && !atOpening .brace next) ||
    (atWord "async" tokens && atAnyWord ["unsafe", "extern", "fn"] next) ||
    (atWord "union" tokens && atName next) || (atWord "auto" tokens && atWord "trait" next) ||
    (atWord "default" tokens && atAnyWord ["unsafe", "impl"] next)

inductive StatementMacro where
  /-- A call with a name of its own, such as a macro's definition. -/
  | item
  /-- A call in braces that no point or question mark follows. -/
  | braced

def statementMacro? : Parser (Option StatementMacro) := do
  match ← attempt plainPath with
  | none => pure none
  | some _ =>
    let bang ← tokens
    let next := afterTree bang
    let third := afterTree next
    if !atMark "!" bang then pure none
    else if atName next || atWord "try" next then pure (some .item)
    else if atOpening .brace next &&
        !((atMark "." third && !atMark ".." third) || atMark "?" third) then
      pure (some .braced)
    else pure none

/-- The last of the tokens that stand before the rest of a list. -/
def lastBefore (rest all : List Token) : Option Token :=
  all[all.length - rest.length - 1]?

/-- A binding. An `else` does not follow a value that ends with a brace. -/
def binding : Parser Unit := do
  keyword "let"
  let _ ← grammar.pattern
  if ← mark? ":" then
    let _ ← grammar.type
  if ← mark? "=" then
    let before ← tokens
    let _ ← grammar.expression
    let after ← tokens
    let endsWithBrace :=
      (lastBefore after before).any fun token => token.shape = .closing .brace
    if atWord "else" after && !endsWithBrace then
      advance 1
      block grammar
  mark ";"

/-- A statement; whether it needs a semicolon before the next one. -/
def statement : Parser Bool := do
  let start ← get
  let _ ← outerAttributes grammar
  let found ← ahead statementMacro?
  if found matches some .braced then
    let _ ← plainPath
    mark "!"
    anyGroup
    let _ ← mark? ";"
    pure false
  else if ← test (atWord "let") then
    binding grammar
    pure false
  else if (← test atItem) || (found matches some .item) then
    set start
    let _ ← grammar.item
    pure false
  else
    let form ← grammar.standalone
    if ← mark? ";" then pure false
    else pure (form ≠ .block && form ≠ .bracedMacro)

/-- A statement and the semicolons before it. -/
def nextStatement (_ : Unit) : Parser (Option Unit) := do
  let _ ← many (!atMark ";" ·) (mark ";")
  if ← test atEnd then pure none
  else
    let needsSemicolon ← statement grammar
    if ← test atEnd then pure none
    else if needsSemicolon then fail
    else pure (some ())

def statementsRule : Parser Unit :=
  iterate (nextStatement grammar) ()

end SchemaCompiler.Source.Grammar
