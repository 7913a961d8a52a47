import SchemaCompiler.Source.Grammar.Type

/-!
# Generic parameters and their bounds
-/

namespace SchemaCompiler.Source.Grammar

open Source.Parser

variable (grammar : Grammar)

/-- Bounds for as long as plus signs follow. -/
def boundChain (isDone : List Token → Bool) : Parser Unit := do
  let _ ← chain "+" isDone grammar.bound

def lifetimeChain (isDone : List Token → Bool) : Parser Unit := do
  let _ ← chain "+" isDone lifetime

def lifetimeParameter : Parser Unit := do
  lifetime
  if ← mark? ":" then
    lifetimeChain fun tokens => atEnd tokens || atAnyMark [",", ">"] tokens

def typeParameter : Parser Unit := do
  let _ ← name
  if ← mark? ":" then boundChain grammar (atAnyMark [",", ">", "="])
  if ← mark? "=" then
    let _ ← grammar.type

def constantParameter : Parser Unit := do
  keyword "const"
  let _ ← name
  mark ":"
  let _ ← grammar.type
  if ← mark? "=" then constantArgument grammar

def parameter : Parser Unit := do
  let _ ← outerAttributes grammar
  let start ← tokens
  if atLifetime start then lifetimeParameter
  else if atName start then typeParameter grammar
  else if atWord "const" start then constantParameter grammar
  else keyword "_"

/-- Parameters in angle brackets, if there are any. -/
def generics : Parser Unit := do
  if ← mark? "<" then
    let _ ← separated "," (atMark ">") (parameter grammar)
    mark ">"

/-- Where a condition's bounds end. -/
def atConditionEnd (tokens : List Token) : Bool :=
  atEnd tokens || atOpening .brace tokens || atAnyMark [",", ";", "="] tokens ||
    (atMark ":" tokens && !atMark "::" tokens)

def condition : Parser Unit := do
  if ← test fun tokens => atLifetime tokens && atMark ":" (afterTree tokens) then
    advance 2
    lifetimeChain atConditionEnd
  else
    let _ ← boundLifetimes? grammar
    let _ ← grammar.type
    mark ":"
    boundChain grammar atConditionEnd

def whereClause : Parser Unit := do
  if ← keyword? "where" then
    let _ ← chain "," atConditionEnd (condition grammar)

end SchemaCompiler.Source.Grammar
