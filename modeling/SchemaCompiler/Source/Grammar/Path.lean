import SchemaCompiler.Source.Grammar.Attribute

/-!
# Paths

Paths with arguments, as types and expressions write them.
-/

namespace SchemaCompiler.Source

/-- What stands among the arguments of a path in angle brackets. -/
inductive Argument where
  | type (type : TypeExpr)
  /-- A lifetime, a constant, or what is said of an associated item. -/
  | other

def Argument.type? : Argument → Option TypeExpr
  | type found => some found
  | other => none

structure Segment where
  name : Word
  /-- The arguments, if there are angle brackets. -/
  arguments? : Option (List Argument) := none

def Segment.hasArguments (segment : Segment) : Bool :=
  segment.arguments?.isSome

def Segment.firstType? (segment : Segment) : Option TypeExpr :=
  (segment.arguments?.getD []).findSome? Argument.type?

structure TypePath where
  /-- Whether a type stands before the path. -/
  isQualified : Bool := false
  segments : List Segment

def TypePath.isPlain (path : TypePath) : Bool :=
  !path.isQualified && path.segments.all (!·.hasArguments)

def TypePath.type (path : TypePath) : TypeExpr :=
  let names := path.segments.map (·.name.text)
  match path.segments.getLast?.bind (·.firstType?) with
  | some argument => .applied names argument
  | none => .named names

namespace Grammar

open Source.Parser

variable (grammar : Grammar)

def block : Parser Unit :=
  group .brace grammar.statements

def attributedBlock : Parser Unit :=
  group .brace do
    let _ ← innerAttributes grammar
    grammar.statements

def constantArgument : Parser Unit := do
  match literalSize? (← tokens) with
  | some size => advance size
  | none =>
    if ← test atName then advance 1
    else attributedBlock grammar

-- ---------------------------------------------------------------------------
-- Generic arguments
-- ---------------------------------------------------------------------------

/-- Whether a type that starts with these tokens is a single name, maybe with
arguments. -/
def isSingleName (start : List Token) (type : TypeExpr) : Bool :=
  (atPathWord start || atWord "try" start) &&
    match type with
    | .named [_] | .applied [_] _ => true
    | _ => false

def atConstant (tokens : List Token) : Bool :=
  atLiteral tokens || atOpening .brace tokens

def genericArgument : Parser Argument := do
  let start ← tokens
  if atLifetime start && !atMark "+" (afterTree start) then
    lifetime
    pure .other
  else if atConstant start then
    constantArgument grammar
    pure .other
  else
    let type ← grammar.type
    if isSingleName start type then
      if ← mark? "=" then
        if ← test atConstant then constantArgument grammar else let _ ← grammar.type
        pure .other
      else if ← mark? ":" then
        let _ ← chain "+" (atAnyMark [",", ">"]) grammar.bound
        pure .other
      else pure (.type type)
    else pure (.type type)

def genericArguments : Parser (List Argument) := do
  mark "<"
  let arguments ← separated "," (atMark ">") (genericArgument grammar)
  mark ">"
  pure arguments

/-- Whether a segment has arguments. In an expression a double colon leads them. -/
def atArguments (inExpression : Bool) (tokens : List Token) : Bool :=
  (!inExpression && atMark "<" tokens && !atMark "<=" tokens) ||
    (atMark "::" tokens && atMark "<" (afterTree (afterTree tokens)))

def segment (inExpression : Bool) : Parser Segment := do
  if ← test (atAnyWord ["super", "self", "crate", "try"]) then
    return { name := ← anyWord }
  else
    let name ← if ← test (atWord "Self") then anyWord else name
    if ← test (atArguments inExpression) then
      let _ ← mark? "::"
      return { name, arguments? := some (← genericArguments grammar) }
    else pure { name }

/-- The next segment, unless parentheses follow its double colon. -/
def nextSegment (inExpression : Bool) (path : List Segment) : Parser (Option (List Segment)) := do
  if ← test fun tokens =>
      atMark "::" tokens && !atOpening .parenthesis (afterTree (afterTree tokens)) then
    advance 2
    return some (path ++ [← segment grammar inExpression])
  else pure none

def segments (inExpression : Bool) : Parser (List Segment) := do
  iterate (nextSegment grammar inExpression) [← segment grammar inExpression]

def path (inExpression : Bool) : Parser (List Segment) := do
  let _ ← mark? "::"
  segments grammar inExpression

/-- The next segment of a path behind a type. -/
def nextAssociated (inExpression : Bool) (path : List Segment) :
    Parser (Option (List Segment)) := do
  if ← mark? "::" then return some (path ++ [← segment grammar inExpression])
  else pure none

/-- A path that may stand behind a type in angle brackets. -/
def qualifiedPath (inExpression : Bool) : Parser TypePath := do
  if ← mark? "<" then
    let _ ← grammar.type
    let base ← if ← keyword? "as" then path grammar false else pure []
    mark ">"
    mark "::"
    let first ← segment grammar inExpression
    let segments ← iterate (nextAssociated grammar inExpression) [first]
    return { isQualified := true, segments := base ++ segments }
  else
    return { segments := ← path grammar inExpression }

end Grammar

end SchemaCompiler.Source
