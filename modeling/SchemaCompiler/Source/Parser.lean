import SchemaCompiler.Source.Token

/-!
# Parsing tokens

A parser reads tokens from the front and stops at the closing delimiter of the
group it is in. It fails at the line of the token that it cannot use.
-/

namespace SchemaCompiler.Source

-- ---------------------------------------------------------------------------
-- Looking ahead
-- ---------------------------------------------------------------------------

/-- The tokens behind the delimiter that closes `depth` open groups. -/
def afterGroups (depth : Nat) : List Token → List Token
  | [] => []
  | token :: rest =>
    match token.shape with
    | .opening _ => afterGroups (depth + 1) rest
    | .closing _ => if depth ≤ 1 then rest else afterGroups (depth - 1) rest
    | _ => afterGroups depth rest

/-- The tokens behind the first one, or behind the whole group that it opens. -/
def afterTree : List Token → List Token
  | [] => []
  | token :: rest =>
    match token.shape with
    | .opening _ => afterGroups 1 rest
    | .closing _ => token :: rest
    | _ => rest

def atEnd : List Token → Bool
  | [] => true
  | token :: _ => token.shape matches .closing _

def atOpening (delimiter : Delimiter) : List Token → Bool
  | ⟨.opening found, _⟩ :: _ => found = delimiter
  | _ => false

def atAnyOpening : List Token → Bool
  | ⟨.opening _, _⟩ :: _ => true
  | _ => false

def atMarks : List Char → List Token → Bool
  | [], _ => true
  | [c], ⟨.mark found _, _⟩ :: _ => found = c
  | c :: more, ⟨.mark found isJoint, _⟩ :: rest => found = c && isJoint && atMarks more rest
  | _, _ => false

/-- Whether the tokens start with marks written together. More may follow. -/
def atMark (marks : String) (tokens : List Token) : Bool :=
  atMarks marks.toList tokens

def atAnyMark (options : List String) (tokens : List Token) : Bool :=
  options.any (atMark · tokens)

def word? : List Token → Option Word
  | ⟨.word word, _⟩ :: _ => some word
  | _ => none

def atWord (text : String) (tokens : List Token) : Bool :=
  (word? tokens).any (·.text = text)

def atAnyWord (options : List String) (tokens : List Token) : Bool :=
  (word? tokens).any (options.contains ·.text)

/-- Whether the tokens start with a word that is not a keyword. -/
def atName (tokens : List Token) : Bool :=
  (word? tokens).any (!keywords.contains ·.text)

def atLifetime : List Token → Bool
  | ⟨.lifetime _, _⟩ :: _ => true
  | _ => false

def atText : List Token → Bool
  | ⟨.text _, _⟩ :: _ => true
  | _ => false

def isNumber : TokenShape → Bool
  | .integer _ | .float _ => true
  | _ => false

/-- How many tokens the literal at the start has. A number may have a minus sign. -/
def literalSize? : List Token → Option Nat
  | ⟨.mark '-' _, _⟩ :: ⟨shape, _⟩ :: _ => if isNumber shape then some 2 else none
  | ⟨shape, _⟩ :: _ =>
    match shape with
    | .text _ | .integer _ | .float _ | .literal => some 1
    | .word word => if word.text = "true" ∨ word.text = "false" then some 1 else none
    | _ => none
  | [] => none

def atLiteral (tokens : List Token) : Bool :=
  (literalSize? tokens).isSome

/-- The line at which a parser stands. Behind the last token it is the first. -/
def lineOf : List Token → Nat
  | [] => 1
  | token :: _ => token.line

-- ---------------------------------------------------------------------------
-- Parsers
-- ---------------------------------------------------------------------------

structure Input where
  rest : List Token
  /-- More than the number of tokens, and so of the turns that a repetition takes. -/
  turns : Nat
  /-- The line of the first token that a group held too much. -/
  leftover : Option Nat := none

abbrev Parser := StateT Input (Except SyntaxError)

namespace Parser

def tokens : Parser (List Token) :=
  return (← get).rest

def failAt {α : Type} (line : Nat) : Parser α :=
  throw ⟨line⟩

def fail {α : Type} : Parser α := do
  failAt (lineOf (← tokens))

def test (look : List Token → Bool) : Parser Bool :=
  return look (← tokens)

def advance (count : Nat) : Parser Unit :=
  modify fun input => { input with rest := input.rest.drop count }

/-- Passes over a number of tokens if they look right. -/
def take? (count : Nat) (look : List Token → Bool) : Parser Bool := do
  let found ← test look
  if found then advance count
  pure found

def expect (count : Nat) (look : List Token → Bool) : Parser Unit := do
  unless ← take? count look do fail

def mark? (marks : String) : Parser Bool :=
  take? marks.length (atMark marks)

def mark (marks : String) : Parser Unit :=
  expect marks.length (atMark marks)

def keyword? (text : String) : Parser Bool :=
  take? 1 (atWord text)

def keyword (text : String) : Parser Unit :=
  expect 1 (atWord text)

def anyWord : Parser Word := do
  match word? (← tokens) with
  | some word => do advance 1; pure word
  | none => fail

def name : Parser Word := do
  if ← test atName then anyWord else fail

def lifetime : Parser Unit :=
  expect 1 atLifetime

def lifetime? : Parser Bool :=
  take? 1 atLifetime

/-- Ends a group. What is left in it is noted and passed over. -/
def closeGroup : Parser Unit :=
  modify fun input =>
    if atEnd input.rest then { input with rest := input.rest.drop 1 }
    else { input with
      rest := afterGroups 1 input.rest
      leftover := input.leftover <|> some (lineOf input.rest) }

def group {α : Type} (delimiter : Delimiter) (inside : Parser α) : Parser α := do
  expect 1 (atOpening delimiter)
  let result ← inside
  closeGroup
  pure result

def anyGroup : Parser Unit := do
  if ← test atAnyOpening then
    modify fun input => { input with rest := afterTree input.rest }
  else fail

/-- The result of a parser, or nothing and no change if it fails. -/
def attempt {α : Type} (parser : Parser α) : Parser (Option α) := fun input =>
  match parser input with
  | .ok (result, after) => .ok (some result, after)
  | .error _ => .ok (none, input)

/-- Looks ahead with a parser that is undone. -/
def ahead {α : Type} (parser : Parser α) : Parser α := do
  let input ← get
  let result ← parser
  set input
  pure result

-- ---------------------------------------------------------------------------
-- Repetition
-- ---------------------------------------------------------------------------

def iterateUpTo {α : Type} (step : α → Parser (Option α)) : Nat → α → Parser α
  | 0, value => pure value
  | fuel + 1, value => do
    match ← step value with
    | some next => iterateUpTo step fuel next
    | none => pure value

/-- Repeats a step until it has no result. A step with a result uses a token. -/
def iterate {α : Type} (step : α → Parser (Option α)) (start : α) : Parser α := do
  iterateUpTo step (← get).turns start

def manyUpTo {α : Type} (isDone : List Token → Bool) (element : Parser α) :
    Nat → Parser (List α)
  | 0 => pure []
  | fuel + 1 => do
    if ← test isDone then pure []
    else
      let first ← element
      return first :: (← manyUpTo isDone element fuel)

/-- Elements up to tokens that look done. An element uses a token. -/
def many {α : Type} (isDone : List Token → Bool) (element : Parser α) : Parser (List α) := do
  manyUpTo isDone element (← get).turns

def separatedUpTo {α : Type} (separator : String) (isDone : List Token → Bool)
    (element : Parser α) : Nat → Parser (List α)
  | 0 => pure []
  | fuel + 1 => do
    if ← test isDone then pure []
    else
      let first ← element
      if ← test isDone then pure [first]
      else
        mark separator
        return first :: (← separatedUpTo separator isDone element fuel)

/-- Elements with separators between them and maybe at the end, up to tokens that
look done. -/
def separated {α : Type} (separator : String) (isDone : List Token → Bool) (element : Parser α) :
    Parser (List α) := do
  separatedUpTo separator isDone element (← get).turns

def commaSeparated {α : Type} (element : Parser α) : Parser (List α) :=
  separated "," atEnd element

def chainUpTo {α : Type} (separator : String) (isDone : List Token → Bool) (element : Parser α) :
    Nat → Parser (List α)
  | 0 => pure []
  | fuel + 1 => do
    if ← test isDone then pure []
    else
      let first ← element
      if ← mark? separator then
        return first :: (← chainUpTo separator isDone element fuel)
      else pure [first]

/-- Elements for as long as separators follow. Behind a separator the tokens may look
done. -/
def chain {α : Type} (separator : String) (isDone : List Token → Bool) (element : Parser α) :
    Parser (List α) := do
  chainUpTo separator isDone element (← get).turns

-- ---------------------------------------------------------------------------
-- Whole texts
-- ---------------------------------------------------------------------------

/-- Reads all tokens. A token that a group held too much fails the parse in the end. -/
def run {α : Type} (parser : Parser α) (tokens : List Token) : Except SyntaxError α := do
  let (result, input) ← parser { rest := tokens, turns := tokens.length + 1 }
  match input.leftover, input.rest with
  | some line, _ => throw ⟨line⟩
  | none, token :: _ => throw ⟨token.line⟩
  | none, [] => pure result

end Parser

end SchemaCompiler.Source
