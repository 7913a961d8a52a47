import SchemaCompiler.Text.Split

/-!
# Glob patterns

`?` is any character, `*` any text, `[…]` one of the characters inside, `[!…]`
none of them, and `**` any number of whole directories. Slashes are characters
like any other.
-/

namespace SchemaCompiler.Glob

inductive ClassItem where
  | single (c : Char)
  | range (first last : Char)
deriving DecidableEq, Repr

def ClassItem.contains (c : Char) : ClassItem → Bool
  | single d => c == d
  | range first last => first ≤ c && c ≤ last

inductive Token where
  | literal (c : Char)
  | anyChar
  | anyText
  | anyDirectories
  | oneOf (items : List ClassItem)
  | noneOf (items : List ClassItem)
deriving DecidableEq, Repr

inductive Fault where
  | wildcards
  | recursiveWildcards
  | range
deriving DecidableEq, Repr

def Fault.message : Fault → String
  | wildcards => "wildcards are either regular `*` or recursive `**`"
  | recursiveWildcards => "recursive wildcards must form a single path component"
  | range => "invalid range pattern"

/-- A fault and the index of the character it is found at. -/
structure PatternError where
  position : Nat
  fault : Fault
deriving DecidableEq, Repr

def PatternError.message (e : PatternError) : String :=
  "Pattern syntax error near position " ++ toString e.position ++ ": " ++ e.fault.message

-- ---------------------------------------------------------------------------
-- Reading patterns
-- ---------------------------------------------------------------------------

def classItems : List Char → List ClassItem
  | first :: '-' :: last :: rest => .range first last :: classItems rest
  | c :: rest => .single c :: classItems rest
  | [] => []

/-- A class that begins after its bracket. The first character inside is a member
even if it is a bracket. -/
def class? : List Char → Option (Token × List Char)
  | '!' :: first :: rest =>
    (Text.cut? ']' rest).map fun (inside, after) => (.noneOf (classItems (first :: inside)), after)
  | '!' :: [] => none
  | first :: rest =>
    (Text.cut? ']' rest).map fun (inside, after) => (.oneOf (classItems (first :: inside)), after)
  | [] => none

/-- Runs of directory wildcards are one, except at the start of a pattern. -/
def addDirectories (tokens : List Token) : List Token :=
  if 1 < tokens.length && tokens.getLast? == some .anyDirectories then tokens
  else tokens ++ [.anyDirectories]

/-- What follows `count` stars at `position`, and how many characters are read. -/
def starToken (previous : Option Char) (position count : Nat) (after : List Char)
    (tokens : List Token) : Except PatternError (List Token × Nat) :=
  if 2 < count then .error ⟨position + 2, .wildcards⟩
  else if count < 2 then .ok (tokens ++ [.anyText], 0)
  else if previous.any (· ≠ '/') then .error ⟨position - 1, .recursiveWildcards⟩
  else match after with
    | [] => .ok (addDirectories tokens, 0)
    | '/' :: _ => .ok (addDirectories tokens, 1)
    | _ :: _ => .error ⟨position + 2, .recursiveWildcards⟩

/-- Reads the rest of a pattern, each step at least one character of it. -/
def parseFrom (fuel : Nat) (previous : Option Char) (position : Nat) (tokens : List Token)
    (rest : List Char) : Except PatternError (List Token) :=
  match fuel, rest with
  | 0, _ | _, [] => .ok tokens
  | fuel + 1, '?' :: after => parseFrom fuel (some '?') (position + 1) (tokens ++ [.anyChar]) after
  | fuel + 1, '*' :: more =>
    let count := (more.takeWhile (· = '*')).length + 1
    let after := more.dropWhile (· = '*')
    match starToken previous position count after tokens with
    | .error e => .error e
    | .ok (tokens, taken) =>
      parseFrom fuel (some (if taken = 1 then '/' else '*')) (position + count + taken) tokens
        (after.drop taken)
  | fuel + 1, '[' :: inside =>
    match class? inside with
    | none => .error ⟨position, .range⟩
    | some (token, after) =>
      parseFrom fuel (some ']') (position + 1 + (inside.length - after.length))
        (tokens ++ [token]) after
  | fuel + 1, c :: after => parseFrom fuel (some c) (position + 1) (tokens ++ [.literal c]) after

def parse (pattern : String) : Except PatternError (List Token) :=
  parseFrom pattern.length none 0 [] pattern.toList

-- ---------------------------------------------------------------------------
-- Matching
-- ---------------------------------------------------------------------------

def Token.accepts (c : Char) : Token → Bool
  | literal d => c == d
  | anyChar => true
  | oneOf items => items.any (·.contains c)
  | noneOf items => !items.any (·.contains c)
  | anyText | anyDirectories => false

/-- The rests of a text after each slash in it. -/
def afterSlashes : List Char → List (List Char)
  | [] => []
  | c :: rest => if c = '/' then rest :: afterSlashes rest else afterSlashes rest

def suffixes : List Char → List (List Char)
  | [] => [[]]
  | c :: rest => (c :: rest) :: suffixes rest

/-- Whether the tokens match the whole text. Directories end after a slash or
with the text. -/
def matchesText : List Token → List Char → Bool
  | [], cs => cs.isEmpty
  | .anyText :: tokens, cs => (suffixes cs).any (matchesText tokens)
  | .anyDirectories :: tokens, cs => (cs :: afterSlashes cs ++ [[]]).any (matchesText tokens)
  | _ :: _, [] => false
  | token :: tokens, c :: cs => token.accepts c && matchesText tokens cs

end SchemaCompiler.Glob
