import SchemaCompiler.Sql.Literal

/-!
# Words outside quotes

Searching an expression without regard to ASCII case, and following which of
its characters stand between quotes.
-/

namespace SchemaCompiler.Sql

open Text

def foldCase (cs : List Char) : List Char :=
  cs.map Char.toLower

def startsWithFolded (word cs : List Char) : Bool :=
  (foldCase word).isPrefixOf (foldCase cs)

def containsFolded (word : List Char) : List Char → Bool
  | [] => word.isEmpty
  | c :: rest => startsWithFolded word (c :: rest) || containsFolded word rest

/-- Where `word` first stands on its own between `previous` and the end,
outside quotes. -/
def findWordFrom (word : List Char) (previous : Option Char) (inQuotes : Bool) :
    List Char → Option Nat
  | [] => none
  | c :: rest =>
    if c = quote then (findWordFrom word (some c) (!inQuotes) rest).map (· + 1)
    else if !inQuotes && startsWithFolded word (c :: rest) && !previous.any continuesName &&
        !((c :: rest).drop word.length).head?.any continuesName then some 0
    else (findWordFrom word (some c) inQuotes rest).map (· + 1)

def findWord (word : List Char) (cs : List Char) : Option Nat :=
  if word.isEmpty then none else findWordFrom word none false cs

/-- Whether parentheses outside quotes close what they open, `depth` of them
being open, and every quote is closed. -/
def balancedFrom (depth : Nat) (inQuotes : Bool) : List Char → Bool
  | [] => depth == 0 && !inQuotes
  | c :: rest =>
    if c = quote then balancedFrom depth (!inQuotes) rest
    else if c = '(' ∧ inQuotes = false then balancedFrom (depth + 1) inQuotes rest
    else if c = ')' ∧ inQuotes = false then
      match depth with
      | 0 => false
      | outer + 1 => balancedFrom outer inQuotes rest
    else balancedFrom depth inQuotes rest

def isBalanced (cs : List Char) : Bool :=
  balancedFrom 0 false cs

/-- The pieces between the separators that stand outside quotes. -/
def unquotedPiecesFrom (separator : Char) (inQuotes : Bool) : List Char → List (List Char)
  | [] => [[]]
  | c :: rest =>
    if c ≠ quote ∧ c = separator ∧ inQuotes = false then
      [] :: unquotedPiecesFrom separator inQuotes rest
    else
      match unquotedPiecesFrom separator (if c = quote then !inQuotes else inQuotes) rest with
      | [] => [[c]]
      | piece :: more => (c :: piece) :: more

def unquotedPieces (separator : Char) (cs : List Char) : List (List Char) :=
  unquotedPiecesFrom separator false cs

end SchemaCompiler.Sql
