import SchemaCompiler.Text.LetterCase
import SchemaCompiler.Text.Blank
import SchemaCompiler.Text.Split

/-!
# Snake, camel and Pascal case

A name is read once from left to right. Underscores, hyphens and blanks part
words and are dropped; a capital parts words where it follows a lowercase
letter or a digit, or ends a run of capitals. Words are put together with single
underscores.
-/

namespace SchemaCompiler.Naming

open Text

def compoundTerms : List (String × String) := [
  ("OAuth", "oauth"), ("OAuth2", "oauth2"), ("IPv4", "ipv4"), ("IPv6", "ipv6"),
  ("GraphQL", "graphql"), ("MySQL", "mysql"), ("PostgreSQL", "postgresql"),
  ("SQLite", "sqlite"), ("JavaScript", "javascript"), ("TypeScript", "typescript"),
  ("WebSocket", "websocket"), ("GitHub", "github"), ("iOS", "ios"), ("macOS", "macos")]

def isSeparator (c : Char) : Bool :=
  c == '_' || c == '-' || isBlank c

/-- Whether a word goes on with the suffix of an ordinal number and then ends. -/
def beginsOrdinal : List Char → Bool
  | a :: b :: rest =>
    [['s', 't'], ['n', 'd'], ['r', 'd'], ['t', 'h']].contains [a, b] &&
      !rest.head?.any isLowercase
  | _ => false

/-- Whether `c`, between `previous` and `rest`, is the first letter of a word. -/
def startsWord (previous : Char) (c : Char) (rest : List Char) : Bool :=
  if isUppercase c then
    isLowercase previous || previous.isDigit ||
      (isUppercase previous && rest.head?.any isLowercase)
  else
    isLowercase c && previous.isDigit && !beginsOrdinal (c :: rest)

def loweredCapital (c : Char) : List Char :=
  if isUppercase c then lowercase c else [c]

/-- The snake case of what follows `previous`. Once a word has `begun`, a
separator is written before the next character that parts words. -/
def snakeFrom (previous : Option Char) (begun parted : Bool) : List Char → List Char
  | [] => []
  | c :: rest =>
    if isSeparator c then snakeFrom (some c) begun begun rest
    else
      (if parted || (begun && previous.any (startsWord · c rest)) then ['_'] else []) ++
        loweredCapital c ++ snakeFrom (some c) true false rest

def snake (name : String) : String :=
  match compoundTerms.lookup name with
  | some fixed => fixed
  | none => .ofList (snakeFrom none false false name.toList)

def words (name : String) : List (List Char) :=
  (pieces '_' (snake name).toList).filter (!·.isEmpty)

def capitalize : List Char → List Char
  | [] => []
  | c :: rest => uppercase c ++ rest

def pascal (name : String) : String :=
  .ofList ((words name).flatMap capitalize)

def camel (name : String) : String :=
  match words name with
  | [] => ""
  | first :: rest => .ofList (first ++ rest.flatMap capitalize)

end SchemaCompiler.Naming
