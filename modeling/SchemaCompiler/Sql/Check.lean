import SchemaCompiler.Sql.Keyword
import SchemaCompiler.Text.Split

/-!
# Check expressions

The shapes of a check expression that are certainly wrong. An expression that
passes need not be valid SQL.
-/

namespace SchemaCompiler.Sql

open Text

/-- Why a check expression is refused; each names the expression it is about. -/
inductive CheckError where
  | empty
  | unbalanced (expression : String)
  | listExpected (expression : String)
  | emptyList (expression : String)
  | badItem (item expression : String)
  | missingAnd (expression : String)
  | noComparison (expression : String)
deriving DecidableEq, Repr

def CheckError.message : CheckError → String
  | .empty => "check constraint is empty"
  | .unbalanced e => "unbalanced parentheses in check `" ++ e ++ "`"
  | .listExpected e => "IN in check `" ++ e ++ "` must be followed by a (...) list"
  | .emptyList e => "IN list in check `" ++ e ++ "` is empty"
  | .badItem item e =>
    "IN list item `" ++ item ++ "` in check `" ++ e ++ "` is not a quoted or numeric literal"
  | .missingAnd e => "BETWEEN in check `" ++ e ++ "` is missing AND"
  | .noComparison e => "length check `" ++ e ++ "` has no comparison operator"

def lengthFunctions : List String :=
  ["length(", "char_length(", "character_length(", "octet_length(", "len("]

/-- What the parentheses at the start of a text hold, up to the first that closes. -/
def parenthesized? : List Char → Option (List Char)
  | '(' :: rest => (cut? ')' rest).map (·.1)
  | _ => none

def hasWord (word : String) (cs : List Char) : Bool :=
  (findWord word.toList cs).isSome

/-- The first list of values after the word IN, if there is one, holds literals only. -/
def checkList (cs : List Char) : Except CheckError Unit :=
  let expression := String.ofList cs
  match findWord "IN".toList cs with
  | none => .ok ()
  | some position =>
    match parenthesized? (trimStart (cs.drop (position + 2))) with
    | none => .error (.listExpected expression)
    | some inner =>
      if isBlankText inner then .error (.emptyList expression)
      else
        match ((unquotedPieces ',' inner).map trim).find? (!isNumericLiteral ·) with
        | some item => .error (.badItem (.ofList item) expression)
        | none => .ok ()

def checkRange (cs : List Char) : Except CheckError Unit :=
  if hasWord "BETWEEN" cs && !hasWord "AND" cs then .error (.missingAnd (.ofList cs))
  else .ok ()

def checkLength (cs : List Char) : Except CheckError Unit :=
  if lengthFunctions.any (fun name => containsFolded name.toList cs) &&
      !cs.any (['<', '>', '='].contains ·) then
    .error (.noComparison (.ofList cs))
  else .ok ()

def validateCheck (expression : String) : Except CheckError Unit :=
  let cs := trim expression.toList
  if cs.isEmpty then .error .empty
  else if !isBalanced cs then .error (.unbalanced (.ofList cs))
  else do
    checkList cs
    checkRange cs
    checkLength cs

end SchemaCompiler.Sql
