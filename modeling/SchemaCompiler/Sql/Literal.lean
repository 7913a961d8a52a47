import SchemaCompiler.Text.Blank
import SchemaCompiler.Text.Digit

/-!
# Literals and simple expressions

Exact shapes of a whole text: numbers, quoted strings, casts of quoted strings,
calls, and identifiers. A quote inside a quoted string is written twice.
-/

namespace SchemaCompiler.Sql

open Text

def quote : Char := '\x27'

def startsName (c : Char) : Bool :=
  c.isAlpha || c == '_'

def continuesName (c : Char) : Bool :=
  c.isAlphanum || c == '_'

def isIdentifierText : List Char → Bool
  | [] => false
  | c :: rest => startsName c && rest.all continuesName

/-- A letter or underscore, then letters, digits or underscores. -/
def isIdentifier (name : String) : Bool :=
  isIdentifierText name.toList

def isDigits (cs : List Char) : Bool :=
  !cs.isEmpty && cs.all isDigit

/-- Digits with an optional sign and an optional fraction. -/
def isNumber (cs : List Char) : Bool :=
  let unsigned := match cs with
    | '+' :: rest => rest
    | '-' :: rest => rest
    | _ => cs
  isDigits (unsigned.takeWhile isDigit) &&
    match unsigned.dropWhile isDigit with
    | [] => true
    | '.' :: fraction => isDigits fraction
    | _ => false

/-- What follows the quote that closes a string. -/
def afterString? : List Char → Option (List Char)
  | [] => none
  | [c] => if c = quote then some [] else none
  | c :: d :: rest =>
    if c ≠ quote then afterString? (d :: rest)
    else if d = quote then afterString? rest
    else some (d :: rest)

/-- What follows a quoted string at the start of a text. -/
def afterQuoted? : List Char → Option (List Char)
  | [] => none
  | c :: rest => if c = quote then afterString? rest else none

def isQuoted (cs : List Char) : Bool :=
  afterQuoted? cs == some []

/-- One or two lengths in parentheses. -/
def isTypeParameters : List Char → Bool
  | '(' :: rest =>
    isDigits (rest.takeWhile isDigit) &&
      match rest.dropWhile isDigit with
      | [')'] => true
      | ',' :: second =>
        let second := trimStart second
        isDigits (second.takeWhile isDigit) && second.dropWhile isDigit == [')']
      | _ => false
  | _ => false

/-- A quoted string, a double colon and the name of a type. -/
def isCast (cs : List Char) : Bool :=
  match afterQuoted? cs with
  | some (':' :: ':' :: c :: rest) =>
    let inName := fun c => continuesName c || c == ' '
    startsName c && (rest.all inName || isTypeParameters (rest.dropWhile inName))
  | _ => false

/-- A dotted name and, on one line, parentheses that close at the end. -/
def isCall : List Char → Bool
  | [] => false
  | c :: rest =>
    startsName c &&
      match trimStart (rest.dropWhile fun c => continuesName c || c == '.') with
      | '(' :: inner => inner.getLast? == some ')' && !inner.dropLast.contains '\n'
      | _ => false

def isNumericLiteral (cs : List Char) : Bool :=
  isQuoted cs || isNumber cs

end SchemaCompiler.Sql
