import SchemaCompiler.Source.Quoted
import SchemaCompiler.Source.Token
import SchemaCompiler.Text.Blank

/-!
# Reading tokens

Source text is cut into gaps and lexemes, and its delimiters are paired. A length
counts characters from the start of a piece.
-/

namespace SchemaCompiler.Source

open Text

-- ---------------------------------------------------------------------------
-- Gaps and comments
-- ---------------------------------------------------------------------------

/-- Blanks and the marks that set a direction of writing. -/
def isGap (c : Char) : Bool :=
  isBlankAscii c || (128 ≤ c.toNat && (isBlank c || c = '\u200e' || c = '\u200f'))
where
  isBlankAscii (c : Char) : Bool := c = ' ' || ('\t' ≤ c && c ≤ '\r')

/-- The length of a block comment. Comments nest. -/
def blockComment? (depth : Nat) : List Char → Option Nat
  | '/' :: '*' :: rest => (blockComment? (depth + 1) rest).map (· + 2)
  | '*' :: '/' :: rest =>
    if depth ≤ 1 then some 2 else (blockComment? (depth - 1) rest).map (· + 2)
  | _ :: rest => (blockComment? depth rest).map (· + 1)
  | [] => none

def lineLength (cs : List Char) : Nat :=
  (cs.takeWhile (· ≠ '\n')).length

/-- The length of what stands between tokens: one blank, or a comment that is not
documentation. -/
def gap? : List Char → Option Nat
  | '/' :: '/' :: '!' :: _ => none
  | '/' :: '/' :: '/' :: '/' :: rest => some (lineLength rest + 4)
  | '/' :: '/' :: '/' :: _ => none
  | '/' :: '/' :: rest => some (lineLength rest + 2)
  | '/' :: '*' :: '!' :: _ => none
  | '/' :: '*' :: '*' :: '/' :: _ => some 4
  | '/' :: '*' :: '*' :: '*' :: rest => blockComment? 0 ('/' :: '*' :: '*' :: '*' :: rest)
  | '/' :: '*' :: '*' :: _ => none
  | '/' :: '*' :: rest => blockComment? 0 ('/' :: '*' :: rest)
  | c :: _ => if isGap c then some 1 else none
  | [] => none

/-- The text behind the gaps it starts with. -/
def afterGaps (skip : Nat) : List Char → List Char
  | [] => []
  | c :: rest =>
    match skip with
    | skip + 1 => afterGaps skip rest
    | 0 =>
      match gap? (c :: rest) with
      | some length => afterGaps (length - 1) rest
      | none => c :: rest

/-- Documentation, on the item that holds it or on the next one. -/
structure DocComment where
  isInner : Bool
  content : List Char
  length : Nat

def lineDoc (isInner : Bool) (rest : List Char) : DocComment :=
  let content := rest.takeWhile (· ≠ '\n')
  let isTurned := rest.length ≠ content.length ∧ content.getLast? = some '\r'
  ⟨isInner, if isTurned then content.dropLast else content, content.length + 3⟩

def blockDoc? (isInner : Bool) (comment : List Char) : Option DocComment :=
  (blockComment? 0 comment).map fun length =>
    ⟨isInner, (comment.take (length - 2)).drop 3, length⟩

def docComment? : List Char → Option DocComment
  | '/' :: '/' :: '!' :: rest => some (lineDoc true rest)
  | '/' :: '*' :: '!' :: rest => blockDoc? true ('/' :: '*' :: '!' :: rest)
  | '/' :: '/' :: '/' :: rest => if rest.head? = some '/' then none else some (lineDoc false rest)
  | '/' :: '*' :: '*' :: rest =>
    if rest.head? = some '*' then none else blockDoc? false ('/' :: '*' :: '*' :: rest)
  | _ => none

/-- A carriage return that no newline follows. -/
def hasBareReturn : List Char → Bool
  | [] => false
  | c :: rest => (c = '\r' && rest.head? ≠ some '\n') || hasBareReturn rest

/-- Documentation is an attribute. -/
def DocComment.shapes (doc : DocComment) : List TokenShape :=
  .mark '#' false :: (if doc.isInner then [.mark '!' false] else []) ++
    [.opening .bracket, .word .doc, .mark '=' false, .text (.ofList doc.content),
      .closing .bracket]

-- ---------------------------------------------------------------------------
-- Words and marks
-- ---------------------------------------------------------------------------

def wordLength? : List Char → Option Nat
  | c :: rest =>
    if startsIdentifier c then some ((rest.takeWhile continuesIdentifier).length + 1) else none
  | [] => none

/-- The longest word without a mark at the start of a text. -/
def unmarked? (isRaw : Bool) : List Char → Option Word
  | c :: rest =>
    if starts : startsIdentifier c then
      some {
        isRaw
        first := c
        rest := rest.takeWhile continuesIdentifier
        starts
        continues := List.all_takeWhile }
    else none
  | [] => none

def name? : List Char → Option Word
  | 'r' :: '#' :: rest =>
    (unmarked? true rest).filter (·.name ∉ ["_", "super", "self", "Self", "crate"])
  | cs => unmarked? false cs

/-- The beginnings of literals, which no word has. -/
def literalStarts : List (List Char) :=
  ["r\"", "r#\"", "r##", "b\"", "b'", "br\"", "br#", "c\"", "cr\"", "cr#"].map String.toList

def wordLexeme? (cs : List Char) : Option (TokenShape × Nat) :=
  if literalStarts.any (·.isPrefixOf cs) then none
  else (name? cs).map fun word => (.word word, word.length)

/-- Whether a text starts with a mark that is not the start of a comment. -/
def startsMark : List Char → Bool
  | '/' :: '/' :: _ | '/' :: '*' :: _ => false
  | c :: _ => "~!@#$%^&*-=+|;:,<.>/?'".toList.contains c
  | [] => false

def lifetimeLexeme? (cs : List Char) : Option (TokenShape × Nat) :=
  match name? cs with
  | none => none
  | some word =>
    match cs.drop word.length with
    | '\'' :: _ => none
    | '#' :: _ => if word.isRaw then some (.lifetime word.text, word.length + 1) else none
    | _ => some (.lifetime word.text, word.length + 1)

def markLexeme? (cs : List Char) : Option (TokenShape × Nat) :=
  match cs with
  | '\'' :: rest => lifetimeLexeme? rest
  | c :: rest => if startsMark cs then some (.mark c (startsMark rest), 1) else none
  | [] => none

-- ---------------------------------------------------------------------------
-- Literals
-- ---------------------------------------------------------------------------

def isDigitPlace (c : Char) : Bool :=
  c.isDigit || c = '_'

/-- The length of an exponent behind its letter. It may have one sign and has a
digit. -/
def exponent? (isSigned hasDigit : Bool) : List Char → Option Nat
  | c :: rest =>
    if c = '+' ∨ c = '-' then
      if hasDigit then some 0
      else if isSigned then none
      else (exponent? true false rest).map (· + 1)
    else if c.isDigit then (exponent? isSigned true rest).map (· + 1)
    else if c = '_' then (exponent? isSigned hasDigit rest).map (· + 1)
    else if hasDigit then some 0
    else none
  | [] => if hasDigit then some 0 else none

/-- A fraction of which `length` characters are read, with its exponent if it has
one. -/
def withExponent? (cs : List Char) (length : Nat) (hasPoint : Bool) : Option Nat :=
  match cs.drop length with
  | 'e' :: rest | 'E' :: rest =>
    match exponent? false false rest with
    | some more => some (length + 1 + more)
    | none => if hasPoint then some length else none
  | _ => if hasPoint then some length else none

def floatDigits? (cs : List Char) : Option Nat :=
  if cs.head?.any Char.isDigit then
    let whole := (cs.takeWhile isDigitPlace).length
    match cs.drop whole with
    | '.' :: rest =>
      if rest.head?.any fun c => c = '.' || startsIdentifier c then none
      else withExponent? cs (whole + 1 + (rest.takeWhile isDigitPlace).length) true
    | _ => withExponent? cs whole false
  else none

def digitRun? (base : Nat) (isEmpty : Bool) : List Char → Option Nat
  | [] => if isEmpty then none else some 0
  | c :: rest =>
    if c = '_' then
      if isEmpty ∧ base = 10 then none else (digitRun? base isEmpty rest).map (· + 1)
    else match hexDigit? c with
      | some digit =>
        if digit < base then (digitRun? base false rest).map (· + 1)
        else if c.isDigit ∨ isEmpty then none
        else some 0
      | none => if isEmpty then none else some 0

def integerDigits? : List Char → Option Nat
  | '0' :: 'x' :: rest => (digitRun? 16 true rest).map (· + 2)
  | '0' :: 'o' :: rest => (digitRun? 8 true rest).map (· + 2)
  | '0' :: 'b' :: rest => (digitRun? 2 true rest).map (· + 2)
  | cs => digitRun? 10 true cs

/-- A number's length with the word at its end. Nothing that continues a word
follows. -/
def number? (cs : List Char) (digits : Option Nat) : Option Nat :=
  match digits with
  | none => none
  | some length =>
    let rest := cs.drop length
    match wordLength? rest with
    | some more => some (length + more)
    | none => if rest.head?.any continuesIdentifier then none else some length

def quoted? : List Char → Option (TokenShape × Nat)
  | '"' :: rest => (quotedBody? .text 0 rest).map fun (v, n) => (.text (.ofList v), n + 1)
  | 'r' :: rest => (raw? .text rest).map fun (v, n) => (.text (.ofList v), n + 1)
  | 'b' :: '"' :: rest => (quotedBody? .bytes 0 rest).map fun (_, n) => (.literal, n + 2)
  | 'b' :: 'r' :: rest => (raw? .bytes rest).map fun (_, n) => (.literal, n + 2)
  | 'c' :: '"' :: rest => (quotedBody? .terminated 0 rest).map fun (_, n) => (.literal, n + 2)
  | 'c' :: 'r' :: rest => (raw? .terminated rest).map fun (_, n) => (.literal, n + 2)
  | 'b' :: '\'' :: rest => (quotedCharacter? .bytes rest).map fun n => (.literal, n + 2)
  | '\'' :: rest => (quotedCharacter? .text rest).map fun n => (.literal, n + 1)
  | _ => none

def literalLexeme? (cs : List Char) : Option (TokenShape × Nat) :=
  match quoted? cs with
  | some (shape, length) => some (shape, length + (wordLength? (cs.drop length)).getD 0)
  | none =>
    match number? cs (floatDigits? cs) with
    | some length => some (.float (cs.take length), length)
    | none => (number? cs (integerDigits? cs)).map fun length =>
        (.integer (cs.take length), length)

-- ---------------------------------------------------------------------------
-- Tokens
-- ---------------------------------------------------------------------------

/-- A group with only the comment `ERROR` inside is a literal that went wrong. -/
def brokenLiteral : List Char :=
  "(/*ERROR*/)".toList

def lexeme? (cs : List Char) : Option (TokenShape × Nat) :=
  if brokenLiteral.isPrefixOf cs then some (.literal, brokenLiteral.length)
  else (literalLexeme? cs).or ((markLexeme? cs).or (wordLexeme? cs))

inductive Piece where
  | gap (length : Nat)
  | tokens (shapes : List TokenShape) (length : Nat)
  | opening (delimiter : Delimiter)
  | closing (delimiter : Delimiter)
  | unreadable

def docPiece (doc : DocComment) : Piece :=
  if hasBareReturn doc.content then .unreadable else .tokens doc.shapes doc.length

def tokenPiece (cs : List Char) : Piece :=
  match lexeme? cs with
  | some (shape, length) => .tokens [shape] length
  | none =>
    match cs.head?.bind Delimiter.ofOpening?, cs.head?.bind Delimiter.ofClosing? with
    | some delimiter, _ => .opening delimiter
    | none, some delimiter => .closing delimiter
    | none, none => .unreadable

def piece (cs : List Char) : Piece :=
  match gap? cs with
  | some length => .gap length
  | none =>
    match docComment? cs with
    | some doc => docPiece doc
    | none => tokenPiece cs

/-- Reads tokens at a line, with the delimiters that are open and the tokens read
before in reverse. `skip` characters are read already. -/
def tokensFrom (line : Nat) (opened : List (Delimiter × Nat)) (done : List Token) (skip : Nat) :
    List Char → Except SyntaxError (List Token)
  | [] =>
    match opened with
    | [] => .ok done.reverse
    | (_, start) :: _ => .error ⟨start⟩
  | c :: rest =>
    let next := if c = '\n' then line + 1 else line
    match skip with
    | skip + 1 => tokensFrom next opened done skip rest
    | 0 =>
      match piece (c :: rest) with
      | .gap length => tokensFrom next opened done (length - 1) rest
      | .tokens shapes length =>
        tokensFrom next opened ((shapes.map (⟨·, line⟩)).reverse ++ done) (length - 1) rest
      | .opening delimiter =>
        tokensFrom next ((delimiter, line) :: opened) (⟨.opening delimiter, line⟩ :: done) 0 rest
      | .closing delimiter =>
        match opened with
        | (expected, _) :: outer =>
          if expected = delimiter then
            tokensFrom next outer (⟨.closing delimiter, line⟩ :: done) 0 rest
          else .error ⟨line⟩
        | [] => .error ⟨line⟩
      | .unreadable => .error ⟨line⟩

/-- A byte order mark at the start is not part of the text. -/
def withoutMark (cs : List Char) : List Char :=
  match cs with
  | '\ufeff' :: rest => rest
  | _ => cs

/-- The tokens of a text. Their delimiters are paired. -/
def tokensOf (cs : List Char) : Except SyntaxError (List Token) :=
  tokensFrom 1 [] [] 0 (withoutMark cs)

end SchemaCompiler.Source
