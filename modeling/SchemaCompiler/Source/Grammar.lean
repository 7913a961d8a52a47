import SchemaCompiler.Source.Grammar.Item
import SchemaCompiler.Source.Lexer

/-!
# Whole source texts

The rules of all goals, and reading a file or a type with them.
-/

namespace SchemaCompiler.Source

open Source.Parser

namespace Grammar

/-- Every goal by its rule, where `grammar` reads the goals inside of it. -/
def rules (grammar : Grammar) : Grammar
  | .type allowPlus => typeRule grammar allowPlus
  | .bound allowCapture => boundRule grammar allowCapture
  | .expression allowRecord => expressionRule grammar allowRecord
  | .unary allowRecord => unaryRule grammar allowRecord
  | .operators left allowRecord least => operatorsRule grammar left allowRecord least
  | .rightSide allowRecord operator => rightSideRule grammar allowRecord operator
  | .standalone => standaloneRule grammar
  | .pattern => patternRule grammar
  | .statements => statementsRule grammar
  | .item => itemRule grammar
  | .useTree allowRoot => useTreeRule grammar allowRoot

/-- The grammar for texts whose goals lie inside each other at most so deep. -/
def upTo : Nat → Grammar
  | 0 => fun _ => fail
  | depth + 1 => rules (upTo depth)

/-- A text's goals cannot lie deeper than this: on the way to a token few goals begin. -/
def depthFor (tokens : List Token) : Nat :=
  16 * tokens.length + 64

end Grammar

/-- A first line that names the program to run is not part of a file's text. An attribute
may start likewise. -/
def withoutProgramLine (cs : List Char) : List Char :=
  match cs with
  | '#' :: '!' :: rest =>
    if (afterGaps 0 rest).head? = some '[' then cs else cs.dropWhile (· ≠ '\n')
  | _ => cs

def file (grammar : Grammar) : Parser Items := do
  let _ ← Grammar.innerAttributes grammar
  Grammar.items grammar

def Items.parse (text : String) : Except SyntaxError Items := do
  let tokens ← tokensOf (withoutProgramLine (withoutMark text.toList))
  (file (Grammar.upTo (Grammar.depthFor tokens))).run tokens

def TypeExpr.parse (text : String) : Except SyntaxError TypeExpr := do
  let tokens ← tokensOf text.toList
  (Grammar.type (Grammar.upTo (Grammar.depthFor tokens))).run tokens

end SchemaCompiler.Source
