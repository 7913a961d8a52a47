import SchemaCompiler.Source.Item
import SchemaCompiler.Source.Parser

/-!
# Goals of the grammar

The parts of source text that contain each other. A rule of the grammar gets
parsers for all of them.
-/

namespace SchemaCompiler.Source

/-- How tightly an operator binds, loosest first. -/
inductive Precedence where
  | lowest
  | assignment
  | range
  | or
  | and
  | comparison
  | bitOr
  | bitXor
  | bitAnd
  | shift
  | sum
  | product
  | cast
deriving DecidableEq, Repr

def Precedence.rank : Precedence → Nat
  | lowest => 0
  | assignment => 1
  | range => 2
  | or => 3
  | and => 4
  | comparison => 5
  | bitOr => 6
  | bitXor => 7
  | bitAnd => 8
  | shift => 9
  | sum => 10
  | product => 11
  | cast => 12

/-- What matters of an expression to the tokens behind it. -/
inductive ExpressionForm where
  | range
  | comparison
  /-- A block, or an expression that ends with one. -/
  | block
  /-- A macro call in braces. -/
  | bracedMacro
  | other
deriving DecidableEq, Repr

inductive Goal where
  | type (allowPlus : Bool)
  | bound (allowCapture : Bool)
  /-- An expression. A record literal needs parentheses where none is allowed. -/
  | expression (allowRecord : Bool)
  | unary (allowRecord : Bool)
  /-- The operators behind an expression, those that bind at least so tightly. -/
  | operators (left : ExpressionForm) (allowRecord : Bool) (least : Precedence)
  /-- What stands to the right of an operator. -/
  | rightSide (allowRecord : Bool) (operator : Precedence)
  /-- An expression in the place of a statement or arm, which may end with its block. -/
  | standalone
  | pattern
  | statements
  | item
  | useTree (allowRoot : Bool)

/-- What reaching a goal tells: of a bound, whether it is a trait; of a pattern, the line
of a range that lacks an end; of an item, how it is put before others. -/
abbrev Goal.Result : Goal → Type
  | .type _ => TypeExpr
  | .bound _ => Bool
  | .expression _ | .unary _ | .operators .. | .rightSide .. | .standalone => ExpressionForm
  | .pattern => Option Nat
  | .statements | .useTree _ => Unit
  | .item => Items → Items

/-- A parser for every goal. -/
abbrev Grammar := (goal : Goal) → Parser goal.Result

namespace Grammar

def type (grammar : Grammar) (allowPlus : Bool := true) : Parser TypeExpr :=
  grammar (.type allowPlus)

def bound (grammar : Grammar) (allowCapture : Bool := false) : Parser Bool :=
  grammar (.bound allowCapture)

def expression (grammar : Grammar) (allowRecord : Bool := true) : Parser ExpressionForm :=
  grammar (.expression allowRecord)

def unary (grammar : Grammar) (allowRecord : Bool) : Parser ExpressionForm :=
  grammar (.unary allowRecord)

def operators (grammar : Grammar) (left : ExpressionForm) (allowRecord : Bool)
    (least : Precedence) : Parser ExpressionForm :=
  grammar (.operators left allowRecord least)

def rightSide (grammar : Grammar) (allowRecord : Bool) (operator : Precedence) :
    Parser ExpressionForm :=
  grammar (.rightSide allowRecord operator)

def standalone (grammar : Grammar) : Parser ExpressionForm :=
  grammar .standalone

def pattern (grammar : Grammar) : Parser (Option Nat) :=
  grammar .pattern

def statements (grammar : Grammar) : Parser Unit :=
  grammar .statements

def item (grammar : Grammar) : Parser (Items → Items) :=
  grammar .item

def useTree (grammar : Grammar) (allowRoot : Bool) : Parser Unit :=
  grammar (.useTree allowRoot)

end Grammar

end SchemaCompiler.Source
