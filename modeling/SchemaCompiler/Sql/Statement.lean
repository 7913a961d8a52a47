import SchemaCompiler.Text.Split

/-!
# Statements

SQL statements with positional parameters `$1`, `$2`, … and their text.
-/

namespace SchemaCompiler.Sql

open Text

inductive Condition where
  /-- A column equals a parameter. -/
  | equals (column : String) (parameter : Nat)
  /-- A column equals a quoted text. -/
  | equalsText (column text : String)
  /-- A condition as it was written. -/
  | verbatim (text : String)
deriving DecidableEq, Repr

inductive Assignment where
  | parameter (column : String) (parameter : Nat)
  | null (column : String)
deriving DecidableEq, Repr

inductive Statement where
  | select (columns : List String) (source : String) (conditions : List Condition)
      (order : Option String) (single : Bool)
  | count (table : String) (conditions : List Condition)
  /-- The values of the columns are the parameters from 1 on. -/
  | insert (table : String) (columns returning : List String)
  | update (table : String) (assignments : List Assignment) (conditions : List Condition)
  | delete (table : String) (conditions : List Condition)
deriving DecidableEq, Repr

def parameterText (n : Nat) : String :=
  "$" ++ toString n

def Condition.text : Condition → String
  | equals column n => column ++ " = " ++ parameterText n
  | equalsText column text => column ++ " = '" ++ text ++ "'"
  | verbatim text => "(" ++ text ++ ")"

def Assignment.text : Assignment → String
  | parameter column n => column ++ " = " ++ parameterText n
  | null column => column ++ " = NULL"

def whereText : List Condition → String
  | [] => ""
  | conditions => " WHERE " ++ join " AND " (conditions.map Condition.text)

/-- Columns compared with the parameters from `start` on. -/
def equalities (columns : List String) (start : Nat) : List Condition :=
  (columns.zipIdx start).map fun (column, n) => .equals column n

/-- Columns set to the parameters from 1 on. -/
def assignments (columns : List String) : List Assignment :=
  (columns.zipIdx 1).map fun (column, n) => .parameter column n

namespace Statement

def text : Statement → String
  | select columns source conditions order single =>
    "SELECT " ++ join ", " columns ++ " FROM " ++ source ++ whereText conditions ++
      (match order with
        | some order => " ORDER BY " ++ order
        | none => "") ++
      (if single then " LIMIT 1" else "")
  | count table conditions => "SELECT COUNT(*) FROM " ++ table ++ whereText conditions
  | insert table [] returning =>
    "INSERT INTO " ++ table ++ " DEFAULT VALUES RETURNING " ++ join ", " returning
  | insert table columns returning =>
    "INSERT INTO " ++ table ++ " (" ++ join ", " columns ++ ") VALUES (" ++
      join ", " ((columns.zipIdx 1).map fun (_, n) => parameterText n) ++ ") RETURNING " ++
      join ", " returning
  | update table assignments conditions =>
    "UPDATE " ++ table ++ " SET " ++ join ", " (assignments.map Assignment.text) ++
      whereText conditions
  | delete table conditions => "DELETE FROM " ++ table ++ whereText conditions

def selectAll (columns : List String) (source : String) : Statement :=
  select columns source [] none false

def selectWhere (columns : List String) (source : String) (conditions : List Condition) :
    Statement :=
  select columns source conditions none false

end Statement

/-- The parameter that a condition names, if it names one of its own. -/
def Condition.parameter? : Condition → Option Nat
  | equals _ n => some n
  | equalsText .. | verbatim _ => none

def Assignment.parameter? : Assignment → Option Nat
  | parameter _ n => some n
  | null _ => none

def Statement.parameters : Statement → List Nat
  | select _ _ conditions _ _ | count _ conditions | delete _ conditions =>
    conditions.filterMap Condition.parameter?
  | insert _ columns _ => (columns.zipIdx 1).map (·.2)
  | update _ assignments conditions =>
    assignments.filterMap Assignment.parameter? ++ conditions.filterMap Condition.parameter?

end SchemaCompiler.Sql
