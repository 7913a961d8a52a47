import SchemaCompiler.Sql.Literal
import SchemaCompiler.Text.Split

/-!
# Foreign keys, indexes, enumerations and defaults

The values of the keys that name other parts of a schema.
-/

namespace SchemaCompiler.Sql

open Text

-- ---------------------------------------------------------------------------
-- Foreign keys
-- ---------------------------------------------------------------------------

structure ForeignKey where
  table : String
  column : String
deriving DecidableEq, Repr

def ForeignKey.text (key : ForeignKey) : String :=
  key.table ++ "." ++ key.column

inductive ForeignKeyError where
  | malformed (value : String)
deriving DecidableEq, Repr

def ForeignKeyError.message : ForeignKeyError → String
  | .malformed value => "foreign key `" ++ value ++ "` must be `table.column`"

/-- A table and a column parted by the only dot. -/
def ForeignKey.parse (value : String) : Except ForeignKeyError ForeignKey :=
  match cut? '.' (trim value.toList) with
  | none => .error (.malformed value)
  | some (table, column) =>
    let table := trim table
    let column := trim column
    if table.isEmpty || column.isEmpty || column.contains '.' then .error (.malformed value)
    else .ok ⟨.ofList table, .ofList column⟩

-- ---------------------------------------------------------------------------
-- Indexes
-- ---------------------------------------------------------------------------

structure IndexSpec where
  name : Option String
  columns : List String
deriving DecidableEq, Repr

inductive IndexSpecError where
  | noList (value : String)
  | noColumns (value : String)
  | badColumn (value column : String)
  | badName (name : String)
deriving DecidableEq, Repr

def IndexSpecError.message : IndexSpecError → String
  | .noList v => "index `" ++ v ++ "` must list its columns as name(col_a,col_b)"
  | .noColumns v => "index `" ++ v ++ "` lists no columns"
  | .badColumn v column => "index `" ++ v ++ "` names invalid column `" ++ column ++ "`"
  | .badName name => "invalid index name `" ++ name ++ "`"

def listItems (cs : List Char) : List String :=
  (((pieces ',' cs).map trim).filter (!·.isEmpty)).map String.ofList

def IndexSpec.parse (value : String) : Except IndexSpecError IndexSpec :=
  let text := trim value.toList
  let shown := String.ofList text
  match cut? '(' text with
  | none => .error (.noList shown)
  | some (before, after) =>
    if after.getLast? ≠ some ')' then .error (.noList shown)
    else
      let name := String.ofList (trim before)
      let columns := listItems after.dropLast
      if columns.isEmpty then .error (.noColumns shown)
      else match columns.find? (!isIdentifier ·) with
        | some column => .error (.badColumn shown column)
        | none =>
          if name = "" then .ok ⟨none, columns⟩
          else if isIdentifier name then .ok ⟨some name, columns⟩
          else .error (.badName name)

def IndexSpec.text (spec : IndexSpec) : String :=
  spec.name.getD "" ++ "(" ++ join "," spec.columns ++ ")"

-- ---------------------------------------------------------------------------
-- Enumerations
-- ---------------------------------------------------------------------------

inductive EnumError where
  | noValues
  | emptyValue (text : String)
  | badValue (value : String)
  | repeated (value : String)
deriving DecidableEq, Repr

def EnumError.message : EnumError → String
  | .noValues => "enum has no values"
  | .emptyValue text => "enum `" ++ text ++ "` contains an empty value"
  | .badValue value => "enum value `" ++ value ++ "` is not identifier-safe"
  | .repeated value => "enum value `" ++ value ++ "` is repeated"

/-- The values of an enumeration after those `seen` before them. -/
def enumValuesFrom (text : String) (seen : List String) :
    List (List Char) → Except EnumError (List String)
  | [] => .ok seen
  | item :: rest =>
    let value := String.ofList (trim item)
    if value = "" then .error (.emptyValue text)
    else if !isIdentifier value then .error (.badValue value)
    else if seen.contains value then .error (.repeated value)
    else enumValuesFrom text (seen ++ [value]) rest

def enumValues (text : String) : Except EnumError (List String) :=
  if isBlankText text.toList then .error .noValues
  else enumValuesFrom text [] (pieces ',' text.toList)

-- ---------------------------------------------------------------------------
-- Defaults
-- ---------------------------------------------------------------------------

/-- Why a default expression deserves a warning. -/
inductive DefaultWarning where
  | empty
  | unrecognized (expression : String)
deriving DecidableEq, Repr

def DefaultWarning.message : DefaultWarning → String
  | .empty => "`default` has no value"
  | .unrecognized e => "unrecognized default expression `" ++ e ++ "` is passed through verbatim"

def defaultKeywords : List String := [
  "true", "false", "null", "current_timestamp", "current_date", "current_time",
  "localtimestamp", "localtime"]

def isRecognizedDefault (cs : List Char) : Bool :=
  isNumber cs || isQuoted cs || isCast cs || isCall cs ||
    defaultKeywords.contains (.ofList (cs.map Char.toLower))

def checkDefault (expression : String) : Option DefaultWarning :=
  let cs := trim expression.toList
  if cs.isEmpty then some .empty
  else if isRecognizedDefault cs then none
  else some (.unrecognized (.ofList cs))

end SchemaCompiler.Sql
