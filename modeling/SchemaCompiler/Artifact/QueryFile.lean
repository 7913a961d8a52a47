import SchemaCompiler.Artifact.Code
import SchemaCompiler.Artifact.Payload
import SchemaCompiler.Sql.Statement

/-!
# Query builders

One file for each entity with a builder of SELECT statements on its table.
-/

namespace SchemaCompiler.QueryFile

open Code Sql

def orderType : List String :=
  [ "/// Sort direction", "#[derive(Debug, Clone, Copy, PartialEq, Eq)]" ] ++
    block "pub enum Order" ["Asc,", "Desc,"]

def orderMethods : List String :=
  block "impl Order" (block "fn as_sql(self) -> &'static str" (block "match self" [
    "Order::Asc => \"ASC\",",
    "Order::Desc => \"DESC\","]))

def builderFields : List String := [
  "filters: Vec<(&'static str, &'static str)>,",
  "order: Vec<(&'static str, Order)>,",
  "limit: Option<u64>,",
  "offset: Option<u64>,"]

/-- The line that writes `first` before the first item and `next` before the others. -/
def pushSeparator (first next : String) : String :=
  "sql.push_str(if i == 0 " ++ braced (Text.quoted first) ++ " else " ++
    braced (Text.quoted next) ++ ");"

def pushFilters : List String :=
  block "for (i, (column, op)) in self.filters.iter().enumerate()" (
    [ pushSeparator " WHERE " " AND ", "sql.push_str(column);", "sql.push(' ');" ] ++
    block "match op.strip_suffix('?')" (
      block "Some(cmp) =>" [
        "param += 1;",
        "sql.push_str(cmp);",
        "sql.push('$');",
        "sql.push_str(&param.to_string());"] ++
      ["None => sql.push_str(op),"]))

def pushOrder : List String :=
  block "for (i, (column, order)) in self.order.iter().enumerate()" [
    pushSeparator " ORDER BY " ", ",
    "sql.push_str(column);",
    "sql.push(' ');",
    "sql.push_str(order.as_sql());"]

def pushBound (field word : String) : List String :=
  block ("if let Some(" ++ field ++ ") = self." ++ field) [
    "sql.push_str(\" " ++ word ++ " \");",
    "sql.push_str(&" ++ field ++ ".to_string());"]

def setBound (field : String) : Method :=
  { name := field
    parameters := "mut self, " ++ field ++ ": u64"
    result := "Self"
    body := ["self." ++ field ++ " = Some(" ++ field ++ ");", "self"] }

def commonMethods : List Method := [
  { name := "new", parameters := "", result := "Self", body := ["Self::default()"] },
  setBound "limit",
  setBound "offset",
  { docs := ["Number of positional parameters `to_sql` expects"]
    name := "param_count"
    parameters := "&self"
    result := "usize"
    body := ["self.filters.iter().filter(|(_, op)| op.ends_with('?')).count()"] },
  { name := "to_sql"
    parameters := "&self"
    result := "String"
    body := ["let mut sql = String::from(Self::SELECT);", "let mut param = 0;"] ++
      pushFilters ++ pushOrder ++ pushBound "limit" "LIMIT" ++ pushBound "offset" "OFFSET" ++
      ["sql"] }]

/-- A filter of a column by an operator, which ends with `?` if it takes a parameter. -/
def filterMethod (name column operator : String) : Method :=
  { name
    parameters := "mut self"
    result := "Self"
    body := [
      "self.filters.push((" ++ Text.quoted column ++ ", " ++ Text.quoted operator ++ "));",
      "self"] }

def orderMethod (name column : String) : Method :=
  { name
    parameters := "mut self, order: Order"
    result := "Self"
    body := ["self.order.push((" ++ Text.quoted column ++ ", order));", "self"] }

def nullMethods (stem : String) (column : Column) : List Method :=
  if column.isNullable then [
    filterMethod ("where_" ++ stem ++ "_is_null") column.name "IS NULL",
    filterMethod ("where_" ++ stem ++ "_is_not_null") column.name "IS NOT NULL"]
  else []

def columnMethods (column : Column) : List Method :=
  let stem := Naming.snake column.name
  [ filterMethod ("where_" ++ stem ++ "_eq") column.name "= ?",
    filterMethod ("where_" ++ stem ++ "_ne") column.name "<> ?" ] ++
  nullMethods stem column ++
  [orderMethod ("order_by_" ++ stem) column.name]

def methods (entity : Entity) : List Method :=
  commonMethods ++ entity.columns.flatMap columnMethods

def typeName (entity : Entity) : String :=
  Naming.pascal entity.name ++ "Query"

def constantLines (entity : Entity) : List String := [
  "pub const TABLE: &'static str = " ++ Text.quoted entity.table ++ ";",
  "const SELECT: &'static str = " ++
    Text.quoted (Statement.selectAll entity.columnNames entity.table).text ++ ";"]

def body (entity : Entity) : List (List String) :=
  [ ["//! Query builder for `" ++ entity.table ++ "` (" ++ entity.name ++ ")."],
    orderType,
    orderMethods,
    [ "/// SELECT over `" ++ entity.table ++
        "`. Each `where_*_eq`/`where_*_ne` call adds one positional parameter.",
      "#[derive(Debug, Clone, Default)]" ] ++
      block ("pub struct " ++ typeName entity) builderFields,
    block ("impl " ++ typeName entity)
      (paragraphs (constantLines entity :: (methods entity).map Method.lines)) ]

end SchemaCompiler.QueryFile
