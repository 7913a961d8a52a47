import SchemaCompiler.Text.Split

/-!
# Column types of declared types

The column type of a field that does not declare one.
-/

namespace SchemaCompiler

/-- The column type of one value; `size` bounds a text. -/
def scalarSqlType (name : String) (size : Option Nat) : String :=
  match name with
  | "i8" | "i16" | "u8" => "smallint"
  | "i32" | "u16" => "integer"
  | "i64" | "u32" | "u64" | "isize" | "usize" => "bigint"
  | "f32" => "real"
  | "f64" => "double precision"
  | "bool" => "boolean"
  | "char" => "char(1)"
  | "String" | "str" =>
    match size with
    | some (n + 1) => "varchar(" ++ toString (n + 1) ++ ")"
    | _ => "text"
  | "Uuid" => "uuid"
  | "NaiveDate" | "Date" => "date"
  | "NaiveTime" | "Time" => "time"
  | "DateTime" | "OffsetDateTime" => "timestamptz"
  | "NaiveDateTime" | "PrimitiveDateTime" | "SystemTime" => "timestamp"
  | "Decimal" | "BigDecimal" => "numeric"
  | "Value" | "Json" | "JsonValue" => "jsonb"
  | _ => "text"

/-- Only the last name of a qualified type counts. A collection is stored whole. -/
def inferSqlType (type : String) (isCollection : Bool) (size : Option Nat) : String :=
  let name := String.ofList (Text.lastName type.toList)
  if isCollection then if name = "u8" then "bytea" else "jsonb"
  else scalarSqlType name size

end SchemaCompiler
