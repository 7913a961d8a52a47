import SchemaCompiler.Source.Grammar

/-!
# Declarations in source text

Every record with named fields is a declaration, also one inside a module, unless
the module is for tests only. A tag that is not written as a text makes its
declaration fail, and no other.
-/

namespace SchemaCompiler.Source

-- ---------------------------------------------------------------------------
-- Tags
-- ---------------------------------------------------------------------------

inductive Tag where
  | attributes
  | relationship
  | display
deriving DecidableEq, Repr

def Tag.name : Tag → String
  | attributes => "db"
  | relationship => "rel"
  | display => "display"

inductive TagDefect where
  | notAssigned
  | notText
  | repeated
deriving DecidableEq, Repr

structure TagError where
  tag : Tag
  defect : TagDefect
deriving DecidableEq, Repr

def TagError.message (e : TagError) : String :=
  let written := "`#[" ++ e.tag.name ++ "]`"
  match e.defect with
  | .notAssigned => written ++ " must be written as #[" ++ e.tag.name ++ " = \"...\"]"
  | .notText => written ++ " value must be a string literal"
  | .repeated => written ++ " given more than once"

def AttributeForm.tagText : AttributeForm → Except TagDefect String
  | text written => .ok written
  | value => .error .notText
  | bare | list _ => .error .notAssigned

/-- A tag with one more text. Attribute tags add up, with a semicolon between them. -/
def Tag.add (tag : Tag) (held : Option String) (text : String) :
    Except TagDefect (Option String) :=
  match held with
  | none => .ok (some text)
  | some before =>
    if tag = .attributes then .ok (some (before ++ ";" ++ text)) else .error .repeated

def Tag.readFrom (tag : Tag) (held : Option String) :
    List Attribute → Except TagDefect (Option String)
  | [] => .ok held
  | first :: rest =>
    if first.path = tag.name then do
      tag.readFrom (← tag.add held (← first.form.tagText)) rest
    else tag.readFrom held rest

def Tag.read (tag : Tag) (attributes : List Attribute) : Except TagError (Option String) :=
  (tag.readFrom none attributes).mapError (⟨tag, ·⟩)

-- ---------------------------------------------------------------------------
-- Declarations
-- ---------------------------------------------------------------------------

def RecordField.declare (field : RecordField) : Except TagError Field := do
  return {
    name := field.name.text
    type := field.type.shape
    attributes := ← Tag.attributes.read field.attributes
    relationship := ← Tag.relationship.read field.attributes
    display := ← Tag.display.read field.attributes
    line := field.line }

/-- A tag that cannot be read, on a record or on one of its fields. -/
structure RecordError where
  field? : Option String
  cause : TagError
deriving DecidableEq, Repr

def RecordError.message (e : RecordError) : String :=
  match e.field? with
  | none => e.cause.message
  | some field => "field " ++ field ++ ": " ++ e.cause.message

def Record.publicFields (record : Record) : List RecordField :=
  record.fields.filter (·.visibility = .everywhere)

def RecordField.declareIn (field : RecordField) : Except RecordError Field :=
  field.declare.mapError (⟨some field.name.text, ·⟩)

def Record.declare (record : Record) (file : String) : Except RecordError Declaration := do
  let table ← (Tag.attributes.read record.attributes).mapError (⟨none, ·⟩)
  let fields ← record.publicFields.mapM RecordField.declareIn
  return { name := record.name.text, file, line := record.line, table, fields }

/-- A record's declaration, or why it fails, with the record's name. -/
def Record.declareOrFail (record : Record) (file : String) : Except Failure Declaration :=
  (record.declare file).mapError fun e => ⟨file, record.name.text ++ ": " ++ e.message⟩

/-- Whether an attribute keeps its item for tests. -/
def Attribute.isForTests (a : Attribute) : Bool :=
  a.path = "cfg" && a.form = .list (some "test")

/-- The records that count, in order. -/
def Items.records : Items → List Record
  | empty => []
  | record first rest => first :: rest.records
  | module attributes inner rest =>
    (if attributes.any Attribute.isForTests then [] else inner.records) ++ rest.records
  | other rest => rest.records

/-- What a source text declares, for the file at a path. -/
def declarations (text file : String)
    (parse : String → Except SyntaxError Items := Items.parse) :
    Except SyntaxError (List (Except Failure Declaration)) := do
  let items ← parse (.ofList (withoutMark text.toList))
  return items.records.map (·.declareOrFail file)

end SchemaCompiler.Source

namespace SchemaCompiler

/-- A file that is no source text. -/
structure SourceError where
  path : String
  line : Nat
deriving DecidableEq, Repr

def SourceError.message (e : SourceError) : String :=
  "Source parse error in " ++ e.path ++ " at line " ++ toString e.line

end SchemaCompiler
