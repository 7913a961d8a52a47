import SchemaCompiler.Text.Blank
import SchemaCompiler.Text.Split

/-!
# Attribute tags

An attribute tag is `key:value;flag;key:value`. A flag has the empty value. The
values of a repeated key are kept in one text, parted by semicolons, so that
they are read back in the order they were given.
-/

namespace SchemaCompiler

open Text

/-- Entries ordered by key, each key once. -/
structure Attributes where
  entries : List (String × String) := []
deriving DecidableEq, Repr

namespace Attributes

def valueSeparator : Char := ';'

/-- What a key holds after one more value is given for it. -/
def accumulate (held value : String) : String :=
  if held = "" then value
  else if value = "" then held
  else held ++ valueSeparator.toString ++ value

def insertEntry (key value : String) : List (String × String) → List (String × String)
  | [] => [(key, value)]
  | (k, held) :: rest =>
    if key = k then (k, accumulate held value) :: rest
    else if key < k then (key, value) :: (k, held) :: rest
    else (k, held) :: insertEntry key value rest

def insert (attributes : Attributes) (key value : String) : Attributes :=
  ⟨insertEntry key value attributes.entries⟩

/-- The key and value of one segment, none if it is blank. -/
def segment? (text : List Char) : Option (String × String) :=
  let text := trim text
  if text.isEmpty then none
  else match cut? ':' text with
    | some (key, value) => some (.ofList (trim key), .ofList (trim value))
    | none => some (.ofList text, "")

def segments (raw : String) : List (String × String) :=
  (pieces valueSeparator raw.toList).filterMap segment?

/-- Reading never fails; what the keys mean is checked elsewhere. -/
def parse (raw : String) : Attributes :=
  (segments raw).foldl (fun attributes (key, value) => attributes.insert key value) {}

def get? (attributes : Attributes) (key : String) : Option String :=
  attributes.entries.lookup key

/-- The value of a key that has a nonempty one. -/
def value? (attributes : Attributes) (key : String) : Option String :=
  (attributes.get? key).filter (· ≠ "")

def has (attributes : Attributes) (key : String) : Bool :=
  (attributes.get? key).isSome

/-- The nonempty values among those that `text` holds. -/
def valuesOf (text : String) : List String :=
  ((pieces valueSeparator text.toList).map trim).filterMap fun piece =>
    if piece.isEmpty then none else some (.ofList piece)

def values (attributes : Attributes) (key : String) : List String :=
  valuesOf ((attributes.get? key).getD "")

end Attributes

end SchemaCompiler
