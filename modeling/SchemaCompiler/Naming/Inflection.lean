import SchemaCompiler.Naming.Case

/-!
# Plural and singular

English inflection of one lowercase word. Tables of exact words come before the
rules on endings.
-/

namespace SchemaCompiler.Naming

open Text

/-- Singular and plural forms that the endings get wrong. -/
def irregularPlurals : List (String × String) := [
  ("person", "people"), ("man", "men"), ("woman", "women"), ("child", "children"),
  ("mouse", "mice"), ("goose", "geese"), ("foot", "feet"), ("tooth", "teeth"), ("ox", "oxen"),
  ("datum", "data"), ("criterion", "criteria"), ("phenomenon", "phenomena"),
  ("analysis", "analyses"), ("axis", "axes"), ("crisis", "crises"), ("status", "statuses"),
  ("bus", "buses"), ("quiz", "quizzes"), ("leaf", "leaves"), ("life", "lives"),
  ("knife", "knives"), ("wife", "wives")]

/-- Words that are their own plural. -/
def uncountable : List String := [
  "sheep", "fish", "series", "species", "news", "equipment", "information", "metadata",
  "feedback"]

def isVowel (c : Char) : Bool :=
  ['a', 'e', 'i', 'o', 'u'].contains c

def endsWithAny (endings : List String) (cs : List Char) : Bool :=
  endings.any fun ending => ending.toList.isSuffixOf cs

def regularPlural (cs : List Char) : List Char :=
  match cs.reverse with
  | 'y' :: before :: stem =>
    if isVowel before then cs ++ ['s'] else (before :: stem).reverse ++ ['i', 'e', 's']
  | _ =>
    if endsWithAny ["s", "sh", "ch", "x", "z"] cs then cs ++ ['e', 's'] else cs ++ ['s']

def plural (word : String) : String :=
  if word = "" ∨ word ∈ uncountable then word
  else match irregularPlurals.lookup word with
    | some form => form
    | none => .ofList (regularPlural word.toList)

def regularSingular (cs : List Char) : List Char :=
  match dropEnd? ['i', 'e', 's'] cs with
  | some (c :: stem) => c :: stem ++ ['y']
  | _ =>
    match dropEnd? ['e', 's'] cs with
    | some stem =>
      if endsWithAny ["ss", "sh", "ch", "x", "z"] stem then stem else dropPluralMark cs
    | none => dropPluralMark cs
where
  dropPluralMark (cs : List Char) : List Char :=
    if endsWithAny ["ss", "us", "is"] cs then cs else (dropEnd? ['s'] cs).getD cs

def singular (word : String) : String :=
  if word = "" ∨ word ∈ uncountable then word
  else match irregularPlurals.find? (·.2 = word) with
    | some (form, _) => form
    | none =>
      if irregularPlurals.any (·.1 = word) then word
      else .ofList (regularSingular word.toList)

/-- The table of an entity that declares none. -/
def tableName (entity : String) : String :=
  plural (snake entity)

/-- The conversions that templates call by name. -/
def helpers : List (String × (String → String)) := [
  ("snake", snake), ("camel", camel), ("pascal", pascal), ("plural", plural),
  ("singular", singular), ("table", tableName)]

def helper? (name : String) : Option (String → String) :=
  helpers.lookup name

end SchemaCompiler.Naming
