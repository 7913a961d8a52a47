import SchemaCompiler.Entity.Basic
import SchemaCompiler.Naming.Case

/-!
# Kinds of generated files
-/

namespace SchemaCompiler

inductive ArtifactKind where
  /-- Column descriptors of every entity. -/
  | columns
  /-- Statements on one entity's rows. -/
  | repository
  /-- A query builder for one entity. -/
  | query
  /-- Relationship loaders of every entity. -/
  | relations
  /-- The module that declares the others. -/
  | root
deriving DecidableEq, Repr

namespace ArtifactKind

/-- All kinds, in the order in which they are rendered. -/
def all : List ArtifactKind := [columns, repository, query, relations, root]

def name : ArtifactKind → String
  | columns => "columns"
  | repository => "repository"
  | query => "query"
  | relations => "relations"
  | root => "root"

/-- The module of a file that covers the whole model. -/
def modelModule? : ArtifactKind → Option String
  | columns => some "columns"
  | relations => some "relations"
  | root => some "mod"
  | repository | query => none

/-- What follows an entity's module name in a file for one entity. -/
def entityEnding? : ArtifactKind → Option String
  | repository => some "_repository"
  | query => some "_query"
  | columns | relations | root => none

def unknownMessage (name : String) : String :=
  "Unknown artifact kind: " ++ name ++
    " (expected columns, repository, query, relations or root)"

/-- Names are read without regard to case. -/
def ofName? (name : String) : Option ArtifactKind :=
  match String.ofList (name.toList.flatMap Text.lowercase) with
  | "columns" => some columns
  | "repository" | "repositories" => some repository
  | "query" | "queries" => some query
  | "relations" | "relationships" => some relations
  | "root" | "mod" => some root
  | _ => none

end ArtifactKind

end SchemaCompiler
