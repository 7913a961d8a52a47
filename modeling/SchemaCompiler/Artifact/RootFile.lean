import SchemaCompiler.Artifact.Code
import SchemaCompiler.Artifact.Payload
import SchemaCompiler.Artifact.Plan

/-!
# The root module

One file that declares the other generated modules, in order, and lists the
entities.
-/

namespace SchemaCompiler.RootFile

open Code

def modules (payload : Payload) : List String :=
  (((payload.kinds.filter (· ≠ .root)).flatMap (Plan.ofKind payload.model)).map
    (·.moduleName)).mergeSort fun a b => decide (a ≤ b)

def moduleLines (payload : Payload) : List String :=
  (modules payload).map fun name => "pub mod " ++ name ++ ";"

def entityList (model : Model) : Constant :=
  { docs := ["Every entity in the model as `(type name, table name)`."]
    name := "ENTITIES"
    type := "&[(&str, &str)]"
    value := .items (model.entities.map fun entity =>
      "(" ++ Text.quoted entity.name ++ ", " ++ Text.quoted entity.table ++ "),") }

def body (payload : Payload) : List (List String) :=
  ["//! Generated data-access code for package `" ++ payload.package ++ "`."] ::
    ([moduleLines payload].filter (!·.isEmpty)) ++ [(entityList payload.model).lines]

end SchemaCompiler.RootFile
