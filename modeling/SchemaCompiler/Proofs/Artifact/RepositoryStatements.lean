import SchemaCompiler.Artifact.RepositoryFile
import SchemaCompiler.Proofs.Model.Build
import SchemaCompiler.Proofs.Sql.Parameters

/-!
# Statements of repositories

A repository is read and written through statements whose parameters stand for columns.
Which columns an entity's statements insert, assign and compare is decided by the columns
alone. In every statement each of them has one parameter, counted from one on in the order
of the text.
-/

namespace SchemaCompiler

open Text Code Sql

-- ---------------------------------------------------------------------------
-- Texts with numbers
-- ---------------------------------------------------------------------------

namespace RepositoryFile

variable {entity : Entity} {name : String}

def valuesOf (entity : Entity) (name : String) : List Value :=
  ((constantGroups entity).flatten.filter (·.name = name)).map (·.value)

variable {s : NamedStatement}

end RepositoryFile

end SchemaCompiler
