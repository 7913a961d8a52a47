import SchemaCompiler.Proofs.Attributes.Accepted
import SchemaCompiler.Proofs.Entity.Constraints
import SchemaCompiler.Proofs.Model.Origin
import SchemaCompiler.Proofs.Model.Validity

/-!
# References of columns

A tag may give several references to other tables. A report looks at the form of each
of them, but only the first becomes a constraint and only that one is looked up in the
model. The others are left out without a word.
-/

namespace SchemaCompiler

open Sql

def Column.referenceTexts (column : Column) : List String :=
  column.attributes.values "foreign_key"

theorem Entity.From.foreignKey_eq_some_iff {declaration : Declaration} {entity : Entity}
    (h : entity.From declaration) {column : Column} (hc : column ∈ entity.columns)
    {reference : ForeignKey} :
    column.foreignKey = some reference ↔
      column.referenceTexts.head?.map ForeignKey.parse = some (.ok reference) := by
  obtain ⟨field, -, attributes, rfl⟩ := h.column hc
  simp only [Column.ofField, Column.referenceTexts]
  cases (attributes.values "foreign_key").head? with
  | none => simp
  | some text => cases hp : ForeignKey.parse text <;> simp [hp, Except.toOption]

namespace Model

/-- In a model that is reported as valid every reference text of a column is read. What it
refers to is a constraint of the column that resolves exactly if the first text refers to
the same. -/
theorem references_of_isValid {cache : TagCache} {declarations : List Declaration}
    {model : Model} (hb : (build cache declarations).1 = .ok model)
    (hv : model.validate.isValid = true) {entity : Entity} (he : entity ∈ model.entities)
    {column : Column} (hc : column ∈ entity.columns) {text : String}
    (ht : text ∈ column.referenceTexts) :
    ∃ reference, ForeignKey.parse text = .ok reference ∧
      (reference ∈ entity.references column.name ∧ reference.Resolves model ↔
        column.referenceTexts.head?.map ForeignKey.parse = some (.ok reference)) := by
  have hwell := (wellFormed_of_isValid hb hv).entities entity he
  have hcolumn := hwell.columns column hc
  obtain ⟨declaration, -, hfrom⟩ := from_of_build hb entity he
  obtain ⟨reference, hparse⟩ := Attributes.foreignKey_of_mem_values hcolumn.tag ht
  have hmem : reference ∈ entity.references column.name ↔ column.foreignKey = some reference := by
    rw [((coherent_of_build hb).assembled entity he).references hwell.distinctColumns hc,
      Option.mem_toList]
  refine ⟨reference, hparse, ?_⟩
  rw [hmem, ← hfrom.foreignKey_eq_some_iff hc]
  constructor
  · rintro ⟨hin, -⟩
    exact hin
  · intro hin
    exact ⟨hin, hcolumn.reference reference hin⟩

end Model

/-- Posts of users, with a second reference of the author to a column that users do not
have. -/
def signedPosts : List Declaration := [
  { name := "User"
    file := "user.rs"
    line := 1
    fields := [
      { name := "id", type := { base := "i64" }, attributes := some "primary_key", line := 2 } ] },
  { name := "Post"
    file := "post.rs"
    line := 1
    fields := [
      { name := "id", type := { base := "i64" }, attributes := some "primary_key", line := 2 },
      { name := "owner_id", type := { base := "i64" },
        attributes := some "foreign_key:users.id; foreign_key:users.nope", line := 3 } ] } ]

theorem signedPosts_built :
    ∃ model, (Model.build {} signedPosts).1 = .ok model ∧ model.validate.isValid = true ∧
      ∃ entity ∈ model.entities, ∃ column ∈ entity.columns,
        column.referenceTexts = ["users.id", "users.nope"] ∧
          entity.references column.name = [⟨"users", "id"⟩] := by
  have hany : ∃ model, (Model.build {} signedPosts).1 = .ok model ∧
      (model.validate.isValid && model.entities.any fun entity =>
        entity.columns.any fun column =>
          decide (column.referenceTexts = ["users.id", "users.nope"]) &&
            decide (entity.references column.name = [⟨"users", "id"⟩])) = true :=
    Model.built_of_any (by decide +kernel)
  simpa using hany

theorem references_of_signedPosts :
    ∃ model, (Model.build {} signedPosts).1 = .ok model ∧ model.validate.isValid = true ∧
      ∃ entity ∈ model.entities, ∃ column ∈ entity.columns, ∃ text ∈ column.referenceTexts,
        ∃ reference ∈ entity.references column.name, ForeignKey.parse text = .ok reference ∧
          reference.Resolves model := by
  obtain ⟨model, hb, hvalid, entity, he, column, hc, htexts, -⟩ := signedPosts_built
  have ht : "users.id" ∈ column.referenceTexts := by simp [htexts]
  obtain ⟨reference, hparse, hiff⟩ := Model.references_of_isValid hb hvalid he hc ht
  obtain ⟨hm, hr⟩ := hiff.mpr (by simp [htexts, hparse])
  exact ⟨model, hb, hvalid, entity, he, column, hc, _, ht, reference, hm, hparse, hr⟩

/-- A second reference is neither a constraint nor reported. -/
theorem not_all_references_constrained :
    ¬ ∀ model, (∃ declarations, (Model.build {} declarations).1 = .ok model) →
      model.validate.isValid = true → ∀ entity ∈ model.entities, ∀ column ∈ entity.columns,
        ∀ text ∈ column.referenceTexts, ∃ reference ∈ entity.references column.name,
          ForeignKey.parse text = .ok reference ∧ reference.Resolves model := by
  intro hall
  obtain ⟨model, hb, hvalid, entity, he, column, hc, htexts, hreferences⟩ := signedPosts_built
  have ht : "users.nope" ∈ column.referenceTexts := by simp [htexts]
  obtain ⟨reference, hm, hparse, -⟩ := hall model ⟨_, hb⟩ hvalid entity he column hc _ ht
  rw [hreferences, List.mem_singleton] at hm
  subst hm
  exact absurd hparse (by decide)

end SchemaCompiler
