import SchemaCompiler.Proofs.Model.Validity

/-!
# Keys of relations

A report without errors promises for every relation that its target is in the model, and
for all kinds but one that its keys are columns of the sides they stand for. The keys of a
relation through a join table are never looked up.
-/

namespace SchemaCompiler

namespace Relation

/-- The keys that stand for columns of the entity with the relation. -/
def ownKeys : Relation → List String
  | belongsTo _ foreignKey _ => [foreignKey]
  | hasOne _ _ sourceKey | hasMany _ _ sourceKey => [sourceKey]
  | manyToMany _ _ _ _ sourceKey _ => [sourceKey]

/-- The keys that stand for columns of the target. -/
def targetKeys : Relation → List String
  | belongsTo _ _ targetKey => [targetKey]
  | hasOne _ foreignKey _ | hasMany _ foreignKey _ => [foreignKey]
  | manyToMany _ _ _ _ _ targetKey => [targetKey]

end Relation

namespace RelationField

/-- All keys but those of a join table are columns of their sides. -/
def HasKeys (entity target : Entity) (field : RelationField) : Prop :=
  (∀ key ∈ field.relationship.relation.ownKeys, key ∈ entity.columnNames) ∧
    ∀ key ∈ field.relationship.relation.targetKeys, key ∈ target.columnNames

instance (entity target : Entity) (field : RelationField) :
    Decidable (field.HasKeys entity target) :=
  inferInstanceAs (Decidable (_ ∧ _))

theorem joins_iff {entity target : Entity} {field : RelationField} :
    field.Joins entity target ↔
      (field.relationship.kind ≠ .manyToMany → field.HasKeys entity target) := by
  rw [Joins, HasKeys, Relationship.kind]
  cases field.relationship.relation <;>
    simp [Relation.kind, Relation.ownKeys, Relation.targetKeys, and_comm]

end RelationField

namespace Model

/-- The target of every relation of a valid model is in the model. Unless the relation goes
through a join table, all its keys are columns of the right sides. -/
theorem keys_of_isValid {model : Model} (h : model.validate.isValid = true) {entity : Entity}
    (he : entity ∈ model.entities) {field : RelationField} (hf : field ∈ entity.relations) :
    ∃ target, model.get? field.relationship.target = some target ∧
      (field.relationship.kind ≠ .manyToMany → field.HasKeys entity target) := by
  have hfield := harmless_of_isValid h he hf
  cases hg : model.get? field.relationship.target with
  | none => exact absurd (target_mem_of_isValid h he hf) (get?_eq_none_iff.mp hg)
  | some target =>
    simp only [RelationField.faults, hg, harmless_append,
      RelationField.keyFaults_harmless] at hfield
    exact ⟨target, rfl, RelationField.joins_iff.mp hfield.1.1⟩

end Model

/-- Posts with an author and with tags. The key for the tags is no column of a tag. -/
def taggedPosts : List Declaration := [
  { name := "Author", file := "author.rs", line := 1
    fields := [
      { name := "id", type := { base := "i64" }, attributes := some "primary_key", line := 2 } ] },
  { name := "Tag", file := "tag.rs", line := 1
    fields := [
      { name := "id", type := { base := "i64" }, attributes := some "primary_key", line := 2 } ] },
  { name := "Post", file := "post.rs", line := 1
    fields := [
      { name := "id", type := { base := "i64" }, attributes := some "primary_key", line := 2 },
      { name := "author_id", type := { base := "i64" }, line := 3 },
      { name := "author", type := { base := "Author" },
        relationship := some "belongs_to:Author", line := 4 },
      { name := "tags", type := { base := "Tag", isCollection := true },
        relationship := some ("many_to_many:Tag,join_table:post_tags," ++
          "join_source_key:post_id,join_target_key:tag_id,target_key:slug"), line := 5 } ] } ]

theorem taggedPosts_built :
    ∃ model, (Model.build {} taggedPosts).1 = .ok model ∧ model.validate.isValid = true ∧
      ∃ entity ∈ model.entities,
        (∃ field ∈ entity.relations, field.relationship.kind = .belongsTo) ∧
          ∃ field ∈ entity.relations, ∀ target,
            model.get? field.relationship.target = some target → ¬ field.HasKeys entity target := by
  have hany : ∃ model, (Model.build {} taggedPosts).1 = .ok model ∧
      (model.validate.isValid && model.entities.any fun entity =>
        entity.relations.any (·.relationship.kind = .belongsTo) &&
          entity.relations.any fun field => (model.get? field.relationship.target).all
            (¬ field.HasKeys entity ·)) = true :=
    Model.built_of_any (by decide +kernel)
  simpa [Option.all_eq_true] using hany

theorem keys_of_taggedPosts :
    ∃ model, (Model.build {} taggedPosts).1 = .ok model ∧ model.validate.isValid = true ∧
      ∃ entity ∈ model.entities, ∃ field ∈ entity.relations,
        field.relationship.kind = .belongsTo ∧
          ∃ target, model.get? field.relationship.target = some target ∧
            field.HasKeys entity target := by
  obtain ⟨model, hb, hvalid, entity, he, ⟨field, hf, hkind⟩, -⟩ := taggedPosts_built
  obtain ⟨target, hg, hkeys⟩ := Model.keys_of_isValid hvalid he hf
  exact ⟨model, hb, hvalid, entity, he, field, hf, hkind, target, hg, hkeys (by simp [hkind])⟩

/-- A key of a relation through a join table may be no column of the target. -/
theorem not_all_valid_haveKeys :
    ¬ ∀ model, (∃ declarations, (Model.build {} declarations).1 = .ok model) →
      model.validate.isValid = true → ∀ entity ∈ model.entities, ∀ field ∈ entity.relations,
        ∃ target, model.get? field.relationship.target = some target ∧
          field.HasKeys entity target := by
  intro hall
  obtain ⟨model, hb, hvalid, entity, he, -, field, hf, hnot⟩ := taggedPosts_built
  obtain ⟨target, hg, hkeys⟩ := hall model ⟨_, hb⟩ hvalid entity he field hf
  exact hnot target hg hkeys

end SchemaCompiler
