import SchemaCompiler.Proofs.Model.Build
import SchemaCompiler.Proofs.Source.Names

/-!
# Where entities come from

Every entity of a built model is put together from one of the declarations, and its
columns from the fields of that declaration. So the names in a model are the names
in the source text.
-/

namespace SchemaCompiler

-- ---------------------------------------------------------------------------
-- Entities
-- ---------------------------------------------------------------------------

def TaggedField.field : TaggedField → Field
  | relation field .. => field
  | column field .. => field

theorem TagCache.field_of_readField {cache : TagCache} {entity : String} {field : Field}
    {tagged : TaggedField} (h : (cache.readField entity field).1 = .ok tagged) :
    tagged.field = field := by
  unfold readField at h
  split at h
  · split at h <;> cases h
    rfl
  · cases h
    rfl

theorem TagCache.fields_of_readFields {cache : TagCache} {entity : String} {fields : List Field}
    {tagged : List TaggedField} (h : (cache.readFields entity fields).1 = .ok tagged) :
    tagged.map (·.field) = fields := by
  induction fields generalizing cache tagged with
  | nil =>
    cases h
    rfl
  | cons field rest ih =>
    rw [readFields] at h
    split at h
    · cases h
    · rename_i hf
      split at h <;> cases h
      rename_i hr
      rw [List.map_cons, field_of_readField (by rw [hf]), ih (by rw [hr])]

/-- Put together from a declaration and all its fields. -/
def Entity.From (declaration : Declaration) (entity : Entity) : Prop :=
  ∃ attributes fields, entity = .assemble declaration attributes fields ∧
    fields.map (·.field) = declaration.fields

theorem Entity.from_of_build {cache : TagCache} {declaration : Declaration} {entity : Entity}
    (h : (Entity.build cache declaration).1 = .ok entity) : entity.From declaration := by
  simp only [Entity.build] at h
  split at h
  · cases h
  · cases h
    rename_i hf
    exact ⟨_, _, rfl, TagCache.fields_of_readFields (by rw [hf])⟩

theorem Entity.From.name {declaration : Declaration} {entity : Entity}
    (h : entity.From declaration) : entity.name = declaration.name := by
  obtain ⟨attributes, fields, rfl, -⟩ := h
  rfl

theorem Entity.From.column {declaration : Declaration} {entity : Entity}
    (h : entity.From declaration) {column : Column} (hc : column ∈ entity.columns) :
    ∃ field ∈ declaration.fields, ∃ attributes, column = .ofField field attributes := by
  obtain ⟨attributes, fields, rfl, hf⟩ := h
  obtain ⟨tagged, ht, hs⟩ := List.mem_filterMap.mp hc
  have hm : tagged.field ∈ declaration.fields := hf ▸ List.mem_map_of_mem ht
  cases tagged with
  | relation => cases hs
  | column field attributes =>
    simp only [TaggedField.column?, Option.ite_none_left_eq_some, Option.some.injEq] at hs
    exact ⟨field, hm, attributes, hs.2.symm⟩

theorem Entity.From.relation {declaration : Declaration} {entity : Entity}
    (h : entity.From declaration) {relation : RelationField} (hr : relation ∈ entity.relations) :
    ∃ field ∈ declaration.fields, relation.fieldName = field.name := by
  obtain ⟨attributes, fields, rfl, hf⟩ := h
  obtain ⟨tagged, ht, hs⟩ := List.mem_filterMap.mp hr
  have hm : tagged.field ∈ declaration.fields := hf ▸ List.mem_map_of_mem ht
  cases tagged with
  | column => cases hs
  | relation field tag relationship =>
    cases hs
    exact ⟨field, hm, rfl⟩

-- ---------------------------------------------------------------------------
-- Models
-- ---------------------------------------------------------------------------

namespace Model

/-- Every entity is put together from one of the declarations. -/
def From (declarations : List Declaration) (model : Model) : Prop :=
  ∀ entity ∈ model.entities, ∃ declaration ∈ declarations, entity.From declaration

theorem From.insert {declarations : List Declaration} {model next : Model} {entity : Entity}
    {declaration : Declaration} (hm : model.From declarations) (hd : declaration ∈ declarations)
    (he : entity.From declaration) (h : model.insert entity = .ok next) :
    next.From declarations := by
  obtain ⟨-, rfl⟩ := insert_eq_ok_iff.mp h
  intro e hmem
  rcases List.mem_append.mp hmem with hmem | hmem
  · exact hm e hmem
  · exact List.mem_singleton.mp hmem ▸ ⟨declaration, hd, he⟩

theorem from_of_build {cache : TagCache} {declarations : List Declaration} {model : Model}
    (h : (build cache declarations).1 = .ok model) : model.From declarations :=
  extend_induction (fun hd hb hm hi => hm.insert hd (Entity.from_of_build hb) hi)
    (fun _ he => absurd he List.not_mem_nil) h

end Model

end SchemaCompiler
