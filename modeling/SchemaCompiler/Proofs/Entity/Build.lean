import SchemaCompiler.Entity.Build
import SchemaCompiler.Proofs.Sequence
import SchemaCompiler.Proofs.Tag.Cache

/-!
# Entities of declarations alone

A declaration alone decides its entity: whatever a faithful cache holds, it is
`Declaration.entity`. There is one unless a relationship tag is refused, and then
the first such tag is the one that is reported.
-/

namespace SchemaCompiler

-- ---------------------------------------------------------------------------
-- Fields and declarations alone
-- ---------------------------------------------------------------------------

/-- What a tag says that may be missing. -/
def Attributes.ofTag (raw : Option String) : Attributes :=
  raw.elim {} parse

namespace Field

def read (entity : String) (field : Field) : Except FieldTagError TaggedField :=
  match field.relationship with
  | some tag =>
    match Relationship.parse tag with
    | .error cause => .error ⟨entity, field.name, tag, cause⟩
    | .ok relationship => .ok (.relation field tag relationship)
  | none => .ok (.column field (.ofTag field.attributes))

def Readable (field : Field) : Prop :=
  ∀ tag, field.relationship = some tag → ∃ r, Relationship.parse tag = .ok r

theorem read_ok_iff (entity : String) {field : Field} :
    (∃ tagged, field.read entity = .ok tagged) ↔ field.Readable := by
  cases ht : field.relationship with
  | none => simp [read, Readable, ht]
  | some tag => cases hp : Relationship.parse tag <;> simp [read, Readable, ht, hp]

theorem read_error_iff {entity : String} {field : Field} {e : FieldTagError} :
    field.read entity = .error e ↔
      ∃ tag cause, field.relationship = some tag ∧ Relationship.parse tag = .error cause ∧
        e = ⟨entity, field.name, tag, cause⟩ := by
  cases ht : field.relationship with
  | none => simp [read, ht]
  | some tag => cases hp : Relationship.parse tag <;> simp [read, ht, hp, eq_comm]

end Field

namespace Declaration

/-- The entity of a declaration, from its tags alone. -/
def entity (declaration : Declaration) : Except FieldTagError Entity :=
  Entity.assemble declaration (.ofTag declaration.table) <$>
    declaration.fields.mapM (Field.read declaration.name)

def Readable (declaration : Declaration) : Prop :=
  ∀ field ∈ declaration.fields, field.Readable

/-- The error of the first relationship tag that is refused. -/
inductive Refusal (declaration : Declaration) : FieldTagError → Prop
  | first {before after : List Field} {field : Field} {tag : String} {cause : RelationTagError}
      (place : declaration.fields = before ++ field :: after)
      (fine : ∀ earlier ∈ before, earlier.Readable)
      (given : field.relationship = some tag) (refused : Relationship.parse tag = .error cause) :
      declaration.Refusal ⟨declaration.name, field.name, tag, cause⟩

variable {declaration : Declaration}

theorem entity_error_iff {e : FieldTagError} :
    declaration.entity = .error e ↔ declaration.Refusal e := by
  rw [entity, map_error_iff, mapM_error_iff]
  simp only [Field.read_ok_iff, Field.read_error_iff]
  constructor
  · rintro ⟨before, field, after, hplace, hfine, tag, cause, hgiven, hrefused, rfl⟩
    exact .first hplace hfine hgiven hrefused
  · rintro ⟨hplace, hfine, hgiven, hrefused⟩
    exact ⟨_, _, _, hplace, hfine, _, _, hgiven, hrefused, rfl⟩

theorem entity_ok_iff : (∃ entity, declaration.entity = .ok entity) ↔ declaration.Readable := by
  simp only [entity, map_ok_iff, Readable, ← Field.read_ok_iff declaration.name,
    ← exists_mapM_iff]
  constructor
  · rintro ⟨_, fields, hf, -⟩
    exact ⟨fields, hf⟩
  · rintro ⟨fields, hf⟩
    exact ⟨_, fields, hf, rfl⟩

theorem place_of_entity {entity : Entity} (h : declaration.entity = .ok entity) :
    entity.name = declaration.name ∧ entity.file = declaration.file := by
  obtain ⟨fields, -, rfl⟩ := map_ok_iff.mp h
  exact ⟨rfl, rfl⟩

end Declaration

-- ---------------------------------------------------------------------------
-- Reading through a cache
-- ---------------------------------------------------------------------------

namespace TagCache.Faithful

variable {cache : TagCache}

theorem readOptional (h : cache.Faithful) (raw : Option String) :
    ∃ next, cache.readOptional raw = (.ofTag raw, next) ∧ next.Faithful := by
  cases raw with
  | none => exact ⟨cache, rfl, h⟩
  | some raw => exact h.readAttributes raw

theorem readField (h : cache.Faithful) (entity : String) (field : Field) :
    ∃ next, cache.readField entity field = (field.read entity, next) ∧ next.Faithful := by
  cases ht : field.relationship with
  | none =>
    obtain ⟨next, hread, hnext⟩ := h.readOptional field.attributes
    exact ⟨next, by simp only [TagCache.readField, Field.read, ht, hread], hnext⟩
  | some tag =>
    obtain ⟨next, hread, hnext⟩ := h.readRelationship tag .asGiven
    refine ⟨next, ?_, hnext⟩
    cases hp : Relationship.parse tag <;>
      simp only [TagCache.readField, Field.read, ht, hread, hp]

theorem readFields (h : cache.Faithful) (entity : String) (fields : List Field) :
    ∃ next, cache.readFields entity fields = (fields.mapM (Field.read entity), next) ∧
      next.Faithful := by
  induction fields generalizing cache with
  | nil => exact ⟨cache, rfl, h⟩
  | cons field rest ih =>
    obtain ⟨next, hfield, hnext⟩ := h.readField entity field
    obtain ⟨last, hrest, hlast⟩ := ih hnext
    rw [TagCache.readFields, hfield, List.mapM_cons]
    cases hf : field.read entity with
    | error e => exact ⟨next, rfl, hnext⟩
    | ok tagged =>
      refine ⟨last, ?_, hlast⟩
      simp only [hrest]
      cases rest.mapM (Field.read entity) <;> rfl

theorem build (h : cache.Faithful) (declaration : Declaration) :
    ∃ next, Entity.build cache declaration = (declaration.entity, next) ∧ next.Faithful := by
  obtain ⟨next, htable, hnext⟩ := h.readOptional declaration.table
  obtain ⟨last, hfields, hlast⟩ := hnext.readFields declaration.name declaration.fields
  refine ⟨last, ?_, hlast⟩
  simp only [Entity.build, Declaration.entity, htable, hfields]
  cases declaration.fields.mapM (Field.read declaration.name) <;> rfl

end TagCache.Faithful

end SchemaCompiler
