import SchemaCompiler.Proofs.Entity.Build

/-!
# Fields of entities

The tags of a field say what becomes of it: a relation, a column, or nothing. An entity
has the relations and the columns of its declaration's fields in their order, and no
field is lost or counted twice.
-/

namespace SchemaCompiler

-- ---------------------------------------------------------------------------
-- One field
-- ---------------------------------------------------------------------------

inductive FieldRole where
  | relation
  | column
  | ignored
deriving DecidableEq

/-- A relationship tag makes a relation of the field. Without one, the key `-` of the
attribute tag leaves the field out. -/
def Field.role (field : Field) : FieldRole :=
  if field.relationship.isSome then .relation
  else if (Attributes.ofTag field.attributes).has "-" then .ignored
  else .column

def RelationField.ReadFrom (field : Field) (relation : RelationField) : Prop :=
  ∃ tag relationship, field.relationship = some tag ∧
    Relationship.parse tag = .ok relationship ∧ relation = .ofField field tag relationship

/-- The column that the field's attribute tag describes, which may be missing. -/
def Column.ReadFrom (field : Field) (column : Column) : Prop :=
  column = .ofField field (.ofTag field.attributes)

namespace Field

variable {entity : String} {field : Field} {tagged : TaggedField}

theorem relation?_of_read (h : field.read entity = .ok tagged) :
    if field.role = .relation then ∃ relation, tagged.relation? = some relation ∧
      relation.ReadFrom field
    else tagged.relation? = none := by
  cases ht : field.relationship with
  | none =>
    simp only [read, ht, Except.ok.injEq] at h
    subst h
    have hrole : field.role ≠ .relation := by
      cases hi : (Attributes.ofTag field.attributes).has "-" <;> simp [role, ht, hi]
    rw [if_neg hrole]
    rfl
  | some tag =>
    have hrole : field.role = .relation := by simp [role, ht]
    rw [if_pos hrole]
    cases hp : Relationship.parse tag with
    | error cause => simp [read, ht, hp] at h
    | ok relationship =>
      simp only [read, ht, hp, Except.ok.injEq] at h
      subst h
      exact ⟨_, rfl, tag, relationship, ht, hp, rfl⟩

theorem column?_of_read (h : field.read entity = .ok tagged) :
    if field.role = .column then ∃ column, tagged.column? = some column ∧ column.ReadFrom field
    else tagged.column? = none := by
  cases ht : field.relationship with
  | none =>
    simp only [read, ht, Except.ok.injEq] at h
    subst h
    cases hi : (Attributes.ofTag field.attributes).has "-" with
    | true => simp [role, ht, hi, TaggedField.column?]
    | false =>
      have hrole : field.role = .column := by simp [role, ht, hi]
      rw [if_pos hrole]
      exact ⟨_, by simp [TaggedField.column?, hi], rfl⟩
  | some tag =>
    have hrole : field.role ≠ .column := by simp [role, ht]
    rw [if_neg hrole]
    cases hp : Relationship.parse tag with
    | error cause => simp [read, ht, hp] at h
    | ok relationship =>
      simp only [read, ht, hp, Except.ok.injEq] at h
      subst h
      rfl

end Field

-- ---------------------------------------------------------------------------
-- All fields
-- ---------------------------------------------------------------------------

/-- The fields of a declaration shared out among the relations and the columns of an
entity. -/
structure Entity.Partitions (fields : List Field) (entity : Entity) : Prop where
  relations : List.Forall₂ RelationField.ReadFrom (fields.filter (·.role = .relation))
    entity.relations
  columns : List.Forall₂ Column.ReadFrom (fields.filter (·.role = .column)) entity.columns
  /-- Every field is counted once. -/
  once : entity.relations.length + entity.columns.length +
    (fields.filter (·.role = .ignored)).length = fields.length
  primaryKeys : entity.primaryKeys =
    (entity.columns.filter (·.attributes.has "primary_key")).map (·.name)

/-- Where each result gives what is wanted of its origin, or nothing if nothing is
wanted, the results give what is wanted of the origins in order. -/
theorem forall₂_filterMap {wanted : α → Prop} [DecidablePred wanted] {gives : α → β → Prop}
    {result : α → γ → Prop} {view : γ → Option β} {origins : List α} {results : List γ}
    (hall : List.Forall₂ result origins results)
    (hstep : ∀ a c, result a c →
      if wanted a then ∃ b, view c = some b ∧ gives a b else view c = none) :
    List.Forall₂ gives (origins.filter (wanted ·)) (results.filterMap view) := by
  induction hall with
  | nil => exact .nil
  | @cons a c origins results hr _ ih =>
    have hview := hstep a c hr
    by_cases hw : wanted a
    · rw [if_pos hw] at hview
      obtain ⟨b, hb, hgives⟩ := hview
      rw [List.filter_cons_of_pos (by simpa using hw), List.filterMap_cons_some hb]
      exact .cons hgives ih
    · rw [if_neg hw] at hview
      rw [List.filter_cons_of_neg (by simpa using hw), List.filterMap_cons_none hview]
      exact ih

theorem TaggedField.isPrimaryKey_of_column? {tagged : TaggedField} {column : Column}
    (h : tagged.column? = some column) :
    column.isPrimaryKey = column.attributes.has "primary_key" := by
  cases tagged with
  | relation => cases h
  | column field attributes =>
    simp only [column?, Option.ite_none_left_eq_some, Option.some.injEq] at h
    obtain ⟨-, rfl⟩ := h
    rfl

theorem Field.length_filter_role (fields : List Field) :
    (fields.filter (·.role = .relation)).length + (fields.filter (·.role = .column)).length +
      (fields.filter (·.role = .ignored)).length = fields.length := by
  induction fields with
  | nil => rfl
  | cons field rest ih =>
    rw [List.length_cons, ← ih]
    cases hr : field.role <;> simp [hr] <;> omega

/-- Whatever was read before, a declaration whose relationship tags are not refused has an
entity, and its fields are shared out among the entity's relations and columns. -/
theorem Entity.partitions_of_readable (requests : List TagRequest) {declaration : Declaration}
    (h : declaration.Readable) :
    ∃ entity, (Entity.build (.after requests) declaration).1 = .ok entity ∧
      entity.Partitions declaration.fields := by
  obtain ⟨entity, he⟩ := Declaration.entity_ok_iff.mpr h
  obtain ⟨next, hbuild, -⟩ := (TagCache.tallies_after requests).faithful.build declaration
  obtain ⟨tagged, hread, rfl⟩ := map_ok_iff.mp he
  have hall := mapM_ok_iff.mp hread
  have hrelations := forall₂_filterMap hall fun _ _ hr => Field.relation?_of_read hr
  have hcolumns := forall₂_filterMap hall fun _ _ hr => Field.column?_of_read hr
  refine ⟨_, by rw [hbuild, he], hrelations, hcolumns, ?_, ?_⟩
  · rw [← Field.length_filter_role declaration.fields, hrelations.length_eq, hcolumns.length_eq]
    rfl
  · have hkeys : ∀ column ∈ tagged.filterMap TaggedField.column?,
        column.isPrimaryKey = column.attributes.has "primary_key" := by
      intro column hc
      obtain ⟨source, -, hs⟩ := List.mem_filterMap.mp hc
      exact TaggedField.isPrimaryKey_of_column? hs
    exact congrArg (·.map Column.name) (List.filter_congr hkeys)

/-- A post with a key, an author and two fields that are no columns. -/
def post : Declaration :=
  { name := "Post"
    file := "post.rs"
    line := 1
    fields := [
      { name := "id", type := { base := "i64" }, attributes := some "primary_key", line := 2 },
      { name := "author", type := { base := "User" }, relationship := some "belongs_to:User",
        attributes := some "-", line := 3 },
      { name := "cachedHtml", type := { base := "String" }, attributes := some "-; size:80",
        line := 4 },
      { name := "authorId", type := { base := "i64" }, line := 5 } ] }

theorem partitions_post :
    post.Readable ∧ post.fields.map (·.role) = [.column, .relation, .ignored, .column] ∧
      ∃ entity, (Entity.build (.after [.relationship "belongs_to:User"]) post).1 = .ok entity ∧
        entity.Partitions post.fields := by
  have hreadable : post.Readable := by
    have hany : post.entity.toOption.any (fun _ => true) = true := by decide +kernel
    obtain ⟨entity, he, -⟩ := ok_of_any hany
    exact Declaration.entity_ok_iff.mp ⟨entity, he⟩
  exact ⟨hreadable, by decide +kernel, Entity.partitions_of_readable _ hreadable⟩

end SchemaCompiler
