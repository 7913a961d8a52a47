import SchemaCompiler.Proofs.Model.Build

/-!
# Resolved targets

Resolving gives every relation the table of its target and changes nothing else. So
entities are found under the same names, and to resolve again changes nothing.
-/

namespace SchemaCompiler

-- ---------------------------------------------------------------------------
-- Entities but for the tables of targets
-- ---------------------------------------------------------------------------

def RelationField.withoutTarget (field : RelationField) : RelationField :=
  { field with targetTable := none }

/-- All of an entity but the tables of its relations' targets. -/
def Entity.withoutTargets (entity : Entity) : Entity :=
  { entity with relations := entity.relations.map RelationField.withoutTarget }

namespace Model

variable {model : Model} {entity : Entity} {field : RelationField} {name : String}

-- ---------------------------------------------------------------------------
-- What resolving keeps
-- ---------------------------------------------------------------------------

@[simp] theorem relationship_resolveRelation (model : Model) (field : RelationField) :
    (model.resolveRelation field).relationship = field.relationship := rfl

theorem withoutTargets_resolveEntity (model : Model) (entity : Entity) :
    (model.resolveEntity entity).withoutTargets = entity.withoutTargets := by
  simp only [Entity.withoutTargets, resolveEntity, List.map_map]
  rfl

theorem withoutTargets_resolve (model : Model) :
    model.resolve.entities.map Entity.withoutTargets =
      model.entities.map Entity.withoutTargets := by
  rw [resolve, List.map_map]
  exact List.map_congr_left fun entity _ => model.withoutTargets_resolveEntity entity

theorem names_resolve (model : Model) : model.resolve.names = model.names := by
  rw [names, resolve, List.map_map]
  rfl

theorem tables_resolve (model : Model) : model.resolve.tables = model.tables := by
  rw [tables, resolve, List.map_map]
  rfl

theorem resolveRelation_resolve (model : Model) :
    model.resolve.resolveRelation = model.resolveRelation := by
  funext field
  rw [resolveRelation, resolveRelation, targetTable?, targetTable?, tables_resolve]

theorem resolve_resolve (model : Model) : model.resolve.resolve = model.resolve := by
  have hrelation : model.resolveRelation ∘ model.resolveRelation = model.resolveRelation := rfl
  have hentity : model.resolve.resolveEntity ∘ model.resolveEntity = model.resolveEntity := by
    funext entity
    simp only [Function.comp_apply, resolveEntity, resolveRelation_resolve, List.map_map, hrelation]
  rw [eq_iff_entities]
  show (model.entities.map model.resolveEntity).map model.resolve.resolveEntity =
    model.entities.map model.resolveEntity
  rw [List.map_map, hentity]

theorem get?_resolve (model : Model) (name : String) :
    model.resolve.get? name = (model.get? name).map model.resolveEntity := by
  rw [get?_eq_find?, get?_eq_find?, resolve, List.find?_map]
  rfl

-- ---------------------------------------------------------------------------
-- Tables of targets
-- ---------------------------------------------------------------------------

theorem lookup_tables (model : Model) (name : String) :
    model.tables.lookup name = (model.get? name).map (·.table) := by
  rw [get?_eq_find?, tables]
  induction model.entities with
  | nil => rfl
  | cons entity rest ih =>
    rw [List.map_cons, List.lookup_cons, List.find?_cons]
    by_cases h : entity.name = name
    · simp [h]
    · rw [beq_false_of_ne (Ne.symm h), decide_eq_false h]
      exact ih

theorem targetTable_of_resolve (he : entity ∈ model.resolve.entities)
    (hf : field ∈ entity.relations) :
    field.targetTable = (model.resolve.get? field.relationship.target).map (·.table) := by
  obtain ⟨original, -, rfl⟩ := List.mem_map.mp he
  obtain ⟨relation, -, rfl⟩ := List.mem_map.mp hf
  rw [← lookup_tables, tables_resolve]
  rfl

/-- No relation has the table of its target. -/
def Unresolved (model : Model) : Prop :=
  ∀ entity ∈ model.entities, ∀ field ∈ entity.relations, field.targetTable = none

theorem unresolved_of_build {cache : TagCache} {declarations : List Declaration}
    (h : (build cache declarations).1 = .ok model) : model.Unresolved := by
  intro entity he field hf
  obtain ⟨declaration, attributes, fields, rfl⟩ := (coherent_of_build h).assembled entity he
  obtain ⟨tagged, -, hr⟩ := List.mem_filterMap.mp hf
  cases tagged with
  | column => cases hr
  | relation =>
    cases hr
    rfl

end Model

end SchemaCompiler
