import Mathlib.Data.List.Nodup
import SchemaCompiler.Model.Validation

/-!
# Lookups by name

Finding a column in an entity and an entity in a model, said as membership. The index
of a model finds the first entity of a name.
-/

namespace SchemaCompiler

@[simp] theorem Entity.hasColumn_iff {entity : Entity} {name : String} :
    entity.hasColumn name = true ↔ name ∈ entity.columnNames := by
  simp [Entity.hasColumn, Entity.column?, Entity.columnNames]

namespace Model

variable {model : Model} {name : String} {entity : Entity}

def ofEntities (entities : List Entity) : Model :=
  { entities, positions := positionsOf entities }

theorem eq_iff_entities {other : Model} : model = other ↔ model.entities = other.entities := by
  cases model
  cases other
  simp_all

theorem lookup_zipIdx (before entities : List Entity) (name : String) :
    (((entities.zipIdx before.length).map fun (entity, position) =>
        (entity.name, position)).lookup name).bind ((before ++ entities)[·]?) =
      entities.find? (·.name = name) := by
  induction entities generalizing before with
  | nil => rfl
  | cons entity rest ih =>
    have hrest := ih (before ++ [entity])
    rw [List.length_append, List.append_assoc] at hrest
    rw [List.zipIdx_cons, List.map_cons, List.lookup_cons, List.find?_cons]
    by_cases h : entity.name = name
    · simp [h]
    · rw [beq_false_of_ne (Ne.symm h), decide_eq_false h]
      exact hrest

theorem get?_eq_find? (model : Model) (name : String) :
    model.get? name = model.entities.find? (·.name = name) := by
  rw [get?, model.inStep]
  exact lookup_zipIdx [] model.entities name

theorem get?_eq_none_iff : model.get? name = none ↔ name ∉ model.names := by
  simp [get?_eq_find?, names]

theorem map_fst_positions : model.positions.map Prod.fst = model.names := by
  rw [model.inStep, positionsOf, List.map_map, names]
  nth_rewrite 2 [← List.zipIdx_map_fst 0 model.entities]
  rw [List.map_map]
  rfl

theorem contains_iff : model.contains name = true ↔ name ∈ model.names := by
  rw [contains, List.lookup_isSome_iff, ← map_fst_positions]
  simp

theorem get?_eq_some (h : model.get? name = some entity) :
    entity ∈ model.entities ∧ entity.name = name := by
  rw [get?_eq_find?] at h
  constructor
  · exact List.mem_of_find?_eq_some h
  · simpa using List.find?_some h

/-- With distinct names there is no other entity to find. -/
theorem get?_eq_some_iff (hn : model.names.Nodup) :
    model.get? name = some entity ↔ entity ∈ model.entities ∧ entity.name = name := by
  refine ⟨get?_eq_some, ?_⟩
  rintro ⟨hm, rfl⟩
  cases hg : model.get? entity.name with
  | none => exact absurd (List.mem_map_of_mem hm) (get?_eq_none_iff.mp hg)
  | some found =>
    obtain ⟨hf, he⟩ := get?_eq_some hg
    rw [List.inj_on_of_nodup_map hn hf hm he]

theorem mem_usersOf {table : String} :
    entity ∈ model.usersOf table ↔ entity ∈ model.entities ∧ entity.table = table := by
  simp [usersOf]

theorem mem_withRelations {field : RelationField} (he : entity ∈ model.entities)
    (hf : field ∈ entity.relations) : entity ∈ model.withRelations := by
  refine List.mem_filter.mpr ⟨he, ?_⟩
  simpa [Entity.hasRelations] using List.ne_nil_of_mem hf

end Model

end SchemaCompiler
