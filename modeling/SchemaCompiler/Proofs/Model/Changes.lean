import SchemaCompiler.Proofs.Model.Resolution

/-!
# Runs of changes

A model into which entities are inserted, and whose targets are resolved, in any order.
The first entity of a name is accepted and every later one refused, so the model has
the accepted ones in the order in which they came.
-/

namespace SchemaCompiler.Model

inductive Change where
  | insert (entity : Entity)
  | resolve

def apply (model : Model) : Change → Except DuplicateEntity Unit × Model
  | .insert entity => model.tryInsert entity
  | .resolve => (.ok (), model.resolve)

def inserted? (model : Model) : Change → Option Entity
  | .insert entity => (model.tryInsert entity).1.toOption.map fun _ => entity
  | .resolve => none

def run (model : Model) (changes : List Change) : Model :=
  changes.foldl (fun model change => (model.apply change).2) model

def accepted (model : Model) : List Change → List Entity
  | [] => []
  | change :: rest => (model.inserted? change).toList ++ (model.apply change).2.accepted rest

variable {model : Model} {entity : Entity} {name : String}

-- ---------------------------------------------------------------------------
-- One change
-- ---------------------------------------------------------------------------

theorem tryInsert_refused_iff {refusal : DuplicateEntity} :
    (model.tryInsert entity).1 = .error refusal ↔
      ∃ held, model.get? entity.name = some held ∧
        refusal = ⟨entity.name, held.file, entity.file⟩ := by
  cases hg : model.get? entity.name <;> simp [tryInsert, hg, eq_comm]

theorem apply_of_refusal {change : Change} {refusal : DuplicateEntity}
    (h : (model.apply change).1 = .error refusal) : (model.apply change).2 = model := by
  cases change with
  | resolve => cases h
  | insert entity =>
    obtain ⟨held, hg, -⟩ := tryInsert_refused_iff.mp h
    simp [apply, tryInsert, hg]

theorem apply_insert_cases (model : Model) (entity : Entity) :
    ((model.apply (.insert entity)).2 = model ∧ model.inserted? (.insert entity) = none) ∨
      entity.name ∉ model.names ∧ (model.apply (.insert entity)).2 = model.push entity ∧
        model.inserted? (.insert entity) = some entity := by
  cases hg : model.get? entity.name with
  | some held => exact .inl (by simp [apply, inserted?, tryInsert, hg, Except.toOption])
  | none =>
    exact .inr ⟨get?_eq_none_iff.mp hg, by simp [apply, tryInsert, hg],
      by simp [inserted?, tryInsert, hg, Except.toOption]⟩

-- ---------------------------------------------------------------------------
-- Runs
-- ---------------------------------------------------------------------------

/-- What a model has of the entities accepted into it. -/
structure Holds (entities : List Entity) (model : Model) : Prop where
  entities : model.entities.map Entity.withoutTargets = entities.map Entity.withoutTargets
  distinct : model.names.Nodup

variable {entities : List Entity}

theorem Holds.apply (h : model.Holds entities) (change : Change) :
    (model.apply change).2.Holds (entities ++ (model.inserted? change).toList) := by
  cases change with
  | resolve =>
    refine ⟨?_, ?_⟩
    · rw [inserted?, Option.toList_none, List.append_nil]
      exact model.withoutTargets_resolve.trans h.entities
    · exact model.names_resolve ▸ h.distinct
  | insert entity =>
    rcases model.apply_insert_cases entity with ⟨hsame, hnone⟩ | ⟨hname, hpush, hsome⟩
    · rw [hsame, hnone, Option.toList_none, List.append_nil]
      exact h
    · rw [hpush, hsome]
      refine ⟨?_, ?_⟩
      · simp [push, h.entities]
      · rw [names_push, ← List.concat_eq_append]
        exact h.distinct.concat hname

theorem Holds.run (h : model.Holds entities) (changes : List Change) :
    (model.run changes).Holds (entities ++ model.accepted changes) := by
  induction changes generalizing model entities with
  | nil => rwa [accepted, List.append_nil]
  | cons change rest ih =>
    rw [accepted, ← List.append_assoc]
    exact ih (h.apply change)

theorem holds_empty : ({} : Model).Holds [] := ⟨rfl, coherent_empty.names⟩

theorem entities_run_of_insertions (changes : List Change) (h : .resolve ∉ changes) :
    (model.run changes).entities = model.entities ++ model.accepted changes := by
  induction changes generalizing model with
  | nil => exact (List.append_nil _).symm
  | cons change rest ih =>
    rw [List.mem_cons, not_or] at h
    obtain ⟨hfirst, hrest⟩ := h
    cases change with
    | resolve => exact absurd rfl hfirst
    | insert entity =>
      have hrun := @ih (model.apply (.insert entity)).2 hrest
      rw [run, List.foldl_cons, ← run, hrun, accepted, ← List.append_assoc]
      congr 1
      rcases model.apply_insert_cases entity with ⟨hsame, hnone⟩ | ⟨-, hpush, hsome⟩
      · rw [hsame, hnone, Option.toList_none, List.append_nil]
      · rw [hpush, hsome]
        rfl

-- ---------------------------------------------------------------------------
-- Lookups
-- ---------------------------------------------------------------------------

theorem Holds.names (h : model.Holds entities) : model.names = entities.map (·.name) := by
  have hnames := congrArg (List.map Entity.name) h.entities
  rwa [List.map_map, List.map_map] at hnames

theorem Holds.get? (h : model.Holds entities) (name : String) :
    (model.get? name).map Entity.withoutTargets =
      (entities.find? (·.name = name)).map Entity.withoutTargets := by
  have hfind := congrArg (List.find? (·.name = name)) h.entities
  rw [List.find?_map, List.find?_map] at hfind
  rw [get?_eq_find?]
  exact hfind

/-- After any run of changes the names are distinct, the entities are those that were
accepted, in order and but for the tables of their targets, and lookups agree with that.
An insertion is refused exactly for a name that is present, with the file of the entity
that has it, and changes nothing. -/
theorem run_of_changes (changes : List Change) :
    let model := ({} : Model).run changes
    let entities := ({} : Model).accepted changes
    model.names.Nodup ∧
    model.entities.map Entity.withoutTargets = entities.map Entity.withoutTargets ∧
    (∀ more, .resolve ∉ more →
      (model.run more).entities = model.entities ++ model.accepted more) ∧
    (∀ name entity, model.get? name = some entity ↔
      entity ∈ model.entities ∧ entity.name = name) ∧
    (∀ name, (model.get? name).map Entity.withoutTargets =
      (entities.find? (·.name = name)).map Entity.withoutTargets) ∧
    (∀ name, model.contains name = (model.get? name).isSome) ∧
    model.entities.length = entities.length ∧
    (∀ entity refusal, (model.apply (.insert entity)).1 = .error refusal ↔
      ∃ held ∈ model.entities, held.name = entity.name ∧
        refusal = ⟨entity.name, held.file, entity.file⟩) ∧
    ∀ change refusal, (model.apply change).1 = .error refusal →
      (model.apply change).2 = model := by
  intro model entities
  have h : model.Holds entities := holds_empty.run changes
  refine ⟨h.distinct, h.entities, entities_run_of_insertions, fun name entity => ?_, h.get?,
    fun name => ?_, ?_, fun entity refusal => ?_, fun change refusal => apply_of_refusal⟩
  · exact get?_eq_some_iff h.distinct
  · rw [Bool.eq_iff_iff, contains_iff, ← not_iff_not, ← get?_eq_none_iff,
      Bool.not_eq_true, Option.isSome_eq_false_iff, Option.isNone_iff_eq_none]
  · simpa using congrArg List.length h.entities
  · rw [apply, tryInsert_refused_iff]
    simp only [get?_eq_some_iff h.distinct, and_assoc]

end SchemaCompiler.Model
