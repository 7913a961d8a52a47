import SchemaCompiler.Proofs.Model.Lookup
import SchemaCompiler.Proofs.Sequence

/-!
# Built models

What holds of every model that declarations make: its entities are put together
from tags, and no two of them have one name.
-/

namespace SchemaCompiler

-- ---------------------------------------------------------------------------
-- Entities
-- ---------------------------------------------------------------------------

/-- Put together from what the tags of a declaration say. -/
def Entity.Assembled (entity : Entity) : Prop :=
  ∃ declaration attributes fields, entity = .assemble declaration attributes fields

theorem Entity.assembled_of_build {cache : TagCache} {declaration : Declaration}
    {entity : Entity} (h : (Entity.build cache declaration).1 = .ok entity) :
    entity.Assembled := by
  simp only [Entity.build] at h
  split at h
  · cases h
  · cases h
    exact ⟨_, _, _, rfl⟩

theorem Entity.Assembled.primaryKeys {entity : Entity} (h : entity.Assembled) :
    entity.primaryKeys = (entity.columns.filter (·.isPrimaryKey)).map (·.name) := by
  obtain ⟨declaration, attributes, fields, rfl⟩ := h
  rfl

-- ---------------------------------------------------------------------------
-- Models
-- ---------------------------------------------------------------------------

namespace Model

/-- What inserting assembled entities one after another keeps. -/
structure Coherent (model : Model) : Prop where
  assembled : ∀ entity ∈ model.entities, entity.Assembled
  names : model.names.Nodup

theorem coherent_empty : Coherent {} := ⟨by simp, by simp [names]⟩

theorem names_push (model : Model) (entity : Entity) :
    (model.push entity).names = model.names ++ [entity.name] := by
  simp [names, push]

theorem insert_eq_ok_iff {model next : Model} {entity : Entity} :
    model.insert entity = .ok next ↔
      entity.name ∉ model.names ∧ next = model.push entity := by
  rw [← get?_eq_none_iff]
  cases hg : model.get? entity.name <;> simp [insert, tryInsert, hg, eq_comm]

theorem Coherent.insert {model next : Model} {entity : Entity} (hc : model.Coherent)
    (ha : entity.Assembled) (h : model.insert entity = .ok next) : next.Coherent := by
  obtain ⟨hn, rfl⟩ := insert_eq_ok_iff.mp h
  constructor
  · intro e he
    rcases List.mem_append.mp he with he | he
    · exact hc.assembled e he
    · exact List.mem_singleton.mp he ▸ ha
  · rw [names_push, ← List.concat_eq_append]
    exact hc.names.concat hn

/-- Inserting the entities of declarations keeps a property of models, so the model that
the declarations make has it. -/
theorem extend_induction {p : Model → Prop} {declarations : List Declaration}
    (hinsert : ∀ {cache : TagCache} {declaration : Declaration} {entity : Entity}
      {model next : Model}, declaration ∈ declarations →
        (Entity.build cache declaration).1 = .ok entity → p model →
          model.insert entity = .ok next → p next)
    {model last : Model} {cache : TagCache} (hm : p model)
    (h : (model.extend cache declarations).1 = .ok last) : p last := by
  induction declarations generalizing model cache with
  | nil => cases h; exact hm
  | cons declaration rest ih =>
    rw [extend] at h
    split at h
    · cases h
    · rename_i hb
      split at h
      · cases h
      · rename_i hi
        have hnext := hinsert List.mem_cons_self (by rw [hb]) hm hi
        exact ih (fun hd => hinsert (List.mem_cons_of_mem declaration hd)) hnext h

theorem coherent_of_build {cache : TagCache} {declarations : List Declaration} {model : Model}
    (h : (build cache declarations).1 = .ok model) : model.Coherent :=
  extend_induction (fun _ hb hc hi => hc.insert (Entity.assembled_of_build hb) hi)
    coherent_empty h

/-- A model of given declarations is looked at as a whole, by a condition that can be
evaluated. -/
theorem built_of_any {declarations : List Declaration} {p : Model → Bool}
    (h : (build {} declarations).1.toOption.any p = true) :
    ∃ model, (build {} declarations).1 = .ok model ∧ p model = true :=
  ok_of_any h

end Model

end SchemaCompiler
