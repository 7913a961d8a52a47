import SchemaCompiler.Proofs.Artifact.FileNames
import SchemaCompiler.Proofs.Artifact.Rendering
import SchemaCompiler.Proofs.Model.Validity

/-!
# When the built-in templates fail

The only template that can fail is the one of loaders, on a relation whose target
is not in the model. With the names of files this says when a run fails, and that
it never does on a valid model.
-/

namespace SchemaCompiler

/-- Some relation has a target that is not in the model. -/
def Model.MissesTarget (model : Model) : Prop :=
  ∃ entity ∈ model.entities, ∃ field ∈ entity.relations,
    field.relationship.target ∉ model.names

-- ---------------------------------------------------------------------------
-- Templates
-- ---------------------------------------------------------------------------

namespace RelationsFile

variable {model : Model}

theorem relationConstants_fails_iff {entity : Entity} {field : RelationField} :
    Fails (relationConstants model entity field) ↔ field.relationship.target ∉ model.names := by
  rw [← Model.get?_eq_none_iff, relationConstants]
  split
  · rename_i h
    simp [h]
  · rename_i h
    simp [h]

theorem entityModule_fails_iff {entity : Entity} :
    Fails (entityModule model entity) ↔
      ∃ field ∈ entity.relations, field.relationship.target ∉ model.names := by
  simp only [entityModule, bind_pure_comp, fails_map, moduleConstants, fails_mapM,
    relationConstants_fails_iff]

theorem body_fails_iff : Fails (body model) ↔ model.MissesTarget := by
  simp only [body, bind_pure_comp, fails_map, fails_mapM, entityModule_fails_iff,
    Model.MissesTarget]
  constructor
  · rintro ⟨entity, he, hf⟩
    exact ⟨entity, (List.mem_filter.mp he).1, hf⟩
  · rintro ⟨entity, he, field, hf, ht⟩
    exact ⟨entity, Model.mem_withRelations he hf, field, hf, ht⟩

end RelationsFile

theorem Payload.entity_fails_iff {payload : Payload} :
    Fails payload.entity ↔ payload.entity? = none := by
  rw [Payload.entity]
  cases payload.entity? <;> simp

theorem Template.render_fails_iff {kind : ArtifactKind} {payload : Payload} :
    Fails (Template.render kind payload) ↔
      kind = .relations ∧ payload.model.MissesTarget ∨
        kind.entityEnding?.isSome ∧ payload.entity? = none := by
  simp only [render, lines, bind_pure_comp, fails_map]
  cases kind with
  | columns | root => simp [body, ArtifactKind.entityEnding?]
  | repository | query => simp [body, ArtifactKind.entityEnding?, Payload.entity_fails_iff]
  | relations => simp [body, ArtifactKind.entityEnding?, RelationsFile.body_fails_iff]

-- ---------------------------------------------------------------------------
-- Runs
-- ---------------------------------------------------------------------------

theorem Plan.of_mem_ofKind {model : Model} {kind : ArtifactKind} {plan : Plan}
    (h : plan ∈ ofKind model kind) :
    plan.kind = kind ∧ (kind.entityEnding?.isSome → plan.entity? ≠ none) := by
  cases kind with
  | columns | relations | root =>
    simp only [ofKind, ArtifactKind.modelModule?, List.mem_singleton] at h
    subst h
    exact ⟨rfl, by simp [ArtifactKind.entityEnding?]⟩
  | repository | query =>
    simp only [ofKind, ArtifactKind.modelModule?, ArtifactKind.entityEnding?, List.mem_map] at h
    obtain ⟨entity, -, rfl⟩ := h
    exact ⟨rfl, by simp⟩

namespace Artifact

variable {package : String} {generatedAt : Timestamp} {model : Model}
  {requested : List ArtifactKind}

theorem ofPlan_builtIn_fails_iff {kinds : List ArtifactKind} {kind : ArtifactKind} {plan : Plan}
    (h : plan ∈ Plan.ofKind model kind) :
    Fails (ofPlan { package, generatedAt } model kinds plan) ↔
      kind = .relations ∧ model.MissesTarget := by
  obtain ⟨rfl, he⟩ := Plan.of_mem_ofKind h
  rw [ofPlan_fails_iff, Template.render_fails_iff]
  exact or_iff_left fun ⟨hs, hn⟩ => he hs hn

theorem plans_fail_iff {kinds : List ArtifactKind} :
    (∃ plan ∈ Plan.all model requested, Fails (ofPlan { package, generatedAt } model kinds plan)) ↔
      .relations ∈ requested ∧ model.MissesTarget := by
  constructor
  · rintro ⟨plan, hp, hf⟩
    obtain ⟨kind, hk, hp⟩ := List.mem_flatMap.mp hp
    obtain ⟨rfl, hm⟩ := (ofPlan_builtIn_fails_iff hp).mp hf
    exact ⟨(Plan.mem_kinds.mp hk).1, hm⟩
  · rintro ⟨hr, hm⟩
    have hrelations : model.withRelations ≠ [] := by
      obtain ⟨entity, he, field, hf, -⟩ := hm
      exact List.ne_nil_of_mem (Model.mem_withRelations he hf)
    have hp : ⟨.relations, none, "relations"⟩ ∈ Plan.ofKind model .relations := by
      simp [Plan.ofKind, ArtifactKind.modelModule?]
    exact ⟨_, List.mem_flatMap.mpr ⟨_, Plan.mem_kinds.mpr ⟨hr, fun _ => hrelations⟩, hp⟩,
      (ofPlan_builtIn_fails_iff hp).mpr ⟨rfl, hm⟩⟩

/-- The built-in templates fail exactly if loaders are asked for and a target is
missing, or files for each entity and two entities have one module name. File names
are distinct, and a valid model is always rendered. -/
theorem renderAll_builtIn (package : String) (generatedAt : Timestamp) (model : Model)
    (requested : List ArtifactKind) :
    ((∃ e, renderAll { package, generatedAt } model requested = .error e) ↔
      .relations ∈ requested ∧ model.MissesTarget ∨
        (.repository ∈ requested ∨ .query ∈ requested) ∧
          ¬ (model.entities.map (·.moduleName)).Nodup) ∧
    (∀ artifacts, renderAll { package, generatedAt } model requested = .ok artifacts →
      (artifacts.map (·.fileName)).Nodup) ∧
    (model.validate.isValid = true →
      ∃ artifacts, renderAll { package, generatedAt } model requested = .ok artifacts) := by
  have hfails : Fails (renderAll { package, generatedAt } model requested) ↔
      .relations ∈ requested ∧ model.MissesTarget ∨
        (.repository ∈ requested ∨ .query ∈ requested) ∧
          ¬ (model.entities.map (·.moduleName)).Nodup := by
    rw [renderAll_fails_iff, plans_fail_iff, Plan.nodup_fileNames_iff, Classical.not_imp]
  refine ⟨hfails, fun artifacts h => (renderAll_ok_iff.mp h).2, fun hv => ?_⟩
  rw [← not_fails_iff, hfails]
  rintro (⟨-, entity, he, field, hf, hm⟩ | ⟨-, hm⟩)
  · exact hm (Model.target_mem_of_isValid hv he hf)
  · exact hm (Model.distinctModules_of_isValid hv)

end Artifact

end SchemaCompiler
