import SchemaCompiler.Project.Compile
import SchemaCompiler.Proofs.Artifact.Rendering
import SchemaCompiler.Proofs.Model.Resolution
import SchemaCompiler.Proofs.Model.Validity

/-!
# Rendering resolved models

A compiled model has the tables of its targets exactly if it is valid. The built-in
templates look up a table that is not there, so that they write the same text for a
built model before and after its targets are resolved.
-/

namespace SchemaCompiler

variable {model : Model} {entity target : Entity} {field : RelationField}

-- ---------------------------------------------------------------------------
-- Loaders
-- ---------------------------------------------------------------------------

namespace RelationsFile

theorem targetTable_resolveRelation (hf : field.targetTable = none)
    (ht : model.get? field.relationship.target = some target) :
    targetTable (model.resolveRelation field) (model.resolveEntity target) =
      targetTable field target := by
  have hlookup : (model.resolveRelation field).targetTable = some target.table := by
    rw [Model.resolveRelation, Model.targetTable?, Model.lookup_tables, ht]
    rfl
  rw [targetTable, targetTable, hlookup, hf]
  rfl

/-- The table of the target is all that a loader reads of what is resolved. -/
theorem relationConstants_resolve (hf : field.targetTable = none) :
    relationConstants model.resolve (model.resolveEntity entity) (model.resolveRelation field) =
      relationConstants model entity field := by
  have hget := model.get?_resolve field.relationship.target
  cases ht : model.get? field.relationship.target with
  | none =>
    rw [ht] at hget
    simp only [relationConstants, Model.relationship_resolveRelation, hget, ht]
    rfl
  | some target =>
    rw [ht] at hget
    have htable := targetTable_resolveRelation hf ht
    simp only [relationConstants, Model.relationship_resolveRelation, hget, ht, Option.map_some,
      loaderConstant, loaderDoc, loader, loaderSource, dependentConstant?, dependent?, htable]
    rfl

theorem entityModule_resolve (h : ∀ field ∈ entity.relations, field.targetTable = none) :
    entityModule model.resolve (model.resolveEntity entity) = entityModule model entity := by
  have hconstants : moduleConstants model.resolve (model.resolveEntity entity) =
      moduleConstants model entity :=
    mapM_map_congr fun field hf => relationConstants_resolve (h field hf)
  rw [entityModule, entityModule, hconstants]
  rfl

end RelationsFile

theorem Model.withRelations_resolve (model : Model) :
    model.resolve.withRelations = model.withRelations.map model.resolveEntity := by
  have hrelations : Entity.hasRelations ∘ model.resolveEntity = Entity.hasRelations := by
    funext entity
    simp [Entity.hasRelations, resolveEntity]
  rw [withRelations, resolve, List.filter_map, hrelations, withRelations]

theorem RelationsFile.body_resolve (h : model.Unresolved) :
    body model.resolve = body model := by
  have hmodules : model.resolve.withRelations.mapM (entityModule model.resolve) =
      model.withRelations.mapM (entityModule model) := by
    rw [Model.withRelations_resolve]
    exact mapM_map_congr fun entity he => entityModule_resolve (h entity (List.mem_filter.mp he).1)
  rw [body, body, hmodules]

-- ---------------------------------------------------------------------------
-- Templates
-- ---------------------------------------------------------------------------

theorem ColumnsFile.body_resolve (model : Model) : body model.resolve = body model := by
  rw [body, body, Model.resolve, List.map_map]
  rfl

theorem Plan.moduleNames_resolve (model : Model) (kind : ArtifactKind) :
    (ofKind model.resolve kind).map (·.moduleName) = (ofKind model kind).map (·.moduleName) := by
  cases kind <;> simp [ofKind, ArtifactKind.modelModule?, ArtifactKind.entityEnding?,
    Model.resolve, Model.resolveEntity]

/-- What a template sees once targets are resolved. -/
def Payload.resolved (payload : Payload) : Payload :=
  { payload with
    model := payload.model.resolve
    entity? := payload.entity?.map payload.model.resolveEntity }

theorem RootFile.body_resolved (payload : Payload) : body payload.resolved = body payload := by
  have hmodules : modules payload.resolved = modules payload := by
    simp only [modules, Payload.resolved, List.map_flatMap, Plan.moduleNames_resolve]
  have hentities : entityList payload.resolved.model = entityList payload.model := by
    simp [entityList, Payload.resolved, Model.resolve, Model.resolveEntity]
  rw [body, body, moduleLines, moduleLines, hmodules, hentities]
  rfl

theorem Template.body_resolved (kind : ArtifactKind) {payload : Payload}
    (h : payload.model.Unresolved) : body kind payload.resolved = body kind payload := by
  cases kind with
  | columns => exact congrArg pure (ColumnsFile.body_resolve payload.model)
  | repository | query =>
    simp only [body, Payload.entity, Payload.resolved]
    cases payload.entity? <;> rfl
  | relations => exact RelationsFile.body_resolve h
  | root => exact congrArg pure (RootFile.body_resolved payload)

theorem Template.render_resolved (kind : ArtifactKind) (payload : Payload)
    (h : payload.model.Unresolved) : render kind payload.resolved = render kind payload := by
  rw [render, render, lines, lines, body_resolved kind h]
  rfl

-- ---------------------------------------------------------------------------
-- Artifacts
-- ---------------------------------------------------------------------------

def Plan.resolved (model : Model) (plan : Plan) : Plan :=
  { plan with entity? := plan.entity?.map model.resolveEntity }

theorem Plan.ofKind_resolve (model : Model) (kind : ArtifactKind) :
    ofKind model.resolve kind = (ofKind model kind).map (Plan.resolved model) := by
  cases kind <;> simp [ofKind, ArtifactKind.modelModule?, ArtifactKind.entityEnding?,
    Plan.resolved, Model.resolve, Model.resolveEntity]

theorem Plan.kinds_resolve (model : Model) (requested : List ArtifactKind) :
    kinds model.resolve requested = kinds model requested := by
  simp [kinds, Model.withRelations_resolve]

namespace Artifact

variable {package : String} {generatedAt : Timestamp} {kinds : List ArtifactKind}

theorem ofPlan_resolved (h : model.Unresolved) (plan : Plan) :
    ofPlan { package, generatedAt } model.resolve kinds (plan.resolved model) =
      ofPlan { package, generatedAt } model kinds plan := by
  have hlabel : (plan.resolved model).label = plan.label := by
    rw [Plan.label, Plan.label, Plan.resolved]
    cases plan.entity? <;> rfl
  have hrender : Template.render (plan.resolved model).kind
      (payloadOf { package, generatedAt } model.resolve kinds (plan.resolved model)) =
        Template.render plan.kind (payloadOf { package, generatedAt } model kinds plan) :=
    Template.render_resolved plan.kind (payloadOf { package, generatedAt } model kinds plan) h
  simp only [payloadOf] at hrender
  rw [ofPlan, ofPlan, hlabel]
  dsimp only
  rw [hrender]
  rfl

theorem renderAll_resolve (h : model.Unresolved) (requested : List ArtifactKind) :
    renderAll { package, generatedAt } model.resolve requested =
      renderAll { package, generatedAt } model requested := by
  have hplans : Plan.all model.resolve requested =
      (Plan.all model requested).map (Plan.resolved model) := by
    rw [Plan.all, Plan.all, Plan.kinds_resolve, List.map_flatMap]
    exact congrArg (List.flatMap · _) (funext (Plan.ofKind_resolve model))
  rw [renderAll, renderAll, hplans, Plan.kinds_resolve,
    mapM_map_congr fun plan _ => ofPlan_resolved h plan]

end Artifact

-- ---------------------------------------------------------------------------
-- Compiled directories
-- ---------------------------------------------------------------------------

/-- What a compiled model and its report say is what checking a built model gives. -/
theorem Folder.checked_of_compile {root : Folder} {directory : String} {options : ScanOptions}
    {compiled : Compiled} (h : root.compile directory options = .ok compiled) :
    ∃ (declarations : List Declaration) (built : Model),
      (Model.build {} declarations).1 = .ok built ∧ compiled.model = built.checked.1 ∧
        compiled.report = built.validate := by
  simp only [compile, bind_ok_iff, mapError_ok_iff, pure_ok_iff] at h
  obtain ⟨scanned, -, built, hb, rfl⟩ := h
  exact ⟨scanned.declarations, built, hb, rfl, rfl⟩

namespace Model

theorem targetTable_of_isValid (hv : model.validate.isValid = true)
    (he : entity ∈ model.resolve.entities) (hf : field ∈ entity.relations) :
    ∃ target ∈ model.resolve.entities, target.name = field.relationship.target ∧
      field.targetTable = some target.table := by
  have htable := targetTable_of_resolve he hf
  cases ht : model.resolve.get? field.relationship.target with
  | some target =>
    rw [ht] at htable
    obtain ⟨hm, hname⟩ := get?_eq_some ht
    exact ⟨target, hm, hname, htable⟩
  | none =>
    obtain ⟨original, ho, rfl⟩ := List.mem_map.mp he
    obtain ⟨relation, hr, rfl⟩ := List.mem_map.mp hf
    rw [get?_eq_none_iff, names_resolve] at ht
    exact absurd (target_mem_of_isValid hv ho hr) ht

/-- Compiling gives the relations of a valid model the tables of their targets, and those
of any other none. Resolving the targets of a built model changes nothing but these tables,
it does so at once, and no rendered file shows it. -/
theorem resolves_targets :
    (∀ (root : Folder) (directory : String) (options : ScanOptions) (compiled : Compiled),
      root.compile directory options = .ok compiled →
      ∀ entity ∈ compiled.model.entities, ∀ field ∈ entity.relations,
        (compiled.report.isValid = true →
          ∃ target ∈ compiled.model.entities, target.name = field.relationship.target ∧
            field.targetTable = some target.table) ∧
        (compiled.report.isValid = false → field.targetTable = none)) ∧
    ∀ (cache : TagCache) (declarations : List Declaration) (model : Model),
      (build cache declarations).1 = .ok model →
      model.resolve.positions = model.positions ∧
      model.resolve.entities.map Entity.withoutTargets =
        model.entities.map Entity.withoutTargets ∧
      model.resolve.resolve = model.resolve ∧
      ∀ (package : String) (generatedAt : Timestamp) (requested : List ArtifactKind),
        Artifact.renderAll { package, generatedAt } model.resolve requested =
          Artifact.renderAll { package, generatedAt } model requested := by
  constructor
  · intro root directory options compiled hc entity he field hf
    obtain ⟨declarations, built, hb, hmodel, hreport⟩ := Folder.checked_of_compile hc
    rw [hreport]
    rw [checked] at hmodel
    cases hv : built.validate.isValid with
    | true =>
      rw [hv, if_pos rfl] at hmodel
      rw [hmodel] at he ⊢
      exact ⟨fun _ => targetTable_of_isValid hv he hf, fun h => absurd h (by decide)⟩
    | false =>
      rw [hv, if_neg (by decide)] at hmodel
      rw [hmodel] at he
      exact ⟨fun h => absurd h (by decide), fun _ => unresolved_of_build hb entity he field hf⟩
  · intro cache declarations model hb
    exact ⟨rfl, withoutTargets_resolve model, resolve_resolve model,
      fun _ _ requested => Artifact.renderAll_resolve (unresolved_of_build hb) requested⟩

end Model

def nodeProject (text : String) : Folder :=
  .file "node.rs" (.ofText text) .empty

/-- Nodes that know the node above them. -/
def treeSource : String :=
  "pub struct Node \x7b
#[db = \"primary_key\"] pub id: i64,
#[rel = \"belongs_to:Node,foreign_key:id\"] pub up: Node \x7d"

/-- Nodes that know a record which is not there. -/
def looseSource : String :=
  "pub struct Node \x7b #[rel = \"belongs_to:Root\"] pub up: Node \x7d"

theorem resolves_targets_nodeProject :
    (∃ compiled, (nodeProject treeSource).compile "." {} = .ok compiled ∧
      ∃ entity ∈ compiled.model.entities, ∃ field ∈ entity.relations,
        ∃ target ∈ compiled.model.entities, target.name = "Node" ∧
          field.targetTable = some target.table) ∧
    (∃ compiled, (nodeProject looseSource).compile "." {} = .ok compiled ∧
      ∃ entity ∈ compiled.model.entities, ∃ field ∈ entity.relations,
        field.targetTable = none) ∧
    ∃ model, (Model.build {} blog).1 = .ok model ∧ model.resolve.resolve = model.resolve := by
  have hpresent : ∃ compiled, (nodeProject treeSource).compile "." {} = .ok compiled ∧
      (compiled.report.isValid && compiled.model.entities.any fun entity =>
        entity.relations.any (·.relationship.target = "Node")) = true :=
    ok_of_any (by decide +kernel)
  have habsent : ∃ compiled, (nodeProject looseSource).compile "." {} = .ok compiled ∧
      (!compiled.report.isValid && compiled.model.entities.any (·.hasRelations)) = true :=
    ok_of_any (by decide +kernel)
  simp only [Bool.and_eq_true, Bool.not_eq_true', List.any_eq_true, decide_eq_true_eq]
    at hpresent habsent
  refine ⟨?_, ?_, _, rfl, (Model.resolves_targets.2 {} blog _ rfl).2.2.1⟩
  · obtain ⟨compiled, hc, hv, entity, he, field, hf, ht⟩ := hpresent
    have htarget := (Model.resolves_targets.1 _ _ _ compiled hc entity he field hf).1 hv
    exact ⟨compiled, hc, entity, he, field, hf, ht ▸ htarget⟩
  · obtain ⟨compiled, hc, hv, entity, he, hrelations⟩ := habsent
    have hsome : entity.relations ≠ [] := by simpa [Entity.hasRelations] using hrelations
    obtain ⟨field, hf⟩ := List.exists_mem_of_ne_nil _ hsome
    have htarget := (Model.resolves_targets.1 _ _ _ compiled hc entity he field hf).2 hv
    exact ⟨compiled, hc, entity, he, field, hf, htarget⟩

end SchemaCompiler
