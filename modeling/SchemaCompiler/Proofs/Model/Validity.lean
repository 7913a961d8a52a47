import SchemaCompiler.Proofs.Entity.Indexes
import SchemaCompiler.Proofs.Model.Build
import SchemaCompiler.Proofs.Model.Group
import SchemaCompiler.Proofs.Model.WellFormed

/-!
# Validity

A report has no error exactly if the model is well formed. Each list of faults is
read as the condition under which it holds no error, from the faults of one
column up to those of the whole model.
-/

namespace SchemaCompiler

open Sql

-- ---------------------------------------------------------------------------
-- Faults that are no errors
-- ---------------------------------------------------------------------------

def Harmless (kinds : List FaultKind) : Prop :=
  ∀ kind ∈ kinds, kind.severity ≠ .error

@[simp] theorem harmless_nil : Harmless [] := by simp [Harmless]

@[simp] theorem harmless_cons :
    Harmless (kind :: kinds) ↔ kind.severity ≠ .error ∧ Harmless kinds := by
  simp [Harmless]

@[simp] theorem harmless_append :
    Harmless (first ++ second) ↔ Harmless first ∧ Harmless second := by
  simp [Harmless, or_imp, forall_and]

@[simp] theorem harmless_flatMap {l : List α} {f : α → List FaultKind} :
    Harmless (l.flatMap f) ↔ ∀ a ∈ l, Harmless (f a) := by
  simp only [Harmless, List.mem_flatMap]
  exact ⟨fun h a ha kind hk => h kind ⟨a, ha, hk⟩, fun h kind ⟨a, ha, hk⟩ => h a ha kind hk⟩

@[simp] theorem harmless_map {l : List α} {f : α → FaultKind} :
    Harmless (l.map f) ↔ ∀ a ∈ l, (f a).severity ≠ .error := by
  simp [Harmless]

-- ---------------------------------------------------------------------------
-- Faults of one entity
-- ---------------------------------------------------------------------------

theorem Entity.primaryKeyFaults_harmless {entity : Entity} :
    Harmless entity.primaryKeyFaults ↔ entity.primaryKeys ≠ [] := by
  by_cases h : entity.primaryKeys = [] <;> simp [primaryKeyFaults, h, FaultKind.severity]

theorem Entity.mem_declaredIndexColumns {entity : Entity} {key : IndexKey} {column : String} :
    column ∈ entity.declaredIndexColumns key ↔
      ∃ value ∈ entity.attributes.values key.name, ∃ spec,
        IndexSpec.parse value = .ok spec ∧ column ∈ spec.columns := by
  simp only [declaredIndexColumns, List.mem_flatMap]
  refine exists_congr fun value => and_congr_right fun _ => ?_
  cases IndexSpec.parse value <;> simp

theorem Entity.indexFaults_harmless {entity : Entity} :
    Harmless entity.indexFaults ↔
      ∀ (key : IndexKey) (value : String) (spec : IndexSpec),
        value ∈ entity.attributes.values key.name → IndexSpec.parse value = .ok spec →
          ∀ column ∈ spec.columns, column ∈ entity.columnNames := by
  have hkey (key : IndexKey) :
      Harmless (((entity.declaredIndexColumns key).filter (!entity.hasColumn ·)).map
        (.unknownIndexColumn key.name)) ↔
        ∀ column ∈ entity.declaredIndexColumns key, column ∈ entity.columnNames := by
    simp [FaultKind.severity, ← Entity.hasColumn_iff]
  simp only [indexFaults, harmless_flatMap, IndexKey.mem_all, true_imp_iff, hkey,
    mem_declaredIndexColumns]
  constructor
  · intro h key value spec hv hs column hc
    exact h key column ⟨value, hv, spec, hs, hc⟩
  · rintro h key column ⟨value, hv, spec, hs, hc⟩
    exact h key value spec hv hs column hc

theorem Sql.ForeignKey.resolves_iff {model : Model} {reference : ForeignKey} :
    reference.Resolves model ↔
      model.usersOf reference.table = [] ∨
        (model.usersOf reference.table).any (·.hasColumn reference.column) = true := by
  have hsome : (∃ user ∈ model.entities, user.table = reference.table) ↔
      model.usersOf reference.table ≠ [] := by
    simp [Model.usersOf]
  have hany : (∃ owner ∈ model.entities,
      owner.table = reference.table ∧ reference.column ∈ owner.columnNames) ↔
        (model.usersOf reference.table).any (·.hasColumn reference.column) = true := by
    simp [Model.mem_usersOf, and_assoc]
  rw [Resolves, hsome, hany, imp_iff_not_or, not_not]

theorem Column.referenceFaults_harmless {model : Model} {column : Column} :
    Harmless (column.referenceFaults model) ↔
      ∀ reference, column.foreignKey = some reference → reference.Resolves model := by
  rw [referenceFaults]
  cases column.foreignKey with
  | none => simp
  | some reference =>
    simp only [Option.some.injEq, forall_eq', ForeignKey.resolves_iff]
    cases model.usersOf reference.table with
    | nil => simp [FaultKind.severity]
    | cons user others =>
      by_cases h : (user :: others).any (·.hasColumn reference.column) = true
      · simp [h]
      · simp [h, FaultKind.severity]

theorem Column.faults_harmless {model : Model} {seen : List String} {column : Column} :
    Harmless (column.faults model seen) ↔ column.name ∉ seen ∧ column.WellFormed model := by
  have hseen : Harmless (column.duplicateFaults seen) ↔ column.name ∉ seen := by
    by_cases h : column.name ∈ seen <;> simp [duplicateFaults, h, FaultKind.severity]
  simp only [faults, harmless_append, hseen, referenceFaults_harmless, harmless_map,
    FaultKind.severity, and_assoc]
  exact and_congr_right fun _ => ⟨fun ⟨ht, hr⟩ => ⟨ht, hr⟩, fun h => ⟨h.tag, h.reference⟩⟩

theorem columnFaults_harmless {model : Model} {entity : String} {seen : List String}
    {columns : List Column} :
    Harmless ((columnFaults model entity seen columns).map (·.kind)) ↔
      (columns.map (·.name)).Nodup ∧ (∀ column ∈ columns, column.name ∉ seen) ∧
        ∀ column ∈ columns, column.WellFormed model := by
  induction columns generalizing seen with
  | nil => simp [columnFaults]
  | cons column rest ih =>
    have hkinds : ((column.faults model seen).map (⟨entity, column.fieldName, ·⟩)).map
        Fault.kind = column.faults model seen := by
      simp [Function.comp_def]
    rw [columnFaults, List.map_append, hkinds, harmless_append, Column.faults_harmless, ih]
    simp only [List.map_cons, List.nodup_cons, List.forall_mem_cons, List.mem_append,
      List.mem_singleton, not_or, List.mem_map]
    constructor
    · rintro ⟨⟨hs, hw⟩, hn, hr, hrest⟩
      exact ⟨⟨fun ⟨other, ho, he⟩ => (hr other ho).2 he, hn⟩, ⟨hs, fun c hc => (hr c hc).1⟩,
        hw, hrest⟩
    · rintro ⟨⟨hd, hn⟩, ⟨hs, hr⟩, hw, hrest⟩
      exact ⟨⟨hs, hw⟩, hn, fun c hc => ⟨hr c hc, fun he => hd ⟨c, hc, he⟩⟩, hrest⟩

-- ---------------------------------------------------------------------------
-- Faults of relations
-- ---------------------------------------------------------------------------

theorem requireColumn_harmless {owner : Entity} {column : String} {role : KeyRole} :
    Harmless (requireColumn owner column role) ↔ column ∈ owner.columnNames := by
  by_cases h : owner.hasColumn column <;>
    simp [requireColumn, h, FaultKind.severity, ← Entity.hasColumn_iff]

namespace RelationField

variable {model : Model} {entity target : Entity} {field : RelationField}

theorem keyFaults_harmless :
    Harmless (field.keyFaults entity target) ↔ field.Joins entity target := by
  rw [keyFaults, Joins]
  cases field.relationship.relation <;> simp [requireColumn_harmless]

theorem shapeFaults_harmless : Harmless field.shapeFaults := by
  simp only [shapeFaults]
  split
  · simp [FaultKind.severity]
  · split <;> simp [FaultKind.severity]

theorem typeFaults_harmless : Harmless field.typeFaults := by
  simp only [typeFaults]
  split <;> simp [FaultKind.severity]

theorem faults_harmless (hn : model.names.Nodup) :
    Harmless (field.faults model entity) ↔ field.Resolves model entity := by
  rw [faults, Resolves]
  cases hg : model.get? field.relationship.target with
  | none =>
    have hm := Model.get?_eq_none_iff.mp hg
    simp only [harmless_cons, FaultKind.severity, ne_eq, not_true_eq_false, false_and, false_iff]
    rintro ⟨target, ht, hname, -⟩
    exact hm (hname ▸ List.mem_map_of_mem ht)
  | some target =>
    simp only [harmless_append, keyFaults_harmless, shapeFaults_harmless, typeFaults_harmless,
      and_true]
    constructor
    · intro hj
      exact ⟨target, (Model.get?_eq_some hg).1, (Model.get?_eq_some hg).2, hj⟩
    · rintro ⟨other, ho, hname, hj⟩
      have hsame := (Model.get?_eq_some_iff hn).mpr ⟨ho, hname⟩
      rw [hg] at hsame
      cases hsame
      exact hj

end RelationField

theorem Entity.tableFaults_harmless {entity : Entity} :
    Harmless entity.tableFaults ↔
      entity.primaryKeys ≠ [] ∧
        (∀ diagnostic ∈ entity.attributes.tableDiagnostics, diagnostic.severity ≠ .error) ∧
          ∀ (key : IndexKey) (value : String) (spec : IndexSpec),
            value ∈ entity.attributes.values key.name → IndexSpec.parse value = .ok spec →
              ∀ column ∈ spec.columns, column ∈ entity.columnNames := by
  simp only [tableFaults, harmless_append, primaryKeyFaults_harmless, harmless_map,
    indexFaults_harmless, FaultKind.severity, and_assoc]

theorem Entity.faults_kinds {model : Model} {entity : Entity} :
    (entity.faults model).map (·.kind) =
      entity.tableFaults ++ (columnFaults model entity.name [] entity.columns).map (·.kind) ++
        entity.relations.flatMap (·.faults model entity) := by
  simp [faults, List.map_flatMap, Function.comp_def]

theorem Entity.faults_harmless {model : Model} {entity : Entity} (hn : model.names.Nodup)
    (hp : entity.primaryKeys = (entity.columns.filter (·.isPrimaryKey)).map (·.name)) :
    Harmless ((entity.faults model).map (·.kind)) ↔ entity.WellFormed model := by
  have hprimary : entity.primaryKeys ≠ [] ↔ ∃ column ∈ entity.columns, column.isPrimaryKey := by
    simp [hp]
  rw [faults_kinds, harmless_append, harmless_append, tableFaults_harmless, columnFaults_harmless,
    harmless_flatMap, hprimary]
  simp only [RelationField.faults_harmless hn]
  constructor
  · rintro ⟨⟨⟨hk, ht, hi⟩, hd, -, hc⟩, hr⟩
    exact ⟨hk, ht, hi, hd, hc, hr⟩
  · rintro ⟨hk, ht, hi, hd, hc, hr⟩
    exact ⟨⟨⟨hk, ht, hi⟩, hd, by simp, hc⟩, hr⟩

-- ---------------------------------------------------------------------------
-- Faults of the whole model
-- ---------------------------------------------------------------------------

theorem groupFaults_error {kind : String → List String → FaultKind}
    {groups : List (String × List String)} {fault : Fault}
    (hkind : ∀ k names, (kind k names).severity = .error) (h : fault ∈ groupFaults kind groups) :
    fault.kind.severity = .error := by
  obtain ⟨k, names, hk⟩ := kind_of_mem_groupFaults h
  rw [hk, hkind]

theorem harmless_groupFaults {kind : String → List String → FaultKind} {key : Entity → String}
    {entities : List Entity} (hkind : ∀ k names, (kind k names).severity = .error) :
    Harmless ((groupFaults kind (groupNames key entities)).map (·.kind)) ↔
      (entities.map key).Nodup := by
  rw [← groupFaults_eq_nil_iff kind]
  constructor
  · intro h
    refine List.eq_nil_iff_forall_not_mem.mpr fun fault hf => ?_
    exact h fault.kind (List.mem_map_of_mem hf) (groupFaults_error hkind hf)
  · intro h
    simp [h]

theorem Entity.tableNameFaults_harmless {entities : List Entity} :
    Harmless ((entities.filterMap tableNameFault?).map (·.kind)) ↔
      ∀ entity ∈ entities, isTableName entity.table := by
  induction entities with
  | nil => simp
  | cons entity rest ih =>
    by_cases ht : isTableName entity.table = true
    · simpa [tableNameFault?, ht] using ih
    · by_cases hx : entity.hasExplicitTable = true <;>
        simp [tableNameFault?, ht, hx, FaultKind.severity]

namespace Model

theorem isValid_iff_harmless {model : Model} :
    model.validate.isValid = true ↔ Harmless (model.faults.map (·.kind)) := by
  simp [validate, Report.isValid, issues]

theorem tableFaults_harmless {model : Model} :
    Harmless (model.tableFaults.map (·.kind)) ↔
      (model.entities.map (·.table)).Nodup ∧ (model.entities.map (·.moduleName)).Nodup ∧
        ∀ entity ∈ model.entities, isTableName entity.table := by
  simp only [tableFaults, List.map_append, harmless_append, Entity.tableNameFaults_harmless,
    and_assoc]
  rw [harmless_groupFaults fun _ _ => rfl, harmless_groupFaults fun _ _ => rfl]

theorem faults_harmless {model : Model} :
    Harmless (model.faults.map (·.kind)) ↔
      (∀ entity ∈ model.entities, Harmless ((entity.faults model).map (·.kind))) ∧
        Harmless (model.tableFaults.map (·.kind)) := by
  simp only [faults, List.map_append, List.map_flatMap, harmless_append, harmless_flatMap]

theorem distinctModules_of_isValid {model : Model} (h : model.validate.isValid = true) :
    (model.entities.map (·.moduleName)).Nodup := by
  rw [isValid_iff_harmless, faults_harmless, tableFaults_harmless] at h
  exact h.2.2.1

theorem harmless_of_isValid {model : Model} (h : model.validate.isValid = true)
    {entity : Entity} (he : entity ∈ model.entities) {field : RelationField}
    (hf : field ∈ entity.relations) : Harmless (field.faults model entity) := by
  rw [isValid_iff_harmless, faults_harmless] at h
  have hentity := h.1 entity he
  rw [Entity.faults_kinds, harmless_append, harmless_flatMap] at hentity
  exact hentity.2 field hf

theorem target_mem_of_isValid {model : Model} (h : model.validate.isValid = true)
    {entity : Entity} (he : entity ∈ model.entities) {field : RelationField}
    (hf : field ∈ entity.relations) : field.relationship.target ∈ model.names := by
  by_contra hm
  have hnone := harmless_of_isValid h he hf
  rw [RelationField.faults, get?_eq_none_iff.mpr hm] at hnone
  simp [FaultKind.severity] at hnone

theorem Coherent.harmless_iff_wellFormed {model : Model} (hc : model.Coherent) :
    Harmless (model.faults.map (·.kind)) ↔ model.WellFormed := by
  have hentities : (∀ entity ∈ model.entities, Harmless ((entity.faults model).map (·.kind))) ↔
      ∀ entity ∈ model.entities, entity.WellFormed model :=
    forall₂_congr fun entity he =>
      Entity.faults_harmless hc.names (hc.assembled entity he).primaryKeys
  rw [Model.faults_harmless, Model.tableFaults_harmless, hentities]
  constructor
  · rintro ⟨he, ht, hm, hn⟩
    exact ⟨he, ht, hn, hm⟩
  · rintro ⟨he, ht, hn, hm⟩
    exact ⟨he, ht, hm, hn⟩

theorem wellFormed_of_isValid {cache : TagCache} {declarations : List Declaration}
    {model : Model} (hb : (build cache declarations).1 = .ok model)
    (hv : model.validate.isValid = true) : model.WellFormed :=
  (coherent_of_build hb).harmless_iff_wellFormed.mp (isValid_iff_harmless.mp hv)

/-- The report on a model that declarations make has no error exactly if the model
is well formed. -/
theorem validate_isValid_iff_wellFormed {cache : TagCache} {declarations : List Declaration}
    {model : Model} (h : (build cache declarations).1 = .ok model) :
    model.validate.isValid = true ↔ model.WellFormed := by
  rw [isValid_iff_harmless]
  exact (coherent_of_build h).harmless_iff_wellFormed

end Model

/-- Authors and their posts, with the relation declared on both sides. -/
def blog : List Declaration := [
  { name := "Author"
    file := "author.rs"
    line := 1
    fields := [
      { name := "id", type := { base := "i64" }, attributes := some "primary_key", line := 2 },
      { name := "posts", type := { base := "Post", isCollection := true },
        relationship := some "has_many:Post,foreign_key:author_id", line := 3 } ] },
  { name := "Post"
    file := "post.rs"
    line := 1
    table := some "index:by_author(author_id)"
    fields := [
      { name := "id", type := { base := "i64" }, attributes := some "primary_key", line := 2 },
      { name := "author_id", type := { base := "i64" },
        attributes := some "foreign_key:authors.id", line := 3 },
      { name := "author", type := { base := "Author", isPointer := true },
        relationship := some "belongs_to:Author", line := 4 } ] } ]

theorem blog_wellFormed : ∃ model, (Model.build {} blog).1 = .ok model ∧ model.WellFormed :=
  ⟨_, rfl, (@Model.validate_isValid_iff_wellFormed {} blog _ rfl).mp (by decide)⟩

end SchemaCompiler
