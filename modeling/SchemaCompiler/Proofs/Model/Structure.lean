import SchemaCompiler.Proofs.Entity.Indexes
import SchemaCompiler.Proofs.Model.Build
import SchemaCompiler.Proofs.Model.Group

/-!
# Faults of structure

What can be wrong with how the entities of a model fit together: an entity without a
primary key, a relation to an entity that is not there, a table or a module name that
several entities share. `structureReported_of_build`: the report tells of each of them
once, whatever else it tells. The errors about one of them are known by how their
messages begin.
-/

namespace SchemaCompiler

open Sql

inductive StructuralFault where
  | primaryKey
  | target
  | sharedTable
  | sharedModule
deriving DecidableEq, Repr

def StructuralFault.heading : StructuralFault → String
  | primaryKey => "no primary key defined"
  | target => "relationship target `"
  | sharedTable => "duplicate table name `"
  | sharedModule => "duplicate module name `"

def Report.errorsUnder (report : Report) (heading : String) : List Issue :=
  report.errors.filter fun issue => heading.toList <+: issue.message.toList

-- ---------------------------------------------------------------------------
-- Messages of tags
-- ---------------------------------------------------------------------------

/-- The message is about no fault of structure. -/
def Unheaded (message : String) : Prop :=
  ∀ fault : StructuralFault, ¬ fault.heading.toList <+: message.toList

theorem Sql.CheckError.unheaded_message (e : CheckError) : Unheaded e.message := by
  intro fault
  unfold message StructuralFault.heading
  cases fault <;> cases e <;> simp

theorem Sql.ColumnTypeError.unheaded_message (e : ColumnTypeError) : Unheaded e.message := by
  intro fault
  unfold message StructuralFault.heading
  cases fault <;> cases e <;> simp

theorem Sql.EnumError.unheaded_message (e : EnumError) : Unheaded e.message := by
  intro fault
  unfold message StructuralFault.heading
  cases fault <;> cases e <;> simp

theorem Sql.ForeignKeyError.unheaded_message (e : ForeignKeyError) : Unheaded e.message := by
  intro fault
  unfold message StructuralFault.heading
  cases fault <;> cases e <;> simp

theorem Sql.IndexSpecError.unheaded_message (e : IndexSpecError) : Unheaded e.message := by
  intro fault
  unfold message StructuralFault.heading
  cases fault <;> cases e <;> simp

theorem Diagnostic.unheaded_message {d : Diagnostic} (h : d.severity = .error) :
    Unheaded d.message := by
  obtain ⟨key, problem⟩ := d
  cases problem with
  | columnType e => exact e.unheaded_message
  | foreignKey e => exact e.unheaded_message
  | check e => exact e.unheaded_message
  | enumeration e => exact e.unheaded_message
  | indexSpec e => exact e.unheaded_message
  | flagWithValue _ | default _ | unknownColumnKey | unknownTableKey => cases h
  | columnName _ | valueRequired | size _ | indexName _ | nullConflict | nullablePrimaryKey =>
    intro fault
    unfold message StructuralFault.heading
    cases fault <;> simp

-- ---------------------------------------------------------------------------
-- What a kind of fault reports
-- ---------------------------------------------------------------------------

namespace FaultKind

variable {fault : StructuralFault}

def Reports (fault : StructuralFault) (kind : FaultKind) : Prop :=
  kind.severity = .error ∧ fault.heading.toList <+: kind.message.toList

instance : Decidable (Reports fault kind) :=
  inferInstanceAs (Decidable (_ ∧ _))

@[simp] theorem reports_noPrimaryKey : Reports fault noPrimaryKey ↔ fault = .primaryKey := by
  unfold Reports severity message StructuralFault.heading
  cases fault <;> simp

@[simp] theorem reports_targetNotFound :
    Reports fault (targetNotFound name) ↔ fault = .target := by
  unfold Reports severity message StructuralFault.heading
  cases fault <;> simp

@[simp] theorem reports_duplicateTable :
    Reports fault (duplicateTable table names) ↔ fault = .sharedTable := by
  unfold Reports severity message StructuralFault.heading
  cases fault <;> simp

@[simp] theorem reports_duplicateModule :
    Reports fault (duplicateModule name names) ↔ fault = .sharedModule := by
  unfold Reports severity message StructuralFault.heading
  cases fault <;> simp

def IsDetail : FaultKind → Prop
  | noPrimaryKey | targetNotFound _ | duplicateTable .. | duplicateModule .. => False
  | unknownIndexColumn key _ => ∃ origin : IndexKey, key = origin.name
  | _ => True

theorem IsDetail.not_reports {kind : FaultKind} (h : kind.IsDetail) : ¬ kind.Reports fault := by
  rintro ⟨hs, hm⟩
  revert hm
  cases kind with
  | tag d => exact d.unheaded_message hs fault
  | unknownIndexColumn key column =>
    obtain ⟨origin, rfl⟩ := h
    unfold message StructuralFault.heading IndexKey.name
    cases fault <;> cases origin <;> simp
  | missingKey role column owner =>
    unfold message StructuralFault.heading KeyRole.name
    cases fault <;> cases role <;> simp
  | foreignTable _ | notCollection _ | collection _ | typeDiffers _ _ => cases hs
  | noPrimaryKey | targetNotFound _ | duplicateTable _ _ | duplicateModule _ _ => exact h.elim
  | duplicateColumn _ | unknownReference _ | badExplicitTable _ | badDerivedTable _ _ =>
    unfold message StructuralFault.heading
    cases fault <;> simp

theorem filter_reports_of_detail {kinds : List FaultKind} (h : ∀ kind ∈ kinds, kind.IsDetail) :
    kinds.filter (·.Reports fault) = [] := by
  simpa using fun kind hk => (h kind hk).not_reports

end FaultKind

-- ---------------------------------------------------------------------------
-- Parts of a report
-- ---------------------------------------------------------------------------

theorem Entity.indexFaults_detail {entity : Entity} :
    ∀ kind ∈ entity.indexFaults, kind.IsDetail := by
  simp only [indexFaults, List.forall_mem_flatMap, List.forall_mem_map]
  exact fun key _ column _ => ⟨key, rfl⟩

theorem Column.faults_detail {model : Model} {seen : List String} {column : Column} :
    ∀ kind ∈ column.faults model seen, kind.IsDetail := by
  have hduplicate : ∀ kind ∈ column.duplicateFaults seen, kind.IsDetail := by
    rw [duplicateFaults]
    split <;> simp [FaultKind.IsDetail]
  have hreference : ∀ kind ∈ column.referenceFaults model, kind.IsDetail := by
    rw [referenceFaults]
    repeat' split
    all_goals simp [FaultKind.IsDetail]
  simp only [faults, List.forall_mem_append, List.forall_mem_map]
  exact ⟨⟨hduplicate, fun _ _ => trivial⟩, hreference⟩

theorem columnFaults_detail {model : Model} {entity : String} {seen : List String}
    {columns : List Column} :
    ∀ fault ∈ columnFaults model entity seen columns, fault.kind.IsDetail := by
  induction columns generalizing seen with
  | nil => simp [columnFaults]
  | cons column rest ih =>
    rw [columnFaults, List.forall_mem_append, List.forall_mem_map]
    exact ⟨Column.faults_detail, ih⟩

namespace RelationField

variable {model : Model} {entity target : Entity} {field : RelationField}

theorem keyFaults_detail : ∀ kind ∈ field.keyFaults entity target, kind.IsDetail := by
  have hcolumn (owner : Entity) (column : String) (role : KeyRole) :
      ∀ kind ∈ requireColumn owner column role, kind.IsDetail := by
    rw [requireColumn]
    split <;> simp [FaultKind.IsDetail]
  rw [keyFaults]
  cases field.relationship.relation with
  | belongsTo | hasOne | hasMany =>
    exact List.forall_mem_append.mpr ⟨hcolumn _ _ _, hcolumn _ _ _⟩
  | manyToMany => simp

theorem shapeFaults_detail : ∀ kind ∈ field.shapeFaults, kind.IsDetail := by
  simp only [shapeFaults]
  repeat' split
  all_goals simp [FaultKind.IsDetail]

theorem typeFaults_detail : ∀ kind ∈ field.typeFaults, kind.IsDetail := by
  simp only [typeFaults]
  split <;> simp [FaultKind.IsDetail]

theorem filter_faults (fault : StructuralFault) :
    (field.faults model entity).filter (·.Reports fault) =
      if fault = .target ∧ field.relationship.target ∉ model.names then
        [.targetNotFound field.relationship.target] else [] := by
  simp only [faults, ← Model.get?_eq_none_iff]
  cases model.get? field.relationship.target with
  | none => by_cases h : fault = .target <;> simp [h]
  | some target =>
    have hdetail : ∀ kind ∈ field.keyFaults entity target ++ field.shapeFaults ++
        field.typeFaults, kind.IsDetail := by
      simp only [List.forall_mem_append]
      exact ⟨⟨keyFaults_detail, shapeFaults_detail⟩, typeFaults_detail⟩
    rw [FaultKind.filter_reports_of_detail hdetail, if_neg (by simp)]

end RelationField

theorem Entity.filter_tableFaults {entity : Entity} (fault : StructuralFault) :
    entity.tableFaults.filter (·.Reports fault) =
      if fault = .primaryKey ∧ entity.primaryKeys = [] then [.noPrimaryKey] else [] := by
  have htags : (entity.attributes.tableDiagnostics.map FaultKind.tag).filter
      (·.Reports fault) = [] :=
    FaultKind.filter_reports_of_detail (by simp [FaultKind.IsDetail])
  rw [tableFaults, List.filter_append, List.filter_append, htags,
    FaultKind.filter_reports_of_detail entity.indexFaults_detail, primaryKeyFaults]
  by_cases hk : entity.primaryKeys = [] <;> by_cases hf : fault = .primaryKey <;> simp [hk, hf]

theorem flatMap_ite_singleton {p : α → Prop} [DecidablePred p] (f : α → β) (l : List α) :
    (l.flatMap fun a => if p a then [f a] else []) = (l.filter (p ·)).map f := by
  induction l with
  | nil => rfl
  | cons a rest ih => by_cases h : p a <;> simp [h, ih]

theorem Entity.filter_faults {model : Model} {entity : Entity} (fault : StructuralFault) :
    (entity.faults model).filter (·.kind.Reports fault) =
      (if fault = .primaryKey ∧ entity.primaryKeys = [] then
        [⟨entity.name, "", .noPrimaryKey⟩] else []) ++
      if fault = .target then
        (entity.relations.filter (·.relationship.target ∉ model.names)).map fun field =>
          ⟨entity.name, field.fieldName, .targetNotFound field.relationship.target⟩
      else [] := by
  have hcolumns : (columnFaults model entity.name [] entity.columns).filter
      (·.kind.Reports fault) = [] := by
    simpa using fun f hf => (columnFaults_detail f hf).not_reports
  have hmap (field : String) (kinds : List FaultKind) :
      (kinds.map (Fault.mk entity.name field)).filter (·.kind.Reports fault) =
        (kinds.filter (·.Reports fault)).map (Fault.mk entity.name field) := by
    rw [List.filter_map]
    rfl
  simp only [faults, List.filter_append, hcolumns, List.append_nil, List.filter_flatMap, hmap,
    filter_tableFaults, RelationField.filter_faults, apply_ite (List.map _), List.map_nil,
    List.map_cons]
  congr 1
  by_cases ht : fault = .target
  · simp only [ht, true_and, if_true]
    exact flatMap_ite_singleton _ _
  · simp [ht]

theorem filter_groupFaults {kind : String → List String → FaultKind}
    {groups : List (String × List String)} {fault own : StructuralFault}
    (h : ∀ k names, (kind k names).Reports fault ↔ fault = own) :
    (groupFaults kind groups).filter (·.kind.Reports fault) =
      if fault = own then groupFaults kind groups else [] := by
  have hmem : ∀ f ∈ groupFaults kind groups, f.kind.Reports fault ↔ fault = own := by
    intro f hf
    obtain ⟨k, names, hk⟩ := kind_of_mem_groupFaults hf
    rw [hk, h]
  by_cases he : fault = own
  · rw [if_pos he, List.filter_eq_self]
    exact fun f hf => decide_eq_true ((hmem f hf).mpr he)
  · rw [if_neg he, List.filter_eq_nil_iff]
    exact fun f hf hr => he ((hmem f hf).mp (of_decide_eq_true hr))

-- ---------------------------------------------------------------------------
-- The whole report
-- ---------------------------------------------------------------------------

namespace Model

variable {model : Model}

theorem filter_tableFaults (fault : StructuralFault) :
    model.tableFaults.filter (·.kind.Reports fault) =
      (if fault = .sharedTable then
        groupFaults .duplicateTable (groupNames (·.table) model.entities) else []) ++
      if fault = .sharedModule then
        groupFaults .duplicateModule (groupNames (·.moduleName) model.entities) else [] := by
  have hnames : (model.entities.filterMap Entity.tableNameFault?).filter
      (·.kind.Reports fault) = [] := by
    rw [List.filter_eq_nil_iff]
    intro f hf
    obtain ⟨entity, -, hs⟩ := List.mem_filterMap.mp hf
    simp only [Entity.tableNameFault?] at hs
    have hdetail : f.kind.IsDetail := by
      split at hs
      · cases hs
      · split at hs <;> cases hs <;> trivial
    simpa using hdetail.not_reports
  rw [tableFaults, List.filter_append, List.filter_append, hnames, List.append_nil,
    filter_groupFaults fun _ _ => FaultKind.reports_duplicateTable,
    filter_groupFaults fun _ _ => FaultKind.reports_duplicateModule]

def structuralFaults (model : Model) : StructuralFault → List Fault
  | .primaryKey =>
    (model.entities.filter (·.primaryKeys = [])).map fun entity =>
      ⟨entity.name, "", .noPrimaryKey⟩
  | .target =>
    model.entities.flatMap fun entity =>
      (entity.relations.filter (·.relationship.target ∉ model.names)).map fun field =>
        ⟨entity.name, field.fieldName, .targetNotFound field.relationship.target⟩
  | .sharedTable => groupFaults .duplicateTable (groupNames (·.table) model.entities)
  | .sharedModule => groupFaults .duplicateModule (groupNames (·.moduleName) model.entities)

theorem filter_faults (fault : StructuralFault) :
    model.faults.filter (·.kind.Reports fault) = model.structuralFaults fault := by
  rw [faults, List.filter_append, List.filter_flatMap, filter_tableFaults]
  simp only [Entity.filter_faults]
  cases fault with
  | primaryKey => simpa [structuralFaults] using flatMap_ite_singleton _ _
  | target => simp [structuralFaults]
  | sharedTable => simp [structuralFaults]
  | sharedModule => simp [structuralFaults]

theorem errorsUnder_heading (fault : StructuralFault) :
    model.validate.errorsUnder fault.heading =
      (model.structuralFaults fault).map Fault.issue := by
  rw [← filter_faults]
  simp only [Report.errorsUnder, validate, issues, List.filter_map, List.filter_filter]
  congr 2
  funext f
  rw [Function.comp_apply, ← Bool.decide_and, Bool.decide_congr and_comm]
  rfl

end Model

/-- The keys that several entities share, in the order of their first occurrences. -/
def sharedKeys (key : Entity → String) (entities : List Entity) : List String :=
  (entities.map key).eraseDups.filter fun k => 1 < (entities.map key).count k

/-- The issue of a key, at the first of the entities with this key. The message lists all
of them in their order. -/
def sharedIssue (text : String → String) (key : Entity → String) (entities : List Entity)
    (k : String) : Issue :=
  ⟨(namesUnder key entities k).headD "", "", text k ++ Text.join ", " (namesUnder key entities k)⟩

theorem groupFaults_issues {kind : String → List String → FaultKind} {text : String → String}
    {key : Entity → String} {entities : List Entity}
    (h : ∀ k names, (kind k names).message = text k ++ Text.join ", " names) :
    (groupFaults kind (groupNames key entities)).map Fault.issue =
      (sharedKeys key entities).map (sharedIssue text key entities) := by
  have hissue (k : String) : ((sharedFault? kind key entities k).map Fault.issue).toList =
      if 1 < (entities.map key).count k then [sharedIssue text key entities k] else [] := by
    rw [← length_namesUnder, sharedFault?, sharedIssue]
    rcases namesUnder key entities k with _ | ⟨first, _ | ⟨second, others⟩⟩ <;>
      simp [Fault.issue, h]
  rw [groupFaults_groupNames, List.map_filterMap, List.filterMap_eq_flatMap_toList]
  simp only [hissue]
  exact flatMap_ite_singleton _ _

/-- The report tells of each fault of structure by one error, in the order of the model, and
no other error has such a message. Names are distinct, so that the name in an error is that
of one entity. -/
structure Model.StructureReported (model : Model) : Prop where
  names : model.names.Nodup
  primaryKey : model.validate.errorsUnder "no primary key defined" =
    (model.entities.filter fun entity => !entity.columns.any (·.isPrimaryKey)).map fun entity =>
      ⟨entity.name, "", "no primary key defined"⟩
  target : model.validate.errorsUnder "relationship target `" =
    model.entities.flatMap fun entity =>
      (entity.relations.filter (·.relationship.target ∉ model.names)).map fun field =>
        ⟨entity.name, field.fieldName,
          "relationship target `" ++ field.relationship.target ++ "` not found"⟩
  sharedTable : model.validate.errorsUnder "duplicate table name `" =
    (sharedKeys (·.table) model.entities).map
      (sharedIssue (fun table => "duplicate table name `" ++ table ++ "` declared by ")
        (·.table) model.entities)
  sharedModule : model.validate.errorsUnder "duplicate module name `" =
    (sharedKeys (fun entity => Naming.snake entity.name) model.entities).map
      (sharedIssue (fun name => "duplicate module name `" ++ name ++ "` derived from ")
        (fun entity => Naming.snake entity.name) model.entities)

namespace Model

/-- The report on a model that declarations make tells of every fault of structure once. -/
theorem structureReported_of_build {cache : TagCache} {declarations : List Declaration}
    {model : Model} (h : (build cache declarations).1 = .ok model) : model.StructureReported := by
  have hc := coherent_of_build h
  have hkeys : model.entities.filter (·.primaryKeys = []) =
      model.entities.filter fun entity => !entity.columns.any (·.isPrimaryKey) := by
    refine List.filter_congr fun entity he => ?_
    rw [Bool.eq_iff_iff]
    simp [(hc.assembled entity he).primaryKeys]
  constructor
  · exact hc.names
  · refine (errorsUnder_heading .primaryKey).trans ?_
    rw [structuralFaults, hkeys, List.map_map]
    rfl
  · refine (errorsUnder_heading .target).trans ?_
    rw [structuralFaults, List.map_flatMap]
    simp only [List.map_map]
    rfl
  · exact (errorsUnder_heading .sharedTable).trans (groupFaults_issues fun _ _ => rfl)
  · exact (errorsUnder_heading .sharedModule).trans (groupFaults_issues fun _ _ => rfl)

end Model

/-- Two tables of two entities each, declared in turns, and two names for one module. -/
def crowdedClub : List Declaration := [
  { name := "Room"
    file := "room.rs"
    line := 1
    table := some "table:places"
    fields := [{ name := "title", type := { base := "String" }, line := 2 }] },
  { name := "Person"
    file := "person.rs"
    line := 1
    table := some "table:people"
    fields := [
      { name := "id", type := { base := "i64" }, attributes := some "primary_key", line := 2 },
      { name := "team", type := { base := "Team", isPointer := true },
        relationship := some "belongs_to:Team", line := 3 } ] },
  { name := "Hall"
    file := "hall.rs"
    line := 1
    table := some "table:places"
    fields := [
      { name := "id", type := { base := "i64" }, attributes := some "primary_key", line := 2 } ] },
  { name := "HALL"
    file := "hall.rs"
    line := 5
    table := some "table:people"
    fields := [
      { name := "id", type := { base := "i64" }, attributes := some "primary_key", line := 6 } ] } ]

def crowdedClubErrors : List Issue := [
  ⟨"Room", "", "no primary key defined"⟩,
  ⟨"Person", "team", "relationship target `Team` not found"⟩,
  ⟨"Room", "", "duplicate table name `places` declared by Room, Hall"⟩,
  ⟨"Person", "", "duplicate table name `people` declared by Person, HALL"⟩,
  ⟨"Hall", "", "duplicate module name `hall` derived from Hall, HALL"⟩]

theorem structureReported_crowdedClub :
    ∃ model, (Model.build {} crowdedClub).1 = .ok model ∧ model.StructureReported ∧
      model.validate.errors = crowdedClubErrors := by
  have hany : ∃ model, (Model.build {} crowdedClub).1 = .ok model ∧
      decide (model.validate.errors = crowdedClubErrors) = true :=
    Model.built_of_any (by decide +kernel)
  obtain ⟨model, hb, herrors⟩ := hany
  exact ⟨model, hb, Model.structureReported_of_build hb, of_decide_eq_true herrors⟩

end SchemaCompiler
