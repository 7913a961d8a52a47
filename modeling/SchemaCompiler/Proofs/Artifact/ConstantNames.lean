import Mathlib.Data.List.Perm.Basic
import SchemaCompiler.Proofs.Artifact.EmittedNames

/-!
# Names of constants

A module of a generated file has a constant for each column or relation and others with an
ending after such a name. Another column or relation may be named like one of these. The
exact names are given for which all constants of a module are named apart; a report does not
tell of others.
-/

namespace SchemaCompiler

open Text Code Sql

-- ---------------------------------------------------------------------------
-- Names with endings
-- ---------------------------------------------------------------------------

section

variable {base other ending otherEnding : String}

theorem isSuffixOf_of_append_eq {name : String} (h : base ++ ending = name) :
    ending.toList <:+ name.toList :=
  ⟨base.toList, by rw [← h, String.toList_append]⟩

theorem isSuffixOf_of_append_eq_append (h : base ++ ending = other ++ otherEnding)
    (hl : ending.toList.length ≤ otherEnding.toList.length) :
    ending.toList <:+ otherEnding.toList :=
  List.suffix_of_suffix_length_le (isSuffixOf_of_append_eq h) (isSuffixOf_of_append_eq rfl) hl

theorem nodup_filterMap_of_key {key : α → String} {name? : α → Option String} {l : List α}
    (hn : (l.map key).Nodup)
    (h : ∀ a b name, name? a = some name → name? b = some name → key a = key b) :
    (l.filterMap name?).Nodup := by
  rw [List.Nodup, List.pairwise_filterMap]
  refine (List.pairwise_map.mp hn).imp fun hne name ha name' hb he => hne ?_
  exact h _ _ name ha (he ▸ hb)

end

-- ---------------------------------------------------------------------------
-- Columns
-- ---------------------------------------------------------------------------

/-- No column takes the name of another constant of the entity's module. -/
structure Entity.ColumnConstantsApart (entity : Entity) : Prop where
  columns : (entity.columns.map (constantName ·.name)).Nodup
  /-- A column that is named like a constant of the module gets an ending. -/
  kept : ∀ column ∈ entity.columns, constantName column.name ∈ ColumnsFile.reservedNames →
    ∀ other ∈ entity.columns, constantName other.name ≠ constantName column.name ++ "_COLUMN"
  values : ∀ column ∈ entity.columns, entity.enumerations column.name ≠ [] →
    ∀ other ∈ entity.columns, constantName other.name ≠ constantName column.name ++ "_VALUES"

namespace ColumnsFile

variable {entity : Entity} {column other : Column}

theorem append_column_not_mem_reservedNames :
    ∀ name ∈ reservedNames, name ++ "_COLUMN" ∉ reservedNames := by decide

theorem append_values_not_mem_reservedNames (base : String) :
    base ++ "_VALUES" ∉ reservedNames := by
  intro h
  have hnone : ∀ name ∈ reservedNames, ¬ "_VALUES".toList <:+ name.toList := by decide
  exact hnone _ h (isSuffixOf_of_append_eq rfl)

theorem columnConstantName_of_mem (h : constantName column.name ∈ reservedNames) :
    columnConstantName column = constantName column.name ++ "_COLUMN" := by
  rw [columnConstantName, if_pos (List.contains_iff_mem.mpr h)]

theorem columnConstantName_of_not_mem (h : constantName column.name ∉ reservedNames) :
    columnConstantName column = constantName column.name := by
  rw [columnConstantName, if_neg (mt List.contains_iff_mem.mp h)]

theorem columnConstantName_not_mem_reservedNames (column : Column) :
    columnConstantName column ∉ reservedNames := by
  by_cases h : constantName column.name ∈ reservedNames
  · rw [columnConstantName_of_mem h]
    exact append_column_not_mem_reservedNames _ h
  · rwa [columnConstantName_of_not_mem h]

/-- The constant of the first column is named like the second column, because of the ending
that keeps it apart from the module's own. -/
def Doubles (column other : Column) : Prop :=
  constantName column.name ∈ reservedNames ∧
    constantName other.name = constantName column.name ++ "_COLUMN"

theorem Doubles.not_mem (h : Doubles column other) : constantName other.name ∉ reservedNames := by
  rw [h.2]
  exact append_column_not_mem_reservedNames _ h.1

theorem columnConstantName_eq_iff :
    columnConstantName column = columnConstantName other ↔
      constantName column.name = constantName other.name ∨ Doubles column other ∨
        Doubles other column := by
  -- A name with the ending is not reserved, so a column can only double one that gets no ending.
  by_cases hc : constantName column.name ∈ reservedNames <;>
    by_cases ho : constantName other.name ∈ reservedNames
  · have hleft : ¬ Doubles column other := fun h => h.not_mem ho
    have hright : ¬ Doubles other column := fun h => h.not_mem hc
    rw [columnConstantName_of_mem hc, columnConstantName_of_mem ho, String.append_left_inj,
      or_iff_left (not_or.mpr ⟨hleft, hright⟩)]
  · have hne : constantName column.name ≠ constantName other.name := fun h => ho (h ▸ hc)
    rw [columnConstantName_of_mem hc, columnConstantName_of_not_mem ho, or_iff_right hne,
      or_iff_left fun h => ho h.1, Doubles, and_iff_right hc, eq_comm]
  · have hne : constantName column.name ≠ constantName other.name := fun h => hc (h ▸ ho)
    rw [columnConstantName_of_not_mem hc, columnConstantName_of_mem ho, or_iff_right hne,
      or_iff_right fun h => hc h.1, Doubles, and_iff_right ho]
  · rw [columnConstantName_of_not_mem hc, columnConstantName_of_not_mem ho,
      or_iff_left (not_or.mpr ⟨fun h => hc h.1, fun h => ho h.1⟩)]

theorem columnConstantName_eq_values_iff {base : String} :
    columnConstantName column = base ++ "_VALUES" ↔
      constantName column.name = base ++ "_VALUES" := by
  by_cases h : constantName column.name ∈ reservedNames
  · -- Neither the reserved name nor the one with the ending can end like the name of values.
    have hcolumn : constantName column.name ++ "_COLUMN" ≠ base ++ "_VALUES" := fun he =>
      absurd (isSuffixOf_of_append_eq_append he (by decide)) (by decide)
    have hkept : constantName column.name ≠ base ++ "_VALUES" := fun he =>
      append_values_not_mem_reservedNames base (he ▸ h)
    rw [columnConstantName_of_mem h]
    exact iff_of_false hcolumn hkept
  · rw [columnConstantName_of_not_mem h]

theorem nodup_columnConstantNames_iff (hn : entity.columns.Nodup) :
    (entity.columns.map columnConstantName).Nodup ↔
      (entity.columns.map (constantName ·.name)).Nodup ∧
        ∀ column ∈ entity.columns, ∀ other ∈ entity.columns, ¬ Doubles column other := by
  rw [List.nodup_map_iff_inj_on hn, List.nodup_map_iff_inj_on hn]
  simp only [columnConstantName_eq_iff]
  constructor
  · refine fun h => ⟨fun column hc other ho he => h column hc other ho (.inl he), ?_⟩
    intro column hc other ho hd
    obtain rfl := h column hc other ho (.inr (.inl hd))
    exact hd.not_mem hd.1
  · rintro ⟨hnames, hnone⟩ column hc other ho (he | hd | hd)
    · exact hnames column hc other ho he
    · exact absurd hd (hnone column hc other ho)
    · exact absurd hd (hnone other ho column hc)

def valuesName? (column : Column) : Option String :=
  ((column.attributes.value? "enum").bind (enumValues · |>.toOption)).map fun _ =>
    constantName column.name ++ "_VALUES"

theorem names_enumConstants (h : entity.Assembled) :
    (entity.constraints.filterMap enumConstant?).map (·.name) =
      entity.columns.filterMap valuesName? := by
  have hchecks (base : String) (owner : Option String) (attributes : Attributes) :
      (checks base owner attributes).filterMap enumConstant? = [] := by
    rw [filterMap_checks fun _ _ => rfl]
    simp
  have hcolumn (column : Column) :
      ((column.constraints entity.table).filterMap enumConstant?).map (·.name) =
        (valuesName? column).toList := by
    rw [Column.constraints, List.filterMap_append, List.filterMap_append, hchecks, valuesName?]
    cases column.foreignKey <;>
      cases (column.attributes.value? "enum").bind (enumValues · |>.toOption) <;> rfl
  rw [h.constraints, List.filterMap_append, hchecks, List.append_nil, List.filterMap_flatMap,
    List.map_flatMap, List.filterMap_eq_flatMap_toList]
  simp only [hcolumn]

theorem names_perm (h : entity.Assembled) :
    ((constantGroups entity).flatten.map (·.name)).Perm
      (reservedNames ++ (entity.columns.map columnConstantName ++
        entity.columns.filterMap valuesName?)) := by
  have hfixed : (["TABLE"] ++ ["PRIMARY_KEY", "ALL", "COLUMNS", "INDEXES", "CHECKS"]).Perm
      reservedNames := by decide
  have hswap : (entity.columns.map columnConstantName ++
      ["PRIMARY_KEY", "ALL", "COLUMNS", "INDEXES", "CHECKS"]).Perm
        (["PRIMARY_KEY", "ALL", "COLUMNS", "INDEXES", "CHECKS"] ++
          entity.columns.map columnConstantName) := List.perm_append_comm
  rw [names_constantGroups, names_enumConstants h, List.cons_append, ← List.append_assoc]
  refine ((hswap.cons "TABLE").append_right _).trans (List.Perm.append_right _ ?_)
  rw [← List.singleton_append, ← List.append_assoc]
  exact hfixed.append_right _

theorem valuesName?_eq_some {name : String} (h : valuesName? column = some name) :
    name = constantName column.name ++ "_VALUES" := by
  obtain ⟨values, -, rfl⟩ := Option.map_eq_some_iff.mp h
  rfl

theorem valuesName?_of_enumerations (h : entity.Assembled) (hn : entity.columnNames.Nodup)
    (hc : column ∈ entity.columns) :
    entity.enumerations column.name ≠ [] ↔
      valuesName? column = some (constantName column.name ++ "_VALUES") := by
  rw [h.enumerations hn hc, valuesName?]
  cases (column.attributes.value? "enum").bind (enumValues · |>.toOption) <;> simp

theorem nodup_valuesNames (hn : (entity.columns.map (constantName ·.name)).Nodup) :
    (entity.columns.filterMap valuesName?).Nodup := by
  refine nodup_filterMap_of_key hn fun column other name hc ho => ?_
  rw [valuesName?_eq_some hc] at ho
  exact (String.append_left_inj _).mp (valuesName?_eq_some ho)

theorem disjoint_reservedNames :
    reservedNames.Disjoint
      (entity.columns.map columnConstantName ++ entity.columns.filterMap valuesName?) := by
  rw [List.disjoint_append_right]
  constructor
  · intro name hk hc
    obtain ⟨column, -, rfl⟩ := List.mem_map.mp hc
    exact columnConstantName_not_mem_reservedNames column hk
  · intro name hk hv
    obtain ⟨column, -, hname⟩ := List.mem_filterMap.mp hv
    rw [valuesName?_eq_some hname] at hk
    exact append_values_not_mem_reservedNames _ hk

theorem nodup_names_iff (h : entity.Assembled) (hn : entity.columnNames.Nodup) :
    ((constantGroups entity).flatten.map (·.name)).Nodup ↔ entity.ColumnConstantsApart := by
  have hreserved : reservedNames.Nodup := by decide
  have hcolumns : entity.columns.Nodup := .of_map _ hn
  rw [(names_perm h).nodup_iff, List.nodup_append', and_iff_right hreserved,
    and_iff_left disjoint_reservedNames, List.nodup_append',
    nodup_columnConstantNames_iff hcolumns]
  constructor
  · rintro ⟨⟨hnames, hnone⟩, -, hdisjoint⟩
    refine ⟨hnames, fun column hc hk other ho he => hnone column hc other ho ⟨hk, he⟩, ?_⟩
    intro column hc hvalues other ho he
    refine hdisjoint (List.mem_map_of_mem ho) (List.mem_filterMap.mpr ⟨column, hc, ?_⟩)
    rw [(valuesName?_of_enumerations h hn hc).mp hvalues, columnConstantName_eq_values_iff.mpr he]
  · rintro ⟨hnames, hkept, hvalues⟩
    refine ⟨⟨hnames, fun column hc other ho hd => hkept column hc hd.1 other ho hd.2⟩,
      nodup_valuesNames hnames, ?_⟩
    intro name hm hv
    obtain ⟨other, ho, rfl⟩ := List.mem_map.mp hm
    obtain ⟨column, hc, hname⟩ := List.mem_filterMap.mp hv
    have he := valuesName?_eq_some hname
    have hsome := hname
    rw [he] at hsome
    exact hvalues column hc ((valuesName?_of_enumerations h hn hc).mpr hsome) other ho
      (columnConstantName_eq_values_iff.mp he)

end ColumnsFile

-- ---------------------------------------------------------------------------
-- Relations
-- ---------------------------------------------------------------------------

/-- What the name of a relation's dependent statement ends with, if it has one. -/
def Relationship.dependentEnding? (relationship : Relationship) : Option String :=
  relationship.options.dependent.bind fun action =>
    match relationship.relation with
    | .belongsTo .. => none
    | .hasOne .. | .hasMany .. =>
      some (if action = .restrict then "DEPENDENT_COUNT" else "DEPENDENT")
    | .manyToMany .. => some "DEPENDENT"

def RelationField.dependentName? (field : RelationField) : Option String :=
  field.relationship.dependentEnding?.map (constantName field.fieldName ++ "_" ++ ·)

/-- No relation takes the name of another constant of the entity's module. -/
structure Entity.RelationConstantsApart (entity : Entity) : Prop where
  relations : (entity.relations.map (constantName ·.fieldName)).Nodup
  dependents : ∀ field ∈ entity.relations, ∀ name, field.dependentName? = some name →
    ∀ other ∈ entity.relations, constantName other.fieldName ≠ name

namespace RelationsFile

variable {model : Model} {entity target : Entity} {field other : RelationField}

theorem name_dependentConstant? :
    (dependentConstant? field target).map (·.name) = field.dependentName? := by
  rw [dependentConstant?, RelationField.dependentName?, Relationship.dependentEnding?]
  cases field.relationship.options.dependent with
  | none => rfl
  | some action =>
    rw [Option.bind_some, Option.bind_some, dependent?]
    cases field.relationship.relation with
    | belongsTo | manyToMany => rfl
    | hasOne | hasMany => cases action <;> rfl

theorem names_relationConstants {constants : List Constant}
    (h : relationConstants model entity field = .ok constants) :
    constants.map (·.name) = constantName field.fieldName :: field.dependentName?.toList := by
  rw [relationConstants] at h
  split at h
  · cases h
  · cases h
    rw [List.map_cons, ← name_dependentConstant?, Option.toList_map]
    rfl

theorem names_moduleConstants {groups : List (List Constant)}
    (h : moduleConstants model entity = .ok groups) :
    groups.flatten.map (·.name) = entity.relations.flatMap fun field =>
      constantName field.fieldName :: field.dependentName?.toList := by
  rw [moduleConstants, mapM_ok_iff] at h
  generalize entity.relations = relations at h ⊢
  induction h with
  | nil => rfl
  | cons hr _ ih =>
    rw [List.flatten_cons, List.map_append, ih, List.flatMap_cons, names_relationConstants hr]

theorem dependentEnding?_mem {ending : String}
    (h : field.relationship.dependentEnding? = some ending) :
    ending ∈ ["DEPENDENT", "DEPENDENT_COUNT"] := by
  obtain ⟨action, -, hending⟩ := Option.bind_eq_some_iff.mp h
  revert hending
  cases field.relationship.relation <;> cases action <;> simp +contextual [eq_comm]

theorem constantName_eq_of_dependentName? {name : String}
    (hf : field.dependentName? = some name) (ho : other.dependentName? = some name) :
    constantName field.fieldName = constantName other.fieldName := by
  obtain ⟨ending, hending, rfl⟩ := Option.map_eq_some_iff.mp hf
  obtain ⟨otherEnding, hother, he⟩ := Option.map_eq_some_iff.mp ho
  rw [String.append_assoc, String.append_assoc] at he
  have hsuffix : ¬ ("_" ++ "DEPENDENT").toList <:+ ("_" ++ "DEPENDENT_COUNT").toList := by decide
  rcases List.mem_pair.mp (dependentEnding?_mem hending) with rfl | rfl <;>
    rcases List.mem_pair.mp (dependentEnding?_mem hother) with rfl | rfl
  · exact ((String.append_left_inj _).mp he).symm
  · exact absurd (isSuffixOf_of_append_eq_append he.symm (by decide)) hsuffix
  · exact absurd (isSuffixOf_of_append_eq_append he (by decide)) hsuffix
  · exact ((String.append_left_inj _).mp he).symm

theorem nodup_names_iff {groups : List (List Constant)}
    (h : moduleConstants model entity = .ok groups) :
    (groups.flatten.map (·.name)).Nodup ↔ entity.RelationConstantsApart := by
  have hperm := List.map_append_flatMap_perm entity.relations (constantName ·.fieldName)
    (·.dependentName?.toList)
  rw [names_moduleConstants h, ← hperm.nodup_iff, List.nodup_append',
    ← List.filterMap_eq_flatMap_toList]
  constructor
  · rintro ⟨hnames, -, hdisjoint⟩
    refine ⟨hnames, fun field hf name hname other ho he => ?_⟩
    exact hdisjoint (he ▸ List.mem_map_of_mem ho) (List.mem_filterMap.mpr ⟨field, hf, hname⟩)
  · rintro ⟨hnames, hdependents⟩
    refine ⟨hnames, nodup_filterMap_of_key hnames fun field other name hf ho =>
      constantName_eq_of_dependentName? hf ho, ?_⟩
    intro name hm hd
    obtain ⟨other, ho, rfl⟩ := List.mem_map.mp hm
    obtain ⟨field, hf, hname⟩ := List.mem_filterMap.mp hd
    exact hdependents field hf _ hname other ho rfl

end RelationsFile

-- ---------------------------------------------------------------------------
-- Constants of valid models
-- ---------------------------------------------------------------------------

/-- In a model that is reported as valid, the constants of the columns and those of the
relations of an entity are named apart exactly if no column or relation takes the name of
another constant. -/
theorem Model.constantNames_of_isValid {cache : TagCache} {declarations : List Declaration}
    {model : Model} (hb : (build cache declarations).1 = .ok model)
    (hv : model.validate.isValid = true) {entity : Entity} (he : entity ∈ model.entities) :
    (((ColumnsFile.constantGroups entity).flatten.map (·.name)).Nodup ↔
      entity.ColumnConstantsApart) ∧
    ∃ groups, RelationsFile.moduleConstants model entity = .ok groups ∧
      ((groups.flatten.map (·.name)).Nodup ↔ entity.RelationConstantsApart) := by
  have hwell := (wellFormed_of_isValid hb hv).entities entity he
  have hassembled := (coherent_of_build hb).assembled entity he
  obtain ⟨groups, hg⟩ := RelationsFile.exists_moduleConstants hv he
  exact ⟨ColumnsFile.nodup_names_iff hassembled hwell.distinctColumns, groups, hg,
    RelationsFile.nodup_names_iff hg⟩

/-- Sheets with columns and a relation that are named like other constants, and cells with
constants that stay apart. -/
def sheets : List Declaration := [
  { name := "Sheet"
    file := "sheet.rs"
    line := 1
    fields := [
      { name := "id", type := { base := "i64" }, attributes := some "primary_key", line := 2 },
      { name := "table", type := { base := "String" }, line := 3 },
      { name := "table_column", type := { base := "String" }, line := 4 },
      { name := "state", type := { base := "String" }, attributes := some "enum:open,closed",
        line := 5 },
      { name := "state_values", type := { base := "String" }, line := 6 },
      { name := "cells", type := { base := "Cell", isCollection := true },
        relationship := some "has_many:Cell,foreign_key:sheet_id,dependent:delete", line := 7 },
      { name := "cells_dependent", type := { base := "Cell", isPointer := true },
        relationship := some "has_one:Cell,foreign_key:sheet_id", line := 8 } ] },
  { name := "Cell"
    file := "cell.rs"
    line := 1
    fields := [
      { name := "id", type := { base := "i64" }, attributes := some "primary_key", line := 2 },
      { name := "sheet_id", type := { base := "i64" }, line := 3 },
      { name := "parent_id", type := { base := "i64", isPointer := true }, line := 4 },
      { name := "all", type := { base := "bool" }, line := 5 },
      { name := "kind", type := { base := "String" }, attributes := some "enum:text,number",
        line := 6 },
      { name := "parts", type := { base := "Cell", isCollection := true },
        relationship := some "has_many:Cell,foreign_key:parent_id,dependent:restrict",
        line := 7 } ] } ]

def Model.relationConstantNames (model : Model) (entity : Entity) : Option (List String) :=
  (RelationsFile.moduleConstants model entity).toOption.map (·.flatten.map (·.name))

theorem Model.names_of_relationConstantNames {model : Model} {entity : Entity}
    {names : List String} {groups : List (List Constant)}
    (h : model.relationConstantNames entity = some names)
    (hg : RelationsFile.moduleConstants model entity = .ok groups) :
    groups.flatten.map (·.name) = names := by
  rw [relationConstantNames, hg] at h
  exact Option.some.inj h

theorem sheets_built :
    ∃ model, (Model.build {} sheets).1 = .ok model ∧ model.validate.isValid = true ∧
      (∃ entity ∈ model.entities,
        (ColumnsFile.constantGroups entity).flatten.map (·.name) =
          ["TABLE", "ID", "TABLE_COLUMN", "TABLE_COLUMN", "STATE", "STATE_VALUES",
            "PRIMARY_KEY", "ALL", "COLUMNS", "INDEXES", "CHECKS", "STATE_VALUES"] ∧
        model.relationConstantNames entity =
          some ["CELLS", "CELLS_DEPENDENT", "CELLS_DEPENDENT"]) ∧
      ∃ entity ∈ model.entities,
        (ColumnsFile.constantGroups entity).flatten.map (·.name) =
          ["TABLE", "ID", "SHEET_ID", "PARENT_ID", "ALL_COLUMN", "KIND",
            "PRIMARY_KEY", "ALL", "COLUMNS", "INDEXES", "CHECKS", "KIND_VALUES"] ∧
        model.relationConstantNames entity = some ["PARTS", "PARTS_DEPENDENT_COUNT"] := by
  have hany : ∃ model, (Model.build {} sheets).1 = .ok model ∧
      (model.validate.isValid &&
        (model.entities.any fun entity => decide (
          (ColumnsFile.constantGroups entity).flatten.map (·.name) =
            ["TABLE", "ID", "TABLE_COLUMN", "TABLE_COLUMN", "STATE", "STATE_VALUES",
              "PRIMARY_KEY", "ALL", "COLUMNS", "INDEXES", "CHECKS", "STATE_VALUES"] ∧
          model.relationConstantNames entity =
            some ["CELLS", "CELLS_DEPENDENT", "CELLS_DEPENDENT"])) &&
        model.entities.any fun entity => decide (
          (ColumnsFile.constantGroups entity).flatten.map (·.name) =
            ["TABLE", "ID", "SHEET_ID", "PARENT_ID", "ALL_COLUMN", "KIND",
              "PRIMARY_KEY", "ALL", "COLUMNS", "INDEXES", "CHECKS", "KIND_VALUES"] ∧
          model.relationConstantNames entity =
            some ["PARTS", "PARTS_DEPENDENT_COUNT"])) = true :=
    Model.built_of_any (by decide +kernel)
  simpa [and_assoc] using hany

theorem constantNames_of_sheets :
    ∃ model, (Model.build {} sheets).1 = .ok model ∧ model.validate.isValid = true ∧
      (∃ entity ∈ model.entities,
        ¬ entity.ColumnConstantsApart ∧ ¬ entity.RelationConstantsApart) ∧
      ∃ entity ∈ model.entities, entity.ColumnConstantsApart ∧ entity.RelationConstantsApart := by
  obtain ⟨model, hb, hvalid, ⟨sheet, hs, hsheet, hcells⟩, cell, hc, hcell, hparts⟩ := sheets_built
  obtain ⟨hcolumns, groups, hg, hrelations⟩ := Model.constantNames_of_isValid hb hvalid hs
  obtain ⟨hcolumns', groups', hg', hrelations'⟩ := Model.constantNames_of_isValid hb hvalid hc
  rw [hsheet] at hcolumns
  rw [Model.names_of_relationConstantNames hcells hg] at hrelations
  rw [hcell] at hcolumns'
  rw [Model.names_of_relationConstantNames hparts hg'] at hrelations'
  refine ⟨model, hb, hvalid, ⟨sheet, hs, ?_, ?_⟩, cell, hc, ?_, ?_⟩
  · exact mt hcolumns.mpr (by decide)
  · exact mt hrelations.mpr (by decide)
  · exact hcolumns'.mp (by decide)
  · exact hrelations'.mp (by decide)

/-- Two constants of one name are not reported, neither among those of the columns nor among
those of the relations. -/
theorem not_all_constantNames_distinct :
    (¬ ∀ model, (∃ declarations, (Model.build {} declarations).1 = .ok model) →
      model.validate.isValid = true → ∀ entity ∈ model.entities,
        ((ColumnsFile.constantGroups entity).flatten.map (·.name)).Nodup) ∧
    ¬ ∀ model, (∃ declarations, (Model.build {} declarations).1 = .ok model) →
      model.validate.isValid = true → ∀ entity ∈ model.entities, ∀ names,
        model.relationConstantNames entity = some names → names.Nodup := by
  obtain ⟨model, hb, hvalid, ⟨sheet, hs, hsheet, hcells⟩, -⟩ := sheets_built
  constructor
  · intro hall
    have hnodup := hall model ⟨_, hb⟩ hvalid sheet hs
    rw [hsheet] at hnodup
    exact absurd hnodup (by decide)
  · intro hall
    exact absurd (hall model ⟨_, hb⟩ hvalid sheet hs _ hcells) (by decide)

end SchemaCompiler
