import SchemaCompiler.Proofs.Artifact.BuiltIn
import SchemaCompiler.Proofs.Artifact.Legality
import SchemaCompiler.Proofs.Attributes.Accepted
import SchemaCompiler.Proofs.Entity.Constraints
import SchemaCompiler.Proofs.Model.Origin

/-!
# Emitted names

The built-in templates make the names of modules, types and constants from those of
entities, columns and relations. For a valid model of scanned text all of them are legal
exactly if the names that they are made from allow it. Nothing reports a name that does
not.
-/

namespace SchemaCompiler

open Text Naming Code

-- ---------------------------------------------------------------------------
-- Names of one entity
-- ---------------------------------------------------------------------------

namespace Entity

/-- The names of modules, types and constants that the built-in templates write for an
entity, its columns and its relations. -/
inductive Emits (model : Model) (entity : Entity) : String → Prop
  /-- The module of an entity in a file for the whole model. -/
  | ownModule : Emits model entity (identifier (Naming.snake entity.name))
  /-- The module of a file for the entity alone. -/
  | fileModule (kind : ArtifactKind) (plan : Plan) :
      plan ∈ Plan.ofKind model kind → plan.entity? = some entity →
      Emits model entity plan.moduleName
  | repositoryType : Emits model entity (RepositoryFile.typeName entity)
  | queryType (name : String) :
      name ∈ ["Order", QueryFile.typeName entity] → Emits model entity name
  | columnConstant (constant : Constant) :
      constant ∈ (ColumnsFile.constantGroups entity).flatten → Emits model entity constant.name
  | repositoryConstant (constant : Constant) :
      constant ∈ (RepositoryFile.constantGroups entity).flatten → Emits model entity constant.name
  | queryConstant (name : String) : name ∈ ["TABLE", "SELECT"] → Emits model entity name
  | relationConstant (groups : List (List Constant)) (constant : Constant) :
      RelationsFile.moduleConstants model entity = .ok groups → constant ∈ groups.flatten →
      Emits model entity constant.name

/-- Legal names are made from the names of the entity, its columns and its relations. -/
structure NamesCode (entity : Entity) : Prop where
  itself : NamesModule entity.name
  columns : ∀ column ∈ entity.columns, NamesConstant column.name
  relations : ∀ field ∈ entity.relations, NamesConstant field.fieldName

/-- The names of an entity, its columns and its relations are spelled like those in
source text. -/
structure Spelled (entity : Entity) : Prop where
  name : Naming.Spelled entity.name.toList
  columns : ∀ column ∈ entity.columns, Naming.Spelled column.name.toList
  relations : ∀ field ∈ entity.relations, Naming.Spelled field.fieldName.toList

instance (entity : Entity) : Decidable entity.NamesCode :=
  decidable_of_iff (NamesModule entity.name ∧
      (∀ column ∈ entity.columns, NamesConstant column.name) ∧
        ∀ field ∈ entity.relations, NamesConstant field.fieldName)
    ⟨fun ⟨hi, hc, hr⟩ => ⟨hi, hc, hr⟩, fun h => ⟨h.itself, h.columns, h.relations⟩⟩

end Entity

variable {model : Model} {entity : Entity} {name : String}

-- ---------------------------------------------------------------------------
-- Files
-- ---------------------------------------------------------------------------

theorem Plan.isLegalName_moduleName {kind : ArtifactKind} {plan : Plan}
    (h : plan ∈ ofKind model kind) (he : plan.entity? = some entity)
    (hm : NamesModule entity.name) (hs : Naming.Spelled entity.name.toList) :
    isLegalName plan.moduleName = true := by
  cases kind with
  | columns | relations | root =>
    simp only [ofKind, ArtifactKind.modelModule?, List.mem_singleton] at h
    subst h
    cases he
  | repository | query =>
    simp only [ofKind, ArtifactKind.modelModule?, ArtifactKind.entityEnding?, List.mem_map] at h
    obtain ⟨other, -, rfl⟩ := h
    cases he
    exact hm.isLegalName_file hs (by decide)

-- ---------------------------------------------------------------------------
-- Columns
-- ---------------------------------------------------------------------------

namespace ColumnsFile

theorem isLegalName_reserved : ∀ name ∈ reservedNames, isLegalName name = true := by decide

theorem isLegalName_columnConstantName_iff {column : Column}
    (hs : Naming.Spelled column.name.toList) :
    isLegalName (columnConstantName column) = true ↔ NamesConstant column.name := by
  have hconstant := isLegalName_constantName_iff hs
  rw [columnConstantName]
  split
  · rename_i hr
    have hlegal := hconstant.mp (isLegalName_reserved _ (List.contains_iff_mem.mp hr))
    exact iff_of_true (hlegal.isLegalName_append hs (by decide) (by decide)) hlegal
  · exact hconstant

theorem name_columnConstant (column : Column) :
    (columnConstant column).name = columnConstantName column := by
  rw [columnConstant]

theorem columnConstant_mem_constantGroups {column : Column} (h : column ∈ entity.columns) :
    columnConstant column ∈ (constantGroups entity).flatten := by
  refine List.mem_flatten.mpr ⟨_, List.mem_cons_self, List.mem_cons_of_mem _ ?_⟩
  exact List.mem_map_of_mem h

theorem enumConstant?_eq_some {constraint : Constraint} {constant : Constant}
    (h : enumConstant? constraint = some constant) :
    ∃ column values, constraint.kind = .enumeration column values ∧
      constant.name = constantName column ++ "_VALUES" := by
  rw [enumConstant?] at h
  split at h
  · rename_i column values hk
    cases h
    exact ⟨column, values, hk, rfl⟩
  · cases h

theorem names_constantGroups (entity : Entity) :
    (constantGroups entity).flatten.map (·.name) =
      "TABLE" :: entity.columns.map columnConstantName ++
        ["PRIMARY_KEY", "ALL", "COLUMNS", "INDEXES", "CHECKS"] ++
          (entity.constraints.filterMap enumConstant?).map (·.name) := by
  simp [constantGroups, columnConstant, Function.comp_def, ← List.flatMap_def]

theorem mem_constantGroups {constant : Constant} (ha : entity.Assembled)
    (h : constant ∈ (constantGroups entity).flatten) :
    constant.name ∈ reservedNames ∨ ∃ column ∈ entity.columns,
      constant.name = columnConstantName column ∨
        constant.name = constantName column.name ++ "_VALUES" := by
  have hname := List.mem_map_of_mem (f := Constant.name) h
  have hkept : ∀ name ∈ ["PRIMARY_KEY", "ALL", "COLUMNS", "INDEXES", "CHECKS"],
      name ∈ reservedNames := by decide
  rw [names_constantGroups, List.mem_append, List.mem_append, List.mem_cons] at hname
  rcases hname with ((htable | hcolumn) | hfixed) | hvalues
  · exact .inl (htable ▸ by decide)
  · obtain ⟨column, hc, he⟩ := List.mem_map.mp hcolumn
    exact .inr ⟨column, hc, .inl he.symm⟩
  · exact .inl (hkept _ hfixed)
  · obtain ⟨other, ho, he⟩ := List.mem_map.mp hvalues
    obtain ⟨⟨base, kind⟩, hk, hsome⟩ := List.mem_filterMap.mp ho
    obtain ⟨owner, values, rfl, hother⟩ := enumConstant?_eq_some hsome
    obtain ⟨column, hc, rfl⟩ := List.mem_map.mp (ha.mem_columnNames_of_enumeration hk)
    exact .inr ⟨column, hc, .inr (he ▸ hother)⟩

end ColumnsFile

-- ---------------------------------------------------------------------------
-- Repositories
-- ---------------------------------------------------------------------------

namespace RepositoryFile

/-- The names of constants that every repository may have. -/
def fixedNames : List String :=
  ["TABLE", "COLUMNS", "SELECT_ALL", "COUNT", "INSERT", "FIND_BY_PK", "UPDATE", "DELETE"]

theorem isLegalName_fixed : ∀ name ∈ fixedNames, isLegalName name = true := by decide

theorem names_keyStatements_subset (entity : Entity) :
    (keyStatements entity).map (·.name) ⊆ ["FIND_BY_PK", "UPDATE", "DELETE"] := by
  rw [keyStatements]
  split
  · exact List.nil_subset _
  · rw [update?]
    split <;> simp

theorem names_constantGroups (entity : Entity) :
    (constantGroups entity).flatten.map (·.name) =
      ["TABLE", "COLUMNS", "SELECT_ALL", "COUNT", "INSERT"] ++
        (keyStatements entity).map (·.name) ++
          (uniqueColumns entity).map fun column => "FIND_BY_" ++ constantName column.name := by
  simp [constantGroups, tableConstants, statements, NamedStatement.constant, findByColumn,
    Function.comp_def]

theorem mem_constantGroups {constant : Constant}
    (h : constant ∈ (constantGroups entity).flatten) :
    constant.name ∈ fixedNames ∨
      ∃ column ∈ entity.columns, constant.name = "FIND_BY_" ++ constantName column.name := by
  have hname := List.mem_map_of_mem (f := Constant.name) h
  have hfixed : ["TABLE", "COLUMNS", "SELECT_ALL", "COUNT", "INSERT"] ⊆ fixedNames := by decide
  have hkey : ["FIND_BY_PK", "UPDATE", "DELETE"] ⊆ fixedNames := by decide
  rw [names_constantGroups, List.mem_append, List.mem_append] at hname
  rcases hname with (hname | hname) | hname
  · exact .inl (hfixed hname)
  · exact .inl (hkey (names_keyStatements_subset entity hname))
  · obtain ⟨column, hc, he⟩ := List.mem_map.mp hname
    exact .inr ⟨column, (List.mem_filter.mp hc).1, he.symm⟩

end RepositoryFile

-- ---------------------------------------------------------------------------
-- Relations
-- ---------------------------------------------------------------------------

namespace RelationsFile

variable {field : RelationField} {constants : List Constant}

theorem exists_loaderConstant (h : relationConstants model entity field = .ok constants) :
    ∃ constant ∈ constants, constant.name = constantName field.fieldName := by
  rw [relationConstants] at h
  split at h
  · cases h
  · cases h
    exact ⟨_, List.mem_cons_self, rfl⟩

theorem dependent?_eq_some {action : DependentAction} {target : Entity} {dependent : Dependent}
    (h : dependent? action field target = some dependent) :
    dependent.ending = "DEPENDENT" ∨ dependent.ending = "DEPENDENT_COUNT" := by
  rw [dependent?] at h
  cases hr : field.relationship.relation with
  | belongsTo =>
    rw [hr] at h
    cases h
  | hasOne | hasMany =>
    rw [hr] at h
    cases h
    cases action with
    | destroy | delete | nullify => exact .inl rfl
    | restrict => exact .inr rfl
  | manyToMany =>
    rw [hr] at h
    cases h
    exact .inl rfl

theorem mem_relationConstants (h : relationConstants model entity field = .ok constants)
    {constant : Constant} (hc : constant ∈ constants) :
    constant.name = constantName field.fieldName ∨
      ∃ ending ∈ ["DEPENDENT", "DEPENDENT_COUNT"],
        constant.name = constantName field.fieldName ++ ("_" ++ ending) := by
  rw [relationConstants] at h
  split at h
  · cases h
  · cases h
    rcases List.mem_cons.mp hc with rfl | hc
    · exact .inl rfl
    · obtain ⟨action, -, hdependent⟩ := Option.bind_eq_some_iff.mp (Option.mem_toList.mp hc)
      obtain ⟨dependent, hd, rfl⟩ := Option.map_eq_some_iff.mp hdependent
      refine .inr ⟨dependent.ending, ?_, ?_⟩
      · simpa using dependent?_eq_some hd
      · exact String.append_assoc

theorem mem_moduleConstants {groups : List (List Constant)}
    (h : moduleConstants model entity = .ok groups) {constant : Constant} :
    constant ∈ groups.flatten ↔ ∃ field ∈ entity.relations, ∃ constants,
      relationConstants model entity field = .ok constants ∧ constant ∈ constants := by
  rw [List.mem_flatten]
  constructor
  · rintro ⟨constants, hg, hc⟩
    obtain ⟨field, hf, hr⟩ := (mem_mapM_iff h).mp hg
    exact ⟨field, hf, constants, hr, hc⟩
  · rintro ⟨field, hf, constants, hr, hc⟩
    exact ⟨constants, (mem_mapM_iff h).mpr ⟨field, hf, hr⟩, hc⟩

theorem exists_moduleConstants (hv : model.validate.isValid = true)
    (he : entity ∈ model.entities) : ∃ groups, moduleConstants model entity = .ok groups := by
  rw [moduleConstants, exists_mapM_iff]
  intro field hf
  rw [← not_fails_iff, relationConstants_fails_iff, not_not]
  exact Model.target_mem_of_isValid hv he hf

end RelationsFile

-- ---------------------------------------------------------------------------
-- All names of one entity
-- ---------------------------------------------------------------------------

namespace Entity

theorem NamesCode.isLegalName (h : entity.NamesCode) (hs : entity.Spelled)
    (ha : entity.Assembled) (hn : entity.Emits model name) : isLegalName name = true := by
  cases hn with
  | ownModule => exact h.itself.isLegalName_identifier hs.name
  | fileModule kind plan hp he => exact Plan.isLegalName_moduleName hp he h.itself hs.name
  | repositoryType => exact h.itself.isLegalName_type hs.name (by decide)
  | queryType _ hq =>
    rcases List.mem_pair.mp hq with rfl | rfl
    · decide
    · exact h.itself.isLegalName_type hs.name (by decide)
  | columnConstant constant hc =>
    rcases ColumnsFile.mem_constantGroups ha hc with hkept | ⟨column, hm, he | he⟩
    · exact ColumnsFile.isLegalName_reserved _ hkept
    · rw [he]
      exact (ColumnsFile.isLegalName_columnConstantName_iff (hs.columns column hm)).mpr
        (h.columns column hm)
    · rw [he]
      exact (h.columns column hm).isLegalName_append (hs.columns column hm) (by decide) (by decide)
  | repositoryConstant constant hc =>
    rcases RepositoryFile.mem_constantGroups hc with hfixed | ⟨column, hm, he⟩
    · exact RepositoryFile.isLegalName_fixed _ hfixed
    · rw [he]
      exact (h.columns column hm).isLegalName_prepend (hs.columns column hm) (by decide) (by decide)
  | queryConstant _ hq =>
    have hfixed : ∀ name ∈ ["TABLE", "SELECT"], SchemaCompiler.isLegalName name = true := by decide
    exact hfixed name hq
  | relationConstant groups constant hg hc =>
    obtain ⟨field, hf, constants, hr, hc⟩ := (RelationsFile.mem_moduleConstants hg).mp hc
    have hfield := h.relations field hf
    have hspelled := hs.relations field hf
    rcases RelationsFile.mem_relationConstants hr hc with he | ⟨ending, hm, he⟩
    · rw [he]
      exact (isLegalName_constantName_iff hspelled).mpr hfield
    · have hending : ∀ ending ∈ ["DEPENDENT", "DEPENDENT_COUNT"],
          isShouted ("_" ++ ending) = true ∧ "_" ++ ending ≠ "" := by decide
      rw [he]
      exact hfield.isLegalName_append hspelled (hending ending hm).1 (hending ending hm).2

theorem namesCode_of_isLegalName (hs : entity.Spelled) (hv : model.validate.isValid = true)
    (he : entity ∈ model.entities)
    (h : ∀ name, entity.Emits model name → SchemaCompiler.isLegalName name = true) :
    entity.NamesCode := by
  have hending : isEnding "Repository" = true := by decide
  have hunmarked := unmarked_of_isLegalName_type hending (h _ .repositoryType)
  obtain ⟨hstarts, hpath⟩ := (isLegalName_identifier_iff hs.name hunmarked).mp (h _ .ownModule)
  refine ⟨⟨hunmarked, hstarts, hpath⟩, ?_, ?_⟩
  · intro column hc
    have hlegal := h _ (.columnConstant _ (ColumnsFile.columnConstant_mem_constantGroups hc))
    rw [ColumnsFile.name_columnConstant] at hlegal
    exact (ColumnsFile.isLegalName_columnConstantName_iff (hs.columns column hc)).mp hlegal
  · intro field hf
    obtain ⟨groups, hg⟩ := RelationsFile.exists_moduleConstants hv he
    have hfield := exists_mapM_iff.mp ⟨groups, hg⟩ field hf
    obtain ⟨constants, hr⟩ := hfield
    obtain ⟨constant, hc, hname⟩ := RelationsFile.exists_loaderConstant hr
    have hmem := (RelationsFile.mem_moduleConstants hg).mpr ⟨field, hf, constants, hr, hc⟩
    rw [← isLegalName_constantName_iff (hs.relations field hf), ← hname]
    exact h _ (.relationConstant groups constant hg hmem)

end Entity

-- ---------------------------------------------------------------------------
-- Models of scanned text
-- ---------------------------------------------------------------------------

namespace Model

theorem spelled_of_build {cache : TagCache} {result : ScanResult}
    (hr : result.Named) (hb : (build cache result.declarations).1 = .ok model)
    (hv : model.validate.isValid = true) (he : entity ∈ model.entities) : entity.Spelled := by
  obtain ⟨declaration, hd, hfrom⟩ := from_of_build hb entity he
  have hnamed := hr declaration hd
  refine ⟨?_, ?_, ?_⟩
  · rw [hfrom.name]
    exact hnamed.name.spelled
  · intro column hc
    have htag := (((wellFormed_of_isValid hb hv).entities entity he).columns column hc).tag
    obtain ⟨field, hf, attributes, rfl⟩ := hfrom.column hc
    rw [Column.ofField]
    cases hgiven : attributes.value? "column" with
    | some given => exact spelled_of_isIdentifier (Attributes.isIdentifier_of_value? htag hgiven)
    | none => exact (hnamed.fields field hf).spelled.snake
  · intro relation hm
    obtain ⟨field, hf, hname⟩ := hfrom.relation hm
    rw [hname]
    exact (hnamed.fields field hf).spelled

/-- In a valid model of scanned text the names that the built-in templates write for an
entity are all legal exactly if the names of the entity, its columns and its relations are
such that legal names are made from them. -/
theorem emitted_legal_iff {root : Folder} {directory : String} {options : ScanOptions}
    {reader : Reader} {result : ScanResult} {cache : TagCache}
    (hscan : root.scan directory options reader = .ok result)
    (hb : (build cache result.declarations).1 = .ok model)
    (hv : model.validate.isValid = true) (he : entity ∈ model.entities) :
    (∀ name, entity.Emits model name → isLegalName name = true) ↔ entity.NamesCode := by
  have hs := spelled_of_build (Folder.named_of_scan hscan) hb hv he
  constructor
  · intro h
    exact Entity.namesCode_of_isLegalName hs hv he h
  · intro h name hn
    exact h.isLegalName hs ((coherent_of_build hb).assembled entity he) hn

end Model

/-- A module named like a keyword, and a column with a digit at its start. -/
def matchProject : Folder :=
  .file "match.rs" (.ofText "pub struct Match \x7b
#[db = \"primary_key\"] pub id: i64,
pub _1: i64 \x7d") .empty

theorem emitted_legal_matchProject :
    ∃ result, matchProject.scan "." {} {} = .ok result ∧
      ∃ model, (Model.build {} result.declarations).1 = .ok model ∧
        model.validate.isValid = true ∧ ∃ entity ∈ model.entities,
          entity.Emits model "r#match" ∧
            ∀ name, entity.Emits model name → isLegalName name = true := by
  have hany : ∃ result, matchProject.scan "." {} {} = .ok result ∧
      ((Model.build {} result.declarations).1.toOption.any fun model =>
        model.validate.isValid && model.entities.any fun entity =>
          decide (entity.name = "Match") && decide entity.NamesCode) = true :=
    ok_of_any (by decide +kernel)
  obtain ⟨result, hscan, hmodel⟩ := hany
  obtain ⟨model, hb, hm⟩ := ok_of_any hmodel
  simp only [Bool.and_eq_true, List.any_eq_true, decide_eq_true_eq] at hm
  obtain ⟨hv, entity, he, hname, hcode⟩ := hm
  have hmodule : identifier (snake "Match") = "r#match" := by decide +kernel
  have hemits : entity.Emits model (identifier (snake entity.name)) := .ownModule
  rw [hname, hmodule] at hemits
  exact ⟨result, hscan, model, hb, hv, entity, he, hemits,
    (Model.emitted_legal_iff hscan hb hv he).mpr hcode⟩

/-- An entity named like a keyword that has no raw form. -/
def crateProject : Folder :=
  .file "crate.rs" (.ofText "pub struct Crate \x7b #[db = \"primary_key\"] pub id: i64 \x7d") .empty

/-- A keyword without a raw form is written in raw form. -/
theorem not_all_emitted_legal :
    ¬ ∀ (root : Folder) (directory : String) (options : ScanOptions) (reader : Reader)
      (result : ScanResult) (cache : TagCache) (model : Model),
      root.scan directory options reader = .ok result →
        (Model.build cache result.declarations).1 = .ok model → model.validate.isValid = true →
          ∀ entity ∈ model.entities, ∀ name, entity.Emits model name → isLegalName name = true := by
  have hany : ∃ result, crateProject.scan "." {} {} = .ok result ∧
      ((Model.build {} result.declarations).1.toOption.any fun model =>
        model.validate.isValid && model.entities.any (·.name = "Crate")) = true :=
    ok_of_any (by decide +kernel)
  obtain ⟨result, hscan, hmodel⟩ := hany
  obtain ⟨model, hb, hm⟩ := ok_of_any hmodel
  simp only [Bool.and_eq_true, List.any_eq_true, decide_eq_true_eq] at hm
  obtain ⟨hv, entity, he, hname⟩ := hm
  intro hall
  have hlegal := hall _ _ _ _ result _ model hscan hb hv entity he _ .ownModule
  rw [hname] at hlegal
  exact absurd hlegal (by decide +kernel)

end SchemaCompiler
