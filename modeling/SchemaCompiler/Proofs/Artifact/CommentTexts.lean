import SchemaCompiler.Proofs.Artifact.LineBreaks
import SchemaCompiler.Proofs.Artifact.Loaders

/-!
# Texts in comments

The comment of a column, the `through` option of a relation and the name of its join table
are free texts, which are written into comments as they are. Everything else that a file of
column descriptors or loaders is made of stays in its line. So the file of a valid model has
the lines that the template writes and one more for every newline in these texts.
-/

namespace SchemaCompiler

open Text Code

-- ---------------------------------------------------------------------------
-- Free texts
-- ---------------------------------------------------------------------------

def Entity.comments (entity : Entity) : List String :=
  entity.columns.filterMap (·.comment)

def Relation.joinTable? : Relation → Option String
  | .manyToMany _ joinTable .. => some joinTable
  | .belongsTo .. | .hasOne .. | .hasMany .. => none

def RelationField.commentTexts (field : RelationField) : List String :=
  field.relationship.relation.joinTable?.toList ++ field.relationship.options.through.toList

/-- The texts of tags that are written into the comments of a file. -/
def Model.commentTexts (model : Model) : ArtifactKind → List String
  | .columns => model.entities.flatMap (·.comments)
  | .relations => model.withRelations.flatMap fun entity =>
    entity.relations.flatMap (·.commentTexts)
  | .repository | .query | .root => []

/-- The names of entities that are written into the comments of a file. -/
def Model.commentNames (model : Model) : ArtifactKind → List String
  | .columns => model.names
  | .relations => model.withRelations.flatMap fun entity =>
    entity.name :: entity.relations.map (·.relationship.target)
  | .repository | .query | .root => []

-- ---------------------------------------------------------------------------
-- Models without free texts
-- ---------------------------------------------------------------------------

/-- A column with an empty comment, if it has one, and without the tag it is read from. -/
def Column.withoutText (column : Column) : Column :=
  { column with comment := column.comment.map fun _ => "", attributes := {}, line := 0 }

def Relation.withoutText : Relation → Relation
  | .manyToMany target _ joinSourceKey joinTargetKey sourceKey targetKey =>
    .manyToMany target "" joinSourceKey joinTargetKey sourceKey targetKey
  | relation => relation

def Relationship.withoutText (relationship : Relationship) : Relationship :=
  { relation := relationship.relation.withoutText
    options :=
      { relationship.options with through := relationship.options.through.map fun _ => "" } }

def RelationField.withoutText (field : RelationField) : RelationField :=
  { field with tag := "", relationship := field.relationship.withoutText, line := 0 }

def Entity.withoutTexts (entity : Entity) : Entity :=
  { entity with
    columns := entity.columns.map Column.withoutText
    relations := entity.relations.map RelationField.withoutText
    attributes := {} }

/-- Models that differ only in free texts and in the tags that these stand in. -/
def Model.AlikeButTexts (model other : Model) : Prop :=
  model.entities.map Entity.withoutTexts = other.entities.map Entity.withoutTexts

instance (model other : Model) : Decidable (model.AlikeButTexts other) :=
  inferInstanceAs (Decidable (_ = _))

-- ---------------------------------------------------------------------------
-- Names of valid models
-- ---------------------------------------------------------------------------

/-- An entity whose table and columns have names of one line. -/
structure Entity.Neat (entity : Entity) : Prop where
  table : OneLine entity.table
  columns : ∀ name ∈ entity.columnNames, OneLine name

theorem oneLine_of_isTableName {name : String} (h : isTableName name = true) : OneLine name := by
  intro hn
  obtain ⟨word, hw, hc⟩ := (mem_pieces_iff (by decide : '\n' ≠ '_')).mpr hn
  have hword := List.all_eq_true.mp h word hw
  rw [Bool.and_eq_true, List.all_eq_true] at hword
  exact absurd (hword.2 _ hc) (by decide)

theorem oneLine_of_isIdentifier {name : String} (h : Sql.isIdentifier name = true) :
    OneLine name := by
  intro hn
  have hseparator := (Naming.spelled_of_isIdentifier h).isSeparator hn
  exact absurd hseparator (by decide)

theorem Model.neat_of_isValid {cache : TagCache} {declarations : List Declaration} {model : Model}
    (hb : (build cache declarations).1 = .ok model) (hv : model.validate.isValid = true)
    {entity : Entity} (he : entity ∈ model.entities) : entity.Neat := by
  have hwell := wellFormed_of_isValid hb hv
  obtain ⟨declaration, -, hfrom⟩ := from_of_build hb entity he
  refine ⟨oneLine_of_isTableName (hwell.tableNames entity he), fun name hn => ?_⟩
  obtain ⟨column, hc, rfl⟩ := List.mem_map.mp hn
  have htag := ((hwell.entities entity he).columns column hc).tag
  obtain ⟨field, -, attributes, rfl⟩ := hfrom.column hc
  rw [Column.ofField]
  cases hgiven : attributes.value? "column" with
  | some given =>
    exact oneLine_of_isIdentifier (Attributes.isIdentifier_of_value? htag hgiven)
  | none => exact Naming.oneLine_snake field.name

theorem breaks_title {entity : Entity} (h : entity.Neat) {start : String} (hs : OneLine start) :
    breaks (start ++ entity.table ++ "` (" ++ entity.name ++ ")") = breaks entity.name := by
  have hfixed : breaks "` (" = 0 ∧ breaks ")" = 0 := by decide
  simp only [breaks_append, hs.breaks_eq, h.table.breaks_eq, hfixed, Nat.zero_add, Nat.add_zero]

-- ---------------------------------------------------------------------------
-- Column descriptors
-- ---------------------------------------------------------------------------

namespace ColumnsFile

variable {entity : Entity} {column : Column}

theorem oneLine_columnConstantName (column : Column) : OneLine (columnConstantName column) := by
  rw [columnConstantName]
  split
  · exact oneLine_append.mpr ⟨oneLine_constantName _, by decide⟩
  · exact oneLine_constantName _

theorem innerBreaks_descriptor (column : Column) : innerBreaks (descriptor column) = 0 := by
  have hfixed : OneLine "Column" ∧ OneLine "," := by decide
  rw [descriptor, innerBreaks_block, hfixed.1.breaks_eq, hfixed.2.breaks_eq, Nat.zero_add,
    Nat.add_zero, innerBreaks_eq_zero_iff]
  simp only [List.forall_mem_cons, oneLine_append, oneLine_quoted, oneLine_boolLiteral,
    oneLine_optionLiteral, and_true]
  decide

theorem oneLine_indexDescriptor (index : Index) : OneLine (indexDescriptor index) := by
  simp only [indexDescriptor, braced, oneLine_append, oneLine_quoted, oneLine_slice,
    oneLine_boolLiteral, and_true]
  decide

theorem tight_enumConstant {constraint : Constraint} {constant : Constant}
    (h : enumConstant? constraint = some constant) : constant.Tight := by
  rw [enumConstant?] at h
  split at h
  · cases h
    exact .inline (oneLine_append.mpr ⟨oneLine_constantName _, by decide⟩) (by decide)
      (oneLine_slice _)
  · cases h

theorem tight_of_mem_constantGroups {constant : Constant}
    (h : constant ∈ (constantGroups entity).flatten) : constant.Tight := by
  rw [constantGroups, List.flatten_append, List.mem_append] at h
  rcases h with hfixed | hvalues
  · simp only [List.flatten_cons, List.flatten_nil, List.append_nil, List.mem_append,
      List.mem_cons, List.not_mem_nil, or_false, List.mem_map] at hfixed
    rcases hfixed with (rfl | ⟨column, -, rfl⟩) | (rfl | rfl) | rfl | rfl | rfl
    · exact .inline (by decide) (by decide) (oneLine_quoted _)
    · exact .inline (oneLine_columnConstantName column) (by decide) (oneLine_quoted _)
    · exact .inline (by decide) (by decide) (oneLine_slice _)
    · exact .inline (by decide) (by decide) (oneLine_slice _)
    · refine .items (by decide) (by decide) fun line hl => ?_
      obtain ⟨column, -, hcolumn⟩ := List.mem_flatMap.mp hl
      exact innerBreaks_eq_zero_iff.mp (innerBreaks_descriptor column) line hcolumn
    · refine .items (by decide) (by decide) fun line hl => ?_
      obtain ⟨index, -, rfl⟩ := List.mem_map.mp hl
      exact oneLine_indexDescriptor index
    · exact .inline (by decide) (by decide) (oneLine_slice _)
  · obtain ⟨group, hg, hc⟩ := List.mem_flatten.mp hvalues
    obtain ⟨value, hv, rfl⟩ := List.mem_map.mp hg
    obtain rfl := List.mem_singleton.mp hc
    obtain ⟨constraint, -, hconstant⟩ := List.mem_filterMap.mp hv
    exact tight_enumConstant hconstant

theorem docs_constantGroups (entity : Entity) :
    (constantGroups entity).flatten.flatMap (·.docs) =
      entity.comments ++ (entity.constraints.filterMap enumConstant?).flatMap (·.docs) := by
  have hcolumns : (entity.columns.map columnConstant).flatMap (·.docs) = entity.comments := by
    rw [List.flatMap_map, Entity.comments, List.filterMap_eq_flatMap_toList]
    rfl
  have hvalues : ((entity.constraints.filterMap enumConstant?).map fun constant =>
      [constant]).flatten = entity.constraints.filterMap enumConstant? := by
    rw [← List.flatMap_def, List.flatMap_singleton']
  rw [constantGroups, List.flatten_append, List.flatMap_append, hvalues, ← hcolumns]
  simp

theorem oneLine_docs_enumConstant (hn : entity.Neat) (ha : entity.Assembled)
    {constraint : Constraint} (hk : constraint ∈ entity.constraints) {constant : Constant}
    (h : enumConstant? constraint = some constant) : ∀ doc ∈ constant.docs, OneLine doc := by
  obtain ⟨name, kind⟩ := constraint
  rw [enumConstant?] at h
  split at h
  · rename_i column values hkind
    obtain rfl : kind = .enumeration column values := hkind
    cases h
    refine List.forall_mem_singleton.mpr ?_
    have hcolumn : OneLine column := hn.columns column (ha.mem_columnNames_of_enumeration hk)
    exact oneLine_append.mpr ⟨oneLine_append.mpr ⟨by decide, hcolumn⟩, by decide⟩
  · cases h

theorem innerBreaks_entityModule (hn : entity.Neat) (ha : entity.Assembled) :
    innerBreaks (entityModule entity) = breaks entity.name + innerBreaks entity.comments := by
  have hvalues :
      innerBreaks ((entity.constraints.filterMap enumConstant?).flatMap (·.docs)) = 0 := by
    rw [innerBreaks_eq_zero_iff]
    intro doc hd
    obtain ⟨constant, hc, hd⟩ := List.mem_flatMap.mp hd
    obtain ⟨constraint, hk, hconstant⟩ := List.mem_filterMap.mp hc
    exact oneLine_docs_enumConstant hn ha hk hconstant doc hd
  have hgroups : innerBreaks ((constantGroups entity).map (·.flatMap Constant.lines)).flatten =
      innerBreaks entity.comments := by
    rw [innerBreaks_constantGroups fun _ hc => tight_of_mem_constantGroups hc,
      docs_constantGroups, innerBreaks_append, hvalues, Nat.add_zero]
  have huse : OneLine ("use super::" ++ opening ++ "Column, Index" ++ closing ++ ";") ∧
      OneLine "" := by decide
  rw [entityModule, innerBreaks_cons, breaks_title hn (by decide), innerBreaks_block,
    innerBreaks_paragraphs, List.flatten_cons, innerBreaks_append, hgroups, innerBreaks_cons,
    huse.1.breaks_eq, (oneLine_moduleHead _).breaks_eq, huse.2.breaks_eq]
  simp only [innerBreaks_nil, Nat.zero_add, Nat.add_zero]

theorem innerBreaks_body {model : Model}
    (h : ∀ entity ∈ model.entities, entity.Neat ∧ entity.Assembled) :
    innerBreaks (body model).flatten =
      innerBreaks (model.commentNames .columns) + innerBreaks (model.commentTexts .columns) := by
  have hfixed : innerBreaks (["//! Column descriptors for every entity."] ++ columnType ++
      indexType) = 0 := by decide +kernel
  have hmodules : innerBreaks (model.entities.map entityModule).flatten =
      innerBreaks (model.entities.flatMap fun entity => [entity.name] ++ entity.comments) := by
    rw [← List.flatMap_def]
    refine innerBreaks_flatMap_congr fun entity he => ?_
    rw [innerBreaks_entityModule (h entity he).1 (h entity he).2]
    rfl
  rw [innerBreaks_flatMap_append, ← List.map_eq_flatMap] at hmodules
  simp only [body, List.flatten_cons, ← List.append_assoc]
  rw [innerBreaks_append, hfixed, hmodules, Nat.zero_add]
  rfl

end ColumnsFile

-- ---------------------------------------------------------------------------
-- Relationship loaders
-- ---------------------------------------------------------------------------

namespace RelationsFile

variable {model : Model} {entity target : Entity} {field : RelationField}

/-- The keys of a relation are columns, so only the target's name and that of the join table
may have newlines. -/
theorem breaks_loaderDoc (he : entity.Neat) (ht : target.Neat) (htable : field.targetTable = none)
    (hj : field.Joins entity target) :
    breaks (loaderDoc entity field target) =
      breaks target.name + innerBreaks field.relationship.relation.joinTable?.toList := by
  have hsource : OneLine (targetTable field target) := by
    rw [targetTable, htable]
    exact ht.table
  have hkind : OneLine field.relationship.kind.name := by
    cases field.relationship.kind <;> decide
  rw [RelationField.Joins] at hj
  rw [loaderDoc]
  cases hr : field.relationship.relation with
  | belongsTo _ foreignKey =>
    rw [hr] at hj
    have hkey : OneLine foreignKey := he.columns _ hj.1
    have hfixed : breaks "belongs_to " = 0 ∧ breaks " via `" = 0 ∧ breaks "." = 0 ∧
        breaks "`" = 0 := by decide
    simp [hfixed, he.table.breaks_eq, hkey.breaks_eq, Relation.joinTable?]
  | hasOne _ foreignKey sourceKey | hasMany _ foreignKey sourceKey =>
    rw [hr] at hj
    have hkeys : OneLine foreignKey ∧ OneLine sourceKey :=
      ⟨ht.columns _ hj.1, he.columns _ hj.2⟩
    have hfixed : breaks " " = 0 ∧ breaks " via `" = 0 ∧ breaks "." = 0 ∧
        breaks "` (key: `" = 0 ∧ breaks "`)" = 0 := by decide
    simp [hfixed, hsource.breaks_eq, hkind.breaks_eq, hkeys.1.breaks_eq, hkeys.2.breaks_eq,
      Relation.joinTable?]
  | manyToMany _ joinTable =>
    have hfixed : breaks "many_to_many " = 0 ∧ breaks " through `" = 0 ∧ breaks "`" = 0 := by
      decide
    simp [hfixed, Relation.joinTable?]

theorem innerBreaks_through (through : Option String) :
    innerBreaks (through.toList.map fun through => "Through `" ++ through ++ "`") =
      innerBreaks through.toList := by
  have hfixed : breaks "Through `" = 0 ∧ breaks "`" = 0 := by decide
  cases through <;> simp [hfixed]

theorem tight_loaderConstant : (loaderConstant entity field target).Tight :=
  .inline (oneLine_constantName _) (by decide) (oneLine_quoted _)

theorem tight_dependentConstant {constant : Constant}
    (h : dependentConstant? field target = some constant) : constant.Tight := by
  have hname : field.dependentName? = some constant.name := by
    rw [← name_dependentConstant?, h]
    rfl
  obtain ⟨ending, hending, he⟩ := Option.map_eq_some_iff.mp hname
  have hendings : ∀ ending ∈ ["DEPENDENT", "DEPENDENT_COUNT"], OneLine ending := by decide
  have hline : OneLine constant.name := by
    rw [← he]
    exact oneLine_append.mpr ⟨oneLine_append.mpr ⟨oneLine_constantName _, by decide⟩,
      hendings ending (dependentEnding?_mem hending)⟩
  obtain ⟨action, -, hdependent⟩ := Option.bind_eq_some_iff.mp h
  obtain ⟨dependent, -, rfl⟩ := Option.map_eq_some_iff.mp hdependent
  exact .inline hline (by decide) (oneLine_quoted _)

theorem oneLine_docs_dependentConstant {constant : Constant}
    (h : dependentConstant? field target = some constant) : ∀ doc ∈ constant.docs, OneLine doc := by
  obtain ⟨action, -, hdependent⟩ := Option.bind_eq_some_iff.mp h
  obtain ⟨dependent, -, rfl⟩ := Option.map_eq_some_iff.mp hdependent
  have haction : OneLine action.name := by cases action <;> decide
  refine List.forall_mem_singleton.mpr ?_
  exact oneLine_append.mpr ⟨oneLine_append.mpr ⟨by decide, haction⟩, by decide⟩

/-- A relation of an entity with its target in the model, which it can be joined with. -/
structure Reaches (model : Model) (entity : Entity) (field : RelationField) (target : Entity) :
    Prop where
  found : model.get? field.relationship.target = some target
  name : target.name = field.relationship.target
  neat : target.Neat
  unresolved : field.targetTable = none
  joins : field.Joins entity target

theorem innerBreaks_relationConstants (he : entity.Neat) (h : Reaches model entity field target)
    {constants : List Constant} (hc : relationConstants model entity field = .ok constants) :
    innerBreaks (constants.flatMap Constant.lines) =
      innerBreaks ([field.relationship.target] ++ field.commentTexts) := by
  rw [relationConstants_of_get? h.found] at hc
  cases hc
  have hdependent : innerBreaks ((dependentConstant? field target).toList.flatMap Constant.lines) =
      0 := by
    cases hd : dependentConstant? field target with
    | none => rfl
    | some constant =>
      rw [Option.toList_some, List.flatMap_singleton,
        (tight_dependentConstant hd).innerBreaks_lines]
      exact innerBreaks_eq_zero_iff.mpr (oneLine_docs_dependentConstant hd)
  rw [List.flatMap_cons, innerBreaks_append, hdependent, Nat.add_zero,
    tight_loaderConstant.innerBreaks_lines, loaderConstant, statementConstant, innerBreaks_cons,
    innerBreaks_through, breaks_loaderDoc he h.neat h.unresolved h.joins, h.name,
    RelationField.commentTexts, List.singleton_append, innerBreaks_cons, innerBreaks_append,
    Nat.add_assoc]

theorem innerBreaks_moduleLines (he : entity.Neat)
    (h : ∀ field ∈ entity.relations, ∃ target, Reaches model entity field target)
    {groups : List (List Constant)} (hg : moduleConstants model entity = .ok groups) :
    innerBreaks (moduleLines entity groups) =
      innerBreaks ((entity.name :: entity.relations.map (·.relationship.target)) ++
        entity.relations.flatMap (·.commentTexts)) := by
  have hgroups : innerBreaks (groups.map (·.flatMap Constant.lines)).flatten =
      innerBreaks (entity.relations.map (·.relationship.target)) +
        innerBreaks (entity.relations.flatMap (·.commentTexts)) := by
    rw [← List.flatMap_def, List.map_eq_flatMap, ← innerBreaks_flatMap_append]
    refine innerBreaks_flatMap_of_mapM hg fun field hf constants hc => ?_
    obtain ⟨target, ht⟩ := h field hf
    exact innerBreaks_relationConstants he ht hc
  have hempty : breaks "" = 0 := by decide
  rw [moduleLines, innerBreaks_cons, innerBreaks_block, innerBreaks_paragraphs, hgroups,
    (oneLine_moduleHead _).breaks_eq, breaks_title he (by decide), hempty, innerBreaks_append,
    innerBreaks_cons]
  omega

theorem innerBreaks_body (hn : ∀ entity ∈ model.entities, entity.Neat)
    (h : ∀ entity ∈ model.entities, ∀ field ∈ entity.relations,
      ∃ target, Reaches model entity field target)
    {groups : List (List String)} (hg : body model = .ok groups) :
    innerBreaks groups.flatten =
      innerBreaks (model.commentNames .relations) +
        innerBreaks (model.commentTexts .relations) := by
  simp only [body, bind_ok_iff, pure_ok_iff] at hg
  obtain ⟨modules, hm, rfl⟩ := hg
  have hmodules : innerBreaks modules.flatten =
      innerBreaks (model.withRelations.flatMap fun entity =>
        (entity.name :: entity.relations.map (·.relationship.target)) ++
          entity.relations.flatMap (·.commentTexts)) := by
    rw [← List.flatMap_id]
    refine innerBreaks_flatMap_of_mapM hm fun entity he ls hl => ?_
    simp only [entityModule, bind_ok_iff, pure_ok_iff] at hl
    obtain ⟨constants, hc, rfl⟩ := hl
    have hmem := (List.mem_filter.mp he).1
    exact innerBreaks_moduleLines (hn entity hmem) (h entity hmem) hc
  have hfixed : OneLine
      "//! Relationship loaders. Every statement takes the owning row's key as `$1`." := by decide
  rw [innerBreaks_flatMap_append] at hmodules
  rw [List.flatten_cons, innerBreaks_append, hmodules, innerBreaks_cons, hfixed.breaks_eq,
    innerBreaks_nil, Nat.zero_add]
  rfl

end RelationsFile

end SchemaCompiler
