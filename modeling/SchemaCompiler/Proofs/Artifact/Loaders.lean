import SchemaCompiler.Proofs.Project.Resolution
import SchemaCompiler.Proofs.Sql.Parameters
import SchemaCompiler.Proofs.Text.Split

/-!
# Loaders

A loader finds the rows on the other side of a relation by one column of the target. In a
valid model this column is there, and a statement that is run before the owner is deleted
looks at the same column of the same table. Relations through a join table are left out:
their keys are columns of that table.
-/

namespace SchemaCompiler

open Text Code Sql

-- ---------------------------------------------------------------------------
-- Columns of a relation
-- ---------------------------------------------------------------------------

/-- The column of the target that a relation's rows are found by, unless it is one of a join
table. -/
def Relation.matchKey? : Relation → Option String
  | belongsTo _ _ targetKey => some targetKey
  | hasOne _ foreignKey _ | hasMany _ foreignKey _ => some foreignKey
  | manyToMany .. => none

/-- The column with the key of the owner, of the target or of the join table. -/
def Relation.ownerKey? : Relation → Option String
  | belongsTo .. => none
  | hasOne _ foreignKey _ | hasMany _ foreignKey _ => some foreignKey
  | manyToMany _ _ joinSourceKey _ _ _ => some joinSourceKey

/-- The column with the type of the owner, where the other side may have several. -/
def Relationship.ownerType? (relationship : Relationship) : Option String :=
  match relationship.relation with
  | .hasOne .. | .hasMany .. => relationship.options.polymorphic.map (· ++ "_type")
  | .belongsTo .. | .manyToMany .. => none

namespace RelationsFile

variable {model : Model} {entity target : Entity} {field : RelationField} {key : String}

-- ---------------------------------------------------------------------------
-- Texts
-- ---------------------------------------------------------------------------

/-- The test that a row belongs to an owner of this type, where there may be several. -/
def ownerTypeText (entity : Entity) (field : RelationField) : String :=
  field.relationship.ownerType?.elim "" fun column =>
    " AND " ++ column ++ " = '" ++ entity.name ++ "'"

def loaderEnding (entity : Entity) (field : RelationField) : String :=
  ownerTypeText entity field ++
    field.relationship.options.conditions.elim "" (" AND (" ++ · ++ ")") ++
    field.relationship.options.orderBy.elim "" (" ORDER BY " ++ ·) ++
    (if field.relationship.kind ∈ [.belongsTo, .hasOne] then " LIMIT 1" else "")

def loaderText (entity : Entity) (field : RelationField) (target : Entity) (key : String) :
    String :=
  "SELECT " ++ join ", " target.columnNames ++ " FROM " ++ target.table ++
    " WHERE " ++ key ++ " = $1" ++ loaderEnding entity field

def dependentStart (action : DependentAction) (table key : String) : String :=
  match action with
  | .destroy | .delete => "DELETE FROM " ++ table
  | .nullify => "UPDATE " ++ table ++ " SET " ++ key ++ " = NULL"
  | .restrict => "SELECT COUNT(*) FROM " ++ table

def dependentText (action : DependentAction) (table key : String) : String :=
  dependentStart action table key ++ " WHERE " ++ key ++ " = $1"

theorem whereText_key (key : String) (rest : List Condition) :
    whereText (.equals key 1 :: rest) =
      " WHERE " ++ key ++ " = $1" ++ String.join (rest.map (" AND " ++ ·.text)) := by
  rw [whereText_cons, List.map_cons, join_cons, text_equals_one, List.map_map]
  simp only [String.append_assoc]
  rfl

theorem text_dependentOn (action : DependentAction) (table key : String) :
    (dependentOn action table key).statement.text = dependentText action table key := by
  have hwhere : whereText [.equals key 1] = " WHERE " ++ key ++ " = $1" := by
    simp only [whereText_key, List.map_nil, String.join_nil, String.append_empty]
  cases action with
  | destroy | delete =>
    show (Statement.delete table [.equals key 1]).text =
      "DELETE FROM " ++ table ++ " WHERE " ++ key ++ " = $1"
    rw [Statement.text_delete, hwhere]
    simp only [String.append_assoc]
  | nullify =>
    show (Statement.update table [.null key] [.equals key 1]).text =
      "UPDATE " ++ table ++ " SET " ++ key ++ " = NULL" ++ " WHERE " ++ key ++ " = $1"
    have hset : join ", " ([Assignment.null key].map Assignment.text) = key ++ " = NULL" := rfl
    rw [Statement.text_update, hset, hwhere]
    simp only [String.append_assoc]
  | restrict =>
    show (Statement.count table [.equals key 1]).text =
      "SELECT COUNT(*) FROM " ++ table ++ " WHERE " ++ key ++ " = $1"
    rw [Statement.text_count, hwhere]
    simp only [String.append_assoc]

theorem keyConditions_eq (h : field.relationship.relation.matchKey? = some key) :
    keyConditions entity field =
      .equals key 1 :: field.relationship.ownerType?.toList.map (.equalsText · entity.name) := by
  rw [keyConditions, Relationship.ownerType?]
  cases hr : field.relationship.relation with
  | belongsTo =>
    rw [hr] at h
    cases h
    rfl
  | hasOne | hasMany =>
    rw [hr] at h
    cases h
    rw [ownerTypeConditions]
    cases field.relationship.options.polymorphic <;> rfl
  | manyToMany =>
    rw [hr] at h
    cases h

theorem text_ownerType :
    String.join ((field.relationship.ownerType?.toList.map
      (Condition.equalsText · entity.name)).map (" AND " ++ ·.text)) =
        ownerTypeText entity field := by
  rw [ownerTypeText]
  cases field.relationship.ownerType? with
  | none => rfl
  | some column =>
    simp only [Option.toList_some, List.map_cons, List.map_nil, Condition.text,
      String.join_cons, String.join_nil, String.append_empty, Option.elim_some,
      String.append_assoc]

theorem loader_parts (h : field.relationship.relation.matchKey? = some key) :
    loaderColumns field target = target.columnNames ∧
      loaderSource field target = targetTable field target := by
  rw [loaderColumns, loaderSource]
  cases hr : field.relationship.relation with
  | belongsTo | hasOne | hasMany => exact ⟨rfl, rfl⟩
  | manyToMany =>
    rw [hr] at h
    cases h

theorem text_loader (h : field.relationship.relation.matchKey? = some key)
    (ht : targetTable field target = target.table) :
    (loader entity field target).text = loaderText entity field target key := by
  have hextra : String.join ((field.relationship.options.conditions.toList.map
      Condition.verbatim).map (" AND " ++ ·.text)) =
        field.relationship.options.conditions.elim "" (" AND (" ++ · ++ ")") := by
    cases field.relationship.options.conditions with
    | none => rfl
    | some extra =>
      simp only [Option.toList_some, List.map_cons, List.map_nil, Condition.text,
        String.join_cons, String.join_nil, String.append_empty, Option.elim_some,
        ← String.append_assoc]
      rfl
  have hlimit : (if !field.relationship.kind.isToMany then " LIMIT 1" else "") =
      if field.relationship.kind ∈ [.belongsTo, .hasOne] then " LIMIT 1" else "" := by
    cases field.relationship.kind <;> rfl
  obtain ⟨hcolumns, hsource⟩ := @loader_parts target field key h
  rw [ht] at hsource
  rw [loader, Statement.text_select, conditions, keyConditions_eq h, List.cons_append,
    whereText_key, List.map_append, String.join_append, text_ownerType, hextra, hlimit, hcolumns,
    hsource, loaderText, loaderEnding]
  simp only [String.append_assoc]

theorem parameters_loader (h : field.relationship.relation.matchKey? = some key) :
    (loader entity field target).parameters = [1] := by
  rw [loader, Statement.parameters, conditions, keyConditions_eq h]
  cases field.relationship.ownerType? <;> cases field.relationship.options.conditions <;> rfl

-- ---------------------------------------------------------------------------
-- Constants of a relation
-- ---------------------------------------------------------------------------

theorem relationConstants_of_get? (h : model.get? field.relationship.target = some target) :
    relationConstants model entity field =
      .ok (loaderConstant entity field target :: (dependentConstant? field target).toList) := by
  rw [relationConstants, h]

theorem dependentConstant?_eq_some {constant : Constant}
    (h : dependentConstant? field target = some constant) :
    ∃ action dependent, field.relationship.options.dependent = some action ∧
      dependent? action field target = some dependent ∧
        constant.name = constantName field.fieldName ++ "_" ++ dependent.ending ∧
          constant.value = .inline (quoted dependent.statement.text) := by
  obtain ⟨action, haction, hdependent⟩ := Option.bind_eq_some_iff.mp h
  obtain ⟨dependent, hd, rfl⟩ := Option.map_eq_some_iff.mp hdependent
  exact ⟨action, dependent, haction, hd, rfl, rfl⟩

/-- A dependent statement is about the rows with the key of the owner: those of the target,
with which the action is done, or those of the join table, which are always deleted. -/
theorem dependent?_cases {action : DependentAction} {dependent : Dependent}
    (h : dependent? action field target = some dependent) :
    (∃ key, field.relationship.relation.matchKey? = some key ∧
      field.relationship.relation.ownerKey? = some key ∧
      field.relationship.kind ≠ .manyToMany ∧
      dependent = dependentOn action (targetTable field target) key) ∨
    ∃ table key, field.relationship.relation.matchKey? = none ∧
      field.relationship.relation.ownerKey? = some key ∧
      field.relationship.kind = .manyToMany ∧
      dependent = ⟨"DEPENDENT", .delete table [.equals key 1]⟩ := by
  rw [dependent?] at h
  rw [Relationship.kind]
  cases hr : field.relationship.relation with
  | belongsTo =>
    rw [hr] at h
    cases h
  | hasOne _ key | hasMany _ key =>
    rw [hr] at h
    cases h
    exact .inl ⟨key, rfl, rfl, by simp [Relation.kind], rfl⟩
  | manyToMany _ table key =>
    rw [hr] at h
    cases h
    exact .inr ⟨table, key, rfl, rfl, rfl, rfl⟩

theorem text_dependent (h : field.relationship.relation.matchKey? = some key)
    {action : DependentAction} {dependent : Dependent}
    (hd : dependent? action field target = some dependent) :
    dependent.statement.text = dependentText action (targetTable field target) key := by
  rcases dependent?_cases hd with ⟨_, hmatch, -, -, rfl⟩ | ⟨table, _, hmatch, -⟩
  · obtain rfl : key = _ := Option.some.inj (h.symm.trans hmatch)
    exact text_dependentOn action _ key
  · cases h.symm.trans hmatch

end RelationsFile

-- ---------------------------------------------------------------------------
-- Relations of valid models
-- ---------------------------------------------------------------------------

variable {model built : Model} {entity target : Entity} {field : RelationField} {key : String}

theorem RelationField.Joins.key_mem (h : field.Joins entity target)
    (hk : field.relationship.relation.matchKey? = some key) : key ∈ target.columnNames := by
  rw [Joins] at h
  cases hr : field.relationship.relation with
  | belongsTo =>
    rw [hr] at h hk
    cases hk
    exact h.2
  | hasOne | hasMany =>
    rw [hr] at h hk
    cases hk
    exact h.1
  | manyToMany =>
    rw [hr] at hk
    cases hk

namespace Model

/-- The target of a relation with a key, which has the key as a column and the table that the
relation's rows are in. -/
structure Matches (model : Model) (field : RelationField) (key : String) (target : Entity) :
    Prop where
  found : model.get? field.relationship.target = some target
  column : key ∈ target.columnNames
  table : RelationsFile.targetTable field target = target.table

theorem exists_matches (hb : ∃ cache declarations, (build cache declarations).1 = .ok model)
    (hv : model.validate.isValid = true) (he : entity ∈ model.entities)
    (hf : field ∈ entity.relations)
    (hk : field.relationship.relation.matchKey? = some key) :
    ∃ target, model.Matches field key target := by
  obtain ⟨cache, declarations, hb⟩ := hb
  obtain ⟨target, ht, hname, hjoins⟩ :=
    ((wellFormed_of_isValid hb hv).entities entity he).relations field hf
  have htable : field.targetTable = none := unresolved_of_build hb entity he field hf
  refine ⟨target, (get?_eq_some_iff (coherent_of_build hb).names).mpr ⟨ht, hname⟩,
    hjoins.key_mem hk, ?_⟩
  rw [RelationsFile.targetTable, htable]
  rfl

theorem Matches.resolve {original : RelationField} (h : model.Matches original key target) :
    model.resolve.Matches (model.resolveRelation original) key (model.resolveEntity target) where
  found := by rw [relationship_resolveRelation, get?_resolve, h.found]; rfl
  column := h.column
  table := by
    rw [RelationsFile.targetTable, resolveRelation, targetTable?, lookup_tables, h.found]
    rfl

end Model

namespace RelationsFile

/-- The constants of a relation whose rows are found by one column of its target. -/
structure FindsBy (entity : Entity) (field : RelationField) (target : Entity) (key : String)
    (constant : Constant) (dependents : List Constant) : Prop where
  column : key ∈ target.columnNames
  name : constant.name = constantName field.fieldName
  value : constant.value = .inline (quoted (loaderText entity field target key))
  parameters : (loader entity field target).parameters = [1]
  /-- The text shows the only parameter and no other. -/
  shown : (∀ word ∈ (loader entity field target).words, '$' ∉ word.toList) →
    parametersIn (loaderText entity field target key).toList = [1]
  single : field.relationship.kind.isToMany = false →
    ∃ start, loaderText entity field target key = start ++ " LIMIT 1"
  dependents : ∀ dependent ∈ dependents, ∃ action,
    field.relationship.options.dependent = some action ∧
      dependent.value = .inline (quoted (dependentText action target.table key))

theorem findsBy (h : model.Matches field key target)
    (hk : field.relationship.relation.matchKey? = some key) :
    FindsBy entity field target key (loaderConstant entity field target)
      (dependentConstant? field target).toList where
  column := h.column
  name := rfl
  value := by
    rw [← text_loader hk h.table]
    rfl
  parameters := parameters_loader hk
  shown := by
    intro hno
    rw [← text_loader hk h.table, Statement.parametersIn_text hno, parameters_loader hk]
  single := by
    intro hmany
    have hkind : field.relationship.kind ∈ [RelationKind.belongsTo, .hasOne] := by
      cases hr : field.relationship.kind <;> simp_all [RelationKind.isToMany]
    rw [loaderText, loaderEnding, if_pos hkind]
    exact ⟨_, (String.append_assoc ..).symm⟩
  dependents := by
    intro constant hc
    obtain ⟨action, dependent, haction, hd, -, hvalue⟩ :=
      dependentConstant?_eq_some (Option.mem_toList.mp hc)
    rw [text_dependent hk hd, h.table] at hvalue
    exact ⟨action, haction, hvalue⟩

end RelationsFile

/-- In a valid model, before and after its targets are resolved, the loader of a relation
without a join table selects the columns of the target by a column that the target has, and
its dependent statement looks at the same column of the same table. -/
theorem Model.loaders_of_isValid {cache : TagCache} {declarations : List Declaration}
    (hb : (build cache declarations).1 = .ok built) (hv : built.validate.isValid = true)
    (hm : model = built ∨ model = built.resolve) (he : entity ∈ model.entities)
    (hf : field ∈ entity.relations)
    (hk : field.relationship.relation.matchKey? = some key) :
    ∃ target constant dependents, model.get? field.relationship.target = some target ∧
      RelationsFile.relationConstants model entity field = .ok (constant :: dependents) ∧
      RelationsFile.FindsBy entity field target key constant dependents := by
  have hmatches : ∃ target, model.Matches field key target := by
    rcases hm with rfl | rfl
    · exact exists_matches ⟨cache, declarations, hb⟩ hv he hf hk
    · obtain ⟨original, ho, rfl⟩ := List.mem_map.mp he
      obtain ⟨relation, hr, rfl⟩ := List.mem_map.mp hf
      obtain ⟨target, ht⟩ := exists_matches ⟨cache, declarations, hb⟩ hv ho hr hk
      exact ⟨_, ht.resolve⟩
  obtain ⟨target, ht⟩ := hmatches
  exact ⟨target, _, _, ht.found, RelationsFile.relationConstants_of_get? ht.found,
    RelationsFile.findsBy ht hk⟩

/-- Users with an avatar, which others may own as well, and with sessions. -/
def sessions : List Declaration := [
  { name := "User"
    file := "user.rs"
    line := 1
    fields := [
      { name := "id", type := { base := "i64" }, attributes := some "primary_key", line := 2 },
      { name := "avatar", type := { base := "Avatar", isPointer := true },
        relationship := some ("has_one:Avatar,foreign_key:owner_id,polymorphic:owner," ++
          "dependent:nullify"), line := 3 },
      { name := "sessions", type := { base := "Session", isCollection := true },
        relationship := some ("has_many:Session,foreign_key:user_id," ++
          "conditions:revoked = false,order_by:id DESC,dependent:restrict"), line := 4 } ] },
  { name := "Avatar"
    file := "avatar.rs"
    line := 1
    fields := [
      { name := "id", type := { base := "i64" }, attributes := some "primary_key", line := 2 },
      { name := "owner_id", type := { base := "i64" }, line := 3 },
      { name := "owner_type", type := { base := "String" }, line := 4 } ] },
  { name := "Session"
    file := "session.rs"
    line := 1
    fields := [
      { name := "id", type := { base := "i64" }, attributes := some "primary_key", line := 2 },
      { name := "user_id", type := { base := "i64" }, line := 3 },
      { name := "revoked", type := { base := "bool" }, line := 4 } ] } ]

theorem loaders_of_sessions :
    ∃ model, (Model.build {} sessions).1 = .ok model ∧ model.validate.isValid = true ∧
      ∃ entity ∈ model.entities, ∃ field ∈ entity.relations,
        field.relationship.relation.matchKey? = some "owner_id" ∧
          RelationsFile.loaderEnding entity field = " AND owner_type = 'User' LIMIT 1" ∧
            ∃ target constant dependents, model.get? field.relationship.target = some target ∧
              RelationsFile.relationConstants model entity field = .ok (constant :: dependents) ∧
              RelationsFile.FindsBy entity field target "owner_id" constant dependents := by
  have hany : ∃ model, (Model.build {} sessions).1 = .ok model ∧
      (model.validate.isValid && model.entities.any fun entity =>
        entity.relations.any fun field =>
          decide (field.relationship.relation.matchKey? = some "owner_id") &&
            decide (RelationsFile.loaderEnding entity field =
              " AND owner_type = 'User' LIMIT 1")) = true :=
    Model.built_of_any (by decide +kernel)
  obtain ⟨model, hb, hm⟩ := hany
  simp only [Bool.and_eq_true, List.any_eq_true, decide_eq_true_eq] at hm
  obtain ⟨hv, entity, he, field, hf, hk, hending⟩ := hm
  exact ⟨model, hb, hv, entity, he, field, hf, hk, hending,
    Model.loaders_of_isValid hb hv (.inl rfl) he hf hk⟩

end SchemaCompiler
