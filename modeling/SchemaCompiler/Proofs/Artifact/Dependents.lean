import SchemaCompiler.Proofs.Artifact.Loaders

/-!
# Dependent statements

Before an owner is deleted its dependent statement should look at the rows of this owner and
at no others, and should only count them where they keep the owner. The exact relations are
given for which it does. A relation that names the type of its owner has the type in its
loader, but not in its dependent statement; a relation through a join table deletes the rows
of that table whatever the action is.
-/

namespace SchemaCompiler

open Text Code Sql

-- ---------------------------------------------------------------------------
-- Rows
-- ---------------------------------------------------------------------------

namespace Sql

/-- The values of a row by their columns. A column that is null or not there has none. -/
def Row := String → Option String

/-- The values of the parameters, and what conditions mean that are kept as written. -/
structure Valuation where
  parameter : Nat → String
  means : String → Row → Prop

def Condition.Holds (valuation : Valuation) (row : Row) : Condition → Prop
  | equals column n => row column = some (valuation.parameter n)
  | equalsText column text => row column = some text
  | verbatim text => valuation.means text row

def Statement.conditions : Statement → List Condition
  | select _ _ conditions _ _ | count _ conditions | update _ _ conditions
  | delete _ conditions => conditions
  | insert .. => []

/-- A row of its table that a statement reads, changes or deletes. -/
def Statement.Covers (statement : Statement) (valuation : Valuation) (row : Row) : Prop :=
  ∀ condition ∈ statement.conditions, condition.Holds valuation row

end Sql

-- ---------------------------------------------------------------------------
-- Owned rows
-- ---------------------------------------------------------------------------

/-- A row belongs to the owner with this key through a relation of the entity. -/
structure RelationField.Owns (entity : Entity) (field : RelationField) (owner : String)
    (row : Row) : Prop where
  key : ∀ column, field.relationship.relation.ownerKey? = some column → row column = some owner
  type : ∀ column, field.relationship.ownerType? = some column → row column = some entity.name

def DependentAction.OnlyCounts (action : DependentAction) (statement : Statement) : Prop :=
  action = .restrict → ∃ table conditions, statement = .count table conditions

def RelationField.NamesOwner (entity : Entity) (field : RelationField) (statement : Statement) :
    Prop :=
  ∀ column, field.relationship.ownerType? = some column →
    .equalsText column entity.name ∈ statement.conditions

def RelationField.CoversOwned (entity : Entity) (field : RelationField)
    (statement : Statement) : Prop :=
  ∀ valuation row, statement.Covers valuation row →
    field.Owns entity (valuation.parameter 1) row

namespace RelationsFile

variable {model : Model} {entity target : Entity} {field : RelationField}
  {action : DependentAction} {dependent : Dependent}

theorem conditions_dependentOn (action : DependentAction) (table key : String) :
    (dependentOn action table key).statement.conditions = [.equals key 1] := by
  cases action <;> rfl

theorem conditions_dependent (h : dependent? action field target = some dependent) :
    ∃ key, field.relationship.relation.ownerKey? = some key ∧
      dependent.statement.conditions = [.equals key 1] := by
  rcases dependent?_cases h with ⟨key, -, hkey, -, rfl⟩ | ⟨table, key, -, hkey, -, rfl⟩
  · exact ⟨key, hkey, conditions_dependentOn action _ key⟩
  · exact ⟨key, hkey, rfl⟩

theorem onlyCounts_iff (h : dependent? action field target = some dependent) :
    action.OnlyCounts dependent.statement ↔
      ¬ (action = .restrict ∧ field.relationship.kind = .manyToMany) := by
  rw [DependentAction.OnlyCounts, not_and]
  refine forall_congr' fun haction => ?_
  subst haction
  rcases dependent?_cases h with ⟨key, -, -, hkind, rfl⟩ | ⟨table, key, -, -, hkind, rfl⟩
  · exact iff_of_true ⟨_, _, rfl⟩ hkind
  · refine iff_of_false ?_ (not_not_intro hkind)
    rintro ⟨table, conditions, hcount⟩
    cases hcount

theorem namesOwner_iff (h : dependent? action field target = some dependent) :
    field.NamesOwner entity dependent.statement ↔ field.relationship.ownerType? = none := by
  obtain ⟨key, -, hconditions⟩ := conditions_dependent h
  rw [RelationField.NamesOwner, hconditions, Option.eq_none_iff_forall_ne_some]
  exact forall_congr' fun column => by simp

/-- A row with one value in all its columns belongs to no type of owner that is named
otherwise. -/
theorem coversOwned_iff (h : dependent? action field target = some dependent) :
    field.CoversOwned entity dependent.statement ↔ field.relationship.ownerType? = none := by
  obtain ⟨key, hkey, hconditions⟩ := conditions_dependent h
  have hcovers (valuation : Valuation) (row : Row) :
      dependent.statement.Covers valuation row ↔ row key = some (valuation.parameter 1) := by
    rw [Statement.Covers, hconditions, List.forall_mem_singleton]
    rfl
  constructor
  · intro howned
    rw [Option.eq_none_iff_forall_ne_some]
    intro column htype
    -- A key other than the entity's name, in every column and as the parameter.
    have hrow := howned ⟨fun _ => entity.name ++ "_", fun _ _ => False⟩
      (fun _ => some (entity.name ++ "_")) ((hcovers _ _).mpr rfl)
    have hname : entity.name ++ "_" = entity.name := Option.some.inj (hrow.type column htype)
    rw [String.append_eq_left_iff] at hname
    exact absurd hname (by decide)
  · intro hnone valuation row hrow
    refine ⟨fun column hcolumn => ?_, fun column htype => ?_⟩
    · rw [hkey] at hcolumn
      cases hcolumn
      exact (hcovers valuation row).mp hrow
    · rw [hnone] at htype
      cases htype

theorem namesOwner_loader : field.NamesOwner entity (loader entity field target) := by
  intro column htype
  have hkey : ∃ key, field.relationship.relation.matchKey? = some key := by
    rw [Relationship.ownerType?] at htype
    cases hr : field.relationship.relation with
    | belongsTo | manyToMany =>
      rw [hr] at htype
      cases htype
    | hasOne _ key | hasMany _ key => exact ⟨key, rfl⟩
  obtain ⟨key, hkey⟩ := hkey
  have hmem : .equalsText column entity.name ∈ keyConditions entity field := by
    rw [keyConditions_eq hkey, htype]
    exact List.mem_cons_of_mem _ List.mem_cons_self
  exact List.mem_append_left _ hmem

theorem dependent?_eq_none_iff :
    dependent? action field target = none ↔ field.relationship.kind = .belongsTo := by
  rw [dependent?, Relationship.kind]
  cases field.relationship.relation <;> simp [Relation.kind]

/-- The dependent statement of a relation only counts where it is to keep the owner exactly
if there is no join table. It names the type of the owner, as the loader does, and covers only
rows of the owner, exactly if the relation has no such type. -/
theorem spares_iff {constants : List Constant}
    (h : relationConstants model entity field = .ok constants)
    (ha : field.relationship.options.dependent = some action) :
    ∃ target dependents, model.get? field.relationship.target = some target ∧
      constants = loaderConstant entity field target :: dependents ∧
      field.NamesOwner entity (loader entity field target) ∧
      (dependents = [] ↔ field.relationship.kind = .belongsTo) ∧
      ∀ constant ∈ dependents, ∃ dependent, dependent? action field target = some dependent ∧
        constant.value = .inline (quoted dependent.statement.text) ∧
        (action.OnlyCounts dependent.statement ↔
          ¬ (action = .restrict ∧ field.relationship.kind = .manyToMany)) ∧
        (field.NamesOwner entity dependent.statement ↔
          field.relationship.ownerType? = none) ∧
        (field.CoversOwned entity dependent.statement ↔
          field.relationship.ownerType? = none) := by
  cases htarget : model.get? field.relationship.target with
  | none =>
    rw [relationConstants, htarget] at h
    cases h
  | some target =>
    rw [relationConstants_of_get? htarget] at h
    cases h
    refine ⟨target, _, rfl, rfl, namesOwner_loader, ?_, ?_⟩
    · rw [Option.toList_eq_nil_iff, dependentConstant?, ha, Option.bind_some,
        Option.map_eq_none_iff, dependent?_eq_none_iff]
    · intro constant hc
      obtain ⟨given, dependent, hgiven, hd, -, hvalue⟩ :=
        dependentConstant?_eq_some (Option.mem_toList.mp hc)
      obtain rfl : action = given := Option.some.inj (ha.symm.trans hgiven)
      exact ⟨dependent, hd, hvalue, onlyCounts_iff hd, namesOwner_iff hd, coversOwned_iff hd⟩

end RelationsFile

theorem spares_sessions :
    ∃ model, (Model.build {} sessions).1 = .ok model ∧
      ∃ entity ∈ model.entities, ∃ field ∈ entity.relations, ∃ loader dependent,
        RelationsFile.relationConstants model entity field = .ok [loader, dependent] ∧
          ∃ statement : Statement, dependent.value = .inline (quoted statement.text) ∧
            DependentAction.restrict.OnlyCounts statement ∧
              field.CoversOwned entity statement := by
  have hany : ∃ model, (Model.build {} sessions).1 = .ok model ∧
      (model.entities.any fun entity => entity.relations.any fun field =>
        decide (field.relationship.options.dependent = some .restrict) &&
          decide (field.relationship.kind = .hasMany) &&
            decide (field.relationship.ownerType? = none) &&
              (RelationsFile.relationConstants model entity field).toOption.any
                fun constants => decide (constants.length = 2)) = true :=
    ok_of_any (by decide +kernel)
  obtain ⟨model, hb, hm⟩ := hany
  simp only [Bool.and_eq_true, List.any_eq_true, decide_eq_true_eq] at hm
  obtain ⟨entity, he, field, hf, ⟨⟨haction, hkind⟩, hnone⟩, hconstants⟩ := hm
  obtain ⟨constants, hconstants, hlength⟩ := ok_of_any hconstants
  obtain ⟨loader, constant, rfl⟩ := List.length_eq_two.mp (of_decide_eq_true hlength)
  obtain ⟨target, dependents, -, hcons, -, -, hspares⟩ :=
    RelationsFile.spares_iff hconstants haction
  obtain ⟨rfl, rfl⟩ := List.cons.inj hcons
  obtain ⟨dependent, -, hvalue, hcounts, -, howned⟩ := hspares constant List.mem_cons_self
  rw [hkind] at hcounts
  exact ⟨model, hb, entity, he, field, hf, _, constant, hconstants, dependent.statement, hvalue,
    hcounts.mpr (by decide), howned.mpr hnone⟩

/-- Users with an avatar, which others may own as well, and with roles that they share. -/
def members : List Declaration := [
  { name := "User"
    file := "user.rs"
    line := 1
    fields := [
      { name := "id", type := { base := "i64" }, attributes := some "primary_key", line := 2 },
      { name := "avatar", type := { base := "Avatar", isPointer := true },
        relationship := some ("has_one:Avatar,foreign_key:owner_id,polymorphic:owner," ++
          "dependent:nullify"), line := 3 },
      { name := "roles", type := { base := "Role", isCollection := true },
        relationship := some ("many_to_many:Role,join_table:user_roles," ++
          "join_source_key:user_id,join_target_key:role_id,dependent:restrict"), line := 4 } ] },
  { name := "Avatar"
    file := "avatar.rs"
    line := 1
    fields := [
      { name := "id", type := { base := "i64" }, attributes := some "primary_key", line := 2 },
      { name := "owner_id", type := { base := "i64" }, line := 3 },
      { name := "owner_type", type := { base := "String" }, line := 4 } ] },
  { name := "Role"
    file := "role.rs"
    line := 1
    fields := [
      { name := "id", type := { base := "i64" }, attributes := some "primary_key", line := 2 } ] } ]

def Model.AllDependents (model : Model)
    (p : Entity → RelationField → DependentAction → Statement → Prop) : Prop :=
  ∀ entity ∈ model.entities, ∀ field ∈ entity.relations, ∀ target action dependent,
    model.get? field.relationship.target = some target →
      field.relationship.options.dependent = some action →
        RelationsFile.dependent? action field target = some dependent →
          p entity field action dependent.statement

theorem Model.AllDependents.of_action {model : Model} {entity target : Entity}
    {field : RelationField} {action : DependentAction}
    {p : Entity → RelationField → DependentAction → Statement → Prop}
    (h : model.AllDependents p) (he : entity ∈ model.entities) (hf : field ∈ entity.relations)
    (ht : model.get? field.relationship.target = some target)
    (ha : field.relationship.options.dependent = some action)
    (hk : field.relationship.kind ≠ .belongsTo) :
    ∃ dependent, RelationsFile.dependent? action field target = some dependent ∧
      p entity field action dependent.statement := by
  obtain ⟨dependent, hd⟩ :=
    Option.ne_none_iff_exists'.mp (mt RelationsFile.dependent?_eq_none_iff.mp hk)
  exact ⟨dependent, hd, h entity he field hf target action dependent ht ha hd⟩

/-- Where the owner is to be kept its roles are taken away, and avatars of other owners are
cleared with those of a user. -/
theorem not_all_dependents_spare :
    ∃ model, (Model.build {} members).1 = .ok model ∧ model.validate.isValid = true ∧
      (¬ model.AllDependents fun _ _ action statement => action.OnlyCounts statement) ∧
      (¬ model.AllDependents fun entity field _ statement =>
        field.NamesOwner entity statement) ∧
      ¬ model.AllDependents fun entity field _ statement =>
        field.CoversOwned entity statement := by
  have hany : ∃ model, (Model.build {} members).1 = .ok model ∧
      (model.validate.isValid && model.entities.any fun entity =>
        (entity.relations.any fun field =>
          decide (field.relationship.options.dependent = some .restrict) &&
            decide (field.relationship.kind = .manyToMany) &&
              (model.get? field.relationship.target).isSome) &&
        entity.relations.any fun field =>
          decide (field.relationship.options.dependent = some .nullify) &&
            decide (field.relationship.kind = .hasOne) &&
              decide (field.relationship.ownerType? = some "owner_type") &&
                (model.get? field.relationship.target).isSome) = true :=
    Model.built_of_any (by decide +kernel)
  obtain ⟨model, hb, hm⟩ := hany
  simp only [Bool.and_eq_true, List.any_eq_true, decide_eq_true_eq, Option.isSome_iff_exists]
    at hm
  obtain ⟨hv, entity, he, ⟨roles, hr, ⟨hrestrict, hmany⟩, role, hrole⟩,
    avatar, ha, ⟨⟨hnullify, hone⟩, htype⟩, picture, hpicture⟩ := hm
  have hnamed : avatar.relationship.ownerType? ≠ none := by
    rw [htype]
    exact Option.some_ne_none _
  refine ⟨model, hb, hv, fun hall => ?_, fun hall => ?_, fun hall => ?_⟩
  · obtain ⟨dependent, hd, hcounts⟩ := hall.of_action he hr hrole hrestrict (by simp [hmany])
    exact (RelationsFile.onlyCounts_iff hd).mp hcounts ⟨rfl, hmany⟩
  · obtain ⟨dependent, hd, hnames⟩ := hall.of_action he ha hpicture hnullify (by simp [hone])
    exact hnamed ((RelationsFile.namesOwner_iff hd).mp hnames)
  · obtain ⟨dependent, hd, hcovers⟩ := hall.of_action he ha hpicture hnullify (by simp [hone])
    exact hnamed ((RelationsFile.coversOwned_iff hd).mp hcovers)

end SchemaCompiler
