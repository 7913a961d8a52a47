import SchemaCompiler.Proofs.Artifact.ConstantNames

/-!
# Names of constants and methods of a type

A repository has a constant for each unique column besides those that every repository has.
Its names are told apart only as far as the names of these columns are. A query builder has
some methods for each column besides those that every builder has; the names of all of them
are told apart as far as the columns are.
-/

namespace SchemaCompiler

open Code

-- ---------------------------------------------------------------------------
-- Repositories
-- ---------------------------------------------------------------------------

/-- No unique column is found under the name of another constant of the repository. -/
structure Entity.FindersApart (entity : Entity) : Prop where
  columns : ((RepositoryFile.uniqueColumns entity).map (constantName ·.name)).Nodup
  key : ∀ column ∈ RepositoryFile.uniqueColumns entity, constantName column.name ≠ "PK"

namespace RepositoryFile

variable {entity : Entity} {name base : String}

def keptNames (entity : Entity) : List String :=
  ["TABLE", "COLUMNS", "SELECT_ALL", "COUNT", "INSERT"] ++ (keyStatements entity).map (·.name)

theorem names_keyStatements (h : entity.primaryKeys ≠ []) :
    (keyStatements entity).map (·.name) =
      "FIND_BY_PK" :: ((update? entity).toList.map (·.name) ++ ["DELETE"]) := by
  obtain ⟨key, keys, hk⟩ := List.exists_cons_of_ne_nil h
  simp [keyStatements, hk]

theorem names_update?_sublist (entity : Entity) :
    ((update? entity).toList.map (·.name)).Sublist ["UPDATE"] := by
  rw [update?]
  split <;> simp

theorem keptNames_sublist (h : entity.primaryKeys ≠ []) :
    (keptNames entity).Sublist fixedNames := by
  have hkey : ("FIND_BY_PK" :: ((update? entity).toList.map (·.name) ++ ["DELETE"])).Sublist
      ["FIND_BY_PK", "UPDATE", "DELETE"] :=
    ((names_update?_sublist entity).append (.refl ["DELETE"])).cons_cons _
  rw [keptNames, names_keyStatements h]
  exact (List.Sublist.refl ["TABLE", "COLUMNS", "SELECT_ALL", "COUNT", "INSERT"]).append hkey

theorem findBy_mem_fixedNames_iff : "FIND_BY_" ++ base ∈ fixedNames ↔ base = "PK" := by
  constructor
  · intro hm
    have hkey : ∀ name ∈ fixedNames, "FIND_BY_".toList <+: name.toList →
        name = "FIND_BY_" ++ "PK" := by decide
    have hstart : "FIND_BY_".toList <+: ("FIND_BY_" ++ base).toList :=
      ⟨base.toList, String.toList_append.symm⟩
    exact (String.append_right_inj _).mp (hkey _ hm hstart)
  · rintro rfl
    decide

theorem findBy_mem_keptNames_iff (h : entity.primaryKeys ≠ []) :
    "FIND_BY_" ++ base ∈ keptNames entity ↔ base = "PK" := by
  constructor
  · exact fun hm => findBy_mem_fixedNames_iff.mp ((keptNames_sublist h).subset hm)
  · rintro rfl
    rw [keptNames, names_keyStatements h]
    exact List.mem_append_right _ List.mem_cons_self

theorem nodup_names_iff (h : entity.primaryKeys ≠ []) :
    ((constantGroups entity).flatten.map (·.name)).Nodup ↔ entity.FindersApart := by
  have hkept : (keptNames entity).Nodup := (keptNames_sublist h).nodup (by decide)
  have hfinders : (uniqueColumns entity).map (fun column => "FIND_BY_" ++ constantName column.name)
      = ((uniqueColumns entity).map (constantName ·.name)).map ("FIND_BY_" ++ ·) := by
    rw [List.map_map]
    rfl
  rw [names_constantGroups, ← keptNames, List.nodup_append', and_iff_right hkept, hfinders,
    List.nodup_map_iff fun a b => (String.append_right_inj _).mp]
  constructor
  · rintro ⟨hcolumns, hdisjoint⟩
    refine ⟨hcolumns, fun column hc he => ?_⟩
    have hmem := List.mem_map_of_mem (f := ("FIND_BY_" ++ ·))
      (List.mem_map_of_mem (f := fun column : Column => constantName column.name) hc)
    exact hdisjoint ((findBy_mem_keptNames_iff h).mpr he) hmem
  · rintro ⟨hcolumns, hkey⟩
    refine ⟨hcolumns, fun name hk hf => ?_⟩
    obtain ⟨base, hb, rfl⟩ := List.mem_map.mp hf
    obtain ⟨column, hc, rfl⟩ := List.mem_map.mp hb
    exact hkey column hc ((findBy_mem_keptNames_iff h).mp hk)

end RepositoryFile

/-- In a model that is reported as valid, the constants of an entity's repository are named
apart exactly if its unique columns differ in constant case and none of them is named like
the key. -/
theorem Model.finderNames_of_isValid {cache : TagCache} {declarations : List Declaration}
    {model : Model} (hb : (build cache declarations).1 = .ok model)
    (hv : model.validate.isValid = true) {entity : Entity} (he : entity ∈ model.entities) :
    ((RepositoryFile.constantGroups entity).flatten.map (·.name)).Nodup ↔
      entity.FindersApart := by
  obtain ⟨column, hc, hp⟩ := ((wellFormed_of_isValid hb hv).entities entity he).primaryKey
  refine RepositoryFile.nodup_names_iff ?_
  rw [((coherent_of_build hb).assembled entity he).primaryKeys]
  exact List.ne_nil_of_mem (List.mem_map_of_mem (List.mem_filter.mpr ⟨hc, hp⟩))

/-- Tickets with a unique column that is named like the key, badges with two unique columns
that differ in letter case only, and venues with unique columns that stay apart. -/
def tickets : List Declaration := [
  { name := "Ticket"
    file := "ticket.rs"
    line := 1
    fields := [
      { name := "id", type := { base := "i64" }, attributes := some "primary_key", line := 2 },
      { name := "pk", type := { base := "String" }, attributes := some "unique", line := 3 } ] },
  { name := "Badge"
    file := "badge.rs"
    line := 1
    fields := [
      { name := "id", type := { base := "i64" }, attributes := some "primary_key", line := 2 },
      { name := "serial", type := { base := "String" }, attributes := some "unique", line := 3 },
      { name := "former_serial", type := { base := "String" },
        attributes := some "unique;column:Serial", line := 4 } ] },
  { name := "Venue"
    file := "venue.rs"
    line := 1
    fields := [
      { name := "id", type := { base := "i64" }, attributes := some "primary_key", line := 2 },
      { name := "code", type := { base := "String" }, attributes := some "unique", line := 3 },
      { name := "slug", type := { base := "String" }, attributes := some "unique", line := 4 } ] } ]

def Model.repositoryConstantNames (model : Model) : List (List String) :=
  model.entities.map fun entity =>
    (RepositoryFile.constantGroups entity).flatten.map (·.name)

theorem tickets_built :
    ∃ model, (Model.build {} tickets).1 = .ok model ∧ model.validate.isValid = true ∧
      model.repositoryConstantNames = [
        RepositoryFile.fixedNames ++ ["FIND_BY_PK"],
        RepositoryFile.fixedNames ++ ["FIND_BY_SERIAL", "FIND_BY_SERIAL"],
        RepositoryFile.fixedNames ++ ["FIND_BY_CODE", "FIND_BY_SLUG"]] := by
  have hany : ∃ model, (Model.build {} tickets).1 = .ok model ∧
      decide (model.validate.isValid = true ∧ model.repositoryConstantNames = [
        RepositoryFile.fixedNames ++ ["FIND_BY_PK"],
        RepositoryFile.fixedNames ++ ["FIND_BY_SERIAL", "FIND_BY_SERIAL"],
        RepositoryFile.fixedNames ++ ["FIND_BY_CODE", "FIND_BY_SLUG"]]) = true :=
    Model.built_of_any (by decide +kernel)
  obtain ⟨model, hb, hm⟩ := hany
  exact ⟨model, hb, of_decide_eq_true hm⟩

theorem finderNames_of_tickets :
    ∃ model, (Model.build {} tickets).1 = .ok model ∧ model.validate.isValid = true ∧
      ∃ ticket badge venue, model.entities = [ticket, badge, venue] ∧
        ¬ ticket.FindersApart ∧ ¬ badge.FindersApart ∧ venue.FindersApart := by
  obtain ⟨model, hb, hv, hnames⟩ := tickets_built
  obtain ⟨ticket, others, hm, hticket, hothers⟩ := List.map_eq_cons_iff.mp hnames
  obtain ⟨badge, others, rfl, hbadge, hothers⟩ := List.map_eq_cons_iff.mp hothers
  obtain ⟨venue, others, rfl, hvenue, hothers⟩ := List.map_eq_cons_iff.mp hothers
  obtain rfl := List.map_eq_nil_iff.mp hothers
  have happly {entity : Entity} (he : entity ∈ [ticket, badge, venue]) :=
    Model.finderNames_of_isValid hb hv (hm ▸ he)
  refine ⟨model, hb, hv, ticket, badge, venue, hm, ?_, ?_, ?_⟩
  · rw [← happly (by simp), hticket]
    decide
  · rw [← happly (by simp), hbadge]
    decide
  · rw [← happly (by simp), hvenue]
    decide

/-- A unique column that is named like the key is not reported. -/
theorem not_all_finderNames_distinct :
    ¬ ∀ model, (∃ declarations, (Model.build {} declarations).1 = .ok model) →
      model.validate.isValid = true → ∀ entity ∈ model.entities,
        ((RepositoryFile.constantGroups entity).flatten.map (·.name)).Nodup := by
  obtain ⟨model, hb, hv, hnames⟩ := tickets_built
  obtain ⟨ticket, others, hm, hticket, -⟩ := List.map_eq_cons_iff.mp hnames
  intro hall
  have hnodup := hall model ⟨_, hb⟩ hv ticket (hm ▸ List.mem_cons_self)
  rw [hticket] at hnodup
  exact absurd hnodup (by decide)

-- ---------------------------------------------------------------------------
-- Query builders
-- ---------------------------------------------------------------------------

namespace QueryFile

variable {entity : Entity} {column : Column} {stem other : String}

/-- What a method does with its column. -/
inductive Use where
  | equal
  | unequal
  | null
  | notNull
  | order
deriving DecidableEq

namespace Use

variable {use otherUse : Use}

def all : List Use := [equal, unequal, null, notNull, order]

theorem mem_all (use : Use) : use ∈ all := by
  cases use <;> decide

def start : Use → String
  | equal | unequal | null | notNull => "where_"
  | order => "order_by_"

def ending : Use → String
  | equal => "_eq"
  | unequal => "_ne"
  | null => "_is_null"
  | notNull => "_is_not_null"
  | order => ""

def methodName (use : Use) (stem : String) : String :=
  use.start ++ stem ++ use.ending

theorem start_prefix_methodName (use : Use) (stem : String) :
    use.start.toList <+: (use.methodName stem).toList := by
  rw [methodName, String.append_assoc, String.toList_append]
  exact List.prefix_append _ _

theorem start_eq_of_methodName_eq (h : use.methodName stem = otherUse.methodName other) :
    use.start = otherUse.start := by
  have hapart : ∀ a ∈ all, ∀ b ∈ all, a.start.toList <+: b.start.toList → a.start = b.start := by
    decide
  have hstart := start_prefix_methodName use stem
  rw [h] at hstart
  rcases List.prefix_or_prefix_of_prefix hstart (start_prefix_methodName otherUse other) with
    hp | hp
  · exact hapart _ use.mem_all _ otherUse.mem_all hp
  · exact (hapart _ otherUse.mem_all _ use.mem_all hp).symm

theorem eq_of_ending_suffix (hs : use.start = otherUse.start)
    (h : use.ending.toList <:+ otherUse.ending.toList) : use = otherUse := by
  have hapart : ∀ a ∈ all, ∀ b ∈ all, a.start = b.start →
      a.ending.toList <:+ b.ending.toList → a = b := by decide
  exact hapart _ use.mem_all _ otherUse.mem_all hs h

/-- The name of a method tells its use and the stem, whatever the stem ends with. -/
theorem methodName_eq_iff :
    use.methodName stem = otherUse.methodName other ↔ use = otherUse ∧ stem = other := by
  constructor
  · intro h
    have hs := start_eq_of_methodName_eq h
    have hrest : stem ++ use.ending = other ++ otherUse.ending := by
      rw [methodName, methodName, ← hs, String.append_assoc, String.append_assoc] at h
      exact (String.append_right_inj _).mp h
    obtain rfl : use = otherUse := by
      rcases Nat.le_total use.ending.toList.length otherUse.ending.toList.length with hl | hl
      · exact eq_of_ending_suffix hs (isSuffixOf_of_append_eq_append hrest hl)
      · exact (eq_of_ending_suffix hs.symm (isSuffixOf_of_append_eq_append hrest.symm hl)).symm
    exact ⟨rfl, (String.append_left_inj _).mp hrest⟩
  · rintro ⟨rfl, rfl⟩
    rfl

end Use

/-- The uses that a builder has methods for; only a nullable column is compared with null. -/
def usesOf (column : Column) : List Use :=
  if column.isNullable then Use.all else [.equal, .unequal, .order]

theorem nodup_usesOf (column : Column) : (usesOf column).Nodup := by
  rw [usesOf]
  split <;> decide

theorem order_mem_usesOf (column : Column) : .order ∈ usesOf column := by
  rw [usesOf]
  split <;> decide

theorem names_columnMethods (column : Column) :
    (columnMethods column).map (·.name) =
      (usesOf column).map (·.methodName (Naming.snake column.name)) := by
  rw [columnMethods, nullMethods, usesOf]
  split <;> simp [Use.all, Use.methodName, Use.start, Use.ending, filterMethod, orderMethod]

theorem names_methods (entity : Entity) :
    (methods entity).map (·.name) =
      ["new", "limit", "offset", "param_count", "to_sql"] ++
        entity.columns.flatMap fun column =>
          (usesOf column).map (·.methodName (Naming.snake column.name)) := by
  rw [methods, List.map_append, List.map_flatMap]
  simp only [names_columnMethods]
  rfl

theorem methodName_not_mem_common (use : Use) (stem : String) :
    use.methodName stem ∉ ["new", "limit", "offset", "param_count", "to_sql"] := by
  have hapart : ∀ name ∈ ["new", "limit", "offset", "param_count", "to_sql"], ∀ use ∈ Use.all,
      ¬ use.start.toList <+: name.toList := by decide
  exact fun hm => hapart _ hm use use.mem_all (use.start_prefix_methodName stem)

theorem nodup_columnNames_iff :
    (entity.columns.flatMap fun column =>
      (usesOf column).map (·.methodName (Naming.snake column.name))).Nodup ↔
        (entity.columns.map (Naming.snake ·.name)).Nodup := by
  have hone (column : Column) :
      ((usesOf column).map (·.methodName (Naming.snake column.name))).Nodup :=
    (nodup_usesOf column).map fun _ _ he => (Use.methodName_eq_iff.mp he).1
  rw [List.nodup_flatMap, and_iff_right fun column _ => hone column, List.Nodup,
    List.pairwise_map]
  refine List.Pairwise.iff fun column other => ⟨fun hd he => ?_, fun hne name hc ho => hne ?_⟩
  · -- Every column has a method for its order, so equal stems would give one name twice.
    refine hd (List.mem_map_of_mem (order_mem_usesOf column)) ?_
    rw [he]
    exact List.mem_map_of_mem (order_mem_usesOf other)
  · obtain ⟨use, -, rfl⟩ := List.mem_map.mp hc
    obtain ⟨otherUse, -, he⟩ := List.mem_map.mp ho
    exact (Use.methodName_eq_iff.mp he).2.symm

/-- The methods of a query builder are named apart exactly if the columns are in snake case:
what is written before and after a column's name never makes up for another name. -/
theorem nodup_methodNames_iff (entity : Entity) :
    ((methods entity).map (·.name)).Nodup ↔
      (entity.columns.map (Naming.snake ·.name)).Nodup := by
  have hcommon : ["new", "limit", "offset", "param_count", "to_sql"].Nodup := by decide
  have hdisjoint : ["new", "limit", "offset", "param_count", "to_sql"].Disjoint
      (entity.columns.flatMap fun column =>
        (usesOf column).map (·.methodName (Naming.snake column.name))) := by
    intro name hc hm
    obtain ⟨column, -, hm⟩ := List.mem_flatMap.mp hm
    obtain ⟨use, -, rfl⟩ := List.mem_map.mp hm
    exact methodName_not_mem_common use _ hc
  rw [names_methods, List.nodup_append', and_iff_right hcommon, and_iff_left hdisjoint,
    nodup_columnNames_iff]

end QueryFile

end SchemaCompiler
