import Mathlib
import SchemaCompiler.Proofs.Entity.Constraints
import SchemaCompiler.Proofs.Model.Validity
import SchemaCompiler.Proofs.Text.Split

/-!
# Names of constraints

The checks of one tag are numbered from two on, so their names differ. But a column may have
a name that ends in such a number: then the name of its first check is also that of a later
check of another column, or of the table. No two other constraints of an entity of a valid
model share a name.
-/

namespace SchemaCompiler

open Sql

-- ---------------------------------------------------------------------------
-- Numbers
-- ---------------------------------------------------------------------------

theorem Text.underscore_notMem_toString (n : Nat) : '_' ∉ (toString n).toList := by
  rw [Nat.toString_eq_ofList_toDigits, String.toList_ofList]
  intro h
  exact absurd (Nat.isDigit_of_mem_toDigits (by decide) (by decide) h) (by decide)

section

variable {a b : String} {i j : Nat}

theorem numbered_zero : numbered a 0 = a := rfl

theorem numbered_append : numbered (a ++ b) i = a ++ numbered b i := by
  rw [numbered, numbered]
  split <;> simp [String.append_assoc]

theorem numbered_inj_of_ne_zero (hi : i ≠ 0) (hj : j ≠ 0) :
    numbered a i = numbered b j ↔ a = b ∧ i = j := by
  refine ⟨fun h => ?_, fun ⟨hab, hij⟩ => by rw [hab, hij]⟩
  rw [numbered, numbered, if_neg hi, if_neg hj] at h
  have hlist : a.toList ++ '_' :: (toString (i + 1)).toList =
      b.toList ++ '_' :: (toString (j + 1)).toList := by
    simpa using congrArg String.toList h
  obtain ⟨hab, hij⟩ := Text.eq_of_append_separator (Text.underscore_notMem_toString _)
    (Text.underscore_notMem_toString _) hlist
  exact ⟨String.toList_injective hab,
    Nat.succ.inj (Nat.repr_injective (String.toList_injective hij))⟩

theorem numbered_eq_iff :
    numbered a i = numbered b j ↔
      (a = b ∧ i = j) ∨ (i = 0 ∧ j ≠ 0 ∧ a = numbered b j) ∨
        (j = 0 ∧ i ≠ 0 ∧ b = numbered a i) := by
  by_cases hi : i = 0
  · by_cases hj : j = 0
    · simp [hi, hj, numbered_zero]
    · simp [hi, hj, numbered_zero, Ne.symm hj]
  · by_cases hj : j = 0
    · simp [hi, hj, numbered_zero, eq_comm]
    · simp [hi, hj, numbered_inj_of_ne_zero]

end

-- ---------------------------------------------------------------------------
-- Where constraints come from
-- ---------------------------------------------------------------------------

/-- What a constraint of an entity stands for: a check by its place in the tag of a column or
of the table, the reference of a column, or the enumeration of a column. -/
inductive ConstraintOrigin where
  | check (owner : Option String) (position : Nat)
  | reference (column : String)
  | enumeration (column : String)
deriving DecidableEq

/-- How the name of a table goes on in the name of a check. -/
def ownerEnding : Option String → String
  | none => ""
  | some column => "_" ++ column

namespace ConstraintOrigin

def name (table : String) : ConstraintOrigin → String
  | check owner position => "chk_" ++ (table ++ numbered (ownerEnding owner) position)
  | reference column => "fk_" ++ (table ++ "_" ++ column)
  | enumeration column => "enum_" ++ (table ++ "_" ++ column)

def owner : ConstraintOrigin → Option String
  | check owner _ => owner
  | reference column => some column
  | enumeration column => some column

/-- The first check of one owner has the name of a later check of another. -/
def Doubles : ConstraintOrigin → ConstraintOrigin → Prop
  | check owner i, check other j =>
    i = 0 ∧ j ≠ 0 ∧ ownerEnding owner = numbered (ownerEnding other) j
  | _, _ => False

variable {table : String} {a b : ConstraintOrigin}

theorem ownerEnding_inj {owner other : Option String} :
    ownerEnding owner = ownerEnding other ↔ owner = other := by
  cases owner <;> cases other <;> simp [ownerEnding, ← String.toList_inj]

theorem exists_of_doubles (h : a.Doubles b) :
    ∃ owner other position, a = check owner 0 ∧ b = check other position ∧ position ≠ 0 ∧
      ownerEnding owner = numbered (ownerEnding other) position := by
  cases a with
  | check owner i =>
    cases b with
    | check other j =>
      obtain ⟨rfl, hlater, hending⟩ := h
      exact ⟨owner, other, j, rfl, rfl, hlater, hending⟩
    | reference column => exact h.elim
    | enumeration column => exact h.elim
  | reference column => exact h.elim
  | enumeration column => exact h.elim

theorem not_doubles_self : ¬ a.Doubles a := by
  intro h
  obtain ⟨_, _, position, hfirst, hsame, hlater, -⟩ := exists_of_doubles h
  obtain ⟨-, hposition⟩ := check.inj (hfirst.symm.trans hsame)
  exact hlater hposition.symm

theorem name_eq_iff : a.name table = b.name table ↔ a = b ∨ a.Doubles b ∨ b.Doubles a := by
  cases a with
  | check owner i =>
    cases b with
    | check other j =>
      simp only [name, String.append_right_inj, numbered_eq_iff, ownerEnding_inj, Doubles,
        check.injEq]
    | reference other => simp [name, ← String.toList_inj, Doubles]
    | enumeration other => simp [name, ← String.toList_inj, Doubles]
  | reference column =>
    cases b with
    | check other j => simp [name, ← String.toList_inj, Doubles]
    | reference other => simp [name, Doubles]
    | enumeration other => simp [name, ← String.toList_inj, Doubles]
  | enumeration column =>
    cases b with
    | check other j => simp [name, ← String.toList_inj, Doubles]
    | reference other => simp [name, ← String.toList_inj, Doubles]
    | enumeration other => simp [name, Doubles]

end ConstraintOrigin

def Attributes.checkOrigins (owner : Option String) (attributes : Attributes) :
    List ConstraintOrigin :=
  (List.range (attributes.values "check").length).map (.check owner)

def Column.constraintOrigins (column : Column) : List ConstraintOrigin :=
  column.attributes.checkOrigins (some column.name) ++
  (column.foreignKey.toList.map fun _ => .reference column.name) ++
  ((column.attributes.value? "enum").bind (enumValues · |>.toOption)).toList.map fun _ =>
    .enumeration column.name

def Entity.constraintOrigins (entity : Entity) : List ConstraintOrigin :=
  entity.columns.flatMap (·.constraintOrigins) ++ entity.attributes.checkOrigins none

section

variable {table : String} {owner : Option String} {attributes : Attributes} {column : Column}
  {entity : Entity} {origin : ConstraintOrigin}

theorem names_checks :
    (checks (table ++ ownerEnding owner) owner attributes).map (·.name) =
      (attributes.checkOrigins owner).map (·.name table) := by
  have hpositions : List.range (attributes.values "check").length =
      ((attributes.values "check").zipIdx).map Prod.snd := by
    rw [List.zipIdx_map_snd, List.range_eq_range']
  rw [checks, Attributes.checkOrigins, hpositions, List.map_map, List.map_map, List.map_map]
  refine List.map_congr_left fun entry _ => ?_
  simp [ConstraintOrigin.name, numbered_append]

theorem names_constraints :
    (column.constraints table).map (·.name) = column.constraintOrigins.map (·.name table) := by
  have hchecks : (checks (table ++ "_" ++ column.name) (some column.name) column.attributes).map
      (·.name) = (column.attributes.checkOrigins (some column.name)).map (·.name table) := by
    rw [← names_checks, ownerEnding, String.append_assoc]
  rw [Column.constraints, Column.constraintOrigins]
  simp only [List.map_append, hchecks, List.map_map]
  simp [ConstraintOrigin.name, Function.comp_def]

theorem Entity.Assembled.names_constraints (h : entity.Assembled) :
    entity.constraints.map (·.name) = entity.constraintOrigins.map (·.name entity.table) := by
  have htable : (SchemaCompiler.checks entity.table none entity.attributes).map (·.name) =
      (entity.attributes.checkOrigins none).map (·.name entity.table) := by
    simpa [ownerEnding] using @names_checks entity.table none entity.attributes
  rw [h.constraints, Entity.constraintOrigins, List.map_append, List.map_append, htable,
    List.map_flatMap, List.map_flatMap]
  simp only [SchemaCompiler.names_constraints]

theorem Attributes.mem_checkOrigins :
    origin ∈ attributes.checkOrigins owner ↔
      ∃ position < (attributes.values "check").length, .check owner position = origin := by
  simp [checkOrigins]

theorem Attributes.nodup_checkOrigins : (attributes.checkOrigins owner).Nodup := by
  refine List.nodup_range.map fun i j h => ?_
  cases h
  rfl

theorem Column.owner_of_mem (h : origin ∈ column.constraintOrigins) :
    origin.owner = some column.name := by
  simp only [constraintOrigins, List.mem_append, Attributes.mem_checkOrigins, List.mem_map] at h
  rcases h with (⟨position, -, rfl⟩ | ⟨reference, -, rfl⟩) | ⟨values, -, rfl⟩ <;> rfl

theorem Column.nodup_constraintOrigins : column.constraintOrigins.Nodup := by
  rw [constraintOrigins, List.nodup_append, List.nodup_append]
  refine ⟨⟨Attributes.nodup_checkOrigins, ?_, ?_⟩, ?_, ?_⟩
  · cases column.foreignKey <;> simp
  · intro origin hc other ho
    obtain ⟨position, -, rfl⟩ := Attributes.mem_checkOrigins.mp hc
    obtain ⟨reference, -, rfl⟩ := List.mem_map.mp ho
    simp
  · cases (column.attributes.value? "enum").bind (enumValues · |>.toOption) <;> simp
  · intro origin hc other ho
    obtain ⟨values, -, rfl⟩ := List.mem_map.mp ho
    rcases List.mem_append.mp hc with hc | hc
    · obtain ⟨position, -, rfl⟩ := Attributes.mem_checkOrigins.mp hc
      simp
    · obtain ⟨reference, -, rfl⟩ := List.mem_map.mp hc
      simp

theorem Entity.nodup_constraintOrigins (hn : entity.columnNames.Nodup) :
    entity.constraintOrigins.Nodup := by
  rw [constraintOrigins, List.nodup_append, List.nodup_flatMap]
  refine ⟨⟨fun column _ => Column.nodup_constraintOrigins, ?_⟩, Attributes.nodup_checkOrigins, ?_⟩
  · refine (List.pairwise_map.mp hn).imp fun hne origin hc ho => hne ?_
    exact Option.some.inj ((Column.owner_of_mem hc).symm.trans (Column.owner_of_mem ho))
  · rintro origin hc _ ho rfl
    obtain ⟨column, -, hc⟩ := List.mem_flatMap.mp hc
    obtain ⟨position, -, rfl⟩ := Attributes.mem_checkOrigins.mp ho
    cases Column.owner_of_mem hc

theorem Column.check_mem_constraintOrigins {position : Nat} :
    .check owner position ∈ column.constraintOrigins ↔
      owner = some column.name ∧ position < (column.attributes.values "check").length := by
  simp [constraintOrigins, Attributes.mem_checkOrigins, eq_comm, and_comm]

theorem Entity.check_mem_constraintOrigins {position : Nat} :
    .check owner position ∈ entity.constraintOrigins ↔
      (∃ column ∈ entity.columns, owner = some column.name ∧
        position < (column.attributes.values "check").length) ∨
      (owner = none ∧ position < (entity.attributes.values "check").length) := by
  rw [constraintOrigins, List.mem_append, List.mem_flatMap, Attributes.mem_checkOrigins]
  simp only [Column.check_mem_constraintOrigins]
  refine or_congr_right ?_
  constructor
  · rintro ⟨i, hi, he⟩
    cases he
    exact ⟨rfl, hi⟩
  · rintro ⟨rfl, hi⟩
    exact ⟨position, hi, rfl⟩

end

-- ---------------------------------------------------------------------------
-- Names of an entity
-- ---------------------------------------------------------------------------

/-- No column with a check has the name that the number of a later check would give it. -/
structure Entity.CheckNamesApart (entity : Entity) : Prop where
  columns : ∀ column ∈ entity.columns, column.attributes.values "check" ≠ [] →
    ∀ other ∈ entity.columns, ∀ n, 2 ≤ n → n ≤ (other.attributes.values "check").length →
      column.name ≠ other.name ++ "_" ++ toString n
  table : ∀ column ∈ entity.columns, column.attributes.values "check" ≠ [] →
    ∀ n, 2 ≤ n → n ≤ (entity.attributes.values "check").length → column.name ≠ toString n

section

variable {entity : Entity} {column other : String} {position : Nat}

theorem ownerEnding_eq_column (h : position ≠ 0) :
    ownerEnding (some column) = numbered (ownerEnding (some other)) position ↔
      column = other ++ "_" ++ toString (position + 1) := by
  rw [ownerEnding, ownerEnding, numbered_append, String.append_right_inj, numbered, if_neg h]

theorem ownerEnding_eq_table (h : position ≠ 0) :
    ownerEnding (some column) = numbered (ownerEnding none) position ↔
      column = toString (position + 1) := by
  rw [ownerEnding, ownerEnding, numbered, if_neg h, String.empty_append, String.append_right_inj]

theorem ownerEnding_none_ne {owner : Option String} (h : position ≠ 0) :
    ownerEnding none ≠ numbered (ownerEnding owner) position := by
  rw [ownerEnding, numbered, if_neg h]
  intro he
  simpa using congrArg String.toList he

theorem Entity.Assembled.nodup_names_iff_doubles (h : entity.Assembled)
    (hn : entity.columnNames.Nodup) :
    (entity.constraints.map (·.name)).Nodup ↔
      ∀ first ∈ entity.constraintOrigins, ∀ later ∈ entity.constraintOrigins,
        ¬ first.Doubles later := by
  rw [h.names_constraints, List.nodup_map_iff_inj_on (Entity.nodup_constraintOrigins hn)]
  constructor
  · intro hinj first hf later hl hd
    obtain rfl := hinj first hf later hl (ConstraintOrigin.name_eq_iff.mpr (.inr (.inl hd)))
    exact ConstraintOrigin.not_doubles_self hd
  · intro hnone first hf later hl hname
    rcases ConstraintOrigin.name_eq_iff.mp hname with he | hd | hd
    · exact he
    · exact absurd hd (hnone first hf later hl)
    · exact absurd hd (hnone later hl first hf)

theorem Entity.Assembled.nodup_constraintNames_iff (h : entity.Assembled)
    (hn : entity.columnNames.Nodup) :
    (entity.constraints.map (·.name)).Nodup ↔ entity.CheckNamesApart := by
  rw [h.nodup_names_iff_doubles hn]
  constructor
  · intro hnone
    have hfirst : ∀ column ∈ entity.columns, column.attributes.values "check" ≠ [] →
        .check (some column.name) 0 ∈ entity.constraintOrigins := fun column hc hchecks =>
      Entity.check_mem_constraintOrigins.mpr
        (.inl ⟨column, hc, rfl, List.length_pos_iff.mpr hchecks⟩)
    constructor
    case columns =>
      intro column hc hchecks other ho n htwo hle he
      obtain ⟨position, rfl⟩ := Nat.exists_eq_add_of_le' htwo
      have hlater := Entity.check_mem_constraintOrigins.mpr
        (.inl ⟨other, ho, rfl, Nat.lt_of_succ_le hle⟩)
      exact hnone _ (hfirst column hc hchecks) _ hlater
        ⟨rfl, Nat.succ_ne_zero _, (ownerEnding_eq_column (Nat.succ_ne_zero _)).mpr he⟩
    case table =>
      intro column hc hchecks n htwo hle he
      obtain ⟨position, rfl⟩ := Nat.exists_eq_add_of_le' htwo
      have hlater := Entity.check_mem_constraintOrigins.mpr
        (.inr ⟨rfl, Nat.lt_of_succ_le hle⟩)
      exact hnone _ (hfirst column hc hchecks) _ hlater
        ⟨rfl, Nat.succ_ne_zero _, (ownerEnding_eq_table (Nat.succ_ne_zero _)).mpr he⟩
  · rintro ⟨hcolumns, htable⟩ first hf later hl hd
    obtain ⟨owner, other, j, rfl, rfl, hj, hending⟩ := ConstraintOrigin.exists_of_doubles hd
    rcases Entity.check_mem_constraintOrigins.mp hf with ⟨column, hc, rfl, hpos⟩ | ⟨rfl, -⟩
    · have hchecks := List.length_pos_iff.mp hpos
      have htwo : 2 ≤ j + 1 := by omega
      rcases Entity.check_mem_constraintOrigins.mp hl with ⟨other, ho, rfl, hlt⟩ | ⟨rfl, hlt⟩
      · have hname := (ownerEnding_eq_column hj).mp hending
        exact hcolumns column hc hchecks other ho (j + 1) htwo hlt hname
      · have hname := (ownerEnding_eq_table hj).mp hending
        exact htable column hc hchecks (j + 1) htwo hlt hname
    · exact ownerEnding_none_ne hj hending

end

-- ---------------------------------------------------------------------------
-- Names of valid models
-- ---------------------------------------------------------------------------

/-- In a model that is reported as valid, the constraints of an entity have distinct names
exactly if the names of its columns keep the numbers of its checks apart. -/
theorem Model.constraintNames_of_isValid {cache : TagCache} {declarations : List Declaration}
    {model : Model} (hb : (build cache declarations).1 = .ok model)
    (hv : model.validate.isValid = true) {entity : Entity} (he : entity ∈ model.entities) :
    (entity.constraints.map (·.name)).Nodup ↔ entity.CheckNamesApart := by
  have hwell := (wellFormed_of_isValid hb hv).entities entity he
  have hassembled := (coherent_of_build hb).assembled entity he
  exact hassembled.nodup_constraintNames_iff hwell.distinctColumns

/-- Tanks with two checks of a level and one of a second level, and valves with as many
checks under names that stay apart. -/
def numberedLevels : List Declaration := [
  { name := "Tank"
    file := "tank.rs"
    line := 1
    fields := [
      { name := "id", type := { base := "i64" }, attributes := some "primary_key", line := 2 },
      { name := "level", type := { base := "i32" },
        attributes := some "check:level > 0; check:level < 9", line := 3 },
      { name := "level_2", type := { base := "i32" }, attributes := some "check:level_2 > 0",
        line := 4 } ] },
  { name := "Valve"
    file := "valve.rs"
    line := 1
    table := some "check:level < 9; check:bar > 0"
    fields := [
      { name := "id", type := { base := "i64" }, attributes := some "primary_key", line := 2 },
      { name := "level", type := { base := "i32" },
        attributes := some "check:level > 0; check:level < 7", line := 3 },
      { name := "level_3", type := { base := "i32" }, attributes := some "check:level_3 > 0",
        line := 4 } ] } ]

theorem numberedLevels_built :
    ∃ model, (Model.build {} numberedLevels).1 = .ok model ∧ model.validate.isValid = true ∧
      (∃ entity ∈ model.entities, entity.constraints.map (·.name) =
        ["chk_tanks_level", "chk_tanks_level_2", "chk_tanks_level_2"]) ∧
      ∃ entity ∈ model.entities, entity.constraints.map (·.name) =
        ["chk_valves_level", "chk_valves_level_2", "chk_valves_level_3", "chk_valves",
          "chk_valves_2"] := by
  have hany : ∃ model, (Model.build {} numberedLevels).1 = .ok model ∧
      (model.validate.isValid &&
        (model.entities.any fun entity => decide (entity.constraints.map (·.name) =
          ["chk_tanks_level", "chk_tanks_level_2", "chk_tanks_level_2"])) &&
        model.entities.any fun entity => decide (entity.constraints.map (·.name) =
          ["chk_valves_level", "chk_valves_level_2", "chk_valves_level_3", "chk_valves",
            "chk_valves_2"])) = true :=
    Model.built_of_any (by decide +kernel)
  simpa [and_assoc] using hany

theorem constraintNames_of_numberedLevels :
    ∃ model, (Model.build {} numberedLevels).1 = .ok model ∧ model.validate.isValid = true ∧
      (∃ entity ∈ model.entities, entity.constraints.length = 3 ∧ ¬ entity.CheckNamesApart) ∧
      ∃ entity ∈ model.entities, entity.constraints.length = 5 ∧ entity.CheckNamesApart := by
  obtain ⟨model, hb, hvalid, ⟨tank, ht, htank⟩, valve, hva, hvalve⟩ := numberedLevels_built
  have hthree := congrArg List.length htank
  have hfive := congrArg List.length hvalve
  rw [List.length_map] at hthree hfive
  refine ⟨model, hb, hvalid, ⟨tank, ht, hthree, fun h => ?_⟩, valve, hva, hfive, ?_⟩
  · have hnodup := (Model.constraintNames_of_isValid hb hvalid ht).mpr h
    simp [htank] at hnodup
  · exact (Model.constraintNames_of_isValid hb hvalid hva).mp (by simp [hvalve])

/-- Two constraints of one name are not reported. -/
theorem not_all_constraintNames_distinct :
    ¬ ∀ model, (∃ declarations, (Model.build {} declarations).1 = .ok model) →
      model.validate.isValid = true → ∀ entity ∈ model.entities,
        (entity.constraints.map (·.name)).Nodup := by
  intro hall
  obtain ⟨model, hb, hvalid, ⟨tank, ht, htank⟩, -⟩ := numberedLevels_built
  have hnodup := hall model ⟨_, hb⟩ hvalid tank ht
  simp [htank] at hnodup

end SchemaCompiler
