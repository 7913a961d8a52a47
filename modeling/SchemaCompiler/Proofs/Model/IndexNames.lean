import SchemaCompiler.Proofs.Entity.Indexes
import SchemaCompiler.Proofs.Model.Build
import SchemaCompiler.Proofs.Model.Validity

/-!
# Names and columns of indexes

Columns share their indexes by name and uniqueness, but each text of a table's tag declares
an index of its own. A report looks at the columns of these indexes and not at their names.
So two indexes of an entity have the same name exactly if its tags declare them so, and an
index has a column twice exactly if a text of the table's tag lists it twice.
-/

namespace SchemaCompiler

open Sql

-- ---------------------------------------------------------------------------
-- Indexes of texts
-- ---------------------------------------------------------------------------

/-- The name of the index that a specification stands for. -/
def Sql.IndexSpec.indexName (table : String) (key : IndexKey) (spec : IndexSpec) : String :=
  spec.name.getD (key.defaultName table (Text.join "_" spec.columns))

theorem Sql.IndexSpec.columns_ne_nil {text : String} {spec : IndexSpec}
    (h : parse text = .ok spec) : spec.columns ≠ [] := by
  simp only [parse] at h
  split at h
  · cases h
  · split at h
    · cases h
    · split at h
      · cases h
      · rename_i hcolumns
        have hne := List.isEmpty_eq_false_iff.mp (Bool.not_eq_true _ ▸ hcolumns)
        split at h
        · cases h
        · split at h
          · cases h
            exact hne
          · split at h <;> cases h
            exact hne

section

variable {table : String} {attributes : Attributes} {index : Index}

theorem Index.ofText?_eq_some_iff {key : IndexKey} {text : String} :
    ofText? table key text = some index ↔
      ∃ spec, IndexSpec.parse text = .ok spec ∧
        ⟨spec.indexName table key, spec.columns, key.isUnique⟩ = index := by
  cases hp : IndexSpec.parse text <;> simp [ofText?, hp, Except.toOption, IndexSpec.indexName]

theorem mem_tableIndexes_iff :
    index ∈ tableIndexes table attributes ↔
      ∃ entry ∈ attributes.indexTexts, ∃ spec, IndexSpec.parse entry.2 = .ok spec ∧
        ⟨spec.indexName table entry.1, spec.columns, entry.1.isUnique⟩ = index := by
  simp only [tableIndexes_eq, List.mem_filterMap, Index.ofText?_eq_some_iff]

theorem nodup_names_tableIndexes_iff :
    ((tableIndexes table attributes).map (·.name)).Nodup ↔
      attributes.indexTexts.Pairwise fun first second => ∀ spec other,
        IndexSpec.parse first.2 = .ok spec → IndexSpec.parse second.2 = .ok other →
          spec.indexName table first.1 ≠ other.indexName table second.1 := by
  rw [tableIndexes_eq, List.Nodup, List.pairwise_map, List.pairwise_filterMap]
  refine List.Pairwise.iff fun first second => ?_
  simp only [Index.ofText?_eq_some_iff]
  constructor
  · intro h spec other hs ho
    exact h _ ⟨spec, hs, rfl⟩ _ ⟨other, ho, rfl⟩
  · rintro h _ ⟨spec, hs, rfl⟩ _ ⟨other, ho, rfl⟩
    exact h spec other hs ho

end

-- ---------------------------------------------------------------------------
-- Indexes of columns
-- ---------------------------------------------------------------------------

section

variable {table : String} {columns : List Column}

theorem nodup_names_columnIndexes_iff :
    ((columnIndexes table columns).map (·.name)).Nodup ↔
      ∀ name, ∀ column ∈ columns, ∀ other ∈ columns,
        column.DeclaresIndex table .index name → ¬ other.DeclaresIndex table .uniqueIndex name := by
  have hkeys : ((columnIndexes table columns).map Index.key).Nodup := nodup_keys_columnIndexes
  rw [List.nodup_map_iff_inj_on (List.Nodup.of_map _ hkeys)]
  constructor
  · intro h name column hc other ho hplain hunique
    have hfirst := mem_columnIndexes_iff.mpr ⟨.index, name, ⟨column, hc, hplain⟩, rfl⟩
    have hsecond := mem_columnIndexes_iff.mpr ⟨.uniqueIndex, name, ⟨other, ho, hunique⟩, rfl⟩
    exact absurd (h _ hfirst _ hsecond rfl) (by simp [IndexKey.isUnique])
  · intro h first hfirst second hsecond hname
    obtain ⟨key, name, ⟨column, hc, hd⟩, rfl⟩ := mem_columnIndexes_iff.mp hfirst
    obtain ⟨key', name', ⟨column', hc', hd'⟩, rfl⟩ := mem_columnIndexes_iff.mp hsecond
    cases hname
    cases key <;> cases key'
    · rfl
    · exact absurd hd' (h name column hc column' hc' hd)
    · exact absurd hd (h name column' hc' column hc hd')
    · rfl

theorem nodup_columnsDeclaring {key : IndexKey} {name : String} :
    (columnsDeclaring table columns key name).Nodup :=
  nodup_eraseDups _

end

-- ---------------------------------------------------------------------------
-- Indexes of an entity
-- ---------------------------------------------------------------------------

/-- The tags of an entity declare no two indexes of one name. -/
structure Entity.IndexNamesApart (entity : Entity) : Prop where
  /-- No name is declared for a unique index and for another one. -/
  kinds : ∀ name, ∀ column ∈ entity.columns, ∀ other ∈ entity.columns,
    column.DeclaresIndex entity.table .index name →
      ¬ other.DeclaresIndex entity.table .uniqueIndex name
  texts : entity.attributes.indexTexts.Pairwise fun first second => ∀ spec other,
    IndexSpec.parse first.2 = .ok spec → IndexSpec.parse second.2 = .ok other →
      spec.indexName entity.table first.1 ≠ other.indexName entity.table second.1
  /-- What a text of the table's tag stands for has no name that a column declares. -/
  levels : ∀ entry ∈ entity.attributes.indexTexts, ∀ spec, IndexSpec.parse entry.2 = .ok spec →
    ∀ column ∈ entity.columns, ∀ key,
      ¬ column.DeclaresIndex entity.table key (spec.indexName entity.table entry.1)

namespace Entity.Assembled

variable {entity : Entity}

theorem nodup_indexNames_iff (h : entity.Assembled) :
    (entity.indexes.map (·.name)).Nodup ↔ entity.IndexNamesApart := by
  rw [h.indexes, List.map_append, List.nodup_append, nodup_names_columnIndexes_iff,
    nodup_names_tableIndexes_iff]
  constructor
  · rintro ⟨hkinds, htexts, hlevels⟩
    refine ⟨hkinds, htexts, fun entry he spec hs column hc key hd => ?_⟩
    have hshared := mem_columnIndexes_iff.mpr ⟨key, _, ⟨column, hc, hd⟩, rfl⟩
    have hown : ⟨_, _, _⟩ ∈ tableIndexes entity.table entity.attributes :=
      mem_tableIndexes_iff.mpr ⟨entry, he, spec, hs, rfl⟩
    exact hlevels _ (List.mem_map_of_mem hshared) _ (List.mem_map_of_mem hown) rfl
  · rintro ⟨hkinds, htexts, hlevels⟩
    refine ⟨hkinds, htexts, ?_⟩
    intro name hname name' hname' hsame
    obtain ⟨index, hi, rfl⟩ := List.mem_map.mp hname
    obtain ⟨own, ho, rfl⟩ := List.mem_map.mp hname'
    obtain ⟨key, name, ⟨column, hc, hd⟩, rfl⟩ := mem_columnIndexes_iff.mp hi
    obtain ⟨entry, he, spec, hs, rfl⟩ := mem_tableIndexes_iff.mp ho
    cases hsame
    exact hlevels entry he spec hs column hc key hd

theorem nodup_indexColumns_iff (h : entity.Assembled) :
    (∀ index ∈ entity.indexes, index.columns.Nodup) ↔
      ∀ entry ∈ entity.attributes.indexTexts, ∀ spec, IndexSpec.parse entry.2 = .ok spec →
        spec.columns.Nodup := by
  rw [h.indexes, List.forall_mem_append]
  constructor
  · rintro ⟨-, hown⟩ entry he spec hs
    exact hown _ (mem_tableIndexes_iff.mpr ⟨entry, he, spec, hs, rfl⟩)
  · intro htexts
    refine ⟨fun index hi => ?_, fun index hi => ?_⟩
    · obtain ⟨key, name, -, rfl⟩ := mem_columnIndexes_iff.mp hi
      exact nodup_columnsDeclaring
    · obtain ⟨entry, he, spec, hs, rfl⟩ := mem_tableIndexes_iff.mp hi
      exact htexts entry he spec hs

theorem indexColumns_ne_nil (h : entity.Assembled) :
    ∀ index ∈ entity.indexes, index.columns ≠ [] := by
  rw [h.indexes, List.forall_mem_append]
  refine ⟨fun index hi => ?_, fun index hi => ?_⟩
  · obtain ⟨key, name, ⟨column, hc, hd⟩, rfl⟩ := mem_columnIndexes_iff.mp hi
    exact List.ne_nil_of_mem (mem_columnsDeclaring.mpr ⟨column, hc, hd, rfl⟩)
  · obtain ⟨entry, -, spec, hs, rfl⟩ := mem_tableIndexes_iff.mp hi
    exact IndexSpec.columns_ne_nil hs

end Entity.Assembled

theorem Entity.WellFormed.indexColumns_known {model : Model} {entity : Entity}
    (h : entity.WellFormed model) (ha : entity.Assembled) :
    ∀ index ∈ entity.indexes, ∀ column ∈ index.columns, column ∈ entity.columnNames := by
  rw [ha.indexes, List.forall_mem_append]
  refine ⟨fun index hi name hn => ?_, fun index hi => ?_⟩
  · obtain ⟨key, _, -, rfl⟩ := mem_columnIndexes_iff.mp hi
    obtain ⟨column, hc, -, rfl⟩ := mem_columnsDeclaring.mp hn
    exact List.mem_map_of_mem hc
  · obtain ⟨⟨key, text⟩, he, spec, hs, rfl⟩ := mem_tableIndexes_iff.mp hi
    exact h.indexColumns key text spec (Attributes.mem_indexTexts.mp he) hs

-- ---------------------------------------------------------------------------
-- Indexes of valid models
-- ---------------------------------------------------------------------------

/-- In a model that is reported as valid, an index has columns, and only columns of its
entity. The indexes of an entity have distinct names exactly if its tags declare them apart,
and none has a column twice exactly if no text of the table's tag lists one twice. -/
theorem Model.indexes_of_isValid {cache : TagCache} {declarations : List Declaration}
    {model : Model} (hb : (build cache declarations).1 = .ok model)
    (hv : model.validate.isValid = true) {entity : Entity} (he : entity ∈ model.entities) :
    (∀ index ∈ entity.indexes,
      index.columns ≠ [] ∧ ∀ column ∈ index.columns, column ∈ entity.columnNames) ∧
    ((entity.indexes.map (·.name)).Nodup ↔ entity.IndexNamesApart) ∧
    ((∀ index ∈ entity.indexes, index.columns.Nodup) ↔
      ∀ entry ∈ entity.attributes.indexTexts, ∀ spec, IndexSpec.parse entry.2 = .ok spec →
        spec.columns.Nodup) := by
  have hwell := (wellFormed_of_isValid hb hv).entities entity he
  have hassembled := (coherent_of_build hb).assembled entity he
  refine ⟨fun index hi => ?_, hassembled.nodup_indexNames_iff, hassembled.nodup_indexColumns_iff⟩
  exact ⟨hassembled.indexColumns_ne_nil index hi, hwell.indexColumns_known hassembled index hi⟩

/-- Users with two indexes of one name, one of which has a column twice, and orders with
three indexes that are declared apart. -/
def crowdedIndexes : List Declaration := [
  { name := "User"
    file := "user.rs"
    line := 1
    table := some "index:by_name(name, name)"
    fields := [
      { name := "id", type := { base := "i64" }, attributes := some "primary_key", line := 2 },
      { name := "name", type := { base := "String" }, attributes := some "index:by_name",
        line := 3 } ] },
  { name := "Order"
    file := "order.rs"
    line := 1
    table := some "index:(state, total)"
    fields := [
      { name := "id", type := { base := "i64" }, attributes := some "primary_key", line := 2 },
      { name := "total", type := { base := "i64" }, attributes := some "unique_index:totals",
        line := 3 },
      { name := "state", type := { base := "String" },
        attributes := some "unique_index:totals; index", line := 4 } ] } ]

theorem crowdedIndexes_built :
    ∃ model, (Model.build {} crowdedIndexes).1 = .ok model ∧ model.validate.isValid = true ∧
      (∃ entity ∈ model.entities, entity.indexes =
        [⟨"by_name", ["name"], false⟩, ⟨"by_name", ["name", "name"], false⟩]) ∧
      ∃ entity ∈ model.entities, entity.indexes =
        [⟨"totals", ["total", "state"], true⟩, ⟨"idx_orders_state", ["state"], false⟩,
          ⟨"idx_orders_state_total", ["state", "total"], false⟩] := by
  have hany : ∃ model, (Model.build {} crowdedIndexes).1 = .ok model ∧
      (model.validate.isValid &&
        (model.entities.any fun entity => decide (entity.indexes =
          [⟨"by_name", ["name"], false⟩, ⟨"by_name", ["name", "name"], false⟩])) &&
        model.entities.any fun entity => decide (entity.indexes =
          [⟨"totals", ["total", "state"], true⟩, ⟨"idx_orders_state", ["state"], false⟩,
            ⟨"idx_orders_state_total", ["state", "total"], false⟩])) = true :=
    Model.built_of_any (by decide +kernel)
  simpa [and_assoc] using hany

theorem indexes_of_crowdedIndexes :
    ∃ model, (Model.build {} crowdedIndexes).1 = .ok model ∧ model.validate.isValid = true ∧
      (∃ entity ∈ model.entities, entity.indexes.length = 2 ∧ ¬ entity.IndexNamesApart) ∧
      ∃ entity ∈ model.entities, entity.indexes.length = 3 ∧ entity.IndexNamesApart := by
  obtain ⟨model, hb, hvalid, ⟨crowded, hc, hcrowded⟩, apart, ha, hapart⟩ := crowdedIndexes_built
  refine ⟨model, hb, hvalid, ⟨crowded, hc, by simp [hcrowded], fun h => ?_⟩,
    apart, ha, by simp [hapart], ?_⟩
  · obtain ⟨-, hnames, -⟩ := Model.indexes_of_isValid hb hvalid hc
    have hnodup := hnames.mpr h
    simp [hcrowded] at hnodup
  · obtain ⟨-, hnames, -⟩ := Model.indexes_of_isValid hb hvalid ha
    exact hnames.mp (by simp [hapart])

/-- Two indexes of one name are not reported, nor is an index that has a column twice. -/
theorem not_all_indexes_distinct :
    ¬ ∀ model, (∃ declarations, (Model.build {} declarations).1 = .ok model) →
      model.validate.isValid = true → ∀ entity ∈ model.entities,
        (entity.indexes.map (·.name)).Nodup ∧ ∀ index ∈ entity.indexes,
          index.columns ≠ [] ∧ index.columns.Nodup ∧
            ∀ column ∈ index.columns, column ∈ entity.columnNames := by
  intro hall
  obtain ⟨model, hb, hvalid, ⟨crowded, hc, hcrowded⟩, -⟩ := crowdedIndexes_built
  obtain ⟨hnames, -⟩ := hall model ⟨_, hb⟩ hvalid crowded hc
  simp [hcrowded] at hnames

end SchemaCompiler
