import Mathlib.Data.List.Induction
import SchemaCompiler.Proofs.Attributes.Values
import SchemaCompiler.Proofs.Model.Build
import SchemaCompiler.Proofs.Model.Group
import SchemaCompiler.Proofs.Sql.Reference

/-!
# Indexes of entities

Columns that declare one name and uniqueness share an index. `filter_columnIndexes`: there
is one index for each name and uniqueness that a column declares, over the columns that
declare it, and no other. Each text of the table's tag declares an index of its own.
-/

namespace SchemaCompiler

-- ---------------------------------------------------------------------------
-- Sharing
-- ---------------------------------------------------------------------------

/-- Entries with one key share an index. -/
def IndexEntry.key (entry : IndexEntry) : String × Bool :=
  (entry.name, entry.isUnique)

def Index.key (index : Index) : String × Bool :=
  (index.name, index.isUnique)

def columnsUnder (entries : List IndexEntry) (key : String × Bool) : List String :=
  ((entries.filter (·.key = key)).map (·.column)).eraseDups

section

variable {entry : IndexEntry} {entries : List IndexEntry} {indexes : List Index}
  {key : String × Bool}

theorem addToIndex_of_notMem (h : entry.key ∉ indexes.map Index.key) :
    addToIndex entry.name entry.column entry.isUnique indexes =
      indexes ++ [⟨entry.name, [entry.column], entry.isUnique⟩] := by
  induction indexes with
  | nil => rfl
  | cons index rest ih =>
    rw [List.map_cons, List.mem_cons, not_or] at h
    have hother : ¬ (index.name = entry.name ∧ index.isUnique = entry.isUnique) := by
      rintro ⟨hname, hunique⟩
      exact h.1 (Prod.ext hname.symm hunique.symm)
    rw [addToIndex, if_neg hother, ih h.2, List.cons_append]

theorem addToIndex_of_mem {keys : List (String × Bool)} {columns : String × Bool → List String}
    (hn : keys.Nodup) (h : entry.key ∈ keys) :
    addToIndex entry.name entry.column entry.isUnique
        (keys.map fun k => ⟨k.1, columns k, k.2⟩) =
      keys.map fun k =>
        ⟨k.1, if k = entry.key ∧ entry.column ∉ columns k then columns k ++ [entry.column]
          else columns k, k.2⟩ := by
  induction keys with
  | nil => cases h
  | cons k rest ih =>
    obtain ⟨hk, hr⟩ := List.nodup_cons.mp hn
    rw [List.map_cons, List.map_cons, addToIndex]
    by_cases he : k = entry.key
    · subst he
      -- No later index has the key, so the others stay as they are.
      have hrest : ∀ j ∈ rest, j ≠ entry.key := fun j hj e => hk (e ▸ hj)
      rw [if_pos ⟨rfl, rfl⟩]
      congr 1
      · by_cases hc : entry.column ∈ columns entry.key <;> simp [hc]
      · refine List.map_congr_left fun j hj => ?_
        rw [if_neg fun hj' => hrest j hj hj'.1]
    · have hother : ¬ (k.1 = entry.name ∧ k.2 = entry.isUnique) := fun ⟨hname, hunique⟩ =>
        he (Prod.ext hname hunique)
      rw [if_neg hother, if_neg fun hk' => he hk'.1,
        ih hr ((List.mem_cons.mp h).resolve_left (Ne.symm he))]

theorem columnsUnder_concat :
    columnsUnder (entries ++ [entry]) key =
      if key = entry.key ∧ entry.column ∉ columnsUnder entries key then
        columnsUnder entries key ++ [entry.column]
      else columnsUnder entries key := by
  by_cases hk : key = entry.key
  · subst hk
    have hlist : ((entries ++ [entry]).filter (·.key = entry.key)).map (·.column) =
        (entries.filter (·.key = entry.key)).map (·.column) ++ [entry.column] := by simp
    rw [columnsUnder, hlist, eraseDups_concat]
    by_cases hc : entry.column ∈ columnsUnder entries entry.key
    · rw [if_pos (List.contains_iff_mem.mpr (List.mem_eraseDups.mp hc)),
        if_neg fun h => h.2 hc, columnsUnder]
    · rw [if_neg fun h => hc (List.mem_eraseDups.mpr (List.contains_iff_mem.mp h)),
        if_pos ⟨rfl, hc⟩, columnsUnder]
  · simp [columnsUnder, hk, Ne.symm hk]

theorem columnsUnder_eq_nil (h : key ∉ entries.map IndexEntry.key) :
    columnsUnder entries key = [] := by
  have hnone : entries.filter (·.key = key) = [] := by
    rw [List.filter_eq_nil_iff]
    intro entry hm
    have hk : entry.key ≠ key := fun hk => h (List.mem_map.mpr ⟨entry, hm, hk⟩)
    simpa using hk
  rw [columnsUnder, hnone]
  rfl

/-- After all steps there is one index for every key, in the order in which the keys first
occur. -/
theorem foldl_addToIndex (entries : List IndexEntry) :
    entries.foldl
        (fun indexes entry => addToIndex entry.name entry.column entry.isUnique indexes) [] =
      (entries.map IndexEntry.key).eraseDups.map fun k => ⟨k.1, columnsUnder entries k, k.2⟩ := by
  induction entries using List.reverseRecOn with
  | nil => rfl
  | append_singleton entries entry ih =>
    rw [List.foldl_append, List.foldl_cons, List.foldl_nil, ih, List.map_append, List.map_singleton,
      eraseDups_concat]
    simp only [columnsUnder_concat]
    split
    · rename_i hm
      have hmem : entry.key ∈ (entries.map IndexEntry.key).eraseDups := by simpa using hm
      exact addToIndex_of_mem (nodup_eraseDups _) hmem
    · rename_i hm
      have hnew : entry.key ∉ entries.map IndexEntry.key := by simpa using hm
      have hother : ∀ k ∈ (entries.map IndexEntry.key).eraseDups, k ≠ entry.key := by
        rintro k hk rfl
        exact hnew (List.mem_eraseDups.mp hk)
      rw [addToIndex_of_notMem (by simpa [Index.key, Function.comp_def] using hnew),
        List.map_append, List.map_singleton, columnsUnder_eq_nil hnew]
      congr 1
      · refine List.map_congr_left fun k hk => ?_
        rw [if_neg fun h => hother k hk h.1]
      · simp [IndexEntry.key]

end

-- ---------------------------------------------------------------------------
-- What a column declares
-- ---------------------------------------------------------------------------

theorem IndexKey.mem_all (key : IndexKey) : key ∈ IndexKey.all := by
  cases key <;> simp [all]

theorem IndexKey.isUnique_inj {a b : IndexKey} : a.isUnique = b.isUnique ↔ a = b := by
  cases a <;> cases b <;> simp [isUnique]

theorem IndexKey.exists_isUnique_eq : ∀ isUnique, ∃ key : IndexKey, key.isUnique = isUnique
  | false => ⟨.index, rfl⟩
  | true => ⟨.uniqueIndex, rfl⟩

/-- The tag gives the name under the key. Or it gives the key without a name, and the name
is made of the table and the column. -/
def Column.DeclaresIndex (table : String) (key : IndexKey) (name : String) (column : Column) :
    Prop :=
  name ∈ column.attributes.values key.name ∨
    column.attributes.has key.name = true ∧ column.attributes.values key.name = [] ∧
      name = key.defaultName table column.name

instance {table name : String} {key : IndexKey} {column : Column} :
    Decidable (column.DeclaresIndex table key name) :=
  inferInstanceAs (Decidable (_ ∨ _ ∧ _ ∧ _))

namespace Column

variable {table name : String} {column : Column} {columns : List Column} {key : IndexKey}

theorem mem_indexNames_iff :
    name ∈ column.indexNames table key ↔ column.DeclaresIndex table key name := by
  rw [indexNames, DeclaresIndex]
  cases hh : column.attributes.has key.name with
  | false =>
    have hnone : name ∉ column.attributes.values key.name := by
      intro hv
      simp [Attributes.has_of_mem_values hv] at hh
    simp [hnone]
  | true => cases hv : column.attributes.values key.name <;> simp

theorem indexNames_ne_nil (h : column.attributes.has key.name = true) :
    column.indexNames table key ≠ [] := by
  rw [indexNames, if_neg (by simp [h])]
  split
  · simp
  · assumption

theorem mem_indexNames (h : name ∈ column.attributes.values key.name) :
    name ∈ column.indexNames table key :=
  mem_indexNames_iff.mpr (.inl h)

theorem filter_indexEntries :
    ((column.indexEntries table).filter (·.key = (name, key.isUnique))).map (·.column) =
      List.replicate ((column.indexNames table key).count name) column.name := by
  have hone (k : IndexKey) :
      (((column.indexNames table k).map fun n =>
        (⟨n, column.name, k.isUnique⟩ : IndexEntry)).filter
          (·.key = (name, key.isUnique))).map (·.column) =
        if k.isUnique = key.isUnique then
          List.replicate ((column.indexNames table k).count name) column.name
        else [] := by
    split <;> rename_i hk
    · simp [List.filter_map, Function.comp_def, IndexEntry.key, hk, List.count_eq_length_filter,
        ← List.map_const', beq_eq_decide]
    · simp [IndexEntry.key, hk]
  simp only [indexEntries, IndexKey.all, List.flatMap_cons, List.flatMap_nil, List.append_nil,
    List.filter_append, List.map_append, hone]
  cases key <;> simp [IndexKey.isUnique]

theorem key_mem_indexEntries_iff :
    (name, key.isUnique) ∈ (columns.flatMap (·.indexEntries table)).map IndexEntry.key ↔
      ∃ column ∈ columns, column.DeclaresIndex table key name := by
  constructor
  · intro h
    obtain ⟨entry, he, hkey⟩ := List.mem_map.mp h
    obtain ⟨column, hc, he⟩ := List.mem_flatMap.mp he
    obtain ⟨k, -, he⟩ := List.mem_flatMap.mp he
    obtain ⟨n, hn, rfl⟩ := List.mem_map.mp he
    obtain ⟨rfl, hu⟩ := Prod.mk.inj hkey
    obtain rfl := IndexKey.isUnique_inj.mp hu
    exact ⟨column, hc, mem_indexNames_iff.mp hn⟩
  · rintro ⟨column, hc, hd⟩
    have hentry : ⟨name, column.name, key.isUnique⟩ ∈ column.indexEntries table :=
      List.mem_flatMap.mpr
        ⟨key, key.mem_all, List.mem_map.mpr ⟨name, mem_indexNames_iff.mpr hd, rfl⟩⟩
    exact List.mem_map.mpr ⟨_, List.mem_flatMap.mpr ⟨column, hc, hentry⟩, rfl⟩

end Column

/-- The columns that declare the name under the key, each once, in order. -/
def columnsDeclaring (table : String) (columns : List Column) (key : IndexKey) (name : String) :
    List String :=
  ((columns.filter (·.DeclaresIndex table key name)).map (·.name)).eraseDups

section

variable {table name : String} {columns : List Column} {key : IndexKey}

theorem columnsUnder_indexEntries :
    columnsUnder (columns.flatMap (·.indexEntries table)) (name, key.isUnique) =
      columnsDeclaring table columns key name := by
  -- A column that declares the name adds copies of its own name, of which one counts.
  induction columns using List.reverseRecOn with
  | nil => rfl
  | append_singleton columns column ih =>
    have hsplit : columnsUnder ((columns ++ [column]).flatMap (·.indexEntries table))
        (name, key.isUnique) =
          (((columns.flatMap (·.indexEntries table)).filter (·.key = (name, key.isUnique))).map
            (·.column) ++
              List.replicate ((column.indexNames table key).count name) column.name).eraseDups := by
      rw [← Column.filter_indexEntries, columnsUnder, List.flatMap_append, List.flatMap_singleton,
        List.filter_append, List.map_append]
    rw [hsplit]
    by_cases hd : column.DeclaresIndex table key name
    · obtain ⟨n, hn⟩ := Nat.exists_eq_succ_of_ne_zero
        (List.count_pos_iff.mpr (Column.mem_indexNames_iff.mpr hd)).ne'
      have hfilter : (columns ++ [column]).filter (·.DeclaresIndex table key name) =
          columns.filter (·.DeclaresIndex table key name) ++ [column] := by simp [hd]
      rw [hn, eraseDups_append_replicate, columnsDeclaring, hfilter, List.map_append,
        List.map_singleton]
      exact eraseDups_concat_congr ih
    · rw [List.count_eq_zero.mpr fun h => hd (Column.mem_indexNames_iff.mp h)]
      simpa [columnsDeclaring, hd, columnsUnder] using ih

theorem filter_columnIndexes :
    (columnIndexes table columns).filter (·.key = (name, key.isUnique)) =
      if ∃ column ∈ columns, column.DeclaresIndex table key name then
        [⟨name, columnsDeclaring table columns key name, key.isUnique⟩]
      else [] := by
  have hfilter : (columnIndexes table columns).filter (·.key = (name, key.isUnique)) =
      (((columns.flatMap (·.indexEntries table)).map IndexEntry.key).eraseDups.filter
        (· = (name, key.isUnique))).map fun k =>
          ⟨k.1, columnsUnder (columns.flatMap (·.indexEntries table)) k, k.2⟩ := by
    rw [columnIndexes, foldl_addToIndex, List.filter_map]
    rfl
  rw [hfilter, List.filter_eq, (nodup_eraseDups _).count]
  simp only [List.mem_eraseDups, Column.key_mem_indexEntries_iff]
  split
  · rw [← columnsUnder_indexEntries]
    rfl
  · rfl

theorem mem_columnsDeclaring {column : String} :
    column ∈ columnsDeclaring table columns key name ↔
      ∃ declaring ∈ columns, declaring.DeclaresIndex table key name ∧ declaring.name = column := by
  simp [columnsDeclaring, and_assoc]

theorem mem_columnIndexes_iff {index : Index} :
    index ∈ columnIndexes table columns ↔
      ∃ (key : IndexKey) (name : String),
        (∃ column ∈ columns, column.DeclaresIndex table key name) ∧
          index = ⟨name, columnsDeclaring table columns key name, key.isUnique⟩ := by
  have hfilter (key : IndexKey) (name : String) :
      index ∈ (columnIndexes table columns).filter (·.key = (name, key.isUnique)) ↔
        (∃ column ∈ columns, column.DeclaresIndex table key name) ∧
          index = ⟨name, columnsDeclaring table columns key name, key.isUnique⟩ := by
    rw [filter_columnIndexes]
    split <;> rename_i hd <;> simp [hd]
  simp only [← hfilter]
  constructor
  · intro h
    obtain ⟨key, hkey⟩ := IndexKey.exists_isUnique_eq index.isUnique
    exact ⟨key, index.name, List.mem_filter.mpr ⟨h, by simp [Index.key, hkey]⟩⟩
  · rintro ⟨key, name, h⟩
    exact List.mem_of_mem_filter h

theorem nodup_keys_columnIndexes : ((columnIndexes table columns).map Index.key).Nodup := by
  rw [columnIndexes, foldl_addToIndex, List.map_map]
  have hkey : Index.key ∘ (fun k => (⟨k.1, columnsUnder (columns.flatMap (·.indexEntries table)) k,
      k.2⟩ : Index)) = id := rfl
  rw [hkey, List.map_id]
  exact nodup_eraseDups _

end

-- ---------------------------------------------------------------------------
-- What a table declares
-- ---------------------------------------------------------------------------

open Sql

/-- The texts of a table's tag that stand for indexes, under their keys. -/
def Attributes.indexTexts (attributes : Attributes) : List (IndexKey × String) :=
  IndexKey.all.flatMap fun key => (attributes.values key.name).map fun text => (key, text)

/-- The index that a text declares under a key. Without a name it is named after its
columns. -/
def Index.DeclaredBy (table : String) (key : IndexKey) (text : String) (index : Index) : Prop :=
  ∃ spec : IndexSpec, spec.IsWritten text ∧ index.columns = spec.columns ∧
    index.isUnique = key.isUnique ∧
      index.name = spec.name.getD (key.defaultName table (Text.join "_" spec.columns))

variable {table : String} {attributes : Attributes}

theorem Attributes.mem_indexTexts {key : IndexKey} {text : String} :
    (key, text) ∈ attributes.indexTexts ↔ text ∈ attributes.values key.name := by
  simp [indexTexts, key.mem_all]

def Index.ofText? (table : String) (key : IndexKey) (text : String) : Option Index :=
  (IndexSpec.parse text).toOption.map fun spec =>
    ⟨spec.name.getD (key.defaultName table (Text.join "_" spec.columns)), spec.columns,
      key.isUnique⟩

theorem tableIndexes_eq :
    tableIndexes table attributes =
      attributes.indexTexts.filterMap fun entry => Index.ofText? table entry.1 entry.2 := by
  rw [tableIndexes, Attributes.indexTexts, List.filterMap_flatMap]
  simp only [List.filterMap_map, Function.comp_def, Index.ofText?]

theorem Index.declaredBy_of_parse (table : String) (key : IndexKey) {text : String}
    {spec : IndexSpec} (h : IndexSpec.parse text = .ok spec) :
    ∃ index, ofText? table key text = some index ∧ index.DeclaredBy table key text := by
  obtain ⟨index, hindex⟩ : ∃ index, ofText? table key text = some index := by
    simp [ofText?, h, Except.toOption]
  refine ⟨index, hindex, spec, IndexSpec.isWritten_of_parse h, ?_⟩
  rw [ofText?, h] at hindex
  cases hindex
  exact ⟨rfl, rfl, rfl⟩

theorem declaredBy_tableIndexes
    (h : ∀ entry ∈ attributes.indexTexts, ∃ spec, IndexSpec.parse entry.2 = .ok spec) :
    List.Forall₂ (fun entry index => index.DeclaredBy table entry.1 entry.2)
      attributes.indexTexts (tableIndexes table attributes) := by
  rw [tableIndexes_eq]
  generalize attributes.indexTexts = texts at h
  induction texts with
  | nil => exact .nil
  | cons entry rest ih =>
    rw [List.forall_mem_cons] at h
    obtain ⟨⟨spec, hspec⟩, hrest⟩ := h
    obtain ⟨index, hindex, hdeclared⟩ := Index.declaredBy_of_parse table entry.1 hspec
    rw [List.filterMap_cons, hindex]
    exact .cons hdeclared (ih hrest)

-- ---------------------------------------------------------------------------
-- Indexes of an entity
-- ---------------------------------------------------------------------------

namespace Entity

theorem Assembled.indexes {entity : Entity} (h : entity.Assembled) :
    entity.indexes = columnIndexes entity.table entity.columns ++
      tableIndexes entity.table entity.attributes := by
  obtain ⟨declaration, attributes, fields, rfl⟩ := h
  rfl

/-- The indexes that the columns share come before those of the table's tag. -/
structure SharesIndexes (entity : Entity) (shared : List Index) : Prop where
  indexes : entity.indexes = shared ++
    entity.attributes.indexTexts.filterMap fun entry => Index.ofText? entity.table entry.1 entry.2
  /-- There is one index for a name and uniqueness that columns declare: it has the columns
  that declare it, each once, in order. There is none for another. -/
  grouped : ∀ (key : IndexKey) (name : String),
    shared.filter (fun index => index.name = name ∧ index.isUnique = key.isUnique) =
      if ∃ column ∈ entity.columns, column.DeclaresIndex entity.table key name then
        [⟨name, columnsDeclaring entity.table entity.columns key name, key.isUnique⟩]
      else []

/-- Whatever was read before, the columns of an entity share their indexes. -/
theorem sharesIndexes_of_build {cache : TagCache} {declaration : Declaration} {entity : Entity}
    (h : (Entity.build cache declaration).1 = .ok entity) :
    ∃ shared, entity.SharesIndexes shared := by
  refine ⟨columnIndexes entity.table entity.columns, ?_, fun key name => ?_⟩
  · rw [(assembled_of_build h).indexes, tableIndexes_eq]
  · rw [← filter_columnIndexes]
    refine List.filter_congr fun index _ => ?_
    simp [Index.key, Prod.ext_iff]

end Entity

/-- Books with a place that is made of two columns, an index under the name that another
column's index has by default, and an index of the table. -/
def books : Declaration :=
  { name := "Book"
    file := "book.rs"
    line := 1
    table := some "index:(shelf, title)"
    fields := [
      { name := "shelf", type := { base := "i32" }, attributes := some "index; unique_index:place",
        line := 2 },
      { name := "row", type := { base := "i32" },
        attributes := some "unique_index:place; index:idx_books_shelf; unique_index:place",
        line := 3 },
      { name := "title", type := { base := "String" }, attributes := some "unique_index",
        line := 4 } ] }

theorem sharesIndexes_of_books :
    ∃ entity, (Entity.build {} books).1 = .ok entity ∧
      entity.indexes = [⟨"idx_books_shelf", ["shelf", "row"], false⟩,
        ⟨"place", ["shelf", "row"], true⟩, ⟨"uq_books_title", ["title"], true⟩,
        ⟨"idx_books_shelf_title", ["shelf", "title"], false⟩] ∧
      ∃ shared, entity.SharesIndexes shared := by
  have hany : (Entity.build {} books).1.toOption.any (fun entity =>
      decide (entity.indexes = [⟨"idx_books_shelf", ["shelf", "row"], false⟩,
        ⟨"place", ["shelf", "row"], true⟩, ⟨"uq_books_title", ["title"], true⟩,
        ⟨"idx_books_shelf_title", ["shelf", "title"], false⟩])) = true := by decide +kernel
  obtain ⟨entity, hb, hindexes⟩ := ok_of_any hany
  exact ⟨entity, hb, of_decide_eq_true hindexes, Entity.sharesIndexes_of_build hb⟩

end SchemaCompiler
