import SchemaCompiler.Proofs.Attributes.Accepted
import SchemaCompiler.Proofs.Entity.Constraints
import SchemaCompiler.Proofs.Entity.Indexes
import SchemaCompiler.Proofs.Model.Origin
import SchemaCompiler.Proofs.Model.Validity

/-!
# Declared constraints and indexes

An entity leaves out what a reader refuses, without a word. What a reader refuses is
an error of the tag, so an entity of a valid model has every check, enumeration and
index that its tags declare.
-/

namespace SchemaCompiler

open Sql

/-- Every check, enumeration and index that the tags of an entity declare is among its
constraints and indexes. -/
structure Entity.Complete (entity : Entity) : Prop where
  checks : entity.checks =
    (entity.columns.flatMap fun column =>
      (column.attributes.values "check").map fun expression => (some column.name, expression)) ++
    (entity.attributes.values "check").map fun expression => (none, expression)
  /-- One enumeration for a column with the key, and none for another column. -/
  enumerations : ∀ column ∈ entity.columns,
    entity.enumerations column.name = (column.attributes.get? "enum").toList.map enumItems
  tableIndexes : ∃ shared own, entity.indexes = shared ++ own ∧
    List.Forall₂ (fun entry index => index.DeclaredBy entity.table entry.1 entry.2)
      entity.attributes.indexTexts own
  columnIndexes : ∀ column ∈ entity.columns, ∀ key : IndexKey,
    column.attributes.has key.name = true →
      ∃ index ∈ entity.indexes, index.isUnique = key.isUnique ∧ column.name ∈ index.columns
  namedIndexes : ∀ column ∈ entity.columns, ∀ key : IndexKey,
    ∀ name ∈ column.attributes.values key.name,
      ∃ index ∈ entity.indexes,
        index.name = name ∧ index.isUnique = key.isUnique ∧ column.name ∈ index.columns

-- ---------------------------------------------------------------------------
-- Enumerations and indexes of one entity
-- ---------------------------------------------------------------------------

theorem Attributes.enumeration_of_accepted {attributes : Attributes}
    (h : ∀ diagnostic ∈ attributes.columnDiagnostics, diagnostic.severity ≠ .error) :
    ((attributes.value? "enum").bind (enumValues · |>.toOption)).toList =
      (attributes.get? "enum").toList.map enumItems := by
  cases hg : attributes.get? "enum" with
  | none => simp [value?, hg]
  | some text =>
    obtain ⟨values, hv⟩ := enumValues_of_get? h hg
    have hne : text ≠ "" := by
      rintro rfl
      cases hv
    rw [value?_eq_some_iff.mpr ⟨hg, hne⟩, Option.bind_some, hv, enumValues_ok hv]
    rfl

namespace Entity.Assembled

variable {entity : Entity} {column : Column} {key : IndexKey}

theorem index_of_mem_indexNames (h : entity.Assembled) (hc : column ∈ entity.columns)
    {name : String} (hn : name ∈ column.indexNames entity.table key) :
    ∃ index ∈ entity.indexes,
      index.name = name ∧ index.isUnique = key.isUnique ∧ column.name ∈ index.columns := by
  have hdeclares := Column.mem_indexNames_iff.mp hn
  have hcolumn : column.name ∈ columnsDeclaring entity.table entity.columns key name :=
    mem_columnsDeclaring.mpr ⟨column, hc, hdeclares, rfl⟩
  refine ⟨⟨name, _, key.isUnique⟩, ?_, rfl, rfl, hcolumn⟩
  rw [h.indexes]
  exact List.mem_append_left _ (mem_columnIndexes_iff.mpr ⟨key, name, ⟨column, hc, hdeclares⟩, rfl⟩)

end Entity.Assembled

-- ---------------------------------------------------------------------------
-- Entities of valid models
-- ---------------------------------------------------------------------------

namespace Model

/-- Whatever was read before, in a model that is reported as valid no entity misses
anything that its tags declare. -/
theorem complete_of_isValid {cache : TagCache} {declarations : List Declaration} {model : Model}
    (hb : (build cache declarations).1 = .ok model) (hv : model.validate.isValid = true)
    {entity : Entity} (he : entity ∈ model.entities) : entity.Complete := by
  have hwell := (wellFormed_of_isValid hb hv).entities entity he
  have hassembled := (coherent_of_build hb).assembled entity he
  constructor
  case checks => exact hassembled.checks
  case enumerations =>
    intro column hc
    rw [hassembled.enumerations hwell.distinctColumns hc]
    exact Attributes.enumeration_of_accepted (hwell.columns column hc).tag
  case tableIndexes =>
    refine ⟨_, _, hassembled.indexes, declaredBy_tableIndexes ?_⟩
    rintro ⟨key, text⟩ hm
    exact Attributes.indexSpec_of_mem_values hwell.tag (Attributes.mem_indexTexts.mp hm)
  case columnIndexes =>
    intro column hc key hk
    obtain ⟨name, hn⟩ := List.exists_mem_of_ne_nil _ (column.indexNames_ne_nil hk)
    obtain ⟨index, hm, -, hunique, hcolumn⟩ := hassembled.index_of_mem_indexNames hc hn
    exact ⟨index, hm, hunique, hcolumn⟩
  case namedIndexes =>
    intro column hc key name hn
    exact hassembled.index_of_mem_indexNames hc (Column.mem_indexNames hn)

end Model

/-- Orders with a check of the table and two of a column, an enumeration, an index of two
columns and one of the table. -/
def orders : List Declaration := [
  { name := "Order"
    file := "order.rs"
    line := 1
    table := some "check:total < 100 or state = 'open'; index: by_state (state, total)"
    fields := [
      { name := "id", type := { base := "i64" }, attributes := some "primary_key", line := 2 },
      { name := "total", type := { base := "i64" },
        attributes := some "check:total >= 0; unique_index:totals; check:total < 1000", line := 3 },
      { name := "state", type := { base := "String" },
        attributes := some "enum: open, closed; unique_index:totals; index", line := 4 } ] } ]

theorem complete_orders :
    ∃ model, (Model.build {} orders).1 = .ok model ∧ model.validate.isValid = true ∧
      ∃ entity ∈ model.entities, entity.columns.length = 3 ∧ entity.attributes.indexTexts ≠ [] ∧
        entity.Complete := by
  obtain ⟨model, hb, hp⟩ := @Model.built_of_any orders
    (fun model => model.validate.isValid && model.entities.any fun entity =>
      decide (entity.columns.length = 3) && !entity.attributes.indexTexts.isEmpty)
    (by decide +kernel)
  simp only [Bool.and_eq_true, List.any_eq_true, decide_eq_true_eq, Bool.not_eq_true',
    List.isEmpty_eq_false_iff] at hp
  obtain ⟨hvalid, entity, he, hlength, htexts⟩ := hp
  exact ⟨model, hb, hvalid, entity, he, hlength, htexts, Model.complete_of_isValid hb hvalid he⟩

end SchemaCompiler
