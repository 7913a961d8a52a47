import SchemaCompiler.Proofs.Attributes.Accepted
import SchemaCompiler.Proofs.Model.Origin
import SchemaCompiler.Proofs.Model.Validity

/-!
# Primary keys

What the methods of a repository rely on: an entity of a valid model has a primary key,
its columns are distinct, and none of them is nullable.
-/

namespace SchemaCompiler

structure Entity.Keyed (entity : Entity) : Prop where
  nonempty : entity.primaryKeys ≠ []
  distinct : entity.primaryKeys.Nodup
  columns : entity.primaryKeys = (entity.columns.filter (·.isPrimaryKey)).map (·.name)
  keys : ∀ column ∈ entity.columns, column.isPrimaryKey = true → column.isNullable = false
  required : ∀ column ∈ entity.columns, column.attributes.has "not_null" = true →
    column.isNullable = false

theorem Column.isNullable_ofField {field : Field} {attributes : Attributes}
    (hnull : attributes.has "null" = false)
    (hdenied : attributes.has "not_null" = true ∨ attributes.has "primary_key" = true) :
    (Column.ofField field attributes).isNullable = false := by
  rcases hdenied with hdenied | hdenied <;> simp [ofField, hnull, hdenied]

theorem Entity.From.isNullable {declaration : Declaration} {entity : Entity}
    (h : entity.From declaration) {column : Column} (hc : column ∈ entity.columns)
    (ht : ∀ diagnostic ∈ column.attributes.columnDiagnostics, diagnostic.severity ≠ .error)
    (hdenied : column.attributes.has "not_null" = true ∨ column.isPrimaryKey = true) :
    column.isNullable = false := by
  obtain ⟨field, -, attributes, rfl⟩ := h.column hc
  have hnull : attributes.has "null" = false := by
    rcases hdenied with hdenied | hdenied
    · exact Attributes.null_eq_false_of_notNull ht hdenied
    · exact Attributes.null_eq_false_of_primaryKey ht hdenied
  exact Column.isNullable_ofField hnull hdenied

namespace Model

/-- The entities of a model that is reported as valid are keyed. -/
theorem keyed_of_isValid {cache : TagCache} {declarations : List Declaration} {model : Model}
    (hb : (build cache declarations).1 = .ok model) (hv : model.validate.isValid = true)
    {entity : Entity} (he : entity ∈ model.entities) : entity.Keyed := by
  have hwell := (wellFormed_of_isValid hb hv).entities entity he
  have hkeys := ((coherent_of_build hb).assembled entity he).primaryKeys
  obtain ⟨declaration, -, hfrom⟩ := from_of_build hb entity he
  constructor
  case nonempty =>
    obtain ⟨column, hc, hp⟩ := hwell.primaryKey
    rw [hkeys]
    exact List.ne_nil_of_mem (List.mem_map_of_mem (List.mem_filter.mpr ⟨hc, hp⟩))
  case distinct =>
    rw [hkeys]
    exact hwell.distinctColumns.sublist (List.filter_sublist.map _)
  case columns => exact hkeys
  case keys =>
    intro column hc hp
    exact hfrom.isNullable hc (hwell.columns column hc).tag (.inr hp)
  case required =>
    intro column hc hn
    exact hfrom.isNullable hc (hwell.columns column hc).tag (.inl hn)

end Model

/-- Seats with a key of two columns, one of them of a pointer type, and a pointer that must
not be null. -/
def seats : List Declaration := [
  { name := "Seat"
    file := "seat.rs"
    line := 1
    fields := [
      { name := "hall", type := { base := "i64", isPointer := true },
        attributes := some "primary_key", line := 2 },
      { name := "number", type := { base := "i64" }, attributes := some "primary_key", line := 3 },
      { name := "row", type := { base := "i64", isPointer := true },
        attributes := some "not_null", line := 4 },
      { name := "note", type := { base := "String", isPointer := true }, line := 5 } ] } ]

theorem keyed_seats :
    ∃ model, (Model.build {} seats).1 = .ok model ∧ model.validate.isValid = true ∧
      ∃ entity ∈ model.entities, entity.primaryKeys = ["hall", "number"] ∧
        (∃ column ∈ entity.columns, column.isNullable = true) ∧ entity.Keyed := by
  have hany : ∃ model, (Model.build {} seats).1 = .ok model ∧
      (model.validate.isValid && model.entities.any fun entity =>
        decide (entity.primaryKeys = ["hall", "number"]) &&
          entity.columns.any (·.isNullable)) = true :=
    Model.built_of_any (by decide +kernel)
  simp only [Bool.and_eq_true, List.any_eq_true, decide_eq_true_eq] at hany
  obtain ⟨model, hb, hvalid, entity, he, hkeys, hnullable⟩ := hany
  exact ⟨model, hb, hvalid, entity, he, hkeys, hnullable, Model.keyed_of_isValid hb hvalid he⟩

end SchemaCompiler
