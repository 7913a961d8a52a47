import Mathlib.Data.List.Find
import SchemaCompiler.Proofs.Attributes.Accepted
import SchemaCompiler.Proofs.Model.Origin
import SchemaCompiler.Proofs.Model.Validity
import SchemaCompiler.Proofs.Naming.Snake

/-!
# Column names

The name of a column is given by its tag or is the snake case of its field. A report
tells of every name that is given and is no identifier. It does not look at the names
that are derived, and not every field name has an identifier as its snake case.
-/

namespace SchemaCompiler

open Sql

-- ---------------------------------------------------------------------------
-- Derived names
-- ---------------------------------------------------------------------------

/-- A field name that has an identifier as its snake case. So it has no mark and is not
made of underscores only. -/
structure NamesColumn (field : String) : Prop where
  latin : ∀ c ∈ field.toList, c = '_' ∨ Naming.isLatin c = true
  letter : ∃ c, field.toList.find? (· ≠ '_') = some c ∧ c.isDigit = false

theorem Source.IsName.isIdentifier_snake_iff {name : String} (h : IsName name) :
    isIdentifier (Naming.snake name) = true ↔ NamesColumn name := by
  have hfind : name.toList.find? (!Naming.isSeparator ·) = name.toList.find? (· ≠ '_') :=
    h.spelled.find?_eq_initial?
  rw [Naming.isIdentifier_snake, hfind, Bool.and_eq_true, List.all_eq_true, Option.any_eq_true]
  constructor
  · rintro ⟨hl, c, hc, hd⟩
    refine ⟨fun c hm => ?_, c, hc, by simpa using hd⟩
    simpa [h.spelled.isSeparator hm] using hl c hm
  · rintro ⟨hl, c, hc, hd⟩
    refine ⟨fun c hm => ?_, c, hc, by simpa using hd⟩
    simpa [h.spelled.isSeparator hm] using hl c hm

-- ---------------------------------------------------------------------------
-- Column names
-- ---------------------------------------------------------------------------

namespace Model

/-- In a model of scanned text that is reported as valid, a column has an identifier as
its name exactly if its tag gives the name or its field names a column. -/
theorem isIdentifier_columnName_iff {path text : String} {reader : Reader} {cache : TagCache}
    {model : Model}
    (hb : (build cache (ScanResult.ofText path text reader).declarations).1 = .ok model)
    (hv : model.validate.isValid = true) {entity : Entity} (he : entity ∈ model.entities)
    {column : Column} (hc : column ∈ entity.columns) :
    isIdentifier column.name = true ↔
      (column.attributes.value? "column").isSome = true ∨ NamesColumn column.fieldName := by
  have hwell := wellFormed_of_isValid hb hv
  have htag := ((hwell.entities entity he).columns column hc).tag
  obtain ⟨declaration, hd, hfrom⟩ := from_of_build hb entity he
  obtain ⟨field, hf, attributes, rfl⟩ := hfrom.column hc
  have hname := (ScanResult.named_ofText path text reader declaration hd).fields field hf
  cases hgiven : attributes.value? "column" with
  | some name =>
    have hi := Attributes.isIdentifier_of_value? htag hgiven
    simp [Column.ofField, hgiven, hi]
  | none => simp [Column.ofField, hgiven, hname.isIdentifier_snake_iff]

/-- A field name that does not name a column, under a name from its tag, and another one
with a mark. -/
def markedSource : String :=
  "#[db = \"table:lines\"]
pub struct Line \x7b
    #[db = \"primary_key; column:id\"]
    pub _1: i64,
    pub r#type: String,
\x7d
"

theorem markedSource_built :
    ∃ model, (build {} (ScanResult.ofText "line.rs" markedSource).declarations).1 = .ok model ∧
      model.validate.isValid = true ∧ ∃ entity ∈ model.entities, ∃ column ∈ entity.columns,
        isIdentifier column.name = false := by
  have hany : ∃ model,
      (build {} (ScanResult.ofText "line.rs" markedSource).declarations).1 = .ok model ∧
        (model.validate.isValid &&
          model.entities.any (·.columns.any (!isIdentifier ·.name))) = true :=
    built_of_any (by decide +kernel)
  simpa using hany

theorem columnName_of_markedSource :
    ∃ model, (build {} (ScanResult.ofText "line.rs" markedSource).declarations).1 = .ok model ∧
      model.validate.isValid = true ∧ ∃ entity ∈ model.entities, ∃ column ∈ entity.columns,
        isIdentifier column.name = false ∧ column.attributes.value? "column" = none ∧
          ¬ NamesColumn column.fieldName := by
  obtain ⟨model, hb, hvalid, entity, he, column, hc, hn⟩ := markedSource_built
  have hneither := (isIdentifier_columnName_iff hb hvalid he hc).not.mp (by simp [hn])
  rw [not_or, Option.not_isSome_iff_eq_none] at hneither
  exact ⟨model, hb, hvalid, entity, he, column, hc, hn, hneither⟩

/-- The name derived from a field with a mark is reported nowhere and is no identifier. -/
theorem not_all_columnNames_identifiers :
    ¬ ∀ (path text : String) (model : Model),
      (build {} (ScanResult.ofText path text).declarations).1 = .ok model →
        model.validate.isValid = true →
          ∀ entity ∈ model.entities, ∀ column ∈ entity.columns,
            isIdentifier column.name = true := by
  intro hall
  obtain ⟨model, hb, hvalid, entity, he, column, hc, hn⟩ := markedSource_built
  simp [hall _ _ model hb hvalid entity he column hc] at hn

end Model

end SchemaCompiler
