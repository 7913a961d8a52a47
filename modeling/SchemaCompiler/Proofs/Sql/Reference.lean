import Mathlib.Data.List.Basic
import SchemaCompiler.Proofs.Text.Split
import SchemaCompiler.Sql.Reference

/-!
# Indexes and enumerations as they are written

What a text says that is read as an index or as an enumeration.
-/

namespace SchemaCompiler.Sql

open Text

-- ---------------------------------------------------------------------------
-- Indexes
-- ---------------------------------------------------------------------------

/-- The text lists the columns in parentheses at its end, after the name if there is
one. -/
def IndexSpec.IsWritten (spec : IndexSpec) (text : String) : Prop :=
  ∃ before inner, trim text.toList = before ++ '(' :: (inner ++ [')']) ∧ '(' ∉ before ∧
    spec.name = (if trim before = [] then none else some (.ofList (trim before))) ∧
      spec.columns = listItems inner

theorem IndexSpec.isWritten_of_parse {text : String} {spec : IndexSpec}
    (h : parse text = .ok spec) : spec.IsWritten text := by
  simp only [parse] at h
  split at h
  · cases h
  · rename_i before after hcut
    obtain ⟨htext, hbefore⟩ := cut?_eq_some_iff.mp hcut
    split at h
    · cases h
    · rename_i hlast
      have hafter : after = after.dropLast ++ [')'] :=
        (List.dropLast_append_getLast? _ (by simpa using hlast)).symm
      refine ⟨before, after.dropLast, by rw [htext, ← hafter], hbefore, ?_⟩
      split at h
      · cases h
      · split at h
        · cases h
        · split at h
          · cases h
            rename_i hname
            simpa using hname
          · split at h <;> cases h
            rename_i hname _
            simpa using hname

-- ---------------------------------------------------------------------------
-- Enumerations
-- ---------------------------------------------------------------------------

/-- The trimmed items of a list that commas part. -/
def enumItems (text : String) : List String :=
  (pieces ',' text.toList).map fun item => .ofList (trim item)

theorem enumValuesFrom_ok {text : String} {seen values : List String} {items : List (List Char)}
    (h : enumValuesFrom text seen items = .ok values) :
    values = seen ++ items.map fun item => .ofList (trim item) := by
  induction items generalizing seen with
  | nil =>
    cases h
    simp
  | cons item rest ih =>
    simp only [enumValuesFrom] at h
    split at h
    · cases h
    · split at h
      · cases h
      · split at h
        · cases h
        · rw [ih h]
          simp

theorem enumValues_ok {text : String} {values : List String} (h : enumValues text = .ok values) :
    values = enumItems text := by
  rw [enumValues] at h
  split at h
  · cases h
  · simpa [enumItems] using enumValuesFrom_ok h

end SchemaCompiler.Sql
