import SchemaCompiler.Attributes.Diagnostic
import SchemaCompiler.Entity.Build
import SchemaCompiler.Proofs.Attributes.Values

/-!
# Accepted tags

What a tag is known to say once its diagnostics hold no error: every value that a
reader takes from it is one that the reader does not refuse, and no two of its keys
exclude each other.
-/

namespace SchemaCompiler.Attributes

open Sql

variable {attributes : Attributes} {key text value : String}

-- ---------------------------------------------------------------------------
-- Entries
-- ---------------------------------------------------------------------------

theorem mem_entries_of_get? (h : attributes.get? key = some text) :
    (key, text) ∈ attributes.entries :=
  mem_of_lookup_eq_some h

theorem value?_eq_some_iff :
    attributes.value? key = some value ↔ attributes.get? key = some value ∧ value ≠ "" := by
  simp [value?, Option.filter_eq_some_iff]

theorem exists_entry_of_mem_values (h : value ∈ attributes.values key) :
    ∃ text, (key, text) ∈ attributes.entries ∧ value ∈ valuesOf text := by
  rw [values] at h
  cases hg : attributes.get? key with
  | none => simp [hg, valuesOf_empty] at h
  | some text => exact ⟨text, mem_entries_of_get? hg, by simpa [hg] using h⟩

-- ---------------------------------------------------------------------------
-- Problems that are no errors
-- ---------------------------------------------------------------------------

/-- Under its key, the problem is not an error. -/
def Tolerated (key : String) (problem : TagProblem) : Prop :=
  (⟨key, problem⟩ : Diagnostic).severity ≠ .error

theorem tolerated_of_columnDiagnostics
    (h : ∀ diagnostic ∈ attributes.columnDiagnostics, diagnostic.severity ≠ .error)
    (he : (key, text) ∈ attributes.entries) :
    ∀ problem ∈ columnProblems key text, Tolerated key problem := fun problem hp =>
  h ⟨key, problem⟩ (List.mem_append_left _
    (List.mem_flatMap.mpr ⟨_, he, List.mem_map.mpr ⟨problem, hp, rfl⟩⟩))

theorem tolerated_of_tableDiagnostics
    (h : ∀ diagnostic ∈ attributes.tableDiagnostics, diagnostic.severity ≠ .error)
    (he : (key, text) ∈ attributes.entries) :
    ∀ problem ∈ tableProblems key text, Tolerated key problem := fun problem hp =>
  h ⟨key, problem⟩ (List.mem_flatMap.mpr ⟨_, he, List.mem_map.mpr ⟨problem, hp, rfl⟩⟩)

theorem ok_of_refusal_tolerated {problem : ε → TagProblem} {x : Except ε α}
    (hrefused : ∀ cause, ¬ Tolerated key (problem cause))
    (h : ∀ p ∈ refusal problem x, Tolerated key p) : ∃ a, x = .ok a := by
  cases x with
  | ok a => exact ⟨a, rfl⟩
  | error cause => exact absurd (h _ List.mem_cons_self) (hrefused cause)

theorem ok_of_values_tolerated {problem : ε → TagProblem} {parse : String → Except ε α}
    (hrefused : ∀ cause, ¬ Tolerated key (problem cause))
    (h : ∀ p ∈ requireValue text ++ (valuesOf text).flatMap fun v => refusal problem (parse v),
      Tolerated key p) (hv : value ∈ valuesOf text) : ∃ a, parse value = .ok a :=
  ok_of_refusal_tolerated hrefused fun p hp =>
    h p (List.mem_append_right _ (List.mem_flatMap.mpr ⟨value, hv, hp⟩))

-- ---------------------------------------------------------------------------
-- Columns
-- ---------------------------------------------------------------------------

section

variable (h : ∀ diagnostic ∈ attributes.columnDiagnostics, diagnostic.severity ≠ .error)

include h

theorem isIdentifier_of_value? (hv : attributes.value? "column" = some value) :
    isIdentifier value = true := by
  by_contra hn
  have hentry := mem_entries_of_get? (value?_eq_some_iff.mp hv).1
  have htolerated := tolerated_of_columnDiagnostics h hentry (.columnName value)
  have hflag : "column" ∉ flagKeys := by decide
  simp [columnProblems, hflag, hn, Tolerated, Diagnostic.severity] at htolerated

theorem foreignKey_of_mem_values (hv : value ∈ attributes.values "foreign_key") :
    ∃ reference, ForeignKey.parse value = .ok reference := by
  obtain ⟨text, he, hv⟩ := exists_entry_of_mem_values hv
  have htolerated := tolerated_of_columnDiagnostics h he
  exact ok_of_values_tolerated (fun cause hc => hc rfl) htolerated hv

theorem enumValues_of_get? (hg : attributes.get? "enum" = some text) :
    ∃ values, enumValues text = .ok values := by
  have htolerated := tolerated_of_columnDiagnostics h (mem_entries_of_get? hg)
  exact ok_of_refusal_tolerated (fun cause hc => hc rfl) htolerated

theorem null_eq_false_of_notNull (hn : attributes.has "not_null" = true) :
    attributes.has "null" = false := by
  by_contra hnull
  rw [Bool.not_eq_false] at hnull
  refine h ⟨"null", .nullConflict⟩ (List.mem_append_right _ ?_) rfl
  simp [conflicts, hn, hnull]

theorem null_eq_false_of_primaryKey (hp : attributes.has "primary_key" = true) :
    attributes.has "null" = false := by
  by_contra hnull
  rw [Bool.not_eq_false] at hnull
  refine h ⟨"primary_key", .nullablePrimaryKey⟩ (List.mem_append_right _ ?_) rfl
  simp [conflicts, hp, hnull]

end

-- ---------------------------------------------------------------------------
-- Tables
-- ---------------------------------------------------------------------------

theorem indexSpec_of_mem_values
    (h : ∀ diagnostic ∈ attributes.tableDiagnostics, diagnostic.severity ≠ .error)
    {key : IndexKey} (hv : value ∈ attributes.values key.name) :
    ∃ spec, IndexSpec.parse value = .ok spec := by
  obtain ⟨text, he, hm⟩ := exists_entry_of_mem_values hv
  have htolerated := tolerated_of_tableDiagnostics h he
  cases key <;> exact ok_of_values_tolerated (fun cause hc => hc rfl) htolerated hm

end SchemaCompiler.Attributes
