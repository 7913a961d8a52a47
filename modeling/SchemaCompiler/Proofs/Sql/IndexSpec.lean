import Mathlib.Data.List.Basic
import SchemaCompiler.Proofs.Sql.Literal
import SchemaCompiler.Proofs.Sql.Reference

/-!
# Reading and writing indexes

A text is read as an index exactly if it is written as one with columns, and all its
names are identifiers. The text of such an index is read as the same index.
-/

namespace SchemaCompiler.Sql

open Text

theorem listItems_join {columns : List String} (hne : columns ≠ [])
    (h : ∀ column ∈ columns, isIdentifier column = true) :
    listItems (join "," columns).toList = columns := by
  have hcomma : ∀ item ∈ columns.map String.toList, ',' ∉ item :=
    List.forall_mem_map.mpr fun column hm => notMem_of_isIdentifier (h column hm) rfl
  have hpieces : pieces ',' (join "," columns).toList = columns.map String.toList := by
    rw [toList_join, pieces_eq_splitOn]
    exact List.splitOn_intercalate ',' hcomma (by simpa using hne)
  have htrim : (columns.map String.toList).map trim = columns.map String.toList := by
    rw [List.map_map]
    exact List.map_congr_left fun column hm => trim_of_isIdentifier (h column hm)
  have hkept : (columns.map String.toList).filter (!·.isEmpty) = columns.map String.toList := by
    rw [List.filter_eq_self]
    refine List.forall_mem_map.mpr fun column hm => ?_
    simpa using toList_ne_nil_of_isIdentifier (h column hm)
  rw [listItems, hpieces, htrim, hkept, List.map_map]
  simp

namespace IndexSpec

variable {text : String} {spec : IndexSpec}

/-- Has columns, and only identifiers as its names. -/
structure WellFormed (spec : IndexSpec) : Prop where
  name : ∀ name ∈ spec.name, isIdentifier name = true
  nonempty : spec.columns ≠ []
  columns : ∀ column ∈ spec.columns, isIdentifier column = true

theorem wellFormed_of_parse (h : parse text = .ok spec) : spec.WellFormed := by
  simp only [parse] at h
  split at h
  · cases h
  · split at h
    · cases h
    · split at h
      · cases h
      · rename_i hne
        split at h
        · cases h
        · rename_i hfind
          have hall := List.find?_eq_none.mp hfind
          simp only [Bool.not_eq_true', Bool.not_eq_false] at hall
          split at h
          · cases h
            exact ⟨by simp, by simpa using hne, hall⟩
          · split at h <;> cases h
            rename_i hname
            exact ⟨by simpa using hname, by simpa using hne, hall⟩

theorem parse_of_isWritten (hw : spec.WellFormed) (h : spec.IsWritten text) :
    parse text = .ok spec := by
  obtain ⟨name, columns⟩ := spec
  obtain ⟨before, inner, htext, hbefore, rfl, rfl⟩ := h
  obtain ⟨hname, hne, hcolumns⟩ := hw
  have hfind : (listItems inner).find? (!isIdentifier ·) = none := by
    simpa [List.find?_eq_none] using hcolumns
  have hcut := cut?_eq_some_iff.mpr ⟨htext, hbefore⟩
  by_cases hb : trim before = []
  · simp [parse, hcut, hne, hfind, hb]
  · have hid : isIdentifier (.ofList (trim before)) = true := hname _ (by simp [hb])
    simp [parse, hcut, hne, hfind, hb, hid]

theorem parse_ok_iff : parse text = .ok spec ↔ spec.WellFormed ∧ spec.IsWritten text :=
  ⟨fun h => ⟨wellFormed_of_parse h, isWritten_of_parse h⟩,
    fun ⟨hw, h⟩ => parse_of_isWritten hw h⟩

theorem WellFormed.isWritten_text (h : spec.WellFormed) : spec.IsWritten spec.text := by
  obtain ⟨name, columns⟩ := spec
  obtain ⟨hname, hne, hcolumns⟩ := h
  have htext : (text ⟨name, columns⟩).toList =
      (name.getD "").toList ++ '(' :: ((join "," columns).toList ++ [')']) := by
    simp [text]
  have hlast : ∀ c ∈ ((name.getD "").toList ++
      '(' :: ((join "," columns).toList ++ [')'])).getLast?, isBlank c = false := by
    rintro c hc
    have he : ')' = c := by simpa [List.getLast?_cons] using hc
    exact he ▸ rfl
  have hitems := (listItems_join hne hcolumns).symm
  cases name with
  | none =>
    refine ⟨[], (join "," columns).toList, ?_, List.not_mem_nil, rfl, hitems⟩
    rw [htext]
    refine trim_eq_self ?_ hlast
    rintro c ⟨⟩
    rfl
  | some name =>
    have hid := hname name rfl
    obtain ⟨c, more, hc⟩ := List.exists_cons_of_ne_nil (toList_ne_nil_of_isIdentifier hid)
    have hstart := continuesName_of_mem hid (hc ▸ List.mem_cons_self)
    refine ⟨name.toList, (join "," columns).toList, ?_, notMem_of_isIdentifier hid rfl, ?_, hitems⟩
    · rw [htext]
      refine trim_eq_self ?_ hlast
      simpa [hc] using not_isBlank_of_continuesName hstart
    · rw [trim_of_isIdentifier hid, if_neg (toList_ne_nil_of_isIdentifier hid),
        String.ofList_toList]

/-- Writing an index and reading it back gives the same index, for every index with columns
and with identifiers as its names; and no others are read. -/
theorem parse_text :
    (∀ spec : IndexSpec, spec.WellFormed → parse spec.text = .ok spec) ∧
      ∀ (text : String) (spec : IndexSpec), parse text = .ok spec →
        spec.WellFormed ∧ parse spec.text = .ok spec := by
  have hread (spec : IndexSpec) (h : spec.WellFormed) : parse spec.text = .ok spec :=
    parse_ok_iff.mpr ⟨h, h.isWritten_text⟩
  refine ⟨hread, fun text spec h => ?_⟩
  have hw := (parse_ok_iff.mp h).1
  exact ⟨hw, hread spec hw⟩

/-- Blanks and empty items that are read are not written again. -/
theorem parse_text_byAuthor :
    let spec : IndexSpec := ⟨some "by_author", ["author_id", "created_at"]⟩
    spec.WellFormed ∧ parse spec.text = .ok spec ∧
      parse " by_author ( author_id, ,created_at ) " = .ok spec := by
  have hread : parse " by_author ( author_id, ,created_at ) " =
      .ok ⟨some "by_author", ["author_id", "created_at"]⟩ := by decide +kernel
  obtain ⟨hw, -⟩ := parse_text.2 _ _ hread
  exact ⟨hw, parse_text.1 _ hw, hread⟩

end IndexSpec

end SchemaCompiler.Sql
