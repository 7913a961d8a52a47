import SchemaCompiler.Proofs.Text.Blank
import SchemaCompiler.Proofs.Text.LetterCase
import SchemaCompiler.Proofs.Text.Split
import SchemaCompiler.Sql.ColumnType
import SchemaCompiler.Sql.Keyword

/-!
# Forms of column types

A column type is accepted exactly if it is written, in any case, as a known base name with
optional parameters, an optional `unsigned` and an optional array mark. All that stands
between the first parenthesis and the last one counts as parameters, so that these are
free of parentheses exactly if the type has no second parenthesis of either kind.
-/

namespace SchemaCompiler.Sql

open Text

variable {cs ds base : List Char} {ending : String} {present : Bool} {part : Option (List Char)}

-- ---------------------------------------------------------------------------
-- Written types
-- ---------------------------------------------------------------------------

/-- What a column type is made of: a known base name, parameters that are not blank if there
are any, and whether its two marks are there. -/
structure TypeForm where
  base : String
  parameters : Option (List Char)
  unsigned : Bool
  array : Bool
  known : base ∈ baseTypes
  filled : ∀ inner ∈ parameters, isBlankText inner = false

def parenthesized (inner : List Char) : List Char :=
  '(' :: inner ++ [')']

def mark (text : String) (present : Bool) : Option (List Char) :=
  if present then some text.toList else none

/-- An optional part of a type as it is written: blanks may stand before it, and nothing is
written for a part that is not there. -/
inductive IsPart : Option (List Char) → List Char → Prop
  | absent : IsPart none []
  | present {gap text : List Char} (blank : isBlankText gap = true) :
    IsPart (some text) (gap ++ text)

namespace TypeForm

/-- The text is the base name and then the parts that the type has, in their order. -/
def IsWritten (form : TypeForm) (cs : List Char) : Prop :=
  ∃ parameters unsigned array,
    IsPart (form.parameters.map parenthesized) parameters ∧
      IsPart (mark "unsigned" form.unsigned) unsigned ∧ IsPart (mark "[]" form.array) array ∧
      cs = form.base.toList ++ parameters ++ unsigned ++ array

def IsPlain (form : TypeForm) : Prop :=
  ∀ inner ∈ form.parameters, '(' ∉ inner ∧ ')' ∉ inner

end TypeForm

/-- No base name can be taken for one with a part behind it. -/
theorem baseTypes_form : ∀ base ∈ baseTypes,
    base.toList ≠ [] ∧ trim base.toList = base.toList ∧
      (∀ c ∈ ['(', ')', ']'], c ∉ base.toList) ∧ ¬ "unsigned".toList <:+ base.toList := by
  simp only [List.forall_mem_cons, List.not_mem_nil, false_implies, implies_true, and_true]
  decide +kernel

-- ---------------------------------------------------------------------------
-- Ends of a text
-- ---------------------------------------------------------------------------

theorem getLast?_of_suffix (h : ds <:+ cs) (hne : ds ≠ []) : cs.getLast? = ds.getLast? := by
  obtain ⟨before, rfl⟩ := h
  exact List.getLast?_append_of_ne_nil before hne

theorem IsPart.not_suffix (h : IsPart part ds) (hcs : ¬ ending.toList <:+ cs)
    (hpart : ∀ text ∈ part, ∃ c, text.getLast? = some c ∧ ending.toList.getLast? ≠ some c)
    (hne : ending.toList ≠ []) : ¬ ending.toList <:+ cs ++ ds := by
  cases h with
  | absent => rwa [List.append_nil]
  | @present gap text _ =>
    obtain ⟨c, htext, hlast⟩ := hpart text rfl
    intro hs
    refine hlast ?_
    rw [← getLast?_of_suffix hs hne, List.getLast?_append, List.getLast?_append, htext]
    rfl

theorem IsPart.trimEnd_append (h : IsPart part ds) (hcs : trimEnd cs = cs)
    (hpart : ∀ text ∈ part, isBlankText text = false ∧ trimEnd text = text) :
    trimEnd (cs ++ ds) = cs ++ ds := by
  cases h with
  | absent => rwa [List.append_nil]
  | @present gap text _ =>
    obtain ⟨htext, htrim⟩ := hpart text rfl
    rw [← List.append_assoc, trimEnd_append_of_not_blank (by simp [htext]), htrim]

theorem trimEnd_withoutEnding (cs : List Char) :
    trimEnd (withoutEnding ending cs) = withoutEnding ending cs :=
  trimEnd_trimEnd _

theorem withoutEnding_append (h : IsPart (mark ending present) ds) (hcs : trimEnd cs = cs)
    (hnot : ¬ ending.toList <:+ cs) : withoutEnding ending (cs ++ ds) = cs := by
  cases present with
  | false =>
    cases h
    rw [List.append_nil, withoutEnding, dropEnd?_eq_none_iff.mpr hnot]
    exact hcs
  | true =>
    cases h with
    | present hgap =>
      rw [withoutEnding, ← List.append_assoc, dropEnd?_append, Option.getD_some,
        trimEnd_append_of_blank hgap, hcs]

theorem exists_mark (ending : String) (hcs : trimEnd cs = cs) :
    ∃ present ds, IsPart (mark ending present) ds ∧ cs = withoutEnding ending cs ++ ds := by
  cases hd : dropEnd? ending.toList cs with
  | none => exact ⟨false, [], .absent, by simp [withoutEnding, hd, hcs]⟩
  | some stem =>
    obtain ⟨gap, hgap, hstem⟩ := exists_blank_append_trimEnd stem
    refine ⟨true, gap ++ ending.toList, .present hgap, ?_⟩
    rw [withoutEnding, hd, Option.getD_some, ← List.append_assoc, ← hstem]
    exact dropEnd?_eq_some_iff.mp hd

-- ---------------------------------------------------------------------------
-- Base names
-- ---------------------------------------------------------------------------

theorem baseName_of_notMem {type : String} (h : '(' ∉ cs) : baseName type cs = .ok cs := by
  rw [baseName, cut?_eq_none_iff.mpr h]

theorem baseName_parenthesized {type : String} {inner : List Char} (h : '(' ∉ cs)
    (hinner : isBlankText inner = false) :
    baseName type (cs ++ parenthesized inner) = .ok (trim cs) := by
  have hcut : cut? '(' (cs ++ parenthesized inner) = some (cs, inner ++ [')']) :=
    cut?_eq_some_iff.mpr ⟨rfl, h⟩
  simp [baseName, hcut, hinner]

theorem baseName_append {type : String} {form : TypeForm}
    (h : IsPart (form.parameters.map parenthesized) ds) :
    baseName type (form.base.toList ++ ds) = .ok form.base.toList := by
  obtain ⟨-, htrim, hfree, -⟩ := baseTypes_form form.base form.known
  have hopen : '(' ∉ form.base.toList := hfree '(' (by simp)
  cases hp : form.parameters with
  | none =>
    rw [hp] at h
    cases h
    rw [List.append_nil, baseName_of_notMem hopen]
  | some inner =>
    rw [hp] at h
    cases h with
    | @present gap _ hgap =>
      have hname : '(' ∉ form.base.toList ++ gap := by
        rw [List.mem_append, not_or]
        exact ⟨hopen, fun hm => absurd (isBlankText_iff.mp hgap '(' hm) (by decide)⟩
      rw [← List.append_assoc, baseName_parenthesized hname (form.filled inner hp),
        trim_append_blank hgap, htrim]

/-- Blanks before the base name are not told from the name. -/
theorem exists_parameters {type : String} (h : baseName type cs = .ok base) :
    ∃ (before : List Char) (parameters : Option (List Char)) (ds : List Char),
      isBlankText before = true ∧ (∀ inner ∈ parameters, isBlankText inner = false) ∧
        IsPart (parameters.map parenthesized) ds ∧ cs = before ++ (base ++ ds) := by
  rw [baseName] at h
  split at h
  · cases h
    exact ⟨[], none, [], rfl, nofun, .absent, by simp⟩
  · rename_i name rest hcut
    obtain ⟨rfl, -⟩ := cut?_eq_some_iff.mp hcut
    split at h
    · cases h
    · rename_i hlast
      split at h <;> cases h
      rename_i hblank
      obtain ⟨inner, rfl⟩ := List.getLast?_eq_some_iff.mp (Decidable.of_not_not hlast)
      rw [List.dropLast_concat, Bool.not_eq_true] at hblank
      obtain ⟨before, gap, hbefore, hgap, hname⟩ := trim_eq_self_append name
      refine ⟨before, some inner, gap ++ parenthesized inner, hbefore, ?_, .present hgap, ?_⟩
      · rintro _ ⟨⟩
        exact hblank
      · conv => lhs; rw [hname]
        simp [parenthesized]

-- ---------------------------------------------------------------------------
-- Accepted types
-- ---------------------------------------------------------------------------

theorem isBlank_toLower (c : Char) : isBlank c.toLower = isBlank c := by
  by_cases hc : c.toNat < 128
  · exact of_ascii (p := fun c => isBlank c.toLower = isBlank c) (by decide) hc
  · rw [toLower_of_past (by omega)]

theorem trim_foldCase_trim (cs : List Char) :
    trim (foldCase (trim cs)) = foldCase (trim cs) := by
  rw [foldCase, trim_map isBlank_toLower, trim_trim]

theorem validateColumnType_ok_iff_base {type : String} :
    validateColumnType type = .ok () ↔
      ∃ base ∈ baseTypes, baseName type (withoutEnding "unsigned"
        (withoutEnding "[]" (foldCase (trim type.toList)))) = .ok base.toList := by
  simp only [validateColumnType, foldCase]
  generalize (trim type.toList).map Char.toLower = lowered
  split
  · rename_i hnil
    rw [List.isEmpty_iff] at hnil
    subst hnil
    have hempty : baseName type (withoutEnding "unsigned" (withoutEnding "[]" [])) = .ok [] := rfl
    simp only [hempty, reduceCtorEq, Except.ok.injEq, false_iff, not_exists, not_and]
    exact fun base hb he => (baseTypes_form base hb).1 he.symm
  · split
    · rename_i hbase
      simp [hbase]
    · rename_i base hbase
      rw [ite_eq_left_iff, hbase]
      simp only [List.contains_iff_mem, Except.ok.injEq, reduceCtorEq, imp_false, not_not]
      exact ⟨fun h => ⟨_, h, String.toList_ofList.symm⟩,
        fun ⟨name, hname, he⟩ => by rwa [he, String.ofList_toList]⟩

theorem eq_of_mem_mark {text : String} {cs : List Char} (h : cs ∈ mark text present) :
    cs = text.toList := by
  rw [mark, Option.mem_def, Option.ite_none_right_eq_some, Option.some.injEq] at h
  exact h.2.symm

theorem ends_of_mem_parenthesized {parameters : Option (List Char)} {text : List Char}
    (h : text ∈ parameters.map parenthesized) :
    text.getLast? = some ')' ∧ isBlankText text = false ∧ trimEnd text = text := by
  obtain ⟨inner, -, rfl⟩ := Option.map_eq_some_iff.mp h
  have hclose : isBlankText [')'] = false := by decide
  refine ⟨List.getLast?_concat, ?_, ?_⟩
  · simp [parenthesized, isBlankText, show isBlank '(' = false by decide]
  · rw [parenthesized, trimEnd_append_of_not_blank (by simp [hclose])]
    rfl

theorem TypeForm.baseName_of_isWritten {type : String} {form : TypeForm} (h : form.IsWritten cs) :
    baseName type (withoutEnding "unsigned" (withoutEnding "[]" cs)) = .ok form.base.toList := by
  obtain ⟨parameters, unsigned, array, hparameters, hunsigned, harray, rfl⟩ := h
  obtain ⟨-, htrim, hfree, hbase⟩ := baseTypes_form form.base form.known
  have hend : trimEnd form.base.toList = form.base.toList := by
    rw [← htrim, trimEnd_trim]
  have hbase' : ¬ "[]".toList <:+ form.base.toList := fun hs =>
    hfree ']' (by simp) (hs.subset (by simp))
  -- The base name and the parameters end with neither mark.
  have hends := hparameters.trimEnd_append hend fun text ht => (ends_of_mem_parenthesized ht).2
  have hlast (ending : String) (hne : ending.toList ≠ [])
      (hclose : ending.toList.getLast? ≠ some ')') (hs : ¬ ending.toList <:+ form.base.toList) :
      ¬ ending.toList <:+ form.base.toList ++ parameters :=
    hparameters.not_suffix hs (fun text ht => ⟨')', (ends_of_mem_parenthesized ht).1, hclose⟩) hne
  have hends' := hunsigned.trimEnd_append hends fun text ht => by
    rw [eq_of_mem_mark ht]
    decide
  have hlast' : ¬ "[]".toList <:+ form.base.toList ++ parameters ++ unsigned := by
    refine hunsigned.not_suffix (hlast "[]" (by decide) (by decide) hbase') (fun text ht => ?_)
      (by decide)
    rw [eq_of_mem_mark ht]
    exact ⟨'d', by decide, by decide⟩
  rw [withoutEnding_append harray hends' hlast', withoutEnding_append hunsigned hends
    (hlast "unsigned" (by decide) (by decide) hbase), baseName_append hparameters]

theorem TypeForm.exists_isWritten {type base : String} (hcs : trim cs = cs) (hb : base ∈ baseTypes)
    (h : baseName type (withoutEnding "unsigned" (withoutEnding "[]" cs)) = .ok base.toList) :
    ∃ form : TypeForm, form.IsWritten cs := by
  have hend : trimEnd cs = cs := by
    rw [← hcs, trimEnd_trim]
  obtain ⟨isArray, array, harray, hcut⟩ := exists_mark "[]" hend
  obtain ⟨isUnsigned, unsigned, hunsigned, hcut'⟩ :=
    exists_mark "unsigned" (trimEnd_withoutEnding cs)
  obtain ⟨before, parameters, ds, hbefore, hfilled, hparameters, hname⟩ := exists_parameters h
  have htext : cs = before ++ (base.toList ++ ds ++ unsigned ++ array) := by
    rw [hcut, hcut', hname]
    simp
  have hnil : before = [] := by
    rw [htext] at hcs
    exact eq_nil_of_trim_blank_append hbefore hcs
  refine ⟨⟨base, parameters, isUnsigned, isArray, hb, hfilled⟩, ds, unsigned, array,
    hparameters, hunsigned, harray, ?_⟩
  rw [htext, hnil, List.nil_append]

theorem validateColumnType_ok_iff {type : String} :
    validateColumnType type = .ok () ↔
      ∃ form : TypeForm, form.IsWritten (foldCase (trim type.toList)) := by
  rw [validateColumnType_ok_iff_base]
  constructor
  · rintro ⟨base, hb, h⟩
    exact TypeForm.exists_isWritten (trim_foldCase_trim _) hb h
  · rintro ⟨form, h⟩
    exact ⟨form.base, form.known, form.baseName_of_isWritten h⟩

-- ---------------------------------------------------------------------------
-- Parentheses
-- ---------------------------------------------------------------------------

theorem IsPart.count_eq {c : Char} (h : IsPart part ds) (hc : isBlank c = false) :
    ds.count c = part.elim 0 (List.count c) := by
  cases h with
  | absent => rfl
  | @present gap text hgap =>
    have hnone : c ∉ gap := fun hm => by
      rw [isBlankText_iff.mp hgap c hm] at hc
      cases hc
    rw [List.count_append, List.count_eq_zero_of_not_mem hnone, Nat.zero_add, Option.elim_some]

namespace TypeForm

variable {form : TypeForm}

theorem IsWritten.count_eq {c : Char} (h : form.IsWritten cs) (hc : c = '(' ∨ c = ')') :
    cs.count c = form.parameters.elim 0 fun inner => inner.count c + 1 := by
  obtain ⟨parameters, unsigned, array, hparameters, hunsigned, harray, rfl⟩ := h
  obtain ⟨-, -, hfree, -⟩ := baseTypes_form form.base form.known
  have hblank : isBlank c = false := by
    rcases hc with rfl | rfl <;> rfl
  have hbase : form.base.toList.count c = 0 := by
    refine List.count_eq_zero_of_not_mem (hfree c ?_)
    rcases hc with rfl | rfl <;> simp
  have hmark (text : String) (ht : text.toList.count c = 0) (present : Bool) :
      (mark text present).elim 0 (List.count c) = 0 := by
    cases present
    · rfl
    · exact ht
  have hmarks : "unsigned".toList.count c = 0 ∧ "[]".toList.count c = 0 := by
    rcases hc with rfl | rfl <;> decide
  rw [List.count_append, List.count_append, List.count_append, hbase, hparameters.count_eq hblank,
    hunsigned.count_eq hblank, harray.count_eq hblank, hmark _ hmarks.1, hmark _ hmarks.2]
  cases form.parameters with
  | none => rfl
  | some inner => rcases hc with rfl | rfl <;> simp [parenthesized]

theorem IsWritten.isPlain_iff (h : form.IsWritten cs) :
    form.IsPlain ↔ cs.count '(' ≤ 1 ∧ cs.count ')' ≤ 1 := by
  rw [h.count_eq (.inl rfl), h.count_eq (.inr rfl), IsPlain]
  cases form.parameters with
  | none => simp
  | some inner => simp [List.count_eq_zero]

end TypeForm

/-- Exactly the types that are written in one of the forms are accepted. Their parameters
are free of parentheses exactly if the type has at most one parenthesis of each kind. -/
theorem validateColumnType_forms (type : String) :
    (validateColumnType type = .ok () ↔
        ∃ form : TypeForm, form.IsWritten (foldCase (trim type.toList))) ∧
      ((∃ form : TypeForm, form.IsPlain ∧ form.IsWritten (foldCase (trim type.toList))) ↔
        validateColumnType type = .ok () ∧ (foldCase (trim type.toList)).count '(' ≤ 1 ∧
          (foldCase (trim type.toList)).count ')' ≤ 1) := by
  refine ⟨validateColumnType_ok_iff, ?_⟩
  rw [validateColumnType_ok_iff]
  constructor
  · rintro ⟨form, hplain, hw⟩
    exact ⟨⟨form, hw⟩, hw.isPlain_iff.mp hplain⟩
  · rintro ⟨⟨form, hw⟩, hcount⟩
    exact ⟨form, hw.isPlain_iff.mpr hcount, hw⟩

/-- The values of an enumeration may have parentheses. -/
theorem not_all_types_plain :
    ¬ ∀ type, validateColumnType type = .ok () ↔
      ∃ form : TypeForm, form.IsPlain ∧ form.IsWritten (foldCase (trim type.toList)) := by
  intro h
  have hok : validateColumnType "enum('a(b)')" = .ok () := by decide +kernel
  obtain ⟨form, hplain, hw⟩ := (h _).mp hok
  have hcount := (hw.isPlain_iff.mp hplain).1
  revert hcount
  decide +kernel

end SchemaCompiler.Sql
