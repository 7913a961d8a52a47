import Mathlib.Data.List.DropRight
import SchemaCompiler.Text.Blank

/-!
# Trimming

What is left of a text after the blank characters at its end, or at both ends, are
taken away.
-/

namespace SchemaCompiler.Text

variable {cs ds : List Char}

theorem isBlankText_iff : isBlankText cs = true ↔ ∀ c ∈ cs, isBlank c = true :=
  List.all_eq_true

theorem trimEnd_eq_rdropWhile : trimEnd cs = cs.rdropWhile isBlank := rfl

theorem trimEnd_eq_nil_iff : trimEnd cs = [] ↔ isBlankText cs = true := by
  rw [trimEnd_eq_rdropWhile, List.rdropWhile_eq_nil_iff, isBlankText_iff]

theorem trimEnd_append_of_blank (h : isBlankText ds = true) : trimEnd (cs ++ ds) = trimEnd cs := by
  have hd : ds.reverse.dropWhile isBlank = [] := by
    rw [← List.reverse_eq_nil_iff]
    exact trimEnd_eq_nil_iff.mpr h
  rw [trimEnd, List.reverse_append, List.dropWhile_append, hd]
  rfl

theorem trimEnd_append_of_not_blank (h : ¬ isBlankText ds = true) :
    trimEnd (cs ++ ds) = cs ++ trimEnd ds := by
  have hd : ds.reverse.dropWhile isBlank ≠ [] := by
    rw [ne_eq, ← List.reverse_eq_nil_iff]
    exact trimEnd_eq_nil_iff.not.mpr h
  rw [trimEnd, List.reverse_append, List.dropWhile_append, if_neg (by simpa using hd),
    List.reverse_append, List.reverse_reverse]
  rfl

theorem exists_blank_append_trimEnd (cs : List Char) :
    ∃ after, isBlankText after = true ∧ cs = trimEnd cs ++ after := by
  refine ⟨(cs.reverse.takeWhile isBlank).reverse, by simp [isBlankText, List.all_takeWhile], ?_⟩
  rw [trimEnd, ← List.reverse_append, List.takeWhile_append_dropWhile, List.reverse_reverse]

theorem trimEnd_trimEnd (cs : List Char) : trimEnd (trimEnd cs) = trimEnd cs :=
  List.rdropWhile_idempotent isBlank cs

theorem trimEnd_append_eq_left_iff (h : trimEnd cs = cs) :
    trimEnd (cs ++ ds) = cs ↔ isBlankText ds = true := by
  by_cases hd : isBlankText ds = true
  · exact iff_of_true ((trimEnd_append_of_blank hd).trans h) hd
  · rw [trimEnd_append_of_not_blank hd, List.append_right_eq_self, trimEnd_eq_nil_iff]

-- ---------------------------------------------------------------------------
-- Both ends
-- ---------------------------------------------------------------------------

theorem trimStart_blank_append (h : isBlankText ds = true) :
    trimStart (ds ++ cs) = trimStart cs :=
  List.dropWhile_append_of_pos (isBlankText_iff.mp h)

theorem trimStart_eq_nil_iff : trimStart cs = [] ↔ isBlankText cs = true := by
  rw [trimStart, List.dropWhile_eq_nil_iff, isBlankText_iff]

theorem trim_blank_append (h : isBlankText ds = true) : trim (ds ++ cs) = trim cs := by
  rw [trim, trimStart_blank_append h, trim]

theorem trim_append_blank (h : isBlankText ds = true) : trim (cs ++ ds) = trim cs := by
  rw [trim, trim, trimStart, List.dropWhile_append]
  split
  · rename_i hs
    have hcs : trimStart cs = [] := by simpa [trimStart] using hs
    have hds : ds.dropWhile isBlank = [] := trimStart_eq_nil_iff.mpr h
    rw [hds, hcs]
  · exact trimEnd_append_of_blank h

theorem trim_eq_self_append (cs : List Char) :
    ∃ before after, isBlankText before = true ∧ isBlankText after = true ∧
      cs = before ++ (trim cs ++ after) := by
  obtain ⟨after, ha, hcs⟩ := exists_blank_append_trimEnd (trimStart cs)
  refine ⟨cs.takeWhile isBlank, after, List.all_takeWhile, ha, ?_⟩
  rw [trim, ← hcs, trimStart, List.takeWhile_append_dropWhile]

theorem trim_eq_nil_iff : trim cs = [] ↔ isBlankText cs = true := by
  constructor
  · intro h
    obtain ⟨before, after, hb, ha, hcs⟩ := trim_eq_self_append cs
    rw [hcs, h, isBlankText, List.all_append, List.nil_append, Bool.and_eq_true]
    exact ⟨hb, ha⟩
  · intro h
    rw [← List.append_nil cs, trim_blank_append h]
    rfl

theorem trim_trim (cs : List Char) : trim (trim cs) = trim cs := by
  obtain ⟨before, after, hb, ha, hcs⟩ := trim_eq_self_append cs
  conv => rhs; rw [hcs, trim_blank_append hb, trim_append_blank ha]

theorem trim_eq_self (hs : ∀ c ∈ cs.head?, isBlank c = false)
    (he : ∀ c ∈ cs.getLast?, isBlank c = false) : trim cs = cs := by
  have hstart : trimStart cs = cs := by
    cases cs with
    | nil => rfl
    | cons c rest => simp [trimStart, hs c rfl]
  rw [trim, hstart, trimEnd_eq_rdropWhile, List.rdropWhile_eq_self_iff]
  intro hne
  simp [he _ (List.getLast?_eq_some_getLast hne)]

theorem trim_of_no_blank (h : ∀ c ∈ cs, isBlank c = false) : trim cs = cs :=
  trim_eq_self (fun c hc => h c (List.mem_of_head? hc)) fun c hc => h c (List.mem_of_getLast? hc)

theorem trimEnd_trim (cs : List Char) : trimEnd (trim cs) = trim cs :=
  trimEnd_trimEnd _

theorem eq_nil_of_trim_blank_append (hd : isBlankText ds = true)
    (h : trim (ds ++ cs) = ds ++ cs) : ds = [] := by
  rw [trim_blank_append hd] at h
  obtain ⟨before, after, -, -, hcs⟩ := trim_eq_self_append cs
  have hlength := congrArg List.length hcs
  rw [h] at hlength
  simp only [List.length_append] at hlength
  exact List.eq_nil_of_length_eq_zero (by omega)

theorem trim_map {f : Char → Char} (hf : ∀ c, isBlank (f c) = isBlank c) :
    trim (cs.map f) = (trim cs).map f := by
  have hblank : isBlank ∘ f = isBlank := funext hf
  simp only [trim, trimStart, trimEnd, List.dropWhile_map, ← List.map_reverse, hblank]

theorem mem_of_mem_trim {c : Char} (h : c ∈ trim cs) : c ∈ cs := by
  obtain ⟨before, after, -, -, hcs⟩ := trim_eq_self_append cs
  rw [hcs]
  exact List.mem_append_right _ (List.mem_append_left _ h)

end SchemaCompiler.Text
