import Mathlib.Algebra.BigOperators.Group.List.Basic
import Mathlib.Algebra.GroupWithZero.Nat
import Mathlib.Tactic.SplitIfs
import SchemaCompiler.Proofs.Text.Split
import SchemaCompiler.Text.Quoted

/-!
# Lines

Texts without a newline. A text that is written as such lines is read back as them; a
newline inside a line that is written makes two lines of it.
-/

namespace SchemaCompiler.Text

variable {a b text : String}

-- ---------------------------------------------------------------------------
-- Single lines
-- ---------------------------------------------------------------------------

def OneLine (text : String) : Prop :=
  '\n' ∉ text.toList

instance : Decidable (OneLine text) :=
  inferInstanceAs (Decidable ('\n' ∉ text.toList))

@[simp] theorem oneLine_append : OneLine (a ++ b) ↔ OneLine a ∧ OneLine b := by
  simp [OneLine]

theorem newline_notMem_toDigits {base : Nat} (hb : 1 < base) (n : Nat) :
    '\n' ∉ Nat.toDigits base n := by
  induction n using Nat.strongRecOn with
  | _ n ih =>
    rw [Nat.toDigits_eq_if hb]
    split
    · simp
    · have hless : n / base < n := Nat.div_lt_self (by omega) hb
      simp [ih _ hless]

theorem newline_notMem_escapeChar (c : Char) : '\n' ∉ escapeChar c := by
  have hcode := newline_notMem_toDigits (by decide : 1 < 16) c.toNat
  by_cases hn : c = '\n'
  · subst hn
    decide
  · rw [escapeChar]
    split_ifs <;> simp [hcode, Ne.symm hn]

@[simp] theorem oneLine_quoted (text : String) : OneLine (quoted text) := by
  simp [OneLine, quoted, newline_notMem_escapeChar]

theorem oneLine_join {separator : String} {parts : List String} (hs : OneLine separator)
    (h : ∀ part ∈ parts, OneLine part) : OneLine (join separator parts) := by
  fun_induction join separator parts with
  | case1 => decide
  | case2 part => exact h part List.mem_cons_self
  | case3 part rest _ ih =>
    obtain ⟨hpart, hrest⟩ := List.forall_mem_cons.mp h
    exact oneLine_append.mpr ⟨oneLine_append.mpr ⟨hpart, hs⟩, ih hrest⟩

-- ---------------------------------------------------------------------------
-- Newlines
-- ---------------------------------------------------------------------------

def breaks (text : String) : Nat :=
  text.toList.count '\n'

@[simp] theorem breaks_append : breaks (a ++ b) = breaks a + breaks b := by
  simp [breaks]

theorem breaks_eq_zero_iff : breaks text = 0 ↔ OneLine text :=
  List.count_eq_zero

theorem OneLine.breaks_eq (h : OneLine text) : breaks text = 0 :=
  breaks_eq_zero_iff.mpr h

/-- The number of newlines inside of lines. -/
def innerBreaks (ls : List String) : Nat :=
  (ls.map breaks).sum

@[simp] theorem innerBreaks_nil : innerBreaks [] = 0 := rfl

@[simp] theorem innerBreaks_cons (line : String) (ls : List String) :
    innerBreaks (line :: ls) = breaks line + innerBreaks ls := by
  simp [innerBreaks]

@[simp] theorem innerBreaks_append (ls more : List String) :
    innerBreaks (ls ++ more) = innerBreaks ls + innerBreaks more := by
  simp [innerBreaks]

theorem innerBreaks_flatMap (f : α → List String) (l : List α) :
    innerBreaks (l.flatMap f) = (l.map fun a => innerBreaks (f a)).sum := by
  induction l with
  | nil => rfl
  | cons a rest ih =>
    rw [List.flatMap_cons, innerBreaks_append, ih, List.map_cons, List.sum_cons]

theorem innerBreaks_flatMap_congr {f g : α → List String} {l : List α}
    (h : ∀ a ∈ l, innerBreaks (f a) = innerBreaks (g a)) :
    innerBreaks (l.flatMap f) = innerBreaks (l.flatMap g) := by
  rw [innerBreaks_flatMap, innerBreaks_flatMap, List.map_congr_left h]

theorem innerBreaks_flatMap_append (f g : α → List String) (l : List α) :
    innerBreaks (l.flatMap fun a => f a ++ g a) =
      innerBreaks (l.flatMap f) + innerBreaks (l.flatMap g) := by
  simp only [innerBreaks_flatMap, innerBreaks_append, List.sum_map_add]

theorem innerBreaks_eq_zero_iff {ls : List String} :
    innerBreaks ls = 0 ↔ ∀ line ∈ ls, OneLine line := by
  induction ls with
  | nil => simp
  | cons line rest ih =>
    rw [innerBreaks_cons, Nat.add_eq_zero_iff, breaks_eq_zero_iff, ih, List.forall_mem_cons]

/-- Every line that is written ends with a newline of its own. -/
theorem breaks_unlines (ls : List String) :
    breaks (unlines ls) = ls.length + innerBreaks ls := by
  induction ls with
  | nil => rfl
  | cons line rest ih =>
    have hnewline : breaks "\n" = 1 := by decide
    rw [unlines, breaks_append, breaks_append, hnewline, ih, innerBreaks_cons, List.length_cons]
    omega

-- ---------------------------------------------------------------------------
-- Lines of a text
-- ---------------------------------------------------------------------------

/-- The texts between newlines, the last one after the last of them. -/
def lines (text : String) : List String :=
  (pieces '\n' text.toList).map String.ofList

theorem lines_cons {line rest : String} (h : OneLine line) :
    lines (line ++ "\n" ++ rest) = line :: lines rest := by
  have htext : (line ++ "\n" ++ rest).toList = line.toList ++ '\n' :: rest.toList := by
    simp
  rw [lines, htext, pieces_append_cons, pieces_eq_singleton h, List.map_append, List.map_singleton,
    String.ofList_toList]
  rfl

theorem lines_unlines {ls : List String} (h : ∀ line ∈ ls, OneLine line) :
    lines (unlines ls) = ls ++ [""] := by
  induction ls with
  | nil => rfl
  | cons line rest ih =>
    obtain ⟨hfirst, hrest⟩ := List.forall_mem_cons.mp h
    rw [unlines, lines_cons hfirst, ih hrest, List.cons_append]

theorem length_lines (text : String) : (lines text).length = breaks text + 1 := by
  rw [lines, List.length_map, breaks]
  generalize text.toList = cs
  induction cs with
  | nil => rfl
  | cons c cs ih =>
    rw [pieces, List.count_cons]
    split
    · simp_all
    · rename_i hc
      cases hp : pieces '\n' cs with
      | nil => simp [hp] at ih
      | cons piece more => simp_all

theorem lines_unlines_iff {ls : List String} :
    lines (unlines ls) = ls ++ [""] ↔ innerBreaks ls = 0 := by
  constructor
  · intro h
    have hlength := length_lines (unlines ls)
    rw [h, breaks_unlines, List.length_append, List.length_singleton] at hlength
    omega
  · exact fun h => lines_unlines (innerBreaks_eq_zero_iff.mp h)

end SchemaCompiler.Text
