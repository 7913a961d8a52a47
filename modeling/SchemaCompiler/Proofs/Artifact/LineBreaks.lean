import SchemaCompiler.Proofs.Artifact.ConstantNames
import SchemaCompiler.Proofs.Artifact.RootModules

/-!
# Line breaks in generated code

Code is written line by line. The names and literals that it is made of have no newlines,
so only comments can bring some.
-/

namespace SchemaCompiler

open Text Code

-- ---------------------------------------------------------------------------
-- Names and literals
-- ---------------------------------------------------------------------------

/-- A newline parts words, so that snake case drops it. -/
theorem Naming.oneLine_snake (name : String) : OneLine (snake name) := by
  intro hn
  obtain ⟨-, hseparator⟩ := mem_of_mem_snake hn (by decide)
  exact absurd hseparator (by decide)

theorem Text.innerBreaks_flatMap_of_mapM {f : α → Except ε β} {g : α → List String}
    {k : β → List String} {l : List α} {results : List β} (hm : l.mapM f = .ok results)
    (h : ∀ a ∈ l, ∀ b, f a = .ok b → innerBreaks (k b) = innerBreaks (g a)) :
    innerBreaks (results.flatMap k) = innerBreaks (l.flatMap g) := by
  rw [innerBreaks_flatMap, innerBreaks_flatMap, map_of_mapM hm h]

namespace Code

theorem oneLine_constantName (name : String) : OneLine (constantName name) := by
  intro hn
  rw [constantName, String.toList_ofList] at hn
  rcases Naming.mem_constantText hn with he | ⟨c, hc, hu⟩
  · exact absurd he (by decide)
  · -- The uppercase of no other character has a newline.
    rcases mem_uppercase hu with hupper | hpast | ⟨rfl, -⟩
    · exact absurd hupper (by decide)
    · exact absurd hpast (by decide)
    · exact Naming.oneLine_snake name hc

theorem oneLine_identifier {name : String} (h : OneLine name) : OneLine (identifier name) := by
  rw [identifier]
  split
  · exact oneLine_append.mpr ⟨by decide, h⟩
  · exact h

theorem oneLine_moduleHead (name : String) :
    OneLine ("pub mod " ++ identifier (Naming.snake name)) :=
  oneLine_append.mpr ⟨by decide, oneLine_identifier (Naming.oneLine_snake name)⟩

@[simp] theorem oneLine_slice (items : List String) : OneLine (slice items) := by
  have hitems : OneLine (join ", " (items.map quoted)) := by
    refine oneLine_join (by decide) fun part hp => ?_
    obtain ⟨item, -, rfl⟩ := List.mem_map.mp hp
    exact oneLine_quoted item
  simp only [slice, oneLine_append, hitems, and_true]
  decide

@[simp] theorem oneLine_optionLiteral (value : Option String) : OneLine (optionLiteral value) := by
  cases value with
  | none => decide
  | some text =>
    simp only [optionLiteral, oneLine_append, oneLine_quoted, and_true]
    decide

@[simp] theorem oneLine_boolLiteral (b : Bool) : OneLine (boolLiteral b) := by
  cases b <;> decide

-- ---------------------------------------------------------------------------
-- Blocks and paragraphs
-- ---------------------------------------------------------------------------

@[simp] theorem innerBreaks_indent (lines : List String) :
    innerBreaks (indent lines) = innerBreaks lines := by
  have hindent (line : String) :
      breaks (if line = "" then "" else "    " ++ line) = breaks line := by
    split
    · simp_all
    · rw [breaks_append, OneLine.breaks_eq (by decide), Nat.zero_add]
  rw [innerBreaks, indent, List.map_map, innerBreaks]
  exact congrArg List.sum (List.map_congr_left fun line _ => hindent line)

@[simp] theorem innerBreaks_block (head : String) (body : List String) (tail : String) :
    innerBreaks (block head body tail) = breaks head + innerBreaks body + breaks tail := by
  have hspace : breaks " " = 0 := by decide
  have hopening : breaks opening = 0 := by decide
  have hclosing : breaks closing = 0 := by decide
  simp [block, hspace, hopening, hclosing, Nat.add_assoc]

@[simp] theorem length_block (head : String) (body : List String) (tail : String) :
    (block head body tail).length = body.length + 2 := by
  simp [block, indent]

theorem innerBreaks_paragraphs (groups : List (List String)) :
    innerBreaks (paragraphs groups) = innerBreaks groups.flatten := by
  induction groups with
  | nil => rfl
  | cons group rest ih =>
    cases rest with
    | nil => simp [paragraphs]
    | cons next more =>
      have hempty : breaks "" = 0 := by decide
      rw [paragraphs_cons_cons, innerBreaks_append, innerBreaks_cons, hempty, ih, Nat.zero_add]
      exact (innerBreaks_append group _).symm

theorem length_paragraphs (groups : List (List String)) :
    (paragraphs groups).length = (groups.map List.length).sum + (groups.length - 1) := by
  induction groups with
  | nil => rfl
  | cons group rest ih =>
    cases rest with
    | nil => simp [paragraphs]
    | cons next more =>
      rw [paragraphs_cons_cons, List.length_append, List.length_cons, ih]
      simp only [List.map_cons, List.sum_cons, List.length_cons]
      omega

-- ---------------------------------------------------------------------------
-- Constants
-- ---------------------------------------------------------------------------

/-- A constant that has no newline but in the comment before it. -/
structure Constant.Tight (constant : Constant) : Prop where
  name : OneLine constant.name
  type : OneLine constant.type
  value :
    match constant.value with
    | .inline text => OneLine text
    | .items lines => ∀ line ∈ lines, OneLine line

theorem Constant.Tight.inline {docs : List String} {name type text : String} (hn : OneLine name)
    (ht : OneLine type) (h : OneLine text) : Constant.Tight ⟨docs, name, type, .inline text⟩ :=
  ⟨hn, ht, h⟩

theorem Constant.Tight.items {docs lines : List String} {name type : String} (hn : OneLine name)
    (ht : OneLine type) (h : ∀ line ∈ lines, OneLine line) :
    Constant.Tight ⟨docs, name, type, .items lines⟩ :=
  ⟨hn, ht, h⟩

theorem Constant.Tight.innerBreaks_lines {constant : Constant} (h : constant.Tight) :
    innerBreaks constant.lines = innerBreaks constant.docs := by
  obtain ⟨docs, name, type, value⟩ := constant
  obtain ⟨hname, htype, hvalue⟩ := h
  have hdocs : innerBreaks (docs.map ("/// " ++ ·)) = innerBreaks docs := by
    have hmark : breaks "/// " = 0 := by decide
    rw [innerBreaks, List.map_map, innerBreaks]
    exact congrArg List.sum (List.map_congr_left fun doc _ => by simp [hmark])
  have hfixed : breaks "pub const " = 0 ∧ breaks ": " = 0 ∧ breaks " = " = 0 ∧ breaks ";" = 0 ∧
      breaks "&[" = 0 ∧ breaks "];" = 0 := by decide
  cases value with
  | inline text =>
    simp [lines, hdocs, hname.breaks_eq, htype.breaks_eq, OneLine.breaks_eq hvalue, hfixed]
  | items lines =>
    have hlines := innerBreaks_eq_zero_iff.mpr hvalue
    simp [Constant.lines, hdocs, hname.breaks_eq, htype.breaks_eq, hlines, hfixed]

theorem innerBreaks_constantGroups {groups : List (List Constant)}
    (h : ∀ constant ∈ groups.flatten, constant.Tight) :
    innerBreaks (groups.map (·.flatMap Constant.lines)).flatten =
      innerBreaks (groups.flatten.flatMap (·.docs)) := by
  have hflatten : (groups.map (·.flatMap Constant.lines)).flatten =
      groups.flatten.flatMap Constant.lines := by
    rw [List.flatMap_def, List.map_flatten, List.flatten_flatten, List.map_map]
    rfl
  rw [hflatten]
  exact innerBreaks_flatMap_congr fun constant hc => (h constant hc).innerBreaks_lines

end Code

end SchemaCompiler
