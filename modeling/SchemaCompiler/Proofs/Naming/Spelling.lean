import Mathlib.Data.List.Find
import SchemaCompiler.Artifact.Code
import SchemaCompiler.Proofs.Naming.Snake
import SchemaCompiler.Proofs.Text.Identifier
import SchemaCompiler.Proofs.Text.Split

/-!
# Names in the cases of generated code

A name that is written with characters of identifiers, and perhaps with the mark of a
raw name, is written with such characters in every case. What its other cases begin with
is decided by the first character of the name that is no underscore.
-/

namespace SchemaCompiler.Naming

open Text

-- ---------------------------------------------------------------------------
-- Spelled names
-- ---------------------------------------------------------------------------

/-- Written with characters of identifiers and the mark of raw names. -/
def Spelled (cs : List Char) : Prop :=
  ∀ c ∈ cs, continuesIdentifier c = true ∨ c = '#'

/-- The first character of a name that is no underscore. -/
def initial? (name : String) : Option Char :=
  name.toList.find? (· ≠ '_')

variable {cs : List Char} {name : String} {c d : Char}

theorem isSeparator_of_continuesIdentifier (h : continuesIdentifier c = true) :
    isSeparator c = (c == '_') := by
  have hdash : c ≠ '-' := by
    rintro rfl
    exact absurd h (by decide)
  simp [isSeparator, not_isBlank_of_continuesIdentifier h, hdash]

theorem spelled_of_isIdentifier (h : Sql.isIdentifier name = true) :
    Spelled name.toList := by
  intro c hc
  rw [Sql.isIdentifier, Sql.isIdentifierText_eq, Bool.and_eq_true, List.all_eq_true] at h
  have hname := h.1 c hc
  exact .inl (of_ascii (p := fun c => Sql.continuesName c = true → continuesIdentifier c = true)
    (by decide) (Sql.ascii_of_continuesName hname) hname)

theorem Spelled.isSeparator (h : Spelled cs) (hc : c ∈ cs) :
    isSeparator c = decide (c = '_') := by
  rcases h c hc with hcontinues | rfl
  · rw [isSeparator_of_continuesIdentifier hcontinues]
    rfl
  · decide

theorem Spelled.find?_eq_initial? (h : Spelled name.toList) :
    name.toList.find? (!Naming.isSeparator ·) = initial? name :=
  List.find?_congr fun c hc => by simp [h.isSeparator hc]

-- ---------------------------------------------------------------------------
-- Snake case
-- ---------------------------------------------------------------------------

theorem loweredCapital_mark : loweredCapital '#' = ['#'] := by decide

theorem standsFor_loweredCapital (h : continuesIdentifier c = true) :
    StandsFor (loweredCapital c) c := by
  rw [loweredCapital]
  split
  · exact standsFor_lowercase h
  · exact standsFor_self h

theorem Spelled.snake (h : Spelled name.toList) : Spelled (snake name).toList := by
  intro d hd
  rcases mem_snake hd with rfl | ⟨c, hc, -, hm⟩
  · exact .inl (by decide)
  · rcases h c hc with hcontinues | rfl
    · exact .inl ((standsFor_loweredCapital hcontinues).continues d hm)
    · rw [loweredCapital_mark, List.mem_singleton] at hm
      exact .inr hm

theorem mark_mem_snakeFrom {previous : Option Char} {begun parted : Bool} (h : '#' ∈ cs) :
    '#' ∈ snakeFrom previous begun parted cs := by
  induction cs generalizing previous begun parted with
  | nil => cases h
  | cons c rest ih =>
    rw [snakeFrom]
    rcases List.mem_cons.mp h with rfl | h
    · rw [if_neg (by decide), loweredCapital_mark]
      simp
    · split
      · exact ih h
      · exact List.mem_append_right _ (ih h)

theorem mark_notMem_compoundTerms : ∀ term ∈ compoundTerms, '#' ∉ term.1.toList := by
  decide

theorem mark_mem_snake_iff : '#' ∈ (snake name).toList ↔ '#' ∈ name.toList := by
  constructor
  · intro h
    exact (mem_of_mem_snake h (by decide)).1
  · intro h
    rw [snake]
    split
    · rename_i fixed hf
      exact absurd h (mark_notMem_compoundTerms _ (mem_of_lookup_eq_some hf))
    · rw [String.toList_ofList]
      exact mark_mem_snakeFrom h

theorem Spelled.snake_eq_nil (h : Spelled name.toList) (hi : initial? name = none) :
    (Naming.snake name).toList = [] := by
  rw [← List.head?_eq_none_iff, head?_snake, h.find?_eq_initial?, hi]
  rfl

theorem Spelled.snake_eq_cons (h : Spelled name.toList) (hi : initial? name = some c) :
    ∃ d rest, (Naming.snake name).toList = d :: rest ∧ d ≠ '_' ∧
      ((startsIdentifier c = true ∧ startsIdentifier d = true) ∨
        (startsIdentifier c = false ∧ d = c)) := by
  have hne : c ≠ '_' := by simpa using List.find?_some hi
  obtain ⟨d, more, hd⟩ := List.exists_cons_of_ne_nil (loweredCapital_ne_nil c)
  have hhead : (Naming.snake name).toList.head? = some d := by
    rw [head?_snake, h.find?_eq_initial?, hi, Option.bind_some, hd]
    rfl
  obtain ⟨rest, hrest⟩ := List.head?_eq_some_iff.mp hhead
  refine ⟨d, rest, hrest, ?_, ?_⟩
  · rintro rfl
    exact underscore_notMem_loweredCapital hne (by simp [hd])
  · rcases h c (List.mem_of_find?_eq_some hi) with hc | rfl
    · have hstands := standsFor_loweredCapital hc
      rw [hd] at hstands
      cases hs : startsIdentifier c with
      | true => exact .inl ⟨rfl, by simpa using hstands.starts hs⟩
      | false => exact .inr ⟨rfl, (List.cons.inj (hstands.fixed hs)).1⟩
    · rw [loweredCapital_mark] at hd
      exact .inr ⟨by decide, (List.cons.inj hd).1.symm⟩

theorem Spelled.starts_snake (h : Spelled name.toList) :
    (Naming.snake name).toList.head?.any startsIdentifier =
      (initial? name).any startsIdentifier := by
  cases hi : initial? name with
  | none => simp [h.snake_eq_nil hi]
  | some c =>
    obtain ⟨d, rest, hsnake, -, ⟨hc, hd⟩ | ⟨-, rfl⟩⟩ := h.snake_eq_cons hi
    · simp [hsnake, hc, hd]
    · simp [hsnake]

theorem Spelled.continues_snake (h : Spelled name.toList) (hm : '#' ∉ name.toList) :
    ∀ d ∈ (Naming.snake name).toList, continuesIdentifier d = true := by
  intro d hd
  refine (h.snake d hd).resolve_right ?_
  rintro rfl
  exact hm (mark_mem_snake_iff.mp hd)

-- ---------------------------------------------------------------------------
-- Pascal case
-- ---------------------------------------------------------------------------

theorem mem_of_mem_words {word : List Char} (h : word ∈ words name) (hc : c ∈ word) :
    c ∈ (Naming.snake name).toList := by
  have hpiece := (List.mem_filter.mp h).1
  refine (mem_pieces_iff ?_).mp ⟨word, hpiece, hc⟩
  rintro rfl
  exact separator_notMem_of_mem_pieces hpiece hc

theorem mem_capitalize (h : d ∈ capitalize cs) : d ∈ cs ∨ ∃ c ∈ cs, d ∈ uppercase c := by
  cases cs with
  | nil => cases h
  | cons c rest =>
    rcases List.mem_append.mp h with h | h
    · exact .inr ⟨c, List.mem_cons_self, h⟩
    · exact .inl (List.mem_cons_of_mem c h)

theorem mark_mem_capitalize (h : '#' ∈ cs) : '#' ∈ capitalize cs := by
  cases cs with
  | nil => cases h
  | cons c rest =>
    rcases List.mem_cons.mp h with rfl | h
    · exact List.mem_append_left _ (by decide)
    · exact List.mem_append_right _ h

theorem mem_pascal (h : d ∈ (pascal name).toList) :
    d ∈ (Naming.snake name).toList ∨ ∃ c ∈ (Naming.snake name).toList, d ∈ uppercase c := by
  rw [pascal, String.toList_ofList] at h
  obtain ⟨word, hw, hd⟩ := List.mem_flatMap.mp h
  rcases mem_capitalize hd with hd | ⟨c, hc, hd⟩
  · exact .inl (mem_of_mem_words hw hd)
  · exact .inr ⟨c, mem_of_mem_words hw hc, hd⟩

theorem mark_mem_pascal (h : '#' ∈ name.toList) : '#' ∈ (pascal name).toList := by
  obtain ⟨word, hw, hm⟩ := (mem_pieces_iff (by decide : '#' ≠ '_')).mpr (mark_mem_snake_iff.mpr h)
  rw [pascal, String.toList_ofList]
  refine List.mem_flatMap.mpr ⟨word, List.mem_filter.mpr ⟨hw, ?_⟩, mark_mem_capitalize hm⟩
  simpa using List.ne_nil_of_mem hm

theorem Spelled.continues_pascal (h : Spelled name.toList) (hm : '#' ∉ name.toList) :
    ∀ d ∈ (pascal name).toList, continuesIdentifier d = true := by
  intro d hd
  rcases mem_pascal hd with hd | ⟨c, hc, hd⟩
  · exact h.continues_snake hm d hd
  · exact continuesIdentifier_of_mem_uppercase (h.continues_snake hm c hc) hd

theorem pascal_eq_append {rest : List Char} (h : (Naming.snake name).toList = d :: rest)
    (hd : d ≠ '_') : ∃ more, (pascal name).toList = uppercase d ++ more := by
  obtain ⟨piece, others, hpieces⟩ := List.exists_cons_of_ne_nil (@pieces_ne_nil '_' rest)
  have hwords : words name = (d :: piece) :: others.filter (!·.isEmpty) := by
    rw [words, h, pieces, if_neg hd, hpieces]
    rfl
  refine ⟨piece ++ (others.filter (!·.isEmpty)).flatMap capitalize, ?_⟩
  rw [pascal, hwords, String.toList_ofList, List.flatMap_cons, capitalize, List.append_assoc]

-- ---------------------------------------------------------------------------
-- Constant case
-- ---------------------------------------------------------------------------

open Code

theorem constantText_eq (cs : List Char) :
    constantText cs =
      (if (cs.flatMap uppercase).head?.any Char.isDigit then ['_'] else []) ++
        cs.flatMap uppercase := by
  rw [constantText]
  split <;> simp_all

theorem mem_constantText (h : d ∈ constantText cs) : d = '_' ∨ ∃ c ∈ cs, d ∈ uppercase c := by
  rw [constantText_eq] at h
  rcases List.mem_append.mp h with h | h
  · split at h
    · exact .inl (List.mem_singleton.mp h)
    · cases h
  · exact .inr (List.mem_flatMap.mp h)

theorem mark_mem_constantName (h : '#' ∈ name.toList) : '#' ∈ (constantName name).toList := by
  rw [constantName, String.toList_ofList, constantText_eq]
  refine List.mem_append_right _ (List.mem_flatMap.mpr ⟨'#', mark_mem_snake_iff.mpr h, ?_⟩)
  decide

theorem not_isLower_of_mem_constantName (h : d ∈ (constantName name).toList) :
    d.isLower = false := by
  rw [constantName, String.toList_ofList] at h
  rcases mem_constantText h with rfl | ⟨c, -, hd⟩
  · decide
  · exact not_isLower_of_mem_uppercase hd

theorem Spelled.continues_constantName (h : Spelled name.toList) (hm : '#' ∉ name.toList) :
    ∀ d ∈ (constantName name).toList, continuesIdentifier d = true := by
  intro d hd
  rw [constantName, String.toList_ofList] at hd
  rcases mem_constantText hd with rfl | ⟨c, hc, hd⟩
  · decide
  · exact continuesIdentifier_of_mem_uppercase (h.continues_snake hm c hc) hd

/-- What may begin a name whose constant starts an identifier. Before a digit an underscore
is put. -/
def beginsConstant (c : Char) : Bool :=
  startsIdentifier c || c.isDigit || c == iotaSubscript

theorem startsIdentifier_underscore : startsIdentifier '_' = true := by decide

theorem uppercase_of_not_starts (hc : continuesIdentifier c = true ∨ c = '#')
    (hs : startsIdentifier c = false) (hi : c ≠ iotaSubscript) : uppercase c = [c] := by
  rcases hc with hc | rfl
  · exact (standsFor_uppercase hc hi).fixed hs
  · decide

theorem starts_constantText (hc : continuesIdentifier c = true ∨ c = '#') (rest : List Char) :
    (constantText (c :: rest)).head?.any startsIdentifier = beginsConstant c := by
  obtain ⟨u, more, hu⟩ := List.exists_cons_of_ne_nil (uppercase_ne_nil c)
  have hhead : (constantText (c :: rest)).head? = some (if u.isDigit then '_' else u) := by
    rw [constantText_eq, List.flatMap_cons, hu]
    split <;> simp_all
  rw [hhead, Option.any_some]
  by_cases hi : c = iotaSubscript
  · subst hi
    rw [uppercase_iotaSubscript] at hu
    obtain ⟨rfl, -⟩ := List.cons.inj hu
    decide +kernel
  · cases hs : startsIdentifier c with
    | true =>
      have hcontinues := continuesIdentifier_of_startsIdentifier hs
      have hstarts := (standsFor_uppercase hcontinues hi).starts hs
      rw [hu, List.head?_cons, Option.any_some] at hstarts
      rw [beginsConstant, hs]
      split
      · simp [startsIdentifier_underscore]
      · simp [hstarts]
    | false =>
      rw [uppercase_of_not_starts hc hs hi] at hu
      obtain ⟨rfl, -⟩ := List.cons.inj hu
      rw [beginsConstant, hs]
      split
      · rename_i hd
        simp [startsIdentifier_underscore, hd]
      · rename_i hd
        simp [hs, hd, hi]

theorem Spelled.starts_constantName (h : Spelled name.toList) :
    (constantName name).toList.head?.any startsIdentifier =
      (initial? name).any beginsConstant := by
  rw [constantName, String.toList_ofList]
  cases hi : initial? name with
  | none => simp [h.snake_eq_nil hi, constantText]
  | some c =>
    obtain ⟨d, rest, hsnake, -, hd⟩ := h.snake_eq_cons hi
    rw [hsnake, starts_constantText (h.snake d (by simp [hsnake])), Option.any_some]
    rcases hd with ⟨hc, hd⟩ | ⟨-, rfl⟩
    · simp [beginsConstant, hc, hd]
    · rfl

theorem Spelled.constantName_ne_underscore (h : Spelled name.toList) : constantName name ≠ "_" := by
  intro he
  have htext : constantText (Naming.snake name).toList = ['_'] := by
    rw [← String.toList_ofList (l := constantText _), ← constantName, he]
    rfl
  cases hi : initial? name with
  | none =>
    rw [h.snake_eq_nil hi] at htext
    exact absurd htext (by decide)
  | some c =>
    obtain ⟨d, rest, hsnake, hne, -⟩ := h.snake_eq_cons hi
    obtain ⟨u, more, hu⟩ := List.exists_cons_of_ne_nil (uppercase_ne_nil d)
    rw [hsnake, constantText_eq, List.flatMap_cons, hu] at htext
    split at htext
    · simp at htext
    · have hunderscore : '_' ∈ uppercase d := by simp_all
      rcases mem_uppercase hunderscore with hupper | hpast | ⟨rfl, -⟩
      · exact absurd hupper (by decide)
      · exact absurd hpast (by decide)
      · exact hne rfl

end SchemaCompiler.Naming
