import Mathlib.Data.List.Chain
import SchemaCompiler.Proofs.Naming.Snake
import SchemaCompiler.Proofs.Text.Identifier

/-!
# The form of snake case

Snake case keeps all that does not part words, in lowercase and in order; what parts words is
a single underscore between two of its characters. A name of ASCII in snake case has nothing
that would part its words again, so it is its own snake case.
-/

namespace SchemaCompiler

-- ---------------------------------------------------------------------------
-- Blanks
-- ---------------------------------------------------------------------------

namespace Text

theorem blank_notMem_lowerShifts : ∀ shift ∈ lowerShifts, ∀ code ∈ blankCodes,
    (code : Int) < shift.first + shift.offset ∨ shift.last + shift.offset < code := by
  decide +kernel

theorem not_isBlank_of_mem_lowercase {c d : Char} (h : isBlank c = false)
    (hd : d ∈ lowercase c) : isBlank d = false := by
  rw [lowercase] at hd
  split at hd
  · rename_i hc
    rw [List.mem_singleton] at hd
    rw [hd]
    exact of_ascii (p := fun c => isBlank c = false → isBlank c.toLower = false) (by decide) hc h
  · rw [mapCase] at hd
    split at hd
    · rename_i codes hcodes
      obtain ⟨code, hcode, rfl⟩ := List.mem_map.mp hd
      have hexpansions : ∀ entry ∈ lowerExpansions, ∀ code ∈ entry.2,
          isBlank (.ofNat code) = false := by
        decide
      exact hexpansions _ (mem_of_lookup_eq_some hcodes) code hcode
    · split at hd <;> rw [List.mem_singleton] at hd <;> subst hd
      · rename_i shift hf
        have hin := List.find?_some hf
        have hshift := List.mem_of_find?_eq_some hf
        rcases staysPast_of_mem_lowerShifts shift hshift with hpast | ⟨hfirst, hlast, hoffset⟩
        · rw [← Bool.not_eq_true]
          intro hblank
          have hcode := hpast.toNat_apply hin
          obtain ⟨hge, hle, -⟩ := Run.contains_iff.mp hin
          rcases blank_notMem_lowerShifts shift hshift _
            (mem_blankCodes hblank (hpast.apply hin)) with h | h <;> omega
        · obtain ⟨hge, hle, -⟩ := Run.contains_iff.mp hin
          rw [Shift.apply, hoffset, show c.toNat = 0x212A by omega]
          decide
      · exact h

end Text

namespace Naming

open Text

theorem not_isSeparator_iff {c : Char} :
    isSeparator c = false ↔ c ≠ '_' ∧ c ≠ '-' ∧ isBlank c = false := by
  simp [isSeparator, and_assoc]

theorem not_isSeparator_of_mem_loweredCapital {c d : Char} (h : isSeparator c = false)
    (hd : d ∈ loweredCapital c) : isSeparator d = false := by
  obtain ⟨hunderscore, hdash, hblank⟩ := not_isSeparator_iff.mp h
  refine not_isSeparator_iff.mpr ⟨?_, ?_, ?_⟩
  · rintro rfl
    exact underscore_notMem_loweredCapital hunderscore hd
  · rintro rfl
    exact hdash (eq_of_mem_loweredCapital hd (by decide)).symm
  · rw [loweredCapital] at hd
    split at hd
    · exact not_isBlank_of_mem_lowercase hblank hd
    · rwa [List.mem_singleton.mp hd]

-- ---------------------------------------------------------------------------
-- Underscores
-- ---------------------------------------------------------------------------

/-- Underscores stand neither side by side nor at the end. -/
structure Parting (cs : List Char) : Prop where
  single : cs.IsChain fun c d => ¬ (c = '_' ∧ d = '_')
  last : cs.getLast? ≠ some '_'

theorem parting_nil : Parting [] := ⟨.nil, by simp⟩

variable {part rest : List Char}

theorem Parting.append (h : Parting rest) (hpart : '_' ∉ part) : Parting (part ++ rest) := by
  have hplain : ∀ c ∈ part, c ≠ '_' := fun c hc => ne_of_mem_of_not_mem hc hpart
  constructor
  case single =>
    refine List.isChain_append.mpr ⟨?_, h.single, ?_⟩
    · exact (List.pairwise_of_forall_mem_list fun c hc d _ => by simp [hplain c hc]).isChain
    · intro c hc d _
      simp [hplain c (List.mem_of_mem_getLast? hc)]
  case last =>
    rw [List.getLast?_append]
    cases hlast : rest.getLast? with
    | some c => simpa [hlast] using h.last
    | none =>
      intro hc
      exact hpart (List.mem_of_mem_getLast? hc)

theorem Parting.underscore (h : Parting rest) (hhead : ∃ c ∈ rest.head?, c ≠ '_') :
    Parting ('_' :: rest) := by
  obtain ⟨first, hf, hne⟩ := hhead
  obtain ⟨more, rfl⟩ := List.head?_eq_some_iff.mp hf
  constructor
  case single =>
    refine List.isChain_cons.mpr ⟨?_, h.single⟩
    rintro c ⟨⟩
    simp [hne]
  case last => simpa using h.last

theorem parting_snakeFrom (previous : Option Char) (begun parted : Bool) (cs : List Char) :
    Parting (snakeFrom previous begun parted cs) := by
  induction cs generalizing previous begun parted with
  | nil => exact parting_nil
  | cons c rest ih =>
    rw [snakeFrom]
    split <;> rename_i hs
    · exact ih _ _ _
    · rw [Bool.not_eq_true] at hs
      have hplain := underscore_notMem_loweredCapital (not_isSeparator_iff.mp hs).1
      have hword := (ih (some c) true false).append hplain
      rw [List.append_assoc]
      split
      · refine hword.underscore ?_
        obtain ⟨d, more, hd⟩ := List.exists_cons_of_ne_nil (loweredCapital_ne_nil c)
        rw [hd] at hplain ⊢
        exact ⟨d, rfl, (List.ne_of_not_mem_cons hplain).symm⟩
      · exact hword

-- ---------------------------------------------------------------------------
-- Letters
-- ---------------------------------------------------------------------------

theorem filter_snakeFrom (previous : Option Char) (begun parted : Bool) (cs : List Char) :
    (snakeFrom previous begun parted cs).filter (· ≠ '_') =
      (cs.filter (!isSeparator ·)).flatMap loweredCapital := by
  induction cs generalizing previous begun parted with
  | nil => rfl
  | cons c rest ih =>
    rw [snakeFrom]
    split <;> rename_i hs
    · rw [ih, List.filter_cons_of_neg (by simp [hs])]
    · rw [Bool.not_eq_true] at hs
      have hplain := underscore_notMem_loweredCapital (not_isSeparator_iff.mp hs).1
      have hword : (loweredCapital c).filter (· ≠ '_') = loweredCapital c := by
        rw [List.filter_eq_self]
        intro d hd
        simpa using ne_of_mem_of_not_mem hd hplain
      have hparted (b : Bool) : (if b then ['_'] else []).filter (· ≠ '_') = [] := by
        cases b <;> rfl
      rw [List.filter_append, List.filter_append, hparted, hword, ih,
        List.filter_cons_of_pos (by simp [hs])]
      rfl

theorem compoundTerms_letters : ∀ term ∈ compoundTerms, '_' ∉ term.2.toList ∧
    term.2.toList = (term.1.toList.filter (!isSeparator ·)).flatMap loweredCapital := by
  decide

theorem parting_snake (name : String) : Parting (snake name).toList := by
  rw [snake]
  split
  · rename_i fixed hf
    have hplain := (compoundTerms_letters _ (mem_of_lookup_eq_some hf)).1
    simpa using parting_nil.append hplain
  · rw [String.toList_ofList]
    exact parting_snakeFrom none false false name.toList

theorem head?_snake_ne_underscore (name : String) : (snake name).toList.head? ≠ some '_' := by
  rw [head?_snake]
  intro h
  obtain ⟨c, hc, hd⟩ := Option.bind_eq_some_iff.mp h
  have hs : isSeparator c = false := by simpa using List.find?_some hc
  exact underscore_notMem_loweredCapital (not_isSeparator_iff.mp hs).1 (List.mem_of_mem_head? hd)

theorem filter_snake (name : String) :
    (snake name).toList.filter (· ≠ '_') =
      (name.toList.filter (!isSeparator ·)).flatMap loweredCapital := by
  rw [snake]
  split
  · rename_i fixed hf
    obtain ⟨hplain, hletters⟩ := compoundTerms_letters _ (mem_of_lookup_eq_some hf)
    rw [← hletters, List.filter_eq_self]
    intro c hc
    simpa using ne_of_mem_of_not_mem hc hplain
  · rw [String.toList_ofList, filter_snakeFrom]

/-- Snake case has single underscores inside and no other separator. Without them it is the
name without what parts words, with its capitals in lowercase: no character is lost, doubled
or moved. -/
theorem snake_form (name : String) :
    (snake name).toList.head? ≠ some '_' ∧ (snake name).toList.getLast? ≠ some '_' ∧
      ¬ ['_', '_'] <:+: (snake name).toList ∧
      (∀ c ∈ (snake name).toList, c ≠ '-' ∧ isBlank c = false) ∧
      (snake name).toList.filter (· ≠ '_') =
        (name.toList.filter fun c => c ≠ '_' ∧ c ≠ '-' ∧ isBlank c = false).flatMap fun c =>
          if isUppercase c then lowercase c else [c] := by
  have hparting := parting_snake name
  refine ⟨head?_snake_ne_underscore name, hparting.last, ?_, ?_, ?_⟩
  · intro hdoubled
    have hpair := hparting.single.infix hdoubled
    simp at hpair
  · intro d hd
    rcases mem_snake hd with rfl | ⟨c, -, hs, hc⟩
    · decide
    · exact (not_isSeparator_iff.mp (not_isSeparator_of_mem_loweredCapital hs hc)).2
  · rw [filter_snake]
    congr 1
    refine List.filter_congr fun c _ => ?_
    rw [Bool.eq_iff_iff, Bool.not_eq_true', not_isSeparator_iff, decide_eq_true_eq]

-- ---------------------------------------------------------------------------
-- Snake case of snake case
-- ---------------------------------------------------------------------------

theorem head?_snakeFrom_parted (previous : Option Char) (cs : List Char) :
    ∀ c ∈ (snakeFrom previous true true cs).head?, c = '_' := by
  induction cs generalizing previous with
  | nil => simp [snakeFrom]
  | cons c rest ih =>
    rw [snakeFrom]
    split
    · exact ih (some c)
    · simp

theorem isLowercase_of_isLower {c : Char} (h : c.isLower = true) : isLowercase c = true := by
  rw [isLowercase, if_pos (by have := isLower_iff.mp h; omega), h]

theorem head?_snakeFrom_of_isLowercase {b : Char} {rest : List Char} (hb : isLowercase b = true)
    (h : rest.head?.any isLowercase = false) :
    (snakeFrom (some b) true false rest).head?.any isLowercase = false := by
  cases rest with
  | nil => rfl
  | cons c rest =>
    have hunderscore : isLowercase '_' = false := by decide
    rw [snakeFrom]
    split
    · rw [Option.any_eq_false]
      intro d hd
      rw [head?_snakeFrom_parted _ _ d hd, hunderscore]
    · by_cases hword : startsWord b c rest = true
      · simp [hword, hunderscore]
      · -- A capital after a lowercase letter would start a word.
        have hcapital : isUppercase c = false := by
          rw [← Bool.not_eq_true]
          intro hc
          simp [startsWord, hc, hb] at hword
        simpa [hword, loweredCapital, hcapital] using h

theorem beginsOrdinal_snakeFrom {c : Char} {rest : List Char}
    (h : beginsOrdinal (c :: rest) = true) :
    beginsOrdinal (c :: snakeFrom (some c) true false rest) = true := by
  cases rest with
  | nil => cases h
  | cons b rest =>
    rw [beginsOrdinal, Bool.and_eq_true, Bool.not_eq_true', List.contains_iff_mem] at h
    obtain ⟨hsuffix, hrest⟩ := h
    have hletters : isSeparator b = false ∧ isUppercase b = false ∧ c.isDigit = false ∧
        b.isLower = true := by
      simp only [List.mem_cons, List.cons.injEq, List.not_mem_nil, or_false, and_true] at hsuffix
      rcases hsuffix with ⟨rfl, rfl⟩ | ⟨rfl, rfl⟩ | ⟨rfl, rfl⟩ | ⟨rfl, rfl⟩ <;> decide
    obtain ⟨hs, hcapital, hdigit, hlower⟩ := hletters
    have hnext := head?_snakeFrom_of_isLowercase (isLowercase_of_isLower hlower) hrest
    have hout : snakeFrom (some c) true false (b :: rest) =
        b :: snakeFrom (some b) true false rest := by
      simp [snakeFrom, hs, startsWord, hcapital, hdigit, loweredCapital]
    rw [hout, beginsOrdinal, Bool.and_eq_true, Bool.not_eq_true', List.contains_iff_mem]
    exact ⟨hsuffix, hnext⟩

theorem toLower_ascii {c : Char} (h : c.toNat < 128) (hs : isSeparator c = false) :
    isSeparator c.toLower = false ∧ isUppercase c.toLower = false ∧
      c.toLower.isDigit = c.isDigit ∧ (isUppercase c = false → c.toLower = c) :=
  of_ascii (p := fun c => isSeparator c = false → isSeparator c.toLower = false ∧
    isUppercase c.toLower = false ∧ c.toLower.isDigit = c.isDigit ∧
      (isUppercase c = false → c.toLower = c)) (by decide) h hs

theorem startsWord_toLower {p c : Char} {rest : List Char} (hp : p.toNat < 128)
    (hps : isSeparator p = false) (hc : c.toNat < 128) (hcs : isSeparator c = false)
    (h : startsWord p c rest = false) :
    startsWord p.toLower c.toLower (snakeFrom (some c) true false rest) = false := by
  obtain ⟨-, -, hdigit, -⟩ := toLower_ascii hp hps
  obtain ⟨-, hlower, -, hsame⟩ := toLower_ascii hc hcs
  rw [startsWord, if_neg (by simp [hlower]), hdigit]
  cases hd : p.isDigit with
  | false => simp
  | true =>
    -- After a digit a capital would start a word, and so would a letter but for an ordinal.
    have hcapital : isUppercase c = false := by
      rw [← Bool.not_eq_true]
      intro hu
      simp [startsWord, hu, hd] at h
    rw [hsame hcapital]
    cases hl : isLowercase c with
    | false => rfl
    | true =>
      have hordinal : beginsOrdinal (c :: rest) = true := by
        simpa [startsWord, hcapital, hl, hd] using h
      simp [beginsOrdinal_snakeFrom hordinal]

/-- Read once more, snake case is written as it is: where the first reading stands after `p`
in a word, the second one stands after its lowercase. -/
theorem snakeFrom_snakeFrom {cs : List Char} (hascii : ∀ c ∈ cs, c.toNat < 128)
    {previous previous' : Option Char} {begun parted : Bool} (hparted : parted → begun)
    (hprevious : begun → parted = false → ∃ p, p.toNat < 128 ∧ isSeparator p = false ∧
      previous = some p ∧ previous' = some p.toLower) :
    snakeFrom previous' begun false (snakeFrom previous begun parted cs) =
      snakeFrom previous begun parted cs := by
  induction cs generalizing previous previous' begun parted with
  | nil => rfl
  | cons c rest ih =>
    obtain ⟨hc, hrest⟩ := List.forall_mem_cons.mp hascii
    rw [snakeFrom]
    split <;> rename_i hs
    · exact ih hrest id fun hb hp => absurd hb (by simp [hp])
    · rw [Bool.not_eq_true] at hs
      obtain ⟨hs', hcapital, -, -⟩ := toLower_ascii hc hs
      have hagain : snakeFrom (some c.toLower) true false (snakeFrom (some c) true false rest) =
          snakeFrom (some c) true false rest :=
        ih hrest (fun h => absurd h (by decide)) fun _ _ => ⟨c, hc, hs, rfl, rfl⟩
      have hlowered : loweredCapital c.toLower = [c.toLower] := by
        rw [loweredCapital, if_neg (by simp [hcapital])]
      rw [(loweredCapital_ascii hc hs).1]
      split <;> rename_i hword
      · have hbegun : begun = true := by
          rw [Bool.or_eq_true, Bool.and_eq_true] at hword
          exact hword.elim hparted (·.1)
        have hunderscore : isSeparator '_' = true := by decide
        simp [snakeFrom, hunderscore, hbegun, hs', hlowered, hagain]
      · have hfollows : (begun && previous'.any
            (startsWord · c.toLower (snakeFrom (some c) true false rest))) = false := by
          cases hb : begun with
          | false => rfl
          | true =>
            rw [hb, Bool.not_eq_true, Bool.true_and, Bool.or_eq_false_iff] at hword
            obtain ⟨p, hp, hps, rfl, rfl⟩ := hprevious hb hword.1
            exact startsWord_toLower hp hps hc hs hword.2
        simp [snakeFrom, hs', hlowered, hagain, hfollows]

theorem compoundTerms_snake : ∀ term ∈ compoundTerms, snake term.2 = term.2 := by
  decide

theorem lookup_compoundTerms_snake (name : String) : compoundTerms.lookup (snake name) = none := by
  have hcapital : ∀ term ∈ compoundTerms, term.1.toList.any (·.isUpper) = true := by decide
  rw [List.lookup_eq_none_iff]
  intro term hm
  obtain ⟨c, hc, hupper⟩ := List.any_eq_true.mp (hcapital term hm)
  rw [bne_iff_ne]
  intro he
  rw [not_isUpper_of_mem_snake (he ▸ hc)] at hupper
  cases hupper

theorem snake_snake_of_lookup {name : String} (h : ∀ c ∈ name.toList, c.toNat < 128)
    (hl : compoundTerms.lookup name = none) : snake (snake name) = snake name := by
  have hread : snake name = .ofList (snakeFrom none false false name.toList) := by
    rw [snake, hl]
  have hagain : snakeFrom none false false (snakeFrom none false false name.toList) =
      snakeFrom none false false name.toList :=
    snakeFrom_snakeFrom h id fun hb => absurd hb (by decide)
  conv => lhs; rw [snake, lookup_compoundTerms_snake]
  rw [hread, String.toList_ofList, hagain]

/-- The snake case of a name of ASCII is its own snake case. -/
theorem snake_snake {name : String} (h : ∀ c ∈ name.toList, c.toNat < 128) :
    snake (snake name) = snake name := by
  cases hl : compoundTerms.lookup name with
  | some fixed =>
    have hfixed : snake name = fixed := by rw [snake, hl]
    rw [hfixed]
    exact compoundTerms_snake _ (mem_of_lookup_eq_some hl)
  | none => exact snake_snake_of_lookup h hl

/-- Capitals, digits, an ordinal suffix and separators in one name. -/
theorem snake_snake_finish :
    (∀ c ∈ "_HTTPFinish-2ndPlace v2alpha".toList, c.toNat < 128) ∧
      snake "_HTTPFinish-2ndPlace v2alpha" = "http_finish_2nd_place_v2_alpha" ∧
      snake (snake "_HTTPFinish-2ndPlace v2alpha") = snake "_HTTPFinish-2ndPlace v2alpha" := by
  have hascii : ∀ c ∈ "_HTTPFinish-2ndPlace v2alpha".toList, c.toNat < 128 := by simp
  exact ⟨hascii, by decide, snake_snake hascii⟩

-- Past ASCII a capital may have no lowercase, so that a run of capitals ends elsewhere.
example : snake "𝐀𝐁C" = "𝐀𝐁c" ∧ snake "𝐀𝐁c" = "𝐀_𝐁c" := by decide +kernel

end Naming

end SchemaCompiler
