import Mathlib.Data.List.Infix
import SchemaCompiler.Naming.Inflection
import SchemaCompiler.Proofs.Text.Split

/-!
# Singular of the plural

A word of the tables is the singular of its plural. By its ending alone a word is that
exactly if the letters that a plural adds can be told from letters of the word: not after a
single `s`, after `i` and `u`, nor before an `e` that could belong to the plural.
-/

namespace SchemaCompiler.Naming

open Text

def EndsIn (endings : List String) (cs : List Char) : Prop :=
  ∃ ending ∈ endings, ending.toList <:+ cs

variable {cs stem : List Char} {a b c : Char}

theorem endsWithAny_iff {endings : List String} :
    endsWithAny endings cs = true ↔ EndsIn endings cs := by
  simp [endsWithAny, EndsIn, List.isSuffixOf_iff_suffix]

instance (endings : List String) : Decidable (EndsIn endings cs) :=
  decidable_of_iff _ endsWithAny_iff

theorem endsIn_cons_iff {ending : String} {endings : List String} :
    EndsIn (ending :: endings) cs ↔ ending.toList <:+ cs ∨ EndsIn endings cs := by
  simp [EndsIn]

theorem pair_suffix_iff : [a, b] <:+ stem ++ [c] ↔ c = b ∧ stem.getLast? = some a := by
  rw [← List.singleton_suffix_iff_getLast?_eq_some, ← List.reverse_prefix, ← List.reverse_prefix]
  simp [List.cons_prefix_cons, eq_comm]

/-- Hissing sounds, after which a plural is marked with `es`. -/
def hisses : List String := ["ss", "sh", "ch", "x", "z"]

theorem mem_of_endsIn_hisses (h : EndsIn hisses (stem ++ [c])) : c ∈ ['s', 'h', 'x', 'z'] := by
  simp [EndsIn, hisses, pair_suffix_iff] at h
  grind

theorem endsIn_s_hisses_iff :
    EndsIn ["s", "sh", "ch", "x", "z"] (stem ++ [c]) ↔ c = 's' ∨ EndsIn hisses (stem ++ [c]) := by
  simp [EndsIn, hisses, pair_suffix_iff]
  grind

theorem append_s_suffix_iff {ending : List Char} :
    ending ++ ['s'] <:+ stem ++ [c, 's'] ↔ ending <:+ stem ++ [c] := by
  rw [List.append_cons stem, List.suffix_append_self_iff]

theorem endsIn_kept_iff :
    EndsIn ["ss", "us", "is"] (stem ++ [c, 's']) ↔ c ∈ ['s', 'u', 'i'] := by
  have hpair (b : Char) : [b, 's'] <:+ stem ++ [c, 's'] ↔ c = b := by
    simpa [List.singleton_suffix_iff_getLast?_eq_some] using @append_s_suffix_iff stem c [b]
  simp [EndsIn, hpair]

-- ---------------------------------------------------------------------------
-- Plural by the ending
-- ---------------------------------------------------------------------------

/-- Ends with `y` after a letter that is no vowel. -/
def EndsInConsonantY (cs : List Char) : Prop :=
  ∃ stem c, isVowel c = false ∧ cs = stem ++ [c, 'y']

theorem endsInConsonantY_iff :
    EndsInConsonantY (stem ++ [c]) ↔ c = 'y' ∧ ∃ b ∈ stem.getLast?, isVowel b = false := by
  constructor
  · rintro ⟨before, b, hb, hcs⟩
    obtain ⟨rfl, rfl⟩ := List.append_singleton_inj.mp (hcs.trans (List.append_cons before b ['y']))
    exact ⟨rfl, b, by simp, hb⟩
  · rintro ⟨rfl, b, hlast, hb⟩
    obtain ⟨before, rfl⟩ := List.getLast?_eq_some_iff.mp hlast
    exact ⟨before, b, hb, by simp⟩

theorem regularPlural_y (h : isVowel c = false) :
    regularPlural (stem ++ [c, 'y']) = stem ++ [c, 'i', 'e', 's'] := by
  simp [regularPlural, h]

theorem regularPlural_eq_append (h : ¬ EndsInConsonantY cs) :
    regularPlural cs =
      cs ++ if EndsIn ["s", "sh", "ch", "x", "z"] cs then ['e', 's'] else ['s'] := by
  rw [regularPlural]
  split
  · rename_i b before hreverse
    have hcs : cs = before.reverse ++ [b] ++ ['y'] := by
      rw [← List.reverse_inj, hreverse]
      simp
    have hvowel : isVowel b = true := by
      rw [← Bool.not_eq_false]
      exact fun hb => h ⟨before.reverse, b, hb, by simp [hcs]⟩
    have hhiss : ¬ EndsIn ["s", "sh", "ch", "x", "z"] cs := by
      rw [hcs, endsIn_s_hisses_iff]
      rintro (hs | hh)
      · exact absurd hs (by decide)
      · exact absurd (mem_of_endsIn_hisses hh) (by decide)
    simp [hvowel, hhiss]
  · simp only [endsWithAny_iff]
    split <;> rfl

theorem regularPlural_concat (h : ¬ EndsInConsonantY (stem ++ [c])) :
    regularPlural (stem ++ [c]) =
      stem ++ [c] ++ if c = 's' ∨ EndsIn hisses (stem ++ [c]) then ['e', 's'] else ['s'] := by
  simp only [regularPlural_eq_append h, endsIn_s_hisses_iff]

-- ---------------------------------------------------------------------------
-- Singular by the ending
-- ---------------------------------------------------------------------------

theorem regularSingular_ies (h : stem ≠ []) :
    regularSingular (stem ++ ['i', 'e', 's']) = stem ++ ['y'] := by
  obtain ⟨c, rest, rfl⟩ := List.exists_cons_of_ne_nil h
  rw [regularSingular, dropEnd?_append]

theorem regularSingular_es (h : stem.getLast? ≠ some 'i') :
    regularSingular (stem ++ ['e', 's']) =
      if EndsIn hisses stem then stem else stem ++ ['e'] := by
  have hies : dropEnd? ['i', 'e', 's'] (stem ++ ['e', 's']) = none := by
    rw [dropEnd?_eq_none_iff, ← List.singleton_append, List.suffix_append_self_iff,
      List.singleton_suffix_iff_getLast?_eq_some]
    exact h
  have hkept : ¬ EndsIn ["ss", "us", "is"] (stem ++ ['e', 's']) := by
    rw [endsIn_kept_iff]
    decide
  have hmark : dropEnd? ['s'] (stem ++ ['e', 's']) = some (stem ++ ['e']) :=
    dropEnd?_eq_some_iff.mpr (List.append_cons stem 'e' ['s'])
  simp only [regularSingular, hies, dropEnd?_append, regularSingular.dropPluralMark,
    endsWithAny_iff, hkept, hmark, if_false, Option.getD_some]
  rfl

theorem regularSingular_s (h : c ≠ 'e') :
    regularSingular (stem ++ [c, 's']) =
      if c ∈ ['s', 'u', 'i'] then stem ++ [c, 's'] else stem ++ [c] := by
  have hies : dropEnd? ['i', 'e', 's'] (stem ++ [c, 's']) = none := by
    rw [dropEnd?_eq_none_iff]
    intro hs
    have he : ['i', 'e'] <:+ stem ++ [c] := append_s_suffix_iff.mp hs
    exact h (pair_suffix_iff.mp he).1
  have hes : dropEnd? ['e', 's'] (stem ++ [c, 's']) = none := by
    rw [dropEnd?_eq_none_iff]
    intro hs
    have he : ['e'] <:+ stem ++ [c] := append_s_suffix_iff.mp hs
    simp [List.singleton_suffix_iff_getLast?_eq_some, h] at he
  have hmark : dropEnd? ['s'] (stem ++ [c, 's']) = some (stem ++ [c]) :=
    dropEnd?_eq_some_iff.mpr (List.append_cons stem c ['s'])
  simp only [regularSingular, hies, hes, regularSingular.dropPluralMark, endsWithAny_iff,
    endsIn_kept_iff, hmark, Option.getD_some]

-- ---------------------------------------------------------------------------
-- Both by the ending
-- ---------------------------------------------------------------------------

theorem regularSingular_plural_y (h : isVowel c = false) :
    regularSingular (regularPlural (stem ++ [c, 'y'])) = stem ++ [c, 'y'] := by
  rw [regularPlural_y h, List.append_cons, regularSingular_ies (by simp), ← List.append_cons]

theorem regularSingular_plural_hissing (h : EndsIn hisses (stem ++ [c])) :
    regularSingular (regularPlural (stem ++ [c])) = stem ++ [c] := by
  have hlast := mem_of_endsIn_hisses h
  have hy : ¬ EndsInConsonantY (stem ++ [c]) := by
    rw [endsInConsonantY_iff]
    rintro ⟨rfl, -⟩
    exact absurd hlast (by decide)
  have hi : (stem ++ [c]).getLast? ≠ some 'i' := by
    rw [List.getLast?_concat, ne_eq, Option.some.injEq]
    rintro rfl
    exact absurd hlast (by decide)
  rw [regularPlural_concat hy, if_pos (.inr h), regularSingular_es hi, if_pos h]

theorem regularSingular_plural_s (h : ¬ EndsIn hisses (stem ++ ['s'])) :
    regularSingular (regularPlural (stem ++ ['s'])) = stem ++ ['s'] ++ ['e'] := by
  have hy : ¬ EndsInConsonantY (stem ++ ['s']) := by simp [endsInConsonantY_iff]
  rw [regularPlural_concat hy, if_pos (.inl rfl), regularSingular_es (by simp), if_neg h]

theorem regularPlural_concat_s (hy : ¬ EndsInConsonantY (stem ++ [c])) (hs : c ≠ 's')
    (hhiss : ¬ EndsIn hisses (stem ++ [c])) :
    regularPlural (stem ++ [c]) = stem ++ [c, 's'] := by
  rw [regularPlural_concat hy, if_neg (by simp [hs, hhiss]), ← List.append_cons]

theorem regularPlural_e : regularPlural (stem ++ ['e']) = stem ++ ['e', 's'] := by
  refine regularPlural_concat_s ?_ (by decide) fun h => ?_
  · simp [endsInConsonantY_iff]
  · exact absurd (mem_of_endsIn_hisses h) (by decide)

theorem regularSingular_plural_ie (h : stem ≠ []) :
    regularSingular (regularPlural (stem ++ ['i', 'e'])) = stem ++ ['y'] := by
  rw [List.append_cons, regularPlural_e, ← List.append_cons, regularSingular_ies h]

theorem regularSingular_plural_e (h : stem.getLast? ≠ some 'i') :
    regularSingular (regularPlural (stem ++ ['e'])) =
      if EndsIn hisses stem then stem else stem ++ ['e'] := by
  rw [regularPlural_e, regularSingular_es h]

theorem regularSingular_plural_other (hy : ¬ EndsInConsonantY (stem ++ [c]))
    (hhiss : ¬ EndsIn hisses (stem ++ [c])) (he : c ≠ 'e') (hs : c ≠ 's') :
    regularSingular (regularPlural (stem ++ [c])) =
      if c ∈ ['u', 'i'] then stem ++ [c, 's'] else stem ++ [c] := by
  rw [regularPlural_concat_s hy hs hhiss, regularSingular_s he]
  simp [hs]

/-- The endings whose plural goes back to them. -/
inductive Reversible : List Char → Prop
  | consonantY (stem : List Char) {c : Char} (h : isVowel c = false) :
      Reversible (stem ++ [c, 'y'])
  | hissing {cs : List Char} (h : EndsIn hisses cs) : Reversible cs
  | finalE {stem : List Char} (h : ¬ EndsIn ("i" :: hisses) stem) : Reversible (stem ++ ['e'])
  | other (stem : List Char) {c : Char} (h : c ∉ ['e', 's', 'i', 'u']) : Reversible (stem ++ [c])

theorem Reversible.regularSingular_plural (h : Reversible cs) :
    regularSingular (regularPlural cs) = cs := by
  cases h with
  | consonantY stem hc => exact regularSingular_plural_y hc
  | hissing h =>
    rcases List.eq_nil_or_concat' cs with rfl | ⟨stem, c, rfl⟩
    · exact absurd h (by decide)
    · exact regularSingular_plural_hissing h
  | finalE h =>
    rw [endsIn_cons_iff, not_or] at h
    rw [regularSingular_plural_e, if_neg h.2]
    exact fun hi => h.1 (List.singleton_suffix_iff_getLast?_eq_some.mpr hi)
  | @other stem c hc =>
    by_cases hhiss : EndsIn hisses (stem ++ [c])
    · exact regularSingular_plural_hissing hhiss
    by_cases hy : EndsInConsonantY (stem ++ [c])
    · obtain ⟨before, b, hb, hcs⟩ := hy
      rw [hcs]
      exact regularSingular_plural_y hb
    · simp only [List.mem_cons, List.not_mem_nil, or_false, not_or] at hc
      rw [regularSingular_plural_other hy hhiss hc.1 hc.2.1, if_neg (by simp [hc])]

/-- By its ending a word is the singular of its plural exactly if the ending is one of these,
or the word is `ie`, before which there is no stem to take for a word with `y`. -/
theorem regularSingular_plural_iff (hne : cs ≠ []) :
    regularSingular (regularPlural cs) = cs ↔ Reversible cs ∨ cs = ['i', 'e'] := by
  constructor
  case mpr =>
    rintro (h | rfl)
    · exact h.regularSingular_plural
    · decide
  intro h
  obtain ⟨stem, c, rfl⟩ := (List.eq_nil_or_concat' cs).resolve_left hne
  by_cases hc : c ∉ ['e', 's', 'i', 'u']
  · exact .inl (.other stem hc)
  by_cases hhiss : EndsIn hisses (stem ++ [c])
  · exact .inl (.hissing hhiss)
  simp only [List.mem_cons, List.not_mem_nil, or_false, not_not] at hc
  rcases hc with rfl | rfl | hc
  · by_cases hi : stem.getLast? = some 'i'
    · obtain ⟨before, rfl⟩ := List.getLast?_eq_some_iff.mp hi
      by_cases hbefore : before = []
      · exact .inr (by simp [hbefore])
      · rw [← List.append_cons, regularSingular_plural_ie hbefore] at h
        simp at h
    · refine .inl (.finalE ?_)
      rw [endsIn_cons_iff, not_or]
      refine ⟨fun hs => hi (List.singleton_suffix_iff_getLast?_eq_some.mp hs), fun hstem => ?_⟩
      rw [regularSingular_plural_e hi, if_pos hstem] at h
      simp at h
  · rw [regularSingular_plural_s hhiss] at h
    simp at h
  · have hy : ¬ EndsInConsonantY (stem ++ [c]) := by
      rw [endsInConsonantY_iff]
      rcases hc with rfl | rfl <;> simp
    rw [regularSingular_plural_other hy hhiss (by rcases hc with rfl | rfl <;> decide)
      (by rcases hc with rfl | rfl <;> decide), if_pos (by simpa [or_comm] using hc)] at h
    simp at h

-- ---------------------------------------------------------------------------
-- Words
-- ---------------------------------------------------------------------------

def IsListed (word : String) : Prop :=
  word ∈ uncountable ∨ word ∈ irregularPlurals.map (·.1) ∨ word ∈ irregularPlurals.map (·.2)

instance (word : String) : Decidable (IsListed word) :=
  inferInstanceAs (Decidable (_ ∨ _))

variable {word : String}

theorem plural_of_unlisted (hne : word ≠ "") (h : ¬ IsListed word) :
    plural word = .ofList (regularPlural word.toList) := by
  simp only [IsListed, not_or, List.mem_map, not_exists, not_and] at h
  have hlookup : irregularPlurals.lookup word = none := by
    rw [List.lookup_eq_none_iff]
    intro entry hm
    rw [bne_iff_ne]
    exact fun he => h.2.1 entry hm he.symm
  rw [plural, if_neg (by simp [hne, h.1]), hlookup]

theorem singular_of_unlisted (h : ¬ IsListed word) :
    singular word = .ofList (regularSingular word.toList) := by
  simp only [IsListed, not_or, List.mem_map, not_exists, not_and] at h
  have hfind : irregularPlurals.find? (·.2 = word) = none := by
    rw [List.find?_eq_none]
    exact fun entry hm => by simpa using h.2.2 entry hm
  have hany : irregularPlurals.any (·.1 = word) = false := by
    rw [List.any_eq_false]
    exact fun entry hm => by simpa using h.2.1 entry hm
  by_cases hne : word = ""
  · subst hne
    rfl
  · rw [singular, if_neg (by simp [hne, h.1]), hfind]
    simp [hany]

/-- The singular of its plural is the word itself, for every word that has no plural of its own
or is the singular of an irregular one. Where neither word is in the tables, it is the word
itself exactly for the reversible endings, and for `ie`. -/
theorem singular_plural (word : String) :
    (word ∈ uncountable ∨ word ∈ irregularPlurals.map (·.1) → singular (plural word) = word) ∧
      (word ≠ "" → ¬ IsListed word → ¬ IsListed (plural word) →
        (singular (plural word) = word ↔ Reversible word.toList ∨ word = "ie")) := by
  constructor
  · have huncountable : ∀ word ∈ uncountable, singular (plural word) = word := by decide
    have hirregular : ∀ word ∈ irregularPlurals.map (·.1), singular (plural word) = word := by
      decide
    rintro (h | h)
    · exact huncountable word h
    · exact hirregular word h
  · intro hne hword hplural
    have hcs : word.toList ≠ [] := by simpa using hne
    rw [singular_of_unlisted hplural, plural_of_unlisted hne hword, String.toList_ofList,
      ← String.toList_inj, String.toList_ofList, regularSingular_plural_iff hcs,
      ← String.toList_inj]
    rfl

theorem singular_plural_words :
    ("news" ∈ uncountable ∧ singular (plural "news") = "news") ∧
      ("goose" ∈ irregularPlurals.map (·.1) ∧ singular (plural "goose") = "goose") ∧
      ("category" ≠ "" ∧ ¬ IsListed "category" ∧ ¬ IsListed (plural "category") ∧
        Reversible "category".toList ∧ singular (plural "category") = "category") := by
  have hnews : "news" ∈ uncountable := by decide
  have hgoose : "goose" ∈ irregularPlurals.map (·.1) := by decide
  have hcategory : ¬ IsListed "category" := by decide
  have hcategories : ¬ IsListed (plural "category") := by decide
  have hshape : Reversible "category".toList := by
    have hy : "category".toList = "catego".toList ++ ['r', 'y'] := by decide
    exact hy ▸ .consonantY _ (by decide)
  refine ⟨⟨hnews, ?_⟩, ⟨hgoose, ?_⟩, by decide, hcategory, hcategories, hshape, ?_⟩
  · exact (singular_plural "news").1 (.inl hnews)
  · exact (singular_plural "goose").1 (.inr hgoose)
  · exact ((singular_plural "category").2 (by decide) hcategory hcategories).mpr (.inl hshape)

-- After `i` the final `e` is taken for a part of the plural.
example : singular (plural "movie") = "movy" := by decide

end SchemaCompiler.Naming
