import SchemaCompiler.Naming.Case
import SchemaCompiler.Proofs.Text.LetterCase
import SchemaCompiler.Sql.Literal

/-!
# Snake case and identifiers

Which names have an identifier of the database as their snake case. A character
that does not part words is written as its lowercase, and alone; so a name may have
only characters whose lowercase an identifier may have, and must not begin with a
digit once what parts words is taken away.
-/

namespace SchemaCompiler

open Text

-- ---------------------------------------------------------------------------
-- Identifiers
-- ---------------------------------------------------------------------------

namespace Sql

theorem continuesName_of_startsName {c : Char} (h : startsName c = true) :
    continuesName c = true := by
  simp only [startsName, continuesName, Char.isAlphanum, Bool.or_eq_true] at h ⊢
  exact h.imp_left .inl

theorem isIdentifierText_eq (cs : List Char) :
    isIdentifierText cs = (cs.all continuesName && cs.head?.any startsName) := by
  cases cs with
  | nil => rfl
  | cons c rest =>
    have h := @continuesName_of_startsName c
    cases hs : startsName c <;> simp_all [isIdentifierText]

theorem ascii_of_continuesName {c : Char} (h : continuesName c = true) : c.toNat < 128 := by
  have hu : c.isUpper = decide (c.val ≥ 'A'.val ∧ c.val ≤ 'Z'.val) := rfl
  have hl : c.isLower = (decide (c.val ≥ 'a'.val) && decide (c.val ≤ 'z'.val)) := rfl
  have ha : c.isAlpha = (c.isUpper || c.isLower) := rfl
  simp only [continuesName, Char.isAlphanum, ha, hu, hl, Char.isDigit, Bool.or_eq_true,
    Bool.and_eq_true, decide_eq_true_eq, beq_iff_eq, ge_iff_le, UInt32.le_iff_toNat_le] at h
  have hc : c.val.toNat = c.toNat := rfl
  have hmax : 'Z'.val.toNat < 128 ∧ 'z'.val.toNat < 128 ∧ '9'.val.toNat < 128 := by decide
  rcases h with ((h | h) | h) | rfl
  · omega
  · omega
  · omega
  · decide

theorem continuesName_of_past {c : Char} (h : 128 ≤ c.toNat) : continuesName c = false := by
  rw [← Bool.not_eq_true]
  intro hn
  have ha := ascii_of_continuesName hn
  omega

end Sql

namespace Naming

open Sql

-- ---------------------------------------------------------------------------
-- Single characters
-- ---------------------------------------------------------------------------

/-- Whether the lowercase of a character is a letter or digit of ASCII. -/
def isLatin (c : Char) : Bool :=
  c.isAlphanum || c == kelvinSign

theorem isLatin_of_past {c : Char} (h : 128 ≤ c.toNat) : isLatin c = (c == kelvinSign) := by
  have hn := continuesName_of_past h
  rw [continuesName, Bool.or_eq_false_iff] at hn
  rw [isLatin, hn.1, Bool.false_or]

theorem loweredCapital_ascii {c : Char} (h : c.toNat < 128) :
    isSeparator c = false → loweredCapital c = [c.toLower] ∧
      continuesName c.toLower = isLatin c ∧
        (isLatin c = true → startsName c.toLower = !c.isDigit) :=
  of_ascii (p := fun c => isSeparator c = false → loweredCapital c = [c.toLower] ∧
    continuesName c.toLower = isLatin c ∧
      (isLatin c = true → startsName c.toLower = !c.isDigit)) (by decide) h

theorem loweredCapital_kelvinSign : loweredCapital kelvinSign = ['k'] := by decide +kernel

/-- A character past ASCII is not written as one that an identifier may have, except the
kelvin sign. -/
theorem loweredCapital_past {c : Char} (h : 128 ≤ c.toNat) (hk : c ≠ kelvinSign) :
    (loweredCapital c).all continuesName = false := by
  rw [loweredCapital]
  split
  · rcases lowercase_cases h with ⟨d, hd, hp⟩ | ⟨rfl, -⟩ | hi
    · simp [hd, continuesName_of_past hp]
    · exact absurd rfl hk
    · rw [hi]
      decide
  · simp [continuesName_of_past h]

theorem loweredCapital_ne_nil (c : Char) : loweredCapital c ≠ [] := by
  rw [loweredCapital]
  split
  · by_cases h : c.toNat < 128
    · simp [lowercase, h]
    · rcases lowercase_cases (by omega : 128 ≤ c.toNat) with ⟨d, hd, -⟩ | ⟨-, hk⟩ | hi <;> simp_all
  · simp

theorem underscore_notMem_loweredCapital {c : Char} (h : c ≠ '_') :
    '_' ∉ loweredCapital c := by
  by_cases hc : c.toNat < 128
  · exact of_ascii (p := fun c => c ≠ '_' → '_' ∉ loweredCapital c) (by decide) hc h
  · rw [loweredCapital]
    split
    · rcases lowercase_cases (by omega : 128 ≤ c.toNat) with ⟨d, hd, hp⟩ | ⟨-, hk⟩ | hi
      · rw [hd, List.mem_singleton]
        rintro rfl
        exact absurd hp (by decide)
      · rw [hk]
        decide
      · rw [hi]
        decide
    · simpa using Ne.symm h

theorem loweredCapital_of_latin {c : Char} (hs : isSeparator c = false) (hl : isLatin c = true) :
    ∃ d, loweredCapital c = [d] ∧ continuesName d = true ∧ startsName d = !c.isDigit := by
  by_cases h : c.toNat < 128
  · obtain ⟨hc, hn, hd⟩ := loweredCapital_ascii h hs
    exact ⟨_, hc, hn.trans hl, hd hl⟩
  · rw [isLatin_of_past (by omega), beq_iff_eq] at hl
    subst hl
    exact ⟨'k', loweredCapital_kelvinSign, by decide, by decide⟩

theorem loweredCapital_all {c : Char} (hs : isSeparator c = false) :
    (loweredCapital c).all continuesName = isLatin c := by
  cases hl : isLatin c with
  | true =>
    obtain ⟨d, hd, hn, -⟩ := loweredCapital_of_latin hs hl
    simp [hd, hn]
  | false =>
    by_cases h : c.toNat < 128
    · obtain ⟨hc, hn, -⟩ := loweredCapital_ascii h hs
      simp [hc, hn, hl]
    · rw [isLatin_of_past (by omega), beq_eq_false_iff_ne] at hl
      exact loweredCapital_past (by omega) hl

-- ---------------------------------------------------------------------------
-- Names
-- ---------------------------------------------------------------------------

theorem snakeFrom_all (previous : Option Char) (begun parted : Bool) (cs : List Char) :
    (snakeFrom previous begun parted cs).all continuesName =
      cs.all fun c => isSeparator c || isLatin c := by
  induction cs generalizing previous begun parted with
  | nil => rfl
  | cons c rest ih =>
    rw [snakeFrom, List.all_cons]
    split <;> rename_i hs
    · rw [ih, hs]
      rfl
    · have hu : continuesName '_' = true := by decide
      rw [Bool.not_eq_true] at hs
      simp only [List.all_append, ih, loweredCapital_all hs, hs]
      split <;> simp [hu]

/-- What parts words is dropped before the first word, and then the first character is
written as its lowercase. -/
theorem snakeFrom_head (previous : Option Char) (cs : List Char) :
    (snakeFrom previous false false cs).head? =
      (cs.find? (!isSeparator ·)).bind fun c => (loweredCapital c).head? := by
  induction cs generalizing previous with
  | nil => rfl
  | cons c rest ih =>
    rw [snakeFrom]
    split <;> rename_i hs
    · simp [ih, hs]
    · obtain ⟨d, more, hd⟩ := List.exists_cons_of_ne_nil (loweredCapital_ne_nil c)
      simp [hs, hd]

theorem head?_snake (name : String) :
    (snake name).toList.head? =
      (name.toList.find? (!isSeparator ·)).bind fun c => (loweredCapital c).head? := by
  rw [snake]
  split
  · rename_i fixed hf
    have hfixed : ∀ term ∈ compoundTerms, term.2.toList.head? =
        (term.1.toList.find? (!isSeparator ·)).bind fun c => (loweredCapital c).head? := by
      decide
    exact hfixed _ (mem_of_lookup_eq_some hf)
  · rw [String.toList_ofList, snakeFrom_head]

theorem compoundTerms_identifiers : ∀ term ∈ compoundTerms, isIdentifier term.2 =
    ((term.1.toList.all fun c => isSeparator c || isLatin c) &&
      (term.1.toList.find? (!isSeparator ·)).any (!·.isDigit)) := by
  decide

theorem isIdentifier_snake (name : String) :
    isIdentifier (snake name) =
      ((name.toList.all fun c => isSeparator c || isLatin c) &&
        (name.toList.find? (!isSeparator ·)).any (!·.isDigit)) := by
  rw [snake]
  split
  · rename_i fixed hf
    exact compoundTerms_identifiers _ (mem_of_lookup_eq_some hf)
  · rw [isIdentifier, String.toList_ofList, isIdentifierText_eq, snakeFrom_all, snakeFrom_head]
    cases hl : name.toList.all fun c => isSeparator c || isLatin c with
    | false => rfl
    | true =>
      cases hf : name.toList.find? (!isSeparator ·) with
      | none => rfl
      | some c =>
        have hs : isSeparator c = false := by simpa using List.find?_some hf
        have hlatin : isLatin c = true := by
          have := List.all_eq_true.mp hl c (List.mem_of_find?_eq_some hf)
          simpa [hs] using this
        obtain ⟨d, hd, -, hstart⟩ := loweredCapital_of_latin hs hlatin
        simp [hd, hstart]

-- ---------------------------------------------------------------------------
-- Other characters
-- ---------------------------------------------------------------------------

/-- Characters that snake case may bring into a name. -/
def isBrought (c : Char) : Bool :=
  c == '_' || c.isLower || decide (128 ≤ c.toNat)

theorem eq_of_mem_loweredCapital {c d : Char} (h : d ∈ loweredCapital c)
    (hd : isBrought d = false) : d = c := by
  by_cases hc : c.toNat < 128
  · have hall : (loweredCapital c).all (fun d => isBrought d || d == c) = true :=
      of_ascii (p := fun c => (loweredCapital c).all (fun d => isBrought d || d == c) = true)
        (by decide) hc
    simpa [hd] using List.all_eq_true.mp hall d h
  · rw [loweredCapital] at h
    split at h
    · rcases lowercase_cases (by omega : 128 ≤ c.toNat) with ⟨e, he, hp⟩ | ⟨-, hk⟩ | hi
      · rw [he, List.mem_singleton] at h
        subst h
        simp [isBrought, hp] at hd
      · rw [hk, List.mem_singleton] at h
        subst h
        exact absurd hd (by decide)
      · have hbrought : ['i', '\u0307'].all isBrought = true := by decide
        rw [List.all_eq_true.mp hbrought d (hi ▸ h)] at hd
        cases hd
    · exact List.mem_singleton.mp h

theorem mem_snakeFrom {previous : Option Char} {begun parted : Bool} {cs : List Char} {d : Char}
    (h : d ∈ snakeFrom previous begun parted cs) :
    d = '_' ∨ ∃ c ∈ cs, isSeparator c = false ∧ d ∈ loweredCapital c := by
  induction cs generalizing previous begun parted with
  | nil => cases h
  | cons c rest ih =>
    have hlater (hr : d = '_' ∨ ∃ c ∈ rest, isSeparator c = false ∧ d ∈ loweredCapital c) :
        d = '_' ∨ ∃ b ∈ c :: rest, isSeparator b = false ∧ d ∈ loweredCapital b := by
      refine hr.imp_right ?_
      rintro ⟨b, hb, hs⟩
      exact ⟨b, List.mem_cons_of_mem c hb, hs⟩
    rw [snakeFrom] at h
    split at h <;> rename_i hs
    · exact hlater (ih h)
    · rcases List.mem_append.mp h with h | h
      · rcases List.mem_append.mp h with h | h
        · split at h
          · exact .inl (List.mem_singleton.mp h)
          · cases h
        · exact .inr ⟨c, List.mem_cons_self, by simpa using hs, h⟩
      · exact hlater (ih h)

theorem mem_snake {name : String} {d : Char} (h : d ∈ (snake name).toList) :
    d = '_' ∨ ∃ c ∈ name.toList, isSeparator c = false ∧ d ∈ loweredCapital c := by
  rw [snake] at h
  split at h
  · rename_i fixed hf
    have hfixed : ∀ term ∈ compoundTerms, term.2.toList.all fun d =>
        term.1.toList.any fun c => !isSeparator c && (loweredCapital c).contains d := by
      decide
    have hd := List.all_eq_true.mp (hfixed _ (mem_of_lookup_eq_some hf)) d h
    exact .inr (by simpa using hd)
  · rw [String.toList_ofList] at h
    exact mem_snakeFrom h

theorem mem_of_mem_snake {name : String} {d : Char} (h : d ∈ (snake name).toList)
    (hd : isBrought d = false) : d ∈ name.toList ∧ isSeparator d = false := by
  rcases mem_snake h with rfl | ⟨c, hc, hs, hm⟩
  · exact absurd hd (by decide)
  · exact eq_of_mem_loweredCapital hm hd ▸ ⟨hc, hs⟩

theorem not_isUpper_of_past {c : Char} (h : 128 ≤ c.toNat) : c.isUpper = false := by
  rw [← Bool.not_eq_true, isUpper_iff]
  omega

theorem not_isUpper_of_mem_loweredCapital {c d : Char} (h : d ∈ loweredCapital c) :
    d.isUpper = false := by
  by_cases hc : c.toNat < 128
  · have hascii : (loweredCapital c).all (!·.isUpper) = true :=
      of_ascii (p := fun c => (loweredCapital c).all (!·.isUpper) = true) (by decide) hc
    simpa using List.all_eq_true.mp hascii d h
  · rw [loweredCapital] at h
    split at h
    · rcases lowercase_cases (by omega : 128 ≤ c.toNat) with ⟨e, he, hp⟩ | ⟨-, hk⟩ | hi
      · rw [he, List.mem_singleton] at h
        exact h ▸ not_isUpper_of_past hp
      · rw [hk, List.mem_singleton] at h
        subst h
        decide
      · have hbrought : ['i', '\u0307'].all (!·.isUpper) = true := by decide
        simpa using List.all_eq_true.mp hbrought d (hi ▸ h)
    · rw [List.mem_singleton] at h
      exact h ▸ not_isUpper_of_past (by omega)

theorem not_isUpper_of_mem_snake {name : String} {d : Char} (h : d ∈ (snake name).toList) :
    d.isUpper = false := by
  rcases mem_snake h with rfl | ⟨c, -, -, hd⟩
  · decide
  · exact not_isUpper_of_mem_loweredCapital hd

end Naming

end SchemaCompiler
