import Mathlib.Data.Char
import SchemaCompiler.Proofs.Naming.Snake
import SchemaCompiler.Proofs.Text.Blank
import SchemaCompiler.Proofs.Text.Identifier

/-!
# Literals as they are written

The numbers and the quoted strings that stand for a value, and their texts. A text is
read as a literal exactly if it is the text of one.
-/

namespace SchemaCompiler.Sql

open Text

variable {cs : List Char} {c : Char}

-- ---------------------------------------------------------------------------
-- Identifiers
-- ---------------------------------------------------------------------------

theorem not_isBlank_of_continuesName (h : continuesName c = true) : isBlank c = false :=
  of_ascii (p := fun c => continuesName c = true → isBlank c = false) (by decide)
    (ascii_of_continuesName h) h

theorem continuesName_of_mem {name : String} (h : isIdentifier name = true)
    (hc : c ∈ name.toList) : continuesName c = true := by
  rw [isIdentifier, isIdentifierText_eq, Bool.and_eq_true, List.all_eq_true] at h
  exact h.1 c hc

theorem notMem_of_isIdentifier {name : String} (h : isIdentifier name = true)
    (hc : continuesName c = false) : c ∉ name.toList := by
  intro hm
  simp [continuesName_of_mem h hm] at hc

theorem toList_ne_nil_of_isIdentifier {name : String} (h : isIdentifier name = true) :
    name.toList ≠ [] := by
  intro hn
  simp [isIdentifier, hn, isIdentifierText] at h

theorem trim_of_isIdentifier {name : String} (h : isIdentifier name = true) :
    trim name.toList = name.toList :=
  trim_of_no_blank fun _ hc => not_isBlank_of_continuesName (continuesName_of_mem h hc)

-- ---------------------------------------------------------------------------
-- Numbers
-- ---------------------------------------------------------------------------

inductive Sign where
  | plus
  | minus
deriving DecidableEq, Repr

def Sign.char : Sign → Char
  | .plus => '+'
  | .minus => '-'

/-- A decimal number, with the digits that are written. -/
structure Numeral where
  sign : Option Sign
  whole : List Char
  fraction : Option (List Char)
  whole_digits : isDigits whole = true
  fraction_digits : ∀ digits ∈ fraction, isDigits digits = true

def fractionText : Option (List Char) → List Char
  | none => []
  | some digits => '.' :: digits

def Numeral.text (numeral : Numeral) : List Char :=
  (numeral.sign.map Sign.char).toList ++ (numeral.whole ++ fractionText numeral.fraction)

theorem isDigits_iff : isDigits cs = true ↔ cs ≠ [] ∧ ∀ c ∈ cs, isDigit c = true := by
  simp [isDigits]

theorem unsigned_iff :
    (isDigits (cs.takeWhile isDigit) &&
      match cs.dropWhile isDigit with
      | [] => true
      | '.' :: fraction => isDigits fraction
      | _ => false) = true ↔
      ∃ whole fraction, isDigits whole = true ∧ (∀ digits ∈ fraction, isDigits digits = true) ∧
        cs = whole ++ fractionText fraction := by
  constructor
  · intro h
    obtain ⟨hwhole, hrest⟩ := Bool.and_eq_true_iff.mp h
    refine ⟨cs.takeWhile isDigit, ?_⟩
    split at hrest
    · rename_i hnil
      refine ⟨none, hwhole, nofun, ?_⟩
      rw [fractionText, ← hnil, List.takeWhile_append_dropWhile]
    · rename_i fraction hdot
      refine ⟨some fraction, hwhole, by simpa using hrest, ?_⟩
      rw [fractionText, ← hdot, List.takeWhile_append_dropWhile]
    · cases hrest
  · rintro ⟨whole, fraction, hwhole, hfraction, rfl⟩
    have hall := (isDigits_iff.mp hwhole).2
    rw [List.takeWhile_append_of_pos hall, List.dropWhile_append_of_pos hall]
    have hdot : isDigit '.' = false := by decide
    cases fraction with
    | none => simp [fractionText, hwhole]
    | some digits => simp [fractionText, hdot, hwhole, hfraction digits rfl]

theorem isNumber_iff : isNumber cs = true ↔ ∃ numeral : Numeral, numeral.text = cs := by
  rw [isNumber.eq_def]
  refine unsigned_iff.trans ?_
  constructor
  · rintro ⟨whole, fraction, hwhole, hfraction, hcs⟩
    split at hcs
    · exact ⟨⟨some .plus, whole, fraction, hwhole, hfraction⟩,
        by simp [Numeral.text, Sign.char, hcs]⟩
    · exact ⟨⟨some .minus, whole, fraction, hwhole, hfraction⟩,
        by simp [Numeral.text, Sign.char, hcs]⟩
    · exact ⟨⟨none, whole, fraction, hwhole, hfraction⟩, by simp [Numeral.text, hcs]⟩
  · rintro ⟨⟨sign, whole, fraction, hwhole, hfraction⟩, rfl⟩
    refine ⟨whole, fraction, hwhole, hfraction, ?_⟩
    cases sign with
    | some sign => cases sign <;> rfl
    | none =>
      -- A digit at the start is no sign.
      obtain ⟨hne, hall⟩ := isDigits_iff.mp hwhole
      obtain ⟨c, more, rfl⟩ := List.exists_cons_of_ne_nil hne
      have hc := hall c List.mem_cons_self
      simp only [Numeral.text, Option.map_none, Option.toList_none, List.nil_append,
        List.cons_append]
      split
      · rename_i he
        cases he
        exact absurd hc (by decide)
      · rename_i he
        cases he
        exact absurd hc (by decide)
      · rfl

-- ---------------------------------------------------------------------------
-- Quoted strings
-- ---------------------------------------------------------------------------

/-- A text as it stands between quotes: every quote in it is written twice. -/
def doubled : List Char → List Char
  | [] => []
  | c :: rest => if c = quote then quote :: quote :: doubled rest else c :: doubled rest

theorem afterString?_eq_nil_iff :
    afterString? cs = some [] ↔ ∃ content, cs = doubled content ++ [quote] := by
  constructor
  · intro h
    fun_induction afterString? cs with
    | case1 => cases h
    | case2 => exact ⟨[], rfl⟩
    | case3 => cases h
    | case4 c d rest hc ih =>
      obtain ⟨content, hcontent⟩ := ih h
      exact ⟨c :: content, by simp [doubled, hc, hcontent]⟩
    | case5 rest c hc ih =>
      obtain ⟨content, rfl⟩ := ih h
      exact ⟨quote :: content, by simp_all [doubled]⟩
    | case6 => cases h
  · rintro ⟨content, rfl⟩
    induction content with
    | nil => rfl
    | cons c content ih =>
      by_cases hc : c = quote
      · simp [doubled, hc, afterString?, ih]
      · obtain ⟨d, more, hm⟩ : ∃ d more, doubled content ++ [quote] = d :: more :=
          List.exists_cons_of_ne_nil (by simp)
        rw [hm] at ih
        simp [doubled, hc, hm, afterString?, ih]

theorem isQuoted_iff :
    isQuoted cs = true ↔ ∃ content, cs = quote :: (doubled content ++ [quote]) := by
  rw [isQuoted, beq_iff_eq]
  cases cs with
  | nil => simp [afterQuoted?]
  | cons c rest =>
    by_cases hc : c = quote
    · simp [afterQuoted?, hc, afterString?_eq_nil_iff]
    · simp [afterQuoted?, hc]

-- ---------------------------------------------------------------------------
-- Literals
-- ---------------------------------------------------------------------------

/-- A value as it is written in an expression. -/
inductive Literal where
  | number (numeral : Numeral)
  | string (content : List Char)

def Literal.text : Literal → List Char
  | .number numeral => numeral.text
  | .string content => quote :: (doubled content ++ [quote])

theorem isNumericLiteral_iff :
    isNumericLiteral cs = true ↔ ∃ literal : Literal, literal.text = cs := by
  rw [isNumericLiteral, Bool.or_eq_true, isQuoted_iff, isNumber_iff]
  constructor
  · rintro (⟨content, rfl⟩ | ⟨numeral, rfl⟩)
    · exact ⟨.string content, rfl⟩
    · exact ⟨.number numeral, rfl⟩
  · rintro ⟨numeral | content, rfl⟩
    · exact .inr ⟨numeral, rfl⟩
    · exact .inl ⟨content, rfl⟩

end SchemaCompiler.Sql
