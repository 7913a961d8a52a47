import SchemaCompiler.Proofs.Sequence
import SchemaCompiler.Proofs.Sql.Words
import SchemaCompiler.Proofs.Text.Split
import SchemaCompiler.Sql.Check

/-!
# Check expressions that pass

The exact condition for a check expression to pass. It looks at the first IN only, and it
takes an AND anywhere for the one of a BETWEEN. So in an expression that passes, a list
follows an IN unless another IN stands before it, and an AND follows a BETWEEN unless one
stands before it.
-/

namespace SchemaCompiler.Sql

open Text

variable {cs inner : List Char} {expression : String} {i : Nat}

-- ---------------------------------------------------------------------------
-- The parts of the check
-- ---------------------------------------------------------------------------

theorem Literal.text_ne_nil (literal : Literal) : literal.text ≠ [] := by
  cases literal with
  | number numeral =>
    have hwhole := (isDigits_iff.mp numeral.whole_digits).1
    simp [text, Numeral.text, hwhole]
  | string content => simp [text]

theorem parenthesized?_eq_some_iff :
    parenthesized? cs = some inner ↔ ∃ rest, cs = '(' :: (inner ++ ')' :: rest) ∧ ')' ∉ inner := by
  constructor
  · intro h
    rw [parenthesized?.eq_def] at h
    split at h
    · obtain ⟨⟨before, rest⟩, hcut, rfl⟩ := Option.map_eq_some_iff.mp h
      obtain ⟨rfl, hclose⟩ := cut?_eq_some_iff.mp hcut
      exact ⟨rest, rfl, hclose⟩
    · cases h
  · rintro ⟨rest, rfl, hclose⟩
    rw [parenthesized?, cut?_eq_some_iff.mpr ⟨rfl, hclose⟩]
    rfl

/-- What stands in parentheses, up to the first one that closes, are literals that commas
outside quotes part. -/
def ListsLiterals (cs : List Char) : Prop :=
  ∃ inner, parenthesized? (trimStart cs) = some inner ∧
    ∀ item ∈ unquotedPieces ',' inner, ∃ literal : Literal, literal.text = trim item

/-- A blank text is one blank item. -/
theorem isBlankText_eq_false_of_literals
    (h : ∀ item ∈ unquotedPieces ',' inner, ∃ literal : Literal, literal.text = trim item) :
    isBlankText inner = false := by
  rw [← Bool.not_eq_true]
  intro hblank
  have hchars := isBlankText_iff.mp hblank
  have hquote : quote ∉ inner := fun hm => absurd (hchars _ hm) (by decide)
  have hcomma : ',' ∉ inner := fun hm => absurd (hchars _ hm) (by decide)
  have hpieces : unquotedPieces ',' inner = [inner] := by
    apply unquotedPieces_eq_singleton
    rwa [unquoted, unquotedFrom_of_notMem hquote]
  obtain ⟨literal, hliteral⟩ := h inner (by simp [hpieces])
  exact literal.text_ne_nil (hliteral.trans (trim_eq_nil_iff.mpr hblank))

theorem checkList_ok_iff :
    checkList cs = .ok () ↔
      ∀ i, findWord "IN".toList cs = some i → ListsLiterals (cs.drop (i + 2)) := by
  rw [checkList]
  cases findWord "IN".toList cs with
  | none => simp
  | some i =>
    simp only [Option.some.injEq, forall_eq', ListsLiterals]
    cases parenthesized? (trimStart (cs.drop (i + 2))) with
    | none => simp
    | some inner =>
      simp only [Option.some.injEq, exists_eq_left']
      have hall : ((unquotedPieces ',' inner).map trim).find? (!isNumericLiteral ·) = none ↔
          ∀ item ∈ unquotedPieces ',' inner, ∃ literal : Literal, literal.text = trim item := by
        simp [List.find?_eq_none, isNumericLiteral_iff]
      rw [← hall]
      cases hfind : ((unquotedPieces ',' inner).map trim).find? (!isNumericLiteral ·) with
      | some item => split <;> simp
      | none => simp [isBlankText_eq_false_of_literals (hall.mp hfind)]

theorem hasWord_iff {word : String} (hw : IsWord word.toList) :
    hasWord word cs = true ↔ ∃ i, StandsAt word.toList cs i := by
  rw [hasWord, Option.isSome_iff_ne_none, ne_eq, findWord_eq_none_iff hw]
  simp

theorem checkRange_ok_iff :
    checkRange cs = .ok () ↔ (hasWord "BETWEEN" cs = true → hasWord "AND" cs = true) := by
  rw [checkRange]
  cases hasWord "BETWEEN" cs <;> cases hasWord "AND" cs <;> simp

/-- The text has the name of a function for lengths and a parenthesis after it, whatever
stands before it. -/
def NamesLength (cs : List Char) : Prop :=
  ∃ name ∈ lengthFunctions, foldCase name.toList <:+: foldCase cs

def Compares (cs : List Char) : Prop :=
  ∃ c ∈ cs, c ∈ ['<', '>', '=']

instance : Decidable (NamesLength cs) :=
  inferInstanceAs (Decidable (∃ name ∈ lengthFunctions, foldCase name.toList <:+: foldCase cs))

instance : Decidable (Compares cs) :=
  inferInstanceAs (Decidable (∃ c ∈ cs, c ∈ ['<', '>', '=']))

theorem checkLength_ok_iff : checkLength cs = .ok () ↔ (NamesLength cs → Compares cs) := by
  have hnames : lengthFunctions.any (fun name => containsFolded name.toList cs) = true ↔
      NamesLength cs := by
    simp only [List.any_eq_true, containsFolded_iff, NamesLength]
  have hcompares : (cs.any (['<', '>', '='].contains ·)) = true ↔ Compares cs := by
    simp only [List.any_eq_true, List.contains_iff_mem, Compares]
  rw [checkLength, ← hnames, ← hcompares]
  cases lengthFunctions.any (fun name => containsFolded name.toList cs) <;>
    cases cs.any (['<', '>', '='].contains ·) <;> simp

/-- What is checked of an expression without blanks at its ends. -/
structure Passes (cs : List Char) : Prop where
  nonempty : cs ≠ []
  balanced : isBalanced cs = true
  list : ∀ i, findWord "IN".toList cs = some i → ListsLiterals (cs.drop (i + 2))
  range : hasWord "BETWEEN" cs = true → hasWord "AND" cs = true
  length : NamesLength cs → Compares cs

theorem validateCheck_ok_iff :
    validateCheck expression = .ok () ↔ Passes (trim expression.toList) := by
  rw [validateCheck]
  generalize trim expression.toList = cs
  constructor
  · intro h
    split at h
    · cases h
    · rename_i hne
      split at h
      · cases h
      · rename_i hbalanced
        obtain ⟨⟨⟩, hlist, h⟩ := bind_ok_iff.mp h
        obtain ⟨⟨⟩, hrange, hlength⟩ := bind_ok_iff.mp h
        exact ⟨by simpa using hne, by simpa using hbalanced, checkList_ok_iff.mp hlist,
          checkRange_ok_iff.mp hrange, checkLength_ok_iff.mp hlength⟩
  · rintro ⟨hne, hbalanced, hlist, hrange, hlength⟩
    rw [if_neg (by simpa using hne), if_neg (by simp [hbalanced]), checkList_ok_iff.mpr hlist,
      checkRange_ok_iff.mpr hrange]
    exact checkLength_ok_iff.mpr hlength

-- ---------------------------------------------------------------------------
-- Clauses
-- ---------------------------------------------------------------------------

/-- A list of one or more literals in parentheses follows; blanks may stand before the list
and around its items. -/
def BeginsWithList (cs : List Char) : Prop :=
  ∃ items rest, items ≠ [] ∧ (∀ item ∈ items, ∃ literal : Literal, literal.text = trim item) ∧
    trimStart cs = '(' :: ([','].intercalate items ++ ')' :: rest)

theorem ListsLiterals.beginsWithList (h : ListsLiterals cs) : BeginsWithList cs := by
  obtain ⟨inner, hinner, hitems⟩ := h
  obtain ⟨rest, hcs, -⟩ := parenthesized?_eq_some_iff.mp hinner
  refine ⟨unquotedPieces ',' inner, rest, unquotedPiecesFrom_ne_nil, hitems, ?_⟩
  rw [unquotedPieces, intercalate_unquotedPiecesFrom]
  exact hcs

/-- Every IN is followed by a list, and every BETWEEN by an AND. -/
structure CompleteClauses (cs : List Char) : Prop where
  lists : ∀ i, StandsAt "IN".toList cs i → BeginsWithList (cs.drop (i + 2))
  ranges : ∀ i, StandsAt "BETWEEN".toList cs i → ∃ j, i < j ∧ StandsAt "AND".toList cs j

theorem isWord_in : IsWord "IN".toList := ⟨by decide, by decide⟩

theorem isWord_between : IsWord "BETWEEN".toList := ⟨by decide, by decide⟩

theorem isWord_and : IsWord "AND".toList := ⟨by decide, by decide⟩

theorem StandsAt.not_both {word other : List Char} (h : StandsAt word cs i)
    (ho : StandsAt other cs i) (hw : ¬ foldCase word <+: foldCase other)
    (hw' : ¬ foldCase other <+: foldCase word) : False :=
  (List.prefix_or_prefix_of_prefix h.found ho.found).elim hw hw'

/-- In an expression that passes, a list follows every IN that has no IN before it, and an
AND follows every BETWEEN that has no AND before it. -/
theorem clauses_of_validateCheck (h : validateCheck expression = .ok ()) :
    let cs := trim expression.toList
    (∀ i, StandsAt "IN".toList cs i →
      BeginsWithList (cs.drop (i + 2)) ∨ ∃ j < i, StandsAt "IN".toList cs j) ∧
    ∀ i, StandsAt "BETWEEN".toList cs i →
      (∃ j, i < j ∧ StandsAt "AND".toList cs j) ∨ ∃ j < i, StandsAt "AND".toList cs j := by
  intro cs
  have hpasses := validateCheck_ok_iff.mp h
  constructor
  · intro i hi
    by_cases hfirst : ∃ j < i, StandsAt "IN".toList cs j
    · exact .inr hfirst
    · have hfind : findWord "IN".toList cs = some i :=
        (findWord_eq_some_iff isWord_in).mpr
          ⟨hi, fun j hj hs => hfirst ⟨j, hj, hs⟩⟩
      exact .inl (hpasses.list i hfind).beginsWithList
  · intro i hi
    have hand := hpasses.range ((hasWord_iff isWord_between).mpr ⟨i, hi⟩)
    obtain ⟨j, hj⟩ := (hasWord_iff isWord_and).mp hand
    rcases Nat.lt_trichotomy i j with hlt | rfl | hgt
    · exact .inl ⟨j, hlt, hj⟩
    · exact (hi.not_both hj (by decide) (by decide)).elim
    · exact .inr ⟨j, hgt, hj⟩

/-- A list of numbers and a string, and a range. -/
theorem clauses_of_gradeCheck :
    let expression := "grade IN (-1, 'it''s', +2.5) OR age BETWEEN 0 AND 9"
    let cs := trim expression.toList
    validateCheck expression = .ok () ∧ BeginsWithList (cs.drop 8) ∧
      ∃ j, 36 < j ∧ StandsAt "AND".toList cs j := by
  intro expression cs
  have hpasses : validateCheck expression = .ok () := by decide +kernel
  obtain ⟨hlists, hranges⟩ := clauses_of_validateCheck hpasses
  refine ⟨hpasses, (hlists 6 ?_).resolve_right ?_, (hranges 36 ?_).resolve_right ?_⟩
  all_goals decide +kernel

/-- The list of a second IN is not looked at, nor where the AND of a BETWEEN stands. -/
theorem not_all_clauses_complete :
    ¬ ∀ expression : String, validateCheck expression = .ok () →
      CompleteClauses (trim expression.toList) := by
  intro hall
  have hpasses : validateCheck "a IN (1) AND b IN c OR d BETWEEN 2" = .ok () := by
    decide +kernel
  have hcomplete := hall _ hpasses
  obtain ⟨items, rest, -, -, hlist⟩ := hcomplete.lists 15 (by decide +kernel)
  have hafter : (trimStart ((trim "a IN (1) AND b IN c OR d BETWEEN 2".toList).drop 17)).head? =
      some 'c' := by decide +kernel
  rw [hlist] at hafter
  cases hafter

end SchemaCompiler.Sql
