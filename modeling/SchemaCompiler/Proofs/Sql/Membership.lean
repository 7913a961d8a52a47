import SchemaCompiler.Proofs.Sql.Check

/-!
# Tests of membership

The test that a column has one of some values is written with IN and the list of the
values. The exact condition for such a test to pass: the list ends at the first
parenthesis that closes, in quotes or not, and the name of a function for lengths counts in
quotes too. So values without such parentheses and names pass, and no others but those
that also compare.
-/

namespace SchemaCompiler.Sql

open Text

variable {column : String} {literals : List Literal} {cs ds : List Char}
  {items : List (List Char)} {c : Char}

-- ---------------------------------------------------------------------------
-- Single literals
-- ---------------------------------------------------------------------------

theorem isBlank_of_isDigit (h : isDigit c = true) : isBlank c = false := by
  by_cases hc : c.toNat < 128
  · exact of_ascii (p := fun c => isDigit c = true → isBlank c = false) (by decide) hc h
  · have hcodes : ∀ code ∈ blankCodes, inRuns digitRuns code = false := by decide +kernel
    rw [← Bool.not_eq_true]
    intro hb
    simp [isDigit, hc, hcodes _ (mem_blankCodes hb (by omega))] at h

theorem toLower_of_isDigit (h : isDigit c = true) : c.toLower = c := by
  by_cases hc : c.toNat < 128
  · exact of_ascii (p := fun c => isDigit c = true → c.toLower = c) (by decide) hc h
  · exact toLower_of_past (by omega)

namespace Literal

theorem trim_text (literal : Literal) : trim literal.text = literal.text := by
  cases literal with
  | number numeral =>
    refine trim_of_no_blank fun c hc => ?_
    rcases numeral.isDigit_of_mem hc with hdigit | rfl | rfl | rfl
    · exact isBlank_of_isDigit hdigit
    all_goals decide
  | string content =>
    refine trim_eq_self ?_ ?_
    · rintro c ⟨⟩
      decide
    · intro c hc
      have he : quote = c := by simpa [text, List.getLast?_cons] using hc
      exact he ▸ by decide

theorem comma_notMem_unquoted (literal : Literal) : ',' ∉ unquoted literal.text := by
  intro h
  rcases isDigit_of_mem_unquoted h with h | h | h | h <;> exact absurd h (by decide)

end Literal

-- ---------------------------------------------------------------------------
-- Lists of literals
-- ---------------------------------------------------------------------------

/-- The literals as a list parts them: with a blank before each but the first. -/
def spaced : List Literal → List (List Char)
  | [] => []
  | literal :: rest => literal.text :: rest.map fun literal => ' ' :: literal.text

def listText (literals : List Literal) : List Char :=
  [',', ' '].intercalate (literals.map Literal.text)

theorem listText_eq (literals : List Literal) :
    listText literals = [','].intercalate (spaced literals) := by
  cases literals with
  | nil => rfl
  | cons literal rest =>
    rw [listText, List.map_cons, intercalate_pair, List.map_map]
    rfl

theorem mem_spaced {item : List Char} (h : item ∈ spaced literals) :
    ∃ literal ∈ literals, item = literal.text ∨ item = ' ' :: literal.text := by
  cases literals with
  | nil => cases h
  | cons literal rest =>
    rcases List.mem_cons.mp h with rfl | h
    · exact ⟨literal, List.mem_cons_self, .inl rfl⟩
    · obtain ⟨other, hm, rfl⟩ := List.mem_map.mp h
      exact ⟨other, List.mem_cons_of_mem _ hm, .inr rfl⟩

theorem exists_spaced {p : List Char → Prop} (hp : ∀ cs, p (' ' :: cs) ↔ p cs) :
    (∃ item ∈ spaced literals, p item) ↔ ∃ literal ∈ literals, p literal.text := by
  cases literals with
  | nil => simp [spaced]
  | cons literal rest => simp [spaced, hp]

theorem mem_listText_iff (hcomma : c ≠ ',') (hspace : c ≠ ' ') :
    c ∈ listText literals ↔ ∃ literal ∈ literals, c ∈ literal.text := by
  rw [listText_eq, mem_intercalate_iff hcomma]
  exact exists_spaced fun cs => by simp [hspace]

theorem isPiece_of_mem_spaced {item : List Char} (h : item ∈ spaced literals) :
    IsPiece ',' item := by
  obtain ⟨literal, -, rfl | rfl⟩ := mem_spaced h
  · exact ⟨literal.comma_notMem_unquoted, literal.quotedAfter_text⟩
  · have hspace : (' ' : Char) ≠ quote := by decide
    refine ⟨?_, ?_⟩
    · simpa [unquoted, unquotedFrom, hspace] using literal.comma_notMem_unquoted
    · simpa [quotedAfter, hspace] using literal.quotedAfter_text

theorem quotedAfter_listText : quotedAfter false (listText literals) = false := by
  rw [listText_eq]
  exact quotedAfter_intercalate (by decide) fun item hm => (isPiece_of_mem_spaced hm).closed

/-- Outside quotes a list has numbers, commas and blanks. -/
theorem mem_unquoted_listText (h : c ∈ unquoted (listText literals)) :
    isDigit c = true ∨ c ∈ ['+', '-', '.', ',', ' '] := by
  rw [listText_eq] at h
  obtain rfl | ⟨item, hm, hc⟩ := mem_unquoted_intercalate (by decide)
    (fun item hm => (isPiece_of_mem_spaced hm).closed) h
  · exact .inr (by decide)
  · obtain ⟨literal, -, hitem⟩ := mem_spaced hm
    have hspace : (' ' : Char) ≠ quote := by decide
    have hnumber : c = ' ' ∨ c ∈ unquoted literal.text := by
      rcases hitem with rfl | rfl
      · exact .inr hc
      · simpa [unquoted, unquotedFrom, hspace] using hc
    rcases hnumber with rfl | hnumber
    · exact .inr (by decide)
    · refine (Literal.isDigit_of_mem_unquoted hnumber).imp_right ?_
      rintro (rfl | rfl | rfl) <;> decide

-- ---------------------------------------------------------------------------
-- The test
-- ---------------------------------------------------------------------------

/-- The test that a column has one of some values. -/
def membership (column : String) (literals : List Literal) : String :=
  column ++ " IN (" ++ join ", " (literals.map fun literal => .ofList literal.text) ++ ")"

def afterColumn (literals : List Literal) : List Char :=
  ' ' :: 'I' :: 'N' :: ' ' :: '(' :: (listText literals ++ [')'])

theorem toList_membership :
    (membership column literals).toList = column.toList ++ afterColumn literals := by
  have htexts : (literals.map fun literal => String.ofList literal.text).map String.toList =
      literals.map Literal.text := by
    simp
  rw [membership, String.toList_append, String.toList_append, String.toList_append, toList_join,
    htexts]
  simp [afterColumn, listText]

theorem afterColumn_eq :
    afterColumn literals = [' ', 'I', 'N', ' ', '('] ++ (listText literals ++ [')']) := rfl

theorem unquoted_afterColumn :
    unquoted (afterColumn literals) =
      [' ', 'I', 'N', ' ', '('] ++ (unquoted (listText literals) ++ [')']) := by
  rw [afterColumn_eq, unquoted, unquotedFrom_append, unquotedFrom_of_notMem (by decide),
    quotedAfter_of_notMem (by decide), unquotedFrom_append, quotedAfter_listText]
  rfl

theorem quotedAfter_afterColumn : quotedAfter false (afterColumn literals) = false := by
  have hstart : quotedAfter false [' ', 'I', 'N', ' ', '('] = false := by decide
  rw [afterColumn_eq, quotedAfter_append, hstart, quotedAfter_append, quotedAfter_listText]
  rfl

section

variable (hcolumn : isIdentifier column = true)
include hcolumn

theorem trim_membership :
    trim (membership column literals).toList = column.toList ++ afterColumn literals := by
  rw [toList_membership]
  obtain ⟨c, more, hc⟩ := List.exists_cons_of_ne_nil (toList_ne_nil_of_isIdentifier hcolumn)
  have hstart := continuesName_of_mem hcolumn (hc ▸ List.mem_cons_self)
  refine trim_eq_self ?_ ?_
  · simpa [hc] using not_isBlank_of_continuesName hstart
  · intro d hd
    have he : ')' = d := by simpa [afterColumn, List.getLast?_cons] using hd
    exact he ▸ by decide

theorem isBalanced_membership : isBalanced (column.toList ++ afterColumn literals) = true := by
  have hname {d : Char} (hd : continuesName d = false) : d ∉ column.toList :=
    notMem_of_isIdentifier hcolumn hd
  have hquote : quote ∉ column.toList := hname (by decide)
  have hlist {d : Char} (hd : isDigit d = false) (hd' : d ∉ ['+', '-', '.', ',', ' ']) :
      d ∉ unquoted (listText literals) :=
    fun hm => (mem_unquoted_listText hm).elim (by simp [hd]) hd'
  have hinner (depth : Nat) :
      balancedFrom depth false (unquoted (listText literals) ++ [')']) =
        balancedFrom depth false [')'] :=
    balancedFrom_append_of_notMem (hlist (by decide) (by decide)) (hlist (by decide) (by decide))
      (hlist (by decide) (by decide))
  have htext : unquoted (column.toList ++ afterColumn literals) =
      column.toList ++ ([' ', 'I', 'N', ' ', '('] ++ (unquoted (listText literals) ++ [')'])) := by
    rw [← unquoted_afterColumn, unquoted, unquotedFrom_append, quotedAfter_of_notMem hquote,
      unquotedFrom_of_notMem hquote, unquoted]
  rw [isBalanced, balancedFrom_eq, ← unquoted, htext, quotedAfter_append,
    quotedAfter_of_notMem hquote, quotedAfter_afterColumn,
    balancedFrom_append_of_notMem hquote (hname (by decide)) (hname (by decide))]
  change (balancedFrom 1 false (unquoted (listText literals) ++ [')']) && true) = true
  rw [hinner]
  rfl

-- ---------------------------------------------------------------------------
-- Words of the test
-- ---------------------------------------------------------------------------

theorem length_le_of_standsAt {word : List Char} {i : Nat}
    (h : StandsAt word (column.toList ++ afterColumn literals) i)
    (hword : word.all continuesName = true)
    (hne : foldCase column.toList ≠ foldCase word) : column.toList.length ≤ i := by
  by_contra hi
  refine hne (h.eq_name (List.all_eq_true.mp hword)
    (fun d hd => continuesName_of_mem hcolumn hd) rfl ?_).symm
  omega

theorem findWord_membership (hin : foldCase column.toList ≠ foldCase "IN".toList) :
    findWord "IN".toList (column.toList ++ afterColumn literals) =
      some (column.toList.length + 1) := by
  have hquote : quote ∉ column.toList := notMem_of_isIdentifier hcolumn (by decide)
  refine (findWord_eq_some_iff isWord_in).mpr ⟨⟨?_, ?_, ?_, ?_⟩, ?_⟩
  · rw [List.drop_length_add_append]
    exact ⟨foldCase (' ' :: '(' :: (listText literals ++ [')'])), rfl⟩
  · rw [List.take_length_add_append, List.count_append, List.count_eq_zero.mpr hquote]
    exact ⟨0, rfl⟩
  · rw [List.take_length_add_append]
    intro d hd
    have he : ' ' = d := by simpa [afterColumn] using hd
    exact he ▸ rfl
  · rw [Nat.add_assoc, List.drop_length_add_append]
    rintro d ⟨⟩
    rfl
  · intro j hj hs
    have hle := length_le_of_standsAt hcolumn hs (by decide) hin
    obtain rfl : j = column.toList.length := by omega
    have hfound := hs.found
    rw [List.drop_left] at hfound
    obtain ⟨rest, hrest⟩ := hfound
    cases hrest

theorem not_hasWord_between (hbetween : foldCase column.toList ≠ foldCase "BETWEEN".toList) :
    hasWord "BETWEEN" (column.toList ++ afterColumn literals) = false := by
  rw [← Bool.not_eq_true, hasWord_iff isWord_between]
  rintro ⟨i, hs⟩
  have hle := length_le_of_standsAt hcolumn hs (by decide) hbetween
  obtain ⟨c, hc, hfold⟩ := hs.mem_unquoted (by decide)
    (notMem_of_isIdentifier hcolumn (by decide)) hle
  have hplain : ∀ d ∈ [' ', 'I', 'N', ' ', '('] ++ (['+', '-', '.', ',', ' '] ++ [')']),
      d.toLower ≠ 'b' := by
    simp
  rw [unquoted_afterColumn, List.mem_append, List.mem_append] at hc
  rcases hc with hc | hc | hc
  · exact hplain c (List.mem_append_left _ hc) hfold
  · rcases mem_unquoted_listText hc with hdigit | hc
    · rw [toLower_of_isDigit hdigit] at hfold
      rw [hfold] at hdigit
      revert hdigit
      decide
    · exact hplain c (List.mem_append_right _ (List.mem_append_left _ hc)) hfold
  · exact hplain c (List.mem_append_right _ (List.mem_append_right _ hc)) hfold

end

-- ---------------------------------------------------------------------------
-- The list of the test
-- ---------------------------------------------------------------------------

theorem quotedAfter_of_literals {inner : List Char}
    (h : ∀ item ∈ unquotedPieces ',' inner, ∃ literal : Literal, literal.text = trim item) :
    quotedAfter false inner = false := by
  have hjoin : [','].intercalate (unquotedPieces ',' inner) = inner :=
    intercalate_unquotedPiecesFrom
  rw [← hjoin]
  refine quotedAfter_intercalate (by decide) fun item hm => ?_
  obtain ⟨literal, hliteral⟩ := h item hm
  rw [← quotedAfter_trim, ← hliteral, literal.quotedAfter_text]

/-- The list of a test is read to its end exactly if no literal has a parenthesis that
closes. -/
theorem listsLiterals_iff (hne : literals ≠ []) :
    ListsLiterals ((afterColumn literals).drop 3) ↔ ∀ literal ∈ literals, ')' ∉ literal.text := by
  have hafter : trimStart ((afterColumn literals).drop 3) = '(' :: (listText literals ++ [')']) :=
    rfl
  have hitems : unquotedPieces ',' (listText literals) = spaced literals := by
    rw [listText_eq]
    refine unquotedPieces_intercalate (by decide) ?_ fun item hm => isPiece_of_mem_spaced hm
    cases literals with
    | nil => exact absurd rfl hne
    | cons literal rest => simp [spaced]
  have hclose : ')' ∈ listText literals ↔ ∃ literal ∈ literals, ')' ∈ literal.text :=
    mem_listText_iff (by decide) (by decide)
  rw [ListsLiterals, hafter]
  constructor
  · rintro ⟨inner, hinner, hliterals⟩ literal hm hparenthesis
    obtain ⟨rest, htext, hfree⟩ := parenthesized?_eq_some_iff.mp hinner
    -- The parenthesis that ends the list stands in a string, so this string is cut off.
    obtain ⟨more, hmore⟩ : ∃ more, listText literals = inner ++ ')' :: more := by
      have hcut := (List.cons.inj htext).2
      obtain rfl | ⟨more, last, rfl⟩ := List.eq_nil_or_concat rest
      · rw [List.append_left_inj] at hcut
        rw [hcut] at hclose
        exact absurd (hclose.mpr ⟨literal, hm, hparenthesis⟩) hfree
      · rw [List.concat_eq_append, ← List.cons_append, ← List.append_assoc] at hcut
        exact ⟨more, List.append_inj_left' hcut rfl⟩
    have hcovered : ')' ∉ unquoted (inner ++ ')' :: more) := fun hm => by
      rw [← hmore] at hm
      exact (mem_unquoted_listText hm).elim (by decide) (by decide)
    have hopen : quotedAfter false inner = true :=
      quotedAfter_of_notMem_unquoted (by decide) hcovered
    rw [quotedAfter_of_literals hliterals] at hopen
    cases hopen
  · intro hfree
    have hnone : ')' ∉ listText literals := by
      rw [hclose]
      rintro ⟨literal, hm, hparenthesis⟩
      exact hfree literal hm hparenthesis
    refine ⟨listText literals, parenthesized?_eq_some_iff.mpr ⟨[], rfl, hnone⟩, ?_⟩
    rw [hitems]
    intro item hm
    obtain ⟨literal, -, rfl | rfl⟩ := mem_spaced hm
    · exact ⟨literal, literal.trim_text.symm⟩
    · refine ⟨literal, ?_⟩
      have hblank : isBlankText [' '] = true := by decide
      exact (literal.trim_text.symm.trans (trim_blank_append hblank).symm)

-- ---------------------------------------------------------------------------
-- Names of functions in the values
-- ---------------------------------------------------------------------------

theorem infix_append_cons_iff {word : List Char} (hne : word ≠ []) (hc : c ∉ word) :
    word <:+: cs ++ c :: ds ↔ word <:+: cs ∨ word <:+: ds := by
  constructor
  · rintro ⟨before, after, h⟩
    rw [List.append_assoc, List.append_eq_append_iff] at h
    rcases h with ⟨rest, rfl, h⟩ | ⟨rest, rfl, h⟩
    · rw [List.append_eq_append_iff] at h
      rcases h with ⟨end', rfl, -⟩ | ⟨cut, rfl, h⟩
      · exact .inl ⟨before, end', by simp⟩
      · cases cut with
        | nil => exact .inl ⟨before, [], by simp⟩
        | cons d cut =>
          cases h
          exact absurd (by simp) hc
    · cases rest with
      | nil =>
        obtain ⟨d, more, rfl⟩ := List.exists_cons_of_ne_nil hne
        cases h
        exact absurd List.mem_cons_self hc
      | cons d rest =>
        cases h
        exact .inr ⟨rest, after, by simp⟩
  · rintro (h | h)
    · exact h.trans (List.prefix_append _ _).isInfix
    · exact h.trans ((List.suffix_cons c ds).isInfix.trans (List.suffix_append _ _).isInfix)

theorem lengthFunctions_form : ∀ name ∈ lengthFunctions,
    foldCase name.toList ≠ [] ∧ (foldCase name.toList).head? ≠ some '(' ∧
      '(' ∈ foldCase name.toList ∧ ∀ c ∈ [' ', ',', ')'], c ∉ foldCase name.toList := by
  simp only [List.forall_mem_cons, List.not_mem_nil, false_implies, implies_true, and_true]
  decide

theorem namesLength_append_cons (hc : c ∈ [' ', ',', ')']) :
    NamesLength (cs ++ c :: ds) ↔ NamesLength cs ∨ NamesLength ds := by
  have hfold : c.toLower = c := by
    revert c
    simp
  simp only [NamesLength, ← exists_or, ← and_or_left]
  refine exists_congr fun name => and_congr_right fun hm => ?_
  obtain ⟨hne, -, -, hfree⟩ := lengthFunctions_form name hm
  have htext : foldCase (cs ++ c :: ds) = foldCase cs ++ c :: foldCase ds := by
    simp [foldCase, hfold]
  rw [htext]
  exact infix_append_cons_iff hne (hfree c hc)

theorem not_namesLength_of_notMem (h : '(' ∉ foldCase cs) : ¬ NamesLength cs := by
  rintro ⟨name, hm, hfound⟩
  obtain ⟨-, -, hopen, -⟩ := lengthFunctions_form name hm
  exact h (hfound.subset hopen)

theorem namesLength_paren_cons : NamesLength ('(' :: cs) ↔ NamesLength cs := by
  refine exists_congr fun name => and_congr_right fun hm => ?_
  obtain ⟨hne, hhead, -, -⟩ := lengthFunctions_form name hm
  have htext : foldCase ('(' :: cs) = '(' :: foldCase cs := rfl
  rw [htext, List.infix_cons_iff, or_iff_right]
  rintro ⟨rest, hrest⟩
  obtain ⟨d, more, hd⟩ := List.exists_cons_of_ne_nil hne
  rw [hd] at hrest hhead
  exact hhead (congrArg some (List.cons.inj hrest).1)

theorem namesLength_listText :
    NamesLength (listText literals) ↔ ∃ literal ∈ literals, NamesLength literal.text := by
  have hnil : ¬ NamesLength [] := not_namesLength_of_notMem (by simp [foldCase])
  have hjoin {items : List (List Char)} :
      NamesLength ([','].intercalate items) ↔ ∃ item ∈ items, NamesLength item := by
    induction items with
    | nil => simpa using hnil
    | cons item rest ih =>
      cases rest with
      | nil => simp
      | cons next more =>
        rw [List.intercalate_cons_cons, List.append_assoc, List.singleton_append,
          namesLength_append_cons (by decide), ih]
        simp only [List.mem_cons, exists_eq_or_imp]
  rw [listText_eq, hjoin]
  refine exists_spaced fun cs => ?_
  have hspace : NamesLength ([] ++ ' ' :: cs) ↔ NamesLength [] ∨ NamesLength cs :=
    namesLength_append_cons (by decide)
  simpa [hnil] using hspace

theorem compares_listText :
    Compares (listText literals) ↔ ∃ literal ∈ literals, Compares literal.text := by
  have hplain : ∀ d ∈ ['<', '>', '='], d ≠ ',' ∧ d ≠ ' ' := by simp
  constructor
  · rintro ⟨d, hd, hop⟩
    obtain ⟨literal, hm, hl⟩ := (mem_listText_iff (hplain d hop).1 (hplain d hop).2).mp hd
    exact ⟨literal, hm, d, hl, hop⟩
  · rintro ⟨literal, hm, d, hl, hop⟩
    exact ⟨d, (mem_listText_iff (hplain d hop).1 (hplain d hop).2).mpr ⟨literal, hm, hl⟩, hop⟩

theorem namesLength_membership (hcolumn : isIdentifier column = true) :
    NamesLength (column.toList ++ afterColumn literals) ↔
      ∃ literal ∈ literals, NamesLength literal.text := by
  have hname : ¬ NamesLength column.toList := by
    refine not_namesLength_of_notMem fun hm => ?_
    obtain ⟨d, hd, he⟩ := List.mem_map.mp hm
    have hcontinues := continuesName_of_mem hcolumn hd
    rw [← continuesName_toLower, he] at hcontinues
    cases hcontinues
  have hin : ¬ NamesLength ['I', 'N'] := not_namesLength_of_notMem (by decide)
  have hend : ¬ NamesLength [] := not_namesLength_of_notMem (by decide)
  have htext : afterColumn literals = ' ' :: (['I', 'N'] ++ ' ' :: '(' ::
      (listText literals ++ [')'])) := rfl
  rw [htext, namesLength_append_cons (by decide), namesLength_append_cons (by decide),
    namesLength_paren_cons, namesLength_append_cons (by decide), namesLength_listText]
  simp only [hname, hin, hend, false_or, or_false]

theorem compares_membership (hcolumn : isIdentifier column = true) :
    Compares (column.toList ++ afterColumn literals) ↔
      ∃ literal ∈ literals, Compares literal.text := by
  rw [← compares_listText]
  have hplain : ∀ d ∈ ['<', '>', '='],
      continuesName d = false ∧ d ∉ [' ', 'I', 'N', ' ', '('] ∧ d ∉ [')'] := by
    simp only [List.forall_mem_cons, List.not_mem_nil, false_implies, implies_true, and_true]
    decide
  refine exists_congr fun d => and_congr_left fun hop => ?_
  obtain ⟨hname, hstart, hend⟩ := hplain d hop
  simp only [afterColumn_eq, List.mem_append, notMem_of_isIdentifier hcolumn hname, hstart,
    hend, false_or, or_false]

/-- A test with IN passes exactly if no value has a parenthesis that closes, and none has
the name of a function for lengths unless one has a character that compares. -/
theorem validateCheck_membership_iff (hcolumn : isIdentifier column = true)
    (hin : foldCase column.toList ≠ foldCase "IN".toList)
    (hbetween : foldCase column.toList ≠ foldCase "BETWEEN".toList) (hne : literals ≠ []) :
    validateCheck (membership column literals) = .ok () ↔
      (∀ literal ∈ literals, ')' ∉ literal.text) ∧
        ((∃ literal ∈ literals, NamesLength literal.text) →
          ∃ literal ∈ literals, Compares literal.text) := by
  have hlist : ListsLiterals ((column.toList ++ afterColumn literals).drop
      (column.toList.length + 1 + 2)) ↔ ∀ literal ∈ literals, ')' ∉ literal.text := by
    rw [Nat.add_assoc, List.drop_length_add_append]
    exact listsLiterals_iff hne
  rw [validateCheck_ok_iff, trim_membership hcolumn, ← hlist, ← namesLength_membership hcolumn,
    ← compares_membership hcolumn]
  constructor
  · intro h
    exact ⟨h.list _ (findWord_membership hcolumn hin), h.length⟩
  · rintro ⟨hliterals, hlength⟩
    refine ⟨by simp [afterColumn], isBalanced_membership hcolumn, ?_, ?_, hlength⟩
    · intro i hi
      rw [findWord_membership hcolumn hin] at hi
      cases hi
      exact hliterals
    · intro hb
      rw [not_hasWord_between hcolumn hbetween] at hb
      cases hb

/-- Commas, quotes, words and a parenthesis that opens may stand in a string. -/
theorem validateCheck_statusMembership :
    let literals : List Literal := [.string "it's (, in".toList, .string "BETWEEN".toList]
    isIdentifier "status" = true ∧ literals ≠ [] ∧
      validateCheck (membership "status" literals) = .ok () := by
  intro literals
  have hne : literals ≠ [] := by simp [literals]
  refine ⟨by decide, hne, ?_⟩
  refine (validateCheck_membership_iff (by decide) (by decide) (by decide) hne).mpr ⟨?_, ?_⟩
  all_goals decide +kernel

/-- A string with a parenthesis that closes is cut there. -/
theorem not_all_memberships_pass :
    ¬ ∀ (column : String) (literals : List Literal), isIdentifier column = true →
      foldCase column.toList ≠ foldCase "IN".toList →
        foldCase column.toList ≠ foldCase "BETWEEN".toList → literals ≠ [] →
          validateCheck (membership column literals) = .ok () := by
  intro hall
  have hpasses := hall "status" [.string "a)b".toList] (by decide) (by decide) (by decide) (by simp)
  revert hpasses
  decide +kernel

end SchemaCompiler.Sql
