import Mathlib.Combinatorics.Enumerative.DyckWord
import SchemaCompiler.Proofs.Sql.Quotes
import SchemaCompiler.Proofs.Text.Split

/-!
# Separators and parentheses outside quotes

Both scanners go by the number of quotes before a character. The pieces of a text are parted at
the separators with an even number of them, and a text is balanced if it closes its quotes and
its parentheses with an even number of them are a Dyck word.
-/

namespace SchemaCompiler.Sql

open Text

variable {separator c : Char} {inQuotes : Bool} {cs ds : List Char}
  {items before after : List (List Char)}

-- ---------------------------------------------------------------------------
-- Pieces
-- ---------------------------------------------------------------------------

/-- Pieces of a text that begins in a string or not. No piece has a separator outside its
strings, and the strings of all but the last one are closed. -/
inductive Parts (separator : Char) : Bool → List (List Char) → Prop
  | last {inQuotes piece} (unparted : separator ∉ unquotedFrom inQuotes piece) :
    Parts separator inQuotes [piece]
  | next {inQuotes piece items} (unparted : separator ∉ unquotedFrom inQuotes piece)
    (closed : quotedAfter inQuotes piece = false) (rest : Parts separator false items) :
    Parts separator inQuotes (piece :: items)

theorem notMem_unquotedFrom_cons (hc : ¬ (c ≠ quote ∧ c = separator ∧ inQuotes = false)) :
    separator ∉ unquotedFrom inQuotes (c :: cs) ↔
      separator ∉ unquotedFrom (if c = quote then !inQuotes else inQuotes) cs := by
  by_cases hq : c = quote
  · simp [unquotedFrom, hq]
  · cases inQuotes with
    | true => simp [unquotedFrom, hq]
    | false =>
      have hsep : separator ≠ c := fun h => hc ⟨hq, h.symm, rfl⟩
      simp [unquotedFrom, hq, hsep]

theorem Parts.cons (hc : ¬ (c ≠ quote ∧ c = separator ∧ inQuotes = false))
    (h : Parts separator (if c = quote then !inQuotes else inQuotes) items) :
    Parts separator inQuotes (items.modifyHead (c :: ·)) := by
  cases h with
  | last unparted => exact .last ((notMem_unquotedFrom_cons hc).mpr unparted)
  | next unparted closed rest =>
    exact .next ((notMem_unquotedFrom_cons hc).mpr unparted) closed rest

theorem parts_unquotedPiecesFrom :
    Parts separator inQuotes (unquotedPiecesFrom separator inQuotes cs) := by
  induction cs generalizing inQuotes with
  | nil => exact .last List.not_mem_nil
  | cons c rest ih =>
    by_cases hc : c ≠ quote ∧ c = separator ∧ inQuotes = false
    · obtain ⟨hs, rfl, rfl⟩ := hc
      rw [unquotedPiecesFrom_separator hs]
      exact .next List.not_mem_nil rfl ih
    · rw [unquotedPiecesFrom_cons hc]
      exact .cons hc ih

theorem Parts.unparted (h : Parts separator false items) :
    ∀ piece ∈ items, separator ∉ unquoted piece := by
  generalize hq : false = inQuotes at h
  induction h with
  | last unparted =>
    subst hq
    exact List.forall_mem_singleton.mpr unparted
  | next unparted _ _ ih =>
    subst hq
    exact List.forall_mem_cons.mpr ⟨unparted, ih rfl⟩

theorem Parts.of_cons {piece : List Char} (h : Parts separator inQuotes (piece :: items))
    (hne : items ≠ []) : quotedAfter inQuotes piece = false ∧ Parts separator false items := by
  cases h with
  | last => exact absurd rfl hne
  | next _ closed rest => exact ⟨closed, rest⟩

theorem Parts.closed (h : Parts separator false (before ++ after)) (ha : after ≠ []) :
    ∀ piece ∈ before, quotedAfter false piece = false := by
  induction before with
  | nil => exact List.forall_mem_nil _
  | cons piece more ih =>
    obtain ⟨hclosed, hmore⟩ := h.of_cons (List.append_ne_nil_of_right_ne_nil more ha)
    exact List.forall_mem_cons.mpr ⟨hclosed, ih hmore⟩

/-- The pieces give the text when the separator joins them. A separator within a piece has an
odd number of quotes before it in the piece, and one between pieces has an even number of them
before it in the text. -/
structure PartsOutside (separator : Char) (cs : List Char) (pieces : List (List Char)) : Prop where
  joined : [separator].intercalate pieces = cs
  within : ∀ before after, before ++ separator :: after ∈ pieces → Odd (before.count quote)
  between : ∀ before after, before ≠ [] → after ≠ [] → before ++ after = pieces →
    cs = [separator].intercalate before ++ separator :: [separator].intercalate after ∧
      Even (([separator].intercalate before).count quote)

theorem partsOutside_unquotedPieces (hs : separator ≠ quote) (cs : List Char) :
    PartsOutside separator cs (unquotedPieces separator cs) := by
  have hparts : Parts separator false (unquotedPieces separator cs) := parts_unquotedPiecesFrom
  have hjoined : [separator].intercalate (unquotedPieces separator cs) = cs :=
    intercalate_unquotedPiecesFrom
  refine ⟨hjoined, fun before after hm => ?_, fun before after hb ha hpieces => ?_⟩
  · exact quotedAfter_iff.mp (quotedAfter_of_notMem_unquoted hs (hparts.unparted _ hm))
  · rw [← hpieces] at hparts hjoined
    refine ⟨hjoined.symm.trans (intercalate_append hb ha), ?_⟩
    rw [← Nat.not_odd_iff_even, ← quotedAfter_iff,
      quotedAfter_intercalate hs (hparts.closed ha)]
    exact Bool.false_ne_true

-- ---------------------------------------------------------------------------
-- Parentheses
-- ---------------------------------------------------------------------------

def parenthesisStep? : Char → Option DyckStep
  | '(' => some .U
  | ')' => some .D
  | _ => none

/-- The parentheses of a text that have an even number of quotes before them. -/
def outerSteps (cs : List Char) : List DyckStep :=
  (List.range cs.length).filterMap fun i =>
    if Even ((cs.take i).count quote) then cs[i]?.bind parenthesisStep? else none

theorem outerSteps_concat (cs : List Char) (c : Char) :
    outerSteps (cs ++ [c]) =
      outerSteps cs ++ (if Even (cs.count quote) then parenthesisStep? c else none).toList := by
  have hsame : (List.range cs.length).filterMap (fun i =>
      if Even (((cs ++ [c]).take i).count quote) then (cs ++ [c])[i]?.bind parenthesisStep?
      else none) = outerSteps cs := by
    refine List.filterMap_congr fun i hi => ?_
    have hlt : i < cs.length := List.mem_range.mp hi
    rw [List.take_append_of_le_length hlt.le, List.getElem?_append_left hlt]
  rw [outerSteps, List.length_append, List.length_singleton, List.range_succ,
    List.filterMap_append, hsame]
  congr 1
  simp only [List.filterMap_cons, List.filterMap_nil, List.take_left, List.getElem?_concat_length,
    Option.bind_some]
  by_cases heven : Even (cs.count quote)
  · rw [if_pos heven]
    cases parenthesisStep? c <;> rfl
  · rw [if_neg heven]
    rfl

theorem outerSteps_eq (cs : List Char) :
    outerSteps cs = (unquoted cs).filterMap parenthesisStep? := by
  induction cs using List.reverseRecOn with
  | nil => rfl
  | append_singleton cs c ih =>
    rw [outerSteps_concat, ih, unquoted, unquoted, unquotedFrom_append, List.filterMap_append]
    congr 1
    have hquoted : Even (cs.count quote) ↔ quotedAfter false cs = false := by
      rw [← Nat.not_odd_iff_even, ← quotedAfter_iff, Bool.not_eq_true]
    by_cases hc : c = quote
    · subst hc
      have hnone : parenthesisStep? quote = none := rfl
      simp [unquotedFrom, hnone]
    · cases hq : quotedAfter false cs with
      | true => simp [unquotedFrom, hc, hquoted, hq]
      | false =>
        simp only [hquoted, hq, unquotedFrom, hc, if_true, if_false, Bool.false_eq_true]
        cases hstep : parenthesisStep? c <;> simp [hstep]

variable {depth : Nat} {steps : List DyckStep}

/-- Steps that go down by `depth`, and never by more on their way. -/
structure GoesDown (depth : Nat) (steps : List DyckStep) : Prop where
  total : steps.count .D = depth + steps.count .U
  always : ∀ i, (steps.take i).count .D ≤ depth + (steps.take i).count .U

theorem goesDown_zero_iff : GoesDown 0 steps ↔ ∃ word : DyckWord, word.toList = steps := by
  constructor
  · rintro ⟨htotal, halways⟩
    exact ⟨⟨steps, by simpa using htotal.symm, by simpa using halways⟩, rfl⟩
  · rintro ⟨word, rfl⟩
    exact ⟨by simpa using word.count_U_eq_count_D.symm, by simpa using word.count_D_le_count_U⟩

theorem goesDown_cons_iff {step : DyckStep} {inner : Nat}
    (h : depth + [step].count .U = inner + [step].count .D) :
    GoesDown depth (step :: steps) ↔ GoesDown inner steps := by
  have hcount (kind : DyckStep) (ds : List DyckStep) :
      (step :: ds).count kind = [step].count kind + ds.count kind := by
    rw [← List.singleton_append, List.count_append]
  constructor
  · rintro ⟨htotal, halways⟩
    rw [hcount .D, hcount .U] at htotal
    refine ⟨by omega, fun i => ?_⟩
    have hi := halways (i + 1)
    rw [List.take_succ_cons, hcount .D, hcount .U] at hi
    omega
  · rintro ⟨htotal, halways⟩
    refine ⟨by rw [hcount .D, hcount .U]; omega, fun i => ?_⟩
    cases i with
    | zero => exact Nat.zero_le _
    | succ i =>
      have hi := halways i
      rw [List.take_succ_cons, hcount .D, hcount .U]
      omega

theorem not_goesDown_zero : ¬ GoesDown 0 (.D :: steps) := by
  rintro ⟨-, halways⟩
  simpa using halways 1

theorem balancedFrom_cons : balancedFrom depth inQuotes (c :: cs) =
    if c = quote then balancedFrom depth (!inQuotes) cs
    else if c = '(' ∧ inQuotes = false then balancedFrom (depth + 1) inQuotes cs
    else if c = ')' ∧ inQuotes = false then
      match depth with
      | 0 => false
      | outer + 1 => balancedFrom outer inQuotes cs
    else balancedFrom depth inQuotes cs :=
  balancedFrom.eq_def depth inQuotes (c :: cs)

theorem balancedFrom_iff (h : quote ∉ cs) :
    balancedFrom depth false cs = true ↔ GoesDown depth (cs.filterMap parenthesisStep?) := by
  induction cs generalizing depth with
  | nil =>
    simp only [balancedFrom, Bool.not_false, Bool.and_true, beq_iff_eq]
    exact ⟨fun hd => ⟨by simp [hd], by simp⟩, fun hdown => by simpa using hdown.total.symm⟩
  | cons c rest ih =>
    obtain ⟨hc, hrest⟩ := not_or.mp (List.mem_cons.not.mp h)
    rw [balancedFrom_cons, if_neg (Ne.symm hc)]
    by_cases hopen : c = '('
    · subst hopen
      have hup : parenthesisStep? '(' = some .U := rfl
      rw [if_pos ⟨rfl, rfl⟩, ih hrest, List.filterMap_cons_some hup, goesDown_cons_iff rfl]
    · rw [if_neg fun hand => hopen hand.1]
      by_cases hclose : c = ')'
      · subst hclose
        have hdown : parenthesisStep? ')' = some .D := rfl
        rw [if_pos ⟨rfl, rfl⟩, List.filterMap_cons_some hdown]
        cases depth with
        | zero => exact iff_of_false Bool.false_ne_true not_goesDown_zero
        | succ outer => exact (ih hrest).trans (goesDown_cons_iff rfl).symm
      · have hnone : parenthesisStep? c = none := by
          rw [parenthesisStep?.eq_def]
          split <;> simp_all
        rw [if_neg fun hand => hclose hand.1, ih hrest, List.filterMap_cons_none hnone]

theorem quote_notMem_unquotedFrom : quote ∉ unquotedFrom inQuotes cs := by
  induction cs generalizing inQuotes with
  | nil => exact List.not_mem_nil
  | cons c rest ih =>
    rw [unquotedFrom]
    split
    · exact ih
    · rename_i hc
      split
      · exact ih
      · exact List.mem_cons.not.mpr (not_or.mpr ⟨Ne.symm hc, ih⟩)

theorem isBalanced_iff : isBalanced cs = true ↔
    Even (cs.count quote) ∧ ∃ word : DyckWord, word.toList = outerSteps cs := by
  rw [isBalanced, balancedFrom_eq, Bool.and_eq_true, balancedFrom_iff quote_notMem_unquotedFrom,
    ← unquoted, ← outerSteps_eq, goesDown_zero_iff, Bool.not_eq_true', ← Nat.not_odd_iff_even,
    ← quotedAfter_iff, Bool.not_eq_true, and_comm]

-- ---------------------------------------------------------------------------
-- Depths of 32 bits
-- ---------------------------------------------------------------------------

/-- A depth that a number of 32 bits with a sign can hold. -/
def depth32? (depth : Int) : Option Int :=
  if -2 ^ 31 ≤ depth ∧ depth < 2 ^ 31 then some depth else none

/-- The scan with a depth of 32 bits. It fails where the depth leaves them. -/
def balanced32From? (depth : Int) (inQuotes : Bool) : List Char → Option Bool
  | [] => some (depth == 0 && !inQuotes)
  | c :: rest =>
    if c = quote then balanced32From? depth (!inQuotes) rest
    else if c = '(' ∧ inQuotes = false then do
      let inner ← depth32? (depth + 1)
      balanced32From? inner inQuotes rest
    else if c = ')' ∧ inQuotes = false then do
      let outer ← depth32? (depth - 1)
      if outer < 0 then some false else balanced32From? outer inQuotes rest
    else balanced32From? depth inQuotes rest

def isBalanced32? (cs : List Char) : Option Bool :=
  balanced32From? 0 false cs

theorem balanced32From?_eq (h : depth + cs.length < 2 ^ 31) :
    balanced32From? depth inQuotes cs = some (balancedFrom depth inQuotes cs) := by
  induction cs generalizing depth inQuotes with
  | nil => cases depth <;> rfl
  | cons c rest ih =>
    rw [List.length_cons] at h
    have hsame {inQuotes : Bool} :
        balanced32From? depth inQuotes rest = some (balancedFrom depth inQuotes rest) :=
      ih (by omega)
    rw [balanced32From?, balancedFrom_cons]
    split
    · exact hsame
    split
    · have hfits : depth32? (depth + 1) = some ((depth + 1 : Nat) : Int) := if_pos (by omega)
      rw [hfits]
      exact ih (by omega)
    split
    · cases depth with
      | zero => rfl
      | succ outer =>
        have hone : ((outer + 1 : Nat) : Int) - 1 = (outer : Nat) := by omega
        have hfits : depth32? (outer : Int) = some (outer : Int) := if_pos (by omega)
        rw [hone, hfits, Option.bind_eq_bind, Option.bind_some, if_neg (by omega)]
        exact ih (by omega)
    · exact hsame

-- ---------------------------------------------------------------------------
-- Both scanners
-- ---------------------------------------------------------------------------

/-- The number of quotes before a separator tells whether it parts the text, and the number of
quotes before a parenthesis whether it has to be balanced. A depth of 32 bits is enough for a
text of fewer than `2 ^ 31` characters. -/
theorem outside_quotes (separator : Char) (hs : separator ≠ quote) (text : String) :
    PartsOutside separator text.toList (unquotedPieces separator text.toList) ∧
      (text.length < 2 ^ 31 → isBalanced32? text.toList = some (isBalanced text.toList)) ∧
      (isBalanced text.toList = true ↔ Even (text.toList.count quote) ∧
        ∃ word : DyckWord, word.toList = outerSteps text.toList) := by
  refine ⟨partsOutside_unquotedPieces hs _, fun hlength => ?_, isBalanced_iff⟩
  have hfits : 0 + text.toList.length < 2 ^ 31 := by
    rwa [Nat.zero_add, String.length_toList]
  exact balanced32From?_eq hfits

theorem outside_quotes_of_call :
    PartsOutside ',' "f('a,(''', 2), 'é)'".toList
        ["f('a,('''".toList, " 2)".toList, " 'é)'".toList] ∧
      isBalanced32? "f('a,(''', 2), 'é)'".toList = some true ∧
      ∃ word : DyckWord, word.toList = [.U, .D] := by
  obtain ⟨hparts, hdepth, hbalanced⟩ :=
    outside_quotes ',' (by decide) "f('a,(''', 2), 'é)'"
  have hpieces : unquotedPieces ',' "f('a,(''', 2), 'é)'".toList =
      ["f('a,('''".toList, " 2)".toList, " 'é)'".toList] := by decide
  have hsteps : outerSteps "f('a,(''', 2), 'é)'".toList = [.U, .D] := by decide
  have hb : isBalanced "f('a,(''', 2), 'é)'".toList = true := by decide
  rw [hpieces] at hparts
  rw [hb] at hdepth
  rw [hsteps] at hbalanced
  exact ⟨hparts, hdepth (by decide), (hbalanced.mp hb).2⟩

end SchemaCompiler.Sql
