import Mathlib.Data.Nat.Find
import SchemaCompiler.Proofs.Sql.Quotes

/-!
# Words of expressions

Where a word stands in an expression: alone and outside quotes, without regard to ASCII
case. The search gives the first such place, and gives one exactly if there is one.
-/

namespace SchemaCompiler.Sql

open Text

variable {word cs ds before name : List Char} {c : Char} {i : Nat}

-- ---------------------------------------------------------------------------
-- Case
-- ---------------------------------------------------------------------------

theorem continuesName_toLower (c : Char) : continuesName c.toLower = continuesName c := by
  by_cases hc : c.toNat < 128
  · exact of_ascii (p := fun c => continuesName c.toLower = continuesName c) (by decide) hc
  · rw [toLower_of_past (by omega)]

theorem toLower_eq_quote_iff : c.toLower = quote ↔ c = quote := by
  by_cases hc : c.toNat < 128
  · exact of_ascii (p := fun c => c.toLower = quote ↔ c = quote) (by decide) hc
  · rw [toLower_of_past (by omega)]

theorem startsWithFolded_iff : startsWithFolded word cs = true ↔ foldCase word <+: foldCase cs :=
  List.isPrefixOf_iff_prefix

theorem containsFolded_iff : containsFolded word cs = true ↔ foldCase word <:+: foldCase cs := by
  induction cs with
  | nil => simp [containsFolded, foldCase]
  | cons c rest ih =>
    rw [containsFolded, Bool.or_eq_true, startsWithFolded_iff, ih]
    exact List.infix_cons_iff.symm

-- ---------------------------------------------------------------------------
-- Places of words
-- ---------------------------------------------------------------------------

/-- The word stands at this index of the text, outside quotes, and no character of a name
stands before or after it. -/
structure StandsAt (word cs : List Char) (i : Nat) : Prop where
  found : foldCase word <+: foldCase (cs.drop i)
  unquoted : Even ((cs.take i).count quote)
  left : ∀ c ∈ (cs.take i).getLast?, continuesName c = false
  right : ∀ c ∈ (cs.drop (i + word.length)).head?, continuesName c = false

instance : Decidable (StandsAt word cs i) :=
  decidable_of_iff
    (foldCase word <+: foldCase (cs.drop i) ∧ Even ((cs.take i).count quote) ∧
      (cs.take i).getLast?.all (!continuesName ·) = true ∧
        (cs.drop (i + word.length)).head?.all (!continuesName ·) = true) <| by
    simp only [Option.all_eq_true, Bool.not_eq_true']
    exact ⟨fun ⟨hf, hu, hl, hr⟩ => ⟨hf, hu, hl, hr⟩, fun ⟨hf, hu, hl, hr⟩ => ⟨hf, hu, hl, hr⟩⟩

/-- What is searched: a word that is not empty and has no quote. -/
structure IsWord (word : List Char) : Prop where
  nonempty : word ≠ []
  unquoted : quote ∉ word

theorem quotedAfter_eq_false_iff : quotedAfter false cs = false ↔ Even (cs.count quote) := by
  rw [← Nat.not_odd_iff_even, ← quotedAfter_iff, Bool.not_eq_true]

theorem StandsAt.lt_length (hw : IsWord word) (h : StandsAt word cs i) : i < cs.length := by
  by_contra hi
  have hfound := h.found
  rw [List.drop_of_length_le (by omega)] at hfound
  simp [foldCase, hw.nonempty] at hfound

theorem IsWord.not_startsWith_quote (hw : IsWord word) :
    ¬ foldCase word <+: foldCase (quote :: ds) := by
  obtain ⟨w, more, rfl⟩ := List.exists_cons_of_ne_nil hw.nonempty
  rintro ⟨rest, hrest⟩
  obtain ⟨hfirst, -⟩ := List.cons.inj hrest
  have hw' : w = quote := toLower_eq_quote_iff.mp hfirst
  exact hw.unquoted (hw' ▸ List.mem_cons_self)

theorem findWordFrom_of_standsAt (hw : IsWord word)
    (h : StandsAt word (before ++ c :: ds) before.length) :
    findWordFrom word before.getLast? (quotedAfter false before) (c :: ds) = some 0 := by
  obtain ⟨hfound, hunquoted, hleft, hright⟩ := h
  rw [List.drop_left] at hfound
  rw [List.take_left] at hunquoted hleft
  rw [List.drop_length_add_append] at hright
  have hc : c ≠ quote := by
    rintro rfl
    exact hw.not_startsWith_quote hfound
  rw [findWordFrom, if_neg hc, if_pos]
  rw [quotedAfter_eq_false_iff.mpr hunquoted, startsWithFolded_iff.mpr hfound,
    (Option.any_eq_false ..).mpr hleft, (Option.any_eq_false ..).mpr hright]
  rfl

theorem findWordFrom_of_not_standsAt (h : ¬ StandsAt word (before ++ c :: ds) before.length) :
    findWordFrom word before.getLast? (quotedAfter false before) (c :: ds) =
      (findWordFrom word (before ++ [c]).getLast? (quotedAfter false (before ++ [c])) ds).map
        (· + 1) := by
  rw [List.getLast?_concat, quotedAfter_append]
  by_cases hc : c = quote
  · rw [findWordFrom, if_pos hc, quotedAfter, if_pos hc, quotedAfter]
  · rw [findWordFrom, if_neg hc, quotedAfter, if_neg hc, quotedAfter, if_neg]
    intro hall
    simp only [Bool.and_eq_true, Bool.not_eq_true'] at hall
    obtain ⟨⟨⟨hunquoted, hfound⟩, hbefore⟩, hafter⟩ := hall
    refine h ⟨?_, ?_, ?_, ?_⟩
    · rw [List.drop_left]
      exact startsWithFolded_iff.mp hfound
    · rw [List.take_left]
      exact quotedAfter_eq_false_iff.mp hunquoted
    · rw [List.take_left]
      exact (Option.any_eq_false ..).mp hbefore
    · rw [List.drop_length_add_append]
      exact (Option.any_eq_false ..).mp hafter

/-- After any beginning the search gives the first place that is left. -/
theorem findWordFrom_eq_some_iff (hw : IsWord word) :
    findWordFrom word before.getLast? (quotedAfter false before) cs = some i ↔
      StandsAt word (before ++ cs) (before.length + i) ∧
        ∀ j < i, ¬ StandsAt word (before ++ cs) (before.length + j) := by
  induction cs generalizing before i with
  | nil =>
    refine iff_of_false (by simp [findWordFrom]) ?_
    rintro ⟨hs, -⟩
    have hlt := hs.lt_length hw
    simp only [List.append_nil] at hlt
    omega
  | cons c rest ih =>
    by_cases hs : StandsAt word (before ++ c :: rest) before.length
    · rw [findWordFrom_of_standsAt hw hs]
      constructor
      · rintro ⟨⟩
        exact ⟨hs, nofun⟩
      · rintro ⟨-, hfirst⟩
        cases i with
        | zero => rfl
        | succ k => exact absurd hs (hfirst 0 k.succ_pos)
    · have hsplit : before ++ c :: rest = before ++ [c] ++ rest := by simp
      have hplace (k : Nat) : before.length + (k + 1) = (before ++ [c]).length + k := by
        simp
        omega
      rw [findWordFrom_of_not_standsAt hs]
      cases i with
      | zero => simpa using fun h => absurd h hs
      | succ k =>
        rw [Option.map_eq_some_iff]
        constructor
        · rintro ⟨_, hk, ⟨⟩⟩
          obtain ⟨hstands, hfirst⟩ := ih.mp hk
          rw [hsplit, hplace]
          refine ⟨hstands, fun j hj => ?_⟩
          cases j with
          | zero => simpa using hs
          | succ j =>
            rw [hplace]
            exact hfirst j (by omega)
        · rintro ⟨hstands, hfirst⟩
          refine ⟨k, ih.mpr ⟨?_, fun j hj => ?_⟩, rfl⟩
          · rwa [← hplace, ← hsplit]
          · rw [← hplace, ← hsplit]
            exact hfirst (j + 1) (by omega)

theorem findWord_eq_some_iff (hw : IsWord word) :
    findWord word cs = some i ↔ StandsAt word cs i ∧ ∀ j < i, ¬ StandsAt word cs j := by
  have hempty : word.isEmpty = false := by simpa using hw.nonempty
  rw [findWord, hempty, if_neg Bool.false_ne_true]
  have hstart := @findWordFrom_eq_some_iff word cs [] i hw
  simpa [quotedAfter] using hstart

theorem findWord_eq_none_iff (hw : IsWord word) :
    findWord word cs = none ↔ ∀ i, ¬ StandsAt word cs i := by
  classical
  constructor
  · intro hnone i hi
    have hfirst : ∃ j, StandsAt word cs j := ⟨i, hi⟩
    have hfind := (findWord_eq_some_iff hw).mpr
      ⟨Nat.find_spec hfirst, fun _ hj => Nat.find_min hfirst hj⟩
    rw [hnone] at hfind
    cases hfind
  · intro hall
    rw [Option.eq_none_iff_forall_ne_some]
    exact fun i hi => hall i ((findWord_eq_some_iff hw).mp hi).1

-- ---------------------------------------------------------------------------
-- Words in names and after them
-- ---------------------------------------------------------------------------

theorem StandsAt.eq_zero (h : StandsAt word (name ++ ds) i)
    (hname : ∀ d ∈ name, continuesName d = true) (hi : i < name.length) : i = 0 := by
  by_contra hne
  have hlast : name[i - 1]? = some name[i - 1] := List.getElem?_eq_getElem (by omega)
  have hleft := h.left name[i - 1] (by
    rw [List.take_append_of_le_length hi.le, List.getLast?_take, if_neg hne, hlast]
    rfl)
  rw [hname _ (List.getElem_mem _)] at hleft
  cases hleft

theorem StandsAt.length_le (h : StandsAt word (name ++ ds) 0)
    (hname : ∀ d ∈ name, continuesName d = true) : name.length ≤ word.length := by
  by_contra hlt
  have hright := h.right
  rw [Nat.zero_add] at hright
  have hnext := hright name[word.length] (by
    rw [List.head?_drop, List.getElem?_append_left (by omega)]
    exact List.getElem?_eq_getElem (by omega))
  rw [hname _ (List.getElem_mem _)] at hnext
  cases hnext

theorem StandsAt.eq_name (h : StandsAt word (name ++ c :: ds) i)
    (hword : ∀ d ∈ word, continuesName d = true) (hname : ∀ d ∈ name, continuesName d = true)
    (hc : continuesName c = false) (hi : i < name.length) : foldCase word = foldCase name := by
  obtain rfl := h.eq_zero hname hi
  have hfound := h.found
  have htext : foldCase (name ++ c :: ds) = foldCase name ++ c.toLower :: foldCase ds := by
    simp [foldCase]
  rw [List.drop_zero, htext] at hfound
  rcases (h.length_le hname).eq_or_lt with heq | hlonger
  · exact (List.prefix_of_prefix_length_le hfound (List.prefix_append _ _)
      (by simp [foldCase, heq])).eq_of_length (by simp [foldCase, heq])
  · -- The word would have the character after the name.
    have hnext : foldCase name ++ [c.toLower] <+: foldCase word :=
      List.prefix_of_prefix_length_le ⟨foldCase ds, by simp⟩ hfound (by
        simpa [foldCase] using Nat.succ_le_of_lt hlonger)
    have hmem : c.toLower ∈ foldCase word := hnext.subset (by simp)
    obtain ⟨d, hd, he⟩ := List.mem_map.mp hmem
    have hcontinues := hword d hd
    rw [← continuesName_toLower, he, continuesName_toLower, hc] at hcontinues
    cases hcontinues

theorem StandsAt.mem_unquoted {w : Char} {more : List Char} (hw : w ≠ quote)
    (h : StandsAt (w :: more) (name ++ cs) i) (hname : quote ∉ name) (hi : name.length ≤ i) :
    ∃ c ∈ Sql.unquoted cs, c.toLower = w.toLower := by
  obtain ⟨k, rfl⟩ := Nat.exists_eq_add_of_le hi
  have hfound := h.found
  have hunquoted := h.unquoted
  rw [List.drop_length_add_append] at hfound
  rw [List.take_length_add_append, List.count_append, List.count_eq_zero.mpr hname, Nat.zero_add,
    ← quotedAfter_eq_false_iff] at hunquoted
  cases hrest : cs.drop k with
  | nil => simp [hrest, foldCase] at hfound
  | cons c rest =>
    rw [hrest] at hfound
    obtain ⟨after, hafter⟩ := hfound
    have hc : w.toLower = c.toLower := (List.cons.inj hafter).1
    have hquote : c ≠ quote := by
      rintro rfl
      exact hw (toLower_eq_quote_iff.mp hc)
    refine ⟨c, ?_, hc.symm⟩
    rw [← List.take_append_drop k cs, hrest, Sql.unquoted, unquotedFrom_append, hunquoted]
    simp [unquotedFrom, hquote]

end SchemaCompiler.Sql
