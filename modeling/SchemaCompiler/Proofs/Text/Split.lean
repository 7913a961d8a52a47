import SchemaCompiler.Text.Split

/-!
# Pieces and cuts

The pieces of a text are those of `List.splitOn`, a cut is at the first separator, and
an ending is dropped where there is one. Texts are joined as lists are.
-/

namespace SchemaCompiler.Text

variable {separator : Char} {cs ds before after stem ending : List Char}

-- ---------------------------------------------------------------------------
-- Pieces
-- ---------------------------------------------------------------------------

theorem pieces_eq_splitOn (separator : Char) (cs : List Char) :
    pieces separator cs = cs.splitOn separator := by
  induction cs with
  | nil => rfl
  | cons c rest ih =>
    rw [pieces, List.splitOn_cons_eq_if_modifyHead, ih]
    by_cases hc : c = separator
    · simp [hc]
    · obtain ⟨piece, more, hp⟩ := List.exists_cons_of_ne_nil (List.splitOn_ne_nil separator rest)
      simp [hc, hp]

theorem pieces_ne_nil : pieces separator cs ≠ [] := by
  rw [pieces_eq_splitOn]
  exact List.splitOn_ne_nil separator cs

theorem pieces_append_cons :
    pieces separator (cs ++ separator :: ds) = pieces separator cs ++ pieces separator ds := by
  simp only [pieces_eq_splitOn, List.splitOn_append_cons_self]

theorem pieces_eq_singleton (h : separator ∉ cs) : pieces separator cs = [cs] := by
  rw [pieces_eq_splitOn, List.splitOn_eq_singleton h]

theorem separator_notMem_of_mem_pieces {piece : List Char} (h : piece ∈ pieces separator cs) :
    separator ∉ piece := by
  induction cs generalizing piece with
  | nil => simp_all [pieces]
  | cons c rest ih =>
    obtain ⟨first, more, hp⟩ := List.exists_cons_of_ne_nil (@pieces_ne_nil separator rest)
    rw [hp, List.forall_mem_cons] at ih
    simp only [pieces, hp] at h
    split at h
    · rcases List.mem_cons.mp h with rfl | h
      · exact List.not_mem_nil
      · rcases List.mem_cons.mp h with rfl | h
        · exact ih.1
        · exact ih.2 piece h
    · rcases List.mem_cons.mp h with rfl | h
      · simp_all [Ne.symm]
      · exact ih.2 piece h

theorem mem_pieces_iff {c : Char} (h : c ≠ separator) :
    (∃ piece ∈ pieces separator cs, c ∈ piece) ↔ c ∈ cs := by
  induction cs with
  | nil => simp [pieces]
  | cons d rest ih =>
    obtain ⟨first, more, hp⟩ := List.exists_cons_of_ne_nil (@pieces_ne_nil separator rest)
    simp only [hp, List.mem_cons, exists_eq_or_imp] at ih
    rw [pieces, hp, List.mem_cons, ← ih]
    split
    · rename_i hd
      simp [hd, h]
    · simp [or_assoc]

-- ---------------------------------------------------------------------------
-- Cuts
-- ---------------------------------------------------------------------------

theorem cut?_eq_some_iff :
    cut? separator cs = some (before, after) ↔
      cs = before ++ separator :: after ∧ separator ∉ before := by
  induction cs generalizing before with
  | nil => simp [cut?]
  | cons c rest ih =>
    rw [cut?]
    by_cases hc : c = separator
    · cases before <;> simp_all
    · rw [if_neg hc, Option.map_eq_some_iff]
      constructor
      · rintro ⟨⟨a, b⟩, hr, he⟩
        cases he
        obtain ⟨rfl, hs⟩ := ih.mp hr
        exact ⟨rfl, by simp [Ne.symm hc, hs]⟩
      · rintro ⟨he, hs⟩
        cases before with
        | nil => exact absurd (List.cons.inj he).1 hc
        | cons d before =>
          obtain ⟨rfl, rfl⟩ := List.cons.inj he
          exact ⟨(before, after), ih.mpr ⟨rfl, fun hm => hs (.tail _ hm)⟩, rfl⟩

theorem cut?_eq_none_iff : cut? separator cs = none ↔ separator ∉ cs := by
  induction cs with
  | nil => simp [cut?]
  | cons c rest ih =>
    rw [cut?]
    by_cases hc : c = separator
    · simp [hc]
    · simp [hc, Ne.symm hc, ih]

theorem eq_of_append_separator {separator : Char} {before before' after after' : List Char}
    (h : separator ∉ after) (h' : separator ∉ after')
    (he : before ++ separator :: after = before' ++ separator :: after') :
    before = before' ∧ after = after' := by
  have hcut (first last : List Char) (hl : separator ∉ last) :
      cut? separator (first ++ separator :: last).reverse = some (last.reverse, first.reverse) :=
    cut?_eq_some_iff.mpr ⟨by simp, by simpa using hl⟩
  have hsame := hcut before after h
  rw [he, hcut before' after' h', Option.some.injEq, Prod.mk.injEq] at hsame
  exact ⟨List.reverse_inj.mp hsame.2.symm, List.reverse_inj.mp hsame.1.symm⟩

-- ---------------------------------------------------------------------------
-- Endings
-- ---------------------------------------------------------------------------

theorem dropEnd?_eq_some_iff : dropEnd? ending cs = some stem ↔ cs = stem ++ ending := by
  rw [dropEnd?, Option.ite_none_right_eq_some, List.isSuffixOf_iff_suffix, Option.some.injEq]
  constructor
  · rintro ⟨h, rfl⟩
    exact (List.suffix_iff_eq_append.mp h).symm
  · rintro rfl
    exact ⟨List.suffix_append stem ending, by simp⟩

theorem dropEnd?_eq_none_iff : dropEnd? ending cs = none ↔ ¬ ending <:+ cs := by
  simp [dropEnd?, List.isSuffixOf_iff_suffix]

@[simp] theorem dropEnd?_append : dropEnd? ending (stem ++ ending) = some stem :=
  dropEnd?_eq_some_iff.mpr rfl

-- ---------------------------------------------------------------------------
-- Joins
-- ---------------------------------------------------------------------------

theorem join_cons (separator part : String) (rest : List String) :
    join separator (part :: rest) = part ++ String.join (rest.map (separator ++ ·)) := by
  induction rest generalizing part with
  | nil => simp [join]
  | cons next more ih =>
    have hjoin : join separator (part :: next :: more) =
        part ++ separator ++ join separator (next :: more) := rfl
    rw [hjoin, ih, List.map_cons, String.join_cons, String.append_assoc, String.append_assoc]

theorem join_join (separator part : String) (rest more : List String) :
    join separator (join separator (part :: rest) :: more) =
      join separator (part :: rest ++ more) := by
  rw [List.cons_append, join_cons, join_cons, join_cons, List.map_append, String.append_assoc]
  congr 1
  induction rest with
  | nil => simp
  | cons next rest ih =>
    rw [List.map_cons, List.cons_append, String.join_cons, String.join_cons,
      String.append_assoc, ih]

theorem toList_join (separator : String) (parts : List String) :
    (join separator parts).toList = separator.toList.intercalate (parts.map String.toList) := by
  induction parts with
  | nil => rfl
  | cons part rest ih =>
    cases rest with
    | nil => simp [join]
    | cons next more =>
      rw [List.map_cons, List.map_cons, List.intercalate_cons_cons, ← List.map_cons, ← ih]
      simp [join]

theorem mem_intercalate_iff {c : Char} {items : List (List Char)} (h : c ≠ separator) :
    c ∈ [separator].intercalate items ↔ ∃ item ∈ items, c ∈ item := by
  induction items with
  | nil => simp
  | cons item rest ih =>
    cases rest with
    | nil => simp
    | cons next more =>
      rw [List.intercalate_cons_cons, List.mem_append, ih]
      simp [h]

theorem intercalate_append {before after : List (List Char)} (hb : before ≠ [])
    (ha : after ≠ []) :
    [separator].intercalate (before ++ after) =
      [separator].intercalate before ++ separator :: [separator].intercalate after := by
  induction before with
  | nil => exact absurd rfl hb
  | cons item rest ih =>
    cases rest with
    | nil => simp [List.intercalate_cons_of_ne_nil ha]
    | cons next more =>
      have hnext : next :: more ≠ [] := List.cons_ne_nil next more
      rw [List.cons_append, List.intercalate_cons_of_ne_nil (by simp), ih hnext,
        List.intercalate_cons_of_ne_nil hnext, List.append_assoc _ _ (separator :: _)]

theorem intercalate_pair (d : Char) (first : List Char) (rest : List (List Char)) :
    [separator, d].intercalate (first :: rest) =
      [separator].intercalate (first :: rest.map (d :: ·)) := by
  have hcons (c : Char) (item : List Char) (items : List (List Char)) :
      [separator].intercalate ((c :: item) :: items) =
        c :: [separator].intercalate (item :: items) := by
    cases items with
    | nil => simp
    | cons next more => simp [List.intercalate_cons_cons]
  induction rest generalizing first with
  | nil => simp
  | cons next more ih =>
    rw [List.map_cons, List.intercalate_cons_cons, List.intercalate_cons_cons, ih, hcons]
    simp

end SchemaCompiler.Text
