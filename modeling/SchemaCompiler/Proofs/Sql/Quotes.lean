import Mathlib.Algebra.Ring.Parity
import Mathlib.Data.List.Basic
import SchemaCompiler.Proofs.Sql.Literal
import SchemaCompiler.Sql.Keyword

/-!
# Text outside quotes

A quote opens or closes a string, so whether a character stands in a string is decided by
the number of quotes before it. Balance and separators look only at what stands outside.
A literal closes the quotes that it opens.
-/

namespace SchemaCompiler.Sql

open Text

-- ---------------------------------------------------------------------------
-- Open quotes
-- ---------------------------------------------------------------------------

/-- Whether a string is open after a text that begins in a string or not. -/
def quotedAfter (inQuotes : Bool) : List Char → Bool
  | [] => inQuotes
  | c :: rest => quotedAfter (if c = quote then !inQuotes else inQuotes) rest

/-- The characters of a text that are no quotes and stand in no string. -/
def unquotedFrom (inQuotes : Bool) : List Char → List Char
  | [] => []
  | c :: rest =>
    if c = quote then unquotedFrom (!inQuotes) rest
    else if inQuotes then unquotedFrom inQuotes rest
    else c :: unquotedFrom inQuotes rest

def unquoted (cs : List Char) : List Char :=
  unquotedFrom false cs

variable {inQuotes : Bool} {cs ds : List Char} {items : List (List Char)}
  {c separator : Char} {depth : Nat}

theorem quotedAfter_append :
    quotedAfter inQuotes (cs ++ ds) = quotedAfter (quotedAfter inQuotes cs) ds := by
  induction cs generalizing inQuotes with
  | nil => rfl
  | cons c rest ih => exact ih

theorem unquotedFrom_append :
    unquotedFrom inQuotes (cs ++ ds) =
      unquotedFrom inQuotes cs ++ unquotedFrom (quotedAfter inQuotes cs) ds := by
  induction cs generalizing inQuotes with
  | nil => rfl
  | cons c rest ih =>
    by_cases hc : c = quote
    · simp [unquotedFrom, quotedAfter, hc, ih]
    · cases inQuotes <;> simp [unquotedFrom, quotedAfter, hc, ih]

theorem quotedAfter_eq_xor :
    quotedAfter inQuotes cs = (inQuotes ^^ quotedAfter false cs) := by
  induction cs generalizing inQuotes with
  | nil => simp [quotedAfter]
  | cons c rest ih =>
    by_cases hc : c = quote
    · rw [quotedAfter, quotedAfter, if_pos hc, if_pos hc, ih, @ih (!false)]
      cases inQuotes <;> simp
    · rw [quotedAfter, quotedAfter, if_neg hc, if_neg hc, ih]

theorem quotedAfter_iff : quotedAfter false cs = true ↔ Odd (cs.count quote) := by
  induction cs with
  | nil => simp [quotedAfter]
  | cons c rest ih =>
    by_cases hc : c = quote
    · rw [quotedAfter, if_pos hc, quotedAfter_eq_xor, hc, List.count_cons_self, Nat.odd_add_one,
        ← ih]
      simp
    · rw [quotedAfter, if_neg hc, List.count_cons_of_ne hc, ih]

theorem quotedAfter_of_notMem (h : quote ∉ cs) : quotedAfter inQuotes cs = inQuotes := by
  induction cs generalizing inQuotes with
  | nil => rfl
  | cons c rest ih =>
    obtain ⟨hc, hrest⟩ := not_or.mp (List.mem_cons.not.mp h)
    rw [quotedAfter, if_neg (Ne.symm hc), ih hrest]

theorem unquotedFrom_of_notMem (h : quote ∉ cs) : unquotedFrom false cs = cs := by
  induction cs with
  | nil => rfl
  | cons c rest ih =>
    obtain ⟨hc, hrest⟩ := not_or.mp (List.mem_cons.not.mp h)
    simp [unquotedFrom, Ne.symm hc, ih hrest]

theorem quotedAfter_of_notMem_unquoted (hc : c ≠ quote) (h : c ∉ unquoted (cs ++ c :: ds)) :
    quotedAfter false cs = true := by
  rw [unquoted, unquotedFrom_append] at h
  cases hq : quotedAfter false cs with
  | true => rfl
  | false => simp [hq, unquotedFrom, hc] at h

-- ---------------------------------------------------------------------------
-- Literals
-- ---------------------------------------------------------------------------

theorem quotedAfter_doubled : quotedAfter inQuotes (doubled cs) = inQuotes := by
  induction cs generalizing inQuotes with
  | nil => rfl
  | cons c rest ih =>
    by_cases hc : c = quote
    · simp [doubled, hc, quotedAfter, ih]
    · simp [doubled, hc, quotedAfter, ih]

theorem unquotedFrom_doubled : unquotedFrom true (doubled cs) = [] := by
  induction cs with
  | nil => rfl
  | cons c rest ih =>
    by_cases hc : c = quote
    · simp [doubled, hc, unquotedFrom, ih]
    · simp [doubled, hc, unquotedFrom, ih]

theorem Numeral.isDigit_of_mem {numeral : Numeral} (h : c ∈ numeral.text) :
    isDigit c = true ∨ c = '+' ∨ c = '-' ∨ c = '.' := by
  obtain ⟨sign, whole, fraction, hwhole, hfraction⟩ := numeral
  simp only [Numeral.text, List.mem_append] at h
  rcases h with h | h | h
  · cases sign with
    | none => simp at h
    | some sign => cases sign <;> simp_all [Sign.char]
  · exact .inl ((isDigits_iff.mp hwhole).2 c h)
  · cases fraction with
    | none => simp [fractionText] at h
    | some digits =>
      rcases List.mem_cons.mp h with rfl | h
      · simp
      · exact .inl ((isDigits_iff.mp (hfraction digits rfl)).2 c h)

theorem Numeral.quote_notMem_text (numeral : Numeral) : quote ∉ numeral.text := by
  intro h
  rcases numeral.isDigit_of_mem h with h | h | h | h <;> exact absurd h (by decide)

theorem quotedAfter_trim : quotedAfter false (trim cs) = quotedAfter false cs := by
  obtain ⟨before, after, hbefore, hafter, hcs⟩ := trim_eq_self_append cs
  have hblank {ds : List Char} (h : isBlankText ds = true) : quote ∉ ds :=
    fun hm => absurd (isBlankText_iff.mp h _ hm) (by decide)
  conv => rhs; rw [hcs, quotedAfter_append, quotedAfter_append]
  rw [quotedAfter_of_notMem (hblank hbefore), quotedAfter_of_notMem (hblank hafter)]

namespace Literal

theorem quotedAfter_text (literal : Literal) : quotedAfter false literal.text = false := by
  cases literal with
  | number numeral => exact quotedAfter_of_notMem numeral.quote_notMem_text
  | string content => simp [text, quotedAfter, quotedAfter_append, quotedAfter_doubled]

theorem unquoted_text (literal : Literal) :
    unquoted literal.text = match literal with
      | .number numeral => numeral.text
      | .string _ => [] := by
  cases literal with
  | number numeral => exact unquotedFrom_of_notMem numeral.quote_notMem_text
  | string content =>
    simp [unquoted, text, unquotedFrom, unquotedFrom_append, unquotedFrom_doubled]

theorem isDigit_of_mem_unquoted {literal : Literal} (h : c ∈ unquoted literal.text) :
    isDigit c = true ∨ c = '+' ∨ c = '-' ∨ c = '.' := by
  rw [unquoted_text] at h
  cases literal with
  | number numeral => exact numeral.isDigit_of_mem h
  | string content => cases h

end Literal

-- ---------------------------------------------------------------------------
-- Pieces
-- ---------------------------------------------------------------------------

theorem unquotedPiecesFrom_ne_nil : unquotedPiecesFrom separator inQuotes cs ≠ [] := by
  cases cs with
  | nil => simp [unquotedPiecesFrom]
  | cons c rest =>
    rw [unquotedPiecesFrom]
    split
    · simp
    · split <;> simp

theorem unquotedPiecesFrom_separator (hs : separator ≠ quote) :
    unquotedPiecesFrom separator false (separator :: ds) =
      [] :: unquotedPiecesFrom separator false ds := by
  rw [unquotedPiecesFrom, if_pos ⟨hs, rfl, rfl⟩]

theorem unquotedPiecesFrom_cons (h : ¬ (c ≠ quote ∧ c = separator ∧ inQuotes = false)) :
    unquotedPiecesFrom separator inQuotes (c :: ds) =
      (unquotedPiecesFrom separator (if c = quote then !inQuotes else inQuotes) ds).modifyHead
        (c :: ·) := by
  obtain ⟨first, more, hp⟩ := List.exists_cons_of_ne_nil
    (@unquotedPiecesFrom_ne_nil (if c = quote then !inQuotes else inQuotes) ds separator)
  rw [unquotedPiecesFrom, if_neg h, hp, List.modifyHead_cons]

theorem intercalate_unquotedPiecesFrom :
    [separator].intercalate (unquotedPiecesFrom separator inQuotes cs) = cs := by
  induction cs generalizing inQuotes with
  | nil => rfl
  | cons c rest ih =>
    rw [unquotedPiecesFrom]
    split
    · rename_i hc
      obtain ⟨first, more, hp⟩ := List.exists_cons_of_ne_nil
        (@unquotedPiecesFrom_ne_nil inQuotes rest separator)
      rw [hp, List.intercalate_cons_cons, ← hp, ih, hc.2.1]
      rfl
    · split
      · rename_i hp
        exact absurd hp unquotedPiecesFrom_ne_nil
      · rename_i piece more hp
        rw [← @ih (if c = quote then !inQuotes else inQuotes), hp]
        cases more with
        | nil => rfl
        | cons next more => simp [List.intercalate_cons_cons]

/-- No separator outside the strings of the piece, and no open string at its end. -/
structure IsPiece (separator : Char) (cs : List Char) : Prop where
  unparted : separator ∉ unquoted cs
  closed : quotedAfter false cs = false

theorem unquotedPiecesFrom_append (hp : separator ∉ unquotedFrom inQuotes cs) :
    unquotedPiecesFrom separator inQuotes (cs ++ ds) =
      (unquotedPiecesFrom separator (quotedAfter inQuotes cs) ds).modifyHead (cs ++ ·) := by
  induction cs generalizing inQuotes with
  | nil => exact congrFun List.modifyHead_id.symm _
  | cons c rest ih =>
    obtain ⟨first, more, hd⟩ := List.exists_cons_of_ne_nil
      (@unquotedPiecesFrom_ne_nil (quotedAfter inQuotes (c :: rest)) ds separator)
    rw [hd, List.modifyHead_cons, List.cons_append, unquotedPiecesFrom]
    by_cases hc : c = quote
    · simp only [unquotedFrom, if_pos hc] at hp
      simp only [quotedAfter, if_pos hc] at hd
      simp [hc, ih hp, hd]
    · simp only [quotedAfter, if_neg hc] at hd
      cases inQuotes with
      | true =>
        simp only [unquotedFrom, if_neg hc, if_true] at hp
        simp [hc, ih hp, hd]
      | false =>
        simp only [unquotedFrom, if_neg hc, Bool.false_eq_true, if_false, List.mem_cons,
          not_or] at hp
        simp [hc, Ne.symm hp.1, ih hp.2, hd]

theorem unquotedPieces_eq_singleton (hp : separator ∉ unquoted cs) :
    unquotedPieces separator cs = [cs] := by
  have hone := @unquotedPiecesFrom_append false cs [] separator hp
  simpa [unquotedPieces, unquotedPiecesFrom] using hone

theorem unquotedPieces_append_cons (hs : separator ≠ quote) (hp : IsPiece separator cs) :
    unquotedPieces separator (cs ++ separator :: ds) = cs :: unquotedPieces separator ds := by
  rw [unquotedPieces, unquotedPiecesFrom_append hp.unparted, hp.closed]
  simp [unquotedPiecesFrom, hs, unquotedPieces]

theorem unquotedPieces_intercalate (hs : separator ≠ quote) (hne : items ≠ [])
    (h : ∀ item ∈ items, IsPiece separator item) :
    unquotedPieces separator ([separator].intercalate items) = items := by
  induction items with
  | nil => exact absurd rfl hne
  | cons item rest ih =>
    obtain ⟨hitem, hrest⟩ := List.forall_mem_cons.mp h
    cases rest with
    | nil =>
      rw [List.intercalate_singleton]
      exact unquotedPieces_eq_singleton hitem.unparted
    | cons next more =>
      rw [List.intercalate_cons_cons, List.append_assoc, List.singleton_append,
        unquotedPieces_append_cons hs hitem, ih (by simp) hrest]

theorem quotedAfter_intercalate (hs : separator ≠ quote)
    (h : ∀ item ∈ items, quotedAfter false item = false) :
    quotedAfter false ([separator].intercalate items) = false := by
  induction items with
  | nil => rfl
  | cons item rest ih =>
    obtain ⟨hitem, hrest⟩ := List.forall_mem_cons.mp h
    cases rest with
    | nil => simpa using hitem
    | cons next more =>
      simp [List.intercalate_cons_cons, quotedAfter_append, hitem, quotedAfter, hs, ih hrest]

theorem mem_unquoted_intercalate (hs : separator ≠ quote)
    (h : ∀ item ∈ items, quotedAfter false item = false)
    (hc : c ∈ unquoted ([separator].intercalate items)) :
    c = separator ∨ ∃ item ∈ items, c ∈ unquoted item := by
  induction items with
  | nil => cases hc
  | cons item rest ih =>
    obtain ⟨hitem, hrest⟩ := List.forall_mem_cons.mp h
    cases rest with
    | nil => exact .inr ⟨item, List.mem_cons_self, by simpa using hc⟩
    | cons next more =>
      simp only [List.intercalate_cons_cons, List.append_assoc, List.singleton_append, unquoted,
        unquotedFrom_append, hitem, List.mem_append] at hc
      rcases hc with hc | hc
      · exact .inr ⟨item, List.mem_cons_self, hc⟩
      · simp only [unquotedFrom, if_neg hs, Bool.false_eq_true, if_false, List.mem_cons] at hc
        rcases hc with rfl | hc
        · exact .inl rfl
        · obtain hsep | ⟨other, hm, ho⟩ := ih hrest hc
          · exact .inl hsep
          · exact .inr ⟨other, List.mem_cons_of_mem _ hm, ho⟩

-- ---------------------------------------------------------------------------
-- Balance
-- ---------------------------------------------------------------------------

theorem balancedFrom_eq :
    balancedFrom depth inQuotes cs =
      (balancedFrom depth false (unquotedFrom inQuotes cs) && !quotedAfter inQuotes cs) := by
  fun_induction balancedFrom depth inQuotes cs with
  | case1 depth inQuotes => simp [balancedFrom, unquotedFrom, quotedAfter]
  | case2 depth inQuotes rest ih => simp [unquotedFrom, quotedAfter, ih]
  | case3 depth inQuotes c rest hc hopen ih =>
    obtain ⟨rfl, rfl⟩ := hopen
    simp [balancedFrom, unquotedFrom, quotedAfter, hc, ih]
  | case4 inQuotes c rest hc hopen hclose =>
    obtain ⟨rfl, rfl⟩ := hclose
    simp [balancedFrom, unquotedFrom, hc]
  | case5 inQuotes c rest hc hopen hclose outer ih =>
    obtain ⟨rfl, rfl⟩ := hclose
    simp [balancedFrom, unquotedFrom, quotedAfter, hc, ih]
  | case6 depth inQuotes c rest hc hopen hclose ih =>
    cases inQuotes with
    | true => simp [unquotedFrom, quotedAfter, hc, ih]
    | false => simp_all [balancedFrom, unquotedFrom, quotedAfter]

theorem balancedFrom_append_of_notMem (hq : quote ∉ cs) (hopen : '(' ∉ cs) (hclose : ')' ∉ cs) :
    balancedFrom depth false (cs ++ ds) = balancedFrom depth false ds := by
  induction cs with
  | nil => rfl
  | cons c rest ih =>
    simp only [List.mem_cons, not_or] at hq hopen hclose
    simp [balancedFrom, Ne.symm hq.1, Ne.symm hopen.1, Ne.symm hclose.1,
      ih hq.2 hopen.2 hclose.2]

end SchemaCompiler.Sql
