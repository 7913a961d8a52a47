import SchemaCompiler.Proofs.Sql.Offsets
import SchemaCompiler.Proofs.Text.Slices

/-!
# Searching among bytes

A search for a keyword that goes through the bytes of a text with an index. It never asks for
a byte that the text lacks, and what it finds is the offset of the character that the search
among characters finds.
-/

namespace SchemaCompiler.Sql

open Text

-- ---------------------------------------------------------------------------
-- Places of keywords
-- ---------------------------------------------------------------------------

section

variable {keyword bytes : List UInt8} {i : Nat} {b : UInt8} {result : Option Nat}

theorem StandsAtByte.length_le (hk : keyword ≠ []) (h : StandsAtByte keyword bytes i) :
    i + keyword.length ≤ bytes.length := by
  have hlength := h.found.length_le
  have hpos := List.length_pos_iff.mpr hk
  simp only [List.length_map, List.length_drop] at hlength
  omega

theorem foldByte_eq_quoteByte_iff : foldByte b = quoteByte ↔ b = quoteByte := by
  rw [foldByte]
  split
  · rename_i hb
    simp only [UInt8.le_iff_toNat_le, UInt8.reduceToNat] at hb
    simp only [quoteByte, ← UInt8.toNat_inj, UInt8.toNat_add, UInt8.reduceToNat]
    omega
  · exact Iff.rfl

theorem not_standsAtByte_of_quote (hk : keyword ≠ []) (hq : quoteByte ∉ keyword)
    (hb : bytes[i]? = some quoteByte) : ¬ StandsAtByte keyword bytes i := by
  intro h
  obtain ⟨k, more, rfl⟩ := List.exists_cons_of_ne_nil hk
  obtain ⟨rest, hrest⟩ : ∃ rest, bytes.drop i = quoteByte :: rest := by
    rw [← List.head?_drop] at hb
    exact ⟨_, List.eq_cons_of_mem_head? hb⟩
  have hfound := h.found
  rw [hrest, List.map_cons, List.map_cons, List.cons_prefix_cons] at hfound
  have hfirst : foldByte k = quoteByte := hfound.1
  exact hq (foldByte_eq_quoteByte_iff.mp hfirst ▸ List.mem_cons_self)

/-- The first offset from `i` on where a keyword stands, if there is one. -/
def IsFirstFrom (keyword bytes : List UInt8) (i : Nat) : Option Nat → Prop
  | none => ∀ j, i ≤ j → ¬ StandsAtByte keyword bytes j
  | some j => i ≤ j ∧ StandsAtByte keyword bytes j ∧
      ∀ k, i ≤ k → k < j → ¬ StandsAtByte keyword bytes k

theorem IsFirstFrom.here (h : StandsAtByte keyword bytes i) :
    IsFirstFrom keyword bytes i (some i) :=
  ⟨i.le_refl, h, fun _ hle hlt => absurd hle (Nat.not_le_of_lt hlt)⟩

theorem IsFirstFrom.later (h : ¬ StandsAtByte keyword bytes i)
    (hr : IsFirstFrom keyword bytes (i + 1) result) : IsFirstFrom keyword bytes i result := by
  have hne {k : Nat} (hs : StandsAtByte keyword bytes k) : i ≠ k := by
    rintro rfl
    exact h hs
  cases result with
  | none => exact fun j hj hs => hr j (Nat.lt_of_le_of_ne hj (hne hs)) hs
  | some j =>
    obtain ⟨hj, hs, hfirst⟩ := hr
    exact ⟨Nat.le_of_succ_le hj, hs,
      fun k hk hlt hs => hfirst k (Nat.lt_of_le_of_ne hk (hne hs)) hlt hs⟩

theorem IsFirstFrom.unique {result' : Option Nat} (h : IsFirstFrom keyword bytes i result)
    (h' : IsFirstFrom keyword bytes i result') : result = result' := by
  cases result with
  | none =>
    cases result' with
    | none => rfl
    | some j => exact absurd h'.2.1 (h j h'.1)
  | some j =>
    cases result' with
    | none => exact absurd h.2.1 (h' j h.1)
    | some k =>
      obtain ⟨hj, hs, hfirst⟩ := h
      obtain ⟨hk, hs', hfirst'⟩ := h'
      rcases Nat.lt_trichotomy j k with hlt | rfl | hlt
      · exact absurd hs (hfirst' j hj hlt)
      · rfl
      · exact absurd hs' (hfirst k hk hlt)

end

namespace Bytewise

-- ---------------------------------------------------------------------------
-- The search
-- ---------------------------------------------------------------------------

def window (bytes : List UInt8) (start stop : Nat) : Checked (List UInt8) :=
  if start ≤ stop ∧ stop ≤ bytes.length then some ((bytes.take stop).drop start) else none

/-- Whether no byte of a name stands right before an offset or `size` bytes after it. -/
def standsAlone (bytes : List UInt8) (i size : Nat) : Checked Bool := do
  let left ← if i = 0 then some false else bytes[i - 1]?.map isNameByte
  return !left && !bytes[i + size]?.any isNameByte

/-- Whether a keyword stands at an offset that is in quotes or not. -/
def standsAt (keyword bytes : List UInt8) (inQuotes : Bool) (i : Nat) : Checked Bool :=
  if inQuotes then some false
  else do
    let found ← window bytes i (i + keyword.length)
    if found.map foldByte = keyword.map foldByte then standsAlone bytes i keyword.length
    else some false

def findFrom (keyword bytes : List UInt8) (inQuotes : Bool) (i : Nat) : Checked (Option Nat) :=
  if _h : i + keyword.length ≤ bytes.length then do
    let b ← bytes[i]?
    if b = quoteByte then findFrom keyword bytes (!inQuotes) (i + 1)
    else if ← standsAt keyword bytes inQuotes i then some (some i)
    else findFrom keyword bytes inQuotes (i + 1)
  else some none
termination_by bytes.length + 1 - i

/-- The offset of the first `word` that stands alone outside quotes. -/
def findWord (word cs : List Char) : Checked (Option Nat) :=
  let keyword := encoded word
  let bytes := encoded cs
  if keyword.isEmpty || bytes.length < keyword.length then some none
  else findFrom keyword bytes false 0

variable {keyword bytes : List UInt8} {inQuotes : Bool} {i : Nat} {word cs : List Char}

-- ---------------------------------------------------------------------------
-- One offset
-- ---------------------------------------------------------------------------

theorem standsAlone_eq_some {size : Nat} (hi : i ≤ bytes.length) :
    ∃ alone, standsAlone bytes i size = some alone ∧
      (alone = true ↔ (∀ b ∈ (bytes.take i).getLast?, isNameByte b = false) ∧
        ∀ b ∈ (bytes.drop (i + size)).head?, isNameByte b = false) := by
  have hright : bytes[i + size]?.any isNameByte = false ↔
      ∀ b ∈ (bytes.drop (i + size)).head?, isNameByte b = false := by
    rw [List.head?_drop, Option.any_eq_false]
    rfl
  cases i with
  | zero => exact ⟨_, rfl, by simpa using hright⟩
  | succ i =>
    have hget : bytes[i]? = some bytes[i] := List.getElem?_eq_getElem hi
    have hlast : (bytes.take (i + 1)).getLast? = some bytes[i] := by
      simp [List.getLast?_take, hget]
    refine ⟨!isNameByte bytes[i] && !bytes[i + 1 + size]?.any isNameByte, ?_, ?_⟩
    · simp [standsAlone, hget]
    · rw [hlast, Bool.and_eq_true, Bool.not_eq_true', Bool.not_eq_true', hright]
      simp

theorem standsAt_eq_some (hi : i + keyword.length ≤ bytes.length)
    (hq : inQuotes = true ↔ Odd ((bytes.take i).count quoteByte)) :
    ∃ stands, standsAt keyword bytes inQuotes i = some stands ∧
      (stands = true ↔ StandsAtByte keyword bytes i) := by
  cases inQuotes with
  | true =>
    refine ⟨false, rfl, iff_of_false Bool.false_ne_true fun h => ?_⟩
    exact Nat.not_even_iff_odd.mpr (hq.mp rfl) h.unquoted
  | false =>
    have heven : Even ((bytes.take i).count quoteByte) := by
      rw [← Nat.not_odd_iff_even, ← hq]
      exact Bool.false_ne_true
    have hwindow : window bytes i (i + keyword.length) =
        some ((bytes.drop i).take keyword.length) := by
      rw [window, if_pos ⟨Nat.le_add_right _ _, hi⟩, List.drop_take, Nat.add_sub_cancel_left]
    have hfound : ((bytes.drop i).take keyword.length).map foldByte = keyword.map foldByte ↔
        keyword.map foldByte <+: (bytes.drop i).map foldByte := by
      rw [List.prefix_iff_eq_take, List.length_map, ← List.map_take, eq_comm]
    obtain ⟨alone, halone, hiff⟩ :=
      @standsAlone_eq_some bytes i keyword.length ((Nat.le_add_right _ _).trans hi)
    simp only [standsAt, hwindow, hfound, Bool.false_eq_true, if_false, Option.bind_eq_bind,
      Option.bind_some]
    split
    · rename_i hf
      exact ⟨alone, halone,
        hiff.trans ⟨fun ⟨hl, hr⟩ => ⟨hf, heven, hl, hr⟩, fun h => ⟨h.left, h.right⟩⟩⟩
    · rename_i hf
      exact ⟨false, rfl, iff_of_false Bool.false_ne_true fun h => hf h.found⟩

-- ---------------------------------------------------------------------------
-- The first offset
-- ---------------------------------------------------------------------------

theorem findFrom_eq_some (hk : keyword ≠ []) (hquote : quoteByte ∉ keyword)
    (hq : inQuotes = true ↔ Odd ((bytes.take i).count quoteByte)) :
    ∃ result, findFrom keyword bytes inQuotes i = some result ∧
      IsFirstFrom keyword bytes i result := by
  fun_induction findFrom keyword bytes inQuotes i with
  | case1 inQuotes i hi ihquote ihnext =>
    have hpos := List.length_pos_iff.mpr hk
    obtain ⟨b, hb⟩ : ∃ b, bytes[i]? = some b := ⟨_, List.getElem?_eq_getElem (by omega)⟩
    have hcount : (bytes.take (i + 1)).count quoteByte =
        (bytes.take i).count quoteByte + [b].count quoteByte := by
      rw [List.take_add_one, hb, List.count_append]
      rfl
    rw [hb, Option.bind_eq_bind, Option.bind_some]
    by_cases hbq : b = quoteByte
    · subst hbq
      rw [if_pos rfl]
      obtain ⟨result, hfind, hfirst⟩ := ihquote (by
        rw [hcount, List.count_singleton_self, Nat.odd_add_one, ← hq, Bool.not_eq_true',
          Bool.not_eq_true])
      exact ⟨result, hfind, hfirst.later (not_standsAtByte_of_quote hk hquote hb)⟩
    · rw [if_neg hbq]
      obtain ⟨stands, hstands, hiff⟩ := standsAt_eq_some hi hq
      rw [hstands, Option.bind_eq_bind, Option.bind_some]
      cases stands with
      | true => exact ⟨some i, rfl, .here (hiff.mp rfl)⟩
      | false =>
        obtain ⟨result, hfind, hfirst⟩ := ihnext (by
          rw [hcount, List.count_singleton, if_neg (by simpa using hbq), Nat.add_zero, hq])
        exact ⟨result, hfind, hfirst.later (hiff.not.mp Bool.false_ne_true)⟩
  | case2 inQuotes i hi =>
    refine ⟨none, rfl, fun j hj hs => hi ?_⟩
    have hle := hs.length_le hk
    omega

-- ---------------------------------------------------------------------------
-- Bytes and characters
-- ---------------------------------------------------------------------------

theorem isFirstFrom_findWord (hw : IsWord word) (ha : ∀ c ∈ word, c.toNat < 128) :
    IsFirstFrom (encoded word) (encoded cs) 0
      ((Sql.findWord word cs).map (offsetOf cs)) := by
  cases hfind : Sql.findWord word cs with
  | none =>
    intro i _ hs
    obtain ⟨n, hn, -⟩ := (standsAtByte_iff hw ha).mp hs
    exact (findWord_eq_none_iff hw).mp hfind n hn
  | some n =>
    obtain ⟨hn, hfirst⟩ := (findWord_eq_some_iff hw).mp hfind
    refine ⟨Nat.zero_le _, (standsAtByte_iff hw ha).mpr ⟨n, hn, rfl⟩, fun i _ hlt hs => ?_⟩
    obtain ⟨m, hm, rfl⟩ := (standsAtByte_iff hw ha).mp hs
    exact hfirst m (Nat.lt_of_not_le fun hle => Nat.not_le_of_lt hlt (offsetOf_mono cs hle)) hm

theorem findWord_eq_some (hw : IsWord word) (ha : ∀ c ∈ word, c.toNat < 128) :
    findWord word cs = some ((Sql.findWord word cs).map (offsetOf cs)) := by
  have hfirst := @isFirstFrom_findWord word cs hw ha
  have hk : encoded word ≠ [] := by
    obtain ⟨w, more, rfl⟩ := List.exists_cons_of_ne_nil hw.nonempty
    simp
  have hquote : quoteByte ∉ encoded word := by
    rw [← List.count_eq_zero, count_quoteByte_encoded, List.count_eq_zero]
    exact hw.unquoted
  rw [findWord, List.isEmpty_eq_false_iff.mpr hk, Bool.false_or]
  split
  · rename_i hlt
    have hnone : IsFirstFrom (encoded word) (encoded cs) 0 none := fun i _ hs => by
      have hle := hs.length_le hk
      simp only [decide_eq_true_eq] at hlt
      omega
    rw [hfirst.unique hnone]
  · obtain ⟨result, hfind, hresult⟩ :=
      @findFrom_eq_some (encoded word) (encoded cs) false 0 hk hquote (by simp)
    rw [hfind, hresult.unique hfirst]

end Bytewise

end SchemaCompiler.Sql
