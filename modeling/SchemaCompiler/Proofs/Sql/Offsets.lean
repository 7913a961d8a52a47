import SchemaCompiler.Proofs.Folder.Content
import SchemaCompiler.Proofs.Sql.Words
import SchemaCompiler.Proofs.Text.Encoding

/-!
# Offsets of words

Where a keyword stands in the bytes of an expression. Quotes, letters, digits and underscores
are bytes of ASCII, which belong to no other character, so a search among characters finds
the place that a search among bytes would find.
-/

namespace SchemaCompiler.Sql

open Text

-- ---------------------------------------------------------------------------
-- Bytes
-- ---------------------------------------------------------------------------

def foldByte (b : UInt8) : UInt8 :=
  if 65 ≤ b ∧ b ≤ 90 then b + 32 else b

def isNameByte (b : UInt8) : Bool :=
  (48 ≤ b && b ≤ 57) || (65 ≤ b && b ≤ 90) || (97 ≤ b && b ≤ 122) || b == 95

def quoteByte : UInt8 := 39

/-- The bytes of a keyword stand at this offset in any case, after an even number of quotes
and with no byte of a name before or after them. -/
structure StandsAtByte (keyword bytes : List UInt8) (i : Nat) : Prop where
  found : keyword.map foldByte <+: (bytes.drop i).map foldByte
  unquoted : Even ((bytes.take i).count quoteByte)
  left : ∀ b ∈ (bytes.take i).getLast?, isNameByte b = false
  right : ∀ b ∈ (bytes.drop (i + keyword.length)).head?, isNameByte b = false

variable {word cs before after : List Char} {c : Char} {b : UInt8} {i : Nat}

theorem isNameByte_of_mem (hb : b ∈ String.utf8EncodeChar c) : isNameByte b = continuesName c := by
  refine eq_of_mem_utf8EncodeChar (fun c hc => ?_) (fun b hb => ?_)
    (fun c => continuesName_of_past) hb
  · exact of_ascii (p := fun c => isNameByte (.ofNat c.toNat) = continuesName c) (by decide) hc
  · rw [← Bool.not_eq_true]
    simp only [isNameByte, Bool.or_eq_true, Bool.and_eq_true, decide_eq_true_eq, beq_iff_eq,
      UInt8.le_iff_toNat_le, ← UInt8.toNat_inj, UInt8.reduceToNat]
    omega

theorem toNat_foldByte_lt_iff : (foldByte b).toNat < 128 ↔ b.toNat < 128 := by
  rw [foldByte]
  split
  · rename_i hb
    simp only [UInt8.le_iff_toNat_le, UInt8.reduceToNat] at hb
    rw [UInt8.toNat_add]
    simp only [UInt8.reduceToNat]
    omega
  · exact Iff.rfl

theorem foldByte_of_past (h : 128 ≤ b.toNat) : foldByte b = b := by
  refine if_neg fun hb => ?_
  have hle : b.toNat ≤ 90 := UInt8.le_iff_toNat_le.mp hb.2
  omega

theorem map_foldByte_encoded (cs : List Char) :
    (encoded cs).map foldByte = encoded (foldCase cs) := by
  have hchar (c : Char) :
      (String.utf8EncodeChar c).map foldByte = String.utf8EncodeChar c.toLower := by
    by_cases hc : c.toNat < 128
    · have hlower : c.toLower.toNat < 128 ∧
          foldByte (.ofNat c.toNat) = .ofNat c.toLower.toNat :=
        of_ascii (p := fun c => c.toLower.toNat < 128 ∧
          foldByte (.ofNat c.toNat) = .ofNat c.toLower.toNat) (by decide) hc
      rw [utf8EncodeChar_of_ascii hc, utf8EncodeChar_of_ascii hlower.1, ← hlower.2]
      rfl
    · have hpast := Nat.le_of_not_lt hc
      rw [toLower_of_past hpast]
      exact List.map_congr_left (fun b hb => foldByte_of_past (le_of_mem_utf8EncodeChar hpast hb))
        |>.trans (List.map_id _)
  induction cs with
  | nil => rfl
  | cons c rest ih =>
    rw [encoded_cons, List.map_append, hchar, ih]
    rfl

theorem count_quoteByte_encoded (cs : List Char) :
    (encoded cs).count quoteByte = cs.count quote := by
  induction cs with
  | nil => rfl
  | cons c rest ih =>
    rw [encoded_cons, List.count_append, ih]
    by_cases hc : c = quote
    · subst hc
      rw [List.count_cons_self, Nat.add_comm]
      rfl
    · have hbyte : quoteByte ∉ String.utf8EncodeChar c :=
        mt (mem_utf8EncodeChar_iff (c := quote) (by decide) c).mp hc
      rw [List.count_eq_zero.mpr hbyte, List.count_cons_of_ne hc, Nat.zero_add]

theorem forall_head?_encoded : (∀ b ∈ (encoded cs).head?, isNameByte b = false) ↔
    ∀ c ∈ cs.head?, continuesName c = false := by
  cases cs with
  | nil => simp
  | cons c rest =>
    obtain ⟨b, bytes, hbytes⟩ := List.exists_cons_of_ne_nil (@String.utf8EncodeChar_ne_nil c)
    have hb : isNameByte b = continuesName c :=
      isNameByte_of_mem (by rw [hbytes]; exact List.mem_cons_self)
    simp [hbytes, hb]

theorem forall_getLast?_encoded : (∀ b ∈ (encoded cs).getLast?, isNameByte b = false) ↔
    ∀ c ∈ cs.getLast?, continuesName c = false := by
  rcases List.eq_nil_or_concat' cs with rfl | ⟨before, c, rfl⟩
  · simp
  · rcases List.eq_nil_or_concat' (String.utf8EncodeChar c) with hnil | ⟨bytes, b, hbytes⟩
    · exact absurd hnil String.utf8EncodeChar_ne_nil
    · have hb : isNameByte b = continuesName c :=
        isNameByte_of_mem (by rw [hbytes]; exact List.mem_append_right _ List.mem_cons_self)
      simp [hbytes, ← List.append_assoc, hb]

-- ---------------------------------------------------------------------------
-- Places and offsets
-- ---------------------------------------------------------------------------

theorem ascii_foldCase_iff : (∀ c ∈ foldCase cs, c.toNat < 128) ↔ ∀ c ∈ cs, c.toNat < 128 := by
  have hlower (c : Char) : c.toLower.toNat < 128 ↔ c.toNat < 128 := by
    by_cases hc : c.toNat < 128
    · exact of_ascii (p := fun c => c.toLower.toNat < 128 ↔ c.toNat < 128) (by decide) hc
    · rw [toLower_of_past (Nat.le_of_not_lt hc)]
  simp [foldCase, hlower]

theorem standsAtByte_length_iff (hw : ∀ c ∈ word, c.toNat < 128) :
    StandsAtByte (encoded word) (encoded (before ++ after)) (encoded before).length ↔
      StandsAt word (before ++ after) before.length := by
  have hfound : (encoded word).map foldByte <+:
        ((encoded (before ++ after)).drop (encoded before).length).map foldByte ↔
      foldCase word <+: foldCase ((before ++ after).drop before.length) := by
    rw [encoded_append, List.drop_left, List.drop_left, map_foldByte_encoded,
      map_foldByte_encoded, encoded_prefix_iff (ascii_foldCase_iff.mpr hw)]
  have hunquoted : ((encoded (before ++ after)).take (encoded before).length).count quoteByte =
      ((before ++ after).take before.length).count quote := by
    rw [encoded_append, List.take_left, List.take_left, count_quoteByte_encoded]
  have hleft : (∀ b ∈ ((encoded (before ++ after)).take (encoded before).length).getLast?,
        isNameByte b = false) ↔
      ∀ c ∈ ((before ++ after).take before.length).getLast?, continuesName c = false := by
    rw [encoded_append, List.take_left, List.take_left, forall_getLast?_encoded]
  have hright (h : foldCase word <+: foldCase ((before ++ after).drop before.length)) :
      (∀ b ∈ ((encoded (before ++ after)).drop
        ((encoded before).length + (encoded word).length)).head?, isNameByte b = false) ↔
      ∀ c ∈ ((before ++ after).drop (before.length + word.length)).head?,
        continuesName c = false := by
    rw [List.drop_left] at h
    obtain ⟨matched, ⟨rest, rfl⟩, hm⟩ := List.prefix_map_iff.mp h
    have hlength : word.length = matched.length := by
      simpa [foldCase] using congrArg List.length hm
    change foldCase word = foldCase matched at hm
    have hmatched : ∀ c ∈ matched, c.toNat < 128 :=
      ascii_foldCase_iff.mp (hm ▸ ascii_foldCase_iff.mpr hw)
    have hbytes : (encoded word).length = (encoded matched).length := by
      rw [length_encoded_of_ascii hw, hlength, length_encoded_of_ascii hmatched]
    rw [encoded_append, List.drop_length_add_append, List.drop_length_add_append, hlength, hbytes,
      encoded_append, List.drop_left, List.drop_left, forall_head?_encoded]
  constructor
  · rintro ⟨hf, hu, hl, hr⟩
    exact ⟨hfound.mp hf, hunquoted ▸ hu, hleft.mp hl, (hright (hfound.mp hf)).mp hr⟩
  · rintro ⟨hf, hu, hl, hr⟩
    exact ⟨hfound.mpr hf, hunquoted ▸ hu, hleft.mpr hl, (hright hf).mpr hr⟩

/-- The offset of a character: the bytes that those before it have. -/
def offsetOf (cs : List Char) (n : Nat) : Nat :=
  (encoded (cs.take n)).length

theorem standsAtByte_iff (hw : IsWord word) (ha : ∀ c ∈ word, c.toNat < 128) :
    StandsAtByte (encoded word) (encoded cs) i ↔ ∃ n, StandsAt word cs n ∧ offsetOf cs n = i := by
  constructor
  · intro h
    obtain ⟨w, more, rfl⟩ := List.exists_cons_of_ne_nil hw.nonempty
    have hw128 : w.toNat < 128 := ha w List.mem_cons_self
    have hfound := h.found
    rw [encoded_cons, utf8EncodeChar_of_ascii hw128, List.singleton_append,
      List.map_cons] at hfound
    cases hdrop : (encoded cs).drop i with
    | nil => simp [hdrop] at hfound
    | cons b bytes =>
      rw [hdrop, List.map_cons, List.cons_prefix_cons] at hfound
      -- The first byte that is found is of ASCII, so a character begins there.
      have hb : b.toNat < 128 := by
        rw [← toNat_foldByte_lt_iff, ← hfound.1, toNat_foldByte_lt_iff, UInt8.toNat_ofNat']
        omega
      have hget : (encoded cs)[i]? = some b := by
        rw [← List.head?_drop, hdrop]
        rfl
      obtain ⟨before, after, rfl, rfl⟩ := exists_of_getElem?_encoded hget hb
      exact ⟨before.length, (standsAtByte_length_iff ha).mp h, by rw [offsetOf, List.take_left]⟩
  · rintro ⟨n, hn, rfl⟩
    have hlength : (cs.take n).length = n := List.length_take_of_le (hn.lt_length hw).le
    have hat := @standsAtByte_length_iff word (cs.take n) (cs.drop n) ha
    rw [List.take_append_drop, hlength] at hat
    exact hat.mpr hn

theorem offsetOf_mono (cs : List Char) {n m : Nat} (h : n ≤ m) : offsetOf cs n ≤ offsetOf cs m := by
  obtain ⟨more, hmore⟩ := List.take_prefix_take_left (l := cs) h
  rw [offsetOf, offsetOf, ← hmore, encoded_append, List.length_append]
  exact Nat.le_add_right _ _

-- ---------------------------------------------------------------------------
-- Keywords
-- ---------------------------------------------------------------------------

/-- Letters and digits of ASCII. -/
structure IsKeyword (keyword : String) : Prop where
  nonempty : keyword ≠ ""
  plain : keyword.toList.all Char.isAlphanum = true

variable {keyword text : String}

theorem IsKeyword.isWord (h : IsKeyword keyword) : IsWord keyword.toList where
  nonempty := String.toList_eq_nil_iff.not.mpr h.nonempty
  unquoted hm := absurd (List.all_eq_true.mp h.plain _ hm) (by decide)

theorem IsKeyword.ascii (h : IsKeyword keyword) : ∀ c ∈ keyword.toList, c.toNat < 128 :=
  fun c hc => ascii_of_continuesName (by rw [continuesName, List.all_eq_true.mp h.plain c hc]; rfl)

/-- The search gives the least offset where the bytes of a keyword stand, and gives none
exactly if they stand nowhere. -/
theorem findWord_offset (hk : IsKeyword keyword) :
    (∀ i, (findWord keyword.toList text.toList).map (offsetOf text.toList) = some i ↔
      StandsAtByte (Content.ofText keyword) (Content.ofText text) i ∧
        ∀ j < i, ¬ StandsAtByte (Content.ofText keyword) (Content.ofText text) j) ∧
    ((findWord keyword.toList text.toList).map (offsetOf text.toList) = none ↔
      ∀ i, ¬ StandsAtByte (Content.ofText keyword) (Content.ofText text) i) := by
  have hplaces (i : Nat) : StandsAtByte (Content.ofText keyword) (Content.ofText text) i ↔
      ∃ n, StandsAt keyword.toList text.toList n ∧ offsetOf text.toList n = i := by
    rw [Content.ofText_eq, Content.ofText_eq]
    exact standsAtByte_iff hk.isWord hk.ascii
  have hnone : (findWord keyword.toList text.toList).map (offsetOf text.toList) = none ↔
      ∀ i, ¬ StandsAtByte (Content.ofText keyword) (Content.ofText text) i := by
    simp only [Option.map_eq_none_iff, findWord_eq_none_iff hk.isWord, hplaces]
    constructor
    · rintro h i ⟨n, hn, -⟩
      exact h n hn
    · exact fun h n hn => h _ ⟨n, hn, rfl⟩
  refine ⟨fun i => ?_, hnone⟩
  have hfirst (n : Nat) (h : findWord keyword.toList text.toList = some n) :
      StandsAtByte (Content.ofText keyword) (Content.ofText text) (offsetOf text.toList n) ∧
        ∀ j, StandsAtByte (Content.ofText keyword) (Content.ofText text) j →
          offsetOf text.toList n ≤ j := by
    obtain ⟨hn, hleast⟩ := (findWord_eq_some_iff hk.isWord).mp h
    refine ⟨(hplaces _).mpr ⟨n, hn, rfl⟩, fun j hj => ?_⟩
    obtain ⟨m, hm, rfl⟩ := (hplaces j).mp hj
    exact offsetOf_mono _ (Nat.le_of_not_lt fun hlt => hleast m hlt hm)
  cases hfind : findWord keyword.toList text.toList with
  | none =>
    rw [hfind] at hnone
    exact iff_of_false (by simp) fun h => hnone.mp rfl i h.1
  | some n =>
    obtain ⟨hat, hleast⟩ := hfirst n hfind
    rw [Option.map_some, Option.some.injEq]
    constructor
    · rintro rfl
      exact ⟨hat, fun j hj hs => absurd (hleast j hs) (Nat.not_le_of_lt hj)⟩
    · rintro ⟨hi, hbefore⟩
      exact Nat.le_antisymm (hleast i hi) (Nat.le_of_not_lt fun hlt => hbefore _ hlt hat)

/-- A letter with an accent has two bytes, and neither is one of a name. -/
theorem findWord_offset_accented : IsKeyword "in" ∧
    (StandsAtByte (Content.ofText "in") (Content.ofText "é'in'éIN(1)") 8 ∧
      ∀ j < 8, ¬ StandsAtByte (Content.ofText "in") (Content.ofText "é'in'éIN(1)") j) ∧
    ∀ i, ¬ StandsAtByte (Content.ofText "in") (Content.ofText "é'in'éIN_(1)") i :=
  have hk : IsKeyword "in" := ⟨by decide, by decide⟩
  ⟨hk, ((findWord_offset hk).1 8).mp (by decide +kernel),
    (findWord_offset hk).2.mp (by decide +kernel)⟩

end SchemaCompiler.Sql
