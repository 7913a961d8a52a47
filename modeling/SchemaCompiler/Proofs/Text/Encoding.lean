import Mathlib.Data.List.Basic
import SchemaCompiler.Proofs.Text.LetterCase

/-!
# Bytes of characters

A character of ASCII is one byte, and all bytes of a character past ASCII are past ASCII.
So a byte of ASCII stands in an encoded text only where its character stands in the text.
-/

namespace SchemaCompiler.Text

def encoded (cs : List Char) : List UInt8 :=
  cs.flatMap String.utf8EncodeChar

variable {c : Char} {cs ds word : List Char} {b : UInt8} {i : Nat}

@[simp] theorem encoded_nil : encoded [] = [] := rfl

@[simp] theorem encoded_cons (c : Char) (cs : List Char) :
    encoded (c :: cs) = String.utf8EncodeChar c ++ encoded cs := rfl

@[simp] theorem encoded_append (cs ds : List Char) :
    encoded (cs ++ ds) = encoded cs ++ encoded ds :=
  List.flatMap_append

-- ---------------------------------------------------------------------------
-- One character
-- ---------------------------------------------------------------------------

theorem utf8EncodeChar_of_ascii (h : c.toNat < 128) :
    String.utf8EncodeChar c = [.ofNat c.toNat] := by
  have hsize : c.utf8Size = 1 :=
    Char.utf8Size_eq_one_iff.mpr (UInt32.le_iff_toNat_le.mpr (Nat.le_of_lt_succ h))
  exact String.utf8EncodeChar_eq_singleton hsize

theorem le_of_mem_utf8EncodeChar (h : 128 ≤ c.toNat) (hb : b ∈ String.utf8EncodeChar c) :
    128 ≤ b.toNat := by
  have hc : 128 ≤ c.val.toNat := h
  have hbyte (n : Nat) : (UInt8.ofNat n).toNat = n % 256 := UInt8.toNat_ofNat'
  revert hb
  fun_cases String.utf8EncodeChar c <;>
    simp only [List.mem_cons, List.not_mem_nil, or_false]
  · omega
  · rintro (rfl | rfl) <;> rw [hbyte] <;> omega
  · rintro (rfl | rfl | rfl) <;> rw [hbyte] <;> omega
  · rintro (rfl | rfl | rfl | rfl) <;> rw [hbyte] <;> omega

theorem mem_utf8EncodeChar_iff (hc : c.toNat < 128) (d : Char) :
    .ofNat c.toNat ∈ String.utf8EncodeChar d ↔ d = c := by
  by_cases hd : d.toNat < 128
  · rw [utf8EncodeChar_of_ascii hd, List.mem_singleton, ← UInt8.toNat_inj, ← Char.toNat_inj]
    simp only [UInt8.toNat_ofNat']
    omega
  · refine iff_of_false (fun hm => ?_) fun he => hd (he ▸ hc)
    have hle := le_of_mem_utf8EncodeChar (Nat.le_of_not_lt hd) hm
    simp only [UInt8.toNat_ofNat'] at hle
    omega

theorem eq_of_mem_utf8EncodeChar {p : UInt8 → Bool} {q : Char → Bool}
    (h : ∀ c : Char, c.toNat < 128 → p (.ofNat c.toNat) = q c)
    (hp : ∀ b : UInt8, 128 ≤ b.toNat → p b = false) (hq : ∀ c : Char, 128 ≤ c.toNat → q c = false)
    (hb : b ∈ String.utf8EncodeChar c) : p b = q c := by
  by_cases hc : c.toNat < 128
  · rw [utf8EncodeChar_of_ascii hc, List.mem_singleton] at hb
    rw [hb, h c hc]
  · have hpast := Nat.le_of_not_lt hc
    rw [hp b (le_of_mem_utf8EncodeChar hpast hb), hq c hpast]

-- ---------------------------------------------------------------------------
-- Texts
-- ---------------------------------------------------------------------------

theorem length_encoded_of_ascii (h : ∀ c ∈ cs, c.toNat < 128) :
    (encoded cs).length = cs.length := by
  induction cs with
  | nil => rfl
  | cons c rest ih =>
    obtain ⟨hc, hrest⟩ := List.forall_mem_cons.mp h
    rw [encoded_cons, utf8EncodeChar_of_ascii hc, List.length_append, ih hrest]
    simp [Nat.add_comm]

/-- Where a byte is of ASCII a character begins. -/
theorem exists_of_getElem?_encoded (h : (encoded cs)[i]? = some b) (hb : b.toNat < 128) :
    ∃ before after, cs = before ++ after ∧ (encoded before).length = i := by
  induction cs generalizing i with
  | nil => exact ⟨[], [], rfl, by simp at h⟩
  | cons c rest ih =>
    by_cases hi : i < (String.utf8EncodeChar c).length
    · rw [encoded_cons, List.getElem?_append_left hi] at h
      have hc : c.toNat < 128 := by
        by_contra hc
        have hle := le_of_mem_utf8EncodeChar (Nat.le_of_not_lt hc) (List.mem_of_getElem? h)
        omega
      rw [utf8EncodeChar_of_ascii hc, List.length_singleton] at hi
      exact ⟨[], c :: rest, rfl, (Nat.lt_one_iff.mp hi).symm⟩
    · rw [encoded_cons, List.getElem?_append_right (Nat.le_of_not_lt hi)] at h
      obtain ⟨before, after, rfl, hlength⟩ := ih h
      refine ⟨c :: before, after, rfl, ?_⟩
      rw [encoded_cons, List.length_append, hlength]
      omega

theorem encoded_prefix_iff (hw : ∀ c ∈ word, c.toNat < 128) :
    encoded word <+: encoded cs ↔ word <+: cs := by
  induction word generalizing cs with
  | nil => simp
  | cons w more ih =>
    obtain ⟨hw, hmore⟩ := List.forall_mem_cons.mp hw
    rw [encoded_cons, utf8EncodeChar_of_ascii hw, List.singleton_append]
    cases cs with
    | nil => simp
    | cons c rest =>
      rw [encoded_cons, List.cons_prefix_cons]
      by_cases hc : c = w
      · subst hc
        rw [utf8EncodeChar_of_ascii hw, List.singleton_append, List.cons_prefix_cons, ih hmore,
          eq_self, eq_self]
      · refine iff_of_false (fun h => hc ?_) fun h => hc h.1.symm
        obtain ⟨b, bytes, hbytes⟩ :=
          List.exists_cons_of_ne_nil (@String.utf8EncodeChar_ne_nil c)
        rw [hbytes, List.cons_append, List.cons_prefix_cons] at h
        exact (mem_utf8EncodeChar_iff hw c).mp (by rw [hbytes, h.1]; exact List.mem_cons_self)

end SchemaCompiler.Text
