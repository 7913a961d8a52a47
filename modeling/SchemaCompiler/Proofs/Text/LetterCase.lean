import Mathlib.Data.Char
import SchemaCompiler.Proofs.Sequence
import SchemaCompiler.Text.LetterCase

/-!
# Letter case past ASCII

The lowercase of a character past ASCII is past ASCII too. Two characters are
exceptions: the kelvin sign, and the capital I with a dot. The uppercase of a character
past ASCII is past ASCII or has capitals of ASCII.
-/

namespace SchemaCompiler.Text

theorem of_ascii {p : Char → Prop} (h : ∀ n < 128, p (.ofNat n)) {c : Char} (hc : c.toNat < 128) :
    p c :=
  Char.ofNat_toNat c ▸ h c.toNat hc

theorem isLower_iff {c : Char} : c.isLower = true ↔ 97 ≤ c.toNat ∧ c.toNat ≤ 122 := by
  have hl : c.isLower = (decide (c.val ≥ 'a'.val) && decide (c.val ≤ 'z'.val)) := rfl
  rw [hl, Bool.and_eq_true, decide_eq_true_eq, decide_eq_true_eq, ge_iff_le,
    UInt32.le_iff_toNat_le, UInt32.le_iff_toNat_le]
  rfl

theorem isUpper_iff {c : Char} : c.isUpper = true ↔ 65 ≤ c.toNat ∧ c.toNat ≤ 90 := by
  have hu : c.isUpper = decide (c.val ≥ 'A'.val ∧ c.val ≤ 'Z'.val) := rfl
  rw [hu, decide_eq_true_eq, ge_iff_le, UInt32.le_iff_toNat_le, UInt32.le_iff_toNat_le]
  rfl

theorem toLower_of_past {c : Char} (h : 128 ≤ c.toNat) : c.toLower = c := by
  have hupper : ¬ (c.val ≥ 'A'.val ∧ c.val ≤ 'Z'.val) := by
    rintro ⟨-, hle⟩
    have hcode : c.toNat ≤ 90 := UInt32.le_iff_toNat_le.mp hle
    omega
  exact dif_neg hupper

/-- The sign for kelvin, whose lowercase is a letter of ASCII. -/
def kelvinSign : Char := '\u212A'

-- ---------------------------------------------------------------------------
-- Shifts
-- ---------------------------------------------------------------------------

/-- The run moves to characters past ASCII, and not across the surrogates. -/
def Shift.StaysPast (shift : Shift) : Prop :=
  (128 ≤ shift.first + shift.offset ∧ shift.last + shift.offset < 0xD800) ∨
    (0xE000 ≤ shift.first + shift.offset ∧ shift.last + shift.offset < 0x110000)

instance (shift : Shift) : Decidable shift.StaysPast := by
  unfold Shift.StaysPast
  infer_instance

theorem Shift.StaysPast.toNat_apply {shift : Shift} {code : Nat} (h : shift.StaysPast)
    (hc : shift.contains code = true) : ((shift.apply code).toNat : Int) = code + shift.offset := by
  simp only [Run.contains, Bool.and_eq_true, decide_eq_true_eq] at hc
  -- A code that no character has would stand for the null character.
  have hvalid : (code + shift.offset).toNat.isValidChar := by
    unfold Nat.isValidChar
    rcases h with h | h <;> omega
  rw [Shift.apply, Char.ofNat, dif_pos hvalid]
  change ((code + shift.offset).toNat : Int) = code + shift.offset
  rcases h with h | h <;> omega

theorem Shift.StaysPast.apply {shift : Shift} {code : Nat} (h : shift.StaysPast)
    (hc : shift.contains code = true) : 128 ≤ (shift.apply code).toNat := by
  have hcode := h.toNat_apply hc
  simp only [Run.contains, Bool.and_eq_true, decide_eq_true_eq] at hc
  rcases h with h | h <;> omega

/-- Of the shifts to lowercase only the one of the kelvin sign leads back to ASCII. -/
theorem staysPast_of_mem_lowerShifts :
    ∀ shift ∈ lowerShifts, shift.StaysPast ∨
      (shift.first = 0x212A ∧ shift.last = 0x212A ∧ shift.offset = -8383) := by
  decide +kernel

-- ---------------------------------------------------------------------------
-- Lowercase
-- ---------------------------------------------------------------------------

theorem lowercase_cases {c : Char} (h : 128 ≤ c.toNat) :
    (∃ d, lowercase c = [d] ∧ 128 ≤ d.toNat) ∨ (c = kelvinSign ∧ lowercase c = ['k']) ∨
      lowercase c = ['i', '\u0307'] := by
  rw [lowercase, if_neg (by omega), mapCase]
  by_cases hi : c.toNat = 0x130
  · exact .inr (.inr (by rw [hi]; rfl))
  · have hl : lowerExpansions.lookup c.toNat = none := by
      simp [lowerExpansions, List.lookup_cons, beq_false_of_ne hi]
    rw [hl]
    cases hf : lowerShifts.find? (·.contains c.toNat) with
    | none => exact .inl ⟨c, rfl, h⟩
    | some shift =>
      have hc := List.find?_some hf
      rcases staysPast_of_mem_lowerShifts shift (List.mem_of_find?_eq_some hf) with
        hp | ⟨hfirst, hlast, hoffset⟩
      · exact .inl ⟨_, rfl, hp.apply hc⟩
      · simp only [Run.contains, Bool.and_eq_true, decide_eq_true_eq, hfirst, hlast] at hc
        have hk : c.toNat = 0x212A := by omega
        refine .inr (.inl ⟨Char.toNat_inj.mp hk, ?_⟩)
        simp only [Shift.apply, hk, hoffset]
        rfl

-- ---------------------------------------------------------------------------
-- Uppercase
-- ---------------------------------------------------------------------------

theorem isUpper_of_mem_upperShifts : ∀ shift ∈ upperShifts,
    shift.StaysPast ∨ (shift.first = shift.last ∧ (shift.apply shift.first).isUpper = true) := by
  decide +kernel

theorem isUpper_of_mem_upperExpansions : ∀ entry ∈ upperExpansions, ∀ code ∈ entry.2,
    (Char.ofNat code).isUpper = true ∨ 128 ≤ (Char.ofNat code).toNat := by
  decide +kernel

theorem mem_uppercase {c d : Char} (h : d ∈ uppercase c) :
    d.isUpper = true ∨ 128 ≤ d.toNat ∨ (d = c ∧ d.isLower = false) := by
  rw [uppercase] at h
  split at h
  · rename_i hc
    rw [List.mem_singleton] at h
    subst h
    have hascii := of_ascii (p := fun c => (c.toUpper.isUpper ||
      (decide (c.toUpper = c) && !c.toUpper.isLower)) = true) (by decide) hc
    simp only [Bool.or_eq_true, Bool.and_eq_true, decide_eq_true_eq, Bool.not_eq_true'] at hascii
    exact hascii.imp_right .inr
  · rename_i hc
    rw [mapCase] at h
    split at h
    · rename_i codes hcodes
      obtain ⟨code, hcode, rfl⟩ := List.mem_map.mp h
      have hentry := isUpper_of_mem_upperExpansions _ (mem_of_lookup_eq_some hcodes) code hcode
      exact hentry.imp_right .inl
    · split at h
      · rename_i shift hf
        rw [List.mem_singleton] at h
        subst h
        have hin := List.find?_some hf
        rcases isUpper_of_mem_upperShifts shift (List.mem_of_find?_eq_some hf) with
          hp | ⟨hsingle, hupper⟩
        · exact .inr (.inl (hp.apply hin))
        · simp only [Run.contains, Bool.and_eq_true, decide_eq_true_eq] at hin
          rw [show c.toNat = shift.first by omega]
          exact .inl hupper
      · rw [List.mem_singleton] at h
        subst h
        exact .inr (.inl (by omega))

theorem uppercase_ne_nil (c : Char) : uppercase c ≠ [] := by
  have hexpansions : ∀ entry ∈ upperExpansions, entry.2 ≠ [] := by decide
  rw [uppercase]
  split
  · simp
  · rw [mapCase]
    split
    · rename_i codes hcodes
      simpa using hexpansions _ (mem_of_lookup_eq_some hcodes)
    · split <;> simp

theorem not_isLower_of_mem_uppercase {c d : Char} (h : d ∈ uppercase c) : d.isLower = false := by
  rw [← Bool.not_eq_true, isLower_iff]
  rcases mem_uppercase h with hupper | hpast | ⟨-, hlower⟩
  · rw [isUpper_iff] at hupper
    omega
  · omega
  · rw [← isLower_iff, hlower]
    decide

end SchemaCompiler.Text
