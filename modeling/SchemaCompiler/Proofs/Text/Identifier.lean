import SchemaCompiler.Proofs.Text.LetterCase
import SchemaCompiler.Text.Blank
import SchemaCompiler.Text.Identifier

/-!
# Characters of identifiers

None of them is blank. The lowercase and the uppercase of such a character are such
characters again, and stand at the start of an identifier where the character itself may.
One character is an exception: the iota under a letter, whose uppercase is a letter.
-/

namespace SchemaCompiler.Text

theorem continuesIdentifier_of_startsIdentifier {c : Char} (h : startsIdentifier c = true) :
    continuesIdentifier c = true := by
  unfold startsIdentifier at h
  unfold continuesIdentifier
  split at h <;> rename_i hc
  · rw [if_pos hc, Bool.or_eq_true]
    exact (Bool.or_eq_true _ _ ▸ h).imp_left fun ha => by rw [Char.isAlphanum, ha, Bool.true_or]
  · rw [if_neg hc, h, Bool.true_or]

/-- The blanks past ASCII. -/
def blankCodes : List Nat :=
  [0x85, 0xA0, 0x1680, 0x2000, 0x2001, 0x2002, 0x2003, 0x2004, 0x2005, 0x2006, 0x2007, 0x2008,
    0x2009, 0x200A, 0x2028, 0x2029, 0x202F, 0x205F, 0x3000]

theorem mem_blankCodes {c : Char} (h : isBlank c = true) (hp : 128 ≤ c.toNat) :
    c.toNat ∈ blankCodes := by
  simp only [isBlank, Bool.or_eq_true, Bool.and_eq_true, beq_iff_eq, decide_eq_true_eq] at h
  simp only [blankCodes, List.mem_cons, List.not_mem_nil, or_false]
  omega

theorem not_isBlank_of_continuesIdentifier {c : Char} (h : continuesIdentifier c = true) :
    isBlank c = false := by
  by_cases hc : c.toNat < 128
  · exact of_ascii (p := fun c => continuesIdentifier c = true → isBlank c = false)
      (by decide) hc h
  · have hcodes : ∀ n ∈ blankCodes,
        inRuns identifierStartRuns n = false ∧ inRuns identifierExtraRuns n = false := by
      decide +kernel
    rw [← Bool.not_eq_true]
    intro hb
    obtain ⟨hs, he⟩ := hcodes _ (mem_blankCodes hb (by omega))
    simp [continuesIdentifier, hc, hs, he] at h

-- ---------------------------------------------------------------------------
-- Runs in runs
-- ---------------------------------------------------------------------------

namespace Run

theorem contains_iff {run : Run} {code : Nat} :
    run.contains code = true ↔
      run.first ≤ code ∧ code ≤ run.last ∧ (code - run.first) % run.step = 0 := by
  simp [contains, and_assoc]

/-- Every code point of the run is in one of the runs. It is enough to look at its ends if
one of them has all code points between its own. -/
def coveredBy (runs : List Run) (run : Run) : Bool :=
  runs.any (fun other =>
      other.first.ble run.first && (run.last.ble other.last && other.step.beq 1)) ||
    (List.range (run.last + 1 - run.first)).all fun i =>
      i % run.step != 0 || inRuns runs (run.first + i)

/-- No code point between the ends of the run is in one of the runs. -/
def apartFrom (runs : List Run) (run : Run) : Bool :=
  runs.all fun other => decide (other.last < run.first) || decide (run.last < other.first)

variable {runs : List Run} {run : Run} {code : Nat}

theorem inRuns_of_coveredBy (h : run.coveredBy runs = true) (hc : run.contains code = true) :
    inRuns runs code = true := by
  obtain ⟨hfirst, hlast, hstep⟩ := contains_iff.mp hc
  rw [coveredBy, Bool.or_eq_true, List.any_eq_true, List.all_eq_true] at h
  rcases h with ⟨other, hm, ho⟩ | h
  · simp only [Bool.and_eq_true, Nat.ble_eq, Nat.beq_eq] at ho
    refine List.any_eq_true.mpr ⟨other, hm, contains_iff.mpr ⟨?_, ?_, ?_⟩⟩
    · omega
    · omega
    · rw [ho.2.2, Nat.mod_one]
  · have hi := h (code - run.first) (List.mem_range.mpr (by omega))
    rw [hstep, show run.first + (code - run.first) = code by omega] at hi
    simpa using hi

theorem not_inRuns_of_apartFrom (h : run.apartFrom runs = true)
    (hc : run.contains code = true) : inRuns runs code = false := by
  obtain ⟨hfirst, hlast, -⟩ := contains_iff.mp hc
  rw [← Bool.not_eq_true]
  intro hin
  obtain ⟨other, hm, ho⟩ := List.any_eq_true.mp hin
  obtain ⟨hofirst, holast, -⟩ := contains_iff.mp ho
  have hapart := List.all_eq_true.mp h other hm
  simp only [Bool.or_eq_true, decide_eq_true_eq] at hapart
  omega

end Run

-- ---------------------------------------------------------------------------
-- Letters
-- ---------------------------------------------------------------------------

/-- The first and last code points of the blocks past ASCII that have letters in two
cases. -/
def casedBlocks : List (Nat × Nat) := [
  (0x80, 0x58F), (0x10A0, 0x10FF), (0x13A0, 0x13FF), (0x1C80, 0x2D2F), (0xA640, 0xABBF),
  (0xFB00, 0xFF5A), (0x10400, 0x105BF), (0x10C80, 0x10D85), (0x118A0, 0x118DF),
  (0x16E40, 0x16EDF), (0x1E900, 0x1E943)]

/-- The runs of letters in these blocks. -/
def casedRuns : List Run :=
  identifierStartRuns.filter fun run =>
    casedBlocks.any fun block => block.1.ble run.first && run.first.ble block.2

def letterRuns : List Run :=
  ⟨0x41, 0x5A, 1⟩ :: ⟨0x61, 0x7A, 1⟩ :: casedRuns

/-- The marks that are put on letters. -/
def markRun : Run := ⟨0x300, 0x36F, 1⟩

variable {code : Nat}

theorem inRuns_of_casedRuns (h : inRuns casedRuns code = true) :
    inRuns identifierStartRuns code = true := by
  obtain ⟨run, hm, hc⟩ := List.any_eq_true.mp h
  exact List.any_eq_true.mpr ⟨run, (List.mem_filter.mp hm).1, hc⟩

theorem past_of_mem_identifierStartRuns : ∀ run ∈ identifierStartRuns,
    128 ≤ run.first ∧ (run.last < 0xD800 ∨ (0xE000 ≤ run.first ∧ run.last < 0x110000)) := by
  decide +kernel

theorem toNat_of_inRuns (h : inRuns identifierStartRuns code = true) :
    128 ≤ code ∧ (Char.ofNat code).toNat = code := by
  obtain ⟨run, hm, hc⟩ := List.any_eq_true.mp h
  obtain ⟨hfirst, hlast, -⟩ := Run.contains_iff.mp hc
  obtain ⟨hpast, hvalid⟩ := past_of_mem_identifierStartRuns run hm
  have hcode : code.isValidChar := by
    unfold Nat.isValidChar
    omega
  refine ⟨by omega, ?_⟩
  rw [Char.ofNat, dif_pos hcode]
  rfl

theorem startsIdentifier_of_inRuns (h : inRuns letterRuns code = true) :
    startsIdentifier (.ofNat code) = true := by
  have hascii : ∀ n < 128, (0x41 ≤ n ∧ n ≤ 0x5A) ∨ (0x61 ≤ n ∧ n ≤ 0x7A) →
      startsIdentifier (.ofNat n) = true := by
    decide
  obtain ⟨run, hm, hc⟩ := List.any_eq_true.mp h
  obtain ⟨hfirst, hlast, -⟩ := Run.contains_iff.mp hc
  rcases List.mem_cons.mp hm with rfl | hm
  · exact hascii code (lt_of_le_of_lt hlast (by decide)) (.inl ⟨hfirst, hlast⟩)
  · rcases List.mem_cons.mp hm with rfl | hm
    · exact hascii code (lt_of_le_of_lt hlast (by decide)) (.inr ⟨hfirst, hlast⟩)
    · have hstart := inRuns_of_casedRuns (List.any_eq_true.mpr ⟨run, hm, hc⟩)
      obtain ⟨hpast, hcode⟩ := toNat_of_inRuns hstart
      rw [startsIdentifier, hcode, if_neg (by omega), hstart]

theorem startsIdentifier_of_casedRuns {c : Char} (h : inRuns casedRuns c.toNat = true) :
    startsIdentifier c = true := by
  have hstart := inRuns_of_casedRuns h
  rw [startsIdentifier, if_neg (by have := (toNat_of_inRuns hstart).1; omega), hstart]

theorem continuesIdentifier_of_mark (h : markRun.contains code = true) :
    continuesIdentifier (.ofNat code) = true := by
  obtain ⟨hfirst, hlast, -⟩ := Run.contains_iff.mp h
  simp only [markRun] at hfirst hlast
  have hcovered : markRun.coveredBy identifierExtraRuns = true := by decide +kernel
  have hcode : (Char.ofNat code).toNat = code := by
    rw [Char.ofNat, dif_pos (.inl (by omega))]
    rfl
  rw [continuesIdentifier, hcode, if_neg (by omega), Run.inRuns_of_coveredBy hcovered h,
    Bool.or_true]

-- ---------------------------------------------------------------------------
-- Shifts
-- ---------------------------------------------------------------------------

namespace Shift

def image (shift : Shift) : Run :=
  ⟨(shift.first + shift.offset).toNat, (shift.last + shift.offset).toNat, shift.step⟩

def keepsLetters (shift : Shift) : Bool :=
  decide (0 ≤ shift.first + shift.offset) && shift.toRun.coveredBy casedRuns &&
    shift.image.coveredBy letterRuns

/-- A run of characters that no identifier may have. -/
def isOutside (shift : Shift) : Bool :=
  shift.toRun.apartFrom identifierStartRuns && shift.toRun.apartFrom identifierExtraRuns

variable {shift : Shift} {c : Char}

theorem startsIdentifier_apply (h : shift.keepsLetters = true)
    (hc : shift.contains c.toNat = true) :
    startsIdentifier c = true ∧ startsIdentifier (shift.apply c.toNat) = true := by
  simp only [keepsLetters, Bool.and_eq_true, decide_eq_true_eq] at h
  obtain ⟨⟨hoffset, hsource⟩, himage⟩ := h
  obtain ⟨hfirst, hlast, hstep⟩ := Run.contains_iff.mp hc
  have hmoved : shift.image.contains (c.toNat + shift.offset).toNat = true := by
    have hstart : (c.toNat + shift.offset).toNat - (shift.first + shift.offset).toNat =
        c.toNat - shift.first := by
      omega
    refine Run.contains_iff.mpr ⟨?_, ?_, ?_⟩
    · simp only [image]
      omega
    · simp only [image]
      omega
    · simp only [image, hstart]
      exact hstep
  exact ⟨startsIdentifier_of_casedRuns (Run.inRuns_of_coveredBy hsource hc),
    startsIdentifier_of_inRuns (Run.inRuns_of_coveredBy himage hmoved)⟩

theorem not_continuesIdentifier (h : shift.isOutside = true) (hp : 128 ≤ c.toNat)
    (hc : shift.contains c.toNat = true) : continuesIdentifier c = false := by
  rw [isOutside, Bool.and_eq_true] at h
  rw [continuesIdentifier, if_neg (by omega), Run.not_inRuns_of_apartFrom h.1 hc,
    Run.not_inRuns_of_apartFrom h.2 hc]
  rfl

end Shift

/-- The iota under a letter, which is written as a letter in uppercase. -/
def iotaSubscript : Char := '\u0345'

theorem letters_of_mem_lowerShifts :
    ∀ shift ∈ lowerShifts, (shift.keepsLetters || shift.isOutside) = true := by
  decide +kernel

theorem letters_of_mem_upperShifts : ∀ shift ∈ upperShifts,
    (shift.keepsLetters || shift.isOutside) = true ∨
      (shift.first = 0x345 ∧ shift.last = 0x345) := by
  decide +kernel

-- ---------------------------------------------------------------------------
-- Lowercase and uppercase
-- ---------------------------------------------------------------------------

/-- The text may stand in an identifier where the character may, also at the start. A
character that may not start one stands for itself. -/
structure StandsFor (cs : List Char) (c : Char) : Prop where
  continues : ∀ d ∈ cs, continuesIdentifier d = true
  starts : startsIdentifier c = true → cs.head?.any startsIdentifier = true
  fixed : startsIdentifier c = false → cs = [c]

section

variable {c : Char}

theorem standsFor_self (h : continuesIdentifier c = true) : StandsFor [c] c :=
  ⟨by simp [h], by simp, fun _ => rfl⟩

/-- Expansions of letters into a letter and what may follow it. -/
def keepLetters (expansions : List (Nat × List Nat)) : Bool :=
  expansions.all fun (code, codes) =>
    inRuns casedRuns code && (codes.head?.any (inRuns letterRuns) &&
      codes.all fun code => inRuns letterRuns code || markRun.contains code)

theorem standsFor_mapCase {shifts : List Shift} {expansions : List (Nat × List Nat)}
    (hp : 128 ≤ c.toNat) (h : continuesIdentifier c = true)
    (hs : ∀ shift ∈ shifts, shift.contains c.toNat = true →
      (shift.keepsLetters || shift.isOutside) = true)
    (he : keepLetters expansions = true) : StandsFor (mapCase shifts expansions c) c := by
  rw [mapCase]
  split
  · rename_i codes hcodes
    have hentry := List.all_eq_true.mp he _ (mem_of_lookup_eq_some hcodes)
    simp only [Bool.and_eq_true, List.all_eq_true, Bool.or_eq_true, Option.any_eq_true] at hentry
    obtain ⟨hcased, ⟨first, hfirst, hletter⟩, hall⟩ := hentry
    constructor
    case continues =>
      intro d hd
      obtain ⟨code, hcode, rfl⟩ := List.mem_map.mp hd
      rcases hall code hcode with hc | hc
      · exact continuesIdentifier_of_startsIdentifier (startsIdentifier_of_inRuns hc)
      · exact continuesIdentifier_of_mark hc
    case starts =>
      intro _
      rw [List.head?_map, hfirst, Option.map_some, Option.any_some,
        startsIdentifier_of_inRuns hletter]
    case fixed =>
      intro hn
      rw [startsIdentifier_of_casedRuns hcased] at hn
      cases hn
  · split
    · rename_i shift hf
      have hc := List.find?_some hf
      have hkind := hs shift (List.mem_of_find?_eq_some hf) hc
      rw [Bool.or_eq_true] at hkind
      rcases hkind with hkeeps | hout
      · obtain ⟨hstart, hmoved⟩ := Shift.startsIdentifier_apply hkeeps hc
        refine ⟨?_, by simp [hmoved], by simp [hstart]⟩
        simpa using continuesIdentifier_of_startsIdentifier hmoved
      · rw [Shift.not_continuesIdentifier hout hp hc] at h
        cases h
    · exact standsFor_self h

/-- In ASCII the other case of a letter is a letter, and nothing else has another case. -/
theorem standsFor_ascii (hc : c.toNat < 128) (h : continuesIdentifier c = true) :
    StandsFor [c.toLower] c ∧ StandsFor [c.toUpper] c := by
  by_cases hs : startsIdentifier c = true
  · have hascii := of_ascii (p := fun c => startsIdentifier c = true →
      startsIdentifier c.toLower = true ∧ startsIdentifier c.toUpper = true) (by decide) hc hs
    obtain ⟨hl, hu⟩ := hascii
    have hcl := continuesIdentifier_of_startsIdentifier hl
    have hcu := continuesIdentifier_of_startsIdentifier hu
    exact ⟨⟨by simp [hcl], by simp [hl], by simp [hs]⟩, ⟨by simp [hcu], by simp [hu], by simp [hs]⟩⟩
  · have hascii := of_ascii (p := fun c => ¬ startsIdentifier c = true →
      c.toLower = c ∧ c.toUpper = c) (by decide) hc hs
    rw [hascii.1, hascii.2]
    exact ⟨standsFor_self h, standsFor_self h⟩

theorem standsFor_lowercase (h : continuesIdentifier c = true) : StandsFor (lowercase c) c := by
  rw [lowercase]
  split
  · exact (standsFor_ascii ‹_› h).1
  · refine standsFor_mapCase (by omega) h ?_ (by decide +kernel)
    intro shift hm _
    exact letters_of_mem_lowerShifts shift hm

theorem standsFor_uppercase (h : continuesIdentifier c = true) (hi : c ≠ iotaSubscript) :
    StandsFor (uppercase c) c := by
  rw [uppercase]
  split
  · exact (standsFor_ascii ‹_› h).2
  · refine standsFor_mapCase (by omega) h ?_ (by decide +kernel)
    intro shift hm hc
    refine (letters_of_mem_upperShifts shift hm).resolve_right ?_
    rintro ⟨hfirst, hlast⟩
    obtain ⟨hge, hle, -⟩ := Run.contains_iff.mp hc
    have hcode : c.toNat = iotaSubscript.toNat := by
      rw [show iotaSubscript.toNat = 0x345 from rfl]
      omega
    exact hi (Char.toNat_inj.mp hcode)

theorem uppercase_iotaSubscript : uppercase iotaSubscript = ['\u0399'] := by decide +kernel

theorem continuesIdentifier_of_mem_uppercase (h : continuesIdentifier c = true) {d : Char}
    (hd : d ∈ uppercase c) : continuesIdentifier d = true := by
  by_cases hi : c = iotaSubscript
  · rw [hi, uppercase_iotaSubscript] at hd
    have hiota : ['\u0399'].all continuesIdentifier = true := by decide +kernel
    exact List.all_eq_true.mp hiota d hd
  · exact (standsFor_uppercase h hi).continues d hd

end

end SchemaCompiler.Text
