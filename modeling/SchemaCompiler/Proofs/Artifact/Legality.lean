import SchemaCompiler.Proofs.Naming.Spelling
import SchemaCompiler.Source.Token

/-!
# Legal names

Which texts are names of the generated language, and for which names of entities, columns
and relations the texts made from them are.
-/

namespace SchemaCompiler

open Text Naming Code

-- ---------------------------------------------------------------------------
-- Names of the generated language
-- ---------------------------------------------------------------------------

/-- The words that the generated language reserves, those of its latest edition too. -/
def reservedWords : List String := "gen" :: Source.keywords

/-- The reserved words that have no raw form. -/
def pathWords : List String := ["_", "crate", "self", "super", "Self"]

/-- A character that starts an identifier, then characters that continue it. -/
def isPlainName (cs : List Char) : Bool :=
  cs.head?.any startsIdentifier && cs.all continuesIdentifier

/-- An identifier that is not reserved, or the raw form of a reserved word. -/
def isLegalName (name : String) : Bool :=
  (isPlainName name.toList && !reservedWords.contains name) ||
    (reservedWords.filter (!pathWords.contains ·)).any fun word => name == "r#" ++ word

section

variable {name : String}

theorem isPlainName_iff {cs : List Char} :
    isPlainName cs = true ↔
      cs.head?.any startsIdentifier = true ∧ ∀ c ∈ cs, continuesIdentifier c = true := by
  rw [isPlainName, Bool.and_eq_true, List.all_eq_true]

theorem isLegalName_iff :
    isLegalName name = true ↔
      (isPlainName name.toList = true ∧ name ∉ reservedWords) ∨
        ∃ word ∈ reservedWords, word ∉ pathWords ∧ name = "r#" ++ word := by
  simp [isLegalName]

theorem mark_notMem_of_isPlainName {cs : List Char} (h : isPlainName cs = true) : '#' ∉ cs := by
  intro hm
  exact absurd ((isPlainName_iff.mp h).2 _ hm) (by decide)

theorem isLegalName_of_unmarked (h : '#' ∉ name.toList) :
    isLegalName name = true ↔ isPlainName name.toList = true ∧ name ∉ reservedWords := by
  rw [isLegalName_iff, or_iff_left]
  rintro ⟨word, -, -, rfl⟩
  simp at h

theorem isLegalName_raw : isLegalName ("r#" ++ name) = true ↔
    name ∈ reservedWords ∧ name ∉ pathWords := by
  rw [isLegalName_iff, or_iff_right]
  · constructor
    · rintro ⟨word, hw, hp, he⟩
      rw [String.append_right_inj] at he
      exact he ▸ ⟨hw, hp⟩
    · rintro ⟨hw, hp⟩
      exact ⟨name, hw, hp, rfl⟩
  · rintro ⟨hplain, -⟩
    exact mark_notMem_of_isPlainName hplain (by simp)

/-- A name without lowercase letters of ASCII is legal if it is plain. Every reserved word
but the underscore has one. -/
theorem isLegalName_of_shouted (h : ∀ c ∈ name.toList, c.isLower = false) (hu : name ≠ "_") :
    isLegalName name = true ↔ isPlainName name.toList = true := by
  have hreserved : name ∉ reservedWords := by
    have hlower : ∀ word ∈ reservedWords, word = "_" ∨ word.toList.any Char.isLower = true := by
      decide
    intro hm
    obtain ⟨c, hc, hl⟩ := List.any_eq_true.mp ((hlower name hm).resolve_left hu)
    rw [h c hc] at hl
    cases hl
  rw [isLegalName_iff, or_iff_left, and_iff_left hreserved]
  rintro ⟨word, -, -, rfl⟩
  exact absurd (h 'r' (by simp)) (by decide)

theorem isPlainName_append {cs more : List Char} (h : isPlainName cs = true)
    (hm : more.all continuesIdentifier = true) : isPlainName (cs ++ more) = true := by
  obtain ⟨hstarts, hcontinues⟩ := isPlainName_iff.mp h
  obtain ⟨c, hc, hs⟩ := (Option.any_eq_true _ _).mp hstarts
  refine isPlainName_iff.mpr ⟨?_, ?_⟩
  · rw [List.head?_append, hc]
    exact hs
  · intro d hd
    exact (List.mem_append.mp hd).elim (hcontinues d) (List.all_eq_true.mp hm d)

/-- What may stand at the end of an identifier and is the end of no reserved word, with its
mark or without. -/
def isEnding (text : String) : Bool :=
  text.toList.all continuesIdentifier &&
    reservedWords.all fun word => !text.toList.isSuffixOf ("r#" ++ word).toList

theorem isEnding_iff {text : String} :
    isEnding text = true ↔ text.toList.all continuesIdentifier = true ∧
      ∀ word ∈ reservedWords, ¬ text.toList <:+ ("r#" ++ word).toList := by
  simp [isEnding, ← List.isSuffixOf_iff_suffix]

theorem isLegalName_append_iff {ending : String} (h : isEnding ending = true) :
    isLegalName (name ++ ending) = true ↔ isPlainName (name.toList ++ ending.toList) = true := by
  have hno := (isEnding_iff.mp h).2
  have hsuffix : ending.toList <:+ (name ++ ending).toList := by
    rw [String.toList_append]
    exact List.suffix_append _ _
  have hreserved : name ++ ending ∉ reservedWords := by
    intro hm
    refine hno _ hm (hsuffix.trans ?_)
    rw [String.toList_append (s := "r#")]
    exact List.suffix_append _ _
  rw [isLegalName_iff, String.toList_append, or_iff_left, and_iff_left hreserved]
  rintro ⟨word, hw, -, he⟩
  exact hno word hw (he ▸ hsuffix)

theorem isLegalName_append {ending : String} (h : isEnding ending = true)
    (hn : isPlainName name.toList = true) : isLegalName (name ++ ending) = true :=
  (isLegalName_append_iff h).mpr (isPlainName_append hn (isEnding_iff.mp h).1)

end

-- ---------------------------------------------------------------------------
-- Modules and types
-- ---------------------------------------------------------------------------

/-- A name whose modules and types are legal. It is not raw, starts an identifier once its
underscores are taken away, and is not one of the words of paths in snake case. -/
structure NamesModule (name : String) : Prop where
  unmarked : '#' ∉ name.toList
  starts : (initial? name).any startsIdentifier = true
  path : snake name ∉ ["crate", "self", "super"]

instance (name : String) : Decidable (NamesModule name) :=
  decidable_of_iff ('#' ∉ name.toList ∧ (initial? name).any startsIdentifier = true ∧
      snake name ∉ ["crate", "self", "super"])
    ⟨fun ⟨hu, hs, hp⟩ => ⟨hu, hs, hp⟩, fun h => ⟨h.unmarked, h.starts, h.path⟩⟩

section

variable {name : String}

theorem isPlainName_snake_iff (hs : Spelled name.toList) (hm : '#' ∉ name.toList) :
    isPlainName (snake name).toList = true ↔ (initial? name).any startsIdentifier = true := by
  rw [isPlainName_iff, hs.starts_snake]
  exact and_iff_left (hs.continues_snake hm)

theorem snake_ne_underscore (hs : Spelled name.toList) : snake name ≠ "_" := by
  intro he
  cases hi : initial? name with
  | none =>
    have hnil := hs.snake_eq_nil hi
    rw [he] at hnil
    exact absurd hnil (by decide)
  | some c =>
    obtain ⟨d, rest, hsnake, hne, -⟩ := hs.snake_eq_cons hi
    rw [he] at hsnake
    exact hne (List.cons.inj hsnake).1.symm

theorem snake_mem_reservedWords_iff (hs : Spelled name.toList) :
    snake name ∈ reservedWords ↔ snake name ∈ keywords := by
  have hsplit : ∀ word ∈ reservedWords, word ∈ keywords ∨ word = "_" ∨ word = "Self" := by decide
  have hself : snake name ≠ "Self" := by
    intro he
    have hcapital : 'S' ∈ (snake name).toList := by simp [he]
    exact absurd (not_isUpper_of_mem_snake hcapital) (by decide)
  constructor
  · intro h
    exact (hsplit _ h).resolve_right (not_or.mpr ⟨snake_ne_underscore hs, hself⟩)
  · have hkeywords : ∀ word ∈ keywords, word ∈ reservedWords := by decide
    exact hkeywords _

theorem isLegalName_identifier_iff (hs : Spelled name.toList) (hm : '#' ∉ name.toList) :
    isLegalName (identifier (snake name)) = true ↔
      (initial? name).any startsIdentifier = true ∧ snake name ∉ ["crate", "self", "super"] := by
  rw [identifier]
  by_cases hk : snake name ∈ keywords
  · have hword : ∀ word ∈ keywords, isPlainName word.toList = true ∧
        (word ∈ pathWords ↔ word ∈ ["crate", "self", "super"]) := by decide
    obtain ⟨hplain, hpath⟩ := hword _ hk
    rw [if_pos (List.contains_iff_mem.mpr hk), isLegalName_raw, hpath,
      and_iff_right ((snake_mem_reservedWords_iff hs).mpr hk),
      and_iff_right ((isPlainName_snake_iff hs hm).mp hplain)]
  · have hpath : snake name ∉ ["crate", "self", "super"] := by
      have hkeywords : ∀ word ∈ ["crate", "self", "super"], word ∈ keywords := by decide
      exact fun hp => hk (hkeywords _ hp)
    rw [if_neg (List.contains_iff_mem.not.mpr hk),
      isLegalName_of_unmarked (mark_mem_snake_iff.not.mpr hm), isPlainName_snake_iff hs hm,
      and_iff_left ((snake_mem_reservedWords_iff hs).not.mpr hk), and_iff_left hpath]

theorem isPlainName_pascal (hs : Spelled name.toList) (hm : '#' ∉ name.toList)
    (h : (initial? name).any startsIdentifier = true) :
    isPlainName (pascal name).toList = true := by
  refine isPlainName_iff.mpr ⟨?_, hs.continues_pascal hm⟩
  obtain ⟨c, hi, hc⟩ := (Option.any_eq_true _ _).mp h
  obtain ⟨d, rest, hsnake, hne, ⟨-, hd⟩ | ⟨hn, -⟩⟩ := hs.snake_eq_cons hi
  · obtain ⟨more, hpascal⟩ := pascal_eq_append hsnake hne
    have hiota : d ≠ iotaSubscript := by
      rintro rfl
      exact absurd hd (by decide +kernel)
    have hstands := standsFor_uppercase (continuesIdentifier_of_startsIdentifier hd) hiota
    obtain ⟨u, others, hu⟩ := List.exists_cons_of_ne_nil (uppercase_ne_nil d)
    have hstarts := hstands.starts hd
    rw [hu] at hstarts
    simpa [hpascal, hu] using hstarts
  · rw [hc] at hn
    cases hn

/-- A raw name makes types that are not legal. -/
theorem unmarked_of_isLegalName_type {ending : String} (he : isEnding ending = true)
    (h : isLegalName (pascal name ++ ending) = true) : '#' ∉ name.toList := by
  intro hm
  refine mark_notMem_of_isPlainName ((isLegalName_append_iff he).mp h) ?_
  exact List.mem_append_left _ (mark_mem_pascal hm)

namespace NamesModule

theorem isLegalName_identifier (h : NamesModule name) (hs : Spelled name.toList) :
    isLegalName (identifier (snake name)) = true :=
  (isLegalName_identifier_iff hs h.unmarked).mpr ⟨h.starts, h.path⟩

theorem isLegalName_file (h : NamesModule name) (hs : Spelled name.toList) {ending : String}
    (he : isEnding ending = true) : isLegalName (snake name ++ ending) = true :=
  isLegalName_append he ((isPlainName_snake_iff hs h.unmarked).mpr h.starts)

theorem isLegalName_type (h : NamesModule name) (hs : Spelled name.toList) {ending : String}
    (he : isEnding ending = true) : isLegalName (pascal name ++ ending) = true :=
  isLegalName_append he (isPlainName_pascal hs h.unmarked h.starts)

end NamesModule

end

-- ---------------------------------------------------------------------------
-- Constants
-- ---------------------------------------------------------------------------

/-- A name whose constants are legal. It is not raw and begins a constant once its
underscores are taken away. -/
structure NamesConstant (name : String) : Prop where
  unmarked : '#' ∉ name.toList
  begins : (initial? name).any beginsConstant = true

instance (name : String) : Decidable (NamesConstant name) :=
  decidable_of_iff ('#' ∉ name.toList ∧ (initial? name).any beginsConstant = true)
    ⟨fun ⟨hu, hb⟩ => ⟨hu, hb⟩, fun h => ⟨h.unmarked, h.begins⟩⟩

section

variable {name : String}

theorem isPlainName_constantName_iff (hs : Spelled name.toList) :
    isPlainName (constantName name).toList = true ↔ NamesConstant name := by
  rw [isPlainName_iff, hs.starts_constantName]
  constructor
  · rintro ⟨hbegins, hcontinues⟩
    refine ⟨?_, hbegins⟩
    intro hm
    exact absurd (hcontinues _ (mark_mem_constantName hm)) (by decide)
  · intro h
    exact ⟨h.begins, hs.continues_constantName h.unmarked⟩

theorem isLegalName_constantName_iff (hs : Spelled name.toList) :
    isLegalName (constantName name) = true ↔ NamesConstant name := by
  rw [isLegalName_of_shouted (fun _ => not_isLower_of_mem_constantName)
    hs.constantName_ne_underscore, isPlainName_constantName_iff hs]

/-- What stands before or after a constant in the names made from it. -/
def isShouted (text : String) : Bool :=
  text.toList.all fun c => continuesIdentifier c && !c.isLower

theorem isShouted_iff {text : String} :
    isShouted text = true ↔
      ∀ c ∈ text.toList, continuesIdentifier c = true ∧ c.isLower = false := by
  simp [isShouted]

theorem isLegalName_append_of_shouted {first second : String}
    (hp : isPlainName first.toList = true) (hf : ∀ c ∈ first.toList, c.isLower = false)
    (hs : isShouted second = true) (hn : second ≠ "") : isLegalName (first ++ second) = true := by
  have hsecond := isShouted_iff.mp hs
  have hshouted : ∀ c ∈ (first ++ second).toList, c.isLower = false := by
    intro c hc
    rw [String.toList_append, List.mem_append] at hc
    exact hc.elim (hf c) fun hc => (hsecond c hc).2
  have hunderscore : first ++ second ≠ "_" := by
    intro he
    have hlist : first.toList ++ second.toList = ['_'] := by
      rw [← String.toList_append, he]
      rfl
    rcases List.append_eq_singleton_iff.mp hlist with ⟨hnil, -⟩ | ⟨-, hnil⟩
    · rw [hnil] at hp
      cases hp
    · exact hn (String.toList_eq_nil_iff.mp hnil)
  rw [isLegalName_of_shouted hshouted hunderscore, String.toList_append]
  exact isPlainName_append hp (List.all_eq_true.mpr fun c hc => (hsecond c hc).1)

theorem NamesConstant.isLegalName_append (h : NamesConstant name) (hs : Spelled name.toList)
    {ending : String} (he : isShouted ending = true) (hn : ending ≠ "") :
    isLegalName (constantName name ++ ending) = true :=
  isLegalName_append_of_shouted ((isPlainName_constantName_iff hs).mpr h)
    (fun _ => not_isLower_of_mem_constantName) he hn

theorem NamesConstant.isLegalName_prepend (h : NamesConstant name) (hs : Spelled name.toList)
    {start : String} (hp : isPlainName start.toList = true) (hstart : isShouted start = true) :
    isLegalName (start ++ constantName name) = true := by
  have hplain := (isPlainName_constantName_iff hs).mpr h
  have hshouted : isShouted (constantName name) = true := by
    rw [isShouted_iff]
    intro c hc
    exact ⟨(isPlainName_iff.mp hplain).2 c hc, not_isLower_of_mem_constantName hc⟩
  refine isLegalName_append_of_shouted hp (fun c hc => (isShouted_iff.mp hstart c hc).2) hshouted ?_
  intro he
  rw [he] at hplain
  cases hplain

end

end SchemaCompiler
