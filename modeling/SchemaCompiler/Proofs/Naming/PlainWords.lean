import SchemaCompiler.Proofs.Naming.SnakeForm
import SchemaCompiler.Proofs.Text.Split

/-!
# Names of plain words

A name made of plain words, each of two or more lowercase letters, is spelled in two ways:
the words joined by underscores, or written together with a capital each. Snake case and
Pascal case turn the one spelling into the other, unless the second one is a compound term.
-/

namespace SchemaCompiler.Naming

open Text

/-- Two or more lowercase letters. Capitals of shorter words would run together. -/
def IsPlainWord (word : String) : Prop :=
  2 ≤ word.length ∧ ∀ c ∈ word.toList, c.isLower = true

instance (word : String) : Decidable (IsPlainWord word) :=
  decidable_of_iff (2 ≤ word.length ∧ word.toList.all Char.isLower = true) (by simp [IsPlainWord])

def underscored (words : List String) : String :=
  join "_" words

/-- The words written together, each with a capital. -/
def titled (words : List String) : String :=
  .ofList (words.flatMap fun word => word.toList.modifyHead Char.toUpper)

-- ---------------------------------------------------------------------------
-- Letters
-- ---------------------------------------------------------------------------

theorem ascii_of_isLower {c : Char} (h : c.isLower = true) : c.toNat < 128 := by
  have hrange := isLower_iff.mp h
  omega

theorem letter_ascii {c : Char} (h : c.isLower = true) :
    isSeparator c = false ∧ isUppercase c = false ∧ c.isDigit = false ∧
      uppercase c = [c.toUpper] :=
  of_ascii (p := fun c => c.isLower = true → isSeparator c = false ∧ isUppercase c = false ∧
    c.isDigit = false ∧ uppercase c = [c.toUpper]) (by decide) (ascii_of_isLower h) h

theorem capital_ascii {c : Char} (h : c.isLower = true) :
    isSeparator c.toUpper = false ∧ isUppercase c.toUpper = true ∧
      c.toUpper.isDigit = false ∧ loweredCapital c.toUpper = [c] ∧ c.toUpper.toNat < 128 :=
  of_ascii (p := fun c => c.isLower = true → isSeparator c.toUpper = false ∧
    isUppercase c.toUpper = true ∧ c.toUpper.isDigit = false ∧ loweredCapital c.toUpper = [c] ∧
      c.toUpper.toNat < 128) (by decide) (ascii_of_isLower h) h

-- ---------------------------------------------------------------------------
-- Words
-- ---------------------------------------------------------------------------

variable {word : String} {words : List String}

theorem IsPlainWord.toList_eq_cons (h : IsPlainWord word) :
    ∃ c d rest, word.toList = c :: d :: rest ∧ c.isLower = true ∧
      ∀ e ∈ d :: rest, e.isLower = true := by
  obtain ⟨hlength, hletters⟩ := h
  rw [← String.length_toList] at hlength
  match hw : word.toList, hlength with
  | c :: d :: rest, _ =>
    rw [hw, List.forall_mem_cons] at hletters
    exact ⟨c, d, rest, rfl, hletters⟩

theorem IsPlainWord.underscore_notMem (h : IsPlainWord word) : '_' ∉ word.toList := by
  intro hm
  exact absurd (h.2 '_' hm) (by decide)

theorem IsPlainWord.capitalize_toList (h : IsPlainWord word) :
    capitalize word.toList = word.toList.modifyHead Char.toUpper := by
  obtain ⟨c, d, rest, hw, hc, -⟩ := h.toList_eq_cons
  obtain ⟨-, -, -, hupper⟩ := letter_ascii hc
  rw [hw, capitalize, hupper]
  rfl

theorem titled_ascii (h : ∀ word ∈ words, IsPlainWord word) :
    ∀ c ∈ (titled words).toList, c.toNat < 128 := by
  rw [titled, String.toList_ofList]
  intro e he
  obtain ⟨word, hword, he⟩ := List.mem_flatMap.mp he
  obtain ⟨c, d, rest, hw, hc, hrest⟩ := (h word hword).toList_eq_cons
  rw [hw, List.modifyHead_cons] at he
  rcases List.mem_cons.mp he with rfl | he
  · exact (capital_ascii hc).2.2.2.2
  · exact ascii_of_isLower (hrest e he)

theorem toList_underscored (first : String) (rest : List String) :
    (underscored (first :: rest)).toList =
      first.toList ++ rest.flatMap fun word => '_' :: word.toList := by
  induction rest generalizing first with
  | nil => simp [underscored, join]
  | cons second rest ih =>
    have hjoin : underscored (first :: second :: rest) =
        first ++ "_" ++ underscored (second :: rest) := rfl
    simp [hjoin, ih]

theorem pieces_underscored {first : String} {rest : List String} (hfirst : IsPlainWord first)
    (hrest : ∀ word ∈ rest, IsPlainWord word) :
    pieces '_' (underscored (first :: rest)).toList = (first :: rest).map (·.toList) := by
  rw [toList_underscored]
  induction rest generalizing first with
  | nil => simp [pieces_eq_singleton hfirst.underscore_notMem]
  | cons second rest ih =>
    obtain ⟨hsecond, hrest⟩ := List.forall_mem_cons.mp hrest
    rw [List.flatMap_cons, List.cons_append, pieces_append_cons,
      pieces_eq_singleton hfirst.underscore_notMem, ih hsecond hrest]
    rfl

-- ---------------------------------------------------------------------------
-- Snake case
-- ---------------------------------------------------------------------------

theorem snakeFrom_letters {p : Char} {cs : List Char} (hp : p.isDigit = false)
    (h : ∀ c ∈ cs, c.isLower = true) (rest : List Char) :
    snakeFrom (some p) true false (cs ++ rest) =
      cs ++ snakeFrom (some (cs.getLastD p)) true false rest := by
  induction cs generalizing p with
  | nil => rfl
  | cons c more ih =>
    obtain ⟨hc, hmore⟩ := List.forall_mem_cons.mp h
    obtain ⟨hs, hcapital, hdigit, -⟩ := letter_ascii hc
    have hword : startsWord p c (more ++ rest) = false := by simp [startsWord, hcapital, hp]
    have hletter : snakeFrom (some p) true false (c :: (more ++ rest)) =
        c :: snakeFrom (some c) true false (more ++ rest) := by
      simp [snakeFrom, hs, hword, loweredCapital, hcapital]
    rw [List.cons_append, hletter, ih hdigit hmore, List.getLastD_cons, List.cons_append]

theorem snakeFrom_word {c d : Char} {more : List Char} (hc : c.isLower = true)
    (hmore : ∀ e ∈ d :: more, e.isLower = true) :
    ∃ last, last.isLower = true ∧ ∀ rest,
      snakeFrom (some c.toUpper) true false (d :: more ++ rest) =
        d :: more ++ snakeFrom (some last) true false rest := by
  obtain ⟨-, -, hdigit, -⟩ := capital_ascii hc
  refine ⟨(d :: more).getLastD c.toUpper, ?_, snakeFrom_letters hdigit hmore⟩
  rw [List.getLastD_eq_getLast?, List.getLast?_eq_some_getLast (List.cons_ne_nil d more)]
  exact hmore _ (List.getLast_mem (List.cons_ne_nil d more))

theorem snakeFrom_capitals {p : Char} (hp : p.isLower = true)
    (h : ∀ word ∈ words, IsPlainWord word) :
    snakeFrom (some p) true false
        (words.flatMap fun word => word.toList.modifyHead Char.toUpper) =
      words.flatMap fun word => '_' :: word.toList := by
  induction words generalizing p with
  | nil => rfl
  | cons word rest ih =>
    obtain ⟨hword, hrest⟩ := List.forall_mem_cons.mp h
    obtain ⟨c, d, more, hw, hc, hmore⟩ := hword.toList_eq_cons
    obtain ⟨last, hlast, hletters⟩ := snakeFrom_word hc hmore
    obtain ⟨hs, hcapital, -, hlowered, -⟩ := capital_ascii hc
    have hstarts (cs : List Char) : startsWord p c.toUpper cs = true := by
      simp [startsWord, hcapital, isLowercase_of_isLower hp]
    rw [List.flatMap_cons, List.flatMap_cons, hw, List.modifyHead_cons, List.cons_append,
      snakeFrom, hs, hlowered, hletters, ih hlast hrest]
    simp [hstarts]

theorem snake_titled (h : ∀ word ∈ words, IsPlainWord word)
    (hterm : compoundTerms.lookup (titled words) = none) :
    snake (titled words) = underscored words := by
  rw [snake, hterm, titled, String.toList_ofList, ← String.toList_inj, String.toList_ofList]
  cases words with
  | nil => rfl
  | cons first rest =>
    obtain ⟨hfirst, hrest⟩ := List.forall_mem_cons.mp h
    obtain ⟨c, d, more, hw, hc, hmore⟩ := hfirst.toList_eq_cons
    obtain ⟨last, hlast, hletters⟩ := snakeFrom_word hc hmore
    obtain ⟨hs, -, -, hlowered, -⟩ := capital_ascii hc
    rw [List.flatMap_cons, toList_underscored, hw, List.modifyHead_cons, List.cons_append,
      snakeFrom, hs, hlowered, hletters, snakeFrom_capitals hlast hrest]
    rfl

-- ---------------------------------------------------------------------------
-- Pascal case
-- ---------------------------------------------------------------------------

theorem pascal_underscored (h : ∀ word ∈ words, IsPlainWord word)
    (hsnake : snake (underscored words) = underscored words) :
    pascal (underscored words) = titled words := by
  rw [pascal, Naming.words, hsnake]
  cases words with
  | nil => rfl
  | cons first rest =>
    obtain ⟨hfirst, hrest⟩ := List.forall_mem_cons.mp h
    have hwords : ((first :: rest).map (·.toList)).filter (!·.isEmpty) =
        (first :: rest).map (·.toList) := by
      refine List.filter_eq_self.mpr fun cs hcs => ?_
      obtain ⟨word, hword, rfl⟩ := List.mem_map.mp hcs
      obtain ⟨c, d, more, hw, -⟩ := (h word hword).toList_eq_cons
      simp [hw]
    rw [pieces_underscored hfirst hrest, hwords, List.flatMap_map, titled]
    congr 1
    exact List.flatMap_congr fun word hword => (h word hword).capitalize_toList

/-- Snake case and Pascal case are inverse to each other on names of plain words that are no
compound terms. -/
theorem snake_pascal_inverse (h : ∀ word ∈ words, IsPlainWord word)
    (hterm : titled words ∉ compoundTerms.map (·.1)) :
    snake (titled words) = underscored words ∧ pascal (underscored words) = titled words ∧
      pascal (snake (titled words)) = titled words ∧
      snake (pascal (underscored words)) = underscored words := by
  have hlookup : compoundTerms.lookup (titled words) = none := by
    rw [List.lookup_eq_none_iff]
    intro term hm
    rw [bne_iff_ne]
    intro he
    exact hterm (he ▸ List.mem_map_of_mem hm)
  have hsnake : snake (titled words) = underscored words := snake_titled h hlookup
  have hagain := snake_snake_of_lookup (titled_ascii h) hlookup
  rw [hsnake] at hagain
  have hpascal : pascal (underscored words) = titled words := pascal_underscored h hagain
  exact ⟨hsnake, hpascal, hsnake ▸ hpascal, hpascal ▸ hsnake⟩

theorem snake_pascal_customerAddressBook :
    (∀ word ∈ ["customer", "address", "book"], IsPlainWord word) ∧
      titled ["customer", "address", "book"] ∉ compoundTerms.map (·.1) ∧
      snake "CustomerAddressBook" = "customer_address_book" ∧
      pascal "customer_address_book" = "CustomerAddressBook" := by
  have hplain : ∀ word ∈ ["customer", "address", "book"], IsPlainWord word := by decide
  have hterm : titled ["customer", "address", "book"] ∉ compoundTerms.map (·.1) := by decide
  obtain ⟨hsnake, hpascal, -⟩ := snake_pascal_inverse hplain hterm
  exact ⟨hplain, hterm, hsnake, hpascal⟩

-- A compound term has a snake case of its own.
example : snake (titled ["java", "script"]) = "javascript" := by decide

end SchemaCompiler.Naming
