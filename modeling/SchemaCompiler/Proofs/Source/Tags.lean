import SchemaCompiler.Proofs.Sequence
import SchemaCompiler.Proofs.Text.Split
import SchemaCompiler.Source.Declarations

/-!
# Tags among attributes

A tag can be read if each of its attributes is written as a text, and no tag but that of
attributes is given twice. The texts of attribute tags add up.
-/

namespace SchemaCompiler.Source

variable {tag : Tag} {attributes : List Attribute} {held result : Option String} {text : String}

-- ---------------------------------------------------------------------------
-- Texts
-- ---------------------------------------------------------------------------

/-- Why a tag among attributes cannot be read. -/
inductive Tag.Malformed (tag : Tag) (attributes : List Attribute) : Prop
  | notText {a : Attribute} (hm : a ∈ attributes) (hp : a.path = tag.name)
      (hf : ∀ text, a.form ≠ .text text)
  | repeated (ht : tag ≠ .attributes) (hn : 1 < attributes.countP (·.path = tag.name))

def Tag.texts (tag : Tag) (attributes : List Attribute) : List String :=
  (attributes.filter (·.path = tag.name)).filterMap (·.form.tagText.toOption)

def joined (texts : List String) : Option String :=
  if texts.isEmpty then none else some (Text.join ";" texts)

theorem joined_toList_append (before after : List String) :
    joined ((joined before).toList ++ after) = joined (before ++ after) := by
  cases before with
  | nil => rfl
  | cons first rest => simpa [joined] using Text.join_join ";" first rest after

theorem AttributeForm.tagText_ok_iff {form : AttributeForm} :
    form.tagText = .ok text ↔ form = .text text := by
  cases form <;> simp [tagText]

theorem Tag.add_ok_iff : tag.add held text = .ok result ↔
    (tag ≠ .attributes → held = none) ∧ result = joined (held.toList ++ [text]) := by
  cases held with
  | none => simp [add, joined, Text.join, eq_comm]
  | some before =>
    by_cases ht : tag = .attributes
    · simp [add, ht, joined, Text.join, String.append_assoc, eq_comm]
    · simp [add, ht]

-- ---------------------------------------------------------------------------
-- Reading
-- ---------------------------------------------------------------------------

theorem Tag.texts_cons_of_ne {first : Attribute} {rest : List Attribute}
    (hp : first.path ≠ tag.name) : tag.texts (first :: rest) = tag.texts rest := by
  simp [texts, hp]

theorem Tag.texts_cons_of_text {first : Attribute} {rest : List Attribute}
    (hp : first.path = tag.name) (hf : first.form = .text text) :
    tag.texts (first :: rest) = text :: tag.texts rest := by
  simp [texts, hp, hf, AttributeForm.tagText, Except.toOption]

/-- With a text held already, a tag is read as if that stood before the others. -/
theorem Tag.readFrom_ok_iff : tag.readFrom held attributes = .ok result ↔
    (∀ a ∈ attributes, a.path = tag.name → ∃ text, a.form = .text text) ∧
      (tag ≠ .attributes → held.toList.length + attributes.countP (·.path = tag.name) ≤ 1) ∧
      result = joined (held.toList ++ tag.texts attributes) := by
  induction attributes generalizing held with
  | nil => cases held <;> simp [readFrom, texts, joined, Text.join, eq_comm]
  | cons first rest ih =>
    by_cases hp : first.path = tag.name
    · have hcountP : (first :: rest).countP (·.path = tag.name) =
          rest.countP (·.path = tag.name) + 1 := List.countP_cons_of_pos (by simpa using hp)
      have hone (text : String) : (joined (held.toList ++ [text])).toList.length = 1 := by
        simp [joined]
      rw [readFrom, if_pos hp]
      simp only [bind_ok_iff, AttributeForm.tagText_ok_iff, add_ok_iff, ih, hcountP]
      constructor
      · rintro ⟨text, hform, next, ⟨hheld, rfl⟩, hforms, hcount, rfl⟩
        refine ⟨List.forall_mem_cons.mpr ⟨fun _ => ⟨text, hform⟩, hforms⟩, fun ht => ?_, ?_⟩
        · have hless := hcount ht
          rw [hone] at hless
          simp only [hheld ht, Option.toList_none, List.length_nil]
          omega
        · rw [joined_toList_append, texts_cons_of_text hp hform, List.append_assoc,
            List.singleton_append]
      · rintro ⟨hforms, hcount, rfl⟩
        obtain ⟨hfirst, hrest⟩ := List.forall_mem_cons.mp hforms
        obtain ⟨text, hform⟩ := hfirst hp
        refine ⟨text, hform, _, ⟨fun ht => ?_, rfl⟩, hrest, fun ht => ?_, ?_⟩
        · have hless := hcount ht
          cases held with
          | none => rfl
          | some before =>
            simp only [Option.toList_some, List.length_singleton] at hless
            omega
        · have hless := hcount ht
          rw [hone]
          omega
        · rw [joined_toList_append, texts_cons_of_text hp hform, List.append_assoc,
            List.singleton_append]
    · rw [readFrom, if_neg hp, ih, texts_cons_of_ne hp, List.countP_cons_of_neg (by simpa using hp)]
      simp [hp]

theorem Tag.not_malformed_iff : ¬ tag.Malformed attributes ↔
    (∀ a ∈ attributes, a.path = tag.name → ∃ text, a.form = .text text) ∧
      (tag ≠ .attributes → attributes.countP (·.path = tag.name) ≤ 1) := by
  constructor
  · intro h
    refine ⟨fun a ha hp => ?_, fun ht => Nat.not_lt.mp fun hn => h (.repeated ht hn)⟩
    by_contra hf
    exact h (.notText ha hp (not_exists.mp hf))
  · rintro ⟨hforms, hcount⟩ (⟨ha, hp, hf⟩ | ⟨ht, hn⟩)
    · obtain ⟨text, hform⟩ := hforms _ ha hp
      exact hf text hform
    · exact absurd (hcount ht) (Nat.not_le.mpr hn)

theorem Tag.read_ok_iff : tag.read attributes = .ok result ↔
    ¬ tag.Malformed attributes ∧ result = joined (tag.texts attributes) := by
  rw [read, mapError_ok_iff, readFrom_ok_iff, not_malformed_iff, and_assoc]
  simp

end SchemaCompiler.Source
