import SchemaCompiler.Proofs.KeyOrder
import SchemaCompiler.Proofs.Source.Tags

/-!
# Records of a source text

A source text declares the records that stand in it, at any depth of modules but not in
modules for tests, in the order in which they are written. A record's result is its own:
it fails if one of the tags that count for it is malformed.
-/

namespace SchemaCompiler.Source

-- ---------------------------------------------------------------------------
-- Places
-- ---------------------------------------------------------------------------

/-- The numbers of an item and of the modules around it, outermost first. -/
abbrev ItemPlace := List Nat

/-- With the items numbered from here on, a record stands at a place, and the modules around
it have these attributes. -/
inductive Items.HoldsFrom (record : Record) :
    Nat → Items → ItemPlace → List (List Attribute) → Prop
  | here {number : Nat} {rest : Items} : HoldsFrom record number (.record record rest) [number] []
  | inside {number : Nat} {attributes : List Attribute} {inner rest : Items} {place : ItemPlace}
      {around : List (List Attribute)} (h : HoldsFrom record 0 inner place around) :
      HoldsFrom record number (.module attributes inner rest) (number :: place)
        (attributes :: around)
  | afterRecord {number : Nat} {first : Record} {rest : Items} {place : ItemPlace}
      {around : List (List Attribute)} (h : HoldsFrom record (number + 1) rest place around) :
      HoldsFrom record number (.record first rest) place around
  | afterModule {number : Nat} {attributes : List Attribute} {inner rest : Items}
      {place : ItemPlace} {around : List (List Attribute)}
      (h : HoldsFrom record (number + 1) rest place around) :
      HoldsFrom record number (.module attributes inner rest) place around
  | afterOther {number : Nat} {rest : Items} {place : ItemPlace} {around : List (List Attribute)}
      (h : HoldsFrom record (number + 1) rest place around) :
      HoldsFrom record number (.other rest) place around

/-- The attribute by which a module is for tests only. -/
def testMark : Attribute where
  path := "cfg"
  form := .list (some "test")

/-- A record stands at a place, and no module around it is for tests. -/
def Items.DeclaresFrom (number : Nat) (items : Items) (place : ItemPlace) (record : Record) :
    Prop :=
  ∃ around, HoldsFrom record number items place around ∧ ∀ attributes ∈ around,
    testMark ∉ attributes

def Items.Declares (items : Items) (place : ItemPlace) (record : Record) : Prop :=
  items.DeclaresFrom 0 place record

variable {items inner rest changed : Items} {number : Nat} {place : ItemPlace}
  {record first : Record} {attributes : List Attribute}

theorem any_isForTests_iff :
    attributes.any Attribute.isForTests = true ↔ testMark ∈ attributes := by
  have hmark (a : Attribute) : a.isForTests = true ↔ a = testMark := by
    cases a
    simp [Attribute.isForTests, testMark]
  simp [List.any_eq_true, hmark]

namespace Items

theorem declaresFrom_record_iff : (Items.record first rest).DeclaresFrom number place record ↔
    (place = [number] ∧ record = first) ∨ rest.DeclaresFrom (number + 1) place record := by
  constructor
  · rintro ⟨around, h, ha⟩
    cases h with
    | here => exact .inl ⟨rfl, rfl⟩
    | afterRecord h => exact .inr ⟨around, h, ha⟩
  · rintro (⟨rfl, rfl⟩ | ⟨around, h, ha⟩)
    · exact ⟨[], .here, nofun⟩
    · exact ⟨around, .afterRecord h, ha⟩

theorem declaresFrom_module_iff :
    (Items.module attributes inner rest).DeclaresFrom number place record ↔
      (∃ below, place = number :: below ∧ testMark ∉ attributes ∧
        inner.DeclaresFrom 0 below record) ∨
      rest.DeclaresFrom (number + 1) place record := by
  constructor
  · rintro ⟨around, h, ha⟩
    cases h with
    | inside h =>
      obtain ⟨hhere, hbelow⟩ := List.forall_mem_cons.mp ha
      exact .inl ⟨_, rfl, hhere, _, h, hbelow⟩
    | afterModule h => exact .inr ⟨around, h, ha⟩
  · rintro (⟨below, rfl, hhere, around, h, ha⟩ | ⟨around, h, ha⟩)
    · exact ⟨attributes :: around, .inside h, List.forall_mem_cons.mpr ⟨hhere, ha⟩⟩
    · exact ⟨around, .afterModule h, ha⟩

theorem declaresFrom_other_iff : (Items.other rest).DeclaresFrom number place record ↔
    rest.DeclaresFrom (number + 1) place record := by
  constructor
  · rintro ⟨around, h, ha⟩
    cases h with
    | afterOther h => exact ⟨around, h, ha⟩
  · rintro ⟨around, h, ha⟩
    exact ⟨around, .afterOther h, ha⟩

/-- The records that count with their places, the items numbered from here on. -/
def placedFrom (number : Nat) : Items → List (ItemPlace × Record)
  | .empty => []
  | .record first rest => ([number], first) :: rest.placedFrom (number + 1)
  | .module attributes inner rest =>
    (if testMark ∈ attributes then []
      else (inner.placedFrom 0).map fun (below, held) => (number :: below, held)) ++
        rest.placedFrom (number + 1)
  | .other rest => rest.placedFrom (number + 1)

theorem map_placedFrom (number : Nat) (items : Items) :
    (items.placedFrom number).map (·.2) = items.records := by
  induction items generalizing number with
  | empty => rfl
  | record first rest ih => rw [placedFrom, List.map_cons, ih, records]
  | module attributes inner rest ihInner ih =>
    rw [placedFrom, List.map_append, ih, records]
    by_cases ht : testMark ∈ attributes
    · rw [if_pos ht, if_pos (any_isForTests_iff.mpr ht), List.map_nil]
    · rw [if_neg ht, if_neg (mt any_isForTests_iff.mp ht), List.map_map, ← ihInner 0]
      rfl
  | other rest ih => rw [placedFrom, ih, records]

theorem mem_placedFrom_iff :
    (place, record) ∈ items.placedFrom number ↔ items.DeclaresFrom number place record := by
  induction items generalizing number place with
  | empty =>
    refine iff_of_false List.not_mem_nil ?_
    rintro ⟨_, h, -⟩
    cases h
  | record first rest ih =>
    rw [placedFrom, List.mem_cons, ih, declaresFrom_record_iff, Prod.mk.injEq]
  | module attributes inner rest ihInner ih =>
    rw [placedFrom, List.mem_append, ih, declaresFrom_module_iff]
    refine or_congr_left ?_
    by_cases ht : testMark ∈ attributes
    · simp [ht]
    · simp only [ht, if_false, List.mem_map, Prod.exists, Prod.mk.injEq, not_false_eq_true,
        true_and, ← ihInner]
      constructor
      · rintro ⟨below, _, hm, rfl, rfl⟩
        exact ⟨below, rfl, hm⟩
      · rintro ⟨below, rfl, hm⟩
        exact ⟨below, record, hm, rfl, rfl⟩
  | other rest ih => rw [placedFrom, ih, declaresFrom_other_iff]

theorem DeclaresFrom.exists_cons (h : items.DeclaresFrom number place record) :
    ∃ first below, place = first :: below ∧ number ≤ first := by
  obtain ⟨around, h, -⟩ := h
  induction h with
  | here => exact ⟨_, _, rfl, le_rfl⟩
  | inside => exact ⟨_, _, rfl, le_rfl⟩
  | afterRecord _ ih | afterModule _ ih | afterOther _ ih =>
    obtain ⟨first, below, rfl, hle⟩ := ih
    exact ⟨first, below, rfl, Nat.le_of_succ_le hle⟩

theorem pairwise_placedFrom (number : Nat) (items : Items) :
    (items.placedFrom number).Pairwise (·.1 < ·.1) := by
  have hafter {number : Nat} {rest : Items} (below : ItemPlace) {entry : ItemPlace × Record}
      (hm : entry ∈ rest.placedFrom (number + 1)) : number :: below < entry.1 := by
    obtain ⟨first, more, he, hle⟩ := (mem_placedFrom_iff.mp hm).exists_cons
    rw [he]
    exact List.cons_lt_cons_iff.mpr (.inl hle)
  induction items generalizing number with
  | empty => exact .nil
  | record first rest ih => exact .cons (fun _ hm => hafter [] hm) (ih _)
  | module attributes inner rest ihInner ih =>
    refine List.pairwise_append.mpr ⟨?_, ih _, fun earlier he later hl => ?_⟩
    · split
      · exact .nil
      · exact (ihInner 0).map _ fun _ _ hlt => List.cons_lt_cons_iff.mpr (.inr ⟨rfl, hlt⟩)
    · split at he
      · cases he
      · obtain ⟨⟨below, _⟩, -, rfl⟩ := List.mem_map.mp he
        exact hafter below hl
  | other rest ih => exact ih _

/-- There is only one way to list the records that count in the order of their places. -/
theorem eq_placedFrom {found : List (ItemPlace × Record)} (h : found.Pairwise (·.1 < ·.1))
    (hm : ∀ place record, (place, record) ∈ found ↔ items.Declares place record) :
    found = items.placedFrom 0 :=
  eq_of_keys h (pairwise_placedFrom 0 items) fun entry =>
    (hm entry.1 entry.2).trans mem_placedFrom_iff.symm

/-- The same records are declared at all places but one. -/
def SameBut (place : ItemPlace) (items changed : Items) : Prop :=
  ∀ q, q ≠ place → ∀ record, items.Declares q record ↔ changed.Declares q record

theorem exists_records (hd : items.Declares place record) : ∃ before after : List Record,
    items.records = before ++ record :: after ∧
      ∀ changed : Items, items.SameBut place changed →
        (∀ other, changed.Declares place other → changed.records = before ++ other :: after) ∧
        ((∀ other, ¬ changed.Declares place other) → changed.records = before ++ after) := by
  have hitems := pairwise_placedFrom 0 items
  refine ⟨((items.placedFrom 0).filter (·.1 < place)).map (·.2),
    ((items.placedFrom 0).filter (place < ·.1)).map (·.2), ?_, fun changed h => ?_⟩
  · rw [← map_placedFrom 0 items]
    conv => lhs; rw [split_at_key hitems place]
    rw [filter_key_of_mem hitems (mem_placedFrom_iff.mpr hd)]
    simp
  · have hchanged := pairwise_placedFrom 0 changed
    have hsame (entry : ItemPlace × Record) (hne : entry.1 ≠ place) :
        entry ∈ items.placedFrom 0 ↔ entry ∈ changed.placedFrom 0 := by
      rw [mem_placedFrom_iff, mem_placedFrom_iff]
      exact h entry.1 hne entry.2
    have hsplit : changed.records =
        ((items.placedFrom 0).filter (·.1 < place)).map (·.2) ++
          ((changed.placedFrom 0).filter (·.1 = place)).map (·.2) ++
          ((items.placedFrom 0).filter (place < ·.1)).map (·.2) := by
      rw [filter_of_same_but hitems hchanged hsame fun _ => by simp,
        filter_of_same_but hitems hchanged hsame (p := (place < ·.1)) fun _ => by simp,
        ← map_placedFrom 0 changed]
      conv => lhs; rw [split_at_key hchanged place]
      simp
    constructor
    · intro other ho
      rw [hsplit, filter_key_of_mem hchanged (mem_placedFrom_iff.mpr ho)]
      simp
    · intro hno
      rw [hsplit, filter_key_eq_nil fun other => mt mem_placedFrom_iff.mp (hno other)]
      simp

end Items

-- ---------------------------------------------------------------------------
-- Results
-- ---------------------------------------------------------------------------

def RecordField.declared (field : RecordField) : Field where
  name := field.name.text
  type := field.type.shape
  attributes := joined (Tag.attributes.texts field.attributes)
  relationship := joined (Tag.relationship.texts field.attributes)
  display := joined (Tag.display.texts field.attributes)
  line := field.line

/-- What a record is declared as: with its fields that are visible everywhere, in order. -/
def Record.declared (record : Record) (file : String) : Declaration where
  name := record.name.text
  file := file
  line := record.line
  table := joined (Tag.attributes.texts record.attributes)
  fields := (record.fields.filter (·.visibility = .everywhere)).map RecordField.declared

/-- A tag that counts for a record is malformed. -/
inductive Record.Malformed (record : Record) : Prop
  | own (h : Tag.attributes.Malformed record.attributes)
  | field {field : RecordField} {tag : Tag} (hm : field ∈ record.fields)
      (hv : field.visibility = .everywhere) (h : tag.Malformed field.attributes)

theorem RecordField.declareIn_ok_iff {field : RecordField} {declared : Field} :
    field.declareIn = .ok declared ↔
      (∀ tag : Tag, ¬ tag.Malformed field.attributes) ∧ declared = field.declared := by
  simp only [declareIn, mapError_ok_iff, declare, bind_ok_iff, pure_ok_iff, Tag.read_ok_iff]
  constructor
  · rintro ⟨_, ⟨hattributes, rfl⟩, _, ⟨hrelationship, rfl⟩, _, ⟨hdisplay, rfl⟩, rfl⟩
    refine ⟨fun tag => ?_, rfl⟩
    cases tag with
    | attributes => exact hattributes
    | relationship => exact hrelationship
    | display => exact hdisplay
  · rintro ⟨hall, rfl⟩
    exact ⟨_, ⟨hall _, rfl⟩, _, ⟨hall _, rfl⟩, _, ⟨hall _, rfl⟩, rfl⟩

theorem Record.not_malformed_iff : ¬ record.Malformed ↔
    ¬ Tag.attributes.Malformed record.attributes ∧
      ∀ field ∈ record.publicFields, ∀ tag : Tag, ¬ tag.Malformed field.attributes := by
  constructor
  · intro h
    refine ⟨fun hown => h (.own hown), fun field hm tag ht => ?_⟩
    obtain ⟨hm, hv⟩ := List.mem_filter.mp hm
    exact h (.field hm (of_decide_eq_true hv) ht)
  · rintro ⟨hown, hfields⟩ (h | ⟨hm, hv, ht⟩)
    · exact hown h
    · exact hfields _ (List.mem_filter.mpr ⟨hm, decide_eq_true hv⟩) _ ht

theorem Record.declareOrFail_ok_iff {file : String} {declaration : Declaration} :
    record.declareOrFail file = .ok declaration ↔
      ¬ record.Malformed ∧ declaration = record.declared file := by
  simp only [declareOrFail, mapError_ok_iff, declare, bind_ok_iff, pure_ok_iff, Tag.read_ok_iff,
    mapM_ok_iff_map fun _ _ => RecordField.declareIn_ok_iff, not_malformed_iff]
  constructor
  · rintro ⟨_, ⟨hown, rfl⟩, _, ⟨hfields, rfl⟩, rfl⟩
    exact ⟨⟨hown, hfields⟩, rfl⟩
  · rintro ⟨⟨hown, hfields⟩, rfl⟩
    exact ⟨_, ⟨hown, rfl⟩, _, ⟨hfields, rfl⟩, rfl⟩

theorem Record.fails_iff {file : String} :
    Fails (record.declareOrFail file) ↔ record.Malformed := by
  rw [← not_iff_not, not_fails_iff]
  simp [declareOrFail_ok_iff]

-- ---------------------------------------------------------------------------
-- Texts
-- ---------------------------------------------------------------------------

/-- A text that can be parsed declares the records at their places, each once and in order,
but none in a module for tests. A record fails if a tag that counts is malformed, and else
is declared with its public fields. Where another record or none stands at one place, all
other results stay. -/
theorem declarations_of_items {text file : String} {parse : String → Except SyntaxError Items}
    (h : parse (.ofList (withoutMark text.toList)) = .ok items) :
    (∃ found : List (ItemPlace × Record), found.Pairwise (·.1 < ·.1) ∧
      (∀ place record, (place, record) ∈ found ↔ items.Declares place record) ∧
      declarations text file parse = .ok (found.map (·.2.declareOrFail file))) ∧
    (∀ record : Record, (Fails (record.declareOrFail file) ↔ record.Malformed) ∧
      (¬ record.Malformed → record.declareOrFail file = .ok (record.declared file))) ∧
    ∀ place record, items.Declares place record → ∃ before after,
      declarations text file parse = .ok (before ++ record.declareOrFail file :: after) ∧
      ∀ (rewritten : String) (changed : Items),
        parse (.ofList (withoutMark rewritten.toList)) = .ok changed →
        items.SameBut place changed →
        (∀ other, changed.Declares place other → declarations rewritten file parse =
          .ok (before ++ other.declareOrFail file :: after)) ∧
        ((∀ other, ¬ changed.Declares place other) →
          declarations rewritten file parse = .ok (before ++ after)) := by
  have hresults {text : String} {items : Items}
      (h : parse (.ofList (withoutMark text.toList)) = .ok items) :
      declarations text file parse = .ok (items.records.map (·.declareOrFail file)) := by
    rw [declarations, h]
    rfl
  refine ⟨⟨items.placedFrom 0, items.pairwise_placedFrom 0, fun _ _ => Items.mem_placedFrom_iff,
    ?_⟩, fun record => ⟨record.fails_iff, fun hf => Record.declareOrFail_ok_iff.mpr ⟨hf, rfl⟩⟩,
    fun place record hd => ?_⟩
  · rw [hresults h, ← Items.map_placedFrom 0 items, List.map_map]
    rfl
  · obtain ⟨before, after, hrecords, hothers⟩ := Items.exists_records hd
    refine ⟨before.map (·.declareOrFail file), after.map (·.declareOrFail file), ?_, ?_⟩
    · rw [hresults h, hrecords, List.map_append, List.map_cons]
    · intro rewritten changed hc hsame
      obtain ⟨hother, hnone⟩ := hothers changed hsame
      refine ⟨fun other ho => ?_, fun hno => ?_⟩
      · rw [hresults hc, hother other ho, List.map_append, List.map_cons]
      · rw [hresults hc, hnone hno, List.map_append]

/-- A record with a malformed tag that does not count, one with a malformed tag that does,
and one that is for tests. -/
def mixedSource : String :=
  "mod m \x7b pub struct Kept \x7b #[db] a: u8 \x7d \x7d\n" ++
  "pub struct Broken \x7b #[db] pub a: u8 \x7d\n" ++
  "#[cfg(test)] mod t \x7b pub struct T \x7b\x7d \x7d\n"

theorem declarations_of_mixedSource :
    ∃ (items : Items) (found : List (ItemPlace × Record)),
      Items.parse (.ofList (withoutMark mixedSource.toList)) = .ok items ∧
      declarations mixedSource "m.rs" = .ok (found.map (·.2.declareOrFail "m.rs")) ∧
      found.map (fun (place, record) =>
        (place, record.name.text, (record.declareOrFail "m.rs").toOption.isSome)) =
          [([0, 0], "Kept", true), ([1], "Broken", false)] := by
  have hany : (Items.parse (.ofList (withoutMark mixedSource.toList))).toOption.any (fun items =>
      (items.placedFrom 0).map (fun (place, record) =>
        (place, record.name.text, (record.declareOrFail "m.rs").toOption.isSome)) =
          [([0, 0], "Kept", true), ([1], "Broken", false)]) = true := by decide +kernel
  obtain ⟨items, hparse, hplaced⟩ := ok_of_any hany
  obtain ⟨⟨found, horder, hmembers, hresults⟩, -, -⟩ :=
    @declarations_of_items items mixedSource "m.rs" Items.parse hparse
  obtain rfl := Items.eq_placedFrom horder hmembers
  exact ⟨items, _, hparse, hresults, of_decide_eq_true hplaced⟩

end SchemaCompiler.Source
