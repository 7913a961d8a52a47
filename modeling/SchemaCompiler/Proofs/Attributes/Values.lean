import Mathlib.Data.String.Basic
import SchemaCompiler.Attributes
import SchemaCompiler.Proofs.Sequence
import SchemaCompiler.Proofs.Text.Blank
import SchemaCompiler.Proofs.Text.Split
import SchemaCompiler.Source.Declarations

/-!
# Values of repeated keys

A tag may be given in several texts, and a key more than once in each. The texts
are joined, the values of a key are kept in one text, and both are split again:
every value comes back, in order and by itself.
-/

namespace SchemaCompiler.Attributes

open Text

-- ---------------------------------------------------------------------------
-- Segments
-- ---------------------------------------------------------------------------

/-- The text before the first colon of a segment, or all of it. -/
def keyOf (segment : List Char) : String :=
  .ofList (trim (segment.takeWhile (· ≠ ':')))

/-- The text after the first colon of a segment. -/
def valueOf (segment : List Char) : String :=
  .ofList (trim ((segment.dropWhile (· ≠ ':')).drop 1))

theorem colon_notMem_of_blank {cs : List Char} (h : isBlankText cs = true) : ':' ∉ cs :=
  fun hm => absurd (isBlankText_iff.mp h ':' hm) (by decide)

section

variable {cs before after : List Char}

theorem notColon_of_notMem (h : ':' ∉ cs) : ∀ c ∈ cs, decide (c ≠ ':') = true := by
  rintro c hc
  simp only [decide_eq_true_eq]
  rintro rfl
  exact h hc

theorem keyOf_cut (h : ':' ∉ before) : keyOf (before ++ ':' :: after) = .ofList (trim before) := by
  rw [keyOf, List.takeWhile_append_of_pos (notColon_of_notMem h),
    List.takeWhile_cons_of_neg (by decide), List.append_nil]

theorem valueOf_cut (h : ':' ∉ before) :
    valueOf (before ++ ':' :: after) = .ofList (trim after) := by
  rw [valueOf, List.dropWhile_append_of_pos (notColon_of_notMem h),
    List.dropWhile_cons_of_neg (by decide), List.drop_one, List.tail_cons]

theorem keyOf_uncut (h : ':' ∉ cs) : keyOf cs = .ofList (trim cs) := by
  rw [keyOf, List.takeWhile_eq_self_iff.mpr (notColon_of_notMem h)]

theorem valueOf_uncut (h : ':' ∉ cs) : valueOf cs = "" := by
  rw [valueOf, List.dropWhile_eq_nil_iff.mpr (notColon_of_notMem h)]
  rfl

end

theorem segment?_eq (segment : List Char) :
    segment? segment =
      if isBlankText segment then none else some (keyOf segment, valueOf segment) := by
  -- A segment is cut after it is trimmed; what is trimmed away has no colon.
  obtain ⟨before, after, hb, ha, hs⟩ := trim_eq_self_append segment
  simp only [segment?, List.isEmpty_iff, trim_eq_nil_iff]
  refine if_congr Iff.rfl rfl ?_
  cases hc : cut? ':' (trim segment) with
  | none =>
    have hm : ':' ∉ segment := by
      rw [hs]
      simp [colon_notMem_of_blank hb, colon_notMem_of_blank ha, cut?_eq_none_iff.mp hc]
    simp only [keyOf_uncut hm, valueOf_uncut hm]
  | some parts =>
    obtain ⟨key, value⟩ := parts
    obtain ⟨ht, hk⟩ := cut?_eq_some_iff.mp hc
    have hm : ':' ∉ before ++ key := by
      simp [colon_notMem_of_blank hb, hk]
    have hcut : segment = (before ++ key) ++ ':' :: (value ++ after) := by
      rw [hs, ht]
      simp
    conv => rhs; rw [hcut, keyOf_cut hm, valueOf_cut hm]
    rw [trim_blank_append hb, trim_append_blank ha]

theorem segments_append (first second : String) :
    segments (first ++ ";" ++ second) = segments first ++ segments second := by
  have htext : (first ++ ";" ++ second).toList = first.toList ++ ';' :: second.toList := by
    simp
  rw [segments, htext, valueSeparator, pieces_append_cons, List.filterMap_append]
  rfl

-- ---------------------------------------------------------------------------
-- Values in one text
-- ---------------------------------------------------------------------------

theorem valuesOf_empty : valuesOf "" = [] := by decide

theorem valuesOf_joined (held value : String) :
    valuesOf (held ++ valueSeparator.toString ++ value) = valuesOf held ++ valuesOf value := by
  have htext : (held ++ valueSeparator.toString ++ value).toList =
      held.toList ++ valueSeparator :: value.toList := by
    simp [valueSeparator]
  rw [valuesOf, htext, pieces_append_cons, List.map_append, List.filterMap_append]
  rfl

theorem valuesOf_accumulate (held value : String) :
    valuesOf (accumulate held value) = valuesOf held ++ valuesOf value := by
  rw [accumulate]
  split
  · rename_i h
    rw [h, valuesOf_empty, List.nil_append]
  · split
    · rename_i h
      rw [h, valuesOf_empty, List.append_nil]
    · exact valuesOf_joined held value

theorem valuesOf_trimmed {cs : List Char} (h : valueSeparator ∉ cs) :
    valuesOf (.ofList (trim cs)) = [String.ofList (trim cs)].filter (· ≠ "") := by
  have hm : valueSeparator ∉ trim cs := fun hm => h (mem_of_mem_trim hm)
  rw [valuesOf, String.toList_ofList, pieces_eq_singleton hm]
  by_cases he : trim cs = []
  · rw [he]
    decide
  · simp [he, trim_trim]

theorem valuesOf_valueOf {segment : List Char} (h : valueSeparator ∉ segment) :
    valuesOf (valueOf segment) = [valueOf segment].filter (· ≠ "") := by
  refine valuesOf_trimmed fun hm => h ?_
  exact (List.dropWhile_suffix _).subset ((List.drop_suffix 1 _).subset hm)

theorem flatMap_valuesOf {said : List (List Char)}
    (h : ∀ segment ∈ said, valueSeparator ∉ segment) :
    said.flatMap (fun segment => valuesOf (valueOf segment)) =
      (said.map valueOf).filter (· ≠ "") := by
  induction said with
  | nil => rfl
  | cons segment rest ih =>
    obtain ⟨hs, hr⟩ := List.forall_mem_cons.mp h
    rw [List.flatMap_cons, valuesOf_valueOf hs, ih hr, ← List.filter_append, List.map_cons,
      List.singleton_append]

theorem has_of_mem_values {attributes : Attributes} {key value : String}
    (h : value ∈ attributes.values key) : attributes.has key = true := by
  rw [values] at h
  cases hg : attributes.get? key with
  | none => simp [hg, valuesOf_empty] at h
  | some text => simp [has, hg]

-- ---------------------------------------------------------------------------
-- Entries
-- ---------------------------------------------------------------------------

def OrderedEntries (entries : List (String × String)) : Prop :=
  entries.Pairwise fun a b => a.1 < b.1

variable {key value : String} {entries : List (String × String)}

theorem mem_keys_insertEntry {k : String} :
    k ∈ (insertEntry key value entries).map Prod.fst ↔ k = key ∨ k ∈ entries.map Prod.fst := by
  fun_induction insertEntry key value entries <;> simp_all [or_left_comm]

theorem lookup_cons_ite (k j held : String) (rest : List (String × String)) :
    List.lookup k ((j, held) :: rest) = if k = j then some held else rest.lookup k := by
  by_cases hk : k = j
  · simp [hk]
  · simp [List.lookup_cons, hk, beq_false_of_ne hk]

theorem lookup_eq_none_of_lt {k held : String} {rest : List (String × String)}
    (h : OrderedEntries ((k, held) :: rest)) (hk : key < k) :
    List.lookup key ((k, held) :: rest) = none := by
  rw [List.lookup_eq_none_iff]
  intro entry he
  rcases List.mem_cons.mp he with rfl | he
  · simpa using hk.ne
  · simpa using (hk.trans (List.rel_of_pairwise_cons h he)).ne

theorem OrderedEntries.insertEntry (h : OrderedEntries entries) :
    OrderedEntries (insertEntry key value entries) := by
  fun_induction Attributes.insertEntry key value entries with
  | case1 => exact List.pairwise_singleton _ _
  | case2 held rest => exact List.pairwise_cons.mpr (List.pairwise_cons.mp h)
  | case3 k held rest hne hlt =>
    refine List.pairwise_cons.mpr ⟨fun entry he => ?_, h⟩
    rcases List.mem_cons.mp he with rfl | he
    · exact hlt
    · exact hlt.trans (List.rel_of_pairwise_cons h he)
  | case4 k held rest hne hlt ih =>
    obtain ⟨hk, hr⟩ := List.pairwise_cons.mp h
    refine List.pairwise_cons.mpr ⟨fun entry he => ?_, ih hr⟩
    rcases mem_keys_insertEntry.mp (List.mem_map_of_mem he) with hkey | hm
    · rw [hkey]
      exact lt_of_le_of_ne (not_lt.mp hlt) (Ne.symm hne)
    · obtain ⟨other, ho, hs⟩ := List.mem_map.mp hm
      exact hs ▸ hk other ho

theorem lookup_insertEntry (h : OrderedEntries entries) (k : String) :
    (insertEntry key value entries).lookup k =
      if k = key then some ((entries.lookup key).elim value (accumulate · value))
      else entries.lookup k := by
  fun_induction Attributes.insertEntry key value entries with
  | case1 => simp
  | case2 held rest => by_cases hk : k = key <;> simp [lookup_cons_ite, hk]
  | case3 j held rest hne hlt =>
    rw [lookup_eq_none_of_lt h hlt, lookup_cons_ite]
    rfl
  | case4 j held rest hne hlt ih =>
    rw [lookup_cons_ite, ih (List.pairwise_cons.mp h).2, lookup_cons_ite, lookup_cons_ite,
      if_neg hne]
    by_cases hk : k = key
    · rw [if_neg (hk ▸ hne), if_pos hk, if_pos hk]
    · simp only [if_neg hk]

theorem insert_spec {attributes : Attributes} (h : OrderedEntries attributes.entries)
    (key value k : String) :
    ((attributes.insert key value).has k = true ↔ attributes.has k = true ∨ key = k) ∧
      (attributes.insert key value).values k =
        attributes.values k ++ if key = k then valuesOf value else [] := by
  simp only [has, values, get?, insert, lookup_insertEntry h]
  by_cases hk : key = k
  · subst hk
    cases hl : attributes.entries.lookup key with
    | none => simp [valuesOf_empty]
    | some held => simp [valuesOf_accumulate]
  · simp [hk, Ne.symm hk]

theorem foldl_insert_spec {attributes : Attributes} (h : OrderedEntries attributes.entries)
    (k : String) (said : List (String × String)) :
    ((said.foldl (fun attributes (key, value) => attributes.insert key value) attributes).has k
        = true ↔ attributes.has k = true ∨ ∃ entry ∈ said, entry.1 = k) ∧
      (said.foldl (fun attributes (key, value) => attributes.insert key value) attributes).values k
        = attributes.values k ++ (said.filter (·.1 = k)).flatMap (valuesOf ·.2) := by
  induction said generalizing attributes with
  | nil => simp
  | cons entry rest ih =>
    obtain ⟨key, value⟩ := entry
    obtain ⟨hhas, hvalues⟩ := insert_spec h key value k
    have hentries : OrderedEntries (attributes.insert key value).entries := h.insertEntry
    obtain ⟨ihHas, ihValues⟩ := ih hentries
    rw [List.foldl_cons]
    refine ⟨ihHas.trans ?_, ihValues.trans ?_⟩
    · rw [hhas, or_assoc, List.exists_mem_cons_iff]
    · rw [hvalues, List.append_assoc]
      by_cases hk : key = k <;> simp [hk]

-- ---------------------------------------------------------------------------
-- Tags
-- ---------------------------------------------------------------------------

/-- The segments that say something, through several texts. -/
def saidIn (texts : List String) : List (List Char) :=
  texts.flatMap fun text => (pieces ';' text.toList).filter (!isBlankText ·)

theorem segments_eq (raw : String) :
    segments raw = (saidIn [raw]).map fun segment => (keyOf segment, valueOf segment) := by
  rw [segments, saidIn, List.flatMap_singleton, funext segment?_eq, ← List.filterMap_eq_map,
    List.filterMap_filter]
  refine List.filterMap_congr fun segment _ => ?_
  cases isBlankText segment <;> rfl

theorem separator_notMem_of_mem_saidIn {texts : List String} {segment : List Char}
    (h : segment ∈ saidIn texts) : valueSeparator ∉ segment := by
  obtain ⟨text, -, hs⟩ := List.mem_flatMap.mp h
  exact separator_notMem_of_mem_pieces (List.mem_filter.mp hs).1

theorem parse_of_segments {joined : String} {texts : List String}
    (h : segments joined = texts.flatMap segments) (key : String) :
    ((parse joined).has key = true ↔ ∃ segment ∈ saidIn texts, keyOf segment = key) ∧
      (parse joined).values key =
        (((saidIn texts).filter (keyOf · = key)).map valueOf).filter (· ≠ "") := by
  have hsaid : segments joined =
      (saidIn texts).map fun segment => (keyOf segment, valueOf segment) := by
    rw [h, funext segments_eq, ← List.map_flatMap]
    congr 1
    simp [saidIn]
  obtain ⟨hhas, hvalues⟩ := @foldl_insert_spec {} List.Pairwise.nil key (segments joined)
  refine ⟨hhas.trans ?_, hvalues.trans ?_⟩
  · simp [hsaid, has, get?]
  · have hempty : values {} key = [] := by
      simp [values, get?, valuesOf_empty]
    rw [hempty, List.nil_append, hsaid, List.filter_map, List.flatMap_map]
    exact flatMap_valuesOf fun segment hs =>
      separator_notMem_of_mem_saidIn (List.mem_filter.mp hs).1

-- ---------------------------------------------------------------------------
-- Repeated tags
-- ---------------------------------------------------------------------------

open Source

def tagForms (attributes : List Source.Attribute) : List AttributeForm :=
  (attributes.filter (·.path = Tag.attributes.name)).map (·.form)

theorem tagForms_cons (first : Source.Attribute) (rest : List Source.Attribute) :
    tagForms (first :: rest) =
      if first.path = Tag.attributes.name then first.form :: tagForms rest else tagForms rest := by
  rw [tagForms, List.filter_cons]
  by_cases hp : first.path = Tag.attributes.name <;> simp [hp, tagForms]

theorem readFrom_texts {attributes : List Source.Attribute} {texts : List String}
    (h : tagForms attributes = texts.map .text) (held : Option String) :
    ∃ joined, Tag.attributes.readFrom held attributes = .ok joined ∧
      (joined.isSome = true ↔ held.isSome = true ∨ texts ≠ []) ∧
      joined.toList.flatMap segments = held.toList.flatMap segments ++ texts.flatMap segments := by
  induction attributes generalizing held texts with
  | nil =>
    obtain rfl : texts = [] := by simpa [tagForms] using h.symm
    exact ⟨held, rfl, by simp, by simp⟩
  | cons first rest ih =>
    by_cases hp : first.path = Tag.attributes.name
    · rw [tagForms_cons, if_pos hp] at h
      obtain ⟨text, more, rfl, hf, hr⟩ := List.map_eq_cons_iff.mp h.symm
      have hadd : ∃ next, Tag.attributes.add held text = .ok (some next) ∧
          segments next = held.toList.flatMap segments ++ segments text := by
        cases held with
        | none => exact ⟨text, rfl, rfl⟩
        | some before => exact ⟨before ++ ";" ++ text, rfl, by simp [segments_append]⟩
      obtain ⟨next, hn, hs⟩ := hadd
      obtain ⟨joined, hj, hsome, hjoined⟩ := ih hr.symm (some next)
      refine ⟨joined, ?_, by simpa using hsome, ?_⟩
      · rw [Tag.readFrom, if_pos hp, ← hf]
        simp only [AttributeForm.tagText, bind, Except.bind, hn]
        exact hj
      · simp [hjoined, hs]
    · rw [tagForms_cons, if_neg hp] at h
      rw [Tag.readFrom, if_neg hp]
      exact ih h held

/-- The attribute tags of an item are read as one tag. It has the keys of all their
segments, and the values of a key are the nonempty ones of its segments in order. -/
theorem parse_of_repeated_tag {attributes : List Source.Attribute} {texts : List String}
    (h : tagForms attributes = texts.map .text) (hne : texts ≠ []) :
    ∃ joined, Tag.attributes.read attributes = .ok (some joined) ∧ ∀ key,
      ((parse joined).has key = true ↔
        ∃ text ∈ texts, ∃ segment ∈ pieces ';' text.toList,
          isBlankText segment = false ∧ keyOf segment = key) ∧
      (parse joined).values key =
        (((saidIn texts).filter (keyOf · = key)).map valueOf).filter (· ≠ "") := by
  obtain ⟨joined, hread, hsome, hsegments⟩ := readFrom_texts h none
  obtain ⟨joined, rfl⟩ := Option.isSome_iff_exists.mp (hsome.mpr (.inr hne))
  refine ⟨joined, by rw [Tag.read, hread]; rfl, fun key => ?_⟩
  obtain ⟨hhas, hvalues⟩ := @parse_of_segments joined texts (by simpa using hsegments) key
  refine ⟨hhas.trans ?_, hvalues⟩
  simp only [saidIn, List.mem_flatMap, List.mem_filter, Bool.not_eq_true']
  constructor
  · rintro ⟨segment, ⟨text, ht, hs, hb⟩, hk⟩
    exact ⟨text, ht, segment, hs, hb, hk⟩
  · rintro ⟨text, ht, segment, hs, hb, hk⟩
    exact ⟨segment, ⟨text, ht, hs, hb⟩, hk⟩

/-- Two tags with another attribute between them; a flag stands among the values. -/
theorem values_of_two_tags :
    ∃ joined, Tag.attributes.read [⟨"db", .text "index:by_name; index ;size: 10"⟩,
        ⟨"serde", .list (some "skip")⟩, ⟨"db", .text " ;index: by_age"⟩] = .ok (some joined) ∧
      (parse joined).values "index" = ["by_name", "by_age"] ∧
      (parse joined).has "unique" = false := by
  obtain ⟨joined, hread, hkeys⟩ := @parse_of_repeated_tag
    [⟨"db", .text "index:by_name; index ;size: 10"⟩,
      ⟨"serde", .list (some "skip")⟩, ⟨"db", .text " ;index: by_age"⟩]
    ["index:by_name; index ;size: 10", " ;index: by_age"] rfl (by simp)
  refine ⟨joined, hread, (hkeys "index").2.trans (by decide), ?_⟩
  rw [← Bool.not_eq_true, (hkeys "unique").1]
  decide

end SchemaCompiler.Attributes
