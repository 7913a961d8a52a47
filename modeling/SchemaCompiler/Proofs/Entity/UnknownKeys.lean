import SchemaCompiler.Attributes.Diagnostic
import SchemaCompiler.Proofs.Attributes.Values
import SchemaCompiler.Proofs.Entity.Fields

/-!
# Unknown keys

A key that is not known may be added to the attribute tag of any field. The tag's
diagnostics get one warning more, and the entity of the declaration is the same but for the
attributes that are kept with the field's column.
-/

namespace SchemaCompiler

open Text

-- ---------------------------------------------------------------------------
-- One more key
-- ---------------------------------------------------------------------------

namespace Attributes

variable {attributes other : Attributes} {key value raw segment : String}
  {entries : List (String × String)}

theorem insertEntry_of_notMem (h : key ∉ entries.map Prod.fst) (value : String) :
    ∃ before after, entries = before ++ after ∧
      insertEntry key value entries = before ++ (key, value) :: after := by
  fun_induction insertEntry key value entries with
  | case1 => exact ⟨[], [], rfl, rfl⟩
  | case2 held rest => simp at h
  | case3 k held rest => exact ⟨[], (k, held) :: rest, rfl, rfl⟩
  | case4 k held rest _ _ ih =>
    obtain ⟨before, after, hrest, hinsert⟩ := ih fun hm => h (List.mem_cons_of_mem k hm)
    exact ⟨(k, held) :: before, after, by rw [hrest]; rfl, by rw [hinsert]; rfl⟩

theorem OrderedEntries.foldl_insert (h : OrderedEntries attributes.entries)
    (said : List (String × String)) : OrderedEntries
      (said.foldl (fun attributes (key, value) => attributes.insert key value)
        attributes).entries := by
  induction said generalizing attributes with
  | nil => exact h
  | cons entry rest ih => exact ih h.insertEntry

theorem orderedEntries_parse (raw : String) : OrderedEntries (parse raw).entries := by
  have hempty : OrderedEntries ({} : Attributes).entries := List.Pairwise.nil
  exact hempty.foldl_insert (segments raw)

theorem parse_append_segment (raw : String) (hplain : ';' ∉ segment.toList)
    (hsaid : isBlankText segment.toList = false) :
    parse (raw ++ ";" ++ segment) =
      (parse raw).insert (keyOf segment.toList) (valueOf segment.toList) := by
  have hsegment : segments segment = [(keyOf segment.toList, valueOf segment.toList)] := by
    rw [segments, valueSeparator, pieces_eq_singleton hplain, List.filterMap_cons, segment?_eq,
      hsaid]
    rfl
  rw [parse, parse, segments_append, hsegment, List.foldl_append]
  rfl

theorem key_notMem_of_has (h : attributes.has key = false) :
    key ∉ attributes.entries.map Prod.fst := by
  intro hm
  obtain ⟨⟨k, held⟩, he, rfl⟩ := List.mem_map.mp hm
  rw [has, get?, Option.isSome_eq_false_iff, Option.isNone_iff_eq_none,
    List.lookup_eq_none_iff] at h
  simpa using h _ he

-- ---------------------------------------------------------------------------
-- Known keys
-- ---------------------------------------------------------------------------

/-- Two tags say the same under the keys that are known of a column. -/
def Alike (attributes other : Attributes) : Prop :=
  ∀ key ∈ columnKeys, other.get? key = attributes.get? key

theorem Alike.has (h : attributes.Alike other) (hk : key ∈ columnKeys) :
    other.has key = attributes.has key := by
  rw [Attributes.has, Attributes.has, h key hk]

theorem Alike.value? (h : attributes.Alike other) (hk : key ∈ columnKeys) :
    other.value? key = attributes.value? key := by
  rw [Attributes.value?, Attributes.value?, h key hk]

theorem Alike.values (h : attributes.Alike other) (hk : key ∈ columnKeys) :
    other.values key = attributes.values key := by
  rw [Attributes.values, Attributes.values, h key hk]

theorem alike_insert (h : OrderedEntries attributes.entries) (hk : key ∉ columnKeys)
    (value : String) : attributes.Alike (attributes.insert key value) := by
  intro known hm
  rw [get?, insert, lookup_insertEntry h, if_neg (ne_of_mem_of_not_mem hm hk), get?]

-- ---------------------------------------------------------------------------
-- Diagnostics
-- ---------------------------------------------------------------------------

theorem columnProblems_unknown (h : key ∉ columnKeys) (value : String) :
    columnProblems key value = [.unknownColumnKey] := by
  have hflag : flagKeys.contains key = false := by
    rw [← Bool.not_eq_true, List.contains_iff_mem]
    exact fun hm => h ((by decide : flagKeys ⊆ columnKeys) hm)
  simp only [columnKeys, List.mem_cons, List.not_mem_nil, or_false, not_or] at h
  unfold columnProblems
  rw [if_neg h.1, hflag, if_neg (by decide)]
  split <;> simp_all

theorem Alike.conflicts (h : attributes.Alike other) : other.conflicts = attributes.conflicts := by
  rw [Attributes.conflicts, Attributes.conflicts, h.has (by decide), h.has (by decide),
    h.has (by decide)]

theorem key_of_mem_columnDiagnostics {diagnostic : Diagnostic}
    (h : diagnostic ∈ attributes.columnDiagnostics) :
    diagnostic.key ∈ attributes.entries.map Prod.fst ∨ diagnostic.key ∈ columnKeys := by
  rcases List.mem_append.mp h with h | h
  · obtain ⟨entry, he, hd⟩ := List.mem_flatMap.mp h
    obtain ⟨problem, -, rfl⟩ := List.mem_map.mp hd
    exact .inl (List.mem_map_of_mem he)
  · right
    rcases List.mem_append.mp h with h | h <;> split at h
    · rw [List.mem_singleton.mp h]
      decide
    · cases h
    · rw [List.mem_singleton.mp h]
      decide
    · cases h

theorem columnDiagnostics_insert (hordered : OrderedEntries attributes.entries)
    (hunknown : key ∉ columnKeys) (hnew : attributes.has key = false) (value : String) :
    ∃ before after, attributes.columnDiagnostics = before ++ after ∧
      (∀ diagnostic ∈ before ++ after, diagnostic.key ≠ key) ∧
      (attributes.insert key value).columnDiagnostics =
        before ++ ⟨key, .unknownColumnKey⟩ :: after := by
  have hm := key_notMem_of_has hnew
  obtain ⟨first, last, hentries, hinsert⟩ := insertEntry_of_notMem hm value
  have hsplit : attributes.columnDiagnostics =
      first.flatMap (entryDiagnostics columnProblems) ++
        (last.flatMap (entryDiagnostics columnProblems) ++ attributes.conflicts) := by
    rw [columnDiagnostics, hentries, List.flatMap_append, List.append_assoc]
  refine ⟨_, _, hsplit, ?_, ?_⟩
  · rw [← hsplit]
    rintro diagnostic hd rfl
    exact (key_of_mem_columnDiagnostics hd).elim hm hunknown
  · have hentry : entryDiagnostics columnProblems (key, value) = [⟨key, .unknownColumnKey⟩] := by
      rw [entryDiagnostics, columnProblems_unknown hunknown]
      rfl
    rw [columnDiagnostics, (alike_insert hordered hunknown value).conflicts, insert, hinsert,
      List.flatMap_append, List.flatMap_cons, hentry, List.append_assoc, List.append_assoc]
    rfl

end Attributes

-- ---------------------------------------------------------------------------
-- Columns
-- ---------------------------------------------------------------------------

namespace Column

variable {attributes other : Attributes} {column : Column}

theorem ofField_alike (h : attributes.Alike other) (field : Field) :
    ofField field other = { ofField field attributes with attributes := other } := by
  simp (disch := decide) only [ofField, h.has, h.value?, h.values]

theorem indexEntries_alike (h : column.attributes.Alike other) (table : String) :
    { column with attributes := other }.indexEntries table = column.indexEntries table := by
  have hkey (key : IndexKey) : key.name ∈ Attributes.columnKeys := by
    cases key <;> decide
  simp only [indexEntries, indexNames, h.has (hkey _), h.values (hkey _)]

theorem constraints_alike (h : column.attributes.Alike other) (table : String) :
    { column with attributes := other }.constraints table = column.constraints table := by
  simp (disch := decide) only [constraints, checks, h.values, h.value?]

end Column

theorem modify_length_append (f : α → α) (first last : List α) (a : α) :
    (first ++ a :: last).modify first.length f = first ++ f a :: last := by
  induction first with
  | nil => rfl
  | cons b first ih => simp [ih]

-- ---------------------------------------------------------------------------
-- Entities
-- ---------------------------------------------------------------------------

def Field.tagged (field : Field) (raw : String) : Field :=
  { field with attributes := some raw }

def Declaration.between (declaration : Declaration) (before : List Field) (field : Field)
    (after : List Field) : Declaration :=
  { declaration with fields := before ++ field :: after }

/-- The entity with other attributes kept with the column of a field, if it is a column. The
columns of the fields before it come first. -/
def Entity.keeping (before : List Field) (field : Field) (attributes : Attributes)
    (entity : Entity) : Entity :=
  if field.role = .column then
    { entity with
      columns := entity.columns.modify (before.filter (·.role = .column)).length fun column =>
        { column with attributes } }
  else entity

section

variable {raw raw' : String} {field : Field}

theorem Field.read_tagged (h : (Attributes.parse raw).Alike (.parse raw')) {entity : String}
    {read : TaggedField} (hr : (field.tagged raw).read entity = .ok read) :
    ∃ read', (field.tagged raw').read entity = .ok read' ∧ read'.relation? = read.relation? ∧
      read'.column? = read.column?.map fun column =>
        { column with attributes := .parse raw' } := by
  cases ht : field.relationship with
  | some tag =>
    simp only [Field.read, tagged, ht] at hr ⊢
    split at hr
    · cases hr
    · cases hr
      exact ⟨_, rfl, rfl, rfl⟩
  | none =>
    simp only [Field.read, tagged, ht] at hr ⊢
    cases hr
    refine ⟨_, rfl, rfl, ?_⟩
    have hdash : (Attributes.ofTag (some raw')).has "-" = (Attributes.ofTag (some raw)).has "-" :=
      h.has (by decide)
    rw [TaggedField.column?, TaggedField.column?, hdash]
    split
    · rfl
    · exact congrArg some (Column.ofField_alike h _)

variable {declaration : Declaration} {attributes other : Attributes}
  {first last : List TaggedField} {read read' : TaggedField}

theorem Entity.assemble_of_noColumn (hrelation : read'.relation? = read.relation?)
    (hcolumn : read.column? = none) (hcolumn' : read'.column? = none) :
    assemble declaration attributes (first ++ read' :: last) =
      assemble declaration attributes (first ++ read :: last) := by
  simp only [assemble, List.filterMap_append, List.filterMap_cons, hrelation, hcolumn, hcolumn']

/-- Nothing but the column itself shows which attributes are kept with it. -/
theorem Entity.assemble_of_column {column : Column} (hrelation : read'.relation? = read.relation?)
    (hcolumn : read.column? = some column)
    (hcolumn' : read'.column? = some { column with attributes := other })
    (halike : column.attributes.Alike other) :
    assemble declaration attributes (first ++ read' :: last) =
      { assemble declaration attributes (first ++ read :: last) with
        columns := (assemble declaration attributes (first ++ read :: last)).columns.modify
          (first.filterMap TaggedField.column?).length fun column =>
            { column with attributes := other } } := by
  have hcolumns : (first ++ read :: last).filterMap TaggedField.column? =
      first.filterMap TaggedField.column? ++ column :: last.filterMap TaggedField.column? := by
    rw [List.filterMap_append, List.filterMap_cons_some hcolumn]
  have hcolumns' : (first ++ read' :: last).filterMap TaggedField.column? =
      first.filterMap TaggedField.column? ++
        { column with attributes := other } :: last.filterMap TaggedField.column? := by
    rw [List.filterMap_append, List.filterMap_cons_some hcolumn']
  have hrelations : (first ++ read' :: last).filterMap TaggedField.relation? =
      (first ++ read :: last).filterMap TaggedField.relation? := by
    simp only [List.filterMap_append, List.filterMap_cons, hrelation]
  simp only [assemble, hcolumns, hcolumns', hrelations, modify_length_append, columnIndexes,
    List.flatMap_append, List.flatMap_cons, List.filter_append, List.filter_cons,
    List.map_append, Column.indexEntries_alike halike, Column.constraints_alike halike]
  cases column.isPrimaryKey <;> rfl

/-- With another tag that says the same on one of its fields, a declaration has the same
entity, but for the attributes kept with the column of that field, or is refused as before. -/
theorem Declaration.entity_between (h : (Attributes.parse raw).Alike (.parse raw'))
    (declaration : Declaration) (before after : List Field) :
    (declaration.between before (field.tagged raw') after).entity =
      Entity.keeping before (field.tagged raw) (.parse raw') <$>
        (declaration.between before (field.tagged raw) after).entity := by
  simp only [Declaration.entity, between, List.mapM_append, List.mapM_cons]
  cases hfirst : before.mapM (Field.read declaration.name) with
  | error e => rfl
  | ok first =>
    cases hread : (field.tagged raw).read declaration.name with
    | error e =>
      obtain ⟨tag, cause, ht, hp, rfl⟩ := Field.read_error_iff.mp hread
      have hread' : (field.tagged raw').read declaration.name =
          .error ⟨declaration.name, field.name, tag, cause⟩ :=
        Field.read_error_iff.mpr ⟨tag, cause, ht, hp, rfl⟩
      rw [hread']
      rfl
    | ok read =>
      obtain ⟨read', hread', hrelation, hcolumn'⟩ := Field.read_tagged h hread
      rw [hread']
      cases hlast : after.mapM (Field.read declaration.name) with
      | error e => rfl
      | ok last =>
        have hcolumn := Field.column?_of_read hread
        refine congrArg Except.ok ?_
        by_cases hr : (field.tagged raw).role = .column
        · obtain ⟨column, hc, rfl⟩ := if_pos hr ▸ hcolumn
          have hcount := forall₂_filterMap (mapM_ok_iff.mp hfirst) fun _ _ hf =>
            Field.column?_of_read hf
          rw [Entity.keeping, if_pos hr, hcount.length_eq]
          exact Entity.assemble_of_column hrelation hc (by rw [hcolumn', hc]; rfl) h
        · rw [if_neg hr] at hcolumn
          rw [Entity.keeping, if_neg hr]
          exact Entity.assemble_of_noColumn hrelation hcolumn (by rw [hcolumn', hcolumn]; rfl)

end

-- ---------------------------------------------------------------------------
-- Tags
-- ---------------------------------------------------------------------------

namespace Attributes

/-- To a column's tag a segment may be added under a key that is not known and not in the tag.
The diagnostics are the same but for one warning, about this key. The entity of a declaration
that has the tag on one of its fields is the same, whatever was read before, but for the
attributes kept with the column of that field. -/
theorem unknownKey_onlyWarns {raw segment : String} (hplain : ';' ∉ segment.toList)
    (hsaid : isBlankText segment.toList = false) (hunknown : keyOf segment.toList ∉ columnKeys)
    (hnew : (parse raw).has (keyOf segment.toList) = false) :
    (∃ before warning after, (parse raw).columnDiagnostics = before ++ after ∧
      (parse (raw ++ ";" ++ segment)).columnDiagnostics = before ++ warning :: after ∧
      warning.severity = .warning ∧ warning.key = keyOf segment.toList ∧
      ∀ diagnostic ∈ before ++ after, diagnostic.key ≠ keyOf segment.toList) ∧
    (parse (raw ++ ";" ++ segment)).columnDiagnostics.filter (·.severity = .error) =
      (parse raw).columnDiagnostics.filter (·.severity = .error) ∧
    ∀ (requests requests' : List TagRequest) (declaration : Declaration) (before after : List Field)
      (field : Field),
      (Entity.build (.after requests')
          (declaration.between before (field.tagged (raw ++ ";" ++ segment)) after)).1 =
        Entity.keeping before (field.tagged raw) (parse (raw ++ ";" ++ segment)) <$>
          (Entity.build (.after requests)
            (declaration.between before (field.tagged raw) after)).1 := by
  have hordered := orderedEntries_parse raw
  have hparse := parse_append_segment raw hplain hsaid
  obtain ⟨before, after, hbefore, hkeys, hafter⟩ :=
    columnDiagnostics_insert hordered hunknown hnew (valueOf segment.toList)
  rw [← hparse] at hafter
  refine ⟨⟨before, _, after, hbefore, hafter, rfl, rfl, hkeys⟩, ?_, ?_⟩
  · rw [hbefore, hafter, List.filter_append, List.filter_append,
      List.filter_cons_of_neg (by simp [Diagnostic.severity])]
  · intro requests requests' declaration before after field
    have halike : (parse raw).Alike (parse (raw ++ ";" ++ segment)) :=
      hparse ▸ alike_insert hordered hunknown _
    obtain ⟨next, hbuild, -⟩ := (TagCache.tallies_after requests).faithful.build
      (declaration.between before (field.tagged raw) after)
    obtain ⟨next', hbuild', -⟩ := (TagCache.tallies_after requests').faithful.build
      (declaration.between before (field.tagged (raw ++ ";" ++ segment)) after)
    rw [hbuild, hbuild']
    exact Declaration.entity_between halike declaration before after

def address : Field :=
  { name := "email", type := { base := "String", isPointer := true }, line := 3 }

def account : Declaration :=
  { name := "Account"
    file := "account.rs"
    line := 1
    fields := [] }

def accountKey : Field :=
  { name := "id", type := { base := "i64" }, attributes := some "primary_key", line := 2 }

/-- The warning about the new key comes before those about the keys that were there, since
keys are in order. -/
theorem unknownKey_onlyWarns_address :
    ';' ∉ " masked : yes".toList ∧ isBlankText " masked : yes".toList = false ∧
      keyOf " masked : yes".toList = "masked" ∧ "masked" ∉ columnKeys ∧
      (parse "index;size:0;not_null:x").has "masked" = false ∧
      (parse "index;size:0;not_null:x; masked : yes").columnDiagnostics =
        [⟨"masked", .unknownColumnKey⟩, ⟨"not_null", .flagWithValue "x"⟩, ⟨"size", .size "0"⟩] ∧
      (parse "index;size:0;not_null:x; masked : yes").columnDiagnostics.filter
          (·.severity = .error) =
        (parse "index;size:0;not_null:x").columnDiagnostics.filter (·.severity = .error) ∧
      ∃ entity, (Entity.build (.after [])
          (account.between [accountKey] (address.tagged "index;size:0;not_null:x") [])).1 =
            .ok entity ∧
        (Entity.build (.after []) (account.between [accountKey]
          (address.tagged "index;size:0;not_null:x; masked : yes") [])).1 =
            .ok (entity.keeping [accountKey] (address.tagged "index;size:0;not_null:x")
              (parse "index;size:0;not_null:x; masked : yes")) ∧
        entity.indexes = [⟨"idx_accounts_email", ["email"], false⟩] := by
  have hplain : ';' ∉ " masked : yes".toList := by decide
  have hsaid : isBlankText " masked : yes".toList = false := by decide
  have hunknown : keyOf " masked : yes".toList ∉ columnKeys := by decide
  have hnew : (parse "index;size:0;not_null:x").has (keyOf " masked : yes".toList) = false := by
    decide
  obtain ⟨-, herrors, hbuild⟩ := unknownKey_onlyWarns hplain hsaid hunknown hnew
  have hany : (Entity.build (.after [])
      (account.between [accountKey] (address.tagged "index;size:0;not_null:x") [])).1.toOption.any
        (fun entity => decide (entity.indexes = [⟨"idx_accounts_email", ["email"], false⟩])) =
          true := by
    decide +kernel
  obtain ⟨entity, he, hindexes⟩ := ok_of_any hany
  have hagain := hbuild [] [] account [accountKey] [] address
  rw [he] at hagain
  exact ⟨hplain, hsaid, by decide, by decide, hnew, by decide +kernel, herrors, entity, he, hagain,
    of_decide_eq_true hindexes⟩

end Attributes

end SchemaCompiler
