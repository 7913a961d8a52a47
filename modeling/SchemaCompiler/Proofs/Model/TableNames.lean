import SchemaCompiler.Proofs.Model.Build
import SchemaCompiler.Proofs.Model.Group
import SchemaCompiler.Proofs.Naming.Inflection
import SchemaCompiler.Proofs.Naming.SnakeForm
import SchemaCompiler.Proofs.Text.Split

/-!
# Table names from names of entities

Snake case of an identifier that has a letter or a digit is a table name, and the plural of
a table name made so is one too: a plural keeps the beginning of a word and adds letters.
-/

namespace SchemaCompiler

open Text

-- ---------------------------------------------------------------------------
-- Words between underscores
-- ---------------------------------------------------------------------------

/-- Lowercase letters and digits, and single underscores between them. -/
structure IsTableText (cs : List Char) : Prop extends Naming.Parting cs where
  head : cs.head? ≠ some '_'
  nonempty : cs ≠ []
  plain : ∀ c ∈ cs, c = '_' ∨ c.isLower = true ∨ c.isDigit = true

theorem nil_notMem_pieces_iff {cs : List Char} (h : [] ∉ (pieces '_' cs).tail) :
    [] ∉ pieces '_' cs ↔ cs ≠ [] ∧ cs.head? ≠ some '_' := by
  cases cs with
  | nil => simp [pieces]
  | cons c rest =>
    obtain ⟨piece, more, hp⟩ := List.exists_cons_of_ne_nil (@pieces_ne_nil '_' rest)
    by_cases hc : c = '_'
    · simp [pieces, hc]
    · simpa [pieces, hc, hp] using h

theorem Naming.Parting.nil_notMem_tail {cs : List Char} (h : Naming.Parting cs) :
    [] ∉ (pieces '_' cs).tail := by
  induction cs with
  | nil => simp [pieces]
  | cons c rest ih =>
    obtain ⟨hsingle, hlast⟩ := h
    rw [List.isChain_cons] at hsingle
    have hrest : Naming.Parting rest := by
      refine ⟨hsingle.2, fun he => hlast ?_⟩
      rw [List.getLast?_cons, he]
      rfl
    by_cases hc : c = '_'
    · have hword : rest ≠ [] ∧ rest.head? ≠ some '_' := by
        subst hc
        refine ⟨?_, fun hhead => hsingle.1 '_' hhead ⟨rfl, rfl⟩⟩
        rintro rfl
        exact hlast rfl
      simpa [pieces, hc] using (nil_notMem_pieces_iff (ih hrest)).mpr hword
    · obtain ⟨piece, more, hp⟩ := List.exists_cons_of_ne_nil (@pieces_ne_nil '_' rest)
      simpa [pieces, hc, hp] using ih hrest

theorem IsTableText.isTableName {name : String} (h : IsTableText name.toList) :
    isTableName name = true := by
  have hnil := (nil_notMem_pieces_iff h.nil_notMem_tail).mpr ⟨h.nonempty, h.head⟩
  rw [SchemaCompiler.isTableName, List.all_eq_true]
  intro word hword
  have hletters : ∀ c ∈ word, c.isLower = true ∨ c.isDigit = true := by
    intro c hc
    have hne : c ≠ '_' := ne_of_mem_of_not_mem hc (separator_notMem_of_mem_pieces hword)
    exact (h.plain c ((mem_pieces_iff hne).mp ⟨word, hword, hc⟩)).resolve_left hne
  have hne : word ≠ [] := ne_of_mem_of_not_mem hword hnil
  simpa [hne] using hletters

theorem Naming.Parting.append_letters {stem ending : List Char}
    (h : stem.IsChain fun c d => ¬ (c = '_' ∧ d = '_')) (hne : ending ≠ [])
    (hending : '_' ∉ ending) : Naming.Parting (stem ++ ending) := by
  have hletter : ∀ c ∈ ending, c ≠ '_' := fun c hc => ne_of_mem_of_not_mem hc hending
  constructor
  case single =>
    refine List.isChain_append.mpr ⟨h, ?_, ?_⟩
    · exact (List.pairwise_of_forall_mem_list fun c hc d _ => by simp [hletter c hc]).isChain
    · intro c _ d hd
      simp [hletter d (List.mem_of_mem_head? hd)]
  case last =>
    rw [List.getLast?_append_of_ne_nil _ hne]
    exact fun hlast => hletter _ (List.mem_of_getLast? hlast) rfl

theorem IsTableText.append {cs stem ending : List Char} (h : IsTableText cs)
    (hstem : stem <+: cs) (hne : ending ≠ []) (hending : ∀ c ∈ ending, c.isLower = true) :
    IsTableText (stem ++ ending) := by
  obtain ⟨rest, rfl⟩ := hstem
  have hplain : '_' ∉ ending := by
    intro hm
    exact absurd (hending '_' hm) (by decide)
  constructor
  case toParting => exact .append_letters h.single.left_of_append hne hplain
  case head =>
    cases stem with
    | nil => exact fun hhead => hplain (List.mem_of_mem_head? hhead)
    | cons c more => exact h.head
  case nonempty => simp [hne]
  case plain =>
    intro c hc
    rcases List.mem_append.mp hc with hc | hc
    · exact h.plain c (List.mem_append_left rest hc)
    · exact .inr (.inl (hending c hc))

namespace Naming

-- ---------------------------------------------------------------------------
-- Plural
-- ---------------------------------------------------------------------------

theorem exists_prefix_regularPlural (cs : List Char) :
    ∃ stem ending, stem <+: cs ∧ ending ∈ [['s'], ['e', 's'], ['i', 'e', 's']] ∧
      regularPlural cs = stem ++ ending := by
  by_cases hy : EndsInConsonantY cs
  · obtain ⟨stem, c, hc, rfl⟩ := hy
    refine ⟨stem ++ [c], ['i', 'e', 's'], ⟨['y'], by simp⟩, by simp, ?_⟩
    simp [regularPlural_y hc]
  · refine ⟨cs, _, List.prefix_rfl, ?_, regularPlural_eq_append hy⟩
    split <;> simp

theorem isTableName_plural {word : String} (h : IsTableText word.toList) :
    isTableName (plural word) = true := by
  have hwords : ∀ word ∈ uncountable, isTableName word = true := by decide
  have hforms : ∀ entry ∈ irregularPlurals, isTableName entry.2 = true := by decide
  rw [plural]
  split
  · exact h.isTableName
  · split
    · rename_i form hform
      exact hforms _ (mem_of_lookup_eq_some hform)
    · obtain ⟨stem, ending, hstem, hending, hplural⟩ := exists_prefix_regularPlural word.toList
      have hletters : ending ≠ [] ∧ ∀ c ∈ ending, c.isLower = true := by
        simp only [List.mem_cons, List.not_mem_nil, or_false] at hending
        rcases hending with rfl | rfl | rfl <;> simp
      refine IsTableText.isTableName ?_
      rw [String.toList_ofList, hplural]
      exact h.append hstem hletters.1 hletters.2

-- ---------------------------------------------------------------------------
-- Snake case
-- ---------------------------------------------------------------------------

theorem loweredCapital_of_continuesName {c d : Char} (h : Sql.continuesName c = true)
    (hc : c ≠ '_') (hd : d ∈ loweredCapital c) : d.isLower = true ∨ d.isDigit = true := by
  have hall : (loweredCapital c).all (fun d => d.isLower || d.isDigit) = true :=
    of_ascii (p := fun c => Sql.continuesName c = true → c ≠ '_' →
      (loweredCapital c).all (fun d => d.isLower || d.isDigit) = true) (by decide)
      (Sql.ascii_of_continuesName h) h hc
  simpa using List.all_eq_true.mp hall d hd

theorem isTableText_snake {name : String} (h : Sql.isIdentifier name = true)
    (hword : ∃ c ∈ name.toList, c.isAlphanum = true) : IsTableText (snake name).toList := by
  rw [Sql.isIdentifier, Sql.isIdentifierText_eq, Bool.and_eq_true, List.all_eq_true] at h
  constructor
  case toParting => exact parting_snake name
  case head => exact head?_snake_ne_underscore name
  case nonempty =>
    obtain ⟨c, hc, halnum⟩ := hword
    have hs : isSeparator c = false :=
      of_ascii (p := fun c => c.isAlphanum = true → isSeparator c = false) (by decide)
        (Sql.ascii_of_continuesName (h.1 c hc)) halnum
    have hkept : c ∈ name.toList.filter (!isSeparator ·) :=
      List.mem_filter.mpr ⟨hc, by simp [hs]⟩
    intro hnil
    have hletters := filter_snake name
    rw [hnil, List.filter_nil, eq_comm, List.flatMap_eq_nil_iff] at hletters
    exact loweredCapital_ne_nil c (hletters c hkept)
  case plain =>
    intro d hd
    rcases mem_snake hd with rfl | ⟨c, hc, hs, hd⟩
    · exact .inl rfl
    · exact .inr (loweredCapital_of_continuesName (h.1 c hc) (not_isSeparator_iff.mp hs).1 hd)

end Naming

-- ---------------------------------------------------------------------------
-- Reports
-- ---------------------------------------------------------------------------

theorem Entity.Assembled.table {entity : Entity} (h : entity.Assembled)
    (hderived : entity.hasExplicitTable = false) : entity.table = Naming.tableName entity.name := by
  obtain ⟨declaration, attributes, fields, rfl⟩ := h
  simp only [assemble, Option.isSome_eq_false_iff, Option.isNone_iff_eq_none] at hderived ⊢
  simp [hderived]

theorem Model.badDerivedTable_of_mem_tableFaults {model : Model} {fault : Fault}
    {table name : String} (h : fault ∈ model.tableFaults)
    (hkind : fault.kind = .badDerivedTable table name) :
    ∃ entity ∈ model.entities, entity.name = name ∧ entity.hasExplicitTable = false ∧
      isTableName entity.table = false := by
  rw [tableFaults, List.mem_append, List.mem_append] at h
  rcases h with (h | h) | h
  · obtain ⟨key, names, hk⟩ := kind_of_mem_groupFaults h
    rw [hk] at hkind
    cases hkind
  · obtain ⟨key, names, hk⟩ := kind_of_mem_groupFaults h
    rw [hk] at hkind
    cases hkind
  · obtain ⟨entity, he, hf⟩ := List.mem_filterMap.mp h
    rw [Entity.tableNameFault?] at hf
    split at hf
    · cases hf
    · split at hf <;> cases hf <;> cases hkind
      rename_i hill hderived
      exact ⟨entity, he, rfl, by simpa using hderived, by simpa using hill⟩

/-- The table name derived from an identifier with a letter or a digit is well formed, and no
built model is at fault for it. -/
theorem derivedTable_accepted {name : String} (hname : Sql.isIdentifier name = true)
    (hword : ∃ c ∈ name.toList, c.isAlphanum = true) :
    isTableName (Naming.tableName name) = true ∧
      ∀ (cache : TagCache) (declarations : List Declaration) (model : Model),
        (Model.build cache declarations).1 = .ok model →
          ∀ fault ∈ model.tableFaults, ∀ table, fault.kind ≠ .badDerivedTable table name := by
  have hderived : isTableName (Naming.tableName name) = true :=
    Naming.isTableName_plural (Naming.isTableText_snake hname hword)
  refine ⟨hderived, fun cache declarations model hb fault hfault table hkind => ?_⟩
  obtain ⟨entity, he, rfl, hown, hill⟩ :=
    Model.badDerivedTable_of_mem_tableFaults hfault hkind
  rw [((Model.coherent_of_build hb).assembled entity he).table hown, hderived] at hill
  cases hill

/-- A name with an acronym and with underscores before and inside it, and no table of its own. -/
def dailyEntry : Declaration where
  name := "_Daily__HTTPEntry"
  file := "entry.rs"
  line := 1
  fields := [
    { name := "id", type := { base := "i64" }, attributes := some "primary_key", line := 2 }]

theorem derivedTable_accepted_dailyEntry :
    Sql.isIdentifier dailyEntry.name = true ∧ (∃ c ∈ dailyEntry.name.toList, c.isAlphanum = true) ∧
      Naming.tableName dailyEntry.name = "daily_http_entries" ∧
      isTableName (Naming.tableName dailyEntry.name) = true ∧
      ∃ model, (Model.build {} [dailyEntry]).1 = .ok model ∧
        (model.entities.map (·.table)) = ["daily_http_entries"] ∧
        ∀ fault ∈ model.tableFaults, ∀ table,
          fault.kind ≠ .badDerivedTable table dailyEntry.name := by
  have hname : Sql.isIdentifier dailyEntry.name = true := by decide
  have hword : ∃ c ∈ dailyEntry.name.toList, c.isAlphanum = true := ⟨'D', by decide, by decide⟩
  have hany : ∃ model, (Model.build {} [dailyEntry]).1 = .ok model ∧
      decide (model.entities.map (·.table) = ["daily_http_entries"]) = true :=
    Model.built_of_any (by decide +kernel)
  obtain ⟨model, hb, htables⟩ := hany
  obtain ⟨hderived, haccepted⟩ := derivedTable_accepted hname hword
  exact ⟨hname, hword, by decide +kernel, hderived, model, hb, of_decide_eq_true htables,
    haccepted {} [dailyEntry] model hb⟩

-- A name without letters and digits has an empty snake case, and no table name.
example : isTableName (Naming.tableName "__") = false := by decide

end SchemaCompiler
