import Mathlib.Data.Multiset.MapFold
import SchemaCompiler.Proofs.Model.Group
import SchemaCompiler.Proofs.Model.Outcome
import SchemaCompiler.Proofs.Model.Validity

/-!
# Order of declarations

The order in which declarations are found decides neither whether they make a model nor
what is reported about it. Only the fault of a shared name is attributed to the first of
the entities that share it, and so can be told of another of them.
-/

namespace SchemaCompiler

variable {model other : Model}

-- ---------------------------------------------------------------------------
-- Faults of one entity
-- ---------------------------------------------------------------------------

theorem Model.get?_of_perm (hp : model.entities.Perm other.entities) (hn : model.names.Nodup)
    (name : String) : model.get? name = other.get? name := by
  have hother : other.names.Nodup := (hp.map Entity.name).nodup_iff.mp hn
  ext entity
  rw [get?_eq_some_iff hn, get?_eq_some_iff hother, hp.mem_iff]

theorem Model.usersOf_perm (hp : model.entities.Perm other.entities) (table : String) :
    (model.usersOf table).Perm (other.usersOf table) :=
  hp.filter _

theorem Column.referenceFaults_of_perm (hp : model.entities.Perm other.entities)
    (column : Column) : column.referenceFaults model = column.referenceFaults other := by
  rw [referenceFaults, referenceFaults]
  cases column.foreignKey with
  | none => rfl
  | some reference =>
    have husers := Model.usersOf_perm hp reference.table
    simp only
    generalize model.usersOf reference.table = users at husers ⊢
    generalize other.usersOf reference.table = users' at husers ⊢
    have hany : users.any (·.hasColumn reference.column) =
        users'.any (·.hasColumn reference.column) := by
      rw [Bool.eq_iff_iff, List.any_eq_true, List.any_eq_true]
      simp only [husers.mem_iff]
    cases users with
    | nil => rw [← husers.nil_eq]
    | cons user rest =>
      cases users' with
      | nil => exact absurd husers.eq_nil (List.cons_ne_nil user rest)
      | cons => simp only [hany]

theorem columnFaults_of_perm (hp : model.entities.Perm other.entities) {entity : String}
    {seen : List String} {columns : List Column} :
    columnFaults model entity seen columns = columnFaults other entity seen columns := by
  induction columns generalizing seen with
  | nil => rfl
  | cons column rest ih =>
    rw [columnFaults, columnFaults, ih, Column.faults, Column.faults,
      Column.referenceFaults_of_perm hp]

theorem Entity.faults_of_perm (hp : model.entities.Perm other.entities)
    (hn : model.names.Nodup) (entity : Entity) : entity.faults model = entity.faults other := by
  have hrelation (field : RelationField) :
      field.faults model entity = field.faults other entity := by
    rw [RelationField.faults, RelationField.faults, Model.get?_of_perm hp hn]
  simp only [faults, columnFaults_of_perm hp, hrelation]

theorem entityFaults_perm (hp : model.entities.Perm other.entities) (hn : model.names.Nodup) :
    (model.entities.flatMap (·.faults model)).Perm (other.entities.flatMap (·.faults other)) :=
  hp.flatMap fun entity _ => .of_eq (entity.faults_of_perm hp hn)

-- ---------------------------------------------------------------------------
-- Faults of shared names
-- ---------------------------------------------------------------------------

/-- The same issue, or that of a name which entities share, told of another of them and
with all of them in another order. -/
inductive Issue.Regrouped : Issue → Issue → Prop
  | same (issue : Issue) : Regrouped issue issue
  | sharedTable {table first first' : String} {others others' : List String}
      (members : (first :: others).Perm (first' :: others')) :
      Regrouped (Fault.issue ⟨first, "", .duplicateTable table (first :: others)⟩)
        (Fault.issue ⟨first', "", .duplicateTable table (first' :: others')⟩)
  | sharedModule {name first first' : String} {others others' : List String}
      (members : (first :: others).Perm (first' :: others')) :
      Regrouped (Fault.issue ⟨first, "", .duplicateModule name (first :: others)⟩)
        (Fault.issue ⟨first', "", .duplicateModule name (first' :: others')⟩)

theorem namesUnder_perm {entities entities' : List Entity} (hp : entities.Perm entities')
    (key : Entity → String) (k : String) :
    (namesUnder key entities k).Perm (namesUnder key entities' k) :=
  (hp.filter _).map _

section

variable {kind : String → List String → FaultKind} {key : Entity → String}

theorem sharedFault?_of_perm {entities entities' : List Entity} (hp : entities.Perm entities')
    {r : Fault → Fault → Prop}
    (hkind : ∀ {k first others first' others'}, (first :: others).Perm (first' :: others') →
      r ⟨first, "", kind k (first :: others)⟩ ⟨first', "", kind k (first' :: others')⟩)
    (k : String) :
    Option.Rel r (sharedFault? kind key entities k) (sharedFault? kind key entities' k) := by
  have hnames := namesUnder_perm hp key k
  have hlength := hnames.length_eq
  rw [sharedFault?, sharedFault?]
  generalize namesUnder key entities k = names at hnames hlength ⊢
  generalize namesUnder key entities' k = names' at hnames hlength ⊢
  rcases names with _ | ⟨first, _ | ⟨second, others⟩⟩ <;>
    rcases names' with _ | ⟨first', _ | ⟨second', others'⟩⟩ <;>
    simp at hlength
  · exact .none
  · exact .none
  · exact .some (hkind hnames)

theorem rel_filterMap {f g : α → Option β} {r : β → β → Prop} {l : List α}
    (h : ∀ a ∈ l, Option.Rel r (f a) (g a)) :
    Multiset.Rel r (l.filterMap f : Multiset β) (l.filterMap g) := by
  induction l with
  | nil => exact .zero
  | cons a rest ih =>
    obtain ⟨ha, hrest⟩ := List.forall_mem_cons.mp h
    rw [List.filterMap_cons, List.filterMap_cons]
    cases hf : f a <;> cases hg : g a <;> rw [hf, hg] at ha <;> cases ha
    · exact ih hrest
    · rename_i hr
      exact .cons hr (ih hrest)

theorem groupFaults_rel {entities entities' : List Entity} (hp : entities.Perm entities')
    {r : Fault → Fault → Prop}
    (hkind : ∀ {k first others first' others'}, (first :: others).Perm (first' :: others') →
      r ⟨first, "", kind k (first :: others)⟩ ⟨first', "", kind k (first' :: others')⟩) :
    Multiset.Rel r (groupFaults kind (groupNames key entities) : Multiset Fault)
      (groupFaults kind (groupNames key entities')) := by
  have hkeys : (entities.map key).eraseDups.Perm (entities'.map key).eraseDups := by
    rw [List.perm_ext_iff_of_nodup (nodup_eraseDups _) (nodup_eraseDups _)]
    intro k
    rw [List.mem_eraseDups, List.mem_eraseDups, (hp.map key).mem_iff]
  rw [groupFaults_groupNames, groupFaults_groupNames, Multiset.coe_eq_coe.mpr (hkeys.filterMap _)]
  exact rel_filterMap fun k _ => sharedFault?_of_perm hp hkind k

end

-- ---------------------------------------------------------------------------
-- Reports
-- ---------------------------------------------------------------------------

namespace Model

def ownFaults (model : Model) : List Fault :=
  model.entities.flatMap (·.faults model) ++ model.entities.filterMap Entity.tableNameFault?

def sharedFaults (model : Model) : List Fault :=
  groupFaults .duplicateTable (groupNames (·.table) model.entities) ++
    groupFaults .duplicateModule (groupNames (·.moduleName) model.entities)

theorem faults_perm (model : Model) :
    model.faults.Perm (model.ownFaults ++ model.sharedFaults) := by
  rw [faults, tableFaults, ownFaults, ← sharedFaults, List.append_assoc]
  exact List.perm_append_comm.append_left _

theorem sharedFaults_error {fault : Fault} (h : fault ∈ model.sharedFaults) :
    fault.kind.severity = .error := by
  rcases List.mem_append.mp h with h | h
  · exact groupFaults_error (fun _ _ => rfl) h
  · exact groupFaults_error (fun _ _ => rfl) h

theorem warnings_eq (model : Model) :
    model.validate.warnings.Perm
      ((model.ownFaults.filter (·.kind.severity = .warning)).map Fault.issue) := by
  have hnone : model.sharedFaults.filter (·.kind.severity = .warning) = [] := by
    rw [List.filter_eq_nil_iff]
    intro fault hf
    simp [sharedFaults_error hf]
  have hfilter := (model.faults_perm.filter (·.kind.severity = .warning)).map Fault.issue
  rwa [List.filter_append, hnone, List.append_nil] at hfilter

theorem errors_eq (model : Model) :
    model.validate.errors.Perm
      ((model.ownFaults.filter (·.kind.severity = .error)).map Fault.issue ++
        model.sharedFaults.map Fault.issue) := by
  have hall : model.sharedFaults.filter (·.kind.severity = .error) = model.sharedFaults := by
    rw [List.filter_eq_self]
    intro fault hf
    simp [sharedFaults_error hf]
  have hfilter := (model.faults_perm.filter (·.kind.severity = .error)).map Fault.issue
  rwa [List.filter_append, hall, List.map_append] at hfilter

theorem ownFaults_perm (hp : model.entities.Perm other.entities) (hn : model.names.Nodup) :
    model.ownFaults.Perm other.ownFaults :=
  (entityFaults_perm hp hn).append (hp.filterMap _)

theorem sharedFaults_rel (hp : model.entities.Perm other.entities) :
    Multiset.Rel (fun fault fault' : Fault => Issue.Regrouped fault.issue fault'.issue)
      (model.sharedFaults : Multiset Fault) other.sharedFaults := by
  rw [sharedFaults, sharedFaults, ← Multiset.coe_add, ← Multiset.coe_add]
  exact (groupFaults_rel hp .sharedTable).add (groupFaults_rel hp .sharedModule)

theorem errors_rel (hp : model.entities.Perm other.entities) (hn : model.names.Nodup) :
    Multiset.Rel Issue.Regrouped (model.validate.errors : Multiset Issue)
      other.validate.errors := by
  have hown := ((ownFaults_perm hp hn).filter (·.kind.severity = .error)).map Fault.issue
  rw [Multiset.coe_eq_coe.mpr model.errors_eq, Multiset.coe_eq_coe.mpr other.errors_eq,
    ← Multiset.coe_add, ← Multiset.coe_add, Multiset.coe_eq_coe.mpr hown, ← Multiset.map_coe,
    ← Multiset.map_coe, ← Multiset.map_coe]
  refine (Multiset.rel_refl_of_refl_on fun issue _ => .same issue).add ?_
  exact Multiset.rel_map.mpr (sharedFaults_rel hp)

theorem warnings_perm (hp : model.entities.Perm other.entities) (hn : model.names.Nodup) :
    model.validate.warnings.Perm other.validate.warnings := by
  have hown := ((ownFaults_perm hp hn).filter (·.kind.severity = .warning)).map Fault.issue
  exact model.warnings_eq.trans (hown.trans other.warnings_eq.symm)

theorem foldlM_add_perm {declarations declarations' : List Declaration}
    (hp : declarations.Perm declarations') (h : declarations.foldlM add {} = .ok model) :
    ∃ other, declarations'.foldlM add {} = .ok other ∧ model.entities.Perm other.entities := by
  obtain ⟨hreadable, hdistinct⟩ := buildable_iff.mpr ⟨model, h⟩
  have hbuildable : Buildable declarations' :=
    ⟨fun declaration hd => hreadable declaration (hp.mem_iff.mpr hd),
      (hp.map Declaration.name).nodup_iff.mp hdistinct⟩
  obtain ⟨other, ho⟩ := buildable_iff.mp hbuildable
  refine ⟨other, ho, ?_⟩
  rw [← filterMap_of_mapM (foldlM_add_ok_iff.mp h).1,
    ← filterMap_of_mapM (foldlM_add_ok_iff.mp ho).1]
  exact hp.filterMap _

/-- In whatever order declarations are found, they have a valid report or not, and the same
warnings and errors, but for the entity to which a shared table or module is attributed and
the order in which the error lists all that share it. -/
theorem validate_of_perm (requests requests' : List TagRequest)
    {declarations declarations' : List Declaration} (hp : declarations.Perm declarations')
    (hb : (build (.after requests) declarations).1 = .ok model) :
    ∃ other, (build (.after requests') declarations').1 = .ok other ∧
      model.validate.isValid = other.validate.isValid ∧
      model.validate.warnings.Perm other.validate.warnings ∧
      Multiset.Rel Issue.Regrouped (model.validate.errors : Multiset Issue)
        other.validate.errors := by
  have hn := (coherent_of_build hb).names
  rw [build_eq_foldlM (TagCache.tallies_after requests).faithful] at hb
  obtain ⟨other, ho, hentities⟩ := foldlM_add_perm hp hb
  have herrors := errors_rel hentities hn
  have hlength := Multiset.card_eq_card_of_rel herrors
  refine ⟨other, ?_, ?_, warnings_perm hentities hn, herrors⟩
  · rwa [build_eq_foldlM (TagCache.tallies_after requests').faithful]
  · rw [Multiset.coe_card, Multiset.coe_card] at hlength
    rw [Bool.eq_iff_iff, Report.isValid, Report.isValid, List.isEmpty_iff_length_eq_zero,
      List.isEmpty_iff_length_eq_zero, hlength]

/-- Two entities that share a table. -/
def readersAndAuthors : List Declaration := [
  { name := "Reader", file := "reader.rs", line := 1, table := some "table:people"
    fields := [
      { name := "id", type := { base := "i64" }, attributes := some "primary_key", line := 2 } ] },
  { name := "Author", file := "author.rs", line := 1, table := some "table:people"
    fields := [
      { name := "id", type := { base := "i64" }, attributes := some "primary_key", line := 2 } ] } ]

/-- The entity that comes first is told of the table it shares. -/
theorem validate_of_reversed :
    ∃ model other, (build (.after []) readersAndAuthors).1 = .ok model ∧
      (build (.after []) readersAndAuthors.reverse).1 = .ok other ∧
      model.validate.isValid = other.validate.isValid ∧
      model.validate.warnings.Perm other.validate.warnings ∧
      Multiset.Rel Issue.Regrouped (model.validate.errors : Multiset Issue)
        other.validate.errors ∧
      model.validate.errors.map (·.entity) = ["Reader"] ∧
      other.validate.errors.map (·.entity) = ["Author"] := by
  obtain ⟨model, hb, hmodel⟩ : ∃ model, (build {} readersAndAuthors).1 = .ok model ∧
      decide (model.validate.errors.map (·.entity) = ["Reader"]) = true :=
    built_of_any (by decide +kernel)
  obtain ⟨first, hf, hfirst⟩ : ∃ model, (build {} readersAndAuthors.reverse).1 = .ok model ∧
      decide (model.validate.errors.map (·.entity) = ["Author"]) = true :=
    built_of_any (by decide +kernel)
  obtain ⟨other, ho, hvalid, hwarnings, herrors⟩ :=
    validate_of_perm [] [] (List.reverse_perm _).symm hb
  obtain rfl : first = other := Except.ok.inj (hf.symm.trans ho)
  exact ⟨model, first, hb, ho, hvalid, hwarnings, herrors, of_decide_eq_true hmodel,
    of_decide_eq_true hfirst⟩

end Model

end SchemaCompiler
