import Mathlib.Data.List.Induction
import Mathlib.Data.List.Nodup
import SchemaCompiler.Model.Validation

/-!
# Groups of entities

`groupNames_eq`: there is one group for every key that occurs, in the order of
first occurrences, and it lists the names of all entities with that key in their
order. A fault is found exactly for the groups of two or more.
-/

namespace SchemaCompiler

theorem eraseDups_concat [BEq α] [LawfulBEq α] (l : List α) (a : α) :
    (l ++ [a]).eraseDups = if l.contains a then l.eraseDups else l.eraseDups ++ [a] := by
  rw [List.eraseDups_append]
  cases h : l.contains a <;> simp_all [List.removeAll, List.eraseDups_cons]

theorem nodup_eraseDups [BEq α] [LawfulBEq α] (l : List α) : l.eraseDups.Nodup := by
  induction l using List.reverseRecOn with
  | nil => simp
  | append_singleton l a ih =>
    rw [eraseDups_concat]
    split
    · exact ih
    · rename_i h
      rw [← List.concat_eq_append]
      exact ih.concat (by simpa using h)

theorem eraseDups_append_replicate [BEq α] [LawfulBEq α] (l : List α) (a : α) (n : Nat) :
    (l ++ List.replicate (n + 1) a).eraseDups = (l ++ [a]).eraseDups := by
  induction n with
  | zero => rfl
  | succ n ih =>
    rw [List.replicate_succ', ← List.append_assoc, eraseDups_concat, if_pos (by simp), ih]

theorem eraseDups_concat_congr [BEq α] [LawfulBEq α] {l l' : List α} {a : α}
    (h : l.eraseDups = l'.eraseDups) : (l ++ [a]).eraseDups = (l' ++ [a]).eraseDups := by
  have hmem : l.contains a = l'.contains a := by
    rw [Bool.eq_iff_iff, List.contains_iff_mem, List.contains_iff_mem, ← List.mem_eraseDups, h,
      List.mem_eraseDups]
  rw [eraseDups_concat, eraseDups_concat, hmem, h]

-- ---------------------------------------------------------------------------
-- Adding to a group
-- ---------------------------------------------------------------------------

theorem addToGroup_of_notMem {key name : String} {groups : List (String × List String)}
    (h : key ∉ groups.map Prod.fst) :
    addToGroup key name groups = groups ++ [(key, [name])] := by
  induction groups with
  | nil => rfl
  | cons group rest ih =>
    simp only [List.map_cons, List.mem_cons, not_or] at h
    simp [addToGroup, Ne.symm h.1, ih h.2]

theorem addToGroup_of_mem {key name : String} {keys : List String} {names : String → List String}
    (hn : keys.Nodup) (h : key ∈ keys) :
    addToGroup key name (keys.map fun k => (k, names k)) =
      keys.map fun k => (k, if k = key then names k ++ [name] else names k) := by
  induction keys with
  | nil => cases h
  | cons k rest ih =>
    obtain ⟨hk, hr⟩ := List.nodup_cons.mp hn
    by_cases he : k = key
    · subst he
      have hne : ∀ j ∈ rest, j ≠ k := fun j hj e => hk (e ▸ hj)
      simp +contextual [addToGroup, hne]
    · have hm : key ∈ rest := (List.mem_cons.mp h).resolve_left (Ne.symm he)
      simp [addToGroup, he, ih hr hm]

-- ---------------------------------------------------------------------------
-- All groups
-- ---------------------------------------------------------------------------

/-- The names of the entities with a key, in order. -/
def namesUnder (key : Entity → String) (entities : List Entity) (k : String) : List String :=
  (entities.filter (key · = k)).map (·.name)

@[simp] theorem length_namesUnder {key : Entity → String} {entities : List Entity} {k : String} :
    (namesUnder key entities k).length = (entities.map key).count k := by
  simp [namesUnder, List.count, List.countP_eq_length_filter, List.filter_map,
    Function.comp_def, beq_eq_decide]

theorem namesUnder_concat {key : Entity → String} {entities : List Entity} {entity : Entity}
    {k : String} :
    namesUnder key (entities ++ [entity]) k =
      if k = key entity then namesUnder key entities k ++ [entity.name]
      else namesUnder key entities k := by
  by_cases h : k = key entity
  · simp [namesUnder, h]
  · simp [namesUnder, h, Ne.symm h]

theorem namesUnder_eq_nil {key : Entity → String} {entities : List Entity} {k : String}
    (h : k ∉ entities.map key) : namesUnder key entities k = [] := by
  simpa [← List.length_eq_zero_iff, List.count_eq_zero] using h

theorem groupNames_concat {key : Entity → String} {entities : List Entity} {entity : Entity} :
    groupNames key (entities ++ [entity]) =
      addToGroup (key entity) entity.name (groupNames key entities) := by
  simp [groupNames]

theorem groupNames_eq (key : Entity → String) (entities : List Entity) :
    groupNames key entities =
      (entities.map key).eraseDups.map fun k => (k, namesUnder key entities k) := by
  induction entities using List.reverseRecOn with
  | nil => rfl
  | append_singleton entities entity ih =>
    have hkeys : (entities ++ [entity]).map key = entities.map key ++ [key entity] := by simp
    rw [groupNames_concat, ih, hkeys, eraseDups_concat]
    simp only [namesUnder_concat]
    split
    · rename_i hm
      exact addToGroup_of_mem (nodup_eraseDups _) (by simpa using hm)
    · rename_i hm
      have hm : key entity ∉ entities.map key := by simpa using hm
      have hne : ∀ k ∈ (entities.map key).eraseDups, k ≠ key entity := by
        rintro k hk rfl
        exact hm (List.mem_eraseDups.mp hk)
      rw [addToGroup_of_notMem (by simpa [Function.comp_def] using hm), List.map_append]
      simp +contextual [namesUnder_eq_nil hm, hne]

-- ---------------------------------------------------------------------------
-- Faults of groups
-- ---------------------------------------------------------------------------

/-- The fault of a key, if at least two entities share it. -/
def sharedFault? (kind : String → List String → FaultKind) (key : Entity → String)
    (entities : List Entity) (k : String) : Option Fault :=
  match namesUnder key entities k with
  | first :: second :: others => some ⟨first, "", kind k (first :: second :: others)⟩
  | _ => none

theorem kind_of_mem_groupFaults {kind : String → List String → FaultKind}
    {groups : List (String × List String)} {fault : Fault} (h : fault ∈ groupFaults kind groups) :
    ∃ k names, fault.kind = kind k names := by
  obtain ⟨⟨k, names⟩, -, hs⟩ := List.mem_filterMap.mp h
  rcases names with _ | ⟨first, _ | ⟨second, others⟩⟩
  · cases hs
  · cases hs
  · cases hs
    exact ⟨k, _, rfl⟩

theorem groupFaults_groupNames {kind : String → List String → FaultKind} {key : Entity → String}
    {entities : List Entity} :
    groupFaults kind (groupNames key entities) =
      (entities.map key).eraseDups.filterMap (sharedFault? kind key entities) := by
  rw [groupNames_eq, groupFaults, List.filterMap_map]
  congr 1
  funext k
  rcases h : namesUnder key entities k with _ | ⟨_, _ | _⟩ <;> simp [sharedFault?, h]

theorem groupFaults_eq_nil_iff (kind : String → List String → FaultKind) {key : Entity → String}
    {entities : List Entity} :
    groupFaults kind (groupNames key entities) = [] ↔ (entities.map key).Nodup := by
  have hshared (k : String) :
      sharedFault? kind key entities k = none ↔ (entities.map key).count k ≤ 1 := by
    rw [← length_namesUnder, sharedFault?]
    rcases namesUnder key entities k with _ | ⟨_, _ | _⟩ <;> simp
  simp only [groupFaults_groupNames, List.filterMap_eq_nil_iff, hshared, List.mem_eraseDups,
    List.nodup_iff_count_le_one]
  refine ⟨fun h k => ?_, fun h k _ => h k⟩
  by_cases hk : k ∈ entities.map key
  · exact h k hk
  · simp [List.count_eq_zero.mpr hk]

end SchemaCompiler
