import Mathlib.Data.String.Basic
import SchemaCompiler.Folder.Basic
import SchemaCompiler.Proofs.Text.Split

/-!
# Entries of folders

What stands at the names of one folder. A folder is well formed if the names are in
order at every level and no path has to take a file's name for anything else.
-/

namespace SchemaCompiler

/-- A name that a path can end with to name a file. -/
structure IsFileName (name : String) : Prop where
  nonempty : name ≠ ""
  notHere : name ≠ "."
  notAbove : name ≠ ".."
  noSlash : '/' ∉ name.toList

instance (name : String) : Decidable (IsFileName name) :=
  decidable_of_iff (name ≠ "" ∧ name ≠ "." ∧ name ≠ ".." ∧ '/' ∉ name.toList)
    ⟨fun ⟨hn, hh, ha, hs⟩ => ⟨hn, hh, ha, hs⟩, fun ⟨hn, hh, ha, hs⟩ => ⟨hn, hh, ha, hs⟩⟩

theorem isSourceName_iff {name : String} :
    Path.isSourceName name = true ↔ ∃ stem ≠ "", name = stem ++ ".rs" := by
  rw [Path.isSourceName]
  constructor
  · intro h
    split at h
    · rename_i c rest hd
      exact ⟨.ofList (c :: rest), by simp [← String.toList_inj],
        String.toList_inj.mp (by simp [Text.dropEnd?_eq_some_iff.mp hd])⟩
    · cases h
  · rintro ⟨stem, hs, rfl⟩
    obtain ⟨c, rest, hc⟩ := List.exists_cons_of_ne_nil (String.toList_eq_nil_iff.not.mpr hs)
    have hdrop : Text.dropEnd? ['.', 'r', 's'] (stem ++ ".rs").toList = some (c :: rest) :=
      Text.dropEnd?_eq_some_iff.mpr (by simp [hc])
    rw [hdrop]

namespace Folder

-- ---------------------------------------------------------------------------
-- Well-formed folders
-- ---------------------------------------------------------------------------

def names : Folder → List String
  | empty => []
  | file name _ rest => name :: rest.names
  | folder name _ rest => name :: rest.names

/-- The names are in order, here and in the folders inside, and those of files are
names that a path can end with. -/
def WellFormed : Folder → Prop
  | empty => True
  | file name _ rest => IsFileName name ∧ (∀ n ∈ rest.names, name < n) ∧ rest.WellFormed
  | folder name inner rest =>
    inner.WellFormed ∧ (∀ n ∈ rest.names, name < n) ∧ rest.WellFormed

instance decidableWellFormed : (root : Folder) → Decidable root.WellFormed
  | empty => .isTrue trivial
  | file name _ rest =>
    have := decidableWellFormed rest
    inferInstanceAs
      (Decidable (IsFileName name ∧ (∀ n ∈ rest.names, name < n) ∧ rest.WellFormed))
  | folder name inner rest =>
    have := decidableWellFormed inner
    have := decidableWellFormed rest
    inferInstanceAs
      (Decidable (inner.WellFormed ∧ (∀ n ∈ rest.names, name < n) ∧ rest.WellFormed))

end Folder

def Entry.WellFormed (name : String) : Entry → Prop
  | file _ => IsFileName name
  | folder inner => inner.WellFormed

namespace Folder

variable {root inner rest : Folder} {name other : String} {content : Content} {entry : Entry}

theorem wellFormed_ofEntry : (ofEntry name entry rest).WellFormed ↔
    entry.WellFormed name ∧ (∀ n ∈ rest.names, name < n) ∧ rest.WellFormed := by
  cases entry <;> rfl

-- ---------------------------------------------------------------------------
-- Looking up
-- ---------------------------------------------------------------------------

theorem find?_ofEntry : (ofEntry name entry rest).find? other =
    if name = other then some entry else rest.find? other := by
  cases entry <;> rfl

theorem find?_eq_none_iff : root.find? name = none ↔ name ∉ root.names := by
  induction root with
  | empty => simp [find?, names]
  | file n content rest ih | folder n inner rest _ ih =>
    by_cases h : n = name
    · simp [find?, names, h]
    · simp [find?, names, h, ih, Ne.symm h]

theorem WellFormed.of_find? (hr : root.WellFormed) (h : root.find? name = some entry) :
    entry.WellFormed name := by
  induction root with
  | empty => cases h
  | file n content rest ih =>
    rw [find?] at h
    split at h
    · rename_i hn
      cases h
      exact hn ▸ hr.1
    · exact ih hr.2.2 h
  | folder n inner rest _ ih =>
    rw [find?] at h
    split at h
    · cases h
      exact hr.1
    · exact ih hr.2.2 h

theorem WellFormed.mem_ownFiles_iff (hr : root.WellFormed) :
    (name, content) ∈ root.ownFiles ↔ root.find? name = some (.file content) := by
  have hhead {n : String} {rest : Folder} (hlt : ∀ m ∈ rest.names, n < m)
      (h : rest.find? name = some (.file content)) : n ≠ name := by
    rintro rfl
    have hm : n ∈ rest.names := by
      by_contra hm
      simp [find?_eq_none_iff.mpr hm] at h
    exact lt_irrefl n (hlt n hm)
  induction root with
  | empty => simp [ownFiles, find?]
  | file n c rest ih =>
    have hrest : (name, content) ∈ rest.ownFiles ↔ _ := ih hr.2.2
    rw [ownFiles, List.mem_cons, Prod.mk.injEq, hrest, find?]
    constructor
    · rintro (⟨rfl, rfl⟩ | h)
      · rw [if_pos rfl]
      · rwa [if_neg (hhead hr.2.1 h)]
    · split
      · rename_i hn
        intro h
        cases h
        exact .inl ⟨hn.symm, rfl⟩
      · exact .inr
  | folder n inner rest _ ih =>
    have hrest : (name, content) ∈ rest.ownFiles ↔ _ := ih hr.2.2
    rw [ownFiles, hrest, find?]
    constructor
    · intro h
      rwa [if_neg (hhead hr.2.1 h)]
    · split
      · intro h
        cases h
      · exact id

theorem mem_names_of_mem_ownFiles (h : (name, content) ∈ root.ownFiles) : name ∈ root.names := by
  induction root with
  | empty => cases h
  | file n c rest ih =>
    rcases List.mem_cons.mp h with he | h
    · cases he
      exact List.mem_cons_self
    · exact List.mem_cons_of_mem _ (ih h)
  | folder n inner rest _ ih => exact List.mem_cons_of_mem _ (ih h)

theorem WellFormed.pairwise_ownFiles (hr : root.WellFormed) :
    root.ownFiles.Pairwise (·.1 < ·.1) := by
  induction root with
  | empty => exact .nil
  | file n c rest ih =>
    exact .cons (fun file hm => hr.2.1 _ (mem_names_of_mem_ownFiles hm)) (ih hr.2.2)
  | folder n inner rest _ ih => exact ih hr.2.2

theorem WellFormed.nodup_ownFiles (hr : root.WellFormed) : (root.ownFiles.map Prod.fst).Nodup :=
  List.pairwise_map.mpr (hr.pairwise_ownFiles.imp ne_of_lt)

-- ---------------------------------------------------------------------------
-- Putting
-- ---------------------------------------------------------------------------

theorem find?_put : (root.put name entry).find? other =
    if name = other then some entry else root.find? other := by
  induction root with
  | empty => rw [put, find?_ofEntry]
  | file n content rest ih | folder n inner rest _ ih =>
    rw [put]
    split
    · rename_i hn
      rw [find?_ofEntry, find?, hn]
      split <;> rfl
    · split
      · rw [find?_ofEntry]
      · rename_i hn _
        rw [find?, ih, find?]
        split
        · rename_i ho
          rw [if_neg fun he => hn (ho.trans he.symm)]
        · rfl

theorem mem_names_put :
    other ∈ (root.put name entry).names ↔ other = name ∨ other ∈ root.names := by
  rw [← not_iff_not, ← find?_eq_none_iff, find?_put, not_or, ← find?_eq_none_iff]
  by_cases h : name = other
  · simp [h]
  · simp [h, Ne.symm h]

theorem WellFormed.put (hr : root.WellFormed) (he : entry.WellFormed name) :
    (root.put name entry).WellFormed := by
  induction root with
  | empty => exact wellFormed_ofEntry.mpr ⟨he, by simp [names], trivial⟩
  | file n content rest ih | folder n inner rest _ ih =>
    rw [Folder.put]
    split
    · rename_i hn
      exact wellFormed_ofEntry.mpr ⟨he, hn ▸ hr.2⟩
    · split
      · rename_i hlt
        refine wellFormed_ofEntry.mpr ⟨he, ?_, hr⟩
        intro m hm
        rcases List.mem_cons.mp hm with rfl | hm
        · exact hlt
        · exact hlt.trans (hr.2.1 m hm)
      · rename_i hn hlt
        refine ⟨hr.1, fun m hm => ?_, ih hr.2.2⟩
        rcases mem_names_put.mp hm with rfl | hm
        · exact lt_of_le_of_ne (not_lt.mp hlt) hn
        · exact hr.2.1 m hm

-- ---------------------------------------------------------------------------
-- Erasing
-- ---------------------------------------------------------------------------

theorem mem_names_of_mem_erase (h : other ∈ (root.erase name).names) : other ∈ root.names := by
  induction root with
  | empty => exact h
  | file n content rest ih | folder n inner rest _ ih =>
    rw [erase] at h
    split at h
    · exact List.mem_cons_of_mem _ h
    · exact List.mem_cons.mpr ((List.mem_cons.mp h).imp_right ih)

theorem WellFormed.erase (hr : root.WellFormed) (name : String) :
    (root.erase name).WellFormed := by
  induction root with
  | empty => exact hr
  | file n content rest ih | folder n inner rest _ ih =>
    rw [Folder.erase]
    split
    · exact hr.2.2
    · exact ⟨hr.1, fun m hm => hr.2.1 m (mem_names_of_mem_erase hm), ih hr.2.2⟩

theorem WellFormed.find?_erase (hr : root.WellFormed) : (root.erase name).find? other =
    if name = other then none else root.find? other := by
  induction root with
  | empty => simp [Folder.erase, find?]
  | file n content rest ih | folder n inner rest _ ih =>
    rw [Folder.erase]
    split
    · rename_i hn
      subst hn
      rw [find?]
      split
      · rename_i ho
        subst ho
        exact find?_eq_none_iff.mpr fun hm => lt_irrefl n (hr.2.1 n hm)
      · rfl
    · rename_i hn
      rw [find?, ih hr.2.2, find?]
      split
      · rename_i ho
        rw [if_neg fun he => hn (ho.trans he.symm)]
      · rfl

end Folder

end SchemaCompiler
