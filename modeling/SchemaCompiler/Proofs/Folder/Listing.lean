import SchemaCompiler.Proofs.Folder.Places
import SchemaCompiler.Proofs.KeyOrder

/-!
# All files of a folder

The list of all files of a well-formed folder has each at its place once, in the order
of places. So the lists of two folders that differ in one file differ there only.
-/

namespace SchemaCompiler.Folder

variable {root inner rest a b : Folder} {place q : Place} {name : String} {content : Content}

-- ---------------------------------------------------------------------------
-- Members
-- ---------------------------------------------------------------------------

theorem exists_of_mem_files (h : (place, content) ∈ root.files) :
    ∃ name ∈ root.names, ∃ rest, place = name :: rest := by
  induction root generalizing place with
  | empty => cases h
  | file n c rest ih =>
    rcases List.mem_cons.mp h with he | h
    · cases he
      exact ⟨n, List.mem_cons_self, [], rfl⟩
    · obtain ⟨m, hm, more, rfl⟩ := ih h
      exact ⟨m, List.mem_cons_of_mem n hm, more, rfl⟩
  | folder n inner rest _ ih =>
    rcases List.mem_append.mp h with h | h
    · obtain ⟨⟨below, c⟩, -, he⟩ := List.mem_map.mp h
      cases he
      exact ⟨n, List.mem_cons_self, below, rfl⟩
    · obtain ⟨m, hm, more, rfl⟩ := ih h
      exact ⟨m, List.mem_cons_of_mem n hm, more, rfl⟩

theorem mem_files_folder_iff : (place, content) ∈ (folder name inner rest).files ↔
    (∃ below, place = name :: below ∧ (below, content) ∈ inner.files) ∨
      (place, content) ∈ rest.files := by
  rw [files, List.mem_append, List.mem_map]
  refine or_congr_left ⟨?_, ?_⟩
  · rintro ⟨⟨below, c⟩, hm, he⟩
    cases he
    exact ⟨below, rfl, hm⟩
  · rintro ⟨below, rfl, hm⟩
    exact ⟨(below, content), hm, rfl⟩

theorem fileAt?_eq_none_of_notMem (h : name ∉ root.names) (below : Place) :
    root.fileAt? (name :: below) = none := by
  rw [fileAt?, locate, find?_eq_none_iff.mpr h]

theorem fileAt?_file (h : name ∉ rest.names) :
    (file name content rest).fileAt? q =
      if q = [name] then some content else rest.fileAt? q := by
  have hnone := find?_eq_none_iff.mpr h
  refine fileAt?_of_find? (some content) (fun inner hi => ?_) (if_pos rfl) fun other ho => if_neg ho
  rw [hnone] at hi
  cases hi

theorem fileAt?_folder (name : String) (inner rest : Folder) (n : String) (below : Place) :
    (folder name inner rest).fileAt? (n :: below) =
      if name = n then inner.fileAt? below else rest.fileAt? (n :: below) := by
  by_cases hn : name = n
  · subst hn
    rw [if_pos rfl, fileAt?, locate, find?, if_pos rfl, fileAt?]
  · have hfind : (folder name inner rest).find? n = rest.find? n := if_neg hn
    rw [if_neg hn, fileAt?, locate_congr hfind, fileAt?]

theorem WellFormed.mem_files_iff (hr : root.WellFormed) :
    (place, content) ∈ root.files ↔ root.fileAt? place = some content := by
  induction root generalizing place with
  | empty => cases place <;> simp [files, fileAt?, locate, find?]
  | file n c rest ih =>
    have hn : n ∉ rest.names := fun hm => lt_irrefl n (hr.2.1 n hm)
    rw [files, List.mem_cons, ih hr.2.2, fileAt?_file hn]
    by_cases hp : place = [n]
    · subst hp
      simp [fileAt?_eq_none_of_notMem hn, eq_comm]
    · simp [hp]
  | folder n inner rest ihInner ih =>
    have hn : n ∉ rest.names := fun hm => lt_irrefl n (hr.2.1 n hm)
    rw [mem_files_folder_iff, ih hr.2.2]
    cases place with
    | nil => simp [fileAt?, locate]
    | cons m below =>
      rw [fileAt?_folder]
      by_cases hm : n = m
      · subst hm
        simp [fileAt?_eq_none_of_notMem hn, ihInner hr.1]
      · simp [hm, Ne.symm hm]

-- ---------------------------------------------------------------------------
-- Order
-- ---------------------------------------------------------------------------

def Precedes (first second : Place × Content) : Prop :=
  first.1 < second.1

theorem WellFormed.pairwise_files (hr : root.WellFormed) : root.files.Pairwise Precedes := by
  have hbelow {name : String} {rest : Folder} (hlt : ∀ n ∈ rest.names, name < n) (below : Place)
      {file : Place × Content} (hm : file ∈ rest.files) : name :: below < file.1 := by
    obtain ⟨m, hn, more, he⟩ := exists_of_mem_files hm
    rw [he]
    exact List.cons_lt_cons_iff.mpr (.inl (hlt m hn))
  induction root with
  | empty => exact .nil
  | file n c rest ih => exact .cons (fun file hm => hbelow hr.2.1 [] hm) (ih hr.2.2)
  | folder n inner rest ihInner ih =>
    refine List.pairwise_append.mpr ⟨?_, ih hr.2.2, fun first hf second hs => ?_⟩
    · refine (ihInner hr.1).map _ fun first second h => ?_
      exact List.cons_lt_cons_iff.mpr (.inr ⟨rfl, h⟩)
    · obtain ⟨⟨below, c⟩, -, rfl⟩ := List.mem_map.mp hf
      exact hbelow hr.2.1 below hs

-- ---------------------------------------------------------------------------
-- One place
-- ---------------------------------------------------------------------------

def SameFilesBut (place : Place) (a b : Folder) : Prop :=
  ∀ q, q ≠ place → a.fileAt? q = b.fileAt? q

theorem SameFilesBut.filter_files (h : SameFilesBut place a b) (ha : a.WellFormed)
    (hb : b.WellFormed) {p : Place × Content → Bool} (hp : ∀ content, p (place, content) = false) :
    a.files.filter p = b.files.filter p := by
  refine filter_of_same_but ha.pairwise_files hb.pairwise_files (fun file hne => ?_) hp
  rw [ha.mem_files_iff, hb.mem_files_iff, h file.1 hne]

end SchemaCompiler.Folder
