import SchemaCompiler.Project.Clean
import SchemaCompiler.Proofs.Folder.Writing

/-!
# Cleaning

Cleaning a directory removes its generated source files and keeps every other file,
if the first line of each source file in it can be read.
-/

namespace SchemaCompiler

-- ---------------------------------------------------------------------------
-- Removing generated files
-- ---------------------------------------------------------------------------

namespace Folder

variable {root cleaned : Folder} {dir q : Place} {directory name path : String}
  {content : Content} {files : List (String × Content)}

theorem removeGenerated_none (h : ∀ file ∈ files, file.2.isGenerated = .ok false) :
    root.removeGenerated directory files = (.ok [], root) := by
  induction files with
  | nil => rfl
  | cons file rest ih =>
    rw [List.forall_mem_cons] at h
    rw [removeGenerated, h.1]
    exact ih h.2

/-- What is left after the files with some names are removed from a place. -/
structure Lacks (before after : Folder) (dir : Place) (gone : List String) : Prop where
  wellFormed : before.WellFormed → after.WellFormed
  folders : FoldersIn before after
  removed : ∀ name ∈ gone, after.fileAt? (dir ++ [name]) = none
  kept : ∀ q, (∀ name ∈ gone, q ≠ dir ++ [name]) → after.fileAt? q = before.fileAt? q

theorem lacks_nil (root : Folder) (dir : Place) : Lacks root root dir [] :=
  ⟨id, .refl root, by simp, fun _ _ => rfl⟩

theorem Lacks.cons {gone : List String} (hr : root.WellFormed)
    (hfile : root.fileAt? (dir ++ [name]) = some content)
    (h : Lacks (eraseAt (dir ++ [name]) root) cleaned dir gone) :
    Lacks root cleaned dir (name :: gone) where
  wellFormed _ := h.wellFormed (hr.eraseAt dir name)
  folders := (hr.foldersIn_eraseAt (requireFolder_ne_of_fileAt? hfile)).trans h.folders
  removed := by
    intro other ho
    by_cases hg : other ∈ gone
    · exact h.removed other hg
    · obtain rfl : other = name := (List.mem_cons.mp ho).resolve_right hg
      rw [h.kept _ fun n hn he => hg (by simp_all), hr.fileAt?_eraseAt hfile, if_pos rfl]
  kept := by
    intro q hq
    rw [List.forall_mem_cons] at hq
    rw [h.kept q hq.2, hr.fileAt?_eraseAt hfile, if_neg hq.1]

def generatedNames (files : List (String × Content)) : List String :=
  (files.filter (·.2.isGenerated = .ok true)).map Prod.fst

theorem mem_generatedNames : name ∈ generatedNames files ↔
    ∃ content, (name, content) ∈ files ∧ content.isGenerated = .ok true := by
  simp [generatedNames]

theorem removeGenerated_ok (hd : directory ≠ "") (hr : root.WellFormed)
    (hdir : root.resolve directory = .ok dir) (hfolder : root.requireFolder dir = .ok ())
    (hfiles : ∀ file ∈ files, IsFileName file.1 ∧ root.fileAt? (dir ++ [file.1]) = some file.2 ∧
      ∃ generated, file.2.isGenerated = .ok generated)
    (hn : (files.map Prod.fst).Nodup) :
    ∃ cleaned, root.removeGenerated directory files =
        (.ok ((generatedNames files).map (Path.join directory)), cleaned) ∧
      Lacks root cleaned dir (generatedNames files) := by
  induction files generalizing root with
  | nil => exact ⟨root, rfl, lacks_nil root dir⟩
  | cons file rest ih =>
    obtain ⟨name, content⟩ := file
    obtain ⟨⟨hname, hfile, generated, hg⟩, hrest⟩ := List.forall_mem_cons.mp hfiles
    obtain ⟨hnew, hn⟩ := List.nodup_cons.mp hn
    rw [removeGenerated, hg]
    cases generated with
    | false =>
      have hnames : generatedNames ((name, content) :: rest) = generatedNames rest := by
        simp [generatedNames, hg]
      rw [hnames]
      exact ih hr hdir hfolder hrest hn
    | true =>
      have hnames : generatedNames ((name, content) :: rest) = name :: generatedNames rest := by
        simp [generatedNames, hg]
      have hkeep := hr.foldersIn_eraseAt (requireFolder_ne_of_fileAt? hfile)
      have hleft : ∀ file ∈ rest,
          (eraseAt (dir ++ [name]) root).fileAt? (dir ++ [file.1]) = some file.2 := by
        intro other ho
        rw [hr.fileAt?_eraseAt hfile, if_neg]
        · exact (hrest other ho).2.1
        · intro he
          have hsame : other.1 = name := by simpa using he
          exact hnew (List.mem_map.mpr ⟨other, ho, hsame⟩)
      obtain ⟨cleaned, hc, hl⟩ := ih (hr.eraseAt dir name) (hkeep.resolve hdir)
        (hkeep dir hfolder)
        (fun other ho => ⟨(hrest other ho).1, hleft other ho, (hrest other ho).2.2⟩) hn
      refine ⟨cleaned, ?_, hnames ▸ .cons hr hfile hl⟩
      simp only [remove_join hd hname hdir hfolder hfile, hc, hnames, List.map_cons]

-- ---------------------------------------------------------------------------
-- Cleaning a directory
-- ---------------------------------------------------------------------------

structure HasSource (root : Folder) (dir : Place) (name : String) (content : Content) : Prop where
  file : root.fileAt? (dir ++ [name]) = some content
  source : Path.isSourceName name = true

theorem folderAt_eq_ok_iff {inner : Folder} : root.folderAt directory = .ok inner ↔
    ∃ dir, root.resolve directory = .ok dir ∧ root.locate dir = .ok (.folder inner) := by
  rw [folderAt, entry]
  cases root.resolve directory with
  | error e => simp [bind, Except.bind]
  | ok dir =>
    simp only [bind, Except.bind, Except.ok.injEq, exists_eq_left']
    split <;> simp_all

theorem WellFormed.isFileName (hr : root.WellFormed)
    (h : root.fileAt? (dir ++ [name]) = some content) : IsFileName name := by
  obtain ⟨inner, hi, hf⟩ := locate_of_locate_append_singleton (fileAt?_eq_some_iff.mp h)
  exact (hr.of_locate hi).of_find? hf

theorem WellFormed.mem_sources_iff {inner : Folder} (hr : root.WellFormed)
    (hi : root.locate dir = .ok (.folder inner)) :
    (name, content) ∈ inner.ownFiles.filter (fun (name, _) => Path.isSourceName name) ↔
      root.HasSource dir name content := by
  rw [List.mem_filter, (hr.of_locate hi).mem_ownFiles_iff, ← locate_singleton,
    ← fileAt?_eq_some_iff, ← fileAt?_append hi]
  exact ⟨fun ⟨hf, hs⟩ => ⟨hf, hs⟩, fun h => ⟨h.file, h.source⟩⟩

theorem clean_ok (hd : directory ≠ "") (hr : root.WellFormed)
    (hdir : root.resolve directory = .ok dir) (hfolder : root.requireFolder dir = .ok ())
    (hread : ∀ name content, root.HasSource dir name content →
      ∃ generated, content.isGenerated = .ok generated) :
    ∃ gone cleaned, root.clean directory = (.ok (gone.map (Path.join directory)), cleaned) ∧
      Lacks root cleaned dir gone ∧
      ∀ name, name ∈ gone ↔
        ∃ content, root.HasSource dir name content ∧ content.isGenerated = .ok true := by
  obtain ⟨inner, hi⟩ := requireFolder_eq_ok_iff.mp hfolder
  have hw := hr.of_locate hi
  have hfiles : ∀ file ∈ inner.ownFiles.filter (fun (name, _) => Path.isSourceName name),
      IsFileName file.1 ∧ root.fileAt? (dir ++ [file.1]) = some file.2 ∧
        ∃ generated, file.2.isGenerated = .ok generated := by
    intro file hm
    have hs : root.HasSource dir file.1 file.2 := (hr.mem_sources_iff hi).mp hm
    have hown := hw.mem_ownFiles_iff.mp (List.mem_filter.mp hm).1
    exact ⟨hw.of_find? hown, hs.file, hread _ _ hs⟩
  have hn : ((inner.ownFiles.filter fun (name, _) => Path.isSourceName name).map
      Prod.fst).Nodup :=
    hw.nodup_ownFiles.sublist (List.filter_sublist.map Prod.fst)
  obtain ⟨cleaned, hc, hl⟩ := removeGenerated_ok hd hr hdir hfolder hfiles hn
  refine ⟨_, cleaned, ?_, hl, fun name => ?_⟩
  · rw [clean, folderAt_eq_ok_iff.mpr ⟨dir, hdir, hi⟩]
    exact hc
  · simp only [mem_generatedNames, hr.mem_sources_iff hi]

theorem clean_none (hr : root.WellFormed) (hdir : root.resolve directory = .ok dir)
    (hfolder : root.requireFolder dir = .ok ())
    (hnone : ∀ name content, root.HasSource dir name content → content.isGenerated = .ok false) :
    root.clean directory = (.ok [], root) := by
  obtain ⟨inner, hi⟩ := requireFolder_eq_ok_iff.mp hfolder
  rw [clean, folderAt_eq_ok_iff.mpr ⟨dir, hdir, hi⟩]
  exact removeGenerated_none fun file hm =>
    hnone file.1 file.2 ((hr.mem_sources_iff hi).mp hm)

theorem Lacks.clean {gone : List String} (h : Lacks root cleaned dir gone) (hr : root.WellFormed)
    (hdir : root.resolve directory = .ok dir) (hfolder : root.requireFolder dir = .ok ())
    (hread : ∀ name content, root.HasSource dir name content →
      ∃ generated, content.isGenerated = .ok generated)
    (hgone : ∀ name, name ∈ gone ↔
      ∃ content, root.HasSource dir name content ∧ content.isGenerated = .ok true) :
    cleaned.clean directory = (.ok [], cleaned) := by
  refine clean_none (h.wellFormed hr) (h.folders.resolve hdir) (h.folders dir hfolder) ?_
  intro name content hsource
  have hn : name ∉ gone := fun hn => by simpa [h.removed name hn] using hsource.file
  have hbefore : root.HasSource dir name content := by
    refine ⟨?_, hsource.source⟩
    rw [← hsource.file, h.kept]
    rintro other ho he
    obtain rfl : name = other := by simpa using he
    exact hn ho
  obtain ⟨generated, hg⟩ := hread name content hbefore
  cases generated with
  | false => exact hg
  | true => exact absurd ((hgone name).mpr ⟨content, hbefore, hg⟩) hn

end Folder

end SchemaCompiler
