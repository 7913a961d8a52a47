import SchemaCompiler.Proofs.Folder.Paths

/-!
# Writing and removing one file

Making folders adds folders only. Writing a file changes nothing else, and neither
does removing it.
-/

namespace SchemaCompiler.Folder

variable {root made written : Folder} {place q dir : Place} {name directory : String}
  {content : Content}

-- ---------------------------------------------------------------------------
-- Making folders
-- ---------------------------------------------------------------------------

/-- A root with the same files and no folder less. -/
structure Grows (before after : Folder) : Prop where
  folders : FoldersIn before after
  files : ∀ q, after.fileAt? q = before.fileAt? q
  wellFormed : before.WellFormed → after.WellFormed

theorem Grows.refl (root : Folder) : Grows root root := ⟨.refl root, fun _ => rfl, id⟩

theorem Grows.trans {a b c : Folder} (h : Grows a b) (h' : Grows b c) : Grows a c :=
  ⟨h.folders.trans h'.folders, fun q => (h'.files q).trans (h.files q),
    fun ha => h'.wellFormed (h.wellFormed ha)⟩

theorem grows_putAt_empty (h : root.locate (place ++ [name]) = .error .notFound) :
    Grows root (putAt (.folder .empty) (place ++ [name]) root) where
  folders := foldersIn_putAt (by simp [requireFolder, h])
  files _ := fileAt?_putAt_empty h
  wellFormed hr := hr.putAt trivial

theorem grows_makeFolders {steps : List String} (h : root.makeFolders place steps = .ok made) :
    Grows root made := by
  induction steps generalizing root place with
  | nil =>
    cases h
    exact .refl _
  | cons piece rest ih =>
    rw [makeFolders] at h
    split at h
    · exact ih h
    · split at h
      · exact ih h
      · cases hl : root.locate (place ++ [piece]) with
        | ok entry =>
          cases entry with
          | folder inner => exact ih (by simpa only [hl] using h)
          | file content => simp [hl] at h
        | error e =>
          cases e with
          | notFound => exact (grows_putAt_empty hl).trans (ih (by simpa only [hl] using h))
          | _ => simp [hl] at h

-- ---------------------------------------------------------------------------
-- Writing
-- ---------------------------------------------------------------------------

theorem writeHere_ok {path : String} (h : root.writeHere path content = .ok written) :
    ∃ place, root.resolve path = .ok place ∧ root.requireFolder place ≠ .ok () ∧
      written = putAt (.file content) place root := by
  simp only [writeHere, bind_ok_iff] at h
  obtain ⟨place, hp, h⟩ := h
  refine ⟨place, hp, ?_⟩
  split at h
  · cases h
  · rename_i hl
    cases h
    exact ⟨by simp [requireFolder, hl], rfl⟩
  · rename_i hl
    cases h
    exact ⟨by simp [requireFolder, hl], rfl⟩
  · cases h

theorem write_join (hd : directory ≠ "") (hn : IsFileName name)
    (h : root.write (Path.join directory name) content = (.ok (), written)) :
    ∃ dir, written.resolve directory = .ok dir ∧ written.requireFolder dir = .ok () ∧
      FoldersIn root written ∧ (root.WellFormed → written.WellFormed) ∧
        ∀ q, written.fileAt? q = if q = dir ++ [name] then some content else root.fileAt? q := by
  rw [write] at h
  dsimp only at h
  split at h
  · cases h
  · rename_i made hm
    have hgrows := grows_makeFolders hm
    split at h
    · cases h
    · rename_i hw
      cases h
      obtain ⟨place, hp, hplace, rfl⟩ := writeHere_ok hw
      obtain ⟨dir, hdir, hfolder, rfl⟩ := (resolve_join_iff hd hn).mp hp
      have hkeep : FoldersIn made (putAt (.file content) (dir ++ [name]) made) :=
        foldersIn_putAt hplace
      refine ⟨dir, hkeep.resolve hdir, hkeep dir hfolder, hgrows.folders.trans hkeep,
        fun hr => (hgrows.wellFormed hr).putAt hn, fun q => ?_⟩
      rw [fileAt?_putAt_file hfolder hplace, hgrows.files]

-- ---------------------------------------------------------------------------
-- Removing
-- ---------------------------------------------------------------------------

theorem remove_join (hd : directory ≠ "") (hn : IsFileName name)
    (hdir : root.resolve directory = .ok dir) (hfolder : root.requireFolder dir = .ok ())
    (h : root.fileAt? (dir ++ [name]) = some content) :
    root.remove (Path.join directory name) = .ok (eraseAt (dir ++ [name]) root) := by
  have hp := (resolve_join_iff hd hn).mpr ⟨dir, hdir, hfolder, rfl⟩
  simp only [remove, hp, bind, Except.bind, fileAt?_eq_some_iff.mp h]

end SchemaCompiler.Folder
