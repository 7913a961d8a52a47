import SchemaCompiler.Proofs.Artifact.SourceFiles
import SchemaCompiler.Proofs.Project.Cleaning
import SchemaCompiler.Proofs.Project.Writing

/-!
# Removing what a run wrote

After a run with the built-in templates, cleaning its directory removes all that it
wrote, and of the files that were there before those that were generated already.
Nothing else is changed, and nothing is left to remove.
-/

namespace SchemaCompiler

open Folder

variable {root written : Folder} {directory : String} {artifacts : List Artifact}

-- ---------------------------------------------------------------------------
-- Written artifacts
-- ---------------------------------------------------------------------------

/-- A root in which artifacts are in a directory, and that is as before elsewhere. -/
structure Folder.Holds (before after : Folder) (directory : String) (artifacts : List Artifact) :
    Prop where
  wellFormed : before.WellFormed → after.WellFormed
  folders : FoldersIn before after
  held : ∀ artifact ∈ artifacts, ∃ dir, after.resolve directory = .ok dir ∧
    after.requireFolder dir = .ok () ∧
      after.fileAt? (dir ++ [artifact.fileName]) = some (.ofText artifact.contents)
  others : ∀ q, (∀ artifact ∈ artifacts, ∀ dir, after.resolve directory = .ok dir →
    q ≠ dir ++ [artifact.fileName]) → after.fileAt? q = before.fileAt? q

theorem holds_nil (root : Folder) (directory : String) : root.Holds root directory [] :=
  ⟨id, .refl root, by simp, fun _ _ => rfl⟩

theorem holds_cons {middle : Folder} {artifact : Artifact} (hd : directory ≠ "")
    (hname : IsFileName artifact.fileName)
    (hnew : artifact.fileName ∉ artifacts.map (·.fileName))
    (hw : root.write (Path.join directory artifact.fileName) (.ofText artifact.contents) =
      (.ok (), middle))
    (h : middle.Holds written directory artifacts) :
    root.Holds written directory (artifact :: artifacts) := by
  obtain ⟨dir, hdir, hfolder, hkeep, hwell, hfiles⟩ := write_join hd hname hw
  have hfinal := h.folders.resolve hdir
  refine ⟨fun hr => h.wellFormed (hwell hr), hkeep.trans h.folders, ?_, fun q hq => ?_⟩
  · refine List.forall_mem_cons.mpr ⟨⟨dir, hfinal, h.folders dir hfolder, ?_⟩, h.held⟩
    rw [h.others, hfiles, if_pos rfl]
    intro other ho dir' hdir' he
    have hsame : artifact.fileName = other.fileName := by
      rw [hfinal] at hdir'
      cases hdir'
      simpa using he
    exact hnew (hsame ▸ List.mem_map_of_mem ho)
  · rw [List.forall_mem_cons] at hq
    rw [h.others q hq.2, hfiles, if_neg (hq.1 dir hfinal)]

theorem holds_of_writeAll {paths : List String} (hd : directory ≠ "")
    (hname : ∀ artifact ∈ artifacts, IsFileName artifact.fileName)
    (hn : (artifacts.map (·.fileName)).Nodup)
    (h : Artifact.writeAll Folder.writer directory root artifacts = (.ok paths, written)) :
    root.Holds written directory artifacts ∧
      paths = artifacts.map fun artifact => Path.join directory artifact.fileName := by
  induction artifacts generalizing root paths with
  | nil =>
    cases h
    exact ⟨holds_nil _ _, rfl⟩
  | cons artifact rest ih =>
    obtain ⟨hnew, hn⟩ := List.nodup_cons.mp hn
    rw [List.forall_mem_cons] at hname
    rw [Artifact.writeAll] at h
    split at h
    · cases h
    · rename_i middle hw
      split at h
      · cases h
      · rename_i hrest
        cases h
        obtain ⟨hholds, rfl⟩ := ih hname.2 hn hrest
        exact ⟨holds_cons hd hname.1 hnew hw hholds, rfl⟩

-- ---------------------------------------------------------------------------
-- Runs
-- ---------------------------------------------------------------------------

namespace GenerateOptions

variable {options : GenerateOptions} {summary : Summary}

theorem holds_of_run (hr : options.setting.renderer = Template.render)
    (hd : options.output ≠ "") (h : options.run root = (.ok summary, written)) :
    ∃ artifacts, (∀ artifact ∈ artifacts, artifact.IsSource) ∧
      root.Holds written options.output artifacts ∧
        summary.files = artifacts.map fun artifact =>
          Path.join options.output artifact.fileName := by
  rw [run] at h
  cases hp : options.prepare root with
  | error e =>
    rw [runWith_of_error _ _ hp] at h
    cases h
  | ok prepared =>
    obtain ⟨compiled, artifacts⟩ := prepared
    obtain ⟨hc, -, hrender⟩ := prepare_ok_iff.mp hp
    have hsource : ∀ artifact ∈ artifacts, artifact.IsSource := fun artifact ha =>
      Artifact.isSource_of_renderAll (named_of_compile hc) hr hrender ha
    rw [runWith_of_ok _ _ hp, Prod.mk.injEq] at h
    obtain ⟨hanswer, hwritten⟩ := h
    cases hw : (Artifact.writeAll Folder.writer options.output root artifacts).1 with
    | error e =>
      rw [hw] at hanswer
      cases hanswer
    | ok paths =>
      rw [hw] at hanswer
      cases hanswer
      obtain ⟨hholds, hpaths⟩ := holds_of_writeAll hd (fun a ha => (hsource a ha).fileName)
        (Artifact.renderAll_ok_iff.mp hrender).2 (Prod.ext hw hwritten)
      exact ⟨artifacts, hsource, hholds, hpaths⟩

end GenerateOptions

-- ---------------------------------------------------------------------------
-- Cleaning
-- ---------------------------------------------------------------------------

namespace Folder

/-- The path of a source file in a directory that was known as generated before. -/
def WasGenerated (before after : Folder) (directory path : String) : Prop :=
  ∃ dir name content, after.resolve directory = .ok dir ∧ before.HasSource dir name content ∧
    content.isGenerated = .ok true ∧ path = Path.join directory name

/-- Cleaning a directory removes the files written to it, besides them exactly its source
files that were generated before, and changes no other file. Cleaning once more removes
nothing. -/
structure CleansUp (before after cleaned : Folder) (directory : String)
    (files removed : List String) : Prop where
  paths : ∀ path, path ∈ removed ↔ path ∈ files ∨ before.WasGenerated after directory path
  gone : ∀ path ∈ removed, ∃ place, after.resolve path = .ok place ∧
    (after.fileAt? place).isSome = true ∧ cleaned.fileAt? place = none
  kept : ∀ place, (∀ path ∈ removed, after.resolve path ≠ .ok place) →
    cleaned.fileAt? place = before.fileAt? place
  again : cleaned.clean directory = (.ok [], cleaned)

/-- A source file that is not among those written has a first line that is text. -/
def Readable (before after : Folder) (directory : String) (files : List String) : Prop :=
  ∀ dir name content, after.resolve directory = .ok dir → before.HasSource dir name content →
    Path.join directory name ∉ files → ∃ line, content.firstLine.text? = some line

section

variable {dir q : Place} {name : String} {content : Content}

theorem Holds.fileAt?_held (h : root.Holds written directory artifacts)
    (hdir : written.resolve directory = .ok dir) {artifact : Artifact} (ha : artifact ∈ artifacts) :
    written.fileAt? (dir ++ [artifact.fileName]) = some (.ofText artifact.contents) := by
  obtain ⟨dir', hdir', -, hf⟩ := h.held artifact ha
  rw [hdir] at hdir'
  cases hdir'
  exact hf

theorem Holds.fileAt?_other (h : root.Holds written directory artifacts)
    (hdir : written.resolve directory = .ok dir)
    (hq : ∀ artifact ∈ artifacts, q ≠ dir ++ [artifact.fileName]) :
    written.fileAt? q = root.fileAt? q := by
  refine h.others q fun artifact ha dir' hdir' => ?_
  rw [hdir] at hdir'
  cases hdir'
  exact hq artifact ha

theorem Holds.hasSource_other (h : root.Holds written directory artifacts)
    (hdir : written.resolve directory = .ok dir)
    (hname : ¬ ∃ artifact ∈ artifacts, artifact.fileName = name) :
    written.HasSource dir name content ↔ root.HasSource dir name content := by
  have hfile : written.fileAt? (dir ++ [name]) = root.fileAt? (dir ++ [name]) := by
    refine h.fileAt?_other hdir fun artifact ha he => hname ⟨artifact, ha, ?_⟩
    simpa using he.symm
  exact ⟨fun hs => ⟨hfile ▸ hs.file, hs.source⟩, fun hs => ⟨hfile ▸ hs.file, hs.source⟩⟩

theorem Holds.hasGenerated_iff (h : root.Holds written directory artifacts)
    (hs : ∀ artifact ∈ artifacts, artifact.IsSource) (hdir : written.resolve directory = .ok dir) :
    (∃ content, written.HasSource dir name content ∧ content.isGenerated = .ok true) ↔
      (∃ artifact ∈ artifacts, artifact.fileName = name) ∨
        ∃ content, root.HasSource dir name content ∧ content.isGenerated = .ok true := by
  by_cases hname : ∃ artifact ∈ artifacts, artifact.fileName = name
  · refine iff_of_true ?_ (.inl hname)
    obtain ⟨artifact, ha, rfl⟩ := hname
    exact ⟨_, ⟨h.fileAt?_held hdir ha, (hs artifact ha).source⟩, (hs artifact ha).generated⟩
  · simp only [h.hasSource_other hdir hname, hname, false_or]

theorem Holds.isGenerated_ok (hd : directory ≠ "") (hw : written.WellFormed)
    (h : root.Holds written directory artifacts)
    (hs : ∀ artifact ∈ artifacts, artifact.IsSource) (hdir : written.resolve directory = .ok dir)
    (hread : root.Readable written directory
      (artifacts.map fun artifact => Path.join directory artifact.fileName))
    (hsource : written.HasSource dir name content) :
    ∃ generated, content.isGenerated = .ok generated := by
  by_cases hname : ∃ artifact ∈ artifacts, artifact.fileName = name
  · obtain ⟨artifact, ha, rfl⟩ := hname
    have hcontent := (h.fileAt?_held hdir ha).symm.trans hsource.file
    cases hcontent
    exact ⟨true, (hs artifact ha).generated⟩
  · have hpath : Path.join directory name ∉
        artifacts.map fun artifact => Path.join directory artifact.fileName := by
      intro hm
      obtain ⟨artifact, ha, he⟩ := List.mem_map.mp hm
      exact hname ⟨artifact, ha,
        join_injective hd (hs artifact ha).fileName (hw.isFileName hsource.file) he⟩
    obtain ⟨line, hline⟩ := hread dir name content hdir
      ((h.hasSource_other hdir hname).mp hsource) hpath
    exact ⟨_, by rw [Content.isGenerated, hline]⟩

theorem mem_removed_iff {gone : List String} {path : String}
    (hdir : written.resolve directory = .ok dir)
    (hgone : ∀ name, name ∈ gone ↔ (∃ artifact ∈ artifacts, artifact.fileName = name) ∨
      ∃ content, root.HasSource dir name content ∧ content.isGenerated = .ok true) :
    path ∈ gone.map (Path.join directory) ↔
      path ∈ artifacts.map (fun artifact => Path.join directory artifact.fileName) ∨
        root.WasGenerated written directory path := by
  simp only [List.mem_map, hgone]
  constructor
  · rintro ⟨name, ⟨artifact, ha, rfl⟩ | ⟨content, hsource, hg⟩, rfl⟩
    · exact .inl ⟨artifact, ha, rfl⟩
    · exact .inr ⟨dir, name, content, hdir, hsource, hg, rfl⟩
  · rintro (⟨artifact, ha, rfl⟩ | ⟨dir', name, content, hdir', hsource, hg, rfl⟩)
    · exact ⟨artifact.fileName, .inl ⟨artifact, ha, rfl⟩, rfl⟩
    · rw [hdir] at hdir'
      cases hdir'
      exact ⟨name, .inr ⟨content, hsource, hg⟩, rfl⟩

theorem Holds.cleansUp (hd : directory ≠ "") (hw : written.WellFormed)
    (h : root.Holds written directory artifacts)
    (hs : ∀ artifact ∈ artifacts, artifact.IsSource) (hdir : written.resolve directory = .ok dir)
    (hfolder : written.requireFolder dir = .ok ())
    (hread : root.Readable written directory
      (artifacts.map fun artifact => Path.join directory artifact.fileName)) :
    ∃ removed cleaned, written.clean directory = (.ok removed, cleaned) ∧
      root.CleansUp written cleaned directory
        (artifacts.map fun artifact => Path.join directory artifact.fileName) removed := by
  have hok (name : String) (content : Content) (hsource : written.HasSource dir name content) :=
    h.isGenerated_ok hd hw hs hdir hread hsource
  obtain ⟨gone, cleaned, hc, hl, hgone⟩ := clean_ok hd hw hdir hfolder hok
  have horigin (name : String) := (hgone name).trans (h.hasGenerated_iff hs hdir)
  have hresolve {name : String} (hn : name ∈ gone) :
      written.resolve (Path.join directory name) = .ok (dir ++ [name]) := by
    obtain ⟨content, hsource, -⟩ := (hgone name).mp hn
    exact (resolve_join_iff hd (hw.isFileName hsource.file)).mpr ⟨dir, hdir, hfolder, rfl⟩
  refine ⟨_, cleaned, hc, ⟨fun path => mem_removed_iff hdir horigin, fun path hp => ?_,
    fun place hq => ?_, hl.clean hw hdir hfolder hok hgone⟩⟩
  · obtain ⟨name, hn, rfl⟩ := List.mem_map.mp hp
    obtain ⟨content, hsource, -⟩ := (hgone name).mp hn
    exact ⟨dir ++ [name], hresolve hn, by rw [hsource.file]; rfl, hl.removed name hn⟩
  · have hoff (name : String) (hn : name ∈ gone) : place ≠ dir ++ [name] := by
      rintro rfl
      exact hq _ (List.mem_map_of_mem hn) (hresolve hn)
    rw [hl.kept place hoff, h.fileAt?_other hdir]
    exact fun artifact ha => hoff _ ((horigin _).mpr (.inl ⟨artifact, ha, rfl⟩))

end

theorem Holds.cleansUp_nowhere (h : root.Holds written directory artifacts)
    (hno : ¬ ∃ dir, written.resolve directory = .ok dir ∧ written.requireFolder dir = .ok ()) :
    ∃ removed cleaned, written.clean directory = (.ok removed, cleaned) ∧
      root.CleansUp written cleaned directory
        (artifacts.map fun artifact => Path.join directory artifact.fileName) removed := by
  obtain rfl : artifacts = [] := by
    refine List.eq_nil_iff_forall_not_mem.mpr fun artifact ha => ?_
    obtain ⟨dir, hdir, hfolder, -⟩ := h.held artifact ha
    exact hno ⟨dir, hdir, hfolder⟩
  have hclean : written.clean directory = (.ok [], written) := by
    rw [clean]
    cases hf : written.folderAt directory with
    | error e => rfl
    | ok inner =>
      obtain ⟨dir, hdir, hi⟩ := folderAt_eq_ok_iff.mp hf
      exact absurd ⟨dir, hdir, requireFolder_eq_ok_iff.mpr ⟨inner, hi⟩⟩ hno
  refine ⟨[], written, hclean, ⟨fun path => ?_, by simp, fun place _ => ?_, hclean⟩⟩
  · have hnever : ¬ root.WasGenerated written directory path := by
      rintro ⟨dir, name, content, hdir, hsource, -⟩
      obtain ⟨inner, hi, -⟩ :=
        locate_of_locate_append_singleton (fileAt?_eq_some_iff.mp hsource.file)
      exact hno ⟨dir, hdir, h.folders dir (requireFolder_eq_ok_iff.mpr ⟨inner, hi⟩)⟩
    simp [hnever]
  · exact h.others place (by simp)

end Folder

namespace GenerateOptions

variable {options : GenerateOptions} {summary : Summary}

/-- Cleaning the directory of a run with the built-in templates cleans up after it. -/
theorem clean_of_run (hroot : root.WellFormed) (hr : options.setting.renderer = Template.render)
    (hd : options.output ≠ "") (h : options.run root = (.ok summary, written))
    (hread : root.Readable written options.output summary.files) :
    ∃ removed cleaned, written.clean options.output = (.ok removed, cleaned) ∧
      root.CleansUp written cleaned options.output summary.files removed := by
  obtain ⟨artifacts, hsource, hholds, hfiles⟩ := holds_of_run hr hd h
  rw [hfiles] at hread ⊢
  -- A run that writes nothing need not have a directory.
  by_cases hplace : ∃ dir, written.resolve options.output = .ok dir ∧
      written.requireFolder dir = .ok ()
  · obtain ⟨dir, hdir, hfolder⟩ := hplace
    exact hholds.cleansUp hd (hholds.wellFormed hroot) hsource hdir hfolder hread
  · exact hholds.cleansUp_nowhere hplace

theorem ran_of_check {p : Summary → Folder → Bool}
    (h : (match options.run root with
      | (.ok summary, written) => p summary written
      | _ => false) = true) :
    ∃ summary written, options.run root = (.ok summary, written) ∧ p summary written = true := by
  rcases hr : options.run root with ⟨e | summary, written⟩
  · simp [hr] at h
  · exact ⟨summary, written, rfl, by simpa [hr] using h⟩

/-- One record to compile, and a directory with a module that is generated and one that is
not. -/
def lineProject : Folder :=
  .folder "in"
    (.file "line.rs"
      (.ofText "pub struct Line \x7b\n    #[db = \"primary_key\"]\n    pub id: i64,\n\x7d\n")
      .empty)
    (.folder "out"
      (.file "lib.rs" (.ofText "pub mod columns;\n")
        (.file "old.rs" (.ofText (Template.marker ++ "\n")) .empty)) .empty)

def lineOptions : GenerateOptions where
  input := "in"
  output := "out"
  kinds := [.columns, .repository]
  setting := { package := "models", generatedAt := ⟨0, 0⟩ }

theorem clean_of_lineRun :
    ∃ summary written removed cleaned, lineOptions.run lineProject = (.ok summary, written) ∧
      summary.files = ["out/columns.rs", "out/line_repository.rs"] ∧
      written.clean "out" = (.ok removed, cleaned) ∧
      lineProject.CleansUp written cleaned "out" summary.files removed := by
  obtain ⟨summary, written, hrun, hcheck⟩ := @ran_of_check lineProject lineOptions
    (fun summary written => summary.files = ["out/columns.rs", "out/line_repository.rs"] &&
      written.resolve "out" = .ok ["out"]) (by decide +kernel)
  rw [Bool.and_eq_true, decide_eq_true_eq, decide_eq_true_eq] at hcheck
  obtain ⟨hfiles, hdir⟩ := hcheck
  have hwell : lineProject.WellFormed := by decide
  have hread : lineProject.Readable written "out" summary.files := by
    intro dir name content hresolve hsource _
    rw [hdir] at hresolve
    cases hresolve
    have hm := (hwell.mem_sources_iff rfl).mpr hsource
    have hsources : ∀ file ∈ ([("lib.rs", .ofText "pub mod columns;\n"),
        ("old.rs", .ofText (Template.marker ++ "\n"))] : List (String × Content)),
        ∃ line, file.2.firstLine.text? = some line := by
      simp [Content.firstLine_ofText]
    exact hsources _ hm
  obtain ⟨removed, cleaned, hclean, hup⟩ :=
    clean_of_run hwell rfl (by decide) hrun hread
  exact ⟨summary, written, removed, cleaned, hrun, hfiles, hclean, hup⟩

end GenerateOptions

end SchemaCompiler
