import SchemaCompiler.Proofs.Project.Cleaning

/-!
# Source files that stop a cleaning

A cleaning reads the first line of one source file after the other, in the order of their
names. A first line that is no text stops it: what is generated before this file is gone,
what is generated after it stays. So a cleaning removes what is generated exactly if every
source file in the directory begins with text.
-/

namespace SchemaCompiler

-- ---------------------------------------------------------------------------
-- First lines
-- ---------------------------------------------------------------------------

namespace Content

variable {content : Content}

/-- The first line is the marker, up to blanks at its end. -/
def Marked (content : Content) : Prop :=
  ∃ line, content.firstLine.text? = some line ∧
    Text.trimEnd line.toList = Template.marker.toList

/-- The first line is text, of whatever kind the rest may be. -/
def BeginsWithText (content : Content) : Prop :=
  ∃ line, content.firstLine.text? = some line

instance (content : Content) : Decidable content.BeginsWithText :=
  decidable_of_iff (content.firstLine.text?.isSome = true) Option.isSome_iff_exists

theorem isGenerated_eq_true_iff : content.isGenerated = .ok true ↔ content.Marked := by
  rw [isGenerated, Marked]
  cases content.firstLine.text? <;> simp

theorem exists_isGenerated_iff :
    (∃ generated, content.isGenerated = .ok generated) ↔ content.BeginsWithText := by
  rw [isGenerated, BeginsWithText]
  cases content.firstLine.text? <;> simp

theorem isGenerated_eq_error_iff {cause : FileError} :
    content.isGenerated = .error cause ↔ ¬ content.BeginsWithText ∧ cause = .invalidData := by
  rw [isGenerated, BeginsWithText]
  cases content.firstLine.text? <;> simp [eq_comm]

end Content

namespace Folder

variable {root cleaned middle after : Folder} {dir : Place} {directory name other : String}
  {content : Content} {before rest files : List (String × Content)} {removed more : List String}

-- ---------------------------------------------------------------------------
-- Some files and then others
-- ---------------------------------------------------------------------------

theorem removeGenerated_append_error {e : CleanError}
    (h : root.removeGenerated directory before = (.ok removed, middle))
    (hrest : middle.removeGenerated directory rest = (.error e, after)) :
    root.removeGenerated directory (before ++ rest) = (.error e, after) := by
  induction before generalizing root removed with
  | nil =>
    cases h
    exact hrest
  | cons file before ih =>
    obtain ⟨name, content⟩ := file
    rw [List.cons_append, removeGenerated]
    rw [removeGenerated] at h
    cases hg : content.isGenerated with
    | error cause => simp [hg] at h
    | ok generated =>
      cases generated with
      | false =>
        simp only [hg] at h ⊢
        exact ih h
      | true =>
        simp only [hg] at h ⊢
        cases hr : root.remove (Path.join directory name) with
        | error cause => simp [hr] at h
        | ok next =>
          simp only [hr] at h ⊢
          cases hn : next.removeGenerated directory before with
          | mk outcome last =>
            cases outcome with
            | error e => simp [hn] at h
            | ok gone =>
              simp only [hn, Prod.mk.injEq, Except.ok.injEq] at h
              obtain ⟨-, rfl⟩ := h
              rw [ih hn]

-- ---------------------------------------------------------------------------
-- The file that stops
-- ---------------------------------------------------------------------------

def HasMarked (root : Folder) (dir : Place) (name : String) : Prop :=
  ∃ content, root.HasSource dir name content ∧ content.Marked

/-- The first of the source files directly in a place whose first line is no text. -/
structure StoppedAt (root : Folder) (dir : Place) (name : String) : Prop where
  unreadable : ∃ content, root.HasSource dir name content ∧ ¬ content.BeginsWithText
  first : ∀ other content, root.HasSource dir other content → other < name →
    content.BeginsWithText

def sourceFiles (inner : Folder) : List (String × Content) :=
  inner.ownFiles.filter fun (name, _) => Path.isSourceName name

theorem WellFormed.pairwise_sourceFiles (hr : root.WellFormed) :
    root.sourceFiles.Pairwise (·.1 < ·.1) :=
  hr.pairwise_ownFiles.filter _

theorem WellFormed.mem_sourceFiles (hr : root.WellFormed) {inner : Folder}
    (hi : root.locate dir = .ok (.folder inner)) :
    (name, content) ∈ inner.sourceFiles ↔ root.HasSource dir name content :=
  hr.mem_sources_iff hi

theorem mem_left_iff {file other : String × Content}
    (h : (before ++ file :: rest).Pairwise (·.1 < ·.1)) :
    other ∈ before ↔ other.1 < file.1 ∧ other ∈ before ++ file :: rest := by
  rw [List.pairwise_append, List.pairwise_cons] at h
  obtain ⟨-, ⟨hafter, -⟩, hbefore⟩ := h
  constructor
  · intro hm
    exact ⟨hbefore other hm file List.mem_cons_self, List.mem_append_left _ hm⟩
  · rintro ⟨hl, hm⟩
    rw [List.mem_append, List.mem_cons] at hm
    rcases hm with hm | rfl | hm
    · exact hm
    · exact absurd hl (lt_irrefl _)
    · exact absurd hl (hafter other hm).not_gt

theorem exists_stoppedAt_iff (hr : root.WellFormed) (hfolder : root.requireFolder dir = .ok ()) :
    (∃ name, root.StoppedAt dir name) ↔
      ¬ ∀ name content, root.HasSource dir name content → content.BeginsWithText := by
  constructor
  · rintro ⟨name, ⟨content, hs, hn⟩, -⟩ hall
    exact hn (hall name content hs)
  · intro hall
    obtain ⟨inner, hi⟩ := requireFolder_eq_ok_iff.mp hfolder
    have horder := (hr.of_locate hi).pairwise_sourceFiles
    cases hf : inner.sourceFiles.find? fun file => decide ¬ file.2.BeginsWithText with
    | none =>
      refine absurd (fun name content hs => ?_) hall
      simpa using List.find?_eq_none.mp hf _ ((hr.mem_sourceFiles hi).mpr hs)
    | some file =>
      obtain ⟨hn, before, rest, he, hbefore⟩ := List.find?_eq_some_iff_append.mp hf
      refine ⟨file.1, ⟨file.2, (hr.mem_sourceFiles hi).mp ?_, by simpa using hn⟩, ?_⟩
      · exact List.mem_of_find?_eq_some hf
      · intro other content ho hl
        have hm := (hr.mem_sourceFiles hi).mpr ho
        rw [he] at hm horder
        simpa using hbefore _ ((mem_left_iff horder).mpr ⟨hl, hm⟩)

-- ---------------------------------------------------------------------------
-- Cleaning a directory
-- ---------------------------------------------------------------------------

theorem StoppedAt.clean (h : root.StoppedAt dir name) (hd : directory ≠ "")
    (hr : root.WellFormed) (hdir : root.resolve directory = .ok dir)
    (hfolder : root.requireFolder dir = .ok ()) :
    ∃ gone cleaned,
      root.clean directory = (.error ⟨Path.join directory name, .invalidData⟩, cleaned) ∧
        Lacks root cleaned dir gone ∧
        ∀ other, other ∈ gone ↔ other < name ∧ root.HasMarked dir other := by
  obtain ⟨content, hs, hn⟩ := h.unreadable
  obtain ⟨inner, hi⟩ := requireFolder_eq_ok_iff.mp hfolder
  have horder := (hr.of_locate hi).pairwise_sourceFiles
  obtain ⟨before, rest, he⟩ := List.append_of_mem ((hr.mem_sourceFiles hi).mpr hs)
  rw [he] at horder
  have hbefore {other : String} {c : Content} :
      (other, c) ∈ before ↔ other < name ∧ root.HasSource dir other c := by
    rw [mem_left_iff horder, ← he, hr.mem_sourceFiles hi]
  have hfiles : ∀ file ∈ before,
      IsFileName file.1 ∧ root.fileAt? (dir ++ [file.1]) = some file.2 ∧
        ∃ generated, file.2.isGenerated = .ok generated := by
    intro file hm
    obtain ⟨hl, hsource⟩ := hbefore.mp hm
    exact ⟨hr.isFileName hsource.file, hsource.file,
      Content.exists_isGenerated_iff.mpr (h.first _ _ hsource hl)⟩
  have hnames : (before.map Prod.fst).Nodup :=
    List.pairwise_map.mpr ((List.pairwise_append.mp horder).1.imp ne_of_lt)
  obtain ⟨cleaned, hremoved, hlacks⟩ := removeGenerated_ok hd hr hdir hfolder hfiles hnames
  refine ⟨generatedNames before, cleaned, ?_, hlacks, fun other => ?_⟩
  · have hstop : cleaned.removeGenerated directory ((name, content) :: rest) =
        (.error ⟨Path.join directory name, .invalidData⟩, cleaned) := by
      rw [removeGenerated, Content.isGenerated_eq_error_iff.mpr ⟨hn, rfl⟩]
    have hclean : root.clean directory = root.removeGenerated directory inner.sourceFiles := by
      rw [Folder.clean, folderAt_eq_ok_iff.mpr ⟨dir, hdir, hi⟩]
      rfl
    rw [hclean, he]
    exact removeGenerated_append_error hremoved hstop
  · simp only [mem_generatedNames, hbefore, Content.isGenerated_eq_true_iff, HasMarked]
    constructor
    · rintro ⟨c, ⟨hl, hsource⟩, hm⟩
      exact ⟨hl, c, hsource, hm⟩
    · rintro ⟨hl, c, hsource, hm⟩
      exact ⟨c, ⟨hl, hsource⟩, hm⟩

theorem ne_empty_of_resolve (h : root.resolve directory = .ok dir) : directory ≠ "" := by
  rintro rfl
  cases h

/-- Cleaning a directory succeeds and removes its source files that are known as generated,
and nothing else, exactly if all source files in it begin with text. The first one that does
not is reported, and what is generated after it stays. -/
theorem clean_marked_iff (hr : root.WellFormed) (hdir : root.resolve directory = .ok dir)
    (hfolder : root.requireFolder dir = .ok ()) :
    ((∃ gone cleaned, root.clean directory = (.ok (gone.map (Path.join directory)), cleaned) ∧
        Lacks root cleaned dir gone ∧ ∀ name, name ∈ gone ↔ root.HasMarked dir name) ↔
      ∀ name content, root.HasSource dir name content → content.BeginsWithText) ∧
    ((∃ name, root.StoppedAt dir name) ↔
      ¬ ∀ name content, root.HasSource dir name content → content.BeginsWithText) ∧
    ∀ name, root.StoppedAt dir name → ∃ gone cleaned,
      root.clean directory = (.error ⟨Path.join directory name, .invalidData⟩, cleaned) ∧
        Lacks root cleaned dir gone ∧
        ∀ other, other ∈ gone ↔ other < name ∧ root.HasMarked dir other := by
  have hd := ne_empty_of_resolve hdir
  have hstops := exists_stoppedAt_iff hr hfolder
  refine ⟨⟨?_, fun hall => ?_⟩, hstops, fun name h => h.clean hd hr hdir hfolder⟩
  · rintro ⟨gone, cleaned, hclean, -⟩
    by_contra hall
    obtain ⟨name, h⟩ := hstops.mpr hall
    obtain ⟨-, after, hstopped, -⟩ := h.clean hd hr hdir hfolder
    rw [hclean] at hstopped
    cases hstopped
  · obtain ⟨gone, cleaned, hclean, hlacks, hgone⟩ := clean_ok hd hr hdir hfolder
      fun name content hs => Content.exists_isGenerated_iff.mpr (hall name content hs)
    refine ⟨gone, cleaned, hclean, hlacks, fun name => ?_⟩
    rw [hgone, HasMarked]
    simp only [Content.isGenerated_eq_true_iff]

end Folder

/-- The bytes of a text in another encoding. -/
def latinText : Content := [103, 114, 246, 223, 101]

/-- Generated files around one that was written by hand in another encoding. -/
def latinOutput : Folder :=
  .folder "out"
    (.file "columns.rs" (.ofText (Template.marker ++ "\n"))
      (.file "manual.rs" latinText
        (.file "mod.rs" (.ofText (Template.marker ++ "\n")) .empty))) .empty

/-- Only a file that is no source file and a line after the first are in another encoding. -/
def textOutput : Folder :=
  .folder "out"
    (.file "columns.rs" (.ofText (Template.marker ++ " \n"))
      (.file "manual.rs" (.ofText "// by hand\n" ++ latinText)
        (.file "notes.txt" latinText .empty))) .empty

theorem clean_of_outputs :
    (∃ gone cleaned, latinOutput.clean "out" = (.error ⟨"out/manual.rs", .invalidData⟩, cleaned) ∧
      latinOutput.Lacks cleaned ["out"] gone ∧
      ∀ other, other ∈ gone ↔ other < "manual.rs" ∧ latinOutput.HasMarked ["out"] other) ∧
    ∃ gone cleaned, textOutput.clean "out" = (.ok (gone.map (Path.join "out")), cleaned) ∧
      textOutput.Lacks cleaned ["out"] gone ∧
      ∀ name, name ∈ gone ↔ textOutput.HasMarked ["out"] name := by
  have hlatin : latinOutput.WellFormed := by decide
  have htext : textOutput.WellFormed := by decide
  constructor
  · refine (Folder.clean_marked_iff hlatin rfl rfl).2.2 "manual.rs" ⟨?_, ?_⟩
    · exact ⟨latinText, ⟨rfl, by decide⟩, by decide +kernel⟩
    · have hbefore : ∀ file ∈ ([("columns.rs", .ofText (Template.marker ++ "\n")),
          ("manual.rs", latinText), ("mod.rs", .ofText (Template.marker ++ "\n"))] :
            List (String × Content)), file.1 < "manual.rs" → file.2.BeginsWithText := by
        decide +kernel
      intro other content hs hl
      exact hbefore _ ((hlatin.mem_sources_iff rfl).mpr hs) hl
  · refine (Folder.clean_marked_iff htext rfl rfl).1.mpr ?_
    have hall : ∀ file ∈ ([("columns.rs", .ofText (Template.marker ++ " \n")),
        ("manual.rs", .ofText "// by hand\n" ++ latinText)] : List (String × Content)),
        file.2.BeginsWithText := by
      decide +kernel
    intro name content hs
    exact hall _ ((htext.mem_sources_iff rfl).mpr hs)

/-- A source file in another encoding keeps what is generated after it from being removed. -/
theorem not_all_marked_removed :
    ¬ ∀ (root : Folder) (directory : String) (dir : Folder.Place), root.WellFormed →
      root.resolve directory = .ok dir → root.requireFolder dir = .ok () →
        ∃ removed cleaned, root.clean directory = (.ok removed, cleaned) ∧
          ∀ name, root.HasMarked dir name → cleaned.fileAt? (dir ++ [name]) = none := by
  intro hall
  obtain ⟨removed, cleaned, hclean, -⟩ :=
    hall latinOutput "out" ["out"] (by decide) rfl rfl
  have hstopped : (latinOutput.clean "out").1 = .error ⟨"out/manual.rs", .invalidData⟩ := by
    decide +kernel
  rw [hclean] at hstopped
  cases hstopped

end SchemaCompiler
