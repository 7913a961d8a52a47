import SchemaCompiler.Proofs.Project.Scanning

/-!
# Selected files

Whether a scan reads a file is decided by the file's place below the directory: by its own
name, by the folders in between and by the patterns. The directory's name has no part in it.
-/

namespace SchemaCompiler

open Text

-- ---------------------------------------------------------------------------
-- Names
-- ---------------------------------------------------------------------------

inductive IsTestName : String → Prop
  | tests : IsTestName "tests.rs"
  | one (stem : String) : IsTestName (stem ++ "_test.rs")
  | many (stem : String) : IsTestName (stem ++ "_tests.rs")

/-- A folder with this name is not entered. -/
inductive IsPrunedName : String → Prop
  | tests : IsPrunedName "tests"
  | target : IsPrunedName "target"
  | benches : IsPrunedName "benches"
  | hidden (rest : String) : IsPrunedName ("." ++ rest)

variable {name ending : String}

theorem isSuffixOf_toList_iff : ending.toList.isSuffixOf name.toList = true ↔
    ∃ stem, name = stem ++ ending := by
  rw [List.isSuffixOf_iff_suffix]
  constructor
  · rintro ⟨cs, hcs⟩
    exact ⟨.ofList cs, String.toList_inj.mp (by simp [hcs])⟩
  · rintro ⟨stem, rfl⟩
    exact ⟨stem.toList, by simp⟩

theorem isTestName_iff : Path.isTestName name = true ↔ IsTestName name := by
  rw [Path.isTestName, Bool.or_eq_true, Bool.or_eq_true, decide_eq_true_eq, isSuffixOf_toList_iff,
    isSuffixOf_toList_iff]
  constructor
  · rintro ((rfl | ⟨stem, rfl⟩) | ⟨stem, rfl⟩)
    · exact .tests
    · exact .one stem
    · exact .many stem
  · rintro (_ | stem | stem)
    · exact .inl (.inl rfl)
    · exact .inl (.inr ⟨stem, rfl⟩)
    · exact .inr ⟨stem, rfl⟩

theorem isSkippedFolder_iff : Folder.isSkippedFolder name = true ↔ IsPrunedName name := by
  have hdot : name.toList.head? = some '.' ↔ ∃ rest, name = "." ++ rest := by
    constructor
    · intro h
      obtain ⟨cs, hcs⟩ := List.head?_eq_some_iff.mp h
      exact ⟨.ofList cs, String.toList_inj.mp (by simp [hcs])⟩
    · rintro ⟨rest, rfl⟩
      simp
  simp only [Folder.isSkippedFolder, Bool.or_eq_true, decide_eq_true_eq, hdot, List.mem_cons,
    List.not_mem_nil, or_false]
  constructor
  · rintro ((rfl | rfl | rfl) | ⟨rest, rfl⟩)
    · exact .tests
    · exact .target
    · exact .benches
    · exact .hidden rest
  · rintro (_ | _ | _ | rest)
    · exact .inl (.inl rfl)
    · exact .inl (.inr (.inl rfl))
    · exact .inl (.inr (.inr rfl))
    · exact .inr ⟨rest, rfl⟩

namespace Folder

-- ---------------------------------------------------------------------------
-- Places
-- ---------------------------------------------------------------------------

variable {inner : Folder} {options : ScanOptions} {recursive : Bool}
  {patterns : List Pattern} {place : Place}

/-- A scan that leaves out what the patterns match reads the file at a place. -/
inductive IsSelected (recursive : Bool) (patterns : List Pattern) : Place → Prop
  | intro {between : Place} {stem : String} (hs : stem ≠ "")
      (ht : ¬ IsTestName (stem ++ ".rs")) (hb : ∀ name ∈ between, ¬ IsPrunedName name)
      (hd : recursive = true ∨ between = [])
      (hp : ∀ pattern ∈ patterns,
        Glob.matchesText pattern (join "/" (between ++ [stem ++ ".rs"])).toList = false) :
      IsSelected recursive patterns (between ++ [stem ++ ".rs"])

theorem isSourceFile_iff : isSourceFile name = true ↔
    ∃ stem ≠ "", name = stem ++ ".rs" ∧ ¬ IsTestName name := by
  rw [isSourceFile, Bool.and_eq_true, isSourceName_iff, Bool.not_eq_true', ← Bool.not_eq_true,
    isTestName_iff]
  constructor
  · rintro ⟨⟨stem, hs, he⟩, ht⟩
    exact ⟨stem, hs, he, ht⟩
  · rintro ⟨stem, hs, he, ht⟩
    exact ⟨⟨stem, hs, he⟩, ht⟩

theorem isSourcePlace_cons (name : String) {below : Place} (h : below ≠ []) :
    isSourcePlace recursive (name :: below) =
      (recursive && !isSkippedFolder name && isSourcePlace recursive below) := by
  cases below with
  | nil => exact absurd rfl h
  | cons next more => rfl

theorem isSourcePlace_append_iff {between : Place} :
    isSourcePlace recursive (between ++ [name]) = true ↔
      isSourceFile name = true ∧ (∀ folder ∈ between, ¬ IsPrunedName folder) ∧
        (recursive = true ∨ between = []) := by
  induction between with
  | nil => simp [isSourcePlace]
  | cons folder between ih =>
    rw [List.cons_append, isSourcePlace_cons folder (by simp), Bool.and_eq_true, Bool.and_eq_true,
      Bool.not_eq_true', ← Bool.not_eq_true, isSkippedFolder_iff, ih, List.forall_mem_cons]
    constructor
    · rintro ⟨⟨hr, hfolder⟩, hname, hbetween, -⟩
      exact ⟨hname, ⟨hfolder, hbetween⟩, .inl hr⟩
    · rintro ⟨hname, ⟨hfolder, hbetween⟩, hr | hnil⟩
      · exact ⟨⟨hr, hfolder⟩, hname, hbetween, .inl hr⟩
      · cases hnil

theorem isExcluded_eq_false_iff : isExcluded patterns place = false ↔
    ∀ pattern ∈ patterns, Glob.matchesText pattern (join "/" place).toList = false := by
  simp [isExcluded]

theorem isSelected_iff : IsSelected recursive patterns place ↔
    isSourcePlace recursive place = true ∧ isExcluded patterns place = false := by
  rw [isExcluded_eq_false_iff]
  constructor
  · rintro ⟨hs, ht, hb, hd, hp⟩
    exact ⟨isSourcePlace_append_iff.mpr ⟨isSourceFile_iff.mpr ⟨_, hs, rfl, ht⟩, hb, hd⟩, hp⟩
  · rintro ⟨h, hp⟩
    rcases List.eq_nil_or_concat' place with rfl | ⟨between, name, rfl⟩
    · cases h
    · obtain ⟨hname, hb, hd⟩ := isSourcePlace_append_iff.mp h
      obtain ⟨stem, hs, rfl, ht⟩ := isSourceFile_iff.mp hname
      exact .intro hs ht hb hd hp

-- ---------------------------------------------------------------------------
-- Selections
-- ---------------------------------------------------------------------------

theorem WellFormed.mem_selected_iff (hi : inner.WellFormed) {content : Content} :
    (place, content) ∈ inner.selected recursive patterns ↔
      inner.fileAt? place = some content ∧ IsSelected recursive patterns place := by
  rw [selected_eq_filter, List.mem_filter, hi.mem_files_iff, Bool.and_eq_true, Bool.not_eq_true',
    isSelected_iff]

theorem isSourcePlace_false (place : Place) :
    isSourcePlace false place = (decide (place.length = 1) && isSourcePlace true place) := by
  cases place with
  | nil => rfl
  | cons name below =>
    cases below with
    | nil => rfl
    | cons next more => simp [isSourcePlace]

theorem selected_false (inner : Folder) (patterns : List Pattern) :
    inner.selected false patterns = (inner.selected true patterns).filter (·.1.length = 1) := by
  rw [selected_eq_filter, selected_eq_filter, List.filter_filter]
  refine List.filter_congr fun file _ => ?_
  rw [isSourcePlace_false, Bool.and_assoc]

/-- What a scan reads is settled by the folder that it scans, wherever that stands and
whatever it is called: the selected files, in order and each once. Without folders inside
these are the ones that are directly in it. -/
theorem scan_reads (hi : inner.WellFormed) (hp : options.patterns = .ok patterns) :
    (∀ (root : Folder) (directory : String) (reader : Reader) (recursive : Bool),
      root.folderAt directory = .ok inner →
      root.scan directory { options with recursive } reader = .ok (ScanResult.assembled
        ((inner.selected recursive patterns).map (reader.contribution directory)))) ∧
    (∀ recursive, (inner.selected recursive patterns).Sublist inner.files ∧
      (inner.selected recursive patterns).Pairwise Precedes ∧
      ∀ place content, (place, content) ∈ inner.selected recursive patterns ↔
        inner.fileAt? place = some content ∧ IsSelected recursive patterns place) ∧
    inner.selected false patterns = (inner.selected true patterns).filter (·.1.length = 1) := by
  refine ⟨fun _ _ reader _ h => scan_eq_assembled reader h hp, fun recursive => ?_,
    selected_false inner patterns⟩
  have hfiles : (inner.selected recursive patterns).Sublist inner.files := by
    rw [selected_eq_filter]
    exact List.filter_sublist
  exact ⟨hfiles, hi.pairwise_files.sublist hfiles, fun _ _ => hi.mem_selected_iff⟩

/-- A folder with files of tests, with one that a pattern leaves out and with a folder that
is not entered. -/
def crowded : Folder :=
  .file "a.rs" [] (.folder "b" (.file "c.rs" [] (.file "skip.rs" [] .empty))
    (.file "b_test.rs" [] (.folder "target" (.file "d.rs" [] .empty) .empty)))

theorem scan_reads_crowded : ∃ selected : List (Place × Content),
    (folder "tests" crowded .empty).scan "tests" { recursive := true, exclude := ["b/s*"] } =
      .ok (ScanResult.assembled (selected.map (({} : Reader).contribution "tests"))) ∧
    (folder "tests" crowded .empty).scan "tests" { exclude := ["b/s*"] } =
      .ok (ScanResult.assembled
        ((selected.filter (·.1.length = 1)).map (({} : Reader).contribution "tests"))) ∧
    selected = [(["a.rs"], []), (["b", "c.rs"], [])] ∧
    IsSelected true [[.literal 'b', .literal '/', .literal 's', .anyText]] ["b", "c.rs"] := by
  obtain ⟨hscan, hselected, hdirect⟩ := @scan_reads crowded { exclude := ["b/s*"] }
    [[.literal 'b', .literal '/', .literal 's', .anyText]] (by decide) rfl
  refine ⟨_, hscan _ "tests" {} true rfl, ?_, rfl, ?_⟩
  · rw [← hdirect]
    exact hscan _ "tests" {} false rfl
  · exact ((hselected true).2.2 ["b", "c.rs"] [] |>.mp (by decide)).2

end Folder

end SchemaCompiler
