import SchemaCompiler.Project.Scan
import SchemaCompiler.Proofs.Folder.Listing
import SchemaCompiler.Proofs.Sequence

/-!
# Scans file by file

A scan is put together from what each of its files contributes, and a file contributes
by its path and content alone. So what one file has or lacks is nothing to the others.
-/

namespace SchemaCompiler

-- ---------------------------------------------------------------------------
-- One file
-- ---------------------------------------------------------------------------

/-- Every result of a text is in one of three lists, which are in the order of the text:
declared entities, the names of helpers, and failures. -/
inductive SharesOut : List (Except Failure Declaration) → List Declaration → List String →
    List Failure → Prop
  | nil : SharesOut [] [] [] []
  | entity {declaration found declarations helpers failures}
      (he : declaration.isEntity = true) (h : SharesOut found declarations helpers failures) :
      SharesOut (.ok declaration :: found) (declaration :: declarations) helpers failures
  | helper {declaration found declarations helpers failures}
      (he : declaration.isEntity = false) (h : SharesOut found declarations helpers failures) :
      SharesOut (.ok declaration :: found) declarations (declaration.name :: helpers) failures
  | failure {failure found declarations helpers failures}
      (h : SharesOut found declarations helpers failures) :
      SharesOut (.error failure :: found) declarations helpers (failure :: failures)

/-- What a file contributes to a scan. -/
inductive Reader.Contributes (reader : Reader) (path : String) (content : Content) :
    ScanResult → Prop
  | unreadable (h : reader.text? path content = none) :
      Contributes reader path content
        { skipped := [⟨path, ScanResult.unreadableMessage path⟩], filesScanned := 1 }
  | unparsable {text : String} {e : Source.SyntaxError} (h : reader.text? path content = some text)
      (hp : reader.parse (.ofList (Source.withoutMark text.toList)) = .error e) :
      Contributes reader path content
        { skipped := [⟨path, SourceError.message ⟨path, e.line⟩⟩], filesScanned := 1 }
  | parsed {text : String} {found : List (Except Failure Declaration)}
      {declarations : List Declaration} {helpers : List String} {skipped : List Failure}
      (h : reader.text? path content = some text)
      (hp : Source.declarations text path reader.parse = .ok found)
      (hs : SharesOut found declarations helpers skipped) :
      Contributes reader path content { declarations, helpers, skipped, filesScanned := 1 }

theorem Source.declarations_error_iff {text file : String} {e : SyntaxError}
    {parse : String → Except SyntaxError Items} :
    declarations text file parse = .error e ↔
      parse (.ofList (Source.withoutMark text.toList)) = .error e := by
  cases hp : parse (.ofList (Source.withoutMark text.toList)) <;>
    simp [declarations, hp, bind, Except.bind, pure, Except.pure]

namespace ScanResult

variable {result : ScanResult} {reader : Reader} {path : String} {content : Content}

def append (first second : ScanResult) : ScanResult where
  declarations := first.declarations ++ second.declarations
  helpers := first.helpers ++ second.helpers
  skipped := first.skipped ++ second.skipped
  filesScanned := first.filesScanned + second.filesScanned

theorem append_assoc (first second third : ScanResult) :
    (first.append second).append third = first.append (second.append third) := by
  simp [append, Nat.add_assoc]

@[simp] theorem append_empty (result : ScanResult) : result.append {} = result := by
  simp [append]

@[simp] theorem empty_append (result : ScanResult) : append {} result = result := by
  simp [append]

theorem foldl_addDeclaration {found : List (Except Failure Declaration)}
    {declarations : List Declaration} {helpers : List String} {skipped : List Failure}
    (h : SharesOut found declarations helpers skipped) (result : ScanResult) :
    found.foldl addDeclaration result = result.append { declarations, helpers, skipped } := by
  induction h generalizing result with
  | nil => exact result.append_empty.symm
  | entity he _ ih => simp [addDeclaration, he, ih, append]
  | helper he _ ih => simp [addDeclaration, he, ih, append]
  | failure _ ih => simp [addDeclaration, skip, ih, append]

theorem exists_sharesOut (found : List (Except Failure Declaration)) :
    ∃ declarations helpers skipped, SharesOut found declarations helpers skipped := by
  induction found with
  | nil => exact ⟨[], [], [], .nil⟩
  | cons declared rest ih =>
    obtain ⟨declarations, helpers, skipped, h⟩ := ih
    cases declared with
    | error failure => exact ⟨_, _, _, .failure h⟩
    | ok declaration =>
      cases he : declaration.isEntity with
      | true => exact ⟨_, _, _, .entity he h⟩
      | false => exact ⟨_, _, _, .helper he h⟩

theorem exists_contributes (reader : Reader) (path : String) (content : Content) :
    ∃ contribution, reader.Contributes path content contribution ∧
      ∀ result : ScanResult,
        result.addFile reader path content = result.append contribution := by
  cases ht : reader.text? path content with
  | none =>
    refine ⟨_, .unreadable ht, fun result => ?_⟩
    simp [addFile, ht, count, skip, append]
  | some text =>
    cases hp : Source.declarations text path reader.parse with
    | error e =>
      refine ⟨_, .unparsable ht (Source.declarations_error_iff.mp hp), fun result => ?_⟩
      simp [addFile, addText, ht, hp, count, skip, append]
    | ok found =>
      obtain ⟨declarations, helpers, skipped, hs⟩ := exists_sharesOut found
      refine ⟨_, .parsed ht hp hs, fun result => ?_⟩
      simp [addFile, addText, ht, hp, foldl_addDeclaration hs, count, append]

end ScanResult

def Reader.contribution (reader : Reader) (directory : String)
    (file : Folder.Place × Content) : ScanResult :=
  ({} : ScanResult).addFile reader (Folder.pathBelow directory file.1) file.2

theorem Reader.contribution_spec (reader : Reader) (directory : String) (place : Folder.Place)
    (content : Content) :
    reader.Contributes (Folder.pathBelow directory place) content
        (reader.contribution directory (place, content)) ∧
      ∀ result : ScanResult,
        result.addFile reader (Folder.pathBelow directory place) content =
          result.append (reader.contribution directory (place, content)) := by
  obtain ⟨contribution, hc, hadd⟩ :=
    ScanResult.exists_contributes reader (Folder.pathBelow directory place) content
  have hsame : reader.contribution directory (place, content) = contribution :=
    (hadd {}).trans contribution.empty_append
  rw [hsame]
  exact ⟨hc, hadd⟩

theorem Reader.Contributes.filesScanned {reader : Reader} {path : String} {content : Content}
    {contribution : ScanResult} (h : reader.Contributes path content contribution) :
    contribution.filesScanned = 1 := by
  cases h <;> rfl

-- ---------------------------------------------------------------------------
-- All files
-- ---------------------------------------------------------------------------

def ScanResult.assembled (contributions : List ScanResult) : ScanResult where
  declarations := contributions.flatMap (·.declarations)
  helpers := contributions.flatMap (·.helpers)
  skipped := contributions.flatMap (·.skipped)
  filesScanned := contributions.length

theorem ScanResult.foldl_addFile (reader : Reader) (directory : String)
    (files : List (Folder.Place × Content)) (result : ScanResult) :
    files.foldl (fun result (place, content) =>
        result.addFile reader (Folder.pathBelow directory place) content) result =
      result.append (assembled (files.map (reader.contribution directory))) := by
  induction files generalizing result with
  | nil => exact result.append_empty.symm
  | cons file rest ih =>
    obtain ⟨place, content⟩ := file
    obtain ⟨hc, hadd⟩ := reader.contribution_spec directory place content
    have hcount := hc.filesScanned
    rw [List.foldl_cons, ih]
    dsimp only
    rw [hadd, append_assoc]
    congr 1
    simp [append, assembled, hcount, Nat.add_comm]

namespace Folder

variable {root inner other changed : Folder} {directory : String} {options : ScanOptions}
  {patterns : List Pattern} {place : Place}

theorem scan_eq_assembled (reader : Reader) (hi : root.folderAt directory = .ok inner)
    (hp : options.patterns = .ok patterns) :
    root.scan directory options reader = .ok (ScanResult.assembled
      ((inner.selected options.recursive patterns).map (reader.contribution directory))) := by
  have hscan : root.scan directory options reader =
      .ok ((inner.selected options.recursive patterns).foldl
        (fun result (place, content) =>
          result.addFile reader (pathBelow directory place) content) {}) := by
    rw [scan, hi, hp]
    rfl
  rw [hscan, ScanResult.foldl_addFile, ScanResult.empty_append]

-- ---------------------------------------------------------------------------
-- Selected files
-- ---------------------------------------------------------------------------

def isSourcePlace (recursive : Bool) : Place → Bool
  | [] => false
  | [name] => isSourceFile name
  | name :: below => recursive && !isSkippedFolder name && isSourcePlace recursive below

theorem sources_eq_filter (recursive : Bool) (root : Folder) :
    root.sources recursive = root.files.filter (isSourcePlace recursive ·.1) := by
  induction root with
  | empty => rfl
  | file name content rest ih =>
    have hhere : isSourcePlace recursive [name] = isSourceFile name := rfl
    rw [sources, files, List.filter_cons, ih, hhere]
    cases isSourceFile name <;> rfl
  | folder name inner rest ihInner ih =>
    have hbelow : inner.files.filter ((isSourcePlace recursive ·.1) ∘
          fun (place, content) => (name :: place, content)) =
        inner.files.filter fun file =>
          recursive && !isSkippedFolder name && isSourcePlace recursive file.1 := by
      refine List.filter_congr ?_
      rintro ⟨place, content⟩ hm
      obtain ⟨first, -, more, rfl⟩ := exists_of_mem_files hm
      rfl
    rw [sources, files, List.filter_append, List.filter_map, ih, ihInner, hbelow]
    cases recursive && !isSkippedFolder name <;> simp

theorem selected_eq_filter (inner : Folder) (recursive : Bool) (patterns : List Pattern) :
    inner.selected recursive patterns = inner.files.filter fun file =>
      isSourcePlace recursive file.1 && !isExcluded patterns file.1 := by
  rw [selected, sources_eq_filter, List.filter_filter]
  exact List.filter_congr fun file _ => Bool.and_comm _ _

theorem SameFilesBut.selected_eq (h : SameFilesBut place inner changed) (hi : inner.WellFormed)
    (hc : changed.WellFormed) (recursive : Bool) (patterns : List Pattern) :
    ∃ before after, (∀ file ∈ before ++ after, file.1 ≠ place) ∧
      inner.selected recursive patterns =
        before ++ (inner.selected recursive patterns).filter (·.1 = place) ++ after ∧
      changed.selected recursive patterns =
        before ++ (changed.selected recursive patterns).filter (·.1 = place) ++ after := by
  have hfilter {p : Place × Content → Bool} (hp : ∀ content, p (place, content) = false) :
      (changed.selected recursive patterns).filter p =
        (inner.selected recursive patterns).filter p := by
    simp only [selected_eq_filter, List.filter_filter]
    exact (h.filter_files hi hc fun content => by rw [hp, Bool.false_and]).symm
  have hpairwise (folder : Folder) (hw : folder.WellFormed) :
      (folder.selected recursive patterns).Pairwise Precedes := by
    rw [selected_eq_filter]
    exact hw.pairwise_files.filter _
  refine ⟨(inner.selected recursive patterns).filter (·.1 < place),
    (inner.selected recursive patterns).filter (place < ·.1), fun file hm => ?_,
    split_at_key (hpairwise inner hi) place, ?_⟩
  · simp only [List.mem_append, List.mem_filter, decide_eq_true_eq] at hm
    rcases hm with ⟨-, hlt⟩ | ⟨-, hlt⟩
    · exact hlt.ne
    · exact hlt.ne'
  · have hsplit := split_at_key (hpairwise changed hc) place
    rwa [hfilter (p := (·.1 < place)) fun _ => by simp,
      hfilter (p := (place < ·.1)) fun _ => by simp] at hsplit

end Folder

-- ---------------------------------------------------------------------------
-- One file among others
-- ---------------------------------------------------------------------------

/-- Two readers parse alike, and they read alike all files below a directory but one. -/
structure Reader.AlikeBut (directory : String) (place : Folder.Place)
    (reader other : Reader) : Prop where
  parse : reader.parse = other.parse
  text? : ∀ q, q ≠ place → ∀ content,
    reader.text? (Folder.pathBelow directory q) content =
      other.text? (Folder.pathBelow directory q) content

theorem Reader.AlikeBut.contribution {directory : String} {place : Folder.Place}
    {reader other : Reader} (h : reader.AlikeBut directory place other)
    {file : Folder.Place × Content} (hf : file.1 ≠ place) :
    other.contribution directory file = reader.contribution directory file := by
  simp only [Reader.contribution, ScanResult.addFile, ScanResult.addText, h.parse,
    h.text? file.1 hf]

/-- A scan is assembled from what its files contribute, in their order. If only the file at
one place is another, or is there only once, or is read otherwise, all other files
contribute as before. -/
theorem Folder.scan_assembled {root inner : Folder} {directory : String} {options : ScanOptions}
    {patterns : List Pattern} (reader : Reader) (hi : root.folderAt directory = .ok inner)
    (hp : options.patterns = .ok patterns) :
    root.scan directory options reader = .ok (ScanResult.assembled
      ((inner.selected options.recursive patterns).map (reader.contribution directory))) ∧
    (∀ place content, reader.Contributes (pathBelow directory place) content
      (reader.contribution directory (place, content))) ∧
    ∀ (other changed : Folder) (place : Place) (rereader : Reader),
      other.folderAt directory = .ok changed → inner.WellFormed → changed.WellFormed →
      SameFilesBut place inner changed → reader.AlikeBut directory place rereader →
      ∃ before after : List (Place × Content), (∀ file ∈ before ++ after, file.1 ≠ place) ∧
        root.scan directory options reader = .ok (ScanResult.assembled
          (before.map (reader.contribution directory) ++
            ((inner.selected options.recursive patterns).filter (·.1 = place)).map
              (reader.contribution directory) ++
            after.map (reader.contribution directory))) ∧
        other.scan directory options rereader = .ok (ScanResult.assembled
          (before.map (reader.contribution directory) ++
            ((changed.selected options.recursive patterns).filter (·.1 = place)).map
              (rereader.contribution directory) ++
            after.map (reader.contribution directory))) := by
  have hscan := scan_eq_assembled reader hi hp
  refine ⟨hscan, fun place content => (reader.contribution_spec directory place content).1, ?_⟩
  intro other changed place rereader hc hwell hchanged hsame hread
  obtain ⟨before, after, hoff, hfirst, hsecond⟩ :=
    hsame.selected_eq hwell hchanged options.recursive patterns
  have hrescan := scan_eq_assembled rereader hc hp
  rw [hfirst, List.map_append, List.map_append] at hscan
  rw [hsecond, List.map_append, List.map_append] at hrescan
  have hbefore : before.map (rereader.contribution directory) =
      before.map (reader.contribution directory) :=
    List.map_congr_left fun file hm => hread.contribution (hoff file (List.mem_append_left _ hm))
  have hafter : after.map (rereader.contribution directory) =
      after.map (reader.contribution directory) :=
    List.map_congr_left fun file hm => hread.contribution (hoff file (List.mem_append_right _ hm))
  rw [hbefore, hafter] at hrescan
  exact ⟨before, after, hoff, hscan, hrescan⟩

/-- A record, and what is left of another one. -/
def tornProject : Folder :=
  .file "line.rs" (.ofText "pub struct Li")
    (.file "post.rs" (.ofText "pub struct Post \x7b pub id: i64 \x7d\n") .empty)

def wholeProject : Folder :=
  .file "post.rs" (.ofText "pub struct Post \x7b pub id: i64 \x7d\n") .empty

theorem scan_assembled_tornProject :
    ∃ (before after : List ScanResult) (torn : ScanResult),
      ({} : Reader).Contributes "./line.rs" (.ofText "pub struct Li") torn ∧
      torn = { skipped := [⟨"./line.rs", "Source parse error in ./line.rs at line 1"⟩],
               filesScanned := 1 } ∧
      tornProject.scan "." {} = .ok (ScanResult.assembled (before ++ [torn] ++ after)) ∧
      wholeProject.scan "." {} = .ok (ScanResult.assembled (before ++ after)) := by
  have hsame : Folder.SameFilesBut ["line.rs"] tornProject wholeProject := by
    intro q hq
    rw [tornProject, Folder.fileAt?_file (by decide), if_neg hq, wholeProject]
  obtain ⟨-, hcontributes, hothers⟩ :=
    @Folder.scan_assembled tornProject tornProject "." {} [] {} rfl rfl
  obtain ⟨before, after, -, htorn, hwhole⟩ := hothers wholeProject wholeProject ["line.rs"] {} rfl
    (by decide) (by decide) hsame ⟨rfl, fun _ _ _ => rfl⟩
  have hpath : Folder.pathBelow "." ["line.rs"] = "./line.rs" := by decide
  have hskipped : ({} : Reader).contribution "." (["line.rs"], .ofText "pub struct Li") =
      { skipped := [⟨"./line.rs", "Source parse error in ./line.rs at line 1"⟩],
        filesScanned := 1 } := by decide +kernel
  have hnone : (wholeProject.selected false []).filter (·.1 = ["line.rs"]) = [] := rfl
  rw [hnone, List.map_nil, List.append_nil] at hwhole
  exact ⟨_, _, _, hpath ▸ hcontributes ["line.rs"] _, hskipped, htorn, hwhole⟩

end SchemaCompiler
