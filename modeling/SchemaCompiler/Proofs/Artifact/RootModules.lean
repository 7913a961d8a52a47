import Mathlib.Data.List.Flatten
import Mathlib.Data.List.Sort
import Mathlib.Data.String.Basic
import SchemaCompiler.Proofs.Artifact.SourceFiles
import SchemaCompiler.Proofs.Model.Validity
import SchemaCompiler.Proofs.Text.Lines

/-!
# Modules of the root file

The root file declares the other files of its run, and nothing else: its lines are
read back as the modules that it was written from, and these are the other files.
-/

namespace SchemaCompiler

open Text Code

-- ---------------------------------------------------------------------------
-- Declared modules
-- ---------------------------------------------------------------------------

/-- The module that a line of code declares. -/
def declaredModule? (line : String) : Option String :=
  (dropStart? "pub mod ".toList line.toList).bind fun rest =>
    (dropEnd? [';'] rest).map String.ofList

def declaredModules (code : String) : List String :=
  (lines code).filterMap declaredModule?

@[simp] theorem declaredModule?_declaration (name : String) :
    declaredModule? ("pub mod " ++ name ++ ";") = some name := by
  simp [declaredModule?, dropStart?, dropEnd?]

theorem declaredModule?_append {start : String} (h : start.toList.head?.any (· ≠ 'p') = true)
    (rest : String) : declaredModule? (start ++ rest) = none := by
  have hprefix : "pub mod ".toList.isPrefixOf (start ++ rest).toList = false := by
    rw [String.toList_append]
    cases hs : start.toList with
    | nil => simp [hs] at h
    | cons c cs =>
      have hc : c ≠ 'p' := by simpa [hs] using h
      simp [List.isPrefixOf, Ne.symm hc]
  rw [declaredModule?, dropStart?, hprefix]
  rfl

/-- A line of code that declares no module. -/
structure Plain (line : String) : Prop where
  oneLine : OneLine line
  declares : declaredModule? line = none

instance (line : String) : Decidable (Plain line) :=
  decidable_of_iff (OneLine line ∧ declaredModule? line = none)
    ⟨fun ⟨ho, hd⟩ => ⟨ho, hd⟩, fun ⟨ho, hd⟩ => ⟨ho, hd⟩⟩

theorem plain_append {start rest : String} (h : start.toList.head?.any (· ≠ 'p') = true)
    (ho : OneLine (start ++ rest)) : Plain (start ++ rest) :=
  ⟨ho, declaredModule?_append h rest⟩

theorem filterMap_of_plain {ls : List String} (h : ∀ line ∈ ls, Plain line) :
    ls.filterMap declaredModule? = [] :=
  List.filterMap_eq_nil_iff.mpr fun line hl => (h line hl).declares

theorem declaredModules_unlines {ls : List String} (h : ∀ line ∈ ls, OneLine line) :
    declaredModules (unlines ls) = ls.filterMap declaredModule? := by
  rw [declaredModules, lines_unlines h, List.filterMap_append]
  exact List.append_nil _

namespace Code

theorem paragraphs_cons_cons (group next : List String) (more : List (List String)) :
    paragraphs (group :: next :: more) = group ++ "" :: paragraphs (next :: more) := rfl

theorem mem_paragraphs {groups : List (List String)} {line : String}
    (h : line ∈ paragraphs groups) : line = "" ∨ ∃ group ∈ groups, line ∈ group := by
  induction groups with
  | nil => cases h
  | cons group rest ih =>
    cases rest with
    | nil => exact .inr ⟨group, List.mem_singleton_self group, h⟩
    | cons next more =>
      rw [paragraphs_cons_cons, List.mem_append, List.mem_cons] at h
      rcases h with h | rfl | h
      · exact .inr ⟨group, List.mem_cons_self, h⟩
      · exact .inl rfl
      · refine (ih h).imp_right ?_
        rintro ⟨other, ho, hline⟩
        exact ⟨other, List.mem_cons_of_mem group ho, hline⟩

theorem filterMap_paragraphs {f : String → Option α} (hf : f "" = none)
    (groups : List (List String)) :
    (paragraphs groups).filterMap f = groups.flatMap (·.filterMap f) := by
  induction groups with
  | nil => rfl
  | cons group rest ih =>
    cases rest with
    | nil => exact (List.append_nil _).symm
    | cons next more =>
      rw [paragraphs_cons_cons, List.filterMap_append, List.filterMap_cons_none hf, ih]
      rfl

end Code

-- ---------------------------------------------------------------------------
-- Lines of the root file
-- ---------------------------------------------------------------------------

theorem Plan.oneLine_moduleName {model : Model} {kind : ArtifactKind} {plan : Plan}
    (h : plan ∈ ofKind model kind) : OneLine plan.moduleName := by
  intro hn
  -- A newline parts words, so that snake case drops it.
  obtain ⟨-, -, -, hseparator⟩ := mem_of_mem_moduleName h hn (by decide)
  exact absurd hseparator (by decide)

theorem oneLine_paddedDecimal (width n : Nat) : OneLine (paddedDecimal width n) := by
  simp [OneLine, paddedDecimal, newline_notMem_toDigits]

theorem Timestamp.oneLine_text (moment : Timestamp) : OneLine moment.text := by
  have hyear (year : Int) : OneLine (yearText year) := by
    rw [yearText]
    split
    · exact oneLine_paddedDecimal _ _
    · refine oneLine_append.mpr ⟨?_, oneLine_paddedDecimal _ _⟩
      split <;> decide
  simp only [text, Date.text, oneLine_append, hyear, oneLine_paddedDecimal, true_and, and_true]
  decide

namespace RootFile

variable {payload : Payload}

theorem oneLine_of_mem_moduleLines {line : String} (h : line ∈ moduleLines payload) :
    OneLine line := by
  simp only [moduleLines, modules, List.mem_map, List.mem_mergeSort, List.mem_flatMap] at h
  obtain ⟨name, ⟨plan, ⟨kind, -, hp⟩, rfl⟩, rfl⟩ := h
  simp only [oneLine_append, Plan.oneLine_moduleName hp, and_true]
  decide

def frameLines : List String := [
  "/// Every entity in the model as `(type name, table name)`.",
  "pub const ENTITIES: &[(&str, &str)] = &[",
  "];"]

theorem mem_lines_entityList {model : Model} {line : String}
    (h : line ∈ (entityList model).lines) :
    line ∈ frameLines ∨
      ∃ entity : Entity, line =
        "    " ++ ("(" ++ quoted entity.name ++ ", " ++ quoted entity.table ++ "),") := by
  rw [Constant.lines, List.mem_append] at h
  rcases h with h | h
  · exact .inl (List.mem_cons.mpr (.inl (List.mem_singleton.mp h)))
  · simp only [entityList, List.mem_append] at h
    rcases h with (h | h) | h
    · rw [List.mem_singleton.mp h]
      exact .inl (by decide)
    · obtain ⟨item, hi, rfl⟩ := List.mem_map.mp h
      obtain ⟨entity, -, rfl⟩ := List.mem_map.mp hi
      refine .inr ⟨entity, if_neg ?_⟩
      simp [← String.toList_inj]
    · rw [List.mem_singleton.mp h]
      exact .inl (by decide)

theorem plain_of_mem_entityList {model : Model} {line : String}
    (h : line ∈ (entityList model).lines) : Plain line := by
  rcases mem_lines_entityList h with hm | ⟨entity, rfl⟩
  · have hfixed : ∀ line ∈ frameLines, Plain line := by decide
    exact hfixed line hm
  · refine plain_append (by decide) ?_
    simp only [oneLine_append, oneLine_quoted, and_true]
    decide

theorem plain_packageLine (hp : OneLine payload.package) :
    Plain ("//! Generated data-access code for package `" ++ payload.package ++ "`.") := by
  rw [String.append_assoc]
  refine plain_append (by decide) ?_
  simp only [oneLine_append, hp, true_and]
  decide

theorem oneLine_of_mem_body (hp : OneLine payload.package) {group : List String}
    (hg : group ∈ body payload) {line : String} (hl : line ∈ group) : OneLine line := by
  rw [body, List.mem_append, List.mem_cons, List.mem_filter, List.mem_singleton,
    List.mem_singleton] at hg
  rcases hg with (rfl | ⟨rfl, -⟩) | rfl
  · rw [List.mem_singleton.mp hl]
    exact (plain_packageLine hp).oneLine
  · exact oneLine_of_mem_moduleLines hl
  · exact (plain_of_mem_entityList hl).oneLine

theorem declared_moduleLines (payload : Payload) :
    (moduleLines payload).filterMap declaredModule? = modules payload := by
  simp [moduleLines, List.filterMap_map]

theorem declared_body (hp : OneLine payload.package) :
    (body payload).flatMap (·.filterMap declaredModule?) = modules payload := by
  have hmodules : ([moduleLines payload].filter (!·.isEmpty)).flatMap
      (·.filterMap declaredModule?) = modules payload := by
    rw [← declared_moduleLines]
    cases moduleLines payload <;> simp
  rw [body, List.flatMap_append, List.flatMap_cons, hmodules, List.flatMap_singleton,
    filterMap_of_plain fun line => plain_of_mem_entityList, List.append_nil,
    List.filterMap_cons_none (plain_packageLine hp).declares]
  rfl

end RootFile

theorem Template.plain_of_mem_header {payload : Payload} (hp : OneLine payload.package)
    {line : String} (h : line ∈ header payload) : Plain line := by
  simp only [header, List.mem_cons, List.not_mem_nil, or_false] at h
  rcases h with rfl | rfl | rfl
  · decide
  · exact plain_append (by decide) (oneLine_append.mpr ⟨by decide, hp⟩)
  · refine plain_append (by decide) (oneLine_append.mpr ⟨by decide, ?_⟩)
    exact payload.generatedAt.oneLine_text

theorem declaredModules_render {payload : Payload} (hp : OneLine payload.package) {text : String}
    (h : Template.render .root payload = .ok text) :
    declaredModules text = RootFile.modules payload := by
  have htext : unlines (paragraphs (Template.header payload :: RootFile.body payload)) = text := by
    simpa [Template.render, Template.lines, Template.body, pure_ok_iff] using h
  have hlines : ∀ line ∈ paragraphs (Template.header payload :: RootFile.body payload),
      OneLine line := by
    intro line hl
    rcases mem_paragraphs hl with rfl | ⟨group, hg, hl⟩
    · decide
    · rcases List.mem_cons.mp hg with rfl | hg
      · exact (Template.plain_of_mem_header hp hl).oneLine
      · exact RootFile.oneLine_of_mem_body hp hg hl
  rw [← htext, declaredModules_unlines hlines, filterMap_paragraphs (by decide), List.flatMap_cons,
    filterMap_of_plain fun line => Template.plain_of_mem_header hp, List.nil_append,
    RootFile.declared_body hp]

-- ---------------------------------------------------------------------------
-- Modules of a run
-- ---------------------------------------------------------------------------

theorem RootFile.mem_modules_iff {payload : Payload} {name : String} :
    name ∈ modules payload ↔ ∃ kind ∈ payload.kinds, kind ≠ .root ∧
      ∃ plan ∈ Plan.ofKind payload.model kind, plan.moduleName = name := by
  simp only [modules, List.mem_mergeSort, List.mem_map, List.mem_flatMap, List.mem_filter,
    decide_eq_true_eq]
  constructor
  · rintro ⟨plan, ⟨kind, ⟨hk, hr⟩, hp⟩, rfl⟩
    exact ⟨kind, hk, hr, plan, hp, rfl⟩
  · rintro ⟨kind, hk, hr, plan, hp, rfl⟩
    exact ⟨plan, ⟨kind, ⟨hk, hr⟩, hp⟩, rfl⟩

theorem RootFile.pairwise_modules {payload : Payload}
    (hn : ((payload.kinds.flatMap (Plan.ofKind payload.model)).map (·.fileName)).Nodup) :
    (modules payload).Pairwise (· < ·) := by
  have hnames : ((payload.kinds.flatMap (Plan.ofKind payload.model)).map (·.moduleName)).Nodup := by
    refine List.Nodup.of_map (· ++ ".rs") ?_
    rwa [List.map_map]
  have hothers := hnames.sublist
    (((List.filter_sublist (p := (· ≠ .root))).flatMap (Plan.ofKind payload.model)).map
      (·.moduleName))
  have hsorted := List.pairwise_mergeSort' (· ≤ ·)
    (((payload.kinds.filter (· ≠ .root)).flatMap (Plan.ofKind payload.model)).map (·.moduleName))
  have hdistinct := (List.mergeSort_perm _ fun a b => decide (a ≤ b)).nodup_iff.mpr hothers
  exact (hsorted.and hdistinct).imp fun h => lt_of_le_of_ne h.1 h.2

theorem Plan.mem_ofKind_root {model : Model} {plan : Plan} :
    plan ∈ ofKind model .root ↔ plan = ⟨.root, none, "mod"⟩ := by
  simp [ofKind, ArtifactKind.modelModule?]

theorem Plan.moduleName_eq_mod_iff {model : Model} {kind : ArtifactKind} {plan : Plan}
    (h : plan ∈ ofKind model kind) : plan.moduleName = "mod" ↔ kind = .root := by
  constructor
  · intro hname
    by_contra hne
    exact moduleName_ne h (mem_ofKind_root.mpr rfl) hne hname
  · rintro rfl
    rw [mem_ofKind_root.mp h]

namespace Artifact

variable {package : String} {generatedAt : Timestamp} {model : Model}
  {requested : List ArtifactKind} {artifacts : List Artifact}

theorem marked_of_render {kind : ArtifactKind} {payload : Payload} {text : String}
    (h : Template.render kind payload = .ok text) : marked text = text := by
  obtain ⟨rest, rfl⟩ := Template.render_eq h
  refine if_pos (List.isPrefixOf_iff_prefix.mpr ?_)
  rw [String.append_assoc, String.toList_append]
  exact List.prefix_append _ _

theorem declaredModules_root {setting : Setting} (hr : setting.renderer = Template.render)
    (hp : OneLine setting.package) (h : renderAll setting model requested = .ok artifacts)
    {root : Artifact} (hm : root ∈ artifacts) (hname : root.fileName = "mod.rs") :
    declaredModules root.contents =
      RootFile.modules (payloadOf setting model (Plan.kinds model requested)
        ⟨.root, none, "mod"⟩) := by
  obtain ⟨kind, -, plan, hplan, text, ht, rfl⟩ := exists_plan_of_renderAll h hm
  obtain rfl : kind = .root :=
    (Plan.moduleName_eq_mod_iff hplan).mp (Plan.appended_injective ".rs" hname)
  obtain rfl := Plan.mem_ofKind_root.mp hplan
  rw [hr] at ht
  rw [marked_of_render ht]
  exact declaredModules_render hp ht

/-- The root file of a run with the built-in templates declares the modules of the other
files, in order and each once, and no other module. -/
theorem rootModules_of_renderAll {package : String} (hp : OneLine package)
    (hroot : .root ∈ requested)
    (h : renderAll { package, generatedAt } model requested = .ok artifacts) :
    (∃ root ∈ artifacts, root.fileName = "mod.rs") ∧
    ∀ root ∈ artifacts, root.fileName = "mod.rs" →
      (declaredModules root.contents).Pairwise (· < ·) ∧
      ∀ name, name ∈ declaredModules root.contents ↔
        ∃ other ∈ artifacts, other ≠ root ∧ other.fileName = name ++ ".rs" := by
  have hkind : .root ∈ Plan.kinds model requested :=
    Plan.mem_kinds.mpr ⟨hroot, fun he => by cases he⟩
  refine ⟨(exists_fileName_iff h).mpr ⟨_, hkind, _, Plan.mem_ofKind_root.mpr rfl, rfl⟩, ?_⟩
  intro root hm hname
  obtain ⟨hplans, hdistinct⟩ := renderAll_ok_iff.mp h
  rw [declaredModules_root rfl hp h hm hname]
  refine ⟨RootFile.pairwise_modules (fileNames_eq hplans ▸ hdistinct), fun name => ?_⟩
  rw [RootFile.mem_modules_iff]
  constructor
  · rintro ⟨kind, hk, hne, plan, hplan, rfl⟩
    obtain ⟨other, ho, hfile⟩ := (exists_fileName_iff h).mpr ⟨kind, hk, plan, hplan, rfl⟩
    refine ⟨other, ho, ?_, hfile⟩
    rintro rfl
    rw [hfile] at hname
    exact hne ((Plan.moduleName_eq_mod_iff hplan).mp (Plan.appended_injective ".rs" hname))
  · rintro ⟨other, ho, hne, hfile⟩
    obtain ⟨kind, hk, plan, hplan, hsame⟩ := (exists_fileName_iff h).mp ⟨other, ho, hfile⟩
    have hmodule : plan.moduleName = name := Plan.appended_injective ".rs" hsame
    refine ⟨kind, hk, ?_, plan, hplan, hmodule⟩
    rintro rfl
    rw [Plan.mem_ofKind_root.mp hplan] at hmodule
    rw [← hmodule] at hfile
    exact hne (List.inj_on_of_nodup_map hdistinct ho hm (hfile.trans hname.symm))

theorem rootModules_of_blog :
    ∃ model artifacts root, (Model.build {} blog).1 = .ok model ∧
      renderAll { package := "models", generatedAt := ⟨0, 0⟩ } model [.query, .root] =
        .ok artifacts ∧
      root ∈ artifacts ∧ root.fileName = "mod.rs" ∧
        "post_query" ∈ declaredModules root.contents := by
  have hblog : ∃ model, (Model.build {} blog).1 = .ok model ∧
      ((renderAll { package := "models", generatedAt := ⟨0, 0⟩ } model
        [.query, .root]).toOption.any (·.any (·.fileName = "post_query.rs"))) = true :=
    ok_of_any (by decide +kernel)
  obtain ⟨model, hmodel, hrun⟩ := hblog
  obtain ⟨artifacts, hrender, hquery⟩ := ok_of_any hrun
  simp only [List.any_eq_true, decide_eq_true_eq] at hquery
  obtain ⟨other, ho, hfile⟩ := hquery
  obtain ⟨⟨root, hm, hname⟩, hroots⟩ :=
    rootModules_of_renderAll (by decide : OneLine "models") (by decide) hrender
  have hne : other ≠ root := by
    rintro rfl
    exact absurd (hfile.symm.trans hname) (by decide)
  exact ⟨model, artifacts, root, hmodel, hrender, hm, hname,
    ((hroots root hm hname).2 "post_query").mpr ⟨other, ho, hne, hfile⟩⟩

end Artifact

end SchemaCompiler
