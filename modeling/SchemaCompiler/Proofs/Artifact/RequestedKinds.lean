import Mathlib.Data.List.Destutter
import Mathlib.Data.List.Sort
import SchemaCompiler.Proofs.Artifact.FileNames
import SchemaCompiler.Proofs.Artifact.Rendering
import SchemaCompiler.Proofs.Model.Validity

/-!
# Requested kinds

The kinds of a run are the requested ones, sorted and each once, so a run is the same for
every list of the same kinds, whatever its renderer looks at. Its files follow the order of
kinds, and within a kind the order of entities.
-/

namespace SchemaCompiler

namespace ArtifactKind

-- ---------------------------------------------------------------------------
-- Sorted kinds
-- ---------------------------------------------------------------------------

/-- The place of a kind in the order of rendering. -/
def place (kind : ArtifactKind) : Nat :=
  all.idxOf kind

theorem place_injective : Function.Injective place := by
  intro kind other h
  cases kind <;> cases other <;> first | rfl | exact absurd h (by decide)

instance : LinearOrder ArtifactKind :=
  .lift' place place_injective

/-- The kinds of a list in the order of rendering, each once. -/
def sorted (requested : List ArtifactKind) : List ArtifactKind :=
  (requested.mergeSort (· ≤ ·)).destutter (· ≠ ·)

variable {requested other : List ArtifactKind}

theorem sorted_eq_dedup : sorted requested = (requested.mergeSort (· ≤ ·)).dedup :=
  (List.pairwise_mergeSort' (· ≤ ·) requested).destutter_eq_dedup

theorem mem_sorted {kind : ArtifactKind} : kind ∈ sorted requested ↔ kind ∈ requested := by
  rw [sorted_eq_dedup, List.mem_dedup, List.mem_mergeSort]

theorem sortedLT_sorted : (sorted requested).SortedLT := by
  rw [sorted_eq_dedup]
  have hsorted := (List.pairwise_mergeSort' (· ≤ ·) requested).sublist (List.dedup_sublist _)
  exact hsorted.sortedLE.sortedLT_of_nodup (List.nodup_dedup _)

theorem sorted_congr (h : ∀ kind, kind ∈ other ↔ kind ∈ requested) :
    sorted other = sorted requested :=
  sortedLT_sorted.eq_of_mem_iff sortedLT_sorted fun kind => by
    rw [mem_sorted, mem_sorted, h]

theorem sortedLT_all : all.SortedLT := by
  rw [List.sortedLT_iff_pairwise]
  decide

end ArtifactKind

namespace Plan

variable {model : Model} {requested other : List ArtifactKind}

theorem kinds_eq_sorted :
    kinds model requested = (ArtifactKind.sorted requested).filter fun kind =>
      kind ≠ .relations || !model.withRelations.isEmpty := by
  have hkinds : (kinds model requested).SortedLT :=
    (ArtifactKind.sortedLT_all.pairwise.filter _).sortedLT
  have hsorted := (@ArtifactKind.sortedLT_sorted requested).pairwise.filter
    fun kind => kind ≠ .relations || !model.withRelations.isEmpty
  refine hkinds.eq_of_mem_iff hsorted.sortedLT fun kind => ?_
  rw [mem_kinds, List.mem_filter, ArtifactKind.mem_sorted]
  simp [imp_iff_not_or]

theorem kinds_congr (h : ∀ kind, kind ∈ other ↔ kind ∈ requested) :
    kinds model other = kinds model requested := by
  rw [kinds_eq_sorted, kinds_eq_sorted, ArtifactKind.sorted_congr h]

-- ---------------------------------------------------------------------------
-- Planned files
-- ---------------------------------------------------------------------------

variable {kind : ArtifactKind}

theorem entries_of_modelModule {name : String} (h : kind.modelModule? = some name) :
    (ofKind model kind).map entry = [(kind, name ++ ".rs")] := by
  simp [ofKind, h, entry, fileName]

theorem entries_of_entityEnding {ending : String} (h : kind.entityEnding? = some ending) :
    (ofKind model kind).map entry =
      model.entities.map fun entity => (kind, entity.moduleName ++ (ending ++ ".rs")) := by
  have hmodel : kind.modelModule? = none := by cases kind <;> first | rfl | cases h
  simp [ofKind, hmodel, h, entry, fileName, Entity.moduleName, Function.comp_def,
    String.append_assoc]

theorem flatMap_filter {α β : Type} (p : α → Bool) (f : α → List β) (xs : List α) :
    (xs.filter p).flatMap f = xs.flatMap fun x => if p x then f x else [] := by
  induction xs with
  | nil => rfl
  | cons x xs ih => cases h : p x <;> simp [h, ih]

theorem entries_all_eq_flatMap :
    (all model requested).map entry = ArtifactKind.all.flatMap fun kind =>
      if kind ∈ kinds model requested then (ofKind model kind).map entry else [] := by
  have hmem (kind : ArtifactKind) : kind ∈ kinds model requested ↔
      (requested.contains kind && (kind ≠ .relations || !model.withRelations.isEmpty)) = true := by
    simp [mem_kinds, imp_iff_not_or]
  simp only [hmem]
  rw [all, kinds, List.map_flatMap, flatMap_filter]

theorem entries_all :
    (all model requested).map entry =
      (if .columns ∈ requested then [(.columns, "columns.rs")] else []) ++
      (if .repository ∈ requested then
        model.entities.map fun entity => (.repository, entity.moduleName ++ "_repository.rs")
      else []) ++
      (if .query ∈ requested then
        model.entities.map fun entity => (.query, entity.moduleName ++ "_query.rs") else []) ++
      (if .relations ∈ requested ∧ ∃ entity ∈ model.entities, entity.relations ≠ [] then
        [(.relations, "relations.rs")] else []) ++
      (if .root ∈ requested then [(.root, "mod.rs")] else []) := by
  have hrelations : (∃ entity ∈ model.entities, entity.relations ≠ []) ↔
      model.withRelations ≠ [] := by
    simp [Model.withRelations, Entity.hasRelations]
  simp [entries_all_eq_flatMap, ArtifactKind.all, mem_kinds, hrelations, entries_of_modelModule,
    entries_of_entityEnding, ArtifactKind.modelModule?, ArtifactKind.entityEnding?]

end Plan

namespace Artifact

/-- A run depends only on which kinds are requested, and the files that it gives are those of
each requested kind in turn, of the entities in order. -/
theorem renderAll_requested (setting : Setting) (model : Model) (requested : List ArtifactKind) :
    (∀ other : List ArtifactKind, (∀ kind, kind ∈ other ↔ kind ∈ requested) →
      renderAll setting model other = renderAll setting model requested) ∧
    ∀ artifacts, renderAll setting model requested = .ok artifacts →
      artifacts.map entry =
        (if .columns ∈ requested then [(.columns, "columns.rs")] else []) ++
        (if .repository ∈ requested then
          model.entities.map fun entity => (.repository, entity.moduleName ++ "_repository.rs")
        else []) ++
        (if .query ∈ requested then
          model.entities.map fun entity => (.query, entity.moduleName ++ "_query.rs") else []) ++
        (if .relations ∈ requested ∧ ∃ entity ∈ model.entities, entity.relations ≠ [] then
          [(.relations, "relations.rs")] else []) ++
        (if .root ∈ requested then [(.root, "mod.rs")] else []) := by
  refine ⟨fun other h => ?_, fun artifacts h => ?_⟩
  · simp only [renderAll, Plan.all, Plan.kinds_congr h]
  · rw [entries_eq (renderAll_ok_iff.mp h).1, Plan.entries_all]

theorem renderAll_requested_of_blog :
    ∃ model artifacts, (Model.build {} blog).1 = .ok model ∧
      renderAll { package := "models", generatedAt := ⟨0, 0⟩ } model
        [.root, .relations, .query, .root] = .ok artifacts ∧
      renderAll { package := "models", generatedAt := ⟨0, 0⟩ } model
        [.query, .relations, .root] = .ok artifacts ∧
      artifacts.map entry = [(.query, "author_query.rs"), (.query, "post_query.rs"),
        (.relations, "relations.rs"), (.root, "mod.rs")] := by
  have hblog : ∃ model, (Model.build {} blog).1 = .ok model ∧
      ((renderAll { package := "models", generatedAt := ⟨0, 0⟩ } model
        [.root, .relations, .query, .root]).toOption.any fun _ =>
          decide (model.entities.map (·.moduleName) = ["author", "post"]) &&
            model.entities.any (!·.relations.isEmpty)) = true :=
    ok_of_any (by decide +kernel)
  obtain ⟨model, hb, hrun⟩ := hblog
  obtain ⟨artifacts, hrender, hentities⟩ := ok_of_any hrun
  obtain ⟨hnames, hrelations⟩ : model.entities.map (·.moduleName) = ["author", "post"] ∧
      ∃ entity ∈ model.entities, ¬ entity.relations = [] := by
    simpa using hentities
  have hquery : model.entities.map (fun entity =>
        (ArtifactKind.query, entity.moduleName ++ "_query.rs")) =
      [(.query, "author_query.rs"), (.query, "post_query.rs")] := by
    simpa [Function.comp_def] using
      congrArg (List.map fun name => (ArtifactKind.query, name ++ "_query.rs")) hnames
  obtain ⟨hsame, hfiles⟩ := renderAll_requested { package := "models", generatedAt := ⟨0, 0⟩ }
    model [.query, .relations, .root]
  have hother := hsame [.root, .relations, .query, .root] (by rintro (_ | _) <;> decide)
  have hshort := hother.symm.trans hrender
  refine ⟨model, artifacts, hb, hrender, hshort, ?_⟩
  rw [hfiles artifacts hshort, hquery]
  simp [hrelations]

end Artifact

end SchemaCompiler
