import SchemaCompiler.Project.Compile
import SchemaCompiler.Proofs.Artifact.FileNames
import SchemaCompiler.Proofs.Artifact.Marker
import SchemaCompiler.Proofs.Folder.Entries
import SchemaCompiler.Proofs.Model.Origin
import SchemaCompiler.Proofs.Naming.Snake

/-!
# Files of the built-in templates

The files of a run on scanned text have names of source files without a slash, and
what the built-in templates write into them is known as generated.
-/

namespace SchemaCompiler

open Text

-- ---------------------------------------------------------------------------
-- Names of entities
-- ---------------------------------------------------------------------------

def Model.Named (model : Model) : Prop :=
  ∀ entity ∈ model.entities, Source.IsName entity.name

theorem Model.named_of_build {cache : TagCache} {result : ScanResult} {model : Model}
    (hr : result.Named) (h : (build cache result.declarations).1 = .ok model) : model.Named := by
  intro entity he
  obtain ⟨declaration, hd, hfrom⟩ := from_of_build h entity he
  rw [hfrom.name]
  exact (hr declaration hd).name

theorem Model.Named.checked {model : Model} (h : model.Named) : model.checked.1.Named := by
  rw [Model.checked]
  dsimp only
  split
  · intro entity he
    obtain ⟨original, ho, rfl⟩ := List.mem_map.mp he
    exact h original ho
  · exact h

theorem Folder.named_of_compile {root : Folder} {directory : String} {options : ScanOptions}
    {compiled : Compiled} (h : root.compile directory options = .ok compiled) :
    compiled.model.Named := by
  simp only [compile, bind_ok_iff, mapError_ok_iff, pure_ok_iff] at h
  obtain ⟨scanned, hs, model, hm, rfl⟩ := h
  exact (Model.named_of_build (named_of_scan hs) hm).checked

-- ---------------------------------------------------------------------------
-- Names of files
-- ---------------------------------------------------------------------------

theorem isFileName_append_rs {name : String} (h : '/' ∉ name.toList) :
    IsFileName (name ++ ".rs") := by
  have hlength : 3 ≤ (name ++ ".rs").length := by
    rw [String.length_append, show ".rs".length = 3 from rfl]
    omega
  refine ⟨?_, ?_, ?_, by simpa using h⟩ <;> intro he <;> rw [he] at hlength <;>
    exact absurd hlength (by decide)

namespace Plan

variable {model : Model} {kind : ArtifactKind} {plan : Plan}

theorem moduleName_ne_empty (h : plan ∈ ofKind model kind) : plan.moduleName ≠ "" := by
  intro he
  have hs := tail_suffix_moduleName h
  rw [he] at hs
  cases kind <;> exact absurd hs (by decide)

theorem mem_of_mem_moduleName (h : plan ∈ ofKind model kind) {c : Char}
    (hc : c ∈ plan.moduleName.toList) (hb : Naming.isBrought c = false) :
    ∃ entity ∈ model.entities, c ∈ entity.name.toList ∧ Naming.isSeparator c = false := by
  have hfixed (name : String) (hall : name.toList.all Naming.isBrought = true)
      (hm : c ∈ name.toList) : False := by
    rw [List.all_eq_true.mp hall c hm] at hb
    cases hb
  cases kind with
  | columns | relations | root =>
    simp only [ofKind, ArtifactKind.modelModule?, List.mem_singleton] at h
    subst h
    exact (hfixed _ (by decide) hc).elim
  | repository | query =>
    simp only [ofKind, ArtifactKind.modelModule?, ArtifactKind.entityEnding?, List.mem_map] at h
    obtain ⟨entity, he, rfl⟩ := h
    rw [String.toList_append, List.mem_append] at hc
    rcases hc with hc | hc
    · exact ⟨entity, he, Naming.mem_of_mem_snake hc hb⟩
    · exact (hfixed _ (by decide) hc).elim

theorem noSlash_moduleName (hm : model.Named) (h : plan ∈ ofKind model kind) :
    '/' ∉ plan.moduleName.toList := by
  intro hslash
  obtain ⟨entity, he, hname, -⟩ := mem_of_mem_moduleName h hslash (by decide)
  exact (hm entity he).noSlash hname

end Plan

-- ---------------------------------------------------------------------------
-- Texts
-- ---------------------------------------------------------------------------

theorem Template.render_eq {kind : ArtifactKind} {payload : Payload} {text : String}
    (h : render kind payload = .ok text) : ∃ rest, text = marker ++ "\n" ++ rest := by
  simp only [render, lines, bind_ok_iff, pure_ok_iff] at h
  obtain ⟨-, ⟨groups, -, rfl⟩, rfl⟩ := h
  cases groups <;> exact ⟨_, rfl⟩

theorem isGenerated_builtIn {kind : ArtifactKind} {payload : Payload} {text : String}
    (h : Template.render kind payload = .ok text) :
    (Content.ofText (Artifact.marked text)).isGenerated = .ok true := by
  obtain ⟨rest, rfl⟩ := Template.render_eq h
  have htext : (Template.marker ++ "\n" ++ rest).toList =
      Template.marker.toList ++ '\n' :: rest.toList := by
    simp
  have hcontinues : Artifact.continuesMarker (Template.marker ++ "\n" ++ rest) = false := by
    rw [Artifact.continuesMarker, dropStart?, htext,
      if_pos (List.isPrefixOf_iff_prefix.mpr (List.prefix_append _ _)), List.drop_left]
    rfl
  rw [Artifact.isGenerated_marked, hcontinues]
  rfl

-- ---------------------------------------------------------------------------
-- Artifacts
-- ---------------------------------------------------------------------------

namespace Artifact

/-- An artifact that is removed again once it is written. -/
structure IsSource (artifact : Artifact) : Prop where
  fileName : IsFileName artifact.fileName
  source : Path.isSourceName artifact.fileName = true
  generated : (Content.ofText artifact.contents).isGenerated = .ok true

theorem isSource_of_renderAll {setting : Setting} {model : Model}
    {requested : List ArtifactKind} {artifacts : List Artifact} (hm : model.Named)
    (hr : setting.renderer = Template.render)
    (h : renderAll setting model requested = .ok artifacts) {artifact : Artifact}
    (ha : artifact ∈ artifacts) : artifact.IsSource := by
  obtain ⟨kind, -, plan, hplan, text, ht, rfl⟩ := exists_plan_of_renderAll h ha
  rw [hr] at ht
  exact ⟨isFileName_append_rs (Plan.noSlash_moduleName hm hplan),
    isSourceName_iff.mpr ⟨_, Plan.moduleName_ne_empty hplan, rfl⟩, isGenerated_builtIn ht⟩

end Artifact

end SchemaCompiler
