import SchemaCompiler.Proofs.Artifact.Rendering
import SchemaCompiler.Proofs.Folder.Content
import SchemaCompiler.Proofs.Text.Blank

/-!
# The marker of generated files

A renderer's text is given the marker if it does not start with it, and a file is
known as generated if the marker is its first line. The two tests differ on a text
that starts with the marker and goes on in the same line.
-/

namespace SchemaCompiler.Artifact

/-- Whether a text starts with the marker and has more in its first line. -/
def continuesMarker (text : String) : Bool :=
  match Text.dropStart? Template.marker.toList text.toList with
  | some rest => !Text.isBlankText (rest.takeWhile (· ≠ '\n'))
  | none => false

theorem trimEnd_marker : Text.trimEnd Template.marker.toList = Template.marker.toList := by
  decide

theorem takeWhile_marker_append (rest : List Char) :
    (Template.marker.toList ++ rest).takeWhile (· ≠ '\n') =
      Template.marker.toList ++ rest.takeWhile (· ≠ '\n') :=
  List.takeWhile_append_of_pos (List.all_eq_true.mp (by decide))

theorem isGenerated_marked (text : String) :
    (Content.ofText (marked text)).isGenerated = .ok (!continuesMarker text) := by
  rw [Content.isGenerated_ofText, marked, continuesMarker, Text.dropStart?]
  split
  · rename_i hp
    obtain ⟨rest, hr⟩ := List.isPrefixOf_iff_prefix.mp hp
    simp only [← hr, takeWhile_marker_append, Text.trimEnd_append_eq_left_iff trimEnd_marker,
      List.drop_left, Bool.not_not, Bool.decide_eq_true]
  · simp only [String.toList_append, List.append_assoc, takeWhile_marker_append]
    exact congrArg Except.ok (decide_eq_true trimEnd_marker)

/-- An artifact in a file is known as generated unless the renderer's text starts
with the marker and has more in its first line. -/
theorem isGenerated_written {setting : Setting} {model : Model} {requested : List ArtifactKind}
    {artifacts : List Artifact} (h : renderAll setting model requested = .ok artifacts) :
    List.Forall₂
      (fun plan artifact => ∃ text,
        setting.renderer plan.kind
          (payloadOf setting model (Plan.kinds model requested) plan) = .ok text ∧
        ∀ (root : Folder) (path : String), root.read path = .ok (.ofText artifact.contents) →
          root.isGenerated path = .ok (!continuesMarker text))
      (Plan.all model requested) artifacts := by
  refine (renderAll_ok_iff.mp h).1.imp fun plan artifact hp => ?_
  obtain ⟨text, ht, rfl⟩ := ofPlan_ok_iff.mp hp
  refine ⟨text, ht, fun root path hr => ?_⟩
  rw [Folder.isGenerated, hr]
  exact isGenerated_marked text

/-- Templates of which one writes its version behind the marker. -/
def versioned : Setting where
  package := "models"
  generatedAt := ⟨0, 0⟩
  renderer
    | .columns, _ => .ok (Template.marker ++ " Version 2.\n")
    | _, _ => .ok "pub mod columns;\n"

theorem versioned_written :
    ∃ columns root, renderAll versioned {} [.columns, .root] = .ok [columns, root] ∧
      (Folder.file "columns.rs" (.ofText columns.contents) .empty).isGenerated "columns.rs" =
        .ok false ∧
      (Folder.file "mod.rs" (.ofText root.contents) .empty).isGenerated "mod.rs" = .ok true := by
  refine ⟨_, _, rfl, ?_⟩
  have hplans : Plan.all {} [.columns, .root] =
      [⟨.columns, none, "columns"⟩, ⟨.root, none, "mod"⟩] := rfl
  have hw := @isGenerated_written versioned {} [.columns, .root] [_, _] rfl
  rw [hplans, List.forall₂_cons, List.forall₂_cons] at hw
  obtain ⟨⟨_, hc, hcolumns⟩, ⟨_, hr, hroot⟩, -⟩ := hw
  cases hc
  cases hr
  exact ⟨hcolumns _ _ rfl, hroot _ _ rfl⟩

/-- A text that goes on after the marker makes a file that is not known as generated. -/
theorem not_all_written_isGenerated :
    ¬ ∀ (setting : Setting) (model : Model) (requested : List ArtifactKind)
        (artifacts : List Artifact), renderAll setting model requested = .ok artifacts →
      ∀ artifact ∈ artifacts, ∀ (root : Folder) (path : String),
        root.read path = .ok (.ofText artifact.contents) → root.isGenerated path = .ok true := by
  intro hall
  have hcolumns := hall versioned {} [.columns] _ rfl _ List.mem_cons_self
    (.file "columns.rs" (.ofText (Template.marker ++ " Version 2.\n")) .empty) "columns.rs"
    (by decide)
  exact absurd hcolumns (by decide)

end SchemaCompiler.Artifact
