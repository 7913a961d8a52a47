import SchemaCompiler.Proofs.Artifact.RootModules
import SchemaCompiler.Proofs.Sequence

/-!
# Lines of files

A file has its header, a fixed frame and the lines of the constants or methods that it is
made from, each of them once and in order. Empty lines only part them.
-/

namespace SchemaCompiler

-- ---------------------------------------------------------------------------
-- Lines of code
-- ---------------------------------------------------------------------------

namespace Code

/-- The lines that are not empty. -/
def written (lines : List String) : List String :=
  lines.filter (· ≠ "")

theorem written_append (first second : List String) :
    written (first ++ second) = written first ++ written second :=
  List.filter_append ..

theorem written_paragraphs (groups : List (List String)) :
    written (paragraphs groups) = groups.flatMap written := by
  induction groups with
  | nil => rfl
  | cons group rest ih =>
    cases rest with
    | nil => exact (List.append_nil _).symm
    | cons next more =>
      have hempty :
          written ("" :: paragraphs (next :: more)) = written (paragraphs (next :: more)) :=
        List.filter_cons_of_neg (by decide)
      rw [paragraphs_cons_cons, written_append, hempty, ih]
      rfl

theorem written_groups (groups : List (List α)) (lines : α → List String) :
    written (paragraphs (groups.map (·.flatMap lines))) =
      groups.flatten.flatMap (written <| lines ·) := by
  rw [written_paragraphs, List.flatMap_map]
  induction groups with
  | nil => rfl
  | cons group rest ih =>
    rw [List.flatMap_cons, ih, List.flatten_cons, List.flatMap_append]
    exact congrArg (· ++ _) List.filter_flatMap

theorem written_block (head : String) (body : List String) :
    written (block head body) = block head (written body) := by
  have hindent : written (indent body) = indent (written body) := by
    rw [written, indent, List.filter_map, indent, written]
    refine congrArg (List.map _) (List.filter_congr fun line _ => ?_)
    by_cases hl : line = "" <;> simp [hl]
  have hlast : written [closing ++ ""] = [closing ++ ""] := by decide
  rw [block, written_append, hlast, written, List.filter_cons_of_pos (by simp [opening]),
    ← written, hindent]
  rfl

end Code

open Code

-- ---------------------------------------------------------------------------
-- Files
-- ---------------------------------------------------------------------------

theorem ColumnsFile.written_entityModule (entity : Entity) :
    written (entityModule entity) = (entityModule entity).take 1 ++
      block ("pub mod " ++ identifier (Naming.snake entity.name))
        (("use super::" ++ opening ++ "Column, Index" ++ closing ++ ";") ::
          (constantGroups entity).flatten.flatMap (written ·.lines)) := by
  have hlines (imports : String) (himports : imports ≠ "") :
      written (paragraphs ([imports] :: (constantGroups entity).map (·.flatMap Constant.lines))) =
        imports :: (constantGroups entity).flatten.flatMap (written ·.lines) := by
    rw [written_paragraphs, List.flatMap_cons, ← written_paragraphs, written_groups, written,
      List.filter_cons_of_pos (by simpa using himports)]
    rfl
  rw [← hlines _ (by decide), ← written_block, entityModule, written,
    List.filter_cons_of_pos (by simp)]
  rfl

theorem RepositoryFile.written_body (entity : Entity) :
    (body entity).flatMap written = (body entity).dropLast.flatMap written ++
      block ("impl " ++ typeName entity)
        ((constantGroups entity).flatten.flatMap (written ·.lines)) := by
  rw [← written_groups, ← written_block]
  simp [body]

theorem QueryFile.written_body (entity : Entity) :
    (body entity).flatMap written = (body entity).dropLast.flatMap written ++
      block ("impl " ++ typeName entity)
        (written (constantLines entity) ++ (methods entity).flatMap (written ·.lines)) := by
  have hmethods : written (paragraphs (constantLines entity :: (methods entity).map Method.lines)) =
      written (constantLines entity) ++ (methods entity).flatMap (written ·.lines) := by
    rw [written_paragraphs, List.flatMap_cons, List.flatMap_map]
  rw [← hmethods, ← written_block]
  simp [body]

theorem RelationsFile.written_moduleLines (entity : Entity) (groups : List (List Constant)) :
    written (moduleLines entity groups) = (moduleLines entity groups).take 1 ++
      block ("pub mod " ++ identifier (Naming.snake entity.name))
        (groups.flatten.flatMap (written ·.lines)) := by
  rw [← written_groups, ← written_block, moduleLines, written, List.filter_cons_of_pos (by simp)]
  rfl

/-- After a first line there is a module for every entity that has relations, with the
constants of these. -/
theorem RelationsFile.written_body {model : Model} {groups : List (List String)}
    (h : body model = .ok groups) :
    List.Forall₂ (fun entity lines => ∃ constants,
        entity.relations.mapM (relationConstants model entity) = .ok constants ∧
          written lines = lines.take 1 ++
            block ("pub mod " ++ identifier (Naming.snake entity.name))
              (constants.flatten.flatMap (written ·.lines)))
      model.withRelations groups.tail := by
  simp only [body, bind_ok_iff, pure_ok_iff] at h
  obtain ⟨modules, hmodules, rfl⟩ := h
  refine (mapM_ok_iff.mp hmodules).imp fun entity lines hlines => ?_
  simp only [entityModule, moduleConstants, bind_ok_iff, pure_ok_iff] at hlines
  obtain ⟨constants, hconstants, rfl⟩ := hlines
  exact ⟨constants, hconstants, written_moduleLines entity constants⟩

theorem Template.written_of_render {kind : ArtifactKind} {payload : Payload} {text : String}
    (h : render kind payload = .ok text) :
    ∃ groups lines, body kind payload = .ok groups ∧ text = Text.unlines lines ∧
      written lines = header payload ++ groups.flatMap written := by
  simp only [render, Template.lines, bind_ok_iff, pure_ok_iff] at h
  obtain ⟨lines, ⟨groups, hbody, rfl⟩, rfl⟩ := h
  have hheader : written (header payload) = header payload := by
    simp [written, header, marker]
  exact ⟨groups, _, hbody, rfl, by rw [written_paragraphs, List.flatMap_cons, hheader]⟩

end SchemaCompiler
