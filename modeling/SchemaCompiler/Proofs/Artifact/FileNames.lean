import Mathlib.Data.List.Nodup
import SchemaCompiler.Artifact.Plan
import SchemaCompiler.Model.Validation

/-!
# File names

Files of two kinds never have one name, since the module names of each kind end in
a way of their own. So names clash exactly if there are files for each entity and
two entities have one module name.
-/

namespace SchemaCompiler

-- ---------------------------------------------------------------------------
-- Module names of one kind
-- ---------------------------------------------------------------------------

/-- The last characters of every module name of a kind. -/
def ArtifactKind.tail : ArtifactKind → List Char
  | columns => ['m', 'n', 's']
  | repository => ['o', 'r', 'y']
  | query => ['e', 'r', 'y']
  | relations => ['o', 'n', 's']
  | root => ['m', 'o', 'd']

theorem ArtifactKind.tail_injective : Function.Injective ArtifactKind.tail := by
  intro a b h
  cases a <;> cases b <;> simp_all [tail]

namespace Plan

variable {model : Model} {kind other : ArtifactKind} {requested : List ArtifactKind}

theorem tail_suffix_moduleName {plan : Plan} (h : plan ∈ ofKind model kind) :
    kind.tail <:+ plan.moduleName.toList := by
  cases kind with
  | columns | relations | root =>
    simp only [ofKind, ArtifactKind.modelModule?, List.mem_singleton] at h
    subst h
    decide
  | repository | query =>
    simp only [ofKind, ArtifactKind.modelModule?, ArtifactKind.entityEnding?, List.mem_map] at h
    obtain ⟨entity, -, rfl⟩ := h
    rw [String.toList_append]
    refine List.IsSuffix.trans ?_ (List.suffix_append _ _)
    decide

theorem moduleName_ne {plan second : Plan} (h : plan ∈ ofKind model kind)
    (hs : second ∈ ofKind model other) (hne : kind ≠ other) :
    plan.moduleName ≠ second.moduleName := by
  intro he
  have hsuffix : kind.tail <:+ other.tail :=
    List.suffix_of_suffix_length_le (he ▸ tail_suffix_moduleName h) (tail_suffix_moduleName hs)
      (by cases kind <;> cases other <;> decide)
  have htail := hsuffix.eq_of_length (by cases kind <;> cases other <;> rfl)
  exact hne (ArtifactKind.tail_injective htail)

theorem appended_injective (ending : String) :
    Function.Injective (fun name : String => name ++ ending) :=
  fun _ _ h => (String.append_left_inj ending).mp h

theorem moduleNames_of_entityEnding {ending : String} (h : kind.entityEnding? = some ending) :
    (ofKind model kind).map (·.moduleName) =
      (model.entities.map (·.moduleName)).map (· ++ ending) := by
  cases kind <;> cases h <;>
    simp [ofKind, ArtifactKind.modelModule?, ArtifactKind.entityEnding?, Entity.moduleName]

theorem nodup_moduleNames_ofKind :
    ((ofKind model kind).map (·.moduleName)).Nodup ↔
      (kind.entityEnding?.isSome → (model.entities.map (·.moduleName)).Nodup) := by
  cases h : kind.entityEnding? with
  | none =>
    have hsingle : ((ofKind model kind).map (·.moduleName)).Nodup := by
      cases kind <;> cases h <;> simp [ofKind, ArtifactKind.modelModule?]
    simpa using hsingle
  | some ending =>
    rw [moduleNames_of_entityEnding h, List.nodup_map_iff (appended_injective ending)]
    simp

-- ---------------------------------------------------------------------------
-- All file names
-- ---------------------------------------------------------------------------

theorem nodup_kinds : (kinds model requested).Nodup :=
  List.Nodup.filter _ (by decide)

theorem mem_kinds :
    kind ∈ kinds model requested ↔
      kind ∈ requested ∧ (kind = .relations → model.withRelations ≠ []) := by
  have hall : kind ∈ ArtifactKind.all := by cases kind <;> decide
  simp [kinds, hall, imp_iff_not_or]

theorem nodup_fileNames_iff :
    ((all model requested).map (·.fileName)).Nodup ↔
      (.repository ∈ requested ∨ .query ∈ requested →
        (model.entities.map (·.moduleName)).Nodup) := by
  have hnames : (all model requested).map (·.fileName) =
      ((kinds model requested).flatMap fun kind => (ofKind model kind).map (·.moduleName)).map
        (· ++ ".rs") := by
    simp [all, fileName, List.map_flatMap, Function.comp_def]
  have hdisjoint : (kinds model requested).Pairwise fun kind other =>
      List.Disjoint ((ofKind model kind).map (·.moduleName))
        ((ofKind model other).map (·.moduleName)) := by
    refine nodup_kinds.imp fun hne name hm hs => ?_
    obtain ⟨plan, hp, rfl⟩ := List.mem_map.mp hm
    obtain ⟨second, hq, he⟩ := List.mem_map.mp hs
    exact moduleName_ne hp hq hne he.symm
  rw [hnames, List.nodup_map_iff (appended_injective ".rs"), List.nodup_flatMap]
  simp only [nodup_moduleNames_ofKind, mem_kinds]
  constructor
  · rintro ⟨h, -⟩ (hr | hq)
    · exact h .repository ⟨hr, by simp⟩ rfl
    · exact h .query ⟨hq, by simp⟩ rfl
  · intro h
    refine ⟨fun kind ⟨hk, _⟩ he => ?_, hdisjoint⟩
    cases kind with
    | repository => exact h (.inl hk)
    | query => exact h (.inr hk)
    | columns | relations | root => cases he

end Plan

end SchemaCompiler
