import SchemaCompiler.Artifact.Basic
import SchemaCompiler.Proofs.Sequence

/-!
# Rendering with any renderer

A run renders every planned file or fails; it gives the artifacts in the order of
the plans, and no two of them have one file name.
-/

namespace SchemaCompiler

def Plan.entry (plan : Plan) : ArtifactKind × String :=
  (plan.kind, plan.fileName)

namespace Artifact

def entry (artifact : Artifact) : ArtifactKind × String :=
  (artifact.kind, artifact.fileName)

variable {setting : Setting} {model : Model} {kinds requested : List ArtifactKind}

-- ---------------------------------------------------------------------------
-- One file
-- ---------------------------------------------------------------------------

def payloadOf (setting : Setting) (model : Model) (kinds : List ArtifactKind) (plan : Plan) :
    Payload where
  package := setting.package
  generatedAt := setting.generatedAt
  model
  entity? := plan.entity?
  kinds

theorem ofPlan_ok_iff {plan : Plan} {artifact : Artifact} :
    ofPlan setting model kinds plan = .ok artifact ↔
      ∃ text, setting.renderer plan.kind (payloadOf setting model kinds plan) = .ok text ∧
        artifact = ⟨plan.kind, plan.label, plan.fileName, marked text⟩ := by
  simp only [ofPlan, payloadOf]
  split
  · rename_i h
    simp [h]
  · rename_i h
    simp [h, eq_comm]

theorem ofPlan_fails_iff {plan : Plan} :
    Fails (ofPlan setting model kinds plan) ↔
      Fails (setting.renderer plan.kind (payloadOf setting model kinds plan)) := by
  simp only [ofPlan, payloadOf]
  split
  · rename_i h
    simp [h]
  · rename_i h
    simp [h]

-- ---------------------------------------------------------------------------
-- All files
-- ---------------------------------------------------------------------------

theorem checkFileNames_fails_iff {before artifacts : List Artifact} :
    Fails (checkFileNames before artifacts) ↔
      ¬ ((artifacts.map (·.fileName)).Nodup ∧
        ∀ artifact ∈ artifacts, artifact.fileName ∉ before.map (·.fileName)) := by
  induction artifacts generalizing before with
  | nil => simp [checkFileNames]
  | cons artifact rest ih =>
    rw [checkFileNames]
    split
    · rename_i first hf
      have hm : artifact.fileName ∈ before.map (·.fileName) := by
        have hname : first.fileName = artifact.fileName := by simpa using List.find?_some hf
        exact hname ▸ List.mem_map_of_mem (List.mem_of_find?_eq_some hf)
      refine iff_of_true fails_error ?_
      rintro ⟨-, hb⟩
      exact hb artifact List.mem_cons_self hm
    · rename_i hf
      have hm : artifact.fileName ∉ before.map (·.fileName) := by simpa using hf
      rw [ih]
      refine not_congr ?_
      simp only [List.map_append, List.map_cons, List.map_nil, List.mem_append, List.mem_singleton,
        not_or, List.nodup_cons, List.forall_mem_cons, List.mem_map, not_exists, not_and]
      constructor
      · rintro ⟨hn, hr⟩
        exact ⟨⟨fun other ho he => (hr other ho).2 he, hn⟩, by simpa using hm,
          fun other ho => by simpa using (hr other ho).1⟩
      · rintro ⟨⟨hd, hn⟩, -, hr⟩
        exact ⟨hn, fun other ho => ⟨by simpa using hr other ho, fun he => hd other ho he⟩⟩

theorem checkFileNames_nil_fails_iff {artifacts : List Artifact} :
    Fails (checkFileNames [] artifacts) ↔ ¬ (artifacts.map (·.fileName)).Nodup := by
  simp [checkFileNames_fails_iff]

theorem entries_eq {plans : List Plan} {artifacts : List Artifact}
    (h : List.Forall₂ (fun plan artifact => ofPlan setting model kinds plan = .ok artifact)
      plans artifacts) :
    artifacts.map entry = plans.map Plan.entry := by
  induction h with
  | nil => rfl
  | cons hp _ ih =>
    obtain ⟨text, -, rfl⟩ := ofPlan_ok_iff.mp hp
    simp [ih, entry, Plan.entry]

theorem fileNames_eq {plans : List Plan} {artifacts : List Artifact}
    (h : List.Forall₂ (fun plan artifact => ofPlan setting model kinds plan = .ok artifact)
      plans artifacts) :
    artifacts.map (·.fileName) = plans.map (·.fileName) := by
  simpa [entry, Plan.entry, Function.comp_def] using congrArg (List.map Prod.snd) (entries_eq h)

theorem renderAll_ok_iff {artifacts : List Artifact} :
    renderAll setting model requested = .ok artifacts ↔
      List.Forall₂
        (fun plan artifact => ofPlan setting model (Plan.kinds model requested) plan = .ok artifact)
        (Plan.all model requested) artifacts ∧ (artifacts.map (·.fileName)).Nodup := by
  have hnames : (∃ u, checkFileNames [] artifacts = .ok u) ↔
      (artifacts.map (·.fileName)).Nodup := by
    rw [← not_fails_iff, checkFileNames_nil_fails_iff, not_not]
  simp only [renderAll, bind_ok_iff, pure_ok_iff, mapM_ok_iff, ← hnames]
  constructor
  · rintro ⟨rendered, hr, u, hu, rfl⟩
    exact ⟨hr, u, hu⟩
  · rintro ⟨hr, u, hu⟩
    exact ⟨artifacts, hr, u, hu, rfl⟩

theorem renderAll_fails_iff :
    Fails (renderAll setting model requested) ↔
      (∃ plan ∈ Plan.all model requested,
        Fails (ofPlan setting model (Plan.kinds model requested) plan)) ∨
      ¬ ((Plan.all model requested).map (·.fileName)).Nodup := by
  simp only [renderAll, fails_bind, fails_mapM, fails_pure, mapM_ok_iff, and_false, exists_false,
    or_false, checkFileNames_nil_fails_iff]
  by_cases hf : ∃ plan ∈ Plan.all model requested,
      Fails (ofPlan setting model (Plan.kinds model requested) plan)
  · exact iff_of_true (.inl hf) (.inl hf)
  · have hr := not_fails_iff.mp (fails_mapM.not.mpr hf)
    simp only [mapM_ok_iff] at hr
    obtain ⟨artifacts, hr⟩ := hr
    refine or_congr_right ⟨?_, fun hn => ⟨artifacts, hr, fileNames_eq hr ▸ hn⟩⟩
    rintro ⟨others, ho, hn⟩
    exact fileNames_eq ho ▸ hn

theorem exists_plan_of_renderAll {artifacts : List Artifact} {artifact : Artifact}
    (h : renderAll setting model requested = .ok artifacts) (ha : artifact ∈ artifacts) :
    ∃ kind ∈ Plan.kinds model requested, ∃ plan ∈ Plan.ofKind model kind, ∃ text,
      setting.renderer plan.kind
        (payloadOf setting model (Plan.kinds model requested) plan) = .ok text ∧
      artifact = ⟨plan.kind, plan.label, plan.fileName, marked text⟩ := by
  simp only [renderAll, bind_ok_iff, pure_ok_iff] at h
  obtain ⟨rendered, hrendered, -, -, rfl⟩ := h
  obtain ⟨plan, hplan, hof⟩ := (mem_mapM_iff hrendered).mp ha
  obtain ⟨kind, hk, hplan⟩ := List.mem_flatMap.mp hplan
  exact ⟨kind, hk, plan, hplan, ofPlan_ok_iff.mp hof⟩

theorem exists_fileName_iff {artifacts : List Artifact} {name : String}
    (h : renderAll setting model requested = .ok artifacts) :
    (∃ artifact ∈ artifacts, artifact.fileName = name) ↔
      ∃ kind ∈ Plan.kinds model requested, ∃ plan ∈ Plan.ofKind model kind,
        plan.fileName = name := by
  have hnames := fileNames_eq (renderAll_ok_iff.mp h).1
  rw [← List.mem_map, hnames]
  simp only [Plan.all, List.mem_map, List.mem_flatMap]
  constructor
  · rintro ⟨plan, ⟨kind, hk, hp⟩, rfl⟩
    exact ⟨kind, hk, plan, hp, rfl⟩
  · rintro ⟨kind, hk, plan, hp, rfl⟩
    exact ⟨plan, ⟨kind, hk, hp⟩, rfl⟩

end Artifact

end SchemaCompiler
