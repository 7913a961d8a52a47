import SchemaCompiler.Project.Generate
import SchemaCompiler.Proofs.Artifact.Rendering

/-!
# What a run writes

Nothing is written unless all artifacts can be. Then they are written in order, up
to and including the first that fails, and the answer tells which that is.
-/

namespace SchemaCompiler

-- ---------------------------------------------------------------------------
-- Calls of a writer
-- ---------------------------------------------------------------------------

structure WriteCall where
  path : String
  contents : String
deriving DecidableEq, Repr

def Artifact.writeCall (artifact : Artifact) (directory : String) : WriteCall :=
  ⟨Path.join directory artifact.fileName, artifact.contents⟩

namespace Writer

variable {σ : Type}

def recorded (writer : Writer σ) : Writer (σ × List WriteCall) :=
  fun (state, calls) path contents =>
    let (outcome, state) := writer state path contents
    (outcome, state, calls ++ [⟨path, contents⟩])

def after? (writer : Writer σ) (state : σ) : List WriteCall → Option σ
  | [] => some state
  | call :: rest =>
    match writer state call.path call.contents with
    | (.ok (), state) => after? writer state rest
    | (.error _, _) => none

/-- What becomes of artifacts that are written in order from a state: the answer, the
state after it and the calls made. -/
inductive Writes (writer : Writer σ) (directory : String) (state : σ) (artifacts : List Artifact) :
    Except WriteError (List String) → σ → List WriteCall → Prop
  | all (written : writer.after? state (artifacts.map (·.writeCall directory)) = some final) :
      Writes writer directory state artifacts
        (.ok (artifacts.map fun artifact => (artifact.writeCall directory).path)) final
        (artifacts.map (·.writeCall directory))
  | stopped (order : artifacts = before ++ artifact :: rest)
      (written : writer.after? state (before.map (·.writeCall directory)) = some middle)
      (failed : writer middle (artifact.writeCall directory).path artifact.contents =
        (.error cause, final)) :
      Writes writer directory state artifacts
        (.error ⟨artifact.label, (artifact.writeCall directory).path, cause⟩) final
        ((before ++ [artifact]).map (·.writeCall directory))

section

variable {writer : Writer σ} {directory : String} {state middle final : σ} {artifact : Artifact}
  {rest : List Artifact} {cause : FileError}

theorem after?_cons (written : writer state (artifact.writeCall directory).path artifact.contents =
    (.ok (), middle)) (calls : List WriteCall) :
    writer.after? state (artifact.writeCall directory :: calls) = writer.after? middle calls := by
  rw [after?, show (artifact.writeCall directory).contents = artifact.contents from rfl, written]

theorem after?_cons_error (failed : writer state (artifact.writeCall directory).path
    artifact.contents = (.error cause, final)) (calls : List WriteCall) :
    writer.after? state (artifact.writeCall directory :: calls) = none := by
  rw [after?, show (artifact.writeCall directory).contents = artifact.contents from rfl, failed]

theorem after?_append (first second : List WriteCall) :
    writer.after? state (first ++ second) =
      (writer.after? state first).bind (writer.after? · second) := by
  induction first generalizing state with
  | nil => rfl
  | cons call rest ih =>
    rw [List.cons_append, after?, after?]
    split
    · exact ih
    · rfl

theorem Writes.cons {result : Except WriteError (List String)} {calls : List WriteCall}
    (written : writer state (artifact.writeCall directory).path artifact.contents =
      (.ok (), middle))
    (h : Writes writer directory middle rest result final calls) :
    Writes writer directory state (artifact :: rest)
      (result.map ((artifact.writeCall directory).path :: ·)) final
      (artifact.writeCall directory :: calls) := by
  cases h with
  | all hr => exact .all (by rw [List.map_cons, after?_cons written, hr])
  | @stopped before last later _ _ _ hrest hw hf =>
    have horder : artifact :: rest = (artifact :: before) ++ last :: later := by
      rw [hrest, List.cons_append]
    exact .stopped horder (by rw [List.map_cons, after?_cons written, hw]) hf

theorem writeAll_cons_ok (written : writer state (artifact.writeCall directory).path
    artifact.contents = (.ok (), middle)) :
    Artifact.writeAll writer directory state (artifact :: rest) =
      ((Artifact.writeAll writer directory middle rest).1.map
        ((artifact.writeCall directory).path :: ·),
        (Artifact.writeAll writer directory middle rest).2) := by
  simp only [Artifact.writeCall] at written
  simp only [Artifact.writeAll, Artifact.writeCall, written]
  split <;> rename_i h <;> simp [h, Except.map]

theorem writeAll_cons_error (failed : writer state (artifact.writeCall directory).path
    artifact.contents = (.error cause, final)) :
    Artifact.writeAll writer directory state (artifact :: rest) =
      (.error ⟨artifact.label, (artifact.writeCall directory).path, cause⟩, final) := by
  simp only [Artifact.writeCall] at failed
  simp only [Artifact.writeAll, Artifact.writeCall, failed]

end

/-- Writing is told by its calls, and noting them changes neither answer nor state. -/
theorem writeAll_writes (writer : Writer σ) (directory : String) (state : σ)
    (artifacts : List Artifact) :
    ∃ made, Writes writer directory state artifacts
        (Artifact.writeAll writer directory state artifacts).1
        (Artifact.writeAll writer directory state artifacts).2 made ∧
      ∀ calls, Artifact.writeAll writer.recorded directory (state, calls) artifacts =
        ((Artifact.writeAll writer directory state artifacts).1,
          (Artifact.writeAll writer directory state artifacts).2, calls ++ made) := by
  induction artifacts generalizing state with
  | nil => exact ⟨[], .all rfl, by simp [Artifact.writeAll]⟩
  | cons artifact rest ih =>
    have hrecorded (calls : List WriteCall) :
        writer.recorded (state, calls) (artifact.writeCall directory).path artifact.contents =
          ((writer state (artifact.writeCall directory).path artifact.contents).1,
            (writer state (artifact.writeCall directory).path artifact.contents).2,
            calls ++ [artifact.writeCall directory]) := rfl
    rcases hw : writer state (artifact.writeCall directory).path artifact.contents with
      ⟨cause | ⟨⟨⟩⟩, next⟩
    · refine ⟨[artifact.writeCall directory], ?_, fun calls => ?_⟩
      · rw [writeAll_cons_error hw]
        exact .stopped (show artifact :: rest = [] ++ artifact :: rest from rfl) rfl hw
      · rw [writeAll_cons_error hw, writeAll_cons_error (by rw [hrecorded, hw])]
    · obtain ⟨made, hmade, hcalls⟩ := ih next
      refine ⟨artifact.writeCall directory :: made, ?_, fun calls => ?_⟩
      · rw [writeAll_cons_ok hw]
        exact hmade.cons hw
      · rw [writeAll_cons_ok hw, writeAll_cons_ok (by rw [hrecorded, hw]), hcalls]
        simp

-- The file that cannot be written is the last one that is tried.
example :
    let writer : Writer Unit := fun _ path _ =>
      (if Path.endsWith path "b.rs" then .error .alreadyExists else .ok (), ())
    let artifacts : List Artifact :=
      ["a.rs", "b.rs", "c.rs"].map fun fileName => ⟨.columns, fileName, fileName, ""⟩
    Artifact.writeAll writer.recorded "out" ((), []) artifacts =
      (.error ⟨"b.rs", "out/b.rs", .alreadyExists⟩, (), [⟨"out/a.rs", ""⟩, ⟨"out/b.rs", ""⟩]) := by
  decide +kernel

theorem Writes.isOk_iff {writer : Writer σ} {directory : String} {state final : σ}
    {artifacts : List Artifact} {result : Except WriteError (List String)}
    {calls : List WriteCall} (h : Writes writer directory state artifacts result final calls) :
    result.isOk = true ↔
      (writer.after? state (artifacts.map (·.writeCall directory))).isSome = true := by
  cases h with
  | all hw => simp [hw, Except.isOk, Except.toBool]
  | stopped horder hw hf =>
    rw [horder, List.map_append, after?_append, hw, Option.bind_some, List.map_cons,
      after?_cons_error hf]
    simp [Except.isOk, Except.toBool]

end Writer

-- ---------------------------------------------------------------------------
-- Before anything is written
-- ---------------------------------------------------------------------------

namespace GenerateOptions

/-- Why a run writes nothing: the directory does not compile, its model is not valid,
or some artifact cannot be rendered or has the file name of another. -/
def Blocked (options : GenerateOptions) (root : Folder) : Prop :=
  Fails (root.compile options.input options.scan) ∨
  ∃ compiled, root.compile options.input options.scan = .ok compiled ∧
    (compiled.report.isValid = false ∨
      (∃ plan ∈ Plan.all compiled.model options.kinds,
        Fails (Artifact.ofPlan options.setting compiled.model
          (Plan.kinds compiled.model options.kinds) plan)) ∨
      ¬ ((Plan.all compiled.model options.kinds).map (·.fileName)).Nodup)

section

variable {options : GenerateOptions} {root : Folder}

theorem prepare_ok_iff {compiled : Compiled} {artifacts : List Artifact} :
    options.prepare root = .ok (compiled, artifacts) ↔
      root.compile options.input options.scan = .ok compiled ∧
        compiled.report.isValid = true ∧
        Artifact.renderAll options.setting compiled.model options.kinds = .ok artifacts := by
  simp only [prepare, bind_ok_iff, mapError_ok_iff, ite_eq_iff, pure_ok_iff, throw_ne_ok,
    false_and, exists_false, and_false, or_false, Prod.mk.injEq]
  constructor
  · rintro ⟨found, hc, hv, rendered, hr, rfl, rfl⟩
    exact ⟨hc, hv, hr⟩
  · rintro ⟨hc, hv, hr⟩
    exact ⟨compiled, hc, hv, artifacts, hr, rfl, rfl⟩

theorem prepare_fails_iff : Fails (options.prepare root) ↔ options.Blocked root := by
  simp only [prepare, Blocked, fails_bind, fails_mapError, mapError_ok_iff, apply_ite Fails,
    fails_pure, fails_throw, true_or, and_false, exists_false, or_false,
    ← Artifact.renderAll_fails_iff]
  refine or_congr_right (exists_congr fun compiled => and_congr_right fun _ => ?_)
  cases compiled.report.isValid <;> simp

end

-- ---------------------------------------------------------------------------
-- Whole runs
-- ---------------------------------------------------------------------------

/-- The answer of a run whose artifacts were written with some result. -/
def answer (compiled : Compiled) : Except WriteError (List String) → Except GenerateError Summary
  | .error e => .error (.write e)
  | .ok files => .ok {
      entities := compiled.model.entities.length
      files
      warnings := compiled.report.warnings
      skipped := compiled.skipped }

section

variable {σ : Type} {options : GenerateOptions} {root : Folder} (writer : Writer σ) (state : σ)

theorem runWith_of_error {e : GenerateError} (h : options.prepare root = .error e) :
    options.runWith root writer state = (.error e, state) := by
  rw [runWith, h]

theorem runWith_of_ok {compiled : Compiled} {artifacts : List Artifact}
    (h : options.prepare root = .ok (compiled, artifacts)) :
    options.runWith root writer state =
      (answer compiled (Artifact.writeAll writer options.output state artifacts).1,
        (Artifact.writeAll writer options.output state artifacts).2) := by
  rw [runWith, h]
  dsimp only
  split <;> rename_i hw <;> rw [hw] <;> rfl

end

/-- A blocked run calls the writer never. Any other run makes the calls for its
artifacts in order, up to and including the first that fails; it succeeds with all
paths if none does, and else fails with the label and path of that artifact. Noting
the calls changes nothing. -/
theorem runWith_writes {σ : Type} (options : GenerateOptions) (root : Folder) (writer : Writer σ)
    (state : σ) :
    (options.Blocked root →
      ∃ e, options.runWith root writer.recorded (state, []) = (.error e, state, [])) ∧
    (¬ options.Blocked root →
      ∃ compiled artifacts result final calls,
        root.compile options.input options.scan = .ok compiled ∧
        Artifact.renderAll options.setting compiled.model options.kinds = .ok artifacts ∧
        writer.Writes options.output state artifacts result final calls ∧
        (result.isOk = true ↔
          (writer.after? state (artifacts.map (·.writeCall options.output))).isSome = true) ∧
        options.runWith root writer.recorded (state, []) =
          (answer compiled result, final, calls)) ∧
    (options.runWith root writer.recorded (state, [])).1 =
      (options.runWith root writer state).1 := by
  cases hp : options.prepare root with
  | error e =>
    have hb : options.Blocked root := prepare_fails_iff.mp ⟨e, hp⟩
    rw [runWith_of_error _ _ hp, runWith_of_error _ _ hp]
    exact ⟨fun _ => ⟨e, rfl⟩, fun h => (h hb).elim, rfl⟩
  | ok prepared =>
    obtain ⟨compiled, artifacts⟩ := prepared
    have hb : ¬ options.Blocked root := by
      rw [← prepare_fails_iff, hp]
      exact fails_ok
    obtain ⟨hc, -, hr⟩ := prepare_ok_iff.mp hp
    obtain ⟨made, hmade, hcalls⟩ := writer.writeAll_writes options.output state artifacts
    rw [runWith_of_ok _ _ hp, runWith_of_ok _ _ hp, hcalls, List.nil_append]
    exact ⟨fun h => (hb h).elim,
      fun _ => ⟨compiled, artifacts, _, _, made, hc, hr, hmade, hmade.isOk_iff, rfl⟩, rfl⟩

end GenerateOptions

end SchemaCompiler
