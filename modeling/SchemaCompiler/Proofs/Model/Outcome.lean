import SchemaCompiler.Proofs.Entity.Build
import SchemaCompiler.Proofs.Model.Build

/-!
# Outcomes of building

A model is built exactly if every relationship tag is read and no name is declared
twice. It then has the entity of each declaration alone, in order. Else the error is
that of the first declaration that cannot be added to those before it.
-/

namespace SchemaCompiler

namespace Model

-- ---------------------------------------------------------------------------
-- Adding declarations one by one
-- ---------------------------------------------------------------------------

def add (model : Model) (declaration : Declaration) : Except ModelError Model :=
  match declaration.entity with
  | .error e => .error (.tag e)
  | .ok entity =>
    match model.insert entity with
    | .error e => .error (.duplicate e)
    | .ok next => .ok next

theorem extend_eq_foldlM {cache : TagCache} (h : cache.Faithful) (model : Model)
    (declarations : List Declaration) :
    (model.extend cache declarations).1 = declarations.foldlM add model := by
  induction declarations generalizing model cache with
  | nil => rfl
  | cons declaration rest ih =>
    obtain ⟨next, hbuild, hnext⟩ := h.build declaration
    rw [extend, hbuild, List.foldlM_cons, add]
    cases declaration.entity with
    | error e => rfl
    | ok entity =>
      cases hi : model.insert entity with
      | error e => simp [hi, bind, Except.bind]
      | ok larger => simp [hi, bind, Except.bind, ih hnext]

theorem build_eq_foldlM {cache : TagCache} (h : cache.Faithful)
    (declarations : List Declaration) :
    (build cache declarations).1 = declarations.foldlM add {} :=
  extend_eq_foldlM h {} declarations

variable {model next : Model} {declaration : Declaration} {declarations : List Declaration}

theorem add_ok_iff :
    model.add declaration = .ok next ↔
      ∃ entity, declaration.entity = .ok entity ∧ declaration.name ∉ model.names ∧
        next = model.push entity := by
  cases he : declaration.entity with
  | error e => simp [add, he]
  | ok entity =>
    have hadd : model.add declaration = .ok next ↔ model.insert entity = .ok next := by
      cases hi : model.insert entity <;> simp [add, he, hi]
    rw [hadd, insert_eq_ok_iff, (Declaration.place_of_entity he).1]
    simp

theorem add_error_iff {e : ModelError} :
    model.add declaration = .error e ↔
      (∃ cause, declaration.Refusal cause ∧ e = .tag cause) ∨
        ∃ held, declaration.Readable ∧ model.get? declaration.name = some held ∧
          e = .duplicate ⟨declaration.name, held.file, declaration.file⟩ := by
  rw [← Declaration.entity_ok_iff]
  simp only [← Declaration.entity_error_iff]
  cases he : declaration.entity with
  | error cause => simp [add, he, eq_comm]
  | ok entity =>
    obtain ⟨hname, hfile⟩ := Declaration.place_of_entity he
    cases hg : model.get? declaration.name <;>
      simp [add, he, insert, tryInsert, hname, hfile, hg, eq_comm]

theorem names_of_mapM {entities : List Entity}
    (h : declarations.mapM Declaration.entity = .ok entities) :
    entities.map (·.name) = declarations.map (·.name) := by
  have hall := mapM_ok_iff.mp h
  clear h
  induction hall with
  | nil => rfl
  | cons he _ ih => rw [List.map_cons, List.map_cons, ih, (Declaration.place_of_entity he).1]

theorem foldlM_add_ok_iff :
    declarations.foldlM add {} = .ok model ↔
      declarations.mapM Declaration.entity = .ok model.entities ∧
        (declarations.map (·.name)).Nodup := by
  induction declarations using List.reverseRecOn generalizing model with
  | nil => simp [pure, Except.pure, eq_iff_entities]
  | append_singleton before declaration ih =>
    have hnodup : ((before ++ [declaration]).map (·.name)).Nodup ↔
        (before.map (·.name)).Nodup ∧ declaration.name ∉ before.map (·.name) := by
      rw [List.map_append, List.map_cons, List.map_nil, ← List.concat_eq_append,
        List.nodup_concat, and_comm]
    rw [List.foldlM_append, bind_ok_iff, List.mapM_append, bind_ok_iff, hnodup]
    simp only [ih, List.foldlM_cons, List.foldlM_nil, List.mapM_cons, List.mapM_nil, bind_pure,
      bind_ok_iff, pure_ok_iff, add_ok_iff]
    constructor
    · rintro ⟨held, ⟨hbefore, hdistinct⟩, entity, he, hnew, rfl⟩
      rw [names, names_of_mapM hbefore] at hnew
      exact ⟨⟨_, hbefore, _, ⟨_, he, _, rfl, rfl⟩, rfl⟩, hdistinct, hnew⟩
    · rintro ⟨⟨entities, hbefore, _, ⟨entity, he, _, rfl, rfl⟩, hmodel⟩, hdistinct, hnew⟩
      refine ⟨.ofEntities entities, ⟨hbefore, hdistinct⟩, entity, he, ?_, ?_⟩
      · rwa [ofEntities, names, names_of_mapM hbefore]
      · exact eq_iff_entities.mpr hmodel.symm

-- ---------------------------------------------------------------------------
-- Outcomes
-- ---------------------------------------------------------------------------

structure Buildable (declarations : List Declaration) : Prop where
  readable : ∀ declaration ∈ declarations, declaration.Readable
  distinct : (declarations.map (·.name)).Nodup

/-- What is wrong with a declaration that comes after others. -/
inductive Defect (before : List Declaration) (bad : Declaration) : ModelError → Prop
  | tag {cause : FieldTagError} (refusal : bad.Refusal cause) : Defect before bad (.tag cause)
  | duplicate {held : Declaration} (readable : bad.Readable) (earlier : held ∈ before)
      (same : held.name = bad.name) :
      Defect before bad (.duplicate ⟨bad.name, held.file, bad.file⟩)

theorem buildable_iff :
    Buildable declarations ↔ ∃ model, declarations.foldlM add {} = .ok model := by
  simp only [foldlM_add_ok_iff, exists_and_right]
  constructor
  · rintro ⟨hreadable, hdistinct⟩
    obtain ⟨entities, he⟩ := exists_mapM_iff.mpr fun declaration hd =>
      Declaration.entity_ok_iff.mpr (hreadable declaration hd)
    exact ⟨⟨.ofEntities entities, he⟩, hdistinct⟩
  · rintro ⟨⟨model, he⟩, hdistinct⟩
    refine ⟨fun declaration hd => ?_, hdistinct⟩
    exact Declaration.entity_ok_iff.mp (exists_mapM_iff.mp ⟨_, he⟩ declaration hd)

theorem get?_of_foldlM_add {name : String} {entity : Entity}
    (h : declarations.foldlM add {} = .ok model) :
    model.get? name = some entity ↔
      ∃ declaration ∈ declarations, declaration.entity = .ok entity ∧ declaration.name = name := by
  obtain ⟨hmap, hdistinct⟩ := foldlM_add_ok_iff.mp h
  have hnames : model.names = declarations.map (·.name) := names_of_mapM hmap
  rw [get?_eq_some_iff (hnames ▸ hdistinct), mem_mapM_iff hmap]
  constructor
  · rintro ⟨⟨declaration, hd, he⟩, rfl⟩
    exact ⟨declaration, hd, he, (Declaration.place_of_entity he).1.symm⟩
  · rintro ⟨declaration, hd, he, rfl⟩
    exact ⟨⟨declaration, hd, he⟩, (Declaration.place_of_entity he).1⟩

theorem defect_iff {e : ModelError} (h : declarations.foldlM add {} = .ok model) :
    model.add declaration = .error e ↔ Defect declarations declaration e := by
  rw [add_error_iff]
  simp only [get?_of_foldlM_add h]
  constructor
  · rintro (⟨cause, hrefusal, rfl⟩ | ⟨held, hreadable, ⟨earlier, hm, he, hsame⟩, rfl⟩)
    · exact .tag hrefusal
    · rw [(Declaration.place_of_entity he).2]
      exact .duplicate hreadable hm hsame
  · rintro (hrefusal | @⟨earlier, hreadable, hm, hsame⟩)
    · exact .inl ⟨_, hrefusal, rfl⟩
    · obtain ⟨held, he⟩ :=
        Declaration.entity_ok_iff.mpr ((buildable_iff.mpr ⟨_, h⟩).readable earlier hm)
      refine .inr ⟨held, hreadable, ⟨earlier, hm, he, hsame⟩, ?_⟩
      rw [(Declaration.place_of_entity he).2]

/-- Whatever was read before, a model is built exactly if every relationship tag is read
and the names are distinct. It then has the entity that each declaration makes alone. Else
the error is that of the first declaration that has a defect after those before it. -/
theorem build_outcome (requests : List TagRequest) (declarations : List Declaration) :
    ((∃ model, (build (.after requests) declarations).1 = .ok model) ↔
      Buildable declarations) ∧
    (∀ model, (build (.after requests) declarations).1 = .ok model ↔
      (declarations.map (·.name)).Nodup ∧
        List.Forall₂ (fun declaration entity => (Entity.build {} declaration).1 = .ok entity)
          declarations model.entities) ∧
    ∀ e, (build (.after requests) declarations).1 = .error e ↔
      ∃ before bad after, declarations = before ++ bad :: after ∧ Buildable before ∧
        Defect before bad e := by
  rw [build_eq_foldlM (TagCache.tallies_after requests).faithful]
  refine ⟨buildable_iff.symm, fun model => ?_, fun e => ?_⟩
  · have halone (declaration : Declaration) :
        (Entity.build {} declaration).1 = declaration.entity := by
      obtain ⟨next, hbuild, -⟩ := TagCache.faithful_empty.build declaration
      rw [hbuild]
    simp only [foldlM_add_ok_iff, mapM_ok_iff, halone, and_comm]
  · rw [foldlM_error_iff]
    refine exists_congr fun before => exists_congr fun bad => exists_congr fun after => ?_
    rw [exists_and_left, and_congr_right_iff, buildable_iff, ← exists_and_right]
    intro
    exact exists_congr fun model => and_congr_right fun h => defect_iff h

end Model

end SchemaCompiler
