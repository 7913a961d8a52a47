import SchemaCompiler.Source.Grammar.Path

/-!
# Wrapped types

A type is a core inside of layers: pointers, collections and parentheses, in any order.
Its shape has the name of the core, and tells whether one of the layers is a pointer and
whether one is a collection.
-/

namespace SchemaCompiler.Source

-- ---------------------------------------------------------------------------
-- Layers and cores
-- ---------------------------------------------------------------------------

/-- A path with a hole for the first type among the arguments of its last segment. -/
structure OpenPath where
  isQualified : Bool := false
  before : List Segment := []
  name : Word
  /-- How many arguments that are no types stand before the hole. -/
  skipped : Nat := 0
  /-- The arguments behind the hole. -/
  others : List Argument := []

def OpenPath.fill (path : OpenPath) (inner : TypeExpr) : TypePath where
  isQualified := path.isQualified
  segments := path.before ++ [{
    name := path.name
    arguments? := some (List.replicate path.skipped .other ++ .type inner :: path.others) }]

/-- What stands around a type. -/
inductive Layer where
  | reference
  | pointer
  | slice
  | array
  | parentheses
  | path (hollow : OpenPath)

namespace Layer

def around (layer : Layer) (inner : TypeExpr) : TypeExpr :=
  match layer with
  | reference => .reference inner
  | pointer => .pointer inner
  | slice => .slice inner
  | array => .array inner
  | parentheses => .parenthesized inner
  | path hollow => (hollow.fill inner).type

/-- The type inside of layers, the first one outermost. -/
def plug (layers : List Layer) (core : TypeExpr) : TypeExpr :=
  layers.foldr around core

inductive IsPointer : Layer → Prop
  | reference : IsPointer .reference
  | pointer : IsPointer .pointer
  | path {hollow : OpenPath} (h : hollow.name.text ∈ ["Option", "Box", "Rc", "Arc"]) :
      IsPointer (.path hollow)

inductive IsCollection : Layer → Prop
  | slice : IsCollection .slice
  | array : IsCollection .array
  | path {hollow : OpenPath}
      (h : hollow.name.text ∈ ["Vec", "VecDeque", "LinkedList", "HashSet", "BTreeSet"]) :
      IsCollection (.path hollow)

/-- The layers that a shape looks into. -/
inductive IsWrapper : Layer → Prop
  | pointer {layer : Layer} (h : layer.IsPointer) : IsWrapper layer
  | collection {layer : Layer} (h : layer.IsCollection) : IsWrapper layer
  | parentheses : IsWrapper .parentheses

end Layer

/-- A type that is no wrapper around another one, with the name that it goes by. -/
inductive IsCore : TypeExpr → String → Prop
  /-- The names of the segments, without their arguments. -/
  | path (path : TypePath)
      (h : ∀ (layer : Layer) (inner : TypeExpr), layer.IsWrapper → path.type ≠ layer.around inner) :
      IsCore path.type (Text.join "::" (path.segments.map (·.name.text)))
  | unit : IsCore .unit "()"
  | other : IsCore .other "unknown"

variable {layer : Layer} {inner core : TypeExpr} {name : String}

-- ---------------------------------------------------------------------------
-- Paths
-- ---------------------------------------------------------------------------

theorem Wrapper.ofName?_eq_pointer_iff :
    Wrapper.ofName? name = some .pointer ↔ name ∈ ["Option", "Box", "Rc", "Arc"] := by
  rw [ofName?]
  split
  · rename_i h
    exact iff_of_true rfl h
  · rename_i h
    refine iff_of_false ?_ h
    split <;> simp

theorem Wrapper.ofName?_eq_collection_iff :
    Wrapper.ofName? name = some .collection ↔
      name ∈ ["Vec", "VecDeque", "LinkedList", "HashSet", "BTreeSet"] := by
  rw [ofName?]
  split
  · rename_i h
    -- No name is in both lists.
    refine iff_of_false (by simp) fun hc => ?_
    simp only [List.mem_cons, List.not_mem_nil, or_false] at h hc
    rcases h with rfl | rfl | rfl | rfl <;> simp at hc
  · split
    · rename_i h
      exact iff_of_true rfl h
    · rename_i h
      exact iff_of_false (by simp) h

theorem Wrapper.ofPath?_concat (before : List String) (name : String) :
    Wrapper.ofPath? (before ++ [name]) = Wrapper.ofName? name := by
  simp [ofPath?]

theorem findSome?_type (skipped : Nat) (inner : TypeExpr) (others : List Argument) :
    (List.replicate skipped Argument.other ++ .type inner :: others).findSome? Argument.type? =
      some inner := by
  induction skipped with
  | zero => rfl
  | succ n ih => exact ih

theorem OpenPath.type_fill (hollow : OpenPath) (inner : TypeExpr) :
    (hollow.fill inner).type =
      .applied (hollow.before.map (·.name.text) ++ [hollow.name.text]) inner := by
  simp only [fill, TypePath.type, List.getLast?_concat, Option.bind_some, Segment.firstType?,
    Option.getD_some, findSome?_type, List.map_append, List.map_cons, List.map_nil]

theorem TypePath.type_cases (path : TypePath) :
    path.type = .named (path.segments.map (·.name.text)) ∨
      ∃ (before : List Segment) (last : Segment) (inner : TypeExpr),
        path.segments = before ++ [last] ∧ last.firstType? = some inner ∧
          path.type = .applied (before.map (·.name.text) ++ [last.name.text]) inner := by
  rcases List.eq_nil_or_concat path.segments with hnil | ⟨before, last, hlast⟩
  · exact .inl (by simp [type, hnil])
  · rw [List.concat_eq_append] at hlast
    cases hfirst : last.firstType? with
    | none => exact .inl (by simp [type, hlast, hfirst])
    | some inner => exact .inr ⟨before, last, inner, hlast, hfirst, by simp [type, hlast, hfirst]⟩

theorem Layer.isWrapper_path_iff {hollow : OpenPath} :
    (Layer.path hollow).IsWrapper ↔ Wrapper.ofName? hollow.name.text ≠ none := by
  constructor
  · rintro (h | h)
    · cases h with
      | path h => simp [Wrapper.ofName?_eq_pointer_iff.mpr h]
    · cases h with
      | path h => simp [Wrapper.ofName?_eq_collection_iff.mpr h]
  · intro h
    obtain ⟨wrapper, hw⟩ := Option.ne_none_iff_exists'.mp h
    cases wrapper with
    | pointer => exact .pointer (.path (Wrapper.ofName?_eq_pointer_iff.mp hw))
    | collection => exact .collection (.path (Wrapper.ofName?_eq_collection_iff.mp hw))

theorem TypePath.isCore {path : TypePath}
    (h : ∀ last ∈ path.segments.getLast?,
      last.firstType? = none ∨ Wrapper.ofName? last.name.text = none) :
    IsCore path.type (Text.join "::" (path.segments.map (·.name.text))) := by
  refine .path path fun layer inner hw he => ?_
  rcases path.type_cases with hnamed | ⟨before, last, found, hlast, hfirst, happlied⟩
  · rw [hnamed] at he
    cases layer with
    | path hollow => simp [Layer.around, OpenPath.type_fill] at he
    | _ => cases he
  · rw [happlied] at he
    cases layer with
    | path hollow =>
      have hname : last.name.text = hollow.name.text := by
        simp only [Layer.around, OpenPath.type_fill, TypeExpr.applied.injEq] at he
        simpa using (List.append_inj' he.1 rfl).2
      rcases h last (by simp [hlast]) with hnone | hnone
      · simp [hfirst] at hnone
      · exact Layer.isWrapper_path_iff.mp hw (hname ▸ hnone)
    | _ => cases he

-- ---------------------------------------------------------------------------
-- Shapes
-- ---------------------------------------------------------------------------

theorem OpenPath.shape_fill (hollow : OpenPath) (inner : TypeExpr) :
    (hollow.fill inner).type.shape =
      match Wrapper.ofName? hollow.name.text with
      | some wrapper => wrapper.around inner.shape
      | none =>
        { base := Text.join "::" (hollow.before.map (·.name.text) ++ [hollow.name.text]) } := by
  cases h : Wrapper.ofName? hollow.name.text <;>
    simp [type_fill, TypeExpr.shape, Wrapper.ofPath?_concat, h]

theorem Layer.IsPointer.shape_around (h : layer.IsPointer) :
    (layer.around inner).shape = { inner.shape with isPointer := true } := by
  cases h with
  | reference | pointer => rfl
  | path h =>
    rw [around, OpenPath.shape_fill, Wrapper.ofName?_eq_pointer_iff.mpr h]
    rfl

theorem Layer.IsCollection.shape_around (h : layer.IsCollection) :
    (layer.around inner).shape = { inner.shape with isCollection := true } := by
  cases h with
  | slice | array => rfl
  | path h =>
    rw [around, OpenPath.shape_fill, Wrapper.ofName?_eq_collection_iff.mpr h]
    rfl

theorem Layer.IsPointer.not_isCollection (h : layer.IsPointer) : ¬ layer.IsCollection := by
  intro hc
  cases h with
  | reference | pointer => cases hc
  | path h =>
    cases hc with
    | path hc =>
      have hboth := (Wrapper.ofName?_eq_pointer_iff.mpr h).symm.trans
        (Wrapper.ofName?_eq_collection_iff.mpr hc)
      cases hboth

theorem IsCore.shape_eq (h : IsCore core name) : core.shape = { base := name } := by
  cases h with
  | unit | other => rfl
  | path path hno =>
    rcases path.type_cases with hnamed | ⟨before, last, inner, hlast, -, happlied⟩
    · rw [hnamed, TypeExpr.shape]
    · have hfill : path.type = (Layer.path { before, name := last.name }).around inner := by
        rw [happlied, Layer.around, OpenPath.type_fill]
      have hnone : Wrapper.ofName? last.name.text = none := by
        have hnot := mt (hno _ inner) (not_not_intro hfill)
        rwa [Layer.isWrapper_path_iff, Decidable.not_not] at hnot
      rw [happlied, hlast, TypeExpr.shape, Wrapper.ofPath?_concat, hnone]
      simp

/-- The shape of a type inside of wrappers: the name of the core, and whether there is a
pointer and whether there is a collection among the wrappers. -/
theorem TypeExpr.shape_plug {layers : List Layer} (hw : ∀ layer ∈ layers, layer.IsWrapper)
    (hc : IsCore core name) :
    (Layer.plug layers core).shape.base = name ∧
      ((Layer.plug layers core).shape.isPointer = true ↔ ∃ layer ∈ layers, layer.IsPointer) ∧
      ((Layer.plug layers core).shape.isCollection = true ↔
        ∃ layer ∈ layers, layer.IsCollection) := by
  induction layers with
  | nil =>
    rw [Layer.plug, List.foldr_nil, hc.shape_eq]
    simp
  | cons layer rest ih =>
    obtain ⟨hfirst, hrest⟩ := List.forall_mem_cons.mp hw
    obtain ⟨hbase, hpointer, hcollection⟩ := ih hrest
    have hplug : Layer.plug (layer :: rest) core = layer.around (Layer.plug rest core) := rfl
    simp only [hplug, List.mem_cons, exists_eq_or_imp]
    cases hfirst with
    | pointer h =>
      rw [h.shape_around]
      exact ⟨hbase, iff_of_true rfl (.inl h),
        hcollection.trans (or_iff_right h.not_isCollection).symm⟩
    | collection h =>
      rw [h.shape_around]
      exact ⟨hbase, hpointer.trans (or_iff_right fun hp => hp.not_isCollection h).symm,
        iff_of_true rfl (.inl h)⟩
    | parentheses =>
      have hshape : (Layer.parentheses.around (Layer.plug rest core)).shape =
          (Layer.plug rest core).shape := rfl
      rw [hshape]
      exact ⟨hbase, hpointer.trans (or_iff_right nofun).symm,
        hcollection.trans (or_iff_right nofun).symm⟩

/-- The path `std::sync::Mutex<Counter>`. -/
def mutexPath : TypePath where
  segments := [
    { name := { first := 's', rest := ['t', 'd'] } },
    { name := { first := 's', rest := ['y', 'n', 'c'] } },
    { name := { first := 'M', rest := ['u', 't', 'e', 'x'] }
      arguments? := some [.type (.named ["Counter"])] }]

/-- What is around the hole of `&[Option<'a, (Vec<_>)>]`. -/
def mutexLayers : List Layer := [
  .reference,
  .slice,
  .path { name := { first := 'O', rest := ['p', 't', 'i', 'o', 'n'] }, skipped := 1 },
  .parentheses,
  .path { name := { first := 'V', rest := ['e', 'c'] } }]

theorem shape_plug_mutex :
    (∀ layer ∈ mutexLayers, layer.IsWrapper) ∧ IsCore mutexPath.type "std::sync::Mutex" ∧
      (Layer.plug mutexLayers mutexPath.type).shape.base = "std::sync::Mutex" ∧
      (Layer.plug mutexLayers mutexPath.type).shape.isPointer = true ∧
      (Layer.plug mutexLayers mutexPath.type).shape.isCollection = true := by
  have hwrappers : ∀ layer ∈ mutexLayers, layer.IsWrapper := by
    simp only [mutexLayers, List.forall_mem_cons]
    exact ⟨.pointer .reference, .collection .slice, .pointer (.path (by decide)), .parentheses,
      .collection (.path (by decide)), nofun⟩
  have hcore : IsCore mutexPath.type "std::sync::Mutex" :=
    mutexPath.isCore (by decide)
  obtain ⟨hbase, hpointer, hcollection⟩ := TypeExpr.shape_plug hwrappers hcore
  exact ⟨hwrappers, hcore, hbase,
    hpointer.mpr ⟨.reference, List.mem_cons_self, .reference⟩,
    hcollection.mpr ⟨.slice, List.mem_cons_of_mem _ List.mem_cons_self, .slice⟩⟩

end SchemaCompiler.Source
