import SchemaCompiler.Proofs.Artifact.CommentTexts

/-!
# Line counts

The files of column descriptors of two models that differ only in texts of comments are
written with equally many lines, and so are those of loaders. The number of lines that are
read depends on the texts: each newline in them makes one more.
-/

namespace SchemaCompiler

open Text Code

-- ---------------------------------------------------------------------------
-- Models that differ in texts
-- ---------------------------------------------------------------------------

namespace Model

theorem withoutTexts_withRelations (model : Model) :
    model.withRelations.map Entity.withoutTexts =
      (model.entities.map Entity.withoutTexts).filter (·.hasRelations) := by
  have hrelations : Entity.hasRelations ∘ Entity.withoutTexts = Entity.hasRelations := by
    funext entity
    simp [Entity.hasRelations, Entity.withoutTexts]
  rw [List.filter_map, hrelations, Model.withRelations]

variable {model other : Model}

theorem AlikeButTexts.withRelations (h : model.AlikeButTexts other) :
    model.withRelations.map Entity.withoutTexts = other.withRelations.map Entity.withoutTexts := by
  rw [withoutTexts_withRelations, withoutTexts_withRelations, h]

theorem AlikeButTexts.commentNames (h : model.AlikeButTexts other) {kind : ArtifactKind} :
    model.commentNames kind = other.commentNames kind := by
  cases kind with
  | columns =>
    have hnames := congrArg (List.map (·.name)) h
    rw [List.map_map, List.map_map] at hnames
    exact hnames
  | relations =>
    have htarget (field : RelationField) :
        field.withoutText.relationship.target = field.relationship.target := by
      obtain ⟨_, _, _, _, _, ⟨relation, _⟩, _, _, _⟩ := field
      cases relation <;> rfl
    have hnames := congrArg (List.flatMap fun entity : Entity =>
      entity.name :: entity.relations.map (·.relationship.target)) h.withRelations
    simp only [List.flatMap_map, Entity.withoutTexts, List.map_map, Function.comp_def, htarget]
      at hnames
    exact hnames
  | repository | query | root => rfl

end Model

-- ---------------------------------------------------------------------------
-- Written lines
-- ---------------------------------------------------------------------------

namespace Code

/-- The number of lines that a constant takes without the comment before it. -/
def Value.height : Value → Nat
  | .inline _ => 1
  | .items lines => lines.length + 2

theorem Constant.length_lines (constant : Constant) :
    constant.lines.length = constant.docs.length + constant.value.height := by
  obtain ⟨docs, name, type, value⟩ := constant
  cases value <;> simp [lines, Value.height, indent]

end Code

namespace ColumnsFile

variable {model other : Model}

theorem length_descriptor (column : Column) : (descriptor column).length = 10 := by
  simp [descriptor]

theorem length_lines_withoutText (column : Column) :
    (columnConstant column.withoutText).lines.length = (columnConstant column).lines.length := by
  simp only [Constant.length_lines, columnConstant, Column.withoutText]
  cases column.comment <;> rfl

theorem length_entityModule_withoutTexts (entity : Entity) :
    (entityModule entity.withoutTexts).length = (entityModule entity).length := by
  have hcolumns :
      ((entity.withoutTexts.columns.map columnConstant).flatMap Constant.lines).length =
        ((entity.columns.map columnConstant).flatMap Constant.lines).length := by
    simp only [Entity.withoutTexts, List.length_flatMap, List.map_map]
    exact congrArg List.sum (List.map_congr_left fun column _ => length_lines_withoutText column)
  have hdescriptors : (entity.withoutTexts.columns.flatMap descriptor).length =
      (entity.columns.flatMap descriptor).length := by
    simp [Entity.withoutTexts, List.length_flatMap, length_descriptor, Function.comp_def]
  have hgroups : ((constantGroups entity.withoutTexts).map (·.flatMap Constant.lines)).map
      List.length = ((constantGroups entity).map (·.flatMap Constant.lines)).map List.length := by
    simp only [constantGroups, List.map_append, List.map_cons, List.map_nil, List.flatMap_cons,
      List.length_append, hcolumns, Constant.length_lines, Value.height, hdescriptors]
    simp [Entity.withoutTexts]
  have hcount : (constantGroups entity.withoutTexts).length = (constantGroups entity).length := by
    simpa using congrArg List.length hgroups
  simp only [entityModule, List.length_cons, length_block, length_paragraphs, List.map_cons,
    List.length_map, hgroups, hcount]

theorem lengths_body (h : model.AlikeButTexts other) :
    (body model).map List.length = (body other).map List.length := by
  have hmodules : model.entities.map (entityModule · |>.length) =
      other.entities.map (entityModule · |>.length) := by
    have hlengths := congrArg (List.map (entityModule · |>.length)) h
    simpa only [List.map_map, Function.comp_def, length_entityModule_withoutTexts] using hlengths
  simp only [body, List.map_cons, List.map_map, Function.comp_def, hmodules]

end ColumnsFile

-- ---------------------------------------------------------------------------
-- Written lines of loaders
-- ---------------------------------------------------------------------------

/-- The number of lines of a relation: a loader and a dependent statement, if there is one, with
the comments before them. -/
def RelationField.height (field : RelationField) : Nat :=
  2 + field.relationship.options.through.toList.length +
    2 * field.relationship.dependentEnding?.toList.length

def Entity.relationsHeight (entity : Entity) : Nat :=
  3 + (entity.relations.map (·.height)).sum + (entity.relations.length - 1)

theorem Relationship.dependentEnding?_withoutText (relationship : Relationship) :
    relationship.withoutText.dependentEnding? = relationship.dependentEnding? := by
  obtain ⟨relation, options⟩ := relationship
  cases relation <;> rfl

theorem RelationField.height_withoutText (field : RelationField) :
    field.withoutText.height = field.height := by
  have hthrough : (field.relationship.options.through.map fun _ => "").toList.length =
      field.relationship.options.through.toList.length := by
    cases field.relationship.options.through <;> rfl
  have hending := field.relationship.dependentEnding?_withoutText
  rw [height, height, ← hthrough, ← hending]
  rfl

theorem Entity.relationsHeight_withoutTexts (entity : Entity) :
    entity.withoutTexts.relationsHeight = entity.relationsHeight := by
  simp only [relationsHeight, withoutTexts, List.map_map, Function.comp_def, List.length_map,
    RelationField.height_withoutText]

namespace RelationsFile

variable {model other : Model} {entity target : Entity} {field : RelationField}

theorem length_dependentLines (field : RelationField) (target : Entity) :
    ((dependentConstant? field target).toList.flatMap Constant.lines).length =
      2 * field.relationship.dependentEnding?.toList.length := by
  have hname := @name_dependentConstant? target field
  rw [RelationField.dependentName?] at hname
  cases hd : dependentConstant? field target with
  | none =>
    rw [hd, Option.map_none, eq_comm, Option.map_eq_none_iff] at hname
    rw [hname]
    rfl
  | some constant =>
    rw [hd, Option.map_some, eq_comm, Option.map_eq_some_iff] at hname
    obtain ⟨ending, hending, -⟩ := hname
    obtain ⟨action, -, hdependent⟩ := Option.bind_eq_some_iff.mp hd
    obtain ⟨dependent, -, rfl⟩ := Option.map_eq_some_iff.mp hdependent
    rw [hending]
    rfl

theorem length_relationConstants {constants : List Constant}
    (h : relationConstants model entity field = .ok constants) :
    (constants.flatMap Constant.lines).length = field.height := by
  rw [relationConstants] at h
  split at h
  · cases h
  · rename_i target _
    cases h
    have hloader : (loaderConstant entity field target).lines.length =
        2 + field.relationship.options.through.toList.length := by
      rw [Constant.length_lines, loaderConstant, statementConstant, List.length_cons,
        List.length_map, Value.height]
      omega
    rw [List.flatMap_cons, List.length_append, hloader, length_dependentLines,
      RelationField.height]

theorem length_entityModule {ls : List String} (h : entityModule model entity = .ok ls) :
    ls.length = entity.relationsHeight := by
  simp only [entityModule, bind_ok_iff, pure_ok_iff] at h
  obtain ⟨groups, hg, rfl⟩ := h
  have hlengths : (groups.map (·.flatMap Constant.lines)).map List.length =
      entity.relations.map (·.height) := by
    rw [List.map_map]
    exact map_of_mapM hg fun field _ constants hc => length_relationConstants hc
  have hcount : groups.length = entity.relations.length := by
    simpa using congrArg List.length hlengths
  rw [moduleLines, List.length_cons, length_block, length_paragraphs, hlengths, List.length_map,
    hcount, Entity.relationsHeight]
  omega

theorem lengths_body (h : model.AlikeButTexts other) {groups others : List (List String)}
    (hm : body model = .ok groups) (ho : body other = .ok others) :
    groups.map List.length = others.map List.length := by
  have hheights : model.withRelations.map (·.relationsHeight) =
      other.withRelations.map (·.relationsHeight) := by
    have hlengths := congrArg (List.map (·.relationsHeight)) h.withRelations
    simpa only [List.map_map, Function.comp_def, Entity.relationsHeight_withoutTexts] using hlengths
  simp only [body, bind_ok_iff, pure_ok_iff] at hm ho
  obtain ⟨modules, hm, rfl⟩ := hm
  obtain ⟨otherModules, ho, rfl⟩ := ho
  rw [List.map_cons, List.map_cons, map_of_mapM hm fun entity _ ls hl => length_entityModule hl,
    map_of_mapM ho fun entity _ ls hl => length_entityModule hl, hheights]

end RelationsFile

-- ---------------------------------------------------------------------------
-- Files of valid models
-- ---------------------------------------------------------------------------

/-- The model of some declarations, reported as valid, and a package name of one line. -/
structure Payload.Sound (payload : Payload) : Prop where
  built : ∃ cache declarations, (Model.build cache declarations).1 = .ok payload.model
  valid : payload.model.validate.isValid = true
  package : OneLine payload.package

namespace Payload.Sound

variable {payload : Payload} {entity : Entity} {field : RelationField}

theorem neat (h : payload.Sound) (he : entity ∈ payload.model.entities) :
    entity.Neat ∧ entity.Assembled := by
  obtain ⟨cache, declarations, hb⟩ := h.built
  exact ⟨Model.neat_of_isValid hb h.valid he, (Model.coherent_of_build hb).assembled entity he⟩

theorem reaches (h : payload.Sound) (he : entity ∈ payload.model.entities)
    (hf : field ∈ entity.relations) :
    ∃ target, RelationsFile.Reaches payload.model entity field target := by
  obtain ⟨cache, declarations, hb⟩ := h.built
  obtain ⟨target, ht, hname, hjoins⟩ :=
    ((Model.wellFormed_of_isValid hb h.valid).entities entity he).relations field hf
  have hnames := (Model.coherent_of_build hb).names
  exact ⟨target, (Model.get?_eq_some_iff hnames).mpr ⟨ht, hname⟩, hname, (h.neat ht).1,
    Model.unresolved_of_build hb entity he field hf, hjoins⟩

theorem exists_relationsBody (h : payload.Sound) :
    ∃ groups, RelationsFile.body payload.model = .ok groups := by
  rw [← not_fails_iff, RelationsFile.body_fails_iff]
  rintro ⟨entity, he, field, hf, ht⟩
  exact ht (Model.target_mem_of_isValid h.valid he hf)

end Payload.Sound

namespace Template

variable {kind : ArtifactKind} {payload first second : Payload}

theorem exists_body (hk : kind = .columns ∨ kind = .relations) (h : payload.Sound) :
    ∃ groups, body kind payload = .ok groups ∧
      innerBreaks groups.flatten =
        innerBreaks (payload.model.commentNames kind) +
          innerBreaks (payload.model.commentTexts kind) := by
  rcases hk with rfl | rfl
  · exact ⟨_, rfl, ColumnsFile.innerBreaks_body fun entity he => h.neat he⟩
  · obtain ⟨groups, hg⟩ := h.exists_relationsBody
    exact ⟨groups, hg, RelationsFile.innerBreaks_body (fun entity he => (h.neat he).1)
      (fun entity he field hf => h.reaches he hf) hg⟩

theorem exists_lines (hk : kind = .columns ∨ kind = .relations) (h : payload.Sound) :
    ∃ written, lines kind payload = .ok written ∧ render kind payload = .ok (unlines written) ∧
      innerBreaks written =
        innerBreaks (payload.model.commentNames kind) +
          innerBreaks (payload.model.commentTexts kind) := by
  obtain ⟨groups, hg, hbreaks⟩ := exists_body hk h
  have hheader : innerBreaks (header payload) = 0 :=
    innerBreaks_eq_zero_iff.mpr fun line hl => (plain_of_mem_header h.package hl).oneLine
  have hlines : lines kind payload = .ok (paragraphs (header payload :: groups)) := by
    rw [lines, hg]
    rfl
  refine ⟨_, hlines, by rw [render, hlines]; rfl, ?_⟩
  rw [innerBreaks_paragraphs, List.flatten_cons, innerBreaks_append, hheader, hbreaks,
    Nat.zero_add]

theorem length_lines_of_alike (hk : kind = .columns ∨ kind = .relations)
    (ha : first.model.AlikeButTexts second.model) {written other : List String}
    (hf : lines kind first = .ok written) (hs : lines kind second = .ok other) :
    written.length = other.length := by
  simp only [lines, bind_ok_iff, pure_ok_iff] at hf hs
  obtain ⟨groups, hg, rfl⟩ := hf
  obtain ⟨others, ho, rfl⟩ := hs
  have hlengths : groups.map List.length = others.map List.length := by
    rcases hk with rfl | rfl
    · cases hg
      cases ho
      exact ColumnsFile.lengths_body ha
    · exact RelationsFile.lengths_body ha hg ho
  have hcount : groups.length = others.length := by
    simpa using congrArg List.length hlengths
  simp only [length_paragraphs, List.map_cons, List.length_cons, hlengths, hcount, header]

/-- The numbers of lines of two files differ as the newlines in the texts of tags do. -/
theorem length_lines_add (hk : kind = .columns ∨ kind = .relations) (hf : first.Sound)
    (hs : second.Sound) (ha : first.model.AlikeButTexts second.model) {text other : String}
    (ht : render kind first = .ok text) (ho : render kind second = .ok other) :
    (Text.lines text).length + innerBreaks (second.model.commentTexts kind) =
      (Text.lines other).length + innerBreaks (first.model.commentTexts kind) := by
  obtain ⟨written, hw, hr, hwritten⟩ := exists_lines hk hf
  obtain ⟨others, hwo, hro, hothers⟩ := exists_lines hk hs
  cases ht.symm.trans hr
  cases ho.symm.trans hro
  rw [Text.length_lines, Text.length_lines, breaks_unlines, breaks_unlines, hwritten, hothers,
    length_lines_of_alike hk ha hw hwo, ha.commentNames]
  omega

/-- The files of two valid models that differ only in texts of tags have the numbers of lines
that differ as the newlines in these texts do. What is written as one line is read as one
exactly if no name of an entity and no text that a comment is made of has a newline. -/
theorem lineCounts_of_alike (hk : kind = .columns ∨ kind = .relations) (hf : first.Sound)
    (hs : second.Sound) (ha : first.model.AlikeButTexts second.model) :
    ∃ written text other, lines kind first = .ok written ∧ render kind first = .ok text ∧
      render kind second = .ok other ∧
      (Text.lines text).length + innerBreaks (second.model.commentTexts kind) =
        (Text.lines other).length + innerBreaks (first.model.commentTexts kind) ∧
      (Text.lines text = written ++ [""] ↔
        (∀ name ∈ first.model.commentNames kind, OneLine name) ∧
          ∀ text ∈ first.model.commentTexts kind, OneLine text) := by
  obtain ⟨written, hw, hr, hwritten⟩ := exists_lines hk hf
  obtain ⟨others, -, hro, -⟩ := exists_lines hk hs
  refine ⟨written, unlines written, unlines others, hw, hr, hro,
    length_lines_add hk hf hs ha hr hro, ?_⟩
  rw [lines_unlines_iff, hwritten, Nat.add_eq_zero_iff, innerBreaks_eq_zero_iff,
    innerBreaks_eq_zero_iff]

end Template

/-- Posts with a comment on their text and with other posts that they are linked to. -/
def remarks (comment joinTable through : String) : List Declaration := [
  { name := "Post"
    file := "post.rs"
    line := 1
    fields := [
      { name := "id", type := { base := "i64" }, attributes := some "primary_key", line := 2 },
      { name := "text", type := { base := "String" }, attributes := some ("comment:" ++ comment),
        line := 3 },
      { name := "links", type := { base := "Post", isCollection := true },
        relationship := some ("many_to_many:Post,join_table:" ++ joinTable ++
          ",join_source_key:post_id,join_target_key:linked_id,through:" ++ through),
        line := 4 } ] } ]

def plainRemarks : List Declaration :=
  remarks "as written" "post_links" "Link"

def brokenRemarks : List Declaration :=
  remarks "as\nwritten" "post\nlinks" "Li\nnk"

def Model.payload (model : Model) : Payload :=
  { package := "models", generatedAt := ⟨0, 0⟩, model, kinds := [.columns, .relations] }

@[simp] theorem Model.model_payload (model : Model) : model.payload.model = model := rfl

theorem Model.payload_sound {declarations : List Declaration} {model : Model}
    (hb : (build {} declarations).1 = .ok model) (hv : model.validate.isValid = true) :
    model.payload.Sound :=
  ⟨⟨{}, declarations, hb⟩, hv, (by decide : OneLine "models")⟩

theorem remarks_built :
    ∃ plain broken, (Model.build {} plainRemarks).1 = .ok plain ∧
      (Model.build {} brokenRemarks).1 = .ok broken ∧
      plain.validate.isValid = true ∧ broken.validate.isValid = true ∧
      plain.AlikeButTexts broken ∧
      plain.commentTexts .columns = ["as written"] ∧
      broken.commentTexts .columns = ["as\nwritten"] ∧
      plain.commentNames .relations = ["Post", "Post"] ∧
      plain.commentTexts .relations = ["post_links", "Link"] ∧
      broken.commentTexts .relations = ["post\nlinks", "Li\nnk"] := by
  have hany : ∃ plain, (Model.build {} plainRemarks).1 = .ok plain ∧
      ((Model.build {} brokenRemarks).1.toOption.any fun broken =>
        decide (plain.validate.isValid = true ∧ broken.validate.isValid = true ∧
          plain.AlikeButTexts broken ∧
          plain.commentTexts .columns = ["as written"] ∧
          broken.commentTexts .columns = ["as\nwritten"] ∧
          plain.commentNames .relations = ["Post", "Post"] ∧
          plain.commentTexts .relations = ["post_links", "Link"] ∧
          broken.commentTexts .relations = ["post\nlinks", "Li\nnk"])) = true :=
    Model.built_of_any (by decide +kernel)
  obtain ⟨plain, hp, hany⟩ := hany
  obtain ⟨broken, hb, hall⟩ := ok_of_any hany
  exact ⟨plain, broken, hp, hb, of_decide_eq_true hall⟩

theorem lineCounts_of_remarks :
    ∃ plain broken written text other, (Model.build {} plainRemarks).1 = .ok plain ∧
      (Model.build {} brokenRemarks).1 = .ok broken ∧
      Template.lines .relations plain.payload = .ok written ∧
      Template.render .relations plain.payload = .ok text ∧
      Template.render .relations broken.payload = .ok other ∧
      (lines text).length + 2 = (lines other).length ∧ lines text = written ++ [""] := by
  obtain ⟨plain, broken, hp, hb, hpv, hbv, ha, -, -, hnames, htexts, hbreaks⟩ := remarks_built
  obtain ⟨written, text, other, hw, ht, ho, hcount, hread⟩ :=
    Template.lineCounts_of_alike (.inr rfl) (Model.payload_sound hp hpv)
      (Model.payload_sound hb hbv) ha
  rw [Model.model_payload, Model.model_payload, htexts, hbreaks] at hcount
  rw [Model.model_payload, hnames, htexts] at hread
  exact ⟨plain, broken, written, text, other, hp, hb, hw, ht, ho, hcount, hread.mpr (by decide)⟩

def Template.KeepsLineCount (kind : ArtifactKind) : Prop :=
  ∀ first second : Payload, first.Sound → second.Sound → first.model.AlikeButTexts second.model →
    ∀ text other, render kind first = .ok text → render kind second = .ok other →
      (Text.lines text).length = (Text.lines other).length

theorem not_keepsLineCount :
    ¬ Template.KeepsLineCount .columns ∧ ¬ Template.KeepsLineCount .relations := by
  obtain ⟨plain, broken, hp, hb, hpv, hbv, ha, htext, hbreak, -, htexts, hbreaks⟩ := remarks_built
  have hplain := Model.payload_sound hp hpv
  have hbroken := Model.payload_sound hb hbv
  -- Where the newlines in texts differ, so do the lines.
  have hdiffer {kind : ArtifactKind} (hk : kind = .columns ∨ kind = .relations)
      (hne : innerBreaks (plain.commentTexts kind) ≠ innerBreaks (broken.commentTexts kind)) :
      ¬ Template.KeepsLineCount kind := by
    intro hkeeps
    obtain ⟨_, -, ht, -⟩ := Template.exists_lines hk hplain
    obtain ⟨_, -, ho, -⟩ := Template.exists_lines hk hbroken
    have hcount := Template.length_lines_add hk hplain hbroken ha ht ho
    rw [hkeeps _ _ hplain hbroken ha _ _ ht ho] at hcount
    exact hne (Nat.add_left_cancel hcount).symm
  constructor
  · refine hdiffer (.inl rfl) ?_
    rw [htext, hbreak]
    decide
  · refine hdiffer (.inr rfl) ?_
    rw [htexts, hbreaks]
    decide

end SchemaCompiler
