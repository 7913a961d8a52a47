import Mathlib.Data.List.Induction
import Mathlib.Data.List.Nodup
import SchemaCompiler.Proofs.Relation.TagForm
import SchemaCompiler.Proofs.Sequence
import SchemaCompiler.Proofs.Text.Split

/-!
# Reading relationship tags

A tag is read exactly if it has the form of one; then it is read as what it says, and
else it is refused for its first defect. The segments are followed from left to right:
what is held after some of them is what they say.
-/

namespace SchemaCompiler.Relationship

open Text

-- ---------------------------------------------------------------------------
-- Heads
-- ---------------------------------------------------------------------------

theorem isPair_of_cut {segment before after : List Char}
    (h : cut? ':' segment = some (before, after)) :
    IsPair segment (.ofList (trim before)) (.ofList (trim after)) := by
  obtain ⟨hs, hb⟩ := cut?_eq_some_iff.mp h
  exact ⟨before, after, hs, hb, rfl, rfl⟩

theorem IsPair.cut {segment : List Char} {key value : String} (h : IsPair segment key value) :
    ∃ before after, cut? ':' segment = some (before, after) ∧
      key = .ofList (trim before) ∧ value = .ofList (trim after) := by
  obtain ⟨before, after, hs, hb, hk, hv⟩ := h
  exact ⟨before, after, cut?_eq_some_iff.mpr ⟨hs, hb⟩, hk, hv⟩

theorem parseHead_of_namesTarget {head : List Char} {kind : RelationKind} {target : String}
    (h : NamesTarget head kind target) : parseHead head = .ok (kind, target) := by
  obtain ⟨name, hp, hk, ht⟩ := h
  obtain ⟨before, after, hc, rfl, rfl⟩ := hp.cut
  have hne : head ≠ [] := by
    rintro rfl
    simp [cut?] at hc
  have hta : trim after ≠ [] := fun he => ht (by rw [he])
  simp [parseHead, hne, hc, hk, hta]

theorem parseHead_cases (head : List Char) :
    (∃ kind target, NamesTarget head kind target) ∨
      ∃ e, HeadDefect head e ∧ parseHead head = .error e := by
  rw [parseHead]
  by_cases hne : head = []
  · subst hne
    exact .inr ⟨_, .empty, rfl⟩
  · rw [if_neg (by simpa using hne)]
    cases hc : cut? ':' head with
    | none => exact .inr ⟨_, .unpaired hne (cut?_eq_none_iff.mp hc), rfl⟩
    | some parts =>
      obtain ⟨before, after⟩ := parts
      have hp := isPair_of_cut hc
      cases hk : RelationKind.ofTag? (.ofList (trim before)) with
      | none => exact .inr ⟨_, .unknownKind hp hk, by simp only [hk]⟩
      | some kind =>
        by_cases ht : trim after = []
        · rw [ht] at hp
          exact .inr ⟨_, .noTarget hp hk, by simp [hk, ht]⟩
        · have hta : String.ofList (trim after) ≠ "" := by simpa using ht
          exact .inl ⟨kind, _, _, hp, hk, hta⟩

-- ---------------------------------------------------------------------------
-- Segments
-- ---------------------------------------------------------------------------

/-- What is held of settings. -/
def heldOf (said : List Setting) : Settings where
  values := said.filterMap Setting.pair?
  validate := said.findSome? Setting.validate?
  autosave := said.findSome? Setting.autosave?

section

variable {said : List Setting} {segment : List Char}

theorem given_isSome_iff {key : String} :
    (given said key).isSome = true ↔ Subject.option key ∈ said.map Setting.subject := by
  induction said with
  | nil => simp [given]
  | cons setting rest ih =>
    rw [given] at ih ⊢
    cases setting with
    | option k value =>
      by_cases hk : key = k
      · simp [Setting.pair?, Setting.subject, hk]
      · simpa [Setting.pair?, Setting.subject, List.lookup_cons, beq_false_of_ne hk, hk] using ih
    | validate _ | autosave _ => simpa [Setting.pair?, Setting.subject] using ih

theorem isSome_toggled_iff {pick : Setting → Option Bool} {subject : Subject}
    (h : ∀ setting, (pick setting).isSome = true ↔ setting.subject = subject) :
    (said.findSome? pick).isSome = true ↔ subject ∈ said.map Setting.subject := by
  simp [List.findSome?_isSome_iff, h]

theorem addSegment_option {key value : String} (hp : IsPair segment key value)
    (hk : key ∈ optionKeys) (hv : value ≠ "") :
    addSegment (heldOf said) segment =
      if Subject.option key ∈ said.map Setting.subject then .error (.duplicateOption key)
      else .ok (heldOf (said ++ [.option key value])) := by
  obtain ⟨before, after, hc, rfl, rfl⟩ := hp.cut
  have hne : String.ofList (trim before) ≠ "" := by
    rintro he
    rw [he] at hk
    exact absurd hk (by decide)
  have hl : ((heldOf said).values.lookup (.ofList (trim before))).isSome = true ↔ _ :=
    given_isSome_iff
  simp only [addSegment, hc, addOption]
  rw [if_neg (by simpa [hne] using hv), if_neg (by simpa using hk)]
  refine if_congr hl rfl ?_
  simp [heldOf, Setting.pair?, Setting.validate?, Setting.autosave?]

theorem cut?_of_toggle {name : String} {setting : Setting} (h : (name, setting) ∈ toggles) :
    cut? ':' name.toList = none := by
  simp only [toggles, List.mem_cons, Prod.mk.injEq, List.not_mem_nil, or_false] at h
  rcases h with ⟨rfl, -⟩ | ⟨rfl, -⟩ | ⟨rfl, -⟩ | ⟨rfl, -⟩ <;> decide

theorem Setting.isSome_validate?_iff (setting : Setting) :
    setting.validate?.isSome = true ↔ setting.subject = .validate := by
  cases setting <;> simp [validate?, subject]

theorem Setting.isSome_autosave?_iff (setting : Setting) :
    setting.autosave?.isSome = true ↔ setting.subject = .autosave := by
  cases setting <;> simp [autosave?, subject]

theorem fill_findSome? {pick : Setting → Option Bool} {setting : Setting} {enabled : Bool}
    (h : ∀ other, (pick other).isSome = true ↔ other.subject = setting.subject)
    (hs : pick setting = some enabled) (name : String) :
    fill name (said.findSome? pick) enabled =
      if setting.subject ∈ said.map Setting.subject then .error (.duplicateOption name)
      else .ok ((said ++ [setting]).findSome? pick) := by
  refine ite_congr (propext (isSome_toggled_iff h)) (fun _ => rfl) fun hn => ?_
  have hnone := Option.not_isSome_iff_eq_none.mp ((isSome_toggled_iff h).not.mpr hn)
  simp [List.findSome?_append, hnone, hs]

theorem addSegment_toggle {name : String} {setting : Setting} (h : (name, setting) ∈ toggles) :
    addSegment (heldOf said) name.toList =
      if setting.subject ∈ said.map Setting.subject then
        .error (.duplicateOption setting.subject.name)
      else .ok (heldOf (said ++ [setting])) := by
  have hvalidate (enabled : Bool) :
      fill "validate" (heldOf said).validate enabled = _ :=
    @fill_findSome? said _ (.validate enabled) _ Setting.isSome_validate?_iff rfl _
  have hautosave (enabled : Bool) :
      fill "autosave" (heldOf said).autosave enabled = _ :=
    @fill_findSome? said _ (.autosave enabled) _ Setting.isSome_autosave?_iff rfl _
  simp only [addSegment, cut?_of_toggle h, String.ofList_toList]
  simp only [toggles, List.mem_cons, Prod.mk.injEq, List.not_mem_nil, or_false] at h
  rcases h with ⟨rfl, rfl⟩ | ⟨rfl, rfl⟩ | ⟨rfl, rfl⟩ | ⟨rfl, rfl⟩
  all_goals
    simp only [addToggle, hvalidate, hautosave]
    split
    · rfl
    · simp [heldOf, Setting.pair?, Setting.validate?, Setting.autosave?]

theorem addSegment_of_gives {setting : Setting} (h : Gives segment setting)
    (hn : setting.subject ∉ said.map Setting.subject) :
    addSegment (heldOf said) segment = .ok (heldOf (said ++ [setting])) := by
  cases h with
  | option hp hk hv => exact (addSegment_option hp hk hv).trans (if_neg hn)
  | toggle hm => exact (addSegment_toggle hm).trans (if_neg hn)

theorem addSegment_of_defect {e : RelationTagError} (h : SegmentDefect said segment e) :
    addSegment (heldOf said) segment = .error e := by
  cases h with
  | halfEmpty hp he =>
    obtain ⟨before, after, hc, rfl, rfl⟩ := hp.cut
    rw [addSegment, hc]
    exact if_pos he
  | unknownOption hp hk hv hu =>
    obtain ⟨before, after, hc, rfl, rfl⟩ := hp.cut
    simp only [addSegment, hc, addOption]
    rw [if_neg (by simp [hk, hv]), if_pos hu]
  | unknownToken hu ht =>
    simp only [addSegment, cut?_eq_none_iff.mpr hu]
    unfold addToggle
    split <;> simp_all [toggles]
  | repeated hs hb =>
    cases hs with
    | option hp hk hv => exact (addSegment_option hp hk hv).trans (if_pos hb)
    | toggle hm => exact (addSegment_toggle hm).trans (if_pos hb)

theorem gives_or_defect (said : List Setting) (segment : List Char) :
    (∃ setting, Gives segment setting ∧ setting.subject ∉ said.map Setting.subject) ∨
      ∃ e, SegmentDefect said segment e := by
  have hgives {setting : Setting} (h : Gives segment setting) :
      (∃ setting, Gives segment setting ∧ setting.subject ∉ said.map Setting.subject) ∨
        ∃ e, SegmentDefect said segment e := by
    by_cases hb : setting.subject ∈ said.map Setting.subject
    · exact .inr ⟨_, .repeated h hb⟩
    · exact .inl ⟨setting, h, hb⟩
  cases hc : cut? ':' segment with
  | none =>
    by_cases ht : String.ofList segment ∈ toggles.map Prod.fst
    · obtain ⟨⟨name, setting⟩, hm, hname⟩ := List.mem_map.mp ht
      obtain rfl : name.toList = segment := by rw [show name = _ from hname, String.toList_ofList]
      exact hgives (.toggle hm)
    · exact .inr ⟨_, .unknownToken (cut?_eq_none_iff.mp hc) ht⟩
  | some parts =>
    have hp := isPair_of_cut hc
    by_cases hk : String.ofList (trim parts.1) = ""
    · exact .inr ⟨_, .halfEmpty hp (.inl hk)⟩
    · by_cases hv : String.ofList (trim parts.2) = ""
      · exact .inr ⟨_, .halfEmpty hp (.inr hv)⟩
      · by_cases hm : String.ofList (trim parts.1) ∈ optionKeys
        · exact hgives (.option hp hm hv)
        · exact .inr ⟨_, .unknownOption hp hk hv hm⟩

-- ---------------------------------------------------------------------------
-- All segments
-- ---------------------------------------------------------------------------

theorem addSegments_append (settings : Settings) (first second : List (List Char)) :
    addSegments settings (first ++ second) =
      addSegments settings first >>= (addSegments · second) := by
  induction first generalizing settings with
  | nil => rfl
  | cons segment rest ih =>
    rw [List.cons_append, addSegments, addSegments]
    cases addSegment settings segment with
    | error e => rfl
    | ok settings => exact ih settings

theorem addSegments_of_gives {segments : List (List Char)} {new : List Setting}
    (h : List.Forall₂ Gives segments new)
    (hn : ((said ++ new).map Setting.subject).Nodup) :
    addSegments (heldOf said) segments = .ok (heldOf (said ++ new)) := by
  induction h generalizing said with
  | nil => rw [List.append_nil, addSegments]
  | @cons segment setting rest more hs _ ih =>
    rw [List.append_cons] at hn
    have hnew : setting.subject ∉ said.map Setting.subject := by
      rw [List.map_append, List.map_append] at hn
      have hfirst := (List.nodup_append.mp hn).1
      exact fun hm => (List.nodup_append.mp hfirst).2.2 _ hm _ (by simp) rfl
    rw [addSegments, addSegment_of_gives hs hnew, List.append_cons said setting more]
    exact ih hn

theorem GivesAll.addSegments {segments : List (List Char)} (h : GivesAll segments said) :
    addSegments {} segments = .ok (heldOf said) :=
  @addSegments_of_gives [] segments said h.each h.once

theorem addSegments_of_defect {before after : List (List Char)} {e : RelationTagError}
    (h : GivesAll before said) (hd : SegmentDefect said segment e) :
    addSegments {} (before ++ segment :: after) = .error e := by
  rw [addSegments_append, h.addSegments]
  simp only [bind, Except.bind, Relationship.addSegments, addSegment_of_defect hd]

theorem givesAll_or_defect (segments : List (List Char)) :
    (∃ said, GivesAll segments said) ∨
      ∃ before segment after said e, segments = before ++ segment :: after ∧
        GivesAll before said ∧ SegmentDefect said segment e := by
  -- From the end, for a segment may repeat only what those before it say.
  induction segments using List.reverseRecOn with
  | nil => exact .inl ⟨[], .nil, List.nodup_nil⟩
  | append_singleton segments last ih =>
    rcases ih with ⟨said, h⟩ | ⟨before, segment, after, said, e, rfl, h, hd⟩
    · rcases gives_or_defect said last with ⟨setting, hs, hn⟩ | ⟨e, hd⟩
      · refine .inl ⟨said ++ [setting], ?_, ?_⟩
        · exact List.rel_append h.each (.cons hs .nil)
        · rw [List.map_append, List.map_singleton, ← List.concat_eq_append]
          exact h.once.concat hn
      · exact .inr ⟨segments, last, [], said, e, rfl, h, hd⟩
    · exact .inr ⟨before, segment, after ++ [last], said, e, by simp, h, hd⟩

-- ---------------------------------------------------------------------------
-- The options taken together
-- ---------------------------------------------------------------------------

theorem mem_values {key value : String} :
    (key, value) ∈ (heldOf said).values ↔ .option key value ∈ said := by
  simp only [heldOf, List.mem_filterMap]
  constructor
  · rintro ⟨setting, hm, hs⟩
    cases setting <;> cases hs
    exact hm
  · intro hm
    exact ⟨_, hm, rfl⟩

theorem applies_iff {kind : RelationKind} {key : String} :
    applies kind key = true ↔ Applies kind key := by
  simp [applies, Applies]

theorem mem_keys {key : String} :
    key ∈ (heldOf said).values.map (·.1) ↔ ∃ value, .option key value ∈ said := by
  simp [← mem_values]

theorem Stray.not_allApply {kind : RelationKind} {key : String} (h : Stray kind said key) :
    ¬ AllApply kind said := by
  obtain ⟨⟨value, hm⟩, hs⟩ := h
  exact fun happly => hs (happly key value hm)

/-- Whatever the order, an option is refused exactly if one does not apply. -/
theorem checkApplicable_cases (kind : RelationKind) (said : List Setting) (order : MapOrder) :
    (AllApply kind said ∧
        checkApplicable kind (order.arrange ((heldOf said).values.map (·.1))) = .ok ()) ∨
      ∃ key, Stray kind said key ∧
        checkApplicable kind (order.arrange ((heldOf said).values.map (·.1))) =
          .error (.optionNotApplicable key kind) := by
  rw [checkApplicable]
  cases hf : (order.arrange ((heldOf said).values.map (·.1))).find? (!applies kind ·) with
  | none =>
    refine .inl ⟨fun key value hm => ?_, rfl⟩
    have hkey := (order.perm _).mem_iff.mpr (mem_keys.mpr ⟨value, hm⟩)
    have happly := List.find?_eq_none.mp hf key hkey
    exact applies_iff.mp (by simpa using happly)
  | some key =>
    obtain ⟨value, hm⟩ := mem_keys.mp ((order.perm _).mem_iff.mp (List.mem_of_find?_eq_some hf))
    refine .inr ⟨key, ⟨⟨value, hm⟩, ?_⟩, rfl⟩
    rw [← applies_iff]
    simpa using List.find?_some hf

theorem DependentAction.name_of_ofName? {name : String} {action : DependentAction}
    (h : DependentAction.ofName? name = some action) : action.name = name := by
  unfold DependentAction.ofName? at h
  split at h <;> cases h <;> rfl

theorem parseDependent_cases (said : List Setting) :
    (KnownDependent said ∧ ∃ action, parseDependent (heldOf said).values = .ok action ∧
        action.map (·.name) = given said "dependent") ∨
      ∃ value, given said "dependent" = some value ∧ DependentAction.ofName? value = none ∧
        parseDependent (heldOf said).values = .error (.invalidDependent value) := by
  rw [parseDependent, KnownDependent, show (heldOf said).values.lookup _ = given said _ from rfl]
  cases given said "dependent" with
  | none => exact .inl ⟨by simp, none, rfl, rfl⟩
  | some value =>
    cases ha : DependentAction.ofName? value with
    | none => exact .inr ⟨value, rfl, ha, by simp only [ha]⟩
    | some action =>
      refine .inl ⟨fun v hv => ?_, some action, by simp only [ha], ?_⟩
      · cases hv
        exact ⟨action, ha⟩
      · rw [Option.map_some, DependentAction.name_of_ofName? ha]

theorem required_of_given {kind : RelationKind} {field value : String}
    (h : given said field = some value) :
    required kind (heldOf said).values field = .ok value := by
  rw [required, show (heldOf said).values.lookup field = some value from h]

theorem required_of_lacks {kind : RelationKind} {field : String} (h : given said field = none) :
    required kind (heldOf said).values field = .error (.missingField kind field) := by
  rw [required, show (heldOf said).values.lookup field = none from h]

theorem buildRelation_cases (kind : RelationKind) (target : String) (said : List Setting) :
    ((∀ key ∈ kind.requiredOptions, ∃ value, given said key = some value) ∧
        ∃ relation, buildRelation target (heldOf said).values kind = .ok relation ∧
          relation.kind = kind ∧ Keyed said target relation) ∨
      ∃ before key after, kind.requiredOptions = before ++ key :: after ∧
        (∀ k ∈ before, ∃ value, given said k = some value) ∧ given said key = none ∧
        buildRelation target (heldOf said).values kind = .error (.missingField kind key) := by
  cases kind with
  | belongsTo => exact .inl ⟨by simp [RelationKind.requiredOptions], _, rfl, rfl, .belongsTo⟩
  | hasOne | hasMany =>
    cases hf : given said "foreign_key" with
    | none =>
      refine .inr ⟨[], "foreign_key", [], rfl, by simp, hf, ?_⟩
      rw [buildRelation, required_of_lacks hf]
      rfl
    | some foreignKey =>
      refine .inl ⟨by simp [RelationKind.requiredOptions, hf], ?_⟩
      rw [buildRelation, required_of_given hf]
      refine ⟨_, rfl, rfl, ?_⟩
      constructor
      exact hf
  | manyToMany =>
    cases ht : given said "join_table" with
    | none =>
      refine .inr ⟨[], "join_table", _, rfl, by simp, ht, ?_⟩
      rw [buildRelation, required_of_lacks ht]
      rfl
    | some joinTable =>
      cases hs : given said "join_source_key" with
      | none =>
        refine .inr ⟨["join_table"], "join_source_key", _, rfl, by simp [ht], hs, ?_⟩
        rw [buildRelation, required_of_given ht, required_of_lacks hs]
        rfl
      | some joinSourceKey =>
        cases ho : given said "join_target_key" with
        | none =>
          refine .inr ⟨["join_table", "join_source_key"], "join_target_key", [], rfl,
            by simp [ht, hs], ho, ?_⟩
          rw [buildRelation, required_of_given ht, required_of_given hs, required_of_lacks ho]
          rfl
        | some joinTargetKey =>
          refine .inl ⟨by simp [RelationKind.requiredOptions, ht, hs, ho], _, ?_, rfl,
            .manyToMany ht hs ho⟩
          rw [buildRelation, required_of_given ht, required_of_given hs, required_of_given ho]
          rfl

-- ---------------------------------------------------------------------------
-- Tags
-- ---------------------------------------------------------------------------

section

variable {raw : String} {kind : RelationKind} {target : String} {order : MapOrder}

theorem parse_eq_ofSegments (raw : String) (order : MapOrder) :
    parse raw order = ofSegments order (headSegment raw) (tagSegments raw).tail := by
  rw [parse, headSegment]
  cases h : tagSegments raw with
  | nil => exact absurd (List.map_eq_nil_iff.mp h) pieces_ne_nil
  | cons head rest => rfl

theorem parse_of_form (h : TagForm raw kind target said) :
    parse raw order = (do
      checkApplicable kind (order.arrange ((heldOf said).values.map (·.1)))
      let dependent ← parseDependent (heldOf said).values
      let relation ← buildRelation target (heldOf said).values kind
      pure {
        relation
        options := {
          orderBy := given said "order_by"
          dependent
          validate := said.findSome? Setting.validate?
          autosave := said.findSome? Setting.autosave?
          polymorphic := given said "polymorphic"
          through := given said "through"
          conditions := given said "conditions" } }) := by
  have hlater : addSegments {} ((tagSegments raw).tail.filter (!·.isEmpty)) = .ok (heldOf said) :=
    h.later.addSegments
  rw [parse_eq_ofSegments, ofSegments, parseHead_of_namesTarget h.head, hlater]
  rfl

theorem form_or_defect (raw : String) :
    (∃ kind target said, TagForm raw kind target said) ∨
      ∃ e, FirstDefect raw e ∧ ∀ order, parse raw order = .error e := by
  rcases parseHead_cases (headSegment raw) with ⟨kind, target, hhead⟩ | ⟨e, hd, hp⟩
  · rcases givesAll_or_defect (laterSegments raw) with
      ⟨said, hlater⟩ | ⟨before, segment, after, said, e, hplace, hfine, hd⟩
    · exact .inl ⟨kind, target, said, hhead, hlater⟩
    · refine .inr ⟨e, .segment hhead hplace hfine hd, fun order => ?_⟩
      have hadd : addSegments {} (laterSegments raw) = .error e :=
        hplace ▸ addSegments_of_defect hfine hd
      rw [laterSegments] at hadd
      rw [parse_eq_ofSegments, ofSegments, parseHead_of_namesTarget hhead, hadd]
      rfl
  · refine .inr ⟨e, .head hd, fun order => ?_⟩
    rw [parse_eq_ofSegments, ofSegments, hp]
    rfl

theorem TagForm.parse_cases (h : TagForm raw kind target said) (order : MapOrder) :
    (∃ r, parse raw order = .ok r ∧ r.kind = kind ∧ Describes said target r ∧ Readable raw) ∨
      ∃ e, parse raw order = .error e ∧ FirstDefect raw e := by
  rw [parse_of_form h]
  rcases checkApplicable_cases kind said order with ⟨happly, hc⟩ | ⟨key, ⟨⟨value, hm⟩, hs⟩, hc⟩
  · rcases parseDependent_cases said with ⟨hknown, action, hd, hname⟩ | ⟨value, hg, hu, hd⟩
    · rcases buildRelation_cases kind target said with
        ⟨hall, relation, hb, rfl, hkeys⟩ | ⟨before, key, after, horder, hfine, hl, hb⟩
      · rw [hc, hd, hb]
        refine .inl ⟨_, rfl, rfl, ?_, _, _, _, h, happly, hknown, hall⟩
        exact ⟨hkeys, rfl, hname, rfl, rfl, rfl, rfl, rfl⟩
      · exact .inr ⟨_, by rw [hc, hd, hb]; rfl, .missing h happly hknown horder hfine hl⟩
    · exact .inr ⟨_, by rw [hc, hd]; rfl, .dependent h happly hg hu⟩
  · exact .inr ⟨_, by rw [hc]; rfl, .inapplicable h hm hs⟩

theorem parse_cases (raw : String) (order : MapOrder) :
    (∃ r target said, parse raw order = .ok r ∧ TagForm raw r.kind target said ∧
        Describes said target r ∧ Readable raw) ∨
      ∃ e, parse raw order = .error e ∧ FirstDefect raw e := by
  rcases form_or_defect raw with ⟨kind, target, said, hform⟩ | ⟨e, hd, he⟩
  · rcases hform.parse_cases order with ⟨r, hr, rfl, hdesc, hread⟩ | he
    · exact .inl ⟨r, target, said, hr, hform, hdesc, hread⟩
    · exact .inr he
  · exact .inr ⟨e, he order, hd⟩

theorem Readable.parse_ok (h : Readable raw) (order : MapOrder) :
    ∃ r, parse raw order = .ok r := by
  obtain ⟨kind, target, said, hform, happly, hknown, hall⟩ := h
  rw [parse_of_form hform]
  rcases checkApplicable_cases kind said order with ⟨-, hc⟩ | ⟨key, hkey, -⟩
  · rcases parseDependent_cases said with ⟨-, action, hd, -⟩ | ⟨value, hg, hu, -⟩
    · rcases buildRelation_cases kind target said with
        ⟨-, relation, hb, -⟩ | ⟨before, key, after, horder, -, hl, -⟩
      · rw [hc, hd, hb]
        exact ⟨_, rfl⟩
      · obtain ⟨value, hv⟩ := hall key (by simp [horder])
        simp [hl] at hv
    · obtain ⟨action, ha⟩ := hknown value hg
      simp [hu] at ha
  · exact absurd happly hkey.not_allApply

/-- A tag is read exactly if it is readable. It is read as the relationship that it
describes, and else refused for its first defect. -/
theorem parse_spec (raw : String) (order : MapOrder) :
    ((∃ r, parse raw order = .ok r) ↔ Readable raw) ∧
      (∀ r, parse raw order = .ok r →
        ∃ target said, TagForm raw r.kind target said ∧ Describes said target r) ∧
      ∀ e, parse raw order = .error e → FirstDefect raw e := by
  refine ⟨⟨?_, (Readable.parse_ok · order)⟩, ?_, ?_⟩ <;>
    rcases parse_cases raw order with ⟨r, target, said, hr, hform, hdesc, hread⟩ | ⟨e, he, hd⟩
  · exact fun _ => hread
  · rintro ⟨r, hr⟩
    simp [he] at hr
  · rintro r' hr'
    obtain rfl : r = r' := by simpa [hr] using hr'
    exact ⟨target, said, hform, hdesc⟩
  · intro r hr
    simp [he] at hr
  · intro e he
    simp [hr] at he
  · intro e' he'
    obtain rfl : e = e' := by simpa [he] using he'
    exact hd

-- ---------------------------------------------------------------------------
-- Two orders
-- ---------------------------------------------------------------------------

/-- Two orders give one text the same meaning. Of several options that do not apply, they
may refuse different ones. -/
theorem sameReading_parse (raw : String) (order other : MapOrder) :
    SameReading raw (parse raw order) (parse raw other) := by
  rcases form_or_defect raw with ⟨kind, target, said, hform⟩ | ⟨e, -, he⟩
  · rcases checkApplicable_cases kind said order with ⟨happly, hc⟩ | ⟨key, hkey, hc⟩ <;>
      rcases checkApplicable_cases kind said other with ⟨happly', hc'⟩ | ⟨key', hkey', hc'⟩
    · rw [parse_of_form hform, parse_of_form hform, hc, hc']
      exact .same _
    · exact absurd happly hkey'.not_allApply
    · exact absurd happly' hkey.not_allApply
    · rw [parse_of_form hform, parse_of_form hform, hc, hc']
      exact .strays hform hkey hkey'
  · rw [he, he]
    exact .same _

-- Neither option applies; the order of the map has one or the other first.
example :
    let raw := "belongs_to:User,join_table:x,through:y"
    parse raw = .error (.optionNotApplicable "join_table" .belongsTo) ∧
      parse raw ⟨List.reverse, List.reverse_perm⟩ =
        .error (.optionNotApplicable "through" .belongsTo) := by
  decide +kernel

theorem SameReading.isOk_eq {first second : Except RelationTagError Relationship}
    (h : SameReading raw first second) : first.isOk = second.isOk := by
  cases h <;> rfl

theorem SameReading.eq_of_ok {r : Relationship} {second : Except RelationTagError Relationship}
    (h : SameReading raw (.ok r) second) : second = .ok r := by
  cases h
  rfl

theorem parse_ok_of_ok {r : Relationship} (h : parse raw order = .ok r) (other : MapOrder) :
    parse raw other = .ok r := by
  have hsame := sameReading_parse raw order other
  rw [h] at hsame
  exact hsame.eq_of_ok

end

end

end SchemaCompiler.Relationship
