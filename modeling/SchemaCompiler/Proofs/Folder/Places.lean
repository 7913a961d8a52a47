import SchemaCompiler.Folder.Change
import SchemaCompiler.Proofs.Folder.Entries

/-!
# Places after changes

What is at a place once an entry is put or a file erased somewhere. Both change one
folder, and every folder on the way to it stays a folder.
-/

namespace SchemaCompiler.Folder

variable {root inner a b : Folder} {place q rest : Place} {name : String} {content : Content}
  {entry : Entry} {change : Folder → Folder}

-- ---------------------------------------------------------------------------
-- What is at a place
-- ---------------------------------------------------------------------------

theorem requireFolder_eq_ok_iff :
    root.requireFolder place = .ok () ↔ ∃ inner, root.locate place = .ok (.folder inner) := by
  rw [requireFolder]
  split <;> simp_all

theorem fileAt?_eq_some_iff :
    root.fileAt? place = some content ↔ root.locate place = .ok (.file content) := by
  rw [fileAt?]
  split
  · rename_i h
    simp [h]
  · rename_i h
    exact iff_of_false (by simp) (h content)

theorem locate_cons_eq_ok_iff : root.locate (name :: rest) = .ok entry ↔
    (∃ next, root.find? name = some (.folder next) ∧ next.locate rest = .ok entry) ∨
      ∃ content, root.find? name = some (.file content) ∧ rest = [] ∧ .file content = entry := by
  rw [locate]
  cases root.find? name with
  | none => simp
  | some found =>
    cases found with
    | file content => by_cases hr : rest = [] <;> simp [hr]
    | folder next => simp

theorem locate_cons_folder_iff : root.locate (name :: rest) = .ok (.folder inner) ↔
    ∃ next, root.find? name = some (.folder next) ∧ next.locate rest = .ok (.folder inner) := by
  simp [locate_cons_eq_ok_iff]

theorem locate_append (h : root.locate place = .ok (.folder inner)) (rest : Place) :
    root.locate (place ++ rest) = inner.locate rest := by
  induction place generalizing root with
  | nil =>
    cases h
    rfl
  | cons n names ih =>
    obtain ⟨next, hf, hl⟩ := locate_cons_folder_iff.mp h
    rw [List.cons_append, locate, hf]
    exact ih hl

theorem WellFormed.of_locate (hr : root.WellFormed) (h : root.locate place = .ok (.folder inner)) :
    inner.WellFormed := by
  induction place generalizing root with
  | nil =>
    cases h
    exact hr
  | cons n names ih =>
    obtain ⟨next, hf, hl⟩ := locate_cons_folder_iff.mp h
    exact ih (hr.of_find? hf) hl

theorem locate_of_locate_append_singleton (h : root.locate (place ++ [name]) = .ok entry) :
    ∃ inner, root.locate place = .ok (.folder inner) ∧ inner.find? name = some entry := by
  induction place generalizing root with
  | nil =>
    refine ⟨root, rfl, ?_⟩
    rcases locate_cons_eq_ok_iff.mp h with ⟨next, hf, hl⟩ | ⟨content, hf, -, rfl⟩
    · cases hl
      exact hf
    · exact hf
  | cons n names ih =>
    rcases locate_cons_eq_ok_iff.mp h with ⟨next, hf, hl⟩ | ⟨content, -, hnil, -⟩
    · obtain ⟨inner, hi, hfound⟩ := ih hl
      exact ⟨inner, locate_cons_folder_iff.mpr ⟨next, hf, hi⟩, hfound⟩
    · simp at hnil

-- ---------------------------------------------------------------------------
-- A change inside
-- ---------------------------------------------------------------------------

/-- A root in which the folder at a place is changed, if there is one. -/
def within (change : Folder → Folder) : Place → Folder → Folder
  | [], root => change root
  | name :: names, root =>
    match root.find? name with
    | some (.folder inner) => root.put name (.folder (within change names inner))
    | _ => root

theorem eq_within {f : Place → Folder → Folder} (hone : f [name] = change)
    (hcons : ∀ n m more root, f (n :: m :: more) root =
      match root.find? n with
      | some (.folder inner) => root.put n (.folder (f (m :: more) inner))
      | _ => root) (place : Place) (root : Folder) :
    f (place ++ [name]) root = within change place root := by
  induction place generalizing root with
  | nil => rw [List.nil_append, hone, within]
  | cons n names ih =>
    obtain ⟨m, more, hm⟩ := List.exists_cons_of_ne_nil (List.append_ne_nil_of_right_ne_nil names
      (List.cons_ne_nil name []))
    rw [List.cons_append, hm, hcons, ← hm, within]
    cases root.find? n with
    | none => rfl
    | some found => cases found <;> simp only [ih]

theorem putAt_eq_within (entry : Entry) (place : Place) (name : String) (root : Folder) :
    putAt entry (place ++ [name]) root = within (·.put name entry) place root :=
  eq_within rfl (fun _ _ _ _ => rfl) place root

theorem eraseAt_eq_within (place : Place) (name : String) (root : Folder) :
    eraseAt (place ++ [name]) root = within (·.erase name) place root :=
  eq_within rfl (fun _ _ _ _ => rfl) place root

theorem WellFormed.within (hr : root.WellFormed)
    (hc : ∀ inner, inner.WellFormed → (change inner).WellFormed) :
    (within change place root).WellFormed := by
  induction place generalizing root with
  | nil => exact hc root hr
  | cons n names ih =>
    rw [Folder.within]
    split
    · rename_i inner hf
      exact hr.put (ih (hr.of_find? hf))
    · exact hr

theorem locate_within (h : root.locate place = .ok (.folder inner)) (rest : Place) :
    (within change place root).locate (place ++ rest) = (change inner).locate rest := by
  induction place generalizing root with
  | nil =>
    cases h
    rfl
  | cons n names ih =>
    obtain ⟨next, hf, hl⟩ := locate_cons_folder_iff.mp h
    simp only [within, hf, List.cons_append, locate, find?_put, if_pos]
    exact ih hl

/-- Two roots have the same file at a place, or both a folder, or both no way there. -/
structure AlikeAt (a b : Folder) (q : Place) : Prop where
  files : a.fileAt? q = b.fileAt? q
  folders : a.requireFolder q = b.requireFolder q

theorem AlikeAt.of_locate (h : a.locate q = b.locate q) : AlikeAt a b q :=
  ⟨by rw [fileAt?, fileAt?, h], by rw [requireFolder, requireFolder, h]⟩

/-- A change leaves alike what is not inside the changed folder. -/
theorem alikeAt_within
    (h : place <+: q → ∀ inner, root.locate place ≠ .ok (.folder inner)) :
    AlikeAt (within change place root) root q := by
  induction place generalizing root q with
  | nil => exact absurd rfl (h List.nil_prefix root)
  | cons n names ih =>
    rw [within]
    split
    · rename_i inner hf
      cases q with
      | nil => exact ⟨rfl, rfl⟩
      | cons m more =>
        by_cases hn : n = m
        · subst hn
          -- On the way to the changed folder: the rest happens in the one at this name.
          have hl (next : Folder) : next.find? n = some (.folder inner) →
              ∀ names, next.locate (n :: names) = inner.locate names := by
            intro hnext names
            rw [locate, hnext]
          have hstep : AlikeAt (within change names inner) inner more := by
            refine ih fun hp other ho => ?_
            exact h (List.prefix_cons_inj n |>.mpr hp) other ((hl root hf names).trans ho)
          have hput : (root.put n (.folder (within change names inner))).locate (n :: more) =
              (within change names inner).locate more := by
            rw [locate, find?_put, if_pos rfl]
          constructor
          · simpa only [fileAt?, hput, hl root hf] using hstep.files
          · simpa only [requireFolder, hput, hl root hf] using hstep.folders
        · refine .of_locate ?_
          rw [locate, locate, find?_put, if_neg hn]
    · exact ⟨rfl, rfl⟩

def FoldersIn (a b : Folder) : Prop :=
  ∀ q, a.requireFolder q = .ok () → b.requireFolder q = .ok ()

theorem FoldersIn.refl (a : Folder) : FoldersIn a a := fun _ => id

theorem FoldersIn.trans {c : Folder} (h : FoldersIn a b) (h' : FoldersIn b c) : FoldersIn a c :=
  fun q hq => h' q (h q hq)

/-- A place is inside the changed folder, or its way does not lead through that folder
and it stays alike. -/
theorem inside_or_alikeAt (root : Folder) (place q : Place) (change : Folder → Folder) :
    (∃ inner rest, q = place ++ rest ∧ root.locate place = .ok (.folder inner)) ∨
      (place <+: q → ∀ inner, root.locate place ≠ .ok (.folder inner)) ∧
        AlikeAt (within change place root) root q := by
  by_cases h : place <+: q → ∀ inner, root.locate place ≠ .ok (.folder inner)
  · exact .inr ⟨h, alikeAt_within h⟩
  · simp only [Classical.not_imp, not_forall, not_not] at h
    obtain ⟨⟨rest, hq⟩, inner, hi⟩ := h
    exact .inl ⟨inner, rest, hq.symm, hi⟩

theorem fileAt?_append (h : root.locate place = .ok (.folder inner)) (rest : Place) :
    root.fileAt? (place ++ rest) = inner.fileAt? rest := by
  rw [fileAt?, locate_append h, fileAt?]

theorem fileAt?_within (h : root.locate place = .ok (.folder inner)) (rest : Place) :
    (within change place root).fileAt? (place ++ rest) = (change inner).fileAt? rest := by
  rw [fileAt?, locate_within h, fileAt?]

theorem foldersIn_within
    (h : ∀ inner, root.locate place = .ok (.folder inner) → FoldersIn inner (change inner)) :
    FoldersIn root (within change place root) := by
  intro q hq
  rcases inside_or_alikeAt root place q change with ⟨inner, rest, rfl, hi⟩ | ⟨-, halike⟩
  · rw [requireFolder, locate_append hi] at hq
    rw [requireFolder, locate_within hi]
    exact h inner hi rest hq
  · rw [halike.folders, hq]

-- ---------------------------------------------------------------------------
-- One folder
-- ---------------------------------------------------------------------------

theorem locate_singleton : root.locate [name] = .ok entry ↔ root.find? name = some entry := by
  rw [locate]
  cases root.find? name with
  | none => simp
  | some found => cases found <;> simp [locate]

theorem locate_congr (h : a.find? name = b.find? name) (rest : Place) :
    a.locate (name :: rest) = b.locate (name :: rest) := by
  rw [locate, locate, h]

theorem locate_cons_of_ne (h : ∀ inner, root.find? name ≠ some (.folder inner))
    (hr : rest ≠ []) : ∃ e, root.locate (name :: rest) = .error e := by
  rw [locate]
  cases hf : root.find? name with
  | none => exact ⟨_, rfl⟩
  | some found =>
    cases found with
    | file content => exact ⟨.notADirectory, by simp [hr]⟩
    | folder inner => exact absurd hf (h inner)

theorem foldersIn_of_find? (hn : ∀ inner, a.find? name ≠ some (.folder inner))
    (h : ∀ other, name ≠ other → b.find? other = a.find? other) : FoldersIn a b := by
  intro q hq
  obtain ⟨found, hf⟩ := requireFolder_eq_ok_iff.mp hq
  refine requireFolder_eq_ok_iff.mpr ?_
  cases q with
  | nil => exact ⟨_, rfl⟩
  | cons m more =>
    by_cases hm : name = m
    · subst hm
      by_cases hmore : more = []
      · subst hmore
        exact absurd (locate_singleton.mp hf) (hn found)
      · obtain ⟨e, he⟩ := locate_cons_of_ne hn hmore
        simp [he] at hf
    · exact ⟨found, (locate_congr (h m hm) more).trans hf⟩

/-- The files of a folder in which one name stands for another file or for none. -/
theorem fileAt?_of_find? (held : Option Content)
    (hn : ∀ inner, a.find? name ≠ some (.folder inner))
    (hh : b.find? name = held.map .file)
    (h : ∀ other, name ≠ other → b.find? other = a.find? other) :
    b.fileAt? q = if q = [name] then held else a.fileAt? q := by
  cases q with
  | nil => rfl
  | cons m more =>
    by_cases hm : name = m
    · subst hm
      have hb (inner : Folder) : b.find? name ≠ some (.folder inner) := by
        rw [hh]
        cases held <;> simp
      by_cases hmore : more = []
      · subst hmore
        rw [if_pos rfl]
        cases held with
        | none => rw [fileAt?, locate, hh, Option.map_none]
        | some content =>
          rw [fileAt?_eq_some_iff, locate_singleton, hh, Option.map_some]
      · obtain ⟨e, he⟩ := locate_cons_of_ne hn hmore
        obtain ⟨e', he'⟩ := locate_cons_of_ne hb hmore
        rw [if_neg (by simpa using hmore), fileAt?, fileAt?, he, he']
    · rw [if_neg (by simp [Ne.symm hm]), fileAt?, fileAt?, locate_congr (h m hm)]

theorem fileAt?_put_empty (h : root.find? name = none) :
    (root.put name (.folder .empty)).fileAt? q = root.fileAt? q := by
  cases q with
  | nil => rfl
  | cons m more =>
    by_cases hm : name = m
    · subst hm
      rw [fileAt?, fileAt?, locate, locate, h, find?_put, if_pos rfl]
      cases more <;> rfl
    · have hput : (root.put name (.folder .empty)).find? m = root.find? m := by
        rw [find?_put, if_neg hm]
      rw [fileAt?, fileAt?, locate_congr hput]

-- ---------------------------------------------------------------------------
-- Putting and erasing at places
-- ---------------------------------------------------------------------------

theorem find?_ne_folder (hn : root.requireFolder (place ++ [name]) ≠ .ok ())
    (hi : root.locate place = .ok (.folder inner)) (next : Folder) :
    inner.find? name ≠ some (.folder next) := by
  intro hf
  refine hn (requireFolder_eq_ok_iff.mpr ⟨next, ?_⟩)
  rw [locate_append hi, locate_singleton, hf]

theorem foldersIn_putAt (hn : root.requireFolder (place ++ [name]) ≠ .ok ()) :
    FoldersIn root (putAt entry (place ++ [name]) root) := by
  rw [putAt_eq_within]
  refine foldersIn_within fun inner hi => foldersIn_of_find? (find?_ne_folder hn hi) ?_
  intro other ho
  rw [find?_put, if_neg ho]

theorem fileAt?_within_of_find? (held : Option Content)
    (hi : root.locate place = .ok (.folder inner))
    (hn : root.requireFolder (place ++ [name]) ≠ .ok ())
    (hh : (change inner).find? name = held.map .file)
    (ho : ∀ other, name ≠ other → (change inner).find? other = inner.find? other) :
    (within change place root).fileAt? q =
      if q = place ++ [name] then held else root.fileAt? q := by
  rcases inside_or_alikeAt root place q change with ⟨next, rest, rfl, hnext⟩ | ⟨hoff, halike⟩
  · rw [hi] at hnext
    cases hnext
    rw [fileAt?_within hi, fileAt?_append hi,
      fileAt?_of_find? held (find?_ne_folder hn hi) hh ho]
    simp
  · rw [halike.files, if_neg]
    rintro rfl
    exact hoff (List.prefix_append place [name]) inner hi

theorem fileAt?_putAt_file (h : root.requireFolder place = .ok ())
    (hn : root.requireFolder (place ++ [name]) ≠ .ok ()) :
    (putAt (.file content) (place ++ [name]) root).fileAt? q =
      if q = place ++ [name] then some content else root.fileAt? q := by
  obtain ⟨inner, hi⟩ := requireFolder_eq_ok_iff.mp h
  rw [putAt_eq_within]
  refine fileAt?_within_of_find? (some content) hi hn ?_ fun other ho => ?_
  · rw [find?_put, if_pos rfl, Option.map_some]
  · rw [find?_put, if_neg ho]

theorem fileAt?_putAt_empty (h : root.locate (place ++ [name]) = .error .notFound) :
    (putAt (.folder .empty) (place ++ [name]) root).fileAt? q = root.fileAt? q := by
  rw [putAt_eq_within]
  rcases inside_or_alikeAt root place q (·.put name (.folder .empty)) with
    ⟨inner, rest, rfl, hi⟩ | ⟨-, halike⟩
  · have hnone : inner.find? name = none := by
      rw [locate_append hi] at h
      cases hf : inner.find? name with
      | none => rfl
      | some found => simp [locate_singleton.mpr hf] at h
    rw [fileAt?_within hi, fileAt?_append hi, fileAt?_put_empty hnone]
  · exact halike.files

theorem WellFormed.putAt (hr : root.WellFormed) (he : entry.WellFormed name) :
    (Folder.putAt entry (place ++ [name]) root).WellFormed := by
  rw [putAt_eq_within]
  exact hr.within fun inner hi => hi.put he

theorem requireFolder_ne_of_fileAt? (h : root.fileAt? q = some content) :
    root.requireFolder q ≠ .ok () := by
  rw [requireFolder, fileAt?_eq_some_iff.mp h]
  simp

theorem WellFormed.eraseAt (hr : root.WellFormed) (place : Place) (name : String) :
    (Folder.eraseAt (place ++ [name]) root).WellFormed := by
  rw [eraseAt_eq_within]
  exact hr.within fun inner hi => hi.erase name

theorem WellFormed.fileAt?_eraseAt (hr : root.WellFormed)
    (h : root.fileAt? (place ++ [name]) = some content) :
    (Folder.eraseAt (place ++ [name]) root).fileAt? q =
      if q = place ++ [name] then none else root.fileAt? q := by
  obtain ⟨inner, hi, -⟩ := locate_of_locate_append_singleton (fileAt?_eq_some_iff.mp h)
  have hw := hr.of_locate hi
  rw [eraseAt_eq_within]
  refine fileAt?_within_of_find? none hi (requireFolder_ne_of_fileAt? h) ?_ fun other ho => ?_
  · rw [hw.find?_erase, if_pos rfl, Option.map_none]
  · rw [hw.find?_erase, if_neg ho]

theorem WellFormed.foldersIn_eraseAt (hr : root.WellFormed)
    (hn : root.requireFolder (place ++ [name]) ≠ .ok ()) :
    FoldersIn root (Folder.eraseAt (place ++ [name]) root) := by
  rw [eraseAt_eq_within]
  refine foldersIn_within fun inner hi => foldersIn_of_find? (find?_ne_folder hn hi) ?_
  intro other ho
  rw [(hr.of_locate hi).find?_erase, if_neg ho]

end SchemaCompiler.Folder
