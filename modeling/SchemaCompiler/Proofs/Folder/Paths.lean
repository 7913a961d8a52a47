import SchemaCompiler.Proofs.Folder.Places
import SchemaCompiler.Proofs.Sequence
import SchemaCompiler.Proofs.Text.Split

/-!
# Paths of files

A file's path is the path of its directory and its name. It leads to the place with
that name in the directory's place, and it leads there as long as no folder goes away.
-/

namespace SchemaCompiler.Folder

open Text

variable {root a b : Folder} {place q : Place} {name path directory : String}

-- ---------------------------------------------------------------------------
-- Following pieces
-- ---------------------------------------------------------------------------

theorem follow_append (root : Folder) (place : Place) (first second : List String) :
    root.follow place (first ++ second) =
      root.follow place first >>= (root.follow · second) := by
  induction first generalizing place with
  | nil => rfl
  | cons piece rest ih =>
    rw [List.cons_append, follow, follow]
    cases root.requireFolder place with
    | error e => rfl
    | ok u => exact ih _

theorem FoldersIn.follow (h : FoldersIn a b) {steps : List String}
    (ha : a.follow place steps = .ok q) : b.follow place steps = .ok q := by
  induction steps generalizing place with
  | nil => exact ha
  | cons piece rest ih =>
    rw [Folder.follow, bind_ok_iff] at ha ⊢
    obtain ⟨u, hu, hr⟩ := ha
    exact ⟨u, h place hu, ih hr⟩

theorem FoldersIn.resolve (h : FoldersIn a b) (ha : a.resolve path = .ok q) :
    b.resolve path = .ok q := by
  unfold Folder.resolve at ha ⊢
  split at ha
  · cases ha
  · rename_i hp
    rw [if_neg hp]
    exact h.follow ha

-- ---------------------------------------------------------------------------
-- The pieces of a file's path
-- ---------------------------------------------------------------------------

theorem advance_fileName (h : IsFileName name) (place : Place) :
    advance place name = place ++ [name] := by
  rw [advance, if_neg (by simp [h.nonempty, h.notHere]), if_neg h.notAbove]

theorem isAbsolute_fileName (h : IsFileName name) : Path.isAbsolute name = false := by
  rw [Path.isAbsolute, beq_eq_false_iff_ne]
  exact fun hs => h.noSlash (List.mem_of_head? hs)

theorem toList_join (hd : directory ≠ "") (h : IsFileName name) :
    (Path.join directory name).toList = directory.toList ++ '/' :: name.toList ∨
      ∃ before, directory.toList = before ++ ['/'] ∧
        (Path.join directory name).toList = before ++ '/' :: name.toList := by
  rw [Path.join, isAbsolute_fileName h]
  split
  · rename_i ha
    cases ha
  · split
    · rename_i hl
      exact absurd (String.toList_eq_nil_iff.mp (List.getLast?_eq_none_iff.mp hl)) hd
    · rename_i hl
      obtain ⟨before, hb⟩ := List.getLast?_eq_some_iff.mp hl
      exact .inr ⟨before, hb, by simp [hb]⟩
    · exact .inl (by simp)

theorem join_ne_empty (hd : directory ≠ "") (h : IsFileName name) :
    Path.join directory name ≠ "" := by
  intro he
  rcases toList_join hd h with hj | ⟨before, -, hj⟩ <;> simp [he] at hj

theorem isAbsolute_join (hd : directory ≠ "") (h : IsFileName name) :
    Path.isAbsolute (Path.join directory name) = Path.isAbsolute directory := by
  obtain ⟨c, rest, hc⟩ := List.exists_cons_of_ne_nil (String.toList_eq_nil_iff.not.mpr hd)
  rw [Path.isAbsolute, Path.isAbsolute]
  rcases toList_join hd h with hj | ⟨before, hb, hj⟩
  · rw [hj, hc]
    rfl
  · rw [hj, hb]
    cases before <;> rfl

/-- A directory's pieces, the last one perhaps empty, are followed by the name. -/
theorem stepsOf_join (hd : directory ≠ "") (h : IsFileName name) :
    ∃ steps, stepsOf (Path.join directory name) = ((stepsOf directory).1, steps ++ [name]) ∧
      ((stepsOf directory).2 = steps ∨ (stepsOf directory).2 = steps ++ [""]) := by
  have hpieces : ∃ firsts : List (List Char), firsts ≠ [] ∧
      pieces '/' (Path.join directory name).toList = firsts ++ [name.toList] ∧
        (pieces '/' directory.toList = firsts ∨
          pieces '/' directory.toList = firsts ++ [[]]) := by
    rcases toList_join hd h with hj | ⟨before, hb, hj⟩
    · refine ⟨pieces '/' directory.toList, pieces_ne_nil, ?_, .inl rfl⟩
      rw [hj, pieces_append_cons, pieces_eq_singleton h.noSlash]
    · refine ⟨pieces '/' before, pieces_ne_nil, ?_, .inr ?_⟩
      · rw [hj, pieces_append_cons, pieces_eq_singleton h.noSlash]
      · rw [hb, pieces_append_cons]
        rfl
  obtain ⟨firsts, hf, hj, hdir⟩ := hpieces
  obtain ⟨first, more, rfl⟩ := List.exists_cons_of_ne_nil hf
  rw [stepsOf, stepsOf, isAbsolute_join hd h, hj]
  cases Path.isAbsolute directory with
  | true =>
    refine ⟨more.map .ofList, by simp, hdir.imp (fun he => ?_) (fun he => ?_)⟩ <;> simp [he]
  | false =>
    refine ⟨(first :: more).map .ofList, by simp, hdir.imp (fun he => ?_) (fun he => ?_)⟩ <;>
      simp [he]

-- ---------------------------------------------------------------------------
-- Paths of files
-- ---------------------------------------------------------------------------

theorem follow_append_singleton {steps : List String} {piece : String} :
    root.follow place (steps ++ [piece]) = .ok q ↔
      ∃ p, root.follow place steps = .ok p ∧ root.requireFolder p = .ok () ∧
        q = advance p piece := by
  rw [follow_append, bind_ok_iff]
  refine exists_congr fun p => and_congr_right fun _ => ?_
  simp only [follow, bind_ok_iff, Except.ok.injEq]
  constructor
  · rintro ⟨u, hu, rfl⟩
    exact ⟨hu, rfl⟩
  · rintro ⟨hu, rfl⟩
    exact ⟨(), hu, rfl⟩

theorem resolve_join_iff (hd : directory ≠ "") (h : IsFileName name) :
    root.resolve (Path.join directory name) = .ok q ↔
      ∃ place, root.resolve directory = .ok place ∧ root.requireFolder place = .ok () ∧
        q = place ++ [name] := by
  obtain ⟨steps, hj, hs⟩ := stepsOf_join hd h
  rw [resolve, if_neg (join_ne_empty hd h), resolve, if_neg hd, hj]
  simp only [follow_append_singleton, advance_fileName h]
  -- A directory with a slash at its end has an empty piece more, which leads nowhere.
  rcases hs with hs | hs
  · rw [hs]
  · simp only [hs, follow_append_singleton, advance, true_or, if_true]
    constructor
    · rintro ⟨p, hf, hp, rfl⟩
      exact ⟨p, ⟨p, hf, hp, rfl⟩, hp, rfl⟩
    · rintro ⟨_, ⟨p, hf, hp, rfl⟩, -, rfl⟩
      exact ⟨_, hf, hp, rfl⟩

theorem join_injective (hd : directory ≠ "") {other : String} (h : IsFileName name)
    (ho : IsFileName other) (he : Path.join directory name = Path.join directory other) :
    name = other := by
  obtain ⟨steps, hj, -⟩ := stepsOf_join hd h
  obtain ⟨steps', hj', -⟩ := stepsOf_join hd ho
  rw [he, hj', Prod.mk.injEq] at hj
  simpa using (List.append_inj' hj.2 rfl).2.symm

end SchemaCompiler.Folder
