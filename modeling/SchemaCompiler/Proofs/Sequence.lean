import Mathlib.Data.List.Forall2

/-!
# Steps that may fail

What it takes for a sequence of steps to give a result, and for it to fail. What is found
in a list of pairs is a member of it.
-/

namespace SchemaCompiler

theorem mem_of_lookup_eq_some [BEq α] [LawfulBEq α] {entries : List (α × β)} {key : α} {value : β}
    (h : entries.lookup key = some value) : (key, value) ∈ entries := by
  obtain ⟨before, after, he, -⟩ := List.lookup_eq_some_iff.mp h
  simp [he]

theorem bind_ok_iff {x : Except ε α} {f : α → Except ε β} :
    x >>= f = .ok b ↔ ∃ a, x = .ok a ∧ f a = .ok b := by
  cases x <;> simp [bind, Except.bind]

theorem pure_ok_iff : (pure a : Except ε α) = .ok b ↔ a = b := by
  simp [pure, Except.pure]

theorem throw_ne_ok : (throw e : Except ε α) ≠ .ok a := by
  simp [throw, throwThe, MonadExceptOf.throw]

theorem mapError_ok_iff {x : Except ε α} {f : ε → δ} : x.mapError f = .ok a ↔ x = .ok a := by
  cases x <;> simp [Except.mapError]

theorem map_ok_iff {x : Except ε α} {f : α → β} : f <$> x = .ok b ↔ ∃ a, x = .ok a ∧ f a = b := by
  cases x <;> simp [Functor.map, Except.map]

theorem map_error_iff {x : Except ε α} {f : α → β} : f <$> x = .error e ↔ x = .error e := by
  cases x <;> simp [Functor.map, Except.map]

theorem ok_of_any {x : Except ε α} {p : α → Bool} (h : x.toOption.any p = true) :
    ∃ a, x = .ok a ∧ p a = true := by
  cases x with
  | error e => simp [Except.toOption] at h
  | ok a => exact ⟨a, rfl, by simpa [Except.toOption] using h⟩

theorem mapM_ok_iff {f : α → Except ε β} {l : List α} {results : List β} :
    l.mapM f = .ok results ↔ List.Forall₂ (fun a b => f a = .ok b) l results := by
  induction l generalizing results with
  | nil => cases results <;> simp [pure, Except.pure]
  | cons a rest ih =>
    simp only [List.mapM_cons, bind_ok_iff, pure_ok_iff, ih]
    constructor
    · rintro ⟨b, hb, more, hm, rfl⟩
      exact .cons hb hm
    · rintro (_ | ⟨hb, hm⟩)
      exact ⟨_, hb, _, hm, rfl⟩

theorem mapM_map_congr {f : α → β} {g : β → Except ε γ} {g' : α → Except ε γ} {l : List α}
    (h : ∀ a ∈ l, g (f a) = g' a) : (l.map f).mapM g = l.mapM g' := by
  induction l with
  | nil => rfl
  | cons a rest ih =>
    obtain ⟨ha, hrest⟩ := List.forall_mem_cons.mp h
    rw [List.map_cons, List.mapM_cons, List.mapM_cons, ha, ih hrest]

theorem filterMap_of_mapM {f : α → Except ε β} {l : List α} {results : List β}
    (h : l.mapM f = .ok results) : l.filterMap (f · |>.toOption) = results := by
  have hall := mapM_ok_iff.mp h
  clear h
  induction hall with
  | nil => rfl
  | cons hb _ ih =>
    rw [List.filterMap_cons_some (by rw [hb]; rfl), ih]

theorem map_of_mapM {f : α → Except ε β} {g : α → γ} {k : β → γ} {l : List α}
    {results : List β} (hm : l.mapM f = .ok results)
    (h : ∀ a ∈ l, ∀ b, f a = .ok b → k b = g a) : results.map k = l.map g := by
  have hall := mapM_ok_iff.mp hm
  clear hm
  induction hall with
  | nil => rfl
  | cons hb _ ih =>
    obtain ⟨ha, hrest⟩ := List.forall_mem_cons.mp h
    rw [List.map_cons, List.map_cons, ha _ hb, ih hrest]

theorem mapM_ok_iff_map {f : α → Except ε β} {p : α → Prop} {g : α → β}
    (h : ∀ a b, f a = .ok b ↔ p a ∧ b = g a) {l : List α} {results : List β} :
    l.mapM f = .ok results ↔ (∀ a ∈ l, p a) ∧ results = l.map g := by
  induction l generalizing results with
  | nil => simp [pure, Except.pure, eq_comm]
  | cons a rest ih =>
    simp only [List.mapM_cons, bind_ok_iff, pure_ok_iff, ih, h, List.forall_mem_cons]
    constructor
    · rintro ⟨_, ⟨ha, rfl⟩, _, ⟨hrest, rfl⟩, rfl⟩
      exact ⟨⟨ha, hrest⟩, rfl⟩
    · rintro ⟨⟨ha, hrest⟩, rfl⟩
      exact ⟨_, ⟨ha, rfl⟩, _, ⟨hrest, rfl⟩, rfl⟩

theorem mem_mapM_iff {f : α → Except ε β} {l : List α} {results : List β}
    (h : l.mapM f = .ok results) : b ∈ results ↔ ∃ a ∈ l, f a = .ok b := by
  rw [← filterMap_of_mapM h, List.mem_filterMap]
  refine exists_congr fun a => and_congr_right fun _ => ?_
  cases f a <;> simp [Except.toOption]

-- ---------------------------------------------------------------------------
-- The first step that fails
-- ---------------------------------------------------------------------------

theorem foldlM_error_iff {f : σ → α → Except ε σ} {l : List α} {s : σ} {e : ε} :
    l.foldlM f s = .error e ↔
      ∃ before a after t, l = before ++ a :: after ∧ before.foldlM f s = .ok t ∧
        f t a = .error e := by
  constructor
  · intro h
    induction l generalizing s with
    | nil => cases h
    | cons a rest ih =>
      cases ha : f s a with
      | error e' =>
        simp only [List.foldlM_cons, ha, bind, Except.bind, Except.error.injEq] at h
        exact ⟨[], a, rest, s, rfl, rfl, h ▸ ha⟩
      | ok next =>
        simp only [List.foldlM_cons, ha, bind, Except.bind] at h
        obtain ⟨before, b, after, t, rfl, hb, hf⟩ := ih h
        refine ⟨a :: before, b, after, t, rfl, ?_, hf⟩
        rw [List.foldlM_cons, ha]
        exact hb
  · rintro ⟨before, a, after, t, rfl, hb, ha⟩
    rw [List.foldlM_append, hb]
    simp [ha, bind, Except.bind]

theorem mapM_error_iff {f : α → Except ε β} {l : List α} {e : ε} :
    l.mapM f = .error e ↔
      ∃ before a after, l = before ++ a :: after ∧ (∀ b ∈ before, ∃ r, f b = .ok r) ∧
        f a = .error e := by
  constructor
  · intro h
    induction l with
    | nil => cases h
    | cons a rest ih =>
      cases ha : f a with
      | error e' =>
        simp only [List.mapM_cons, ha, bind, Except.bind, Except.error.injEq] at h
        exact ⟨[], a, rest, rfl, by simp, h ▸ ha⟩
      | ok r =>
        cases hr : rest.mapM f with
        | ok rs => simp [ha, hr, bind, Except.bind, pure, Except.pure] at h
        | error e' =>
          simp only [List.mapM_cons, ha, hr, bind, Except.bind, Except.error.injEq] at h
          obtain ⟨before, b, after, rfl, hb, hf⟩ := ih (h ▸ hr)
          exact ⟨a :: before, b, after, rfl, List.forall_mem_cons.mpr ⟨⟨r, ha⟩, hb⟩, hf⟩
  · rintro ⟨before, a, after, rfl, hb, ha⟩
    induction before with
    | nil => simp [ha, bind, Except.bind]
    | cons b before ih =>
      obtain ⟨⟨r, hr⟩, hb⟩ := List.forall_mem_cons.mp hb
      simp [hr, ih hb, bind, Except.bind]

-- ---------------------------------------------------------------------------
-- Failing
-- ---------------------------------------------------------------------------

def Fails (x : Except ε α) : Prop :=
  ∃ e, x = .error e

@[simp] theorem fails_ok : ¬ Fails (.ok a : Except ε α) := by
  simp [Fails]

@[simp] theorem fails_error : Fails (.error e : Except ε α) := by
  simp [Fails]

theorem not_fails_iff {x : Except ε α} : ¬ Fails x ↔ ∃ a, x = .ok a := by
  cases x <;> simp

@[simp] theorem fails_pure : ¬ Fails (pure a : Except ε α) := fails_ok

@[simp] theorem fails_throw : Fails (throw e : Except ε α) := fails_error

@[simp] theorem fails_map {x : Except ε α} {f : α → β} : Fails (f <$> x) ↔ Fails x := by
  cases x <;> simp [Functor.map, Except.map]

@[simp] theorem fails_mapError {x : Except ε α} {f : ε → δ} : Fails (x.mapError f) ↔ Fails x := by
  cases x <;> simp [Except.mapError]

theorem fails_bind {x : Except ε α} {f : α → Except ε β} :
    Fails (x >>= f) ↔ Fails x ∨ ∃ a, x = .ok a ∧ Fails (f a) := by
  cases x <;> simp [bind, Except.bind]

theorem fails_mapM {f : α → Except ε β} {l : List α} :
    Fails (l.mapM f) ↔ ∃ a ∈ l, Fails (f a) := by
  induction l with
  | nil => simp
  | cons a rest ih =>
    simp only [List.mapM_cons, fails_bind, fails_pure, ih, List.mem_cons, exists_eq_or_imp]
    cases f a <;> simp

theorem exists_mapM_iff {f : α → Except ε β} {l : List α} :
    (∃ results, l.mapM f = .ok results) ↔ ∀ a ∈ l, ∃ b, f a = .ok b := by
  simp only [← not_fails_iff, fails_mapM, not_exists, not_and]

end SchemaCompiler
