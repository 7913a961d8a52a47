import Mathlib.Data.List.Lex
import Mathlib.Data.List.Sort

/-!
# Entries in the order of their keys

A list whose keys go up is known by its members. It is what comes before a key, what is
there and what comes after it.
-/

namespace SchemaCompiler

section

variable {κ α : Type} [LinearOrder κ] {entries others : List (κ × α)} {k : κ} {a : α}

theorem nodup_keys (h : entries.Pairwise (·.1 < ·.1)) : (entries.map (·.1)).Nodup :=
  List.pairwise_map.mpr (h.imp ne_of_lt)

theorem eq_of_keys (h : entries.Pairwise (·.1 < ·.1)) (ho : others.Pairwise (·.1 < ·.1))
    (hm : ∀ entry, entry ∈ entries ↔ entry ∈ others) : entries = others := by
  have hirrefl : Std.Irrefl fun first second : κ × α => first.1 < second.1 :=
    ⟨fun entry => lt_irrefl entry.1⟩
  have hantisymm : Std.Antisymm fun first second : κ × α => first.1 < second.1 :=
    ⟨fun _ _ hlt hgt => absurd hgt (lt_asymm hlt)⟩
  exact h.eq_of_mem_iff ho fun entry => hm entry

theorem filter_of_same_but (h : entries.Pairwise (·.1 < ·.1)) (ho : others.Pairwise (·.1 < ·.1))
    (hm : ∀ entry, entry.1 ≠ k → (entry ∈ entries ↔ entry ∈ others)) {p : κ × α → Bool}
    (hp : ∀ a, p (k, a) = false) : entries.filter p = others.filter p := by
  refine eq_of_keys (h.filter _) (ho.filter _) fun entry => ?_
  rw [List.mem_filter, List.mem_filter]
  refine and_congr_left fun he => hm entry ?_
  rintro rfl
  exact absurd he (by simp [hp])

theorem filter_key_of_mem [DecidableEq κ] (h : entries.Pairwise (·.1 < ·.1))
    (hm : (k, a) ∈ entries) : entries.filter (·.1 = k) = [(k, a)] := by
  refine eq_of_keys (h.filter _) (List.pairwise_singleton _ _) fun entry => ?_
  rw [List.mem_filter, List.mem_singleton, decide_eq_true_eq]
  constructor
  · rintro ⟨he, hk⟩
    exact List.inj_on_of_nodup_map (nodup_keys h) he hm hk
  · rintro rfl
    exact ⟨hm, rfl⟩

theorem split_at_key [DecidableLT κ] [DecidableEq κ] (h : entries.Pairwise (·.1 < ·.1)) (k : κ) :
    entries = entries.filter (·.1 < k) ++ entries.filter (·.1 = k) ++
      entries.filter (k < ·.1) := by
  -- Both sides are in order, so it is enough that they have the same members.
  refine eq_of_keys h ?_ fun entry => ?_
  · refine List.pairwise_append.mpr ⟨List.pairwise_append.mpr
      ⟨h.filter _, h.filter _, fun first hf second hs => ?_⟩,
      h.filter _, fun first hf second hs => ?_⟩
    · simp only [List.mem_filter, decide_eq_true_eq] at hf hs
      exact hf.2.trans_eq hs.2.symm
    · simp only [List.mem_append, List.mem_filter, decide_eq_true_eq] at hf hs
      rcases hf with ⟨-, hf⟩ | ⟨-, hf⟩
      · exact hf.trans hs.2
      · exact hf.trans_lt hs.2
  · simp only [List.mem_append, List.mem_filter, decide_eq_true_eq]
    constructor
    · intro hm
      rcases lt_trichotomy entry.1 k with hlt | he | hlt
      · exact .inl (.inl ⟨hm, hlt⟩)
      · exact .inl (.inr ⟨hm, he⟩)
      · exact .inr ⟨hm, hlt⟩
    · rintro ((⟨hm, -⟩ | ⟨hm, -⟩) | ⟨hm, -⟩) <;> exact hm

end

theorem filter_key_eq_nil {κ α : Type} [DecidableEq κ] {entries : List (κ × α)} {k : κ}
    (hm : ∀ a, (k, a) ∉ entries) : entries.filter (·.1 = k) = [] := by
  refine List.filter_eq_nil_iff.mpr ?_
  rintro ⟨key, a⟩ he hk
  rw [decide_eq_true_eq] at hk
  exact hm a (hk ▸ he)

end SchemaCompiler
