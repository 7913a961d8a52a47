import Mathlib.Data.Finset.Card
import SchemaCompiler.Proofs.Relation.Reading
import SchemaCompiler.TagCache

/-!
# Runs of a tag cache

A cache answers every request as reading the text alone would, so it cannot be told
from no cache at all except by its counters. `run_of_empty` gives these for any run:
they depend on which texts were sent and which of them were refused, and neither on the
order of the requests nor on that of the maps in which their options are held.
-/

namespace SchemaCompiler

-- ---------------------------------------------------------------------------
-- Entries under texts
-- ---------------------------------------------------------------------------

/-- The entries are held under these texts, each once. -/
structure HeldUnder (texts : List String) (entries : List (String × α)) : Prop where
  distinct : (entries.map Prod.fst).Nodup
  mem_iff : ∀ raw, raw ∈ entries.map Prod.fst ↔ raw ∈ texts

namespace HeldUnder

variable {texts : List String} {entries : List (String × α)} {raw : String}

theorem empty : HeldUnder [] ([] : List (String × α)) :=
  ⟨List.nodup_nil, fun _ => Iff.rfl⟩

theorem mem_of_lookup (h : HeldUnder texts entries) (hl : entries.lookup raw = some value) :
    raw ∈ texts := by
  obtain ⟨before, after, rfl, -⟩ := List.lookup_eq_some_iff.mp hl
  exact (h.mem_iff raw).mp (by simp)

theorem again (h : HeldUnder texts entries) (hm : raw ∈ texts) :
    HeldUnder (texts ++ [raw]) entries := by
  refine ⟨h.distinct, fun other => (h.mem_iff other).trans ?_⟩
  rw [List.mem_append, List.mem_singleton, or_iff_left_of_imp]
  rintro rfl
  exact hm

theorem add (h : HeldUnder texts entries) (hl : entries.lookup raw = none) (value : α) :
    HeldUnder (texts ++ [raw]) ((raw, value) :: entries) := by
  have hnew : raw ∉ entries.map Prod.fst := by
    intro hm
    obtain ⟨⟨key, held⟩, he, rfl⟩ := List.mem_map.mp hm
    simpa using List.lookup_eq_none_iff.mp hl _ he
  refine ⟨List.nodup_cons.mpr ⟨hnew, h.distinct⟩, fun other => ?_⟩
  rw [List.map_cons, List.mem_cons, h.mem_iff, List.mem_append, List.mem_singleton, or_comm]

theorem length_eq (h : HeldUnder texts entries) : entries.length = texts.toFinset.card := by
  have hsame : (entries.map Prod.fst).toFinset = texts.toFinset := by
    ext raw
    simpa using h.mem_iff raw
  rw [← hsame, List.toFinset_card_of_nodup h.distinct, List.length_map]

end HeldUnder

-- ---------------------------------------------------------------------------
-- Requests
-- ---------------------------------------------------------------------------

/-- A text that is sent to a cache, to be read as a tag of one of the two kinds. If the text
is read, its options are held in a map with an order of its own. -/
inductive TagRequest where
  | attributes (raw : String)
  | relationship (raw : String) (order : MapOrder := .asGiven)

inductive TagAnswer where
  | attributes (attributes : Attributes)
  | relationship (outcome : Except RelationTagError Relationship)

def TagAnswer.isRefusal : TagAnswer → Bool
  | attributes _ => false
  | relationship outcome => !outcome.isOk

namespace TagRequest

def answer : TagRequest → TagAnswer
  | attributes raw => .attributes (.parse raw)
  | relationship raw order => .relationship (Relationship.parse raw order)

def attributeText? : TagRequest → Option String
  | attributes raw => some raw
  | relationship .. => none

def relationshipText? : TagRequest → Option String
  | attributes _ => none
  | relationship raw _ => some raw

def attributeTexts (requests : List TagRequest) : List String :=
  requests.filterMap attributeText?

/-- The texts sent as relationship tags that are read and not refused. -/
def readableTexts (requests : List TagRequest) : List String :=
  (requests.filterMap relationshipText?).filter fun raw => (Relationship.parse raw).isOk

def refusals (requests : List TagRequest) : Nat :=
  (requests.map answer).countP (·.isRefusal)

variable {history : List TagRequest} {raw : String} {order : MapOrder}

@[simp] theorem attributeTexts_concat_attributes :
    attributeTexts (history ++ [.attributes raw]) = attributeTexts history ++ [raw] := by
  simp [attributeTexts, attributeText?]

@[simp] theorem attributeTexts_concat_relationship :
    attributeTexts (history ++ [.relationship raw order]) = attributeTexts history := by
  simp [attributeTexts, attributeText?]

@[simp] theorem readableTexts_concat_attributes :
    readableTexts (history ++ [.attributes raw]) = readableTexts history := by
  simp [readableTexts, relationshipText?]

theorem readableTexts_concat_of_ok (h : Relationship.parse raw order = .ok value) :
    readableTexts (history ++ [.relationship raw order]) = readableTexts history ++ [raw] := by
  have hok : (Relationship.parse raw).isOk = true := by
    rw [Relationship.parse_ok_of_ok h .asGiven]
    rfl
  simp [readableTexts, relationshipText?, hok]

theorem readableTexts_concat_of_error (h : Relationship.parse raw order = .error e) :
    readableTexts (history ++ [.relationship raw order]) = readableTexts history := by
  have hok : (Relationship.parse raw).isOk = false := by
    rw [(Relationship.sameReading_parse raw .asGiven order).isOk_eq, h]
    rfl
  simp [readableTexts, relationshipText?, hok]

@[simp] theorem refusals_concat_attributes :
    refusals (history ++ [.attributes raw]) = refusals history := by
  simp [refusals, answer, TagAnswer.isRefusal]

theorem refusals_concat_of_ok (h : Relationship.parse raw order = .ok value) :
    refusals (history ++ [.relationship raw order]) = refusals history := by
  simp [refusals, answer, TagAnswer.isRefusal, h, Except.isOk, Except.toBool]

theorem refusals_concat_of_error (h : Relationship.parse raw order = .error e) :
    refusals (history ++ [.relationship raw order]) = refusals history + 1 := by
  simp [refusals, answer, TagAnswer.isRefusal, h, Except.isOk, Except.toBool]

end TagRequest

-- ---------------------------------------------------------------------------
-- Faithful answers
-- ---------------------------------------------------------------------------

namespace TagCache

open TagRequest

/-- Nothing is held but what the texts say. -/
structure Faithful (cache : TagCache) : Prop where
  attributes : ∀ raw attributes, cache.attributes.lookup raw = some attributes →
    Attributes.parse raw = attributes
  relationships : ∀ raw relationship, cache.relationships.lookup raw = some relationship →
    Relationship.parse raw = .ok relationship

variable {cache : TagCache} {raw : String}

theorem faithful_empty : Faithful {} := ⟨by simp, by simp⟩

theorem Faithful.readAttributes (h : cache.Faithful) (raw : String) :
    ∃ next, cache.readAttributes raw = (.parse raw, next) ∧ next.Faithful := by
  unfold TagCache.readAttributes
  split
  · rename_i attributes hl
    rw [h.attributes raw attributes hl]
    exact ⟨_, rfl, h.attributes, h.relationships⟩
  · refine ⟨_, rfl, fun other attributes hl => ?_, h.relationships⟩
    rw [List.lookup_cons] at hl
    split at hl
    · rename_i he
      rw [beq_iff_eq.mp he]
      exact Option.some.inj hl
    · exact h.attributes other attributes hl

theorem Faithful.readRelationship (h : cache.Faithful) (raw : String) (order : MapOrder) :
    ∃ next, cache.readRelationship raw order = (Relationship.parse raw order, next) ∧
      next.Faithful := by
  unfold TagCache.readRelationship
  split
  · rename_i relationship hl
    rw [Relationship.parse_ok_of_ok (h.relationships raw relationship hl) order]
    exact ⟨_, rfl, h.attributes, h.relationships⟩
  · cases hp : Relationship.parse raw order with
    | error e => exact ⟨_, rfl, h.attributes, h.relationships⟩
    | ok relationship =>
      refine ⟨_, rfl, h.attributes, fun other held hl => ?_⟩
      rw [List.lookup_cons] at hl
      split at hl
      · rename_i he
        rw [beq_iff_eq.mp he, Relationship.parse_ok_of_ok hp .asGiven, Option.some.inj hl]
      · exact h.relationships other held hl

-- ---------------------------------------------------------------------------
-- Counters
-- ---------------------------------------------------------------------------

/-- What a cache holds and counts after a history of requests. -/
structure Tallies (cache : TagCache) (history : List TagRequest) : Prop where
  faithful : cache.Faithful
  attributes : HeldUnder (attributeTexts history) cache.attributes
  relationships : HeldUnder (readableTexts history) cache.relationships
  calls : cache.hits + cache.misses = history.length
  misses : cache.misses = cache.size + refusals history

variable {history : List TagRequest}

theorem tallies_empty : Tallies {} [] :=
  ⟨faithful_empty, .empty, .empty, rfl, rfl⟩

theorem calls_of_readAttributes {next : TagCache} {attributes : Attributes}
    (h : cache.readAttributes raw = (attributes, next)) :
    next.hits + next.misses = cache.hits + cache.misses + 1 := by
  unfold TagCache.readAttributes at h
  split at h <;> cases h
  · exact Nat.add_right_comm ..
  · rfl

theorem calls_of_readRelationship {next : TagCache} {order : MapOrder}
    {outcome : Except RelationTagError Relationship}
    (h : cache.readRelationship raw order = (outcome, next)) :
    next.hits + next.misses = cache.hits + cache.misses + 1 := by
  unfold TagCache.readRelationship at h
  split at h
  · cases h
    exact Nat.add_right_comm ..
  · split at h <;> cases h <;> rfl

theorem Tallies.readAttributes (h : cache.Tallies history) (raw : String) :
    ∃ next, cache.readAttributes raw = (.parse raw, next) ∧
      next.Tallies (history ++ [.attributes raw]) := by
  obtain ⟨next, hread, hfaithful⟩ := h.faithful.readAttributes raw
  have hcalls : next.hits + next.misses = (history ++ [TagRequest.attributes raw]).length := by
    rw [calls_of_readAttributes hread, h.calls, List.length_append, List.length_singleton]
  refine ⟨next, hread, ?_⟩
  have hmisses := h.misses
  cases hl : cache.attributes.lookup raw with
  | some held =>
    simp only [TagCache.readAttributes, hl, Prod.mk.injEq] at hread
    obtain ⟨-, rfl⟩ := hread
    have hagain := h.attributes.again (h.attributes.mem_of_lookup hl)
    refine ⟨hfaithful, by simpa using hagain, by simpa using h.relationships, hcalls, ?_⟩
    rw [refusals_concat_attributes]
    exact hmisses
  | none =>
    simp only [TagCache.readAttributes, hl, Prod.mk.injEq, true_and] at hread
    subst hread
    have hadd := h.attributes.add hl (.parse raw)
    refine ⟨hfaithful, by simpa using hadd, by simpa using h.relationships, hcalls, ?_⟩
    simp only [refusals_concat_attributes, size, List.length_cons] at hmisses ⊢
    omega

theorem Tallies.readRelationship (h : cache.Tallies history) (raw : String) (order : MapOrder) :
    ∃ next, cache.readRelationship raw order = (Relationship.parse raw order, next) ∧
      next.Tallies (history ++ [.relationship raw order]) := by
  obtain ⟨next, hread, hfaithful⟩ := h.faithful.readRelationship raw order
  have hcalls :
      next.hits + next.misses = (history ++ [TagRequest.relationship raw order]).length := by
    rw [calls_of_readRelationship hread, h.calls, List.length_append, List.length_singleton]
  refine ⟨next, hread, ?_⟩
  have hmisses := h.misses
  cases hl : cache.relationships.lookup raw with
  | some held =>
    simp only [TagCache.readRelationship, hl, Prod.mk.injEq] at hread
    obtain ⟨hp, rfl⟩ := hread
    have hagain := h.relationships.again (h.relationships.mem_of_lookup hl)
    refine ⟨hfaithful, by simpa using h.attributes, ?_, hcalls, ?_⟩
    · rwa [readableTexts_concat_of_ok hp.symm]
    · rw [refusals_concat_of_ok hp.symm]
      exact hmisses
  | none =>
    cases hp : Relationship.parse raw order with
    | error e =>
      simp only [TagCache.readRelationship, hl, hp, Prod.mk.injEq, true_and] at hread
      subst hread
      refine ⟨hfaithful, by simpa using h.attributes, ?_, hcalls, ?_⟩
      · rw [readableTexts_concat_of_error hp]
        exact h.relationships
      · simp only [refusals_concat_of_error hp, size] at hmisses ⊢
        omega
    | ok relationship =>
      simp only [TagCache.readRelationship, hl, hp, Prod.mk.injEq, true_and] at hread
      subst hread
      have hadd := h.relationships.add hl relationship
      refine ⟨hfaithful, by simpa using h.attributes, ?_, hcalls, ?_⟩
      · rwa [readableTexts_concat_of_ok hp]
      · simp only [refusals_concat_of_ok hp, size, List.length_cons] at hmisses ⊢
        omega

-- ---------------------------------------------------------------------------
-- Runs
-- ---------------------------------------------------------------------------

def answer (cache : TagCache) : TagRequest → TagAnswer × TagCache
  | .attributes raw =>
    let (attributes, next) := cache.readAttributes raw
    (.attributes attributes, next)
  | .relationship raw order =>
    let (outcome, next) := cache.readRelationship raw order
    (.relationship outcome, next)

/-- The answers to requests in turn, and the cache after them. -/
def run (cache : TagCache) : List TagRequest → List TagAnswer × TagCache
  | [] => ([], cache)
  | request :: rest =>
    let (answer, next) := cache.answer request
    let (answers, last) := next.run rest
    (answer :: answers, last)

/-- A cache that has answered these requests and no others. -/
def after (requests : List TagRequest) : TagCache :=
  (({} : TagCache).run requests).2

theorem Tallies.answer (h : cache.Tallies history) (request : TagRequest) :
    ∃ next, cache.answer request = (request.answer, next) ∧
      next.Tallies (history ++ [request]) := by
  cases request with
  | attributes raw =>
    obtain ⟨next, hread, hnext⟩ := h.readAttributes raw
    exact ⟨next, by simp [TagCache.answer, TagRequest.answer, hread], hnext⟩
  | relationship raw order =>
    obtain ⟨next, hread, hnext⟩ := h.readRelationship raw order
    exact ⟨next, by simp [TagCache.answer, TagRequest.answer, hread], hnext⟩

theorem Tallies.run (h : cache.Tallies history) (requests : List TagRequest) :
    ∃ last, cache.run requests = (requests.map TagRequest.answer, last) ∧
      last.Tallies (history ++ requests) := by
  induction requests generalizing cache history with
  | nil => exact ⟨cache, rfl, by rwa [List.append_nil]⟩
  | cons request rest ih =>
    obtain ⟨next, hanswer, hnext⟩ := h.answer request
    obtain ⟨last, hrest, hlast⟩ := ih hnext
    refine ⟨last, ?_, by rwa [List.append_assoc] at hlast⟩
    rw [TagCache.run, hanswer, List.map_cons]
    simp only [hrest]

theorem tallies_after (requests : List TagRequest) : (after requests).Tallies requests := by
  obtain ⟨last, hrun, hlast⟩ := tallies_empty.run requests
  rwa [after, hrun]

/-- Whatever is sent to a new cache, the answers are those of the texts alone. Another order
of the options gives no other answer, but that of several options which do not apply it may
refuse another one. The cache holds every text once that was read, and counts a hit or a miss
for every request: a miss for every text that it holds and for every refusal. -/
theorem run_of_empty (requests : List TagRequest) :
    (({} : TagCache).run requests).1 = requests.map TagRequest.answer ∧
      (∀ raw order other, Relationship.SameReading raw
        (Relationship.parse raw order) (Relationship.parse raw other)) ∧
      (after requests).hits + (after requests).misses = requests.length ∧
      (after requests).size =
        (attributeTexts requests).toFinset.card + (readableTexts requests).toFinset.card ∧
      (after requests).misses = (after requests).size + refusals requests := by
  obtain ⟨last, hrun, -⟩ := tallies_empty.run requests
  have htallies := tallies_after requests
  refine ⟨by rw [hrun], Relationship.sameReading_parse, htallies.calls, ?_, htallies.misses⟩
  rw [size, htallies.attributes.length_eq, htallies.relationships.length_eq]

-- A refused text is read anew each time, and what is held for one kind is no hit for the other.
example :
    let cache := after [.attributes "x", .relationship "x", .relationship "x", .attributes "x"]
    (cache.hits, cache.misses, cache.size) = (1, 3, 1) := by decide +kernel

end TagCache

end SchemaCompiler
