import Mathlib.Data.List.Nodup
import SchemaCompiler.Proofs.Model.Build

/-!
# Constraints of entities

The constraints of an entity by their kind. Those of a column's tag come before those
of the table's tag, and a constraint says which column it is of.
-/

namespace SchemaCompiler

open Sql

-- ---------------------------------------------------------------------------
-- Constraints of one kind
-- ---------------------------------------------------------------------------

namespace Constraint

def check? : Constraint → Option (Option String × String)
  | ⟨_, .check column expression⟩ => some (column, expression)
  | _ => none

def reference? (column : String) : Constraint → Option ForeignKey
  | ⟨_, .foreignKey owner reference⟩ => if owner = column then some reference else none
  | _ => none

def enumeration? (column : String) : Constraint → Option (List String)
  | ⟨_, .enumeration owner values⟩ => if owner = column then some values else none
  | _ => none

variable {name owner column : String} {reference : ForeignKey} {values : List String}

@[simp] theorem check?_foreignKey : check? ⟨name, .foreignKey owner reference⟩ = none := rfl

@[simp] theorem check?_enumeration : check? ⟨name, .enumeration owner values⟩ = none := rfl

@[simp] theorem reference?_foreignKey :
    reference? column ⟨name, .foreignKey owner reference⟩ =
      if owner = column then some reference else none := rfl

@[simp] theorem reference?_enumeration :
    reference? column ⟨name, .enumeration owner values⟩ = none := rfl

@[simp] theorem enumeration?_foreignKey :
    enumeration? column ⟨name, .foreignKey owner reference⟩ = none := rfl

@[simp] theorem enumeration?_enumeration :
    enumeration? column ⟨name, .enumeration owner values⟩ =
      if owner = column then some values else none := rfl

end Constraint

namespace Entity

def checks (entity : Entity) : List (Option String × String) :=
  entity.constraints.filterMap Constraint.check?

def references (entity : Entity) (column : String) : List ForeignKey :=
  entity.constraints.filterMap (·.reference? column)

def enumerations (entity : Entity) (column : String) : List (List String) :=
  entity.constraints.filterMap (·.enumeration? column)

end Entity

-- ---------------------------------------------------------------------------
-- Constraints of one tag
-- ---------------------------------------------------------------------------

section

variable {base table name : String} {owner : Option String} {attributes : Attributes}
  {column : Column}

theorem filterMap_checks {β : Type} {view : Constraint → Option β} {read : String → Option β}
    (h : ∀ name expression, view ⟨name, .check owner expression⟩ = read expression) :
    (checks base owner attributes).filterMap view =
      (attributes.values "check").filterMap read := by
  rw [checks, List.filterMap_map]
  conv => rhs; rw [← List.zipIdx_map_fst 0 (attributes.values "check"), List.filterMap_map]
  refine List.filterMap_congr fun entry _ => ?_
  exact h _ entry.1

@[simp] theorem check?_checks :
    (checks base owner attributes).filterMap Constraint.check? =
      (attributes.values "check").map fun expression => (owner, expression) := by
  rw [filterMap_checks fun _ _ => rfl, List.filterMap_eq_map']

@[simp] theorem reference?_checks :
    (checks base owner attributes).filterMap (·.reference? name) = [] := by
  rw [filterMap_checks fun _ _ => rfl]
  simp

@[simp] theorem enumeration?_checks :
    (checks base owner attributes).filterMap (·.enumeration? name) = [] := by
  rw [filterMap_checks fun _ _ => rfl]
  simp

theorem check?_constraints :
    (column.constraints table).filterMap Constraint.check? =
      (column.attributes.values "check").map fun expression => (some column.name, expression) := by
  rw [Column.constraints, List.filterMap_append, List.filterMap_append, check?_checks]
  simp

theorem reference?_constraints :
    (column.constraints table).filterMap (·.reference? name) =
      if column.name = name then column.foreignKey.toList else [] := by
  rw [Column.constraints, List.filterMap_append, List.filterMap_append, reference?_checks]
  by_cases hn : column.name = name <;> cases column.foreignKey <;> simp [hn]

theorem enumeration?_constraints :
    (column.constraints table).filterMap (·.enumeration? name) =
      if column.name = name then
        ((column.attributes.value? "enum").bind (enumValues · |>.toOption)).toList
      else [] := by
  rw [Column.constraints, List.filterMap_append, List.filterMap_append, enumeration?_checks]
  by_cases hn : column.name = name <;>
    cases (column.attributes.value? "enum").bind (enumValues · |>.toOption) <;> simp [hn]

end

-- ---------------------------------------------------------------------------
-- Constraints of an entity
-- ---------------------------------------------------------------------------

theorem flatMap_eq_of_key {κ : Type} {key : α → κ} {f : α → List β} {l : List α} {a : α}
    (hn : (l.map key).Nodup) (ha : a ∈ l) (hf : ∀ b ∈ l, key b ≠ key a → f b = []) :
    l.flatMap f = f a := by
  induction l with
  | nil => cases ha
  | cons b rest ih =>
    rw [List.map_cons, List.nodup_cons] at hn
    rw [List.flatMap_cons]
    rcases List.mem_cons.mp ha with rfl | ha
    · have hrest : rest.flatMap f = [] := by
        rw [List.flatMap_eq_nil_iff]
        intro b hb
        refine hf b (List.mem_cons_of_mem _ hb) ?_
        intro he
        exact hn.1 (he ▸ List.mem_map_of_mem hb)
      rw [hrest, List.append_nil]
    · have hb : f b = [] := by
        refine hf b List.mem_cons_self ?_
        intro he
        exact hn.1 (he ▸ List.mem_map_of_mem ha)
      rw [hb, List.nil_append]
      exact ih hn.2 ha fun c hc => hf c (List.mem_cons_of_mem _ hc)

namespace Entity.Assembled

variable {entity : Entity} {column : Column}

theorem constraints (h : entity.Assembled) :
    entity.constraints = entity.columns.flatMap (·.constraints entity.table) ++
      SchemaCompiler.checks entity.table none entity.attributes := by
  obtain ⟨declaration, attributes, fields, rfl⟩ := h
  rfl

theorem checks (h : entity.Assembled) :
    entity.checks =
      (entity.columns.flatMap fun column =>
        (column.attributes.values "check").map fun expression =>
          (some column.name, expression)) ++
      (entity.attributes.values "check").map fun expression => (none, expression) := by
  rw [Entity.checks, h.constraints, List.filterMap_append, List.filterMap_flatMap,
    check?_checks]
  simp only [check?_constraints]

theorem references (h : entity.Assembled) (hn : entity.columnNames.Nodup)
    (hc : column ∈ entity.columns) :
    entity.references column.name = column.foreignKey.toList := by
  rw [Entity.references, h.constraints, List.filterMap_append, List.filterMap_flatMap,
    reference?_checks, List.append_nil]
  simp only [reference?_constraints]
  rw [flatMap_eq_of_key hn hc fun other _ hne => if_neg hne, if_pos rfl]

theorem enumerations (h : entity.Assembled) (hn : entity.columnNames.Nodup)
    (hc : column ∈ entity.columns) :
    entity.enumerations column.name =
      ((column.attributes.value? "enum").bind (enumValues · |>.toOption)).toList := by
  rw [Entity.enumerations, h.constraints, List.filterMap_append, List.filterMap_flatMap,
    enumeration?_checks, List.append_nil]
  simp only [enumeration?_constraints]
  rw [flatMap_eq_of_key hn hc fun other _ hne => if_neg hne, if_pos rfl]

theorem mem_columnNames_of_enumeration (h : entity.Assembled) {name owner : String}
    {values : List String} (hc : ⟨name, .enumeration owner values⟩ ∈ entity.constraints) :
    owner ∈ entity.columnNames := by
  have hv : values ∈ entity.enumerations owner := List.mem_filterMap.mpr ⟨_, hc, by simp⟩
  rw [Entity.enumerations, h.constraints, List.filterMap_append, List.filterMap_flatMap,
    enumeration?_checks, List.append_nil] at hv
  obtain ⟨column, hm, hv⟩ := List.mem_flatMap.mp hv
  rw [enumeration?_constraints] at hv
  split at hv
  · rename_i hn
    exact List.mem_map.mpr ⟨column, hm, hn⟩
  · cases hv

end Entity.Assembled

end SchemaCompiler
