import NodeAgent.Foundation.JsonRoundTrip
import Mathlib.Data.List.Sort

/-!
# Sorted JSON text

With `sort_keys=True` the fields of every object are written in the order of
their names.  What stands at a place of the value stays there.
-/

namespace JsonText

open Effectful

variable {F : Type} {floats : Floats F}

/-- `sorted(fields.items())`, of fields with different names. -/
def sortedByName (fields : List (String × Value F)) : List (String × Value F) :=
  fields.insertionSort fun field field' => field.1 ≤ field'.1

mutual

/-- The value as it is written with sorted keys. -/
def Value.sortKeys : Value F → Value F
  | .arr items => .arr (sortItems items)
  | .obj fields => .obj (sortedByName (sortFields fields))
  | v => v

def sortItems : List (Value F) → List (Value F)
  | [] => []
  | v :: rest => v.sortKeys :: sortItems rest

def sortFields : List (String × Value F) → List (String × Value F)
  | [] => []
  | (k, v) :: rest => (k, v.sortKeys) :: sortFields rest

end

theorem sortItems_eq (items : List (Value F)) :
    sortItems items = items.map Value.sortKeys := by
  induction items with
  | nil => rfl
  | cons v items ih => rw [sortItems, ih, List.map_cons]

theorem sortFields_eq (fields : List (String × Value F)) :
    sortFields fields =
      fields.map fun field => (field.1, field.2.sortKeys) := by
  induction fields with
  | nil => rfl
  | cons field fields ih => rw [sortFields, ih, List.map_cons]

theorem properFields_iff {fields : List (String × Value F)} :
    ProperFields fields ↔ ∀ field ∈ fields, field.2.Proper := by
  induction fields with
  | nil => exact iff_of_true trivial nofun
  | cons field fields ih => rw [ProperFields, ih, List.forall_mem_cons]

theorem keys_sorted (fields : List (String × Value F)) :
    ((sortedByName (sortFields fields)).map Prod.fst).Perm
      (fields.map Prod.fst) := by
  have hperm := (List.perm_insertionSort (fun field field' =>
    field.1 ≤ field'.1) (sortFields fields)).map Prod.fst
  refine hperm.trans (.of_eq ?_)
  rw [sortFields_eq, List.map_map]
  rfl

mutual

theorem Value.Proper.sortKeys : {v : Value F} → v.Proper → v.sortKeys.Proper
  | .null, _ | .bool _, _ | .int _, _ | .float _, _ | .nan, _
  | .infinity _, _ | .str _, _ => trivial
  | .arr items, h => ProperItems.sorted items h
  | .obj fields, h => by
      refine ⟨(keys_sorted fields).nodup_iff.mpr h.1, ?_⟩
      have hfields := properFields_iff.mp (ProperFields.sorted fields h.2)
      exact properFields_iff.mpr fun field hmem =>
        hfields field ((List.mem_insertionSort _).mp hmem)

theorem ProperItems.sorted : (items : List (Value F)) → ProperItems items →
    ProperItems (sortItems items)
  | [], _ => trivial
  | _ :: rest, h => ⟨h.1.sortKeys, ProperItems.sorted rest h.2⟩

theorem ProperFields.sorted : (fields : List (String × Value F)) →
    ProperFields fields → ProperFields (sortFields fields)
  | [], _ => trivial
  | (_, _) :: rest, h => ⟨h.1.sortKeys, ProperFields.sorted rest h.2⟩

end

/-! ## Places -/

inductive Place where
  | key (key : String)
  | index (position : Nat)
  deriving DecidableEq, Repr

namespace Value

def child : Value F → Place → Option (Value F)
  | .arr items, .index position => items[position]?
  | .obj fields, .key key => Dict.lookupIn key fields
  | _, _ => none

/-- What stands at a place of the value. -/
def get? (v : Value F) : List Place → Option (Value F)
  | [] => some v
  | place :: path => (v.child place).bind fun inner => inner.get? path

end Value

theorem mem_sorted {fields : List (String × Value F)} {key : String}
    {v : Value F} :
    (key, v) ∈ sortedByName (sortFields fields) ↔
      ∃ inner, (key, inner) ∈ fields ∧ inner.sortKeys = v := by
  rw [sortedByName, List.mem_insertionSort, sortFields_eq, List.mem_map]
  constructor
  · rintro ⟨⟨_, inner⟩, hmem, heq⟩
    obtain ⟨rfl, rfl⟩ := Prod.mk.inj heq
    exact ⟨inner, hmem, rfl⟩
  · rintro ⟨inner, hmem, rfl⟩
    exact ⟨(key, inner), hmem, rfl⟩

theorem lookupIn_sorted {fields : List (String × Value F)}
    (h : (fields.map Prod.fst).Nodup) (key : String) :
    Dict.lookupIn key (sortedByName (sortFields fields)) =
      (Dict.lookupIn key fields).map Value.sortKeys := by
  have hsorted := (keys_sorted fields).nodup_iff.mpr h
  cases hkey : Dict.lookupIn key fields with
  | some inner =>
      exact Dict.lookupIn_of_mem hsorted
        (mem_sorted.mpr ⟨inner, Dict.mem_of_lookupIn hkey, rfl⟩)
  | none =>
      cases hfound : Dict.lookupIn key (sortedByName (sortFields fields)) with
      | none => rfl
      | some v =>
          obtain ⟨inner, hmem, -⟩ := mem_sorted.mp (Dict.mem_of_lookupIn hfound)
          rw [Dict.lookupIn_of_mem h hmem] at hkey
          cases hkey

theorem child_sortKeys {v : Value F} (h : v.Proper) (place : Place) :
    v.sortKeys.child place = (v.child place).map Value.sortKeys := by
  cases v with
  | arr items =>
      cases place with
      | key key => rfl
      | index position =>
          simp only [Value.sortKeys, Value.child, sortItems_eq,
            List.getElem?_map]
  | obj fields =>
      cases place with
      | key key => exact lookupIn_sorted h.1 key
      | index position => rfl
  | _ => cases place <;> rfl

theorem properItems_iff {items : List (Value F)} :
    ProperItems items ↔ ∀ v ∈ items, v.Proper := by
  induction items with
  | nil => exact iff_of_true trivial nofun
  | cons v items ih => rw [ProperItems, ih, List.forall_mem_cons]

theorem Value.Proper.child {v inner : Value F} {place : Place} (h : v.Proper)
    (hchild : v.child place = some inner) : inner.Proper := by
  cases v with
  | arr items =>
      cases place with
      | key key => cases hchild
      | index position =>
          exact properItems_iff.mp h _ (List.mem_of_getElem? hchild)
  | obj fields =>
      cases place with
      | key key =>
          exact properFields_iff.mp h.2 _ (Dict.mem_of_lookupIn hchild)
      | index position => cases hchild
  | _ => cases place <;> cases hchild

theorem get?_sortKeys {v : Value F} (h : v.Proper) (path : List Place) :
    v.sortKeys.get? path = (v.get? path).map Value.sortKeys := by
  induction path generalizing v with
  | nil => rfl
  | cons place path ih =>
      rw [Value.get?, Value.get?, child_sortKeys h]
      cases hchild : v.child place with
      | none => rfl
      | some inner => exact ih (h.child hchild)

end JsonText
