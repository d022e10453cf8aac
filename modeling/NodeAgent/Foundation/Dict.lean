import Mathlib.Data.List.Nodup
import Mathlib.Data.List.Basic

/-!
# Insertion-ordered dictionaries

Assigning to a key that is present keeps its position, assigning to a new key
appends it, and a key that is removed and assigned again moves to the end.  The
keys of a value are distinct by construction.
-/

namespace Effectful

@[ext] structure Dict (κ α : Type) where
  entries : List (κ × α)
  nodup : (entries.map Prod.fst).Nodup

namespace Dict

variable {κ α : Type}

def empty : Dict κ α := ⟨[], List.nodup_nil⟩

def values (d : Dict κ α) : List α := d.entries.map Prod.snd

variable [DecidableEq κ]

def lookupIn (k : κ) : List (κ × α) → Option α
  | [] => none
  | (k', v) :: rest => if k' = k then some v else lookupIn k rest

def assignIn (k : κ) (v : α) : List (κ × α) → List (κ × α)
  | [] => [(k, v)]
  | (k', v') :: rest =>
      if k' = k then (k, v) :: rest else (k', v') :: assignIn k v rest

theorem mem_of_lookupIn {k : κ} {v : α} {entries : List (κ × α)}
    (h : lookupIn k entries = some v) : (k, v) ∈ entries := by
  induction entries with
  | nil => simp [lookupIn] at h
  | cons entry rest ih =>
      obtain ⟨k', v'⟩ := entry
      by_cases hk : k' = k
      · simp only [lookupIn, hk, if_true, Option.some.injEq] at h
        simp [hk, h]
      · simp only [lookupIn, hk, if_false] at h
        exact List.mem_cons_of_mem _ (ih h)

theorem lookupIn_of_mem {k : κ} {v : α} {entries : List (κ × α)}
    (hnodup : (entries.map Prod.fst).Nodup) (h : (k, v) ∈ entries) :
    lookupIn k entries = some v := by
  induction entries with
  | nil => simp at h
  | cons entry rest ih =>
      obtain ⟨k', v'⟩ := entry
      simp only [List.map_cons, List.nodup_cons] at hnodup
      rcases List.mem_cons.mp h with hhead | htail
      · cases hhead
        simp [lookupIn]
      · have hk : k' ≠ k := by
          rintro rfl
          exact hnodup.1 (List.mem_map.mpr ⟨_, htail, rfl⟩)
        simp [lookupIn, hk, ih hnodup.2 htail]

theorem mem_keys_assignIn {k k' : κ} {v : α} {entries : List (κ × α)} :
    k' ∈ (assignIn k v entries).map Prod.fst ↔
      k' = k ∨ k' ∈ entries.map Prod.fst := by
  induction entries with
  | nil => simp [assignIn]
  | cons entry rest ih =>
      obtain ⟨k₀, v₀⟩ := entry
      by_cases h : k₀ = k
      · simp [assignIn, h]
      · simp only [assignIn, h, if_false, List.map_cons, List.mem_cons, ih]
        tauto

theorem nodup_assignIn {k : κ} {v : α} {entries : List (κ × α)}
    (h : (entries.map Prod.fst).Nodup) :
    ((assignIn k v entries).map Prod.fst).Nodup := by
  induction entries with
  | nil => simp [assignIn]
  | cons entry rest ih =>
      obtain ⟨k₀, v₀⟩ := entry
      simp only [List.map_cons, List.nodup_cons] at h
      by_cases hk : k₀ = k
      · subst hk
        simpa [assignIn] using h
      · simp only [assignIn, hk, if_false, List.map_cons, List.nodup_cons]
        exact ⟨fun hmem => (mem_keys_assignIn.mp hmem).elim hk h.1, ih h.2⟩

theorem assignIn_of_not_mem {k : κ} {v : α} {entries : List (κ × α)}
    (h : k ∉ entries.map Prod.fst) :
    assignIn k v entries = entries ++ [(k, v)] := by
  induction entries with
  | nil => rfl
  | cons entry rest ih =>
      obtain ⟨k₀, v₀⟩ := entry
      simp only [List.map_cons, List.mem_cons, not_or] at h
      simp [assignIn, Ne.symm h.1, ih h.2]

theorem lookupIn_assignIn {k k' : κ} {v : α} {entries : List (κ × α)} :
    lookupIn k' (assignIn k v entries) =
      if k = k' then some v else lookupIn k' entries := by
  induction entries with
  | nil => simp [assignIn, lookupIn]
  | cons entry rest ih =>
      obtain ⟨k₀, v₀⟩ := entry
      by_cases hk : k₀ = k
      · subst hk
        by_cases hk' : k₀ = k' <;> simp [assignIn, lookupIn, hk']
      · by_cases hk' : k₀ = k'
        · subst hk'
          simp [assignIn, lookupIn, hk, Ne.symm hk]
        · simp [assignIn, lookupIn, hk, hk', ih]

theorem lookupIn_filter {k k' : κ} {entries : List (κ × α)} :
    lookupIn k' (entries.filter fun entry => entry.1 ≠ k) =
      if k = k' then none else lookupIn k' entries := by
  induction entries with
  | nil => simp [lookupIn]
  | cons entry rest ih =>
      obtain ⟨k₀, v₀⟩ := entry
      by_cases hk : k₀ = k
      · subst hk
        by_cases hk' : k₀ = k'
        · simpa [hk'] using ih
        · simpa [lookupIn, hk'] using ih
      · by_cases hk' : k₀ = k'
        · subst hk'
          simp [lookupIn, hk, Ne.symm hk]
        · simpa [lookupIn, hk, hk'] using ih

def get? (d : Dict κ α) (k : κ) : Option α := lookupIn k d.entries

def insert (d : Dict κ α) (k : κ) (v : α) : Dict κ α :=
  ⟨assignIn k v d.entries, nodup_assignIn d.nodup⟩

def erase (d : Dict κ α) (k : κ) : Dict κ α :=
  ⟨d.entries.filter fun entry => entry.1 ≠ k,
    d.nodup.sublist (List.filter_sublist.map _)⟩

@[simp] theorem get?_empty (k : κ) : (empty : Dict κ α).get? k = none := rfl

theorem get?_insert (d : Dict κ α) (k k' : κ) (v : α) :
    (d.insert k v).get? k' = if k = k' then some v else d.get? k' :=
  lookupIn_assignIn

@[simp] theorem get?_insert_self (d : Dict κ α) (k : κ) (v : α) :
    (d.insert k v).get? k = some v := by
  simp [get?_insert]

@[simp] theorem get?_insert_of_ne (d : Dict κ α) {k k' : κ} (v : α)
    (h : k ≠ k') : (d.insert k v).get? k' = d.get? k' := by
  simp [get?_insert, h]

theorem insert_insert (d : Dict κ α) (k : κ) (v : α) :
    (d.insert k v).insert k v = d.insert k v := by
  have hentries : ∀ entries : List (κ × α),
      assignIn k v (assignIn k v entries) = assignIn k v entries := by
    intro entries
    induction entries with
    | nil => simp [assignIn]
    | cons entry rest ih =>
        obtain ⟨k', v'⟩ := entry
        by_cases hk : k' = k <;> simp [assignIn, hk, ih]
  simp only [insert, hentries]

theorem get?_erase (d : Dict κ α) (k k' : κ) :
    (d.erase k).get? k' = if k = k' then none else d.get? k' :=
  lookupIn_filter

@[simp] theorem get?_erase_self (d : Dict κ α) (k : κ) :
    (d.erase k).get? k = none := by
  simp [get?_erase]

@[simp] theorem get?_erase_of_ne (d : Dict κ α) {k k' : κ} (h : k ≠ k') :
    (d.erase k).get? k' = d.get? k' := by
  simp [get?_erase, h]

theorem erase_insert_of_none {d : Dict κ α} {k : κ} (v : α)
    (h : d.get? k = none) : (d.insert k v).erase k = d := by
  have hentries : ∀ entries : List (κ × α), lookupIn k entries = none →
      (assignIn k v entries).filter (fun entry => entry.1 ≠ k) = entries := by
    intro entries hnone
    induction entries with
    | nil => simp [assignIn]
    | cons entry rest ih =>
        obtain ⟨k', v'⟩ := entry
        by_cases hk : k' = k
        · simp [lookupIn, hk] at hnone
        · simp only [lookupIn, hk, if_false] at hnone
          simpa [assignIn, hk] using ih hnone
  have := hentries d.entries h
  simp only [erase, insert, this]

theorem mem_entries_iff {d : Dict κ α} {k : κ} {v : α} :
    (k, v) ∈ d.entries ↔ d.get? k = some v :=
  ⟨lookupIn_of_mem d.nodup, mem_of_lookupIn⟩

theorem mem_values_iff {d : Dict κ α} {v : α} :
    v ∈ d.values ↔ ∃ k, d.get? k = some v := by
  simp [values, ← mem_entries_iff]

theorem mem_entries_insert {d : Dict κ α} {k k' : κ} {v v' : α}
    (h : (k', v') ∈ (d.insert k v).entries) :
    (k' = k ∧ v' = v) ∨ (k', v') ∈ d.entries := by
  rw [mem_entries_iff, get?_insert] at h
  by_cases hk : k = k'
  · simp only [hk, if_true, Option.some.injEq] at h
    exact .inl ⟨hk.symm, h.symm⟩
  · simp only [hk, if_false] at h
    exact .inr (mem_entries_iff.mpr h)

theorem mem_entries_of_erase {d : Dict κ α} {k : κ} {entry : κ × α}
    (h : entry ∈ (d.erase k).entries) : entry ∈ d.entries :=
  (List.mem_filter.mp h).1

def filterKeys (keep : κ → Bool) (d : Dict κ α) : Dict κ α :=
  ⟨d.entries.filter fun entry => keep entry.1,
    d.nodup.sublist (List.filter_sublist.map _)⟩

theorem get?_filterKeys (keep : κ → Bool) (d : Dict κ α) (k : κ) :
    (d.filterKeys keep).get? k = if keep k then d.get? k else none := by
  have hentries : ∀ entries : List (κ × α),
      lookupIn k (entries.filter fun entry => keep entry.1) =
        if keep k then lookupIn k entries else none := by
    intro entries
    induction entries with
    | nil => simp [lookupIn]
    | cons entry rest ih =>
        obtain ⟨k', v⟩ := entry
        by_cases hk : k' = k
        · subst hk
          cases hkeep : keep k' <;> simp [lookupIn, hkeep, ih]
        · cases hkeep : keep k' <;> simp [lookupIn, hkeep, hk, ih]
  exact hentries d.entries

theorem get?_isSome_iff {d : Dict κ α} {k : κ} :
    (d.get? k).isSome ↔ k ∈ d.entries.map Prod.fst := by
  rw [Option.isSome_iff_exists, List.mem_map]
  constructor
  · rintro ⟨v, hv⟩
    exact ⟨(k, v), mem_entries_iff.mpr hv, rfl⟩
  · rintro ⟨⟨k', v⟩, hmem, rfl⟩
    exact ⟨v, mem_entries_iff.mp hmem⟩

section MapValues

variable {β : Type}

def mapValues (f : α → β) (d : Dict κ α) : Dict κ β where
  entries := d.entries.map fun entry => (entry.1, f entry.2)
  nodup := by simpa [Function.comp_def] using d.nodup

@[simp] theorem get?_mapValues (f : α → β) (d : Dict κ α) (k : κ) :
    (d.mapValues f).get? k = (d.get? k).map f := by
  have hentries : ∀ entries : List (κ × α),
      lookupIn k (entries.map fun entry => (entry.1, f entry.2)) =
        (lookupIn k entries).map f := by
    intro entries
    induction entries with
    | nil => rfl
    | cons entry rest ih =>
        obtain ⟨k', v⟩ := entry
        by_cases hk : k' = k <;> simp [lookupIn, hk, ih]
  exact hentries d.entries

theorem insert_mapValues (f : α → β) (d : Dict κ α) (k : κ) (v : α) :
    (d.mapValues f).insert k (f v) = (d.insert k v).mapValues f := by
  have hentries : ∀ entries : List (κ × α),
      assignIn k (f v) (entries.map fun entry => (entry.1, f entry.2)) =
        (assignIn k v entries).map fun entry => (entry.1, f entry.2) := by
    intro entries
    induction entries with
    | nil => rfl
    | cons entry rest ih =>
        obtain ⟨k', v'⟩ := entry
        by_cases hk : k' = k <;> simp [assignIn, hk, ih]
  simp only [insert, mapValues, hentries]

theorem erase_mapValues (f : α → β) (d : Dict κ α) (k : κ) :
    (d.mapValues f).erase k = (d.erase k).mapValues f := by
  simp only [erase, mapValues, List.filter_map, Function.comp_def]

end MapValues

end Dict

/-! ## Values stored under a key of their own -/

structure Table {κ α : Type} (key : α → κ) where
  dict : Dict κ α
  keyed : ∀ entry ∈ dict.entries, key entry.2 = entry.1

namespace Table

variable {κ α : Type} {key : α → κ}

def empty : Table key := ⟨.empty, by simp [Dict.empty]⟩

/-- The values in the order of their keys. -/
def snapshot (t : Table key) : List α := t.dict.values

variable [DecidableEq κ]

def get? (t : Table key) (k : κ) : Option α := t.dict.get? k

def upsert (t : Table key) (v : α) : Table key where
  dict := t.dict.insert (key v) v
  keyed := by
    rintro ⟨k, v'⟩ h
    rcases Dict.mem_entries_insert h with ⟨rfl, rfl⟩ | h
    · rfl
    · exact t.keyed _ h

def remove (t : Table key) (k : κ) : Table key where
  dict := t.dict.erase k
  keyed := fun entry h => t.keyed entry (Dict.mem_entries_of_erase h)

theorem key_of_get? {t : Table key} {k : κ} {v : α} (h : t.get? k = some v) :
    key v = k :=
  t.keyed _ (Dict.mem_entries_iff.mpr h)

@[simp] theorem get?_empty (k : κ) : (empty : Table key).get? k = none := rfl

theorem get?_upsert (t : Table key) (v : α) (k : κ) :
    (t.upsert v).get? k = if key v = k then some v else t.get? k :=
  Dict.get?_insert _ _ _ _

theorem get?_remove (t : Table key) (k k' : κ) :
    (t.remove k).get? k' = if k = k' then none else t.get? k' :=
  Dict.get?_erase _ _ _

theorem mem_snapshot_iff {t : Table key} {v : α} :
    v ∈ t.snapshot ↔ t.get? (key v) = some v := by
  rw [snapshot, Dict.mem_values_iff]
  constructor
  · rintro ⟨k, hk⟩
    have hkey : key v = k := key_of_get? (t := t) hk
    rw [hkey]
    exact hk
  · intro h
    exact ⟨_, h⟩

omit [DecidableEq κ] in
theorem snapshot_nodup (t : Table key) : (t.snapshot.map key).Nodup := by
  have hkeys : t.snapshot.map key = t.dict.entries.map Prod.fst := by
    rw [snapshot, Dict.values, List.map_map]
    exact List.map_congr_left fun entry h => t.keyed entry h
  rw [hkeys]
  exact t.dict.nodup

end Table

end Effectful
