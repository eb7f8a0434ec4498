import Mathlib.Data.List.Nodup
import SellerAgents.Js.Properties

namespace SellerAgents.Js

namespace Properties

variable {κ α : Type} [DecidableEq κ]

variable {object : Properties κ α} {value : α} {key : κ}

theorem get_eq_none (h : key ∉ object.map Prod.fst) :
    object.get key = none := by
  induction object with
  | nil => rfl
  | cons property rest ih =>
    obtain ⟨name, value⟩ := property
    rw [List.map_cons, List.mem_cons, not_or] at h
    rw [get, if_neg fun heq => h.1 heq.symm]
    exact ih h.2

theorem mem_keys_set {name : κ} (h : name ∈ (object.set key value).map Prod.fst) :
    name = key ∨ name ∈ object.map Prod.fst := by
  induction object with
  | nil => simpa [set] using h
  | cons property rest ih =>
    obtain ⟨first, old⟩ := property
    by_cases hfirst : first = key
    · rw [set, if_pos hfirst] at h
      exact .inr h
    · rw [set, if_neg hfirst, List.map_cons, List.mem_cons] at h
      rcases h with rfl | h
      · exact .inr List.mem_cons_self
      · exact (ih h).imp_right (List.mem_cons_of_mem _)

theorem nodup_set (h : (object.map Prod.fst).Nodup) :
    ((object.set key value).map Prod.fst).Nodup := by
  induction object with
  | nil => exact List.nodup_singleton key
  | cons property rest ih =>
    obtain ⟨first, old⟩ := property
    rw [List.map_cons, List.nodup_cons] at h
    by_cases hfirst : first = key
    · rw [set, if_pos hfirst, List.map_cons, List.nodup_cons]
      exact h
    · rw [set, if_neg hfirst, List.map_cons, List.nodup_cons]
      exact ⟨fun hmem => (mem_keys_set hmem).elim hfirst h.1, ih h.2⟩

theorem mem_of_get (h : object.get key = some value) : (key, value) ∈ object := by
  induction object with
  | nil => cases h
  | cons property rest ih =>
    obtain ⟨name, old⟩ := property
    rw [get] at h
    split at h
    · rename_i hname
      cases h
      subst hname
      exact List.mem_cons_self
    · exact List.mem_cons_of_mem _ (ih h)

theorem get_of_mem (hnodup : (object.map Prod.fst).Nodup) (h : (key, value) ∈ object) :
    object.get key = some value := by
  induction object with
  | nil => cases h
  | cons property rest ih =>
    obtain ⟨name, old⟩ := property
    rw [List.map_cons, List.nodup_cons] at hnodup
    rw [get]
    rcases List.mem_cons.mp h with heq | hmem
    · cases heq
      exact if_pos rfl
    · have hother : name ≠ key := by
        rintro rfl
        exact hnodup.1 (List.mem_map.mpr ⟨_, hmem, rfl⟩)
      rw [if_neg hother]
      exact ih hnodup.2 hmem

theorem get_filter (h : (object.map Prod.fst).Nodup) (p : κ × α → Bool) (key : κ) :
    get (object.filter p) key = (object.get key).filter fun value => p (key, value) := by
  induction object with
  | nil => rfl
  | cons property rest ih =>
    obtain ⟨name, value⟩ := property
    rw [List.map_cons, List.nodup_cons] at h
    by_cases hname : name = key
    · subst hname
      have hnone : Properties.get rest name = none := get_eq_none h.1
      by_cases hp : p (name, value) = true
      · rw [List.filter_cons_of_pos hp, get, if_pos rfl, get, if_pos rfl, Option.filter_some,
          if_pos hp]
      · rw [List.filter_cons_of_neg hp, ih h.2, hnone, get, if_pos rfl, Option.filter_some,
          if_neg hp]
        rfl
    · by_cases hp : p (name, value) = true
      · rw [List.filter_cons_of_pos hp, get, if_neg hname, get, if_neg hname, ih h.2]
      · rw [List.filter_cons_of_neg hp, get, if_neg hname, ih h.2]

theorem get_map (object : Properties κ α) (f : α → α) (key : κ) :
    Properties.get (object.map fun entry => (entry.1, f entry.2)) key = (object.get key).map f := by
  induction object with
  | nil => rfl
  | cons property rest ih =>
    obtain ⟨name, value⟩ := property
    rw [List.map_cons, get, get]
    by_cases hname : name = key
    · rw [if_pos hname, if_pos hname]
      rfl
    · rw [if_neg hname, if_neg hname, ih]

end Properties

/-- A JavaScript `Map`: its entries in the order of their insertion, one for each key. -/
structure JsMap (κ α : Type) where
  entries : Properties κ α
  nodup : (entries.map Prod.fst).Nodup
deriving DecidableEq

namespace JsMap

variable {κ α : Type}

/-- `new Map()`. -/
def empty : JsMap κ α := ⟨[], List.nodup_nil⟩

/-- The entries that meet a condition; a loop deletes the others. -/
def filter (m : JsMap κ α) (p : κ → α → Bool) : JsMap κ α where
  entries := m.entries.filter fun entry => p entry.1 entry.2
  nodup := m.nodup.sublist (List.filter_sublist.map Prod.fst)

/-- A loop that rewrites every value. -/
def mapValues (m : JsMap κ α) (f : α → α) : JsMap κ α where
  entries := m.entries.map fun entry => (entry.1, f entry.2)
  nodup := by
    rw [List.map_map]
    exact m.nodup

def size (m : JsMap κ α) : Nat := m.entries.length

variable [DecidableEq κ]

/-- `map.get(key)`. -/
def get (m : JsMap κ α) (key : κ) : Option α := m.entries.get key

/-- `map.has(key)`. -/
def has (m : JsMap κ α) (key : κ) : Bool := (m.get key).isSome

/-- `map.set(key, value)`: a new key comes last. -/
def set (m : JsMap κ α) (key : κ) (value : α) : JsMap κ α :=
  ⟨m.entries.set key value, Properties.nodup_set m.nodup⟩

/-- `map.delete(key)`. -/
def delete (m : JsMap κ α) (key : κ) : JsMap κ α := m.filter fun name _ => name ≠ key

/-- The values of a map. -/
theorem mem_values {m : JsMap κ α} {value : α} :
    value ∈ m.entries.map Prod.snd ↔ ∃ key, m.get key = some value := by
  rw [List.mem_map]
  constructor
  · rintro ⟨⟨key, _⟩, hmem, rfl⟩
    exact ⟨key, Properties.get_of_mem m.nodup hmem⟩
  · rintro ⟨key, hget⟩
    exact ⟨(key, value), Properties.mem_of_get hget, rfl⟩

@[simp] theorem get_empty (key : κ) : (empty : JsMap κ α).get key = none := rfl

@[simp] theorem get_set_self (m : JsMap κ α) (key : κ) (value : α) :
    (m.set key value).get key = some value := Properties.get_set_self _ _ _

theorem get_set_other (m : JsMap κ α) {key other : κ} (value : α) (h : other ≠ key) :
    (m.set key value).get other = m.get other := Properties.get_set_other _ _ h

theorem get_set (m : JsMap κ α) (key other : κ) (value : α) :
    (m.set key value).get other = if other = key then some value else m.get other := by
  by_cases h : other = key
  · rw [if_pos h, h, get_set_self]
  · rw [if_neg h, get_set_other m value h]

@[simp] theorem get_filter (m : JsMap κ α) (p : κ → α → Bool) (key : κ) :
    (m.filter p).get key = (m.get key).filter (p key) :=
  Properties.get_filter m.nodup (fun entry => p entry.1 entry.2) key

@[simp] theorem get_mapValues (m : JsMap κ α) (f : α → α) (key : κ) :
    (m.mapValues f).get key = (m.get key).map f := Properties.get_map _ f key

@[simp] theorem get_delete_self (m : JsMap κ α) (key : κ) : (m.delete key).get key = none := by
  simp [delete]

theorem get_delete_other (m : JsMap κ α) {key other : κ} (h : other ≠ key) :
    (m.delete key).get other = m.get other := by
  cases hget : m.get other <;> simp [delete, h, hget]

theorem get_delete (m : JsMap κ α) (key other : κ) :
    (m.delete key).get other = if other = key then none else m.get other := by
  by_cases h : other = key
  · rw [if_pos h, h, get_delete_self]
  · rw [if_neg h, get_delete_other m h]

end JsMap

end SellerAgents.Js
