import Mathlib.Data.List.Basic

/-!
# Dictionaries that keep the order of insertion

A dictionary is the list of its entries in the order in which their keys were first set.  Setting a key
again changes its value and leaves its place.
-/

namespace TclB220G.Lib.Dict

variable {K V : Type*} [DecidableEq K]

def keys (entries : List (K × V)) : List K := entries.map Prod.fst

def get? (entries : List (K × V)) (key : K) : Option V :=
  (entries.find? fun entry ↦ entry.1 = key).map Prod.snd

/-- Sets a key, at its place or at the end. -/
def set : List (K × V) → K → V → List (K × V)
  | [], key, value => [(key, value)]
  | entry :: entries, key, value =>
    if entry.1 = key then (key, value) :: entries else entry :: set entries key value

/-- Changes the value of a key, if there is one. -/
def modify (entries : List (K × V)) (key : K) (change : V → V) : Option (List (K × V)) :=
  (get? entries key).map fun value ↦ set entries key (change value)

variable {entries : List (K × V)} {key : K}

theorem get?_eq_none_iff : get? entries key = none ↔ key ∉ keys entries := by
  rw [get?, Option.map_eq_none_iff, List.find?_eq_none, keys, List.mem_map]
  constructor
  · rintro hnone ⟨entry, hentry, hkey⟩
    exact hnone entry hentry (decide_eq_true hkey)
  · intro hkeys entry hentry hkey
    exact hkeys ⟨entry, hentry, of_decide_eq_true hkey⟩

theorem set_append (hkey : key ∉ keys entries) (later : List (K × V)) (value : V) :
    set (entries ++ later) key value = entries ++ set later key value := by
  induction entries with
  | nil => rfl
  | cons entry entries ih =>
    rw [keys, List.map_cons, List.mem_cons, not_or] at hkey
    rw [List.cons_append, set, if_neg (Ne.symm hkey.1), ih hkey.2, List.cons_append]

/-- A new key is set at the end. -/
theorem set_of_not_mem (hkey : key ∉ keys entries) (value : V) :
    set entries key value = entries ++ [(key, value)] := by
  rw [← List.append_nil entries, set_append hkey]
  simp [set]

theorem get?_append (hkey : key ∉ keys entries) (later : List (K × V)) :
    get? (entries ++ later) key = get? later key := by
  have hnone : entries.find? (fun entry ↦ entry.1 = key) = none :=
    Option.map_eq_none_iff.1 (get?_eq_none_iff.2 hkey)
  rw [get?, List.find?_append, hnone, Option.none_or, get?]

/-- The value of the last key is changed at its place. -/
theorem modify_append (hkey : key ∉ keys entries) (value : V) (change : V → V) :
    modify (entries ++ [(key, value)]) key change = some (entries ++ [(key, change value)]) := by
  rw [modify, get?_append hkey]
  simp [get?, set_append hkey, set]

theorem mem_of_get? {value : V} (h : get? entries key = some value) :
    (key, value) ∈ entries := by
  obtain ⟨entry, hentry, rfl⟩ := Option.map_eq_some_iff.1 h
  have hkey : entry.1 = key := by simpa using List.find?_some hentry
  rw [← hkey]
  exact List.mem_of_find?_eq_some hentry

theorem exists_get? (h : key ∈ keys entries) :
    ∃ value, get? entries key = some value := by
  cases hget : get? entries key with
  | none => exact absurd h (get?_eq_none_iff.1 hget)
  | some value => exact ⟨value, rfl⟩

theorem mem_set {value : V} {entry : K × V} (h : entry ∈ set entries key value) :
    entry = (key, value) ∨ entry ∈ entries := by
  induction entries with
  | nil => exact .inl (List.mem_singleton.1 h)
  | cons first entries ih =>
    rw [set] at h
    split_ifs at h
    · exact (List.mem_cons.1 h).imp_right (List.mem_cons_of_mem first)
    · obtain rfl | h := List.mem_cons.1 h
      · exact .inr List.mem_cons_self
      · exact (ih h).imp_right (List.mem_cons_of_mem first)

end TclB220G.Lib.Dict
