import Mathlib.Data.List.Basic
import Mathlib.Logic.Function.Basic

/-!
# One list as a family of stacks

A registry may keep the entries of all keys in one list, the newest first, and yet treat the entries
of each key as a stack of its own.  `stack` takes such a list to the family of these stacks.  Putting
an entry in front and erasing the first entry of a key are the operations of the family.
-/

namespace TclB220G.Lib.KeyedStack

variable {Key Entry : Type*} [DecidableEq Key] (key : Entry → Key)

/-- The entries of a key, the newest first. -/
def stack (entries : List Entry) (wanted : Key) : List Entry :=
  entries.filter fun entry ↦ key entry = wanted

/-- Erases the newest entry of a key. -/
def erase (entries : List Entry) (wanted : Key) : List Entry :=
  entries.eraseP fun entry ↦ key entry = wanted

/-- Puts an entry on the stack of its key. -/
def push (family : Key → List Entry) (entry : Entry) : Key → List Entry :=
  Function.update family (key entry) (entry :: family (key entry))

/-- Takes the newest entry off the stack of a key. -/
def pop (family : Key → List Entry) (wanted : Key) : Key → List Entry :=
  Function.update family wanted (family wanted).tail

theorem stack_cons (entry : Entry) (entries : List Entry) :
    stack key (entry :: entries) = push key (stack key entries) entry := by
  funext wanted
  by_cases hkey : wanted = key entry
  · subst hkey
    rw [push, Function.update_self, stack, List.filter_cons_of_pos (by simp)]
    rfl
  · rw [push, Function.update_of_ne hkey, stack,
      List.filter_cons_of_neg (by simpa using fun h : key entry = wanted ↦ hkey h.symm)]
    rfl

theorem stack_erase (entries : List Entry) (wanted : Key) :
    stack key (erase key entries wanted) = pop (stack key entries) wanted := by
  induction entries with
  | nil =>
    funext other
    by_cases hother : other = wanted
    · rw [hother, pop, Function.update_self]
      rfl
    · rw [pop, Function.update_of_ne hother]
      rfl
  | cons entry entries ih =>
    by_cases hkey : key entry = wanted
    · rw [erase, List.eraseP_cons_of_pos (by simpa using hkey), stack_cons, push, pop, hkey,
        Function.update_self, List.tail_cons, Function.update_idem, Function.update_eq_self]
    · rw [erase, List.eraseP_cons_of_neg (by simpa using hkey), stack_cons, stack_cons, ← erase, ih,
        push, push, pop, pop, Function.update_of_ne hkey,
        Function.update_of_ne fun h ↦ hkey h.symm, Function.update_comm hkey]

/-- How many entries the keys have after one more. -/
theorem length_stack_cons (entry : Entry) (entries : List Entry) :
    (fun wanted ↦ (stack key (entry :: entries) wanted).length) =
      Function.update (fun wanted ↦ (stack key entries wanted).length) (key entry)
        ((stack key entries (key entry)).length + 1) := by
  funext wanted
  rw [stack_cons, push]
  by_cases hwanted : wanted = key entry
  · rw [hwanted, Function.update_self, Function.update_self, List.length_cons]
  · rw [Function.update_of_ne hwanted, Function.update_of_ne hwanted]

theorem length_stack_erase (entries : List Entry) (wanted : Key) :
    (fun other ↦ (stack key (erase key entries wanted) other).length) =
      Function.update (fun other ↦ (stack key entries other).length) wanted
        ((stack key entries wanted).length - 1) := by
  funext other
  rw [stack_erase, pop]
  by_cases hother : other = wanted
  · rw [hother, Function.update_self, Function.update_self, List.length_tail]
  · rw [Function.update_of_ne hother, Function.update_of_ne hother]

theorem stack_ne_nil_iff {entries : List Entry} {wanted : Key} :
    stack key entries wanted ≠ [] ↔ ∃ entry ∈ entries, key entry = wanted := by
  rw [stack, Ne, List.filter_eq_nil_iff]
  push Not
  simp only [decide_eq_true_eq]

/-- The first entry of a key is the top of its stack. -/
theorem find?_eq_head? (entries : List Entry) (wanted : Key) :
    entries.find? (fun entry ↦ key entry = wanted) = (stack key entries wanted).head? :=
  List.head?_filter.symm

end TclB220G.Lib.KeyedStack
