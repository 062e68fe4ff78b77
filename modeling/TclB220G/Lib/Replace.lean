import Mathlib.Data.List.Infix

/-!
# Replacing a marker in a text

Occurrences of a marker are counted from the left and do not overlap, and each of them is replaced.  If
the count is one, the first occurrence is replaced and none is left behind it.  An occurrence between
elements that the marker does not have overlaps no other one, so it is the one that is replaced.
-/

namespace TclB220G.Lib.Replace

variable {α : Type} [DecidableEq α]

/-- Occurrences from the left, with `skip` elements of the last one still to be passed over. -/
def countFrom (marker : List α) : ℕ → List α → ℕ
  | _, [] => 0
  | skip + 1, _ :: rest => countFrom marker skip rest
  | 0, first :: rest =>
    if marker <+: first :: rest then countFrom marker (marker.length - 1) rest + 1
    else countFrom marker 0 rest

def replaceFrom (marker values : List α) : ℕ → List α → List α
  | _, [] => []
  | skip + 1, _ :: rest => replaceFrom marker values skip rest
  | 0, first :: rest =>
    if marker <+: first :: rest then values ++ replaceFrom marker values (marker.length - 1) rest
    else first :: replaceFrom marker values 0 rest

/-- The number of occurrences that do not overlap. -/
def count (marker text : List α) : ℕ := countFrom marker 0 text

/-- The text with these occurrences replaced. -/
def replace (marker values text : List α) : List α := replaceFrom marker values 0 text

theorem countFrom_eq (marker : List α) (skip : ℕ) (text : List α) :
    countFrom marker skip text = count marker (text.drop skip) := by
  induction skip generalizing text with
  | zero => rfl
  | succ skip ih =>
    cases text with
    | nil => rfl
    | cons first rest => exact ih rest

theorem replaceFrom_eq (marker values : List α) (skip : ℕ) (text : List α) :
    replaceFrom marker values skip text = replace marker values (text.drop skip) := by
  induction skip generalizing text with
  | zero => rfl
  | succ skip ih =>
    cases text with
    | nil => rfl
    | cons first rest => exact ih rest

section

variable {marker : List α} (hmarker : marker ≠ [])
include hmarker

theorem count_append (after : List α) : count marker (marker ++ after) = count marker after + 1 := by
  obtain ⟨first, rest, rfl⟩ := List.exists_cons_of_ne_nil hmarker
  have hstarts : first :: rest <+: first :: (rest ++ after) := List.prefix_append (first :: rest) after
  rw [List.cons_append, count, countFrom, if_pos hstarts, countFrom_eq, List.length_cons,
    Nat.add_sub_cancel, List.drop_left]

theorem replace_append (values after : List α) :
    replace marker values (marker ++ after) = values ++ replace marker values after := by
  obtain ⟨first, rest, rfl⟩ := List.exists_cons_of_ne_nil hmarker
  have hstarts : first :: rest <+: first :: (rest ++ after) := List.prefix_append (first :: rest) after
  rw [List.cons_append, replace, replaceFrom, if_pos hstarts, replaceFrom_eq, List.length_cons,
    Nat.add_sub_cancel, List.drop_left]

end

theorem count_cons {marker : List α} {first : α} {rest : List α} (h : ¬marker <+: first :: rest) :
    count marker (first :: rest) = count marker rest := by
  rw [count, countFrom, if_neg h, count]

theorem replace_cons {marker : List α} {first : α} {rest : List α} (h : ¬marker <+: first :: rest)
    (values : List α) :
    replace marker values (first :: rest) = first :: replace marker values rest := by
  rw [replace, replaceFrom, if_neg h, replace]

/-- The first occurrence in the text comes after `before`, with `after` behind it. -/
structure FirstAt (marker text before after : List α) : Prop where
  split : text = before ++ marker ++ after
  first : ∀ head tail, text = head ++ marker ++ tail → before.length ≤ head.length

omit [DecidableEq α] in
theorem FirstAt.cons {marker text before after : List α} (h : FirstAt marker text before after)
    {element : α} (hstarts : ¬marker <+: element :: text) :
    FirstAt marker (element :: text) (element :: before) after := by
  refine ⟨by rw [h.split]; rfl, fun head tail htext ↦ ?_⟩
  cases head with
  | nil => exact absurd ⟨tail, htext.symm⟩ hstarts
  | cons other head =>
    rw [List.cons_append, List.cons_append, List.cons.injEq] at htext
    exact Nat.succ_le_succ (h.first head tail htext.2)

/-- A text is free of the marker, or counting and replacing go on behind the first occurrence. -/
theorem free_or_firstAt {marker : List α} (hmarker : marker ≠ []) (text : List α) :
    (¬marker <:+: text ∧ count marker text = 0 ∧ ∀ values, replace marker values text = text) ∨
      ∃ before after, FirstAt marker text before after ∧
        count marker text = count marker after + 1 ∧
        ∀ values, replace marker values text = before ++ values ++ replace marker values after := by
  induction text with
  | nil => exact .inl ⟨fun h ↦ hmarker (List.infix_nil.1 h), rfl, fun _ ↦ rfl⟩
  | cons element text ih =>
    by_cases hstarts : marker <+: element :: text
    · obtain ⟨after, hafter⟩ := hstarts
      refine .inr ⟨[], after, ⟨hafter.symm, fun _ _ _ ↦ Nat.zero_le _⟩, ?_, fun values ↦ ?_⟩
      · rw [← hafter, count_append hmarker]
      · rw [← hafter, replace_append hmarker, List.nil_append]
    · rcases ih with ⟨hfree, hcount, hreplace⟩ | ⟨before, after, hfirst, hcount, hreplace⟩
      · refine .inl ⟨fun h ↦ ?_, by rw [count_cons hstarts, hcount], fun values ↦ ?_⟩
        · exact (List.infix_cons_iff.1 h).elim hstarts hfree
        · rw [replace_cons hstarts, hreplace]
      · refine .inr ⟨element :: before, after, hfirst.cons hstarts, ?_, fun values ↦ ?_⟩
        · rw [count_cons hstarts, hcount]
        · rw [replace_cons hstarts, hreplace, List.cons_append, List.cons_append]

/-- A single occurrence is replaced, and the text behind it is free of the marker. -/
theorem firstAt_of_count_eq_one {marker text : List α} (hmarker : marker ≠ [])
    (hcount : count marker text = 1) :
    ∃ before after, FirstAt marker text before after ∧ ¬marker <:+: after ∧
      ∀ values, replace marker values text = before ++ values ++ after := by
  rcases free_or_firstAt hmarker text with ⟨-, hzero, -⟩ | ⟨before, after, hfirst, hone, hreplace⟩
  · exact absurd (hzero.symm.trans hcount) Nat.zero_ne_one
  · have hafter : count marker after = 0 := by omega
    rcases free_or_firstAt hmarker after with ⟨hfree, -, hsame⟩ | ⟨_, _, -, hmore, -⟩
    · exact ⟨before, after, hfirst, hfree, fun values ↦ by rw [hreplace, hsame]⟩
    · exact absurd (hmore.symm.trans hafter) (Nat.succ_ne_zero _)

/-! ## Separators -/

section

omit [DecidableEq α]

variable {marker : List α} {separator : α} (hseparator : separator ∉ marker)
include hseparator

/-- The marker does not reach beyond an element that it does not have. -/
theorem infix_of_separated {left right : List α} (h : marker <:+: left ++ separator :: right) :
    marker <:+: left ∨ marker <:+: right := by
  obtain ⟨head, tail, h⟩ := h
  rcases List.append_eq_append_iff.1 h with ⟨rest, hleft, -⟩ | ⟨beyond, hhead, hright⟩
  · exact .inl ⟨head, rest, hleft.symm⟩
  · cases beyond with
    | nil =>
      rw [List.append_nil] at hhead
      exact .inl ⟨head, [], by rw [List.append_nil, hhead]⟩
    | cons element beyond =>
      rw [List.cons_append, List.cons.injEq] at hright
      obtain ⟨rfl, hright⟩ := hright
      rcases List.append_eq_append_iff.1 hhead with ⟨middle, -, hmarker⟩ | ⟨middle, -, hover⟩
      · exact absurd (hmarker ▸ List.mem_append_right _ List.mem_cons_self) hseparator
      · cases middle with
        | nil => exact absurd (hover ▸ List.mem_cons_self : separator ∈ [] ++ marker) hseparator
        | cons _ middle =>
          rw [List.cons_append, List.cons.injEq] at hover
          exact .inr ⟨middle, tail, by rw [hright, hover.2]⟩

/-- An occurrence right after a separator is the first one, if there is none behind the first one. -/
theorem FirstAt.eq_of_separated {text before after head tail : List α} (hmarker : marker ≠ [])
    (hfirst : FirstAt marker text before after) (hfree : ¬marker <:+: after)
    (htext : text = head ++ separator :: (marker ++ tail)) :
    before = head ++ [separator] ∧ after = tail := by
  have hlength : before.length ≤ (head ++ [separator]).length := by
    apply hfirst.first _ tail
    rw [htext, List.append_assoc, List.append_assoc, List.singleton_append]
  have hsplit : before ++ (marker ++ after) = head ++ separator :: (marker ++ tail) := by
    rw [← List.append_assoc, ← hfirst.split, htext]
  have hbehind : marker <:+: separator :: (marker ++ tail) :=
    (List.prefix_append marker tail).isInfix.trans (List.suffix_cons _ _).isInfix
  rcases List.append_eq_append_iff.1 hsplit with ⟨middle, -, hafter⟩ | ⟨middle, hbefore, hafter⟩
  · -- the separator stands behind the first occurrence or inside it
    rcases List.append_eq_append_iff.1 hafter with ⟨rest, -, hrest⟩ | ⟨beyond, hover, hrest⟩
    · exact absurd (hbehind.trans (hrest ▸ (List.suffix_append rest _).isInfix)) hfree
    · cases beyond with
      | nil =>
        rw [List.nil_append] at hrest
        exact absurd (hrest ▸ hbehind) hfree
      | cons element beyond =>
        rw [List.cons_append, List.cons.injEq] at hrest
        exact absurd (hover ▸ hrest.1 ▸ List.mem_append_right _ List.mem_cons_self) hseparator
  · cases middle with
    | nil =>
      obtain ⟨first, rest, rfl⟩ := List.exists_cons_of_ne_nil hmarker
      rw [List.nil_append, List.cons_append, List.cons_append, List.cons.injEq] at hafter
      exact absurd (hafter.1 ▸ List.mem_cons_self) hseparator
    | cons element middle =>
      rw [List.cons_append, List.cons.injEq] at hafter
      obtain ⟨rfl, hafter⟩ := hafter
      have hnil : middle = [] := by
        rw [hbefore, List.length_append, List.length_append, List.length_cons,
          List.length_singleton] at hlength
        exact List.length_eq_zero_iff.1 (by omega)
      subst hnil
      exact ⟨hbefore, (List.append_cancel_left hafter).symm⟩

/-- Nothing but the marker itself starts inside a marker that a separator follows. -/
theorem eq_nil_of_followed {rest middle tail : List α} (hfree : ¬marker <:+: rest)
    (h : middle ++ marker ++ tail = marker ++ separator :: rest) : middle = [] := by
  rcases List.append_eq_append_iff.1 h with ⟨beyond, hmarker, -⟩ | ⟨beyond, hmarker, hrest⟩
  · have hlength := congrArg List.length hmarker
    rw [List.length_append, List.length_append] at hlength
    exact List.length_eq_zero_iff.1 (by omega)
  · cases beyond with
    | nil =>
      have hlength := congrArg List.length hmarker
      rw [List.append_nil, List.length_append] at hlength
      exact List.length_eq_zero_iff.1 (by omega)
    | cons element beyond =>
      rw [List.cons_append, List.cons.injEq] at hrest
      obtain ⟨rfl, hrest⟩ := hrest
      rcases List.append_eq_append_iff.1 hmarker with ⟨inner, -, hinner⟩ | ⟨inner, -, hinner⟩
      · exact absurd (hinner ▸ List.mem_append_right _ List.mem_cons_self) hseparator
      · cases inner with
        | nil => exact absurd (hinner ▸ List.mem_cons_self : separator ∈ [] ++ marker) hseparator
        | cons _ inner =>
          rw [List.cons_append, List.cons.injEq] at hinner
          exact absurd ⟨inner, tail, by rw [hrest, hinner.2]⟩ hfree

/-- The first occurrence is the only one, if a separator follows it and there is none behind. -/
theorem FirstAt.unique {text before rest : List α}
    (hfirst : FirstAt marker text before (separator :: rest)) (hfree : ¬marker <:+: rest)
    {head tail : List α} (htext : text = head ++ marker ++ tail) :
    head = before ∧ tail = separator :: rest := by
  have hbefore : before <+: text := ⟨_, by rw [hfirst.split, List.append_assoc]⟩
  have hhead : head <+: text := ⟨_, by rw [htext, List.append_assoc]⟩
  obtain ⟨middle, rfl⟩ := List.prefix_of_prefix_length_le hbefore hhead (hfirst.first _ _ htext)
  have hsplit : middle ++ marker ++ tail = marker ++ separator :: rest := by
    rw [hfirst.split, List.append_assoc, List.append_assoc, List.append_assoc] at htext
    rw [List.append_assoc, List.append_cancel_left htext]
  obtain rfl := eq_nil_of_followed hseparator hfree hsplit
  exact ⟨List.append_nil _, List.append_cancel_left hsplit⟩

end

end TclB220G.Lib.Replace
