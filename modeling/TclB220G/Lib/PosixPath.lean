import Mathlib.Data.List.Basic
import TclB220G.Lib.Unicode

/-!
# Paths as texts

A path is split at the slashes.  Empty parts and single dots are left out, so that different texts may
stand for one path.  A suffix that is put after the text changes the last part or is a part of its
own, and different suffixes give different paths.
-/

namespace TclB220G.Lib.PosixPath

/-- The parts of a relative path. -/
def parts (text : Text) : List Text :=
  (text.splitOn 47).filter fun part ↦ part ≠ [] ∧ part ≠ [46]

def isAbsolute (text : Text) : Bool := text.head? = some 47

/-- The last part, empty if there is none. -/
def name (text : Text) : Text := (parts text).getLast?.getD []

/-- The text of a path with these parts. -/
def render (parts : List Text) : Text := if parts = [] then [46] else [47].intercalate parts

theorem splitOn_slash (text : Text) : (47 :: text).splitOn 47 = [] :: text.splitOn 47 := by
  rw [List.splitOn, List.splitOnP_cons_eq_if_modifyHead, if_pos (by simp), ← List.splitOn]

theorem splitOn_cons {code : ℕ} (hcode : code ≠ 47) (text : Text) :
    (code :: text).splitOn 47 = (text.splitOn 47).modifyHead (code :: ·) := by
  rw [List.splitOn, List.splitOnP_cons_eq_if_modifyHead, if_neg (by simpa using hcode), ← List.splitOn]

/-- A suffix without a slash belongs to what stands after the last slash. -/
theorem splitOn_append (text : Text) :
    ∃ front last, text.splitOn 47 = front ++ [last] ∧
      ∀ suffix, 47 ∉ suffix → (text ++ suffix).splitOn 47 = front ++ [last ++ suffix] := by
  induction text with
  | nil => exact ⟨[], [], rfl, fun suffix hsuffix ↦ List.splitOn_eq_singleton hsuffix⟩
  | cons code text ih =>
    obtain ⟨front, last, htext, happend⟩ := ih
    by_cases hcode : code = 47
    · subst hcode
      refine ⟨[] :: front, last, by rw [splitOn_slash, htext, List.cons_append], fun suffix hsuffix ↦ ?_⟩
      rw [List.cons_append, splitOn_slash, happend suffix hsuffix, List.cons_append]
    · cases front with
      | nil =>
        refine ⟨[], code :: last, by rw [splitOn_cons hcode, htext]; rfl, fun suffix hsuffix ↦ ?_⟩
        rw [List.cons_append, splitOn_cons hcode, happend suffix hsuffix]
        rfl
      | cons first front =>
        refine ⟨(code :: first) :: front, last, by rw [splitOn_cons hcode, htext]; rfl,
          fun suffix hsuffix ↦ ?_⟩
        rw [List.cons_append, splitOn_cons hcode, happend suffix hsuffix]
        rfl

/-- A suffix of two or more characters changes the last part or is a part of its own. -/
theorem parts_append (text : Text) :
    ∃ front last, (parts text = front ∨ parts text = front ++ [last]) ∧
      ∀ suffix, 47 ∉ suffix → 2 ≤ suffix.length → parts (text ++ suffix) = front ++ [last ++ suffix] := by
  obtain ⟨front, last, htext, happend⟩ := splitOn_append text
  refine ⟨front.filter fun part ↦ part ≠ [] ∧ part ≠ [46], last, ?_, fun suffix hsuffix hlength ↦ ?_⟩
  · rw [parts, htext, List.filter_append, List.filter_singleton]
    cases decide (last ≠ [] ∧ last ≠ [46]) with
    | true => exact .inr rfl
    | false => exact .inl (List.append_nil _)
  · have hkeep : last ++ suffix ≠ [] ∧ last ++ suffix ≠ [46] := by
      refine ⟨fun h ↦ ?_, fun h ↦ ?_⟩ <;>
      · have hlen := congrArg List.length h
        rw [List.length_append] at hlen
        simp only [List.length_nil, List.length_singleton] at hlen
        omega
    rw [parts, happend suffix hsuffix, List.filter_append, List.filter_singleton,
      decide_eq_true hkeep, cond_true]

theorem parts_append_ne {text suffix : Text} (hsuffix : 47 ∉ suffix) (hlength : 2 ≤ suffix.length) :
    parts (text ++ suffix) ≠ parts text := by
  obtain ⟨front, last, htext, happend⟩ := parts_append text
  rw [happend suffix hsuffix hlength]
  intro heq
  rcases htext with htext | htext
  · rw [htext] at heq
    exact absurd (congrArg List.length heq) (by simp)
  · rw [htext, List.append_right_inj, List.singleton_inj] at heq
    exact absurd (congrArg List.length heq) (by rw [List.length_append]; omega)

theorem parts_append_injective {text first second : Text} (hfirst : 47 ∉ first)
    (hsecond : 47 ∉ second) (hfirstLength : 2 ≤ first.length) (hsecondLength : 2 ≤ second.length)
    (heq : parts (text ++ first) = parts (text ++ second)) : first = second := by
  obtain ⟨front, last, _, happend⟩ := parts_append text
  rw [happend first hfirst hfirstLength, happend second hsecond hsecondLength,
    List.append_right_inj, List.singleton_inj, List.append_right_inj] at heq
  exact heq

end TclB220G.Lib.PosixPath
