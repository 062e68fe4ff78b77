import Mathlib.Data.List.MinMax

/-!
# The first entry with the best score

A search through a list keeps the best entry so far and stops early at an entry with the best score
that is possible.  A score of zero stands for an entry that does not match.  Whatever the list, the
search finds the first of those entries that match with the greatest score.

Where the score of an entry is its rank in a list of keys, this is the entry of the first key that has
one.
-/

namespace TclB220G.Lib.BestMatch

variable {Entry : Type*} (score : Entry → ℕ) (possible : ℕ)

/-- The rest of the search, with the best score and the best entry so far. -/
def searchFrom : ℕ → Option Entry → List Entry → Option Entry
  | _, found, [] => found
  | best, found, entry :: rest =>
    if best < score entry then
      if score entry = possible then some entry else searchFrom (score entry) (some entry) rest
    else searchFrom best found rest

def search (entries : List Entry) : Option Entry := searchFrom score possible 0 none entries

/-- The first of the matching entries that has the greatest score. -/
def best (entries : List Entry) : Option Entry :=
  (entries.filter fun entry ↦ 0 < score entry).argmax score

/-- The better one of the best entry so far and the next one. -/
def better (found : Option Entry) (entry : Entry) : Option Entry :=
  if found.elim 0 score < score entry then some entry else found

variable {score} {possible}

/-- The best entry is found by comparing one entry after another. -/
theorem best_eq_foldl (entries : List Entry) :
    best score entries = entries.foldl (better score) none := by
  induction entries using List.reverseRecOn with
  | nil => rfl
  | append_singleton entries entry ih =>
    rw [List.foldl_concat, ← ih, best, List.filter_append, better]
    by_cases hmatches : 0 < score entry
    · rw [List.filter_cons_of_pos (by simpa using hmatches), List.filter_nil, List.argmax_concat, best]
      cases (entries.filter fun entry ↦ 0 < score entry).argmax score with
      | none => exact (if_pos hmatches).symm
      | some found => rfl
    · rw [List.filter_cons_of_neg (by simpa using hmatches), List.filter_nil, List.append_nil, best,
        if_neg (by omega)]

theorem best_concat (entries : List Entry) (entry : Entry) :
    best score (entries ++ [entry]) = better score (best score entries) entry := by
  rw [best_eq_foldl, best_eq_foldl, List.foldl_concat]

variable {entries : List Entry}

theorem score_le_best {entry : Entry} (hmem : entry ∈ entries) :
    score entry ≤ (best score entries).elim 0 score := by
  rcases Nat.eq_zero_or_pos (score entry) with hzero | hmatches
  · rw [hzero]
    exact Nat.zero_le _
  · have hfilter : entry ∈ entries.filter fun entry ↦ 0 < score entry :=
      List.mem_filter.2 ⟨hmem, decide_eq_true hmatches⟩
    cases hbest : best score entries with
    | none => exact absurd (List.argmax_eq_none.1 hbest) (List.ne_nil_of_mem hfilter)
    | some found => exact List.le_of_mem_argmax hfilter hbest

section

variable (hpossible : ∀ entry, score entry ≤ possible)
include hpossible

theorem foldl_better_of_possible {entry : Entry} (hentry : score entry = possible) (rest : List Entry) :
    rest.foldl (better score) (some entry) = some entry := by
  induction rest with
  | nil => rfl
  | cons next rest ih =>
    have hkeep : better score (some entry) next = some entry :=
      if_neg (Nat.not_lt.2 ((hpossible next).trans_eq hentry.symm))
    rw [List.foldl_cons, hkeep, ih]

theorem searchFrom_eq_foldl (found : Option Entry) (rest : List Entry) :
    searchFrom score possible (found.elim 0 score) found rest = rest.foldl (better score) found := by
  induction rest generalizing found with
  | nil => rfl
  | cons entry rest ih =>
    rw [searchFrom, List.foldl_cons, better]
    split_ifs with hbetter hpossibly
    · rw [foldl_better_of_possible hpossible hpossibly]
    · exact ih (some entry)
    · exact ih found

/-- The search finds the first entry with the best score. -/
theorem search_eq_best (entries : List Entry) :
    search score possible entries = best score entries := by
  rw [best_eq_foldl]
  exact searchFrom_eq_foldl hpossible none entries

/-- An entry with the best possible score decides the search. -/
theorem searchFrom_eq_find (hexists : ∃ entry ∈ entries, score entry = possible) (sofar : ℕ)
    (hsofar : sofar < possible)
    (found : Option Entry) :
    searchFrom score possible sofar found entries =
      entries.find? fun entry ↦ score entry = possible := by
  induction entries generalizing sofar found with
  | nil => simp at hexists
  | cons entry rest ih =>
    rw [searchFrom, List.find?_cons]
    by_cases hentry : score entry = possible
    · simp [hentry, hsofar]
    · have hlt : score entry < possible := lt_of_le_of_ne (hpossible entry) hentry
      have hrest : ∃ entry ∈ rest, score entry = possible := by
        obtain ⟨other, hother, hscore⟩ := hexists
        rcases List.mem_cons.1 hother with rfl | hother
        · exact absurd hscore hentry
        · exact ⟨other, hother, hscore⟩
      simp only [hentry, if_false, decide_false]
      split_ifs
      · exact ih hrest _ hlt _
      · exact ih hrest _ hsofar _

theorem best_of_possible (hexists : ∃ entry ∈ entries, score entry = possible)
    (hpositive : 0 < possible) :
    best score entries = entries.find? fun entry ↦ score entry = possible := by
  rw [← search_eq_best hpossible]
  exact searchFrom_eq_find hpossible hexists 0 hpositive none

end

theorem best_mem {entry : Entry} (hbest : best score entries = some entry) :
    entry ∈ entries :=
  (List.mem_filter.1 (List.argmax_mem hbest)).1

theorem best_congr {other : Entry → ℕ} (heq : ∀ entry ∈ entries, score entry = other entry) :
    best score entries = best other entries := by
  induction entries using List.reverseRecOn with
  | nil => rfl
  | append_singleton entries entry ih =>
    have hbest := ih fun entry hentry ↦ heq entry (List.mem_append_left _ hentry)
    have hfound : (best other entries).elim 0 score = (best other entries).elim 0 other := by
      cases hother : best other entries with
      | none => rfl
      | some found => exact heq found (List.mem_append_left _ (best_mem hother))
    rw [best_concat, best_concat, hbest, better, better, hfound, heq entry (by simp)]

/-! ## Entries by preference -/

section

variable {Key : Type*} [DecidableEq Key] (keys : List Key) (key : Entry → Key)

/-- The rank of an entry whose key is in the list is positive, and greater for an earlier key. -/
def rank (entry : Entry) : ℕ := keys.length - keys.idxOf (key entry)

variable {keys key}

theorem rank_cons_of_ne {first : Key} {entry : Entry} (hne : key entry ≠ first) :
    rank (first :: keys) key entry = rank keys key entry := by
  rw [rank, List.idxOf_cons_ne _ (Ne.symm hne), List.length_cons, Nat.succ_sub_succ, rank]

theorem rank_le (entry : Entry) : rank keys key entry ≤ keys.length := Nat.sub_le _ _

theorem rank_cons_eq_iff {first : Key} {entry : Entry} :
    rank (first :: keys) key entry = keys.length + 1 ↔ key entry = first := by
  constructor
  · intro hrank
    by_contra hne
    rw [rank_cons_of_ne hne] at hrank
    have hle : rank keys key entry ≤ keys.length := rank_le entry
    omega
  · rintro rfl
    simp [rank]

/-- The best entry by rank is the first entry of the first key that has one. -/
theorem best_rank (keys : List Key) (entries : List Entry) :
    best (rank keys key) entries =
      keys.findSome? fun wanted ↦ entries.find? fun entry ↦ key entry = wanted := by
  induction keys with
  | nil => simp [best, rank]
  | cons first keys ih =>
    rw [List.findSome?_cons]
    cases hfind : entries.find? fun entry ↦ key entry = first with
    | some found =>
      have hmem : found ∈ entries := List.mem_of_find?_eq_some hfind
      have hkey : key found = first := by simpa using List.find?_some hfind
      have htop : ∃ entry ∈ entries, rank (first :: keys) key entry = keys.length + 1 :=
        ⟨found, hmem, rank_cons_eq_iff.2 hkey⟩
      rw [best_of_possible rank_le htop (Nat.succ_pos _)]
      simpa only [List.length_cons, rank_cons_eq_iff] using hfind
    | none =>
      have hnone : ∀ entry ∈ entries, key entry ≠ first := by simpa using hfind
      rw [best_congr fun entry hentry ↦ rank_cons_of_ne (hnone entry hentry), ih]

end

end TclB220G.Lib.BestMatch
