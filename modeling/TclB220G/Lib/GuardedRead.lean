import TclB220G.Lib.TracedRead

/-!
# Reads with checked arithmetic

A computation on machine words can be written a second time, with subtractions and products that give up
where the words wrap around.  If the two agree, then nothing wraps around.  The rules below show this
along the structure of the computation, together with where its reads lie: what a condition has ruled
out is known to everything after it.
-/

namespace TclB220G.Lib

/-- Why a computation with checked arithmetic gives up. -/
inductive Fault (ε : Type) where
  | wrapped
  | refused (error : ε)
  deriving DecidableEq, Repr

namespace TracedRead

variable {ε α β : Type}

def checkedSub (first second : ℕ) : TracedRead (Fault ε) ℕ :=
  if first < second then fail .wrapped else pure (first - second)

/-- The product of 32-bit words. -/
def checkedMul (first second : ℕ) : TracedRead (Fault ε) ℕ :=
  if 2 ^ 32 ≤ first * second then fail .wrapped else pure (first * second)

/-- The computation, with its errors among the faults. -/
def lifted (read : TracedRead ε α) : TracedRead (Fault ε) α := fun memory ↦
  ((read memory).1.mapError .refused, (read memory).2)

theorem pure_bind (value : α) (next : α → TracedRead ε β) : (pure value >>= next) = next value := rfl

theorem checkedSub_of_le {first second : ℕ} (hle : second ≤ first) :
    (checkedSub first second : TracedRead (Fault ε) ℕ) = pure (first - second) :=
  if_neg (Nat.not_lt.2 hle)

theorem checkedMul_of_lt {first second : ℕ} (hlt : first * second < 2 ^ 32) :
    (checkedMul first second : TracedRead (Fault ε) ℕ) = pure (first * second) :=
  if_neg (Nat.not_le.2 hlt)

/-- On a memory, the computation with checked arithmetic agrees with the plain one, and the reads lie
inside. -/
structure Guarded (inside : Span → Prop) (memory : Memory) (checked : TracedRead (Fault ε) α)
    (read : TracedRead ε α) : Prop where
  agrees : checked memory = lifted read memory
  within : ∀ span ∈ (read memory).2, inside span

namespace Guarded

variable {inside : Span → Prop} {memory : Memory}

/-- A guarded computation never wraps around. -/
theorem result_ne_wrapped {checked : TracedRead (Fault ε) α} {read : TracedRead ε α}
    (hguarded : Guarded inside memory checked read) : checked.result memory ≠ .error .wrapped := by
  rw [result, hguarded.agrees, lifted]
  cases (read memory).1 <;> simp [Except.mapError]

protected theorem pure (value : α) :
    Guarded inside memory (pure value : TracedRead (Fault ε) α) (pure value) :=
  ⟨rfl, by simp [Pure.pure]⟩

protected theorem fail (error : ε) :
    Guarded inside memory (fail (.refused error) : TracedRead (Fault ε) α) (fail error) :=
  ⟨rfl, by simp [TracedRead.fail]⟩

theorem differs {offset : ℕ} {expected : Bytes} (hinside : inside ⟨offset, expected.length⟩) :
    Guarded inside memory (TracedRead.differs offset expected : TracedRead (Fault ε) Bool)
      (TracedRead.differs offset expected) :=
  ⟨rfl, by simpa [TracedRead.differs] using hinside⟩

theorem bind {checked : TracedRead (Fault ε) α} {read : TracedRead ε α}
    {checkedNext : α → TracedRead (Fault ε) β} {next : α → TracedRead ε β}
    (hread : Guarded inside memory checked read)
    (hnext : ∀ value, read.result memory = .ok value →
      Guarded inside memory (checkedNext value) (next value)) :
    Guarded inside memory (checked >>= checkedNext) (read >>= next) := by
  have hagrees := hread.agrees
  have hwithin := hread.within
  unfold lifted at hagrees
  unfold result at hnext
  constructor
  · simp only [Bind.bind, lifted, hagrees]
    rcases hrun : read memory with ⟨error | value, spans⟩
    · rfl
    · have hvalue := (hnext value (by rw [hrun])).agrees
      simp only [Except.mapError, hvalue, lifted]
  · simp only [Bind.bind]
    rcases hrun : read memory with ⟨error | value, spans⟩
    · simpa [hrun] using hwithin
    · have hvalue := (hnext value (by rw [hrun])).within
      simp only [hrun] at hwithin
      intro span hspan
      rcases List.mem_append.1 hspan with hspan | hspan
      · exact hwithin span hspan
      · exact hvalue span hspan

/-- A word that is used in what follows. -/
theorem word {width offset : ℕ} {checkedNext : ℕ → TracedRead (Fault ε) β} {next : ℕ → TracedRead ε β}
    (hinside : inside ⟨offset, width⟩)
    (hnext : Guarded inside memory (checkedNext (memory.littleEndian width offset))
      (next (memory.littleEndian width offset))) :
    Guarded inside memory (TracedRead.word width offset >>= checkedNext)
      (TracedRead.word width offset >>= next) := by
  have hword : Guarded inside memory (TracedRead.word width offset : TracedRead (Fault ε) ℕ)
      (TracedRead.word width offset) := ⟨rfl, by simpa [TracedRead.word] using hinside⟩
  refine hword.bind fun value hvalue ↦ ?_
  cases hvalue
  exact hnext

section

variable {checkedFirst checkedSecond : TracedRead (Fault ε) Bool} {first second : TracedRead ε Bool}
  {value : Bool}

theorem orM (hfirst : Guarded inside memory checkedFirst first) (hvalue : Yields first memory value)
    (hsecond : value = false → Guarded inside memory checkedSecond second) :
    Guarded inside memory (checkedFirst <||> checkedSecond) (first <||> second) := by
  refine hfirst.bind fun found hfound ↦ ?_
  cases Except.ok.inj (hvalue.symm.trans hfound)
  cases value with
  | true => exact .pure true
  | false => exact hsecond rfl

theorem andM (hfirst : Guarded inside memory checkedFirst first) (hvalue : Yields first memory value)
    (hsecond : value = true → Guarded inside memory checkedSecond second) :
    Guarded inside memory (checkedFirst <&&> checkedSecond) (first <&&> second) := by
  refine hfirst.bind fun found hfound ↦ ?_
  cases Except.ok.inj (hvalue.symm.trans hfound)
  cases value with
  | true => exact hsecond rfl
  | false => exact .pure false

protected theorem refuse (hcondition : Guarded inside memory checkedFirst first) (error : ε) :
    Guarded inside memory (refuse (.refused error) checkedFirst) (refuse error first) := by
  refine hcondition.bind fun found hfound ↦ ?_
  cases found with
  | true => exact .fail error
  | false => exact .pure ()

/-- What comes after a refusal knows that the condition does not hold. -/
theorem refuse_bind (hcondition : Guarded inside memory checkedFirst first)
    (hvalue : Yields first memory value) (error : ε)
    {checkedNext : Unit → TracedRead (Fault ε) β} {next : Unit → TracedRead ε β}
    (hnext : value = false → Guarded inside memory (checkedNext ()) (next ())) :
    Guarded inside memory (refuse (.refused error) checkedFirst >>= checkedNext)
      (refuse error first >>= next) :=
  (hcondition.refuse error).bind fun _ hpassed ↦ hnext ((hvalue.refuse_eq_ok error).1 hpassed)

end

end Guarded

end TracedRead

end TclB220G.Lib
