import TclB220G.Lib.Bytes

/-!
# Reads that leave a trace

A computation that reads a memory, may give up with an error, and records the spans of octets it
has read in order.  Conditions are evaluated from left to right and stop at the first that decides,
so the trace says which reads were made at all.
-/

namespace TclB220G.Lib

/-- A run of octets that was read. -/
structure Span where
  offset : ℕ
  length : ℕ
  deriving DecidableEq, Repr

/-- The result of a computation on a memory, with the spans it read. -/
def TracedRead (ε α : Type) := Memory → Except ε α × List Span

namespace TracedRead

section

variable {ε α β : Type}

instance : Monad (TracedRead ε) where
  pure value := fun _ ↦ (.ok value, [])
  bind read next := fun memory ↦
    match read memory with
    | (.error error, spans) => (.error error, spans)
    | (.ok value, spans) => ((next value memory).1, spans ++ (next value memory).2)

def result (read : TracedRead ε α) (memory : Memory) : Except ε α := (read memory).1

def fail (error : ε) : TracedRead ε α := fun _ ↦ (.error error, [])

/-- Gives up if the condition holds. -/
def refuse (error : ε) (condition : TracedRead ε Bool) : TracedRead ε Unit := do
  if ← condition then fail error

/-- Little-endian word. -/
def word (width offset : ℕ) : TracedRead ε ℕ :=
  fun memory ↦ (.ok (memory.littleEndian width offset), [⟨offset, width⟩])

/-- The octets from the offset on are the given ones. -/
def HasOctets (memory : Memory) (offset : ℕ) (octets : Bytes) : Prop :=
  (List.range octets.length).map (fun index ↦ memory (offset + index)) = octets

instance (memory : Memory) (offset : ℕ) (octets : Bytes) :
    Decidable (HasOctets memory offset octets) :=
  inferInstanceAs (Decidable (_ = _))

/-- Whether the octets at the offset differ from the expected ones. -/
def differs (offset : ℕ) (expected : Bytes) : TracedRead ε Bool :=
  fun memory ↦ (.ok !(decide (HasOctets memory offset expected)), [⟨offset, expected.length⟩])

end

/-! ## Reads that succeed -/

section

variable {ε α β : Type} {memory : Memory}

/-- The read succeeds with the value. -/
def Yields (read : TracedRead ε α) (memory : Memory) (value : α) : Prop :=
  read.result memory = .ok value

theorem yields_pure (value : α) : Yields (pure value : TracedRead ε α) memory value := rfl

theorem yields_word (width offset : ℕ) :
    Yields (word width offset : TracedRead ε ℕ) memory (memory.littleEndian width offset) := rfl

theorem yields_differs (offset : ℕ) (expected : Bytes) :
    Yields (differs offset expected : TracedRead ε Bool) memory
      !(decide (HasOctets memory offset expected)) := rfl

theorem result_bind (read : TracedRead ε α) (next : α → TracedRead ε β) :
    (read >>= next).result memory =
      match read.result memory with
      | .error error => .error error
      | .ok value => (next value).result memory := by
  simp only [result, bind]
  rcases read memory with ⟨_ | _, spans⟩
  · rfl
  · rfl

theorem Yields.bind {read : TracedRead ε α} {next : α → TracedRead ε β} {value : α} {final : β}
    (hread : Yields read memory value) (hnext : Yields (next value) memory final) :
    Yields (read >>= next) memory final := by
  rw [Yields, result_bind, hread]
  exact hnext

theorem Yields.andM {first second : TracedRead ε Bool} {firstValue secondValue : Bool}
    (hfirst : Yields first memory firstValue) (hsecond : Yields second memory secondValue) :
    Yields (first <&&> second) memory (firstValue && secondValue) := by
  refine hfirst.bind ?_
  cases firstValue with
  | false => rfl
  | true => exact hsecond

theorem Yields.orM {first second : TracedRead ε Bool} {firstValue secondValue : Bool}
    (hfirst : Yields first memory firstValue) (hsecond : Yields second memory secondValue) :
    Yields (first <||> second) memory (firstValue || secondValue) := by
  refine hfirst.bind ?_
  cases firstValue with
  | true => rfl
  | false => exact hsecond

theorem Yields.refuse {condition : TracedRead ε Bool} {value : Bool}
    (hcondition : Yields condition memory value) (error : ε) :
    (refuse error condition).result memory = if value then .error error else .ok () := by
  rw [TracedRead.refuse, result_bind, hcondition]
  cases value with
  | false => rfl
  | true => rfl

/-! ## When a sequence of reads succeeds -/

theorem bind_eq_ok (read : TracedRead ε α) (next : α → TracedRead ε β) {final : β} :
    (read >>= next).result memory = .ok final ↔
      ∃ value, read.result memory = .ok value ∧ (next value).result memory = .ok final := by
  rw [result_bind]
  cases read.result memory with
  | error error => simp
  | ok value => simp

theorem Yields.bind_eq_ok {read : TracedRead ε α} {value : α} (hread : Yields read memory value)
    (next : α → TracedRead ε β) {final : β} :
    (read >>= next).result memory = .ok final ↔ (next value).result memory = .ok final := by
  rw [result_bind, hread]

theorem Yields.refuse_eq_ok {condition : TracedRead ε Bool} {value : Bool}
    (hcondition : Yields condition memory value) (error : ε) {final : Unit} :
    (TracedRead.refuse error condition).result memory = .ok final ↔ value = false := by
  rw [hcondition.refuse error]
  cases value with
  | false => simp
  | true => simp

theorem Yields.refuse_bind_eq_ok {condition : TracedRead ε Bool} {value : Bool}
    (hcondition : Yields condition memory value) (error : ε) (next : Unit → TracedRead ε α)
    {final : α} :
    (TracedRead.refuse error condition >>= next).result memory = .ok final ↔
      value = false ∧ (next ()).result memory = .ok final := by
  simp only [TracedRead.bind_eq_ok, hcondition.refuse_eq_ok error, Unique.exists_iff]

end

end TracedRead

end TclB220G.Lib
