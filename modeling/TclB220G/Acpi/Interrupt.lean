import TclB220G.Kernel.Errno
import TclB220G.Kernel.Fwnode
import Mathlib.Logic.Function.Basic

/-!
# Interrupts of an ACPI firmware node

`acpi_fwnode_irq_get` looks an interrupt up among the native interrupts of a node and, past their
end, among the entries of its `interrupts-extended` property.  How many native interrupts there are
is found by looking them up in turn until a lookup fails.

The loop takes every failed lookup for the end of the list.  The interrupts are therefore numbered
as one concatenated list only if no native lookup up to the index fails for another reason, or if
the entry that is then taken by mistake fails with the same error.
-/

namespace TclB220G.Acpi

open Kernel Kernel.Errno

/-- What the firmware describes for one node and how the interrupt core maps a specifier.  A native
interrupt is given by the outcome of its lookup.  A mapping is zero where none can be made. -/
structure Firmware (Node : Type) where
  native : List (Except Errno ℕ)
  extended : List (Except Errno (ReferenceArgs Node))
  noSuchInterrupt : Errno
  noSuchReference : Errno
  irqCreateFwspecMapping : Node → List (BitVec 32) → ℕ

/-- How the loop over the native interrupts ended. -/
inductive Scan
  | found (start : ℕ)
  | stopped (nativeIrqs : ℕ)
  deriving DecidableEq, Repr

section

variable {Node : Type}

namespace Firmware

def acpiIrqGet (firmware : Firmware Node) (index : ℕ) : Except Errno ℕ :=
  (firmware.native[index]?).getD (.error firmware.noSuchInterrupt)

/-- The call `fwnode_property_get_reference_args` on `interrupts-extended`. -/
def getReferenceArgs (firmware : Firmware Node) (entry : ℕ) :
    Except Errno (ReferenceArgs Node) :=
  (firmware.extended[entry]?).getD (.error firmware.noSuchReference)

/-- The size of `irq_fwspec.param`. -/
def paramCount : ℕ := 16

/-- The loop over the native interrupts, `steps` of which are left. -/
def scanNative (firmware : Firmware Node) (index : ℕ) : ℕ → ℕ → Scan
  | 0, nativeIrqs => .stopped nativeIrqs
  | steps + 1, nativeIrqs =>
    match firmware.acpiIrqGet nativeIrqs with
    | .error _ => .stopped nativeIrqs
    | .ok start =>
      if nativeIrqs = index then .found start
      else firmware.scanNative index steps (nativeIrqs + 1)

variable [DecidableEq Node]

/-- The value returned and the references held on firmware nodes. -/
def acpiFwnodeIrqGet (firmware : Firmware Node) (index : ℕ) (refs : Node → ℕ) :
    ℤ × (Node → ℕ) :=
  match firmware.scanNative index (index + 1) 0 with
  | .found start => (start, refs)
  | .stopped nativeIrqs =>
    match firmware.getReferenceArgs (index - nativeIrqs) with
    | .error errno => (errno.ret, refs)
    | .ok reference =>
      let held := Function.update refs reference.fwnode (refs reference.fwnode + 1)
      let put := Function.update held reference.fwnode (held reference.fwnode - 1)
      if reference.args.length = 0 ∨ paramCount < reference.args.length then (EINVAL.ret, put)
      else
        -- The member `param` of a `struct irq_fwspec` has elements of type `u32`.
        let virq := firmware.irqCreateFwspecMapping reference.fwnode reference.cells
        (if virq = 0 then EINVAL.ret else virq, put)

omit [DecidableEq Node]

/-! ## The native interrupts -/

/-- The lookup of the native interrupt succeeds. -/
def Resolves (firmware : Firmware Node) (index : ℕ) : Prop :=
  ∃ start, firmware.native[index]? = some (.ok start)

/-- What the loop has found out when it ends. -/
def ScanSpec (firmware : Firmware Node) (index : ℕ) : Scan → Prop
  | .found start => firmware.native[index]? = some (.ok start) ∧ ∀ j < index, firmware.Resolves j
  | .stopped nativeIrqs =>
    nativeIrqs ≤ index ∧ (∀ j < nativeIrqs, firmware.Resolves j) ∧ ¬firmware.Resolves nativeIrqs

variable (firmware : Firmware Node)

theorem acpiIrqGet_ok (index start : ℕ) :
    firmware.acpiIrqGet index = .ok start ↔ firmware.native[index]? = some (.ok start) := by
  unfold acpiIrqGet
  cases firmware.native[index]? with
  | none => simp
  | some outcome => simp

theorem scanNative_spec (index steps nativeIrqs : ℕ) (hsteps : nativeIrqs + steps = index + 1)
    (hindex : nativeIrqs ≤ index) (hbelow : ∀ j < nativeIrqs, firmware.Resolves j) :
    firmware.ScanSpec index (firmware.scanNative index steps nativeIrqs) := by
  induction steps generalizing nativeIrqs with
  | zero => omega
  | succ steps ih =>
    unfold scanNative
    cases hlookup : firmware.acpiIrqGet nativeIrqs with
    | error errno =>
      refine ⟨hindex, hbelow, fun hresolves ↦ ?_⟩
      obtain ⟨start, hstart⟩ := hresolves
      rw [(firmware.acpiIrqGet_ok nativeIrqs start).2 hstart] at hlookup
      cases hlookup
    | ok start =>
      have hstart := (firmware.acpiIrqGet_ok nativeIrqs start).1 hlookup
      dsimp only
      split
      · next hlast =>
        subst hlast
        exact ⟨hstart, hbelow⟩
      · next hnot =>
        apply ih
        · omega
        · exact Nat.lt_of_le_of_ne hindex hnot
        · intro j hj
          rcases Nat.lt_succ_iff_lt_or_eq.1 hj with hlt | heq
          · exact hbelow j hlt
          · exact ⟨start, heq ▸ hstart⟩

theorem scanNative_start (index : ℕ) :
    firmware.ScanSpec index (firmware.scanNative index (index + 1) 0) :=
  firmware.scanNative_spec index (index + 1) 0 (Nat.zero_add _) (Nat.zero_le _)
    fun _ hj ↦ absurd hj (Nat.not_lt_zero _)

/-! ## The concatenated list -/

/-- The interrupt that an entry of `interrupts-extended` describes, or the error it leads to. -/
def extendedIrq (firmware : Firmware Node) (entry : ℕ) : ℤ :=
  match firmware.getReferenceArgs entry with
  | .error errno => errno.ret
  | .ok reference =>
    if reference.args.length = 0 ∨ paramCount < reference.args.length then EINVAL.ret
    else
      let virq := firmware.irqCreateFwspecMapping reference.fwnode reference.cells
      if virq = 0 then EINVAL.ret else virq

/-- What an index denotes in the list of native interrupts followed by the extended ones.  A native
interrupt that cannot be looked up hides everything from it on behind its error. -/
def concatenatedIrq (extended : ℕ → ℤ) : List (Except Errno ℕ) → ℕ → ℤ
  | [], index => extended index
  | .error errno :: _, _ => errno.ret
  | .ok start :: _, 0 => start
  | .ok _ :: native, index + 1 => concatenatedIrq extended native index

/-- The loop runs into a native interrupt that is there and cannot be looked up, and the extended
entry it then takes does not give the same error. -/
def Misnumbers (firmware : Firmware Node) (index : ℕ) : Prop :=
  ∃ j ≤ index, ∃ errno : Errno, firmware.native[j]? = some (.error errno) ∧
    (∀ k < j, firmware.Resolves k) ∧ firmware.extendedIrq (index - j) ≠ errno.ret

/-- Interrupts that resolve shift the list by one each. -/
theorem concatenatedIrq_drop (extended : ℕ → ℤ) (native : List (Except Errno ℕ)) (index j : ℕ)
    (hj : j ≤ index) (hresolves : ∀ k < j, ∃ start, native[k]? = some (.ok start)) :
    concatenatedIrq extended native index = concatenatedIrq extended (native.drop j) (index - j) := by
  induction j generalizing native index with
  | zero => rfl
  | succ j ih =>
    obtain ⟨start, hstart⟩ := hresolves 0 (Nat.succ_pos j)
    obtain ⟨index, rfl⟩ := Nat.exists_eq_add_of_le' hj
    cases native with
    | nil => cases hstart
    | cons outcome native =>
      rw [List.getElem?_cons_zero, Option.some.injEq] at hstart
      subst hstart
      rw [List.drop_succ_cons, ← Nat.add_assoc, concatenatedIrq, Nat.add_sub_add_right]
      apply ih native (index + j) (Nat.le_add_left j index)
      intro k hk
      exact hresolves (k + 1) (Nat.succ_lt_succ hk)

theorem concatenatedIrq_head (extended : ℕ → ℤ) (native : List (Except Errno ℕ)) (index : ℕ) :
    concatenatedIrq extended native index =
      match native.head?, index with
      | none, index => extended index
      | some (.error errno), _ => errno.ret
      | some (.ok start), 0 => (start : ℤ)
      | some (.ok _), index + 1 => concatenatedIrq extended native.tail index := by
  rcases native with - | ⟨errno | start, native⟩
  · rfl
  · rfl
  · cases index <;> rfl

theorem concatenatedIrq_at (index j : ℕ) (hj : j ≤ index) (hresolves : ∀ k < j, firmware.Resolves k) :
    concatenatedIrq firmware.extendedIrq firmware.native index =
      match firmware.native[j]?, index - j with
      | none, entry => firmware.extendedIrq entry
      | some (.error errno), _ => errno.ret
      | some (.ok start), 0 => (start : ℤ)
      | some (.ok _), entry + 1 =>
        concatenatedIrq firmware.extendedIrq (firmware.native.drop j).tail entry := by
  rw [concatenatedIrq_drop _ _ index j hj hresolves, concatenatedIrq_head, List.head?_drop]

variable [DecidableEq Node]

/-- The references are balanced on every path. -/
theorem acpiFwnodeIrqGet_eq (index : ℕ) (refs : Node → ℕ) :
    firmware.acpiFwnodeIrqGet index refs =
      (match firmware.scanNative index (index + 1) 0 with
        | .found start => (start : ℤ)
        | .stopped nativeIrqs => firmware.extendedIrq (index - nativeIrqs), refs) := by
  unfold acpiFwnodeIrqGet
  cases firmware.scanNative index (index + 1) 0 with
  | found start => rfl
  | stopped nativeIrqs =>
    dsimp only
    unfold extendedIrq
    cases firmware.getReferenceArgs (index - nativeIrqs) with
    | error errno => rfl
    | ok reference =>
      have hput : Function.update
          (Function.update refs reference.fwnode (refs reference.fwnode + 1)) reference.fwnode
          (Function.update refs reference.fwnode (refs reference.fwnode + 1) reference.fwnode - 1) =
          refs := by
        rw [Function.update_idem, Function.update_self, Nat.add_sub_cancel, Function.update_eq_self]
      dsimp only
      rw [hput]
      split
      · rfl
      · rfl

/-- An index denotes its place in the concatenated list, and every reference is released, unless
the loop takes a native interrupt that cannot be looked up for the end of the list. -/
theorem acpiFwnodeIrqGet_concatenated_iff (firmware : Firmware Node) (index : ℕ)
    (refs : Node → ℕ) :
    firmware.acpiFwnodeIrqGet index refs =
        (concatenatedIrq firmware.extendedIrq firmware.native index, refs) ↔
      ¬firmware.Misnumbers index := by
  rw [acpiFwnodeIrqGet_eq, Prod.mk.injEq, and_iff_left rfl]
  have hspec := firmware.scanNative_start index
  cases hscan : firmware.scanNative index (index + 1) 0 with
  | found start =>
    rw [hscan] at hspec
    obtain ⟨hstart, hbelow⟩ := hspec
    rw [concatenatedIrq_at firmware index index (Nat.le_refl index) hbelow, hstart, Nat.sub_self]
    apply iff_of_true rfl
    intro h
    obtain ⟨j, hj, errno, hfails, -⟩ := h
    rcases Nat.lt_or_eq_of_le hj with hlt | heq
    · obtain ⟨other, hother⟩ := hbelow j hlt
      rw [hother] at hfails
      cases hfails
    · rw [heq, hstart] at hfails
      cases hfails
  | stopped nativeIrqs =>
    rw [hscan] at hspec
    obtain ⟨hindex, hbelow, hstops⟩ := hspec
    rw [concatenatedIrq_at firmware index nativeIrqs hindex hbelow]
    have hunique : ∀ j ≤ index, ∀ errno : Errno, firmware.native[j]? = some (.error errno) →
        (∀ k < j, firmware.Resolves k) → j = nativeIrqs := by
      intro j _ errno hfails hresolves
      rcases Nat.lt_trichotomy j nativeIrqs with hlt | heq | hgt
      · obtain ⟨other, hother⟩ := hbelow j hlt
        rw [hother] at hfails
        cases hfails
      · exact heq
      · exact absurd (hresolves nativeIrqs hgt) hstops
    cases hnative : firmware.native[nativeIrqs]? with
    | none =>
      apply iff_of_true rfl
      intro h
      obtain ⟨j, hj, errno, hfails, hresolves, -⟩ := h
      rw [hunique j hj errno hfails hresolves, hnative] at hfails
      cases hfails
    | some outcome =>
      cases outcome with
      | ok start => exact absurd ⟨start, hnative⟩ hstops
      | error errno =>
        constructor
        · intro hsame h
          obtain ⟨j, hj, other, hfails, hresolves, hother⟩ := h
          obtain rfl := hunique j hj other hfails hresolves
          rw [hnative, Option.some.injEq, Except.error.injEq] at hfails
          exact hother (hfails ▸ hsame)
        · intro hnot
          by_contra hother
          exact hnot ⟨nativeIrqs, hindex, errno, hnative, hbelow, hother⟩

end Firmware

end

/-- One native interrupt whose controller has not probed yet, and one extended interrupt. -/
def deferredNative : Firmware ℕ where
  native := [.error EPROBE_DEFER]
  extended := [.ok ⟨3, [40]⟩]
  noSuchInterrupt := EINVAL
  noSuchReference := ENOENT
  irqCreateFwspecMapping := fun _ params ↦ (params.headD 0).toNat

/-- Index `0` gives the extended interrupt `40` in place of the deferral. -/
theorem acpiFwnodeIrqGet_deferredNative :
    deferredNative.acpiFwnodeIrqGet 0 (fun _ ↦ 0) = (40, fun _ ↦ 0) ∧
      deferredNative.acpiFwnodeIrqGet 0 (fun _ ↦ 0) ≠
        (Firmware.concatenatedIrq deferredNative.extendedIrq deferredNative.native 0,
          fun _ ↦ 0) := by
  have hcall : deferredNative.acpiFwnodeIrqGet 0 (fun _ ↦ 0) = (40, fun _ ↦ 0) := by
    rw [Firmware.acpiFwnodeIrqGet_eq]
    rfl
  refine ⟨hcall, ?_⟩
  rw [hcall]
  intro h
  exact absurd (congrArg Prod.fst h) (by decide)

end TclB220G.Acpi
