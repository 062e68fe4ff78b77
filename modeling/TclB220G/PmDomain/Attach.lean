import TclB220G.PmDomain.Registry

/-!
# Attaching a device to its power domain

`genpd_dev_pm_attach` counts the references in the property `power-domains` of a device and attaches the
device if there is exactly one.  The count is a length or, if an entry cannot be read, a negative error.
Every count other than one means that there is nothing to attach, the negative ones too.  So the caller
`dev_pm_domain_attach` takes a list that it could not read for no list.  An empty entry gives the error
that also marks the end, so what stands behind it is not counted.
-/

namespace TclB220G.PmDomain

open Kernel Kernel.Errno

/-- The entries of the property, each with the outcome of reading it: an empty one gives `-ENOENT`, as
does every position past the end.  Positions are of type `unsigned int`. -/
structure ReferenceList (Node : Type) where
  entries : List (Except Errno (ReferenceArgs Node))
  bounded : entries.length < 2 ^ 32

/-- The power domain that a device is attached to. -/
inductive Attachment (Domain : Type) where
  | acpi
  | genpd (domain : Domain)
  | other
  deriving DecidableEq, Repr

structure PmDevice (Node Domain : Type) where
  ofNode : Bool
  /-- The firmware node, by what its property holds. -/
  fwnode : Option (ReferenceList Node)
  hasPowerDomains : Bool
  pmDomain : Option (Attachment Domain)

/-- What the rest of the kernel decides. -/
structure AttachCalls (Domain : Type) where
  deferredProbeCheckState : Errno
  genpdAddDevice : Domain → Option Errno
  genpdPowerOn : Domain → Option Errno
  acpiDevPmAttach : Bool
  ofCountPhandles : ℤ
  ofGenpdDevPmAttach : Except Errno Domain

section

variable {Node Domain : Type} [DecidableEq Node]

namespace ReferenceList

/-- The function `fwnode_property_get_reference_args` at a position. -/
def read (list : ReferenceList Node) (index : ℕ) : Except Errno (ReferenceArgs Node) :=
  (list.entries[index]?).getD (.error ENOENT)

/-- Every entry can be read. -/
def Readable (list : ReferenceList Node) : Prop := ∀ entry ∈ list.entries, entry.isOk

omit [DecidableEq Node] in
theorem lt_of_read_ok {list : ReferenceList Node} {index : ℕ} {args : ReferenceArgs Node}
    (h : list.read index = .ok args) : index < list.entries.length := by
  by_contra hend
  rw [read, List.getElem?_eq_none (Nat.le_of_not_lt hend)] at h
  cases h

omit [DecidableEq Node] in
theorem Readable.isOk_read_iff {list : ReferenceList Node} (hreadable : list.Readable) (index : ℕ) :
    (list.read index).isOk ↔ index < list.entries.length := by
  constructor
  · intro hok
    cases hread : list.read index with
    | ok args => exact lt_of_read_ok hread
    | error errno => simp [hread, Except.isOk, Except.toBool] at hok
  · intro hlt
    rw [read, List.getElem?_eq_getElem hlt, Option.getD_some]
    exact hreadable _ (List.getElem_mem hlt)

/-- The loop of the count.  It ends, as a list has an end. -/
def countFrom (list : ReferenceList Node) (count : ℕ) : ℤ :=
  match h : list.read count with
  | .error errno => if errno = ENOENT then (BitVec.ofNat 32 count).toInt else errno.ret
  | .ok _ => list.countFrom (count + 1)
termination_by list.entries.length - count
decreasing_by
  have hlt := lt_of_read_ok h
  omega

end ReferenceList

def fwnodeGenpdCountReferences (list : ReferenceList Node) : ℤ := list.countFrom 0

variable (calls : AttachCalls Domain) (registry : Registry Node Domain)

variable (device : PmDevice Node Domain)

def genpdDevPmCountDomains (list : ReferenceList Node) : ℤ :=
  if device.ofNode then calls.ofCountPhandles else fwnodeGenpdCountReferences list

/-- The function `__fwnode_genpd_dev_pm_attach` with power on. -/
def fwnodeGenpdDevPmAttach (list : ReferenceList Node) (index : ℕ) :
    ℤ × PmDevice Node Domain :=
  match list.read index with
  | .error errno => (errno.ret, device)
  | .ok args =>
    match fwnodeGenpdGetFromProvider registry (some args) with
    | .error _ => (calls.deferredProbeCheckState.ret, device)
    | .ok domain =>
      match calls.genpdAddDevice domain with
      | some errno => (errno.ret, device)
      | none =>
        match calls.genpdPowerOn domain with
        | some _ => (EPROBE_DEFER.ret, { device with pmDomain := none })
        | none => (1, { device with pmDomain := some (.genpd domain) })

def genpdDevPmAttach : ℤ × PmDevice Node Domain :=
  match device.fwnode with
  | none => (0, device)
  | some list =>
    if genpdDevPmCountDomains calls device list ≠ 1 then (0, device)
    else if device.ofNode then
      match calls.ofGenpdDevPmAttach with
      | .error errno => (errno.ret, device)
      | .ok domain => (1, { device with pmDomain := some (.genpd domain) })
    else fwnodeGenpdDevPmAttach calls registry device list 0

def devPmDomainAttach : ℤ × PmDevice Node Domain :=
  if device.pmDomain.isSome then (0, device)
  else
    let result :=
      if device.hasPowerDomains then genpdDevPmAttach calls registry device
      else if calls.acpiDevPmAttach then (1, { device with pmDomain := some .acpi })
      else genpdDevPmAttach calls registry device
    (if result.1 < 0 then result.1 else 0, result.2)

/-! ## The count -/

namespace ReferenceList

omit [DecidableEq Node] in
/-- The count stops at the first entry that cannot be read or at the end. -/
theorem countFrom_stops (list : ReferenceList Node) (count : ℕ) (hcount : count ≤ list.entries.length) :
    ∃ stop errno, count ≤ stop ∧ stop ≤ list.entries.length ∧
      (∀ index, count ≤ index → index < stop → (list.read index).isOk) ∧ list.read stop = .error errno ∧
      list.countFrom count = if errno = ENOENT then (BitVec.ofNat 32 stop).toInt else errno.ret := by
  fun_induction ReferenceList.countFrom list count with
  | case1 count hread =>
    exact ⟨count, ENOENT, Nat.le_refl _, hcount, fun index _ _ ↦ by omega, hread, (if_pos rfl).symm⟩
  | case2 count errno hread hne =>
    exact ⟨count, errno, Nat.le_refl _, hcount, fun index _ _ ↦ by omega, hread, (if_neg hne).symm⟩
  | case3 count args hread ih =>
    obtain ⟨stop, errno, hle, hend, hbefore, hstop, heq⟩ := ih (lt_of_read_ok hread)
    refine ⟨stop, errno, by omega, hend, fun index hfrom hto ↦ ?_, hstop, heq⟩
    rcases Nat.eq_or_lt_of_le hfrom with rfl | hlater
    · rw [hread]
      rfl
    · exact hbefore index hlater hto

/-- One entry that can be read, and none or an empty one behind it. -/
def CountsOne (list : ReferenceList Node) : Prop :=
  (list.read 0).isOk ∧ list.read 1 = .error ENOENT

omit [DecidableEq Node] in
theorem fwnodeGenpdCountReferences_eq_one_iff (list : ReferenceList Node) :
    fwnodeGenpdCountReferences list = 1 ↔ list.CountsOne := by
  obtain ⟨stop, errno, -, hend, hbefore, hstop, heq⟩ := list.countFrom_stops 0 (Nat.zero_le _)
  have hbounded := list.bounded
  rw [fwnodeGenpdCountReferences, heq]
  constructor
  · intro hone
    split at hone
    next herrno =>
      have hposition : stop = 1 := by
        rw [BitVec.toInt_eq_toNat_cond, BitVec.toNat_ofNat, Nat.mod_eq_of_lt (by omega)] at hone
        split at hone <;> omega
      subst hposition herrno
      exact ⟨hbefore 0 (Nat.le_refl 0) Nat.one_pos, hstop⟩
    next =>
      have hneg := errno.ret_neg
      omega
  · rintro ⟨hfirst, hsecond⟩
    have hpos : stop ≠ 0 := by
      rintro rfl
      rw [hstop] at hfirst
      cases hfirst
    have hle : ¬1 < stop := by
      intro hlt
      have hok := hbefore 1 (Nat.zero_le _) hlt
      rw [hsecond] at hok
      cases hok
    have hposition : stop = 1 := by omega
    subst hposition
    rw [hsecond] at hstop
    rw [if_pos (Except.error.inj hstop).symm]
    rfl

omit [DecidableEq Node] in
theorem Readable.countsOne_iff {list : ReferenceList Node} (hreadable : list.Readable) :
    list.CountsOne ↔ list.entries.length = 1 := by
  have hzero := hreadable.isOk_read_iff 0
  have hone := hreadable.isOk_read_iff 1
  constructor
  · rintro ⟨hfirst, hsecond⟩
    have hend : ¬1 < list.entries.length := fun hlt ↦ by
      have hok := hone.2 hlt
      rw [hsecond] at hok
      cases hok
    have hpos := hzero.1 hfirst
    omega
  · intro hlength
    exact ⟨hzero.2 (by omega), by rw [read, List.getElem?_eq_none (by omega)]; rfl⟩

end ReferenceList

/-! ## Attaching -/

/-- What attaching a device with a list of references is meant to return, and what its caller is meant
to make of it. -/
structure AttachesAsMeant (list : ReferenceList Node) : Prop where
  one : (genpdDevPmAttach calls registry device).1 = 1 →
    list.Readable ∧ list.entries.length = 1 ∧
      ∃ domain, (genpdDevPmAttach calls registry device).2.pmDomain = some (.genpd domain)
  zero : (genpdDevPmAttach calls registry device).1 = 0 → list.Readable ∧ list.entries.length ≠ 1
  otherwise : (genpdDevPmAttach calls registry device).1 = 0 ∨
    (genpdDevPmAttach calls registry device).1 = 1 ∨ (genpdDevPmAttach calls registry device).1 < 0
  needed : ¬list.Readable → (devPmDomainAttach calls registry device).1 = 0 →
    (devPmDomainAttach calls registry device).2.pmDomain ≠ none

/-- The first reference leads to a domain that takes the device and powers on. -/
def Attachable (list : ReferenceList Node) : Prop :=
  ∃ args domain, list.read 0 = .ok args ∧ fwnodeGenpdGetFromProvider registry (some args) = .ok domain ∧
    calls.genpdAddDevice domain = none ∧ calls.genpdPowerOn domain = none

/-- Attaching by the first reference gives the device the domain of the reference, or it fails. -/
theorem fwnodeGenpdDevPmAttach_cases (device : PmDevice Node Domain) (list : ReferenceList Node) :
    (Attachable calls registry list ∧ ∃ domain, fwnodeGenpdDevPmAttach calls registry device list 0 =
        (1, { device with pmDomain := some (.genpd domain) })) ∨
      ¬Attachable calls registry list ∧ (fwnodeGenpdDevPmAttach calls registry device list 0).1 < 0 := by
  unfold fwnodeGenpdDevPmAttach
  split
  next hread => exact .inr ⟨by simp [Attachable, hread], ret_neg _⟩
  next args hread =>
  split
  next hdomain => exact .inr ⟨by simp [Attachable, hread, hdomain], ret_neg _⟩
  next domain hdomain =>
  split
  next hadd => exact .inr ⟨by simp [Attachable, hread, hdomain, hadd], ret_neg _⟩
  next hadd =>
  split
  next hpower => exact .inr ⟨by simp [Attachable, hread, hdomain, hpower], ret_neg _⟩
  next hpower => exact .inl ⟨⟨args, domain, hread, hdomain, hadd, hpower⟩, domain, rfl⟩

/-- Every list that does not count as one reference leaves the device as it is. -/
theorem genpdDevPmAttach_eq {device : PmDevice Node Domain} {list : ReferenceList Node}
    (hnode : device.ofNode = false) (hlist : device.fwnode = some list) [Decidable list.CountsOne] :
    genpdDevPmAttach calls registry device =
      if list.CountsOne then fwnodeGenpdDevPmAttach calls registry device list 0 else (0, device) := by
  have hcount : genpdDevPmCountDomains calls device list = fwnodeGenpdCountReferences list := by
    simp [genpdDevPmCountDomains, hnode]
  simp only [genpdDevPmAttach, hlist, hcount, hnode, ne_eq,
    ReferenceList.fwnodeGenpdCountReferences_eq_one_iff, ite_not, Bool.false_eq_true, if_false]

/-- A negative result reaches the caller unless the device has a domain otherwise. -/
theorem devPmDomainAttach_needed (device : PmDevice Node Domain)
    (hneg : (genpdDevPmAttach calls registry device).1 < 0)
    (hzero : (devPmDomainAttach calls registry device).1 = 0) :
    (devPmDomainAttach calls registry device).2.pmDomain ≠ none := by
  by_cases hset : device.pmDomain.isSome
  · simpa [devPmDomainAttach, hset] using Option.isSome_iff_ne_none.1 hset
  by_cases hacpi : device.hasPowerDomains = false ∧ calls.acpiDevPmAttach
  · simp [devPmDomainAttach, hset, hacpi.1, hacpi.2]
  · -- The result is the negative one, which is not zero.
    have hresult : (devPmDomainAttach calls registry device).1 =
        (genpdDevPmAttach calls registry device).1 := by
      cases hproperty : device.hasPowerDomains <;> simp_all [devPmDomainAttach]
    omega

open Classical in
/-- **Attaching a device.** The result means what it is documented to mean exactly if every entry can be
read, or if only the second entry is empty and attaching by the first one fails. -/
theorem genpdDevPmAttach_asMeant_iff (calls : AttachCalls Domain) (registry : Registry Node Domain)
    (device : PmDevice Node Domain) (list : ReferenceList Node) (hnode : device.ofNode = false)
    (hlist : device.fwnode = some list) :
    AttachesAsMeant calls registry device list ↔
      list.Readable ∨ list.CountsOne ∧ ¬Attachable calls registry list := by
  have heq := genpdDevPmAttach_eq calls registry hnode hlist
  by_cases hone : list.CountsOne
  · rw [if_pos hone] at heq
    rcases fwnodeGenpdDevPmAttach_cases calls registry device list with
      ⟨hattachable, domain, hattached⟩ | ⟨hrefused, hneg⟩
    · -- The device is attached, so the list must be one reference and no more.
      rw [hattached] at heq
      constructor
      · exact fun hmeant ↦ .inl (hmeant.one (by rw [heq])).1
      · rintro (hreadable | ⟨-, hrefused⟩)
        · exact
            { one := fun _ ↦ ⟨hreadable, hreadable.countsOne_iff.1 hone, domain, by rw [heq]⟩
              zero := fun h ↦ by rw [heq] at h; cases h
              otherwise := .inr (.inl (by rw [heq]))
              needed := fun hunread ↦ absurd hreadable hunread }
        · exact absurd hattachable hrefused
    · rw [← heq] at hneg
      exact iff_of_true
        { one := fun h ↦ by omega
          zero := fun h ↦ by omega
          otherwise := .inr (.inr hneg)
          needed := fun _ ↦ devPmDomainAttach_needed calls registry device hneg } (.inr ⟨hone, hrefused⟩)
  · rw [if_neg hone] at heq
    constructor
    · exact fun hmeant ↦ .inl (hmeant.zero (by rw [heq])).1
    · rintro (hreadable | ⟨hcounts, -⟩)
      · exact
          { one := fun h ↦ by rw [heq] at h; cases h
            zero := fun _ ↦ ⟨hreadable, fun hlength ↦ hone (hreadable.countsOne_iff.2 hlength)⟩
            otherwise := .inl (by rw [heq])
            needed := fun hunread ↦ absurd hreadable hunread }
      · exact absurd hcounts hone

end

/-- Every call succeeds, and the ACPI domain does not apply. -/
def willingAttach : AttachCalls ℕ := ⟨EPROBE_DEFER, fun _ ↦ none, fun _ ↦ none, false, 0, .error ENODEV⟩

/-- A device without a device tree node. -/
def consumer (list : ReferenceList ℕ) : PmDevice ℕ ℕ := ⟨false, some list, true, none⟩

/-- The first reference cannot be read. -/
def unreadableList : ReferenceList ℕ := ⟨[.error EINVAL], by decide⟩

/-- The second of three references is empty. -/
def interruptedList : ReferenceList ℕ := ⟨[.ok ⟨7, [0]⟩, .error ENOENT, .ok ⟨7, [0]⟩], by decide⟩

/-- The provider of the references. -/
def sevenRegistry : Registry ℕ ℕ := ((emptyWorld [0]).run [addSeven [some 0]]).registry

/-- A device whose list cannot be read is probed without a power domain, and one whose list has an empty
entry after the first is attached by the first. -/
theorem genpdDevPmAttach_unreadable :
    (devPmDomainAttach willingAttach sevenRegistry (consumer unreadableList) =
        (0, consumer unreadableList) ∧
      (consumer unreadableList).pmDomain = none ∧
      ¬AttachesAsMeant willingAttach sevenRegistry (consumer unreadableList) unreadableList) ∧
    (genpdDevPmAttach willingAttach sevenRegistry (consumer interruptedList)).1 = 1 ∧
      ¬AttachesAsMeant willingAttach sevenRegistry (consumer interruptedList) interruptedList := by
  classical
  have hunread : ¬unreadableList.Readable := fun hreadable ↦
    Bool.false_ne_true (hreadable _ (List.mem_singleton_self _))
  have hinterrupted : ¬interruptedList.Readable := fun hreadable ↦
    Bool.false_ne_true (hreadable (.error ENOENT) (by simp [interruptedList]))
  have hcounts : ¬unreadableList.CountsOne := fun hone ↦ Bool.false_ne_true hone.1
  have hattach : devPmDomainAttach willingAttach sevenRegistry (consumer unreadableList) =
      (0, consumer unreadableList) := by
    have heq := genpdDevPmAttach_eq willingAttach sevenRegistry rfl (rfl : (consumer unreadableList).fwnode = _)
    rw [if_neg hcounts] at heq
    simp only [devPmDomainAttach, heq]
    rfl
  have hfirst : (genpdDevPmAttach willingAttach sevenRegistry (consumer interruptedList)).1 = 1 := by
    rw [genpdDevPmAttach_eq willingAttach sevenRegistry rfl rfl, if_pos ⟨rfl, rfl⟩]
    decide
  refine ⟨⟨hattach, rfl, fun hmeant ↦ ?_⟩, hfirst, fun hmeant ↦ hinterrupted (hmeant.one hfirst).1⟩
  exact hmeant.needed hunread (by rw [hattach]) (by rw [hattach]; rfl)

/-- A list of one reference that can be read. -/
def oneReference : ReferenceList ℕ := ⟨[.ok ⟨7, [0]⟩], by decide⟩

theorem genpdDevPmAttach_asMeant_iff_oneReference :
    AttachesAsMeant willingAttach sevenRegistry (consumer oneReference) oneReference :=
  (genpdDevPmAttach_asMeant_iff _ _ _ _ rfl rfl).2 (.inl (List.forall_mem_singleton.2 rfl))

end TclB220G.PmDomain
