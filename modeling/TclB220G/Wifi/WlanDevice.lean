import Mathlib.Data.List.Forall2
import TclB220G.Wifi.Coordinator

/-!
# The resources of the WLAN device

`wlan_device` is one stage of the coordinator.  Here it is described down to the resources that it
copies: the firmware gives a list of resources of any length and any kind, the loop compares the
memory resources among them with three windows in order, and the interrupts of the node have to be
the hardware interrupts of the board.  Only then is the device registered, with the resources that
were checked.

The coordinator sees of a resource whether it is memory, where it starts and how long it is.  At the
end, its check of what it sees is shown to accept the same lists.
-/

namespace TclB220G.Wifi.Wlan

open Kernel Lib

/-! ## Model of the source -/

/-- What is used of `struct resource`; its other fields are zero in every resource built here. -/
structure Resource where
  start : BitVec 64
  stop : BitVec 64
  flags : BitVec 64
  name : Option String
  deriving DecidableEq, Repr

namespace Resource

variable (res : Resource)

/-- `resource_size`, in the arithmetic of `resource_size_t`. -/
def size : BitVec 64 := res.stop - res.start + 1

/-- `resource_type` compared with `IORESOURCE_MEM`. -/
def isMem : Bool := res.flags &&& 0x1f00 = 0x200

/-- A resource with the bounds and the flags of another one and nothing else. -/
def copied : Resource := { res with name := none }

def named (name : String) : Resource := { res with name := some name }

/-- The comparison of an entry with a window. -/
def spans (start size : BitVec 64) : Bool := res.start = start ∧ res.size = size

end Resource

/-- What the firmware and the kernel around `wlan_device` answer. -/
structure Firmware where
  msaFixedPerm : Bool
  acpiDevGetResources : Except Errno (List Resource)
  acpiIrqGet : ℕ → Except Errno Resource
  /-- The hardware interrupt in the data of an interrupt that has any. -/
  irqGetIrqData : BitVec 32 → Option (BitVec 64)
  platformDeviceRegisterFull : List Resource → Except Errno Unit

inductive Event where
  | listObtained
  | listFreed
  | registered (res : List Resource)
  deriving DecidableEq, Repr

/-- `nmem` and the first two elements of `res` in the loop over the resources. -/
structure Scan where
  nmem : ℕ
  membase : Resource
  msa : Resource
  deriving DecidableEq, Repr

def Scan.initial : Scan := ⟨0, ⟨0, 0, 0, none⟩, ⟨0, 0, 0, none⟩⟩

/-- The body of the loop, with no result where it leaves for the label `free_resources`. -/
def scanEntry (scan : Scan) (entry : Resource) : Option Scan :=
  if !entry.isMem then some scan
  else if scan.nmem = 0 ∧ entry.spans 0x18800000 0x800000 then
    some { scan with membase := entry.copied, nmem := scan.nmem + 1 }
  else if scan.nmem = 1 ∧ entry.spans 0xc250000 0x10 then some { scan with nmem := scan.nmem + 1 }
  else if scan.nmem = 2 ∧ entry.spans 0x93900000 0x200000 then
    some { scan with msa := entry.copied, nmem := scan.nmem + 1 }
  else none

def scanResources (scan : Scan) : List Resource → Option Scan
  | [] => if scan.nmem = 3 then some scan else none
  | entry :: rest =>
    match scanEntry scan entry with
    | none => none
    | some scan => scanResources scan rest

/-- The interrupt number is an `unsigned int`, so the upper half of `start` is dropped. -/
def firmwareIrq (firmware : Firmware) (index gsi : ℕ) (name : Option String) :
    Except Errno Resource :=
  match firmware.acpiIrqGet index with
  | .error errno => .error errno
  | .ok res =>
    match firmware.irqGetIrqData (res.start.setWidth 32) with
    | none => .error .EINVAL
    | some hwirq => if hwirq.toNat ≠ gsi then .error .EINVAL else .ok { res with name := name }

def firmwareIrqs (firmware : Firmware) : List ℕ → Except Errno (List Resource)
  | [] => .ok []
  | index :: rest =>
    match firmwareIrq firmware index (446 + index) none with
    | .error errno => .error errno
    | .ok irq =>
      match firmwareIrqs firmware rest with
      | .error errno => .error errno
      | .ok irqs => .ok (irq :: irqs)

def addDevice (firmware : Firmware) (res : List Resource) : Except Errno Unit × List Event :=
  match firmware.platformDeviceRegisterFull res with
  | .error errno => (.error errno, [])
  | .ok () => (.ok (), [.registered res])

/-- The part of `wlan_device` after the resources have been checked and their list freed. -/
def registerScanned (firmware : Firmware) (scan : Scan) : Except Errno Unit × List Event :=
  match firmwareIrqs firmware (List.range 12) with
  | .error errno => (.error errno, [])
  | .ok irqs => addDevice firmware ([scan.membase.named "membase", scan.msa.named "msa"] ++ irqs)

/-- The result of `wlan_device` with the events in their order. -/
def wlanDevice (firmware : Firmware) : Except Errno Unit × List Event :=
  if !firmware.msaFixedPerm then (.error .EINVAL, [])
  else
    match firmware.acpiDevGetResources with
    | .error errno => (.error errno, [])
    | .ok resources =>
      match scanResources .initial resources with
      | none => (.error .EINVAL, [.listObtained, .listFreed])
      | some scan =>
        let (result, events) := registerScanned firmware scan
        (result, [.listObtained, .listFreed] ++ events)

/-! ## The scan of the memory resources -/

variable (scan : Scan)

theorem scanEntry_of_not_isMem {entry : Resource} (hmem : entry.isMem = false) :
    scanEntry scan entry = some scan := by
  simp [scanEntry, hmem]

/-- The scan sees the memory resources only. -/
theorem scanResources_filter (resources : List Resource) :
    scanResources scan (resources.filter Resource.isMem) = scanResources scan resources := by
  induction resources generalizing scan with
  | nil => rfl
  | cons entry rest ih =>
    cases hmem : entry.isMem with
    | false =>
      rw [List.filter_cons_of_neg (by simp [hmem]), ih, scanResources,
        scanEntry_of_not_isMem scan hmem]
    | true =>
      rw [List.filter_cons_of_pos hmem, scanResources, scanResources]
      cases scanEntry scan entry with
      | none => rfl
      | some next => exact ih next

section

variable {scan : Scan} {entry : Resource} (hmem : entry.isMem = true)

include hmem

theorem scanEntry_first (hnmem : scan.nmem = 0) :
    scanEntry scan entry =
      if entry.spans 0x18800000 0x800000 then some { scan with membase := entry.copied, nmem := 1 }
      else none := by
  simp [scanEntry, hmem, hnmem]

theorem scanEntry_second (hnmem : scan.nmem = 1) :
    scanEntry scan entry =
      if entry.spans 0xc250000 0x10 then some { scan with nmem := 2 } else none := by
  simp [scanEntry, hmem, hnmem]

theorem scanEntry_third (hnmem : scan.nmem = 2) :
    scanEntry scan entry =
      if entry.spans 0x93900000 0x200000 then some { scan with msa := entry.copied, nmem := 3 }
      else none := by
  simp [scanEntry, hmem, hnmem]

theorem scanEntry_full (hnmem : 3 ≤ scan.nmem) : scanEntry scan entry = none := by
  have hpast : scan.nmem ≠ 0 ∧ scan.nmem ≠ 1 ∧ scan.nmem ≠ 2 := by omega
  simp [scanEntry, hmem, hpast]

end

/-- Where a window is expected, the next memory resource has to span it. -/
theorem scanResources_window {scan : Scan} {mems : List Resource}
    (hmems : ∀ entry ∈ mems, entry.isMem = true) (hnmem : scan.nmem ≠ 3) (start size : BitVec 64)
    (next : Resource → Scan)
    (hentry : ∀ entry, entry.isMem = true →
      scanEntry scan entry = if entry.spans start size then some (next entry) else none)
    (result : Scan) :
    scanResources scan mems = some result ↔
      ∃ entry rest, mems = entry :: rest ∧ entry.spans start size = true ∧
        scanResources (next entry) rest = some result := by
  cases mems with
  | nil => simp [scanResources, hnmem]
  | cons entry rest =>
    rw [scanResources, hentry entry (hmems entry List.mem_cons_self)]
    cases hspans : entry.spans start size <;> simp [hspans]

theorem scanResources_full {scan : Scan} {mems : List Resource}
    (hmems : ∀ entry ∈ mems, entry.isMem = true) (hnmem : scan.nmem = 3) (result : Scan) :
    scanResources scan mems = some result ↔ mems = [] ∧ scan = result := by
  cases mems with
  | nil => simp [scanResources, hnmem]
  | cons entry rest =>
    have hfull : 3 ≤ scan.nmem := by omega
    simp [scanResources, scanEntry_full (hmems entry List.mem_cons_self) hfull]

/-- Three memory resources that span the windows in their order. -/
structure Windows (first second third : Resource) : Prop where
  first : first.spans 0x18800000 0x800000 = true
  second : second.spans 0xc250000 0x10 = true
  third : third.spans 0x93900000 0x200000 = true

/-- The scan succeeds if the memory resources are the three windows. -/
theorem scanResources_eq_some (resources : List Resource) (scan : Scan) :
    scanResources .initial resources = some scan ↔
      ∃ first second third, resources.filter Resource.isMem = [first, second, third] ∧
        Windows first second third ∧ scan = ⟨3, first.copied, third.copied⟩ := by
  have hmems : ∀ entry ∈ resources.filter Resource.isMem, entry.isMem = true :=
    fun entry hentry ↦ (List.mem_filter.mp hentry).2
  rw [← scanResources_filter]
  generalize resources.filter Resource.isMem = mems at hmems
  constructor
  · intro hscan
    rw [scanResources_window hmems (by decide) _ _ _ fun entry hmem ↦ scanEntry_first hmem rfl] at hscan
    obtain ⟨first, rest, rfl, hfirst, hscan⟩ := hscan
    have hrest := fun entry hentry ↦ hmems entry (List.mem_cons_of_mem first hentry)
    rw [scanResources_window hrest (by simp) _ _ _ fun entry hmem ↦ scanEntry_second hmem rfl] at hscan
    obtain ⟨second, rest, rfl, hsecond, hscan⟩ := hscan
    have hrest := fun entry hentry ↦ hrest entry (List.mem_cons_of_mem second hentry)
    rw [scanResources_window hrest (by simp) _ _ _ fun entry hmem ↦ scanEntry_third hmem rfl] at hscan
    obtain ⟨third, rest, rfl, hthird, hscan⟩ := hscan
    have hrest := fun entry hentry ↦ hrest entry (List.mem_cons_of_mem third hentry)
    obtain ⟨rfl, hresult⟩ := (scanResources_full hrest rfl scan).mp hscan
    exact ⟨first, second, third, rfl, ⟨hfirst, hsecond, hthird⟩, hresult.symm⟩
  · rintro ⟨first, second, third, rfl, hwindows, rfl⟩
    rw [scanResources, scanEntry_first (hmems first (by simp)) rfl, if_pos hwindows.first]
    simp only
    rw [scanResources, scanEntry_second (hmems second (by simp)) rfl, if_pos hwindows.second]
    simp only
    rw [scanResources, scanEntry_third (hmems third (by simp)) rfl, if_pos hwindows.third]
    rfl

/-! ## The interrupts -/

/-- The interrupt of an index is a given hardware interrupt. -/
def Resolves (firmware : Firmware) (index gsi : ℕ) (irq : Resource) : Prop :=
  ∃ res hwirq, firmware.acpiIrqGet index = .ok res ∧
    firmware.irqGetIrqData (res.start.setWidth 32) = some hwirq ∧ hwirq.toNat = gsi ∧
    irq = res.copied

variable (firmware : Firmware)

theorem firmwareIrq_eq_ok (index gsi : ℕ) (irq : Resource) :
    firmwareIrq firmware index gsi none = .ok irq ↔ Resolves firmware index gsi irq := by
  unfold firmwareIrq Resolves
  cases firmware.acpiIrqGet index with
  | error errno => simp
  | ok res =>
    cases hdata : firmware.irqGetIrqData (res.start.setWidth 32) with
    | none => simp [hdata]
    | some hwirq =>
      by_cases hgsi : hwirq.toNat = gsi
      · simp [hdata, hgsi, Resource.copied, eq_comm]
      · simp [hdata, hgsi]

theorem firmwareIrqs_eq_ok (indices : List ℕ) (irqs : List Resource) :
    firmwareIrqs firmware indices = .ok irqs ↔
      List.Forall₂ (fun index irq ↦ Resolves firmware index (446 + index) irq) indices irqs := by
  induction indices generalizing irqs with
  | nil => simp [firmwareIrqs, eq_comm]
  | cons index rest ih =>
    rw [firmwareIrqs, List.forall₂_cons_left_iff]
    constructor
    · intro hirqs
      cases hirq : firmwareIrq firmware index (446 + index) none with
      | error errno => simp [hirq] at hirqs
      | ok irq =>
        cases htail : firmwareIrqs firmware rest with
        | error errno => simp [hirq, htail] at hirqs
        | ok tail =>
          simp only [hirq, htail, Except.ok.injEq] at hirqs
          exact ⟨irq, tail, (firmwareIrq_eq_ok ..).mp hirq, (ih tail).mp htail, hirqs.symm⟩
    · rintro ⟨irq, tail, hirq, htail, rfl⟩
      rw [(firmwareIrq_eq_ok ..).mpr hirq, (ih tail).mpr htail]

/-! ## The device -/

/-- The resources describe the WLAN device of the board, and `res` is what is registered of it. -/
def Describes (firmware : Firmware) (resources res : List Resource) : Prop :=
  ∃ first second third irqs,
    resources.filter Resource.isMem = [first, second, third] ∧ Windows first second third ∧
    List.Forall₂ (fun index irq ↦ Resolves firmware index (446 + index) irq) (List.range 12) irqs ∧
    res = [first.copied.named "membase", third.copied.named "msa"] ++ irqs

/-- The events of the registration, which are none if it fails. -/
theorem mem_registerScanned (scan : Scan) (event : Event) :
    event ∈ (registerScanned firmware scan).2 ↔
      ∃ irqs, firmwareIrqs firmware (List.range 12) = .ok irqs ∧
        firmware.platformDeviceRegisterFull
          ([scan.membase.named "membase", scan.msa.named "msa"] ++ irqs) = .ok () ∧
        event = .registered ([scan.membase.named "membase", scan.msa.named "msa"] ++ irqs) := by
  rw [registerScanned]
  cases firmwareIrqs firmware (List.range 12) with
  | error errno => simp
  | ok irqs =>
    simp only [addDevice, Except.ok.injEq, exists_eq_left']
    cases firmware.platformDeviceRegisterFull _ <;> simp

theorem registerScanned_eq_ok (scan : Scan) :
    (registerScanned firmware scan).1 = .ok () ↔ (registerScanned firmware scan).2 ≠ [] := by
  rw [registerScanned]
  cases firmwareIrqs firmware (List.range 12) with
  | error errno => simp
  | ok irqs =>
    simp only [addDevice]
    cases firmware.platformDeviceRegisterFull _ <;> simp

/-- The list of resources is obtained. -/
def Obtains (firmware : Firmware) (resources : List Resource) : Prop :=
  firmware.msaFixedPerm = true ∧ firmware.acpiDevGetResources = .ok resources

/-- The ways through `wlan_device`. -/
theorem wlanDevice_cases :
    ((∀ resources, ¬Obtains firmware resources) ∧
      ∃ errno, wlanDevice firmware = (.error errno, [])) ∨
    ∃ resources, Obtains firmware resources ∧
      (scanResources .initial resources = none ∧
          wlanDevice firmware = (.error .EINVAL, [.listObtained, .listFreed]) ∨
        ∃ scan, scanResources .initial resources = some scan ∧
          wlanDevice firmware = ((registerScanned firmware scan).1,
            [.listObtained, .listFreed] ++ (registerScanned firmware scan).2)) := by
  unfold wlanDevice Obtains
  cases firmware.msaFixedPerm with
  | false => exact .inl ⟨by simp, .EINVAL, rfl⟩
  | true =>
    cases firmware.acpiDevGetResources with
    | error errno => exact .inl ⟨by simp, errno, rfl⟩
    | ok resources =>
      refine .inr ⟨resources, ⟨rfl, rfl⟩, ?_⟩
      cases hscan : scanResources .initial resources with
      | none => exact .inl ⟨rfl, by simp [hscan]⟩
      | some scan => exact .inr ⟨scan, rfl, by simp [hscan]⟩

theorem describes_iff (resources res : List Resource) :
    Describes firmware resources res ↔
      ∃ scan irqs, scanResources .initial resources = some scan ∧
        firmwareIrqs firmware (List.range 12) = .ok irqs ∧
        res = [scan.membase.named "membase", scan.msa.named "msa"] ++ irqs := by
  simp only [Describes, scanResources_eq_some, firmwareIrqs_eq_ok]
  constructor
  · rintro ⟨first, second, third, irqs, hmems, hwindows, hirqs, rfl⟩
    exact ⟨_, irqs, ⟨first, second, third, hmems, hwindows, rfl⟩, hirqs, rfl⟩
  · rintro ⟨_, irqs, ⟨first, second, third, hmems, hwindows, rfl⟩, hirqs, rfl⟩
    exact ⟨first, second, third, irqs, hmems, hwindows, hirqs, rfl⟩

theorem registered_mem_wlanDevice (res : List Resource) :
    .registered res ∈ (wlanDevice firmware).2 ↔
      ∃ resources, Obtains firmware resources ∧ Describes firmware resources res ∧
        firmware.platformDeviceRegisterFull res = .ok () := by
  rcases wlanDevice_cases firmware with ⟨hnone, errno, hrun⟩ | ⟨resources, hobtains, hway⟩
  · simp [hrun, hnone]
  · simp only [Obtains, hobtains.1, hobtains.2, true_and, Except.ok.injEq, exists_eq_left',
      describes_iff]
    rcases hway with ⟨hscan, hrun⟩ | ⟨scan, hscan, hrun⟩
    · simp [hrun, hscan]
    · have hlist : Event.registered res ∉ [Event.listObtained, Event.listFreed] := by simp
      rw [hrun, List.mem_append, or_iff_right hlist, mem_registerScanned]
      constructor
      · rintro ⟨irqs, hirqs, hregister, hres⟩
        rw [Event.registered.injEq] at hres
        exact ⟨⟨scan, irqs, hscan, hirqs, hres⟩, hres ▸ hregister⟩
      · rintro ⟨⟨found, irqs, hfound, hirqs, rfl⟩, hregister⟩
        cases Option.some.inj (hscan.symm.trans hfound)
        exact ⟨irqs, hirqs, hregister, rfl⟩

/-- The calls on the list of resources. -/
def Event.onList : Event → Bool
  | listObtained | listFreed => true
  | registered _ => false

theorem filter_onList_registerScanned (scan : Scan) :
    (registerScanned firmware scan).2.filter Event.onList = [] := by
  rw [List.filter_eq_nil_iff]
  intro event hevent
  obtain ⟨irqs, -, -, rfl⟩ := (mem_registerScanned firmware scan event).mp hevent
  simp [Event.onList]

/-- The list is freed once wherever it was obtained, and nowhere else. -/
theorem filter_onList_wlanDevice :
    (∃ resources, Obtains firmware resources) ∧
        (wlanDevice firmware).2.filter Event.onList = [.listObtained, .listFreed] ∨
      (∀ resources, ¬Obtains firmware resources) ∧ (wlanDevice firmware).2 = [] := by
  rcases wlanDevice_cases firmware with ⟨hnone, errno, hrun⟩ | ⟨resources, hobtains, hway⟩
  · exact .inr ⟨hnone, by rw [hrun]⟩
  · refine .inl ⟨⟨resources, hobtains⟩, ?_⟩
    rcases hway with ⟨-, hrun⟩ | ⟨scan, -, hrun⟩
    · rw [hrun]
      rfl
    · rw [hrun, List.filter_append, filter_onList_registerScanned]
      rfl

/-- `wlan_device` succeeds if it registers a device. -/
theorem wlanDevice_eq_ok :
    (wlanDevice firmware).1 = .ok () ↔ ∃ res, .registered res ∈ (wlanDevice firmware).2 := by
  rcases wlanDevice_cases firmware with ⟨-, errno, hrun⟩ | ⟨_, -, ⟨-, hrun⟩ | ⟨scan, -, hrun⟩⟩
  · simp [hrun]
  · simp [hrun]
  · rw [hrun]
    simp only [registerScanned_eq_ok]
    constructor
    · intro hevents
      obtain ⟨event, hevent⟩ := List.exists_mem_of_ne_nil _ hevents
      obtain ⟨irqs, -, -, rfl⟩ := (mem_registerScanned firmware scan event).mp hevent
      exact ⟨_, List.mem_append_right _ hevent⟩
    · rintro ⟨res, hres⟩
      have hmem : .registered res ∈ (registerScanned firmware scan).2 := by simpa using hres
      exact List.ne_nil_of_mem hmem

/-- The device is registered if the memory resources are the three windows, the interrupts are those
of the board and the registration itself succeeds.  Its resources are then the first and the third
window and the interrupts.  The list of resources is freed on every way on which it was obtained. -/
theorem wlanDevice_exact (firmware : Firmware) :
    (∀ res, .registered res ∈ (wlanDevice firmware).2 ↔
      ∃ resources, Obtains firmware resources ∧ Describes firmware resources res ∧
        firmware.platformDeviceRegisterFull res = .ok ()) ∧
    ((wlanDevice firmware).1 = .ok () ↔ ∃ res, .registered res ∈ (wlanDevice firmware).2) ∧
    ((∃ resources, Obtains firmware resources) ∧
        (wlanDevice firmware).2.filter Event.onList = [.listObtained, .listFreed] ∨
      (∀ resources, ¬Obtains firmware resources) ∧ (wlanDevice firmware).2 = []) :=
  ⟨registered_mem_wlanDevice firmware, wlanDevice_eq_ok firmware, filter_onList_wlanDevice firmware⟩

/-! ## The view of the coordinator -/

/-- What the coordinator sees of a resource. -/
def Resource.view (res : Resource) : AcpiResource := ⟨res.isMem, res.start.toNat, res.size.toNat⟩

theorem spans_iff_view (res : Resource) (start size : BitVec 64) :
    res.spans start size = true ↔ (res.view.start, res.view.size) = (start.toNat, size.toNat) := by
  simp [Resource.spans, Resource.view, BitVec.toNat_inj]

theorem map_nmem_spans (entry : Resource) (start size : BitVec 64) (next : Scan) :
    (if entry.spans start size then some next else none).map Scan.nmem =
      if some (start.toNat, size.toNat) = some (entry.view.start, entry.view.size) then
        some next.nmem
      else none := by
  have hspans := spans_iff_view entry start size
  by_cases h : entry.spans start size = true
  · rw [if_pos h, if_pos (congrArg some (hspans.mp h).symm), Option.map_some]
  · rw [if_neg h, if_neg fun heq ↦ h (hspans.mpr (Option.some.inj heq).symm), Option.map_none]

/-- A memory resource takes the scan on if it is the window that the coordinator expects next. -/
theorem scanEntry_view {entry : Resource} (hmem : entry.isMem = true) :
    (scanEntry scan entry).map Scan.nmem =
      if wlanWindows[scan.nmem]? = some (entry.view.start, entry.view.size) then
        some (scan.nmem + 1)
      else none := by
  rcases hnmem : scan.nmem with _ | _ | _ | n
  · rw [scanEntry_first hmem hnmem, map_nmem_spans]
    rfl
  · rw [scanEntry_second hmem hnmem, map_nmem_spans]
    rfl
  · rw [scanEntry_third hmem hnmem, map_nmem_spans]
    rfl
  · rw [scanEntry_full hmem (by omega)]
    simp [wlanWindows]

/-- The check of the coordinator is the scan of what it sees. -/
theorem checkWindows_view (resources : List Resource) :
    checkWindows scan.nmem (resources.map Resource.view) = (scanResources scan resources).isSome := by
  induction resources generalizing scan with
  | nil =>
    simp only [List.map_nil, checkWindows, scanResources]
    split <;> simp_all
  | cons entry rest ih =>
    rw [List.map_cons, checkWindows, scanResources]
    cases hmem : entry.isMem with
    | false => simp [Resource.view, hmem, scanEntry_of_not_isMem scan hmem, ih]
    | true =>
      have hentry := scanEntry_view scan hmem
      have hview : entry.view.isMem = true := hmem
      cases hnext : scanEntry scan entry with
      | none =>
        rw [hnext, Option.map_none] at hentry
        split_ifs at hentry with hwindow
        simp [hview, hwindow]
      | some next =>
        rw [hnext, Option.map_some] at hentry
        split_ifs at hentry with hwindow
        simp [hview, hwindow, ← ih next, Option.some.inj hentry]

end TclB220G.Wifi.Wlan
