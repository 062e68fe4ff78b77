import Mathlib.Data.List.Basic
import TclB220G.Kernel.Idr
import TclB220G.Lib.Lifetime

/-!
# Rebinding APR services

The router finds the receiver of a packet in a table from service identifiers to services.  The bus frees
the identifier of a device when its driver is unbound, and `apr_device_probe` of the device-tree series
puts it back when a driver is bound again.  It does so if the identifier is free; whether the service that
it finds there is its own, it does not ask.

Devices that share an identifier are told apart here.  A bound device owns its identifier after every
prefix of a history exactly as long as no probe succeeds while the identifier belongs to another device.
-/

namespace TclB220G.Audio

open Kernel Lib

section

variable {Device Driver : Type} [DecidableEq Device]

/-- The router and the devices on its bus.  A service is part of its device, so the table holds devices. -/
structure AprBus (Device Driver : Type) where
  svcs : Idr Device
  /-- The service identifier of a device that was added. -/
  svcId : Device → Option ℕ
  driver : Device → Option Driver
  /-- The driver whose `gpr_callback` the service has. -/
  callback : Device → Option Driver

namespace AprBus

/-- The bus before any service was added. -/
def empty : AprBus Device Driver := ⟨fun _ ↦ none, fun _ ↦ none, fun _ ↦ none, fun _ ↦ none⟩

variable (bus : AprBus Device Driver)

/-- The first half of the probe: the table, and whether the service was put back into it. -/
def restore (device : Device) (id : ℕ) (allocates : Bool) : Except Errno (Idr Device × Bool) :=
  match bus.svcs.find id with
  | some _ => .ok (bus.svcs, false)
  | none => (bus.svcs.allocAt id device allocates).map fun svcs ↦ (svcs, true)

/-- The probe of a device, with the outcomes of the allocation and of the driver's own probe. -/
def aprDeviceProbe (device : Device) (id : ℕ) (driver : Driver) (allocates : Bool)
    (result : Option Errno) : Option Errno × AprBus Device Driver :=
  match bus.restore device id allocates with
  | .error errno => (some errno, bus)
  | .ok (svcs, restored) =>
    match result with
    | none =>
      (none, { bus with svcs, callback := Function.update bus.callback device (some driver) })
    | some errno => (some errno, { bus with svcs := if restored then svcs.remove id else svcs })

end AprBus

inductive AprEvent (Device Driver : Type) where
  /-- A new device takes its identifier, if that is free. -/
  | add (device : Device) (id : ℕ) (allocates : Bool)
  | probe (device : Device) (driver : Driver) (allocates : Bool) (result : Option Errno)
  | unbind (device : Device)

namespace AprBus

/-- What the driver core does around the bus: only a device without a driver is probed, and only one with
a driver is unbound. -/
def step (bus : AprBus Device Driver) : AprEvent Device Driver → AprBus Device Driver
  | .add device id allocates =>
    match bus.svcId device, bus.svcs.allocAt id device allocates with
    | none, .ok svcs => { bus with svcs, svcId := Function.update bus.svcId device (some id) }
    | _, _ => bus
  | .probe device driver allocates result =>
    match bus.svcId device, bus.driver device with
    | some id, none =>
      match bus.aprDeviceProbe device id driver allocates result with
      | (none, bus) => { bus with driver := Function.update bus.driver device (some driver) }
      | (some _, bus) => bus
    | _, _ => bus
  | .unbind device =>
    match bus.svcId device, bus.driver device with
    | some id, some _ =>
      { bus with svcs := bus.svcs.remove id, driver := Function.update bus.driver device none }
    | _, _ => bus

def run (bus : AprBus Device Driver) (events : List (AprEvent Device Driver)) : AprBus Device Driver :=
  events.foldl step bus

/-- The table maps the identifier of every bound device to the device itself. -/
def Owned (bus : AprBus Device Driver) : Prop :=
  ∀ device, (bus.driver device).isSome → ∃ id, bus.svcId device = some id ∧ bus.svcs id = some device

end AprBus

namespace AprEvent

/-- The event is a probe that fails. -/
def FailsProbe (bus : AprBus Device Driver) (event : AprEvent Device Driver) : Prop :=
  ∃ device driver allocates result id, event = .probe device driver allocates result ∧
    bus.svcId device = some id ∧ bus.driver device = none ∧
    (bus.aprDeviceProbe device id driver allocates result).1 ≠ none

/-- The driver's probe succeeds on an unbound device whose identifier belongs to another one. -/
def Intrudes (bus : AprBus Device Driver) (event : AprEvent Device Driver) : Prop :=
  ∃ device driver allocates id owner, event = .probe device driver allocates none ∧
    bus.svcId device = some id ∧ bus.driver device = none ∧ bus.svcs id = some owner ∧ owner ≠ device

end AprEvent

namespace AprBus

variable {bus : AprBus Device Driver} {device : Device} {id : ℕ} {driver : Driver} {allocates : Bool}
  {result : Option Errno}

/-! ## One event -/

omit [DecidableEq Device] in
/-- The table after the first half has the service put back if and only if the identifier was free. -/
theorem restore_eq_ok {svcs : Idr Device} {restored : Bool}
    (h : bus.restore device id allocates = .ok (svcs, restored)) :
    (restored = false ∧ svcs = bus.svcs ∧ ∃ owner, bus.svcs id = some owner) ∨
      (restored = true ∧ bus.svcs.allocAt id device allocates = .ok svcs) := by
  unfold restore at h
  split at h
  · rename_i owner howner
    cases h
    exact .inl ⟨rfl, rfl, owner, howner⟩
  · cases halloc : bus.svcs.allocAt id device allocates with
    | error errno =>
      rw [halloc] at h
      cases h
    | ok after =>
      rw [halloc] at h
      cases h
      exact .inr ⟨rfl, rfl⟩

/-- A probe fails and leaves everything as it was, or it succeeds with the table of its first half. -/
theorem aprDeviceProbe_cases (bus : AprBus Device Driver) (device : Device) (id : ℕ) (driver : Driver)
    (allocates : Bool) (result : Option Errno) :
    (∃ errno, bus.aprDeviceProbe device id driver allocates result = (some errno, bus)) ∨
      ∃ svcs restored, result = none ∧ bus.restore device id allocates = .ok (svcs, restored) ∧
        bus.aprDeviceProbe device id driver allocates result =
          (none, { bus with svcs, callback := Function.update bus.callback device (some driver) }) := by
  unfold aprDeviceProbe
  cases hrestore : bus.restore device id allocates with
  | error errno => exact .inl ⟨errno, rfl⟩
  | ok pair =>
    obtain ⟨svcs, restored⟩ := pair
    cases result with
    | none => exact .inr ⟨svcs, restored, rfl, rfl, rfl⟩
    | some errno =>
      refine .inl ⟨errno, ?_⟩
      rcases restore_eq_ok hrestore with ⟨rfl, rfl, -⟩ | ⟨rfl, halloc⟩
      · rfl
      · simp only [if_true, Idr.remove_allocAt halloc]

theorem svcs_step_of_failsProbe {event : AprEvent Device Driver} (h : event.FailsProbe bus) :
    (bus.step event).svcs = bus.svcs := by
  obtain ⟨device, driver, allocates, result, id, rfl, hid, hdriver, hfails⟩ := h
  rcases bus.aprDeviceProbe_cases device id driver allocates result with
    ⟨errno, hprobe⟩ | ⟨svcs, restored, -, -, hprobe⟩
  · simp only [step, hid, hdriver, hprobe]
  · rw [hprobe] at hfails
    exact absurd rfl hfails

theorem owned_add (howned : bus.Owned) (device : Device) (id : ℕ) (allocates : Bool) :
    (bus.step (.add device id allocates)).Owned := by
  simp only [step]
  split
  · rename_i svcs hnew halloc
    intro other hbound
    obtain ⟨otherId, hid, howner⟩ := howned other hbound
    have hother : other ≠ device := by
      rintro rfl
      rw [hnew] at hid
      cases hid
    refine ⟨otherId, ?_, Idr.allocAt_of_some halloc howner⟩
    exact (Function.update_of_ne hother _ _).trans hid
  · exact howned

theorem owned_unbind (howned : bus.Owned) (device : Device) : (bus.step (.unbind device)).Owned := by
  simp only [step]
  split
  · rename_i id driver hid hdriver
    intro other hbound
    have hother : other ≠ device := by
      rintro rfl
      simp at hbound
    simp only [Function.update_of_ne hother] at hbound
    obtain ⟨ownId, hownId, hown⟩ := howned device (by rw [hdriver]; rfl)
    obtain ⟨otherId, hotherId, howner⟩ := howned other hbound
    -- Two bound devices do not share an identifier.
    have hids : otherId ≠ id := by
      rintro rfl
      rw [hid] at hownId
      cases hownId
      rw [hown] at howner
      exact hother (Option.some.inj howner).symm
    exact ⟨otherId, hotherId, (Function.update_of_ne hids _ _).trans howner⟩
  · exact howned

omit [DecidableEq Device] in
theorem intrudes_probe_iff :
    (AprEvent.probe device driver allocates result).Intrudes bus ↔
      result = none ∧ ∃ id owner, bus.svcId device = some id ∧ bus.driver device = none ∧
        bus.svcs id = some owner ∧ owner ≠ device := by
  constructor
  · rintro ⟨_, _, _, id, owner, ⟨⟩, hintrudes⟩
    exact ⟨rfl, id, owner, hintrudes⟩
  · rintro ⟨rfl, id, owner, hintrudes⟩
    exact ⟨device, driver, allocates, id, owner, rfl, hintrudes⟩

omit [DecidableEq Device] in
theorem restore_of_some {owner : Device} (h : bus.svcs id = some owner) :
    bus.restore device id allocates = .ok (bus.svcs, false) := by
  have hfind : bus.svcs.find id = some owner := h
  rw [restore, hfind]

/-- The bus after a probe that has succeeded. -/
theorem owned_bind_iff (howned : bus.Owned) (hid : bus.svcId device = some id) {svcs : Idr Device}
    {restored : Bool} (hrestore : bus.restore device id allocates = .ok (svcs, restored)) :
    ({ bus with
        svcs
        callback := Function.update bus.callback device (some driver)
        driver := Function.update bus.driver device (some driver) } : AprBus Device Driver).Owned ↔
      ¬∃ owner, bus.svcs id = some owner ∧ owner ≠ device := by
  have hkept (other : Device) (otherId : ℕ) (howner : bus.svcs otherId = some other) :
      svcs otherId = some other := by
    rcases restore_eq_ok hrestore with ⟨-, rfl, -⟩ | ⟨-, halloc⟩
    · exact howner
    · exact Idr.allocAt_of_some halloc howner
  constructor
  · rintro hafter ⟨owner, howner, hforeign⟩
    obtain ⟨ownId, hownId, hown⟩ := hafter device (by simp)
    obtain rfl : id = ownId := Option.some.inj (hid.symm.trans hownId)
    exact hforeign (Option.some.inj ((hkept owner id howner).symm.trans hown))
  · intro hnone other hbound
    by_cases hother : other = device
    · refine ⟨id, hother ▸ hid, ?_⟩
      rw [hother]
      rcases restore_eq_ok hrestore with ⟨-, rfl, owner, howner⟩ | ⟨-, halloc⟩
      · rw [howner, not_not.1 fun hne ↦ hnone ⟨owner, howner, fun heq ↦ hne (congrArg some heq)⟩]
      · exact Idr.allocAt_self halloc
    · simp only [Function.update_of_ne hother] at hbound
      obtain ⟨otherId, hotherId, howner⟩ := howned other hbound
      exact ⟨otherId, hotherId, hkept other otherId howner⟩

/-- Among the probes, those that succeed on a foreign identifier are the ones that go wrong. -/
theorem owned_probe_iff (howned : bus.Owned) (device : Device) (driver : Driver) (allocates : Bool)
    (result : Option Errno) :
    (bus.step (.probe device driver allocates result)).Owned ↔
      ¬(AprEvent.probe device driver allocates result).Intrudes bus := by
  rw [intrudes_probe_iff]
  by_cases hready : ∃ id, bus.svcId device = some id ∧ bus.driver device = none
  · obtain ⟨id, hid, hunbound⟩ := hready
    rcases bus.aprDeviceProbe_cases device id driver allocates result with
      ⟨errno, hprobe⟩ | ⟨svcs, restored, rfl, hrestore, hprobe⟩
    · have hstep : bus.step (.probe device driver allocates result) = bus := by
        simp only [step, hid, hunbound, hprobe]
      rw [hstep]
      refine ⟨fun _ ↦ ?_, fun _ ↦ howned⟩
      rintro ⟨rfl, otherId, owner, hotherId, -, howner, -⟩
      obtain rfl : id = otherId := Option.some.inj (hid.symm.trans hotherId)
      rw [aprDeviceProbe, restore_of_some howner] at hprobe
      cases hprobe
    · simp only [step, hid, hunbound, hprobe]
      rw [owned_bind_iff howned hid hrestore]
      simp
  · have hstep : bus.step (.probe device driver allocates result) = bus := by
      simp only [step]
      split
      · rename_i id hid hunbound
        exact absurd ⟨id, hid, hunbound⟩ hready
      · rfl
    rw [hstep]
    refine ⟨fun _ ↦ ?_, fun _ ↦ howned⟩
    rintro ⟨-, id, owner, hid, hunbound, -⟩
    exact hready ⟨id, hid, hunbound⟩

/-! ## Histories -/

theorem owned_step_iff (howned : bus.Owned) (event : AprEvent Device Driver) :
    (bus.step event).Owned ↔ ¬event.Intrudes bus := by
  cases event with
  | add device id allocates =>
    exact ⟨fun _ ⟨_, _, _, _, _, h, _⟩ ↦ absurd h nofun, fun _ ↦ owned_add howned device id allocates⟩
  | probe device driver allocates result => exact owned_probe_iff howned device driver allocates result
  | unbind device =>
    exact ⟨fun _ ⟨_, _, _, _, _, h, _⟩ ↦ absurd h nofun, fun _ ↦ owned_unbind howned device⟩

/-- In a history of additions, probes and unbinds, every bound device owns its identifier at any time and
failing probes leave the table as it was, if and only if no probe succeeds on a foreign identifier. -/
theorem owned_iff_not_intrudes (history : List (AprEvent Device Driver)) :
    ((∀ earlier, earlier <+: history → (empty.run earlier : AprBus Device Driver).Owned) ∧
      Throughout (fun earlier event ↦ event.FailsProbe (empty.run earlier) →
        (empty.run (earlier ++ [event])).svcs = (empty.run earlier).svcs) history) ↔
      Throughout (fun earlier event ↦ ¬event.Intrudes (empty.run earlier)) history := by
  have hfails : Throughout (fun earlier event ↦ event.FailsProbe (empty.run earlier) →
      (empty.run (earlier ++ [event])).svcs = (empty.run earlier).svcs) history := by
    intro earlier event later _ hfails
    rw [run, List.foldl_concat]
    exact svcs_step_of_failsProbe hfails
  rw [and_iff_left hfails]
  apply prefixes_iff_throughout
  · exact fun device hbound ↦ absurd hbound (by simp [run, empty])
  · intro earlier event howned
    rw [run, List.foldl_concat]
    exact owned_step_iff howned event

end AprBus

end

/-- Device `0` is added with identifier `4`, bound and unbound, device `1` is added with the same
identifier, and device `0` is bound again. -/
def sharedService : List (AprEvent ℕ ℕ) :=
  [.add 0 4 true, .probe 0 7 true none, .unbind 0, .add 1 4 true, .probe 0 7 true none]

/-- The driver is bound to device `0`, and the table maps the identifier to device `1`. -/
theorem not_owned_sharedService :
    ((AprBus.empty.run sharedService).driver 0 = some 7 ∧
      (AprBus.empty.run sharedService).svcId 0 = some 4 ∧
      (AprBus.empty.run sharedService).svcs 4 = some 1) ∧
    ¬(AprBus.empty.run sharedService).Owned := by
  have hbound : (AprBus.empty.run sharedService).driver 0 = some 7 ∧
      (AprBus.empty.run sharedService).svcId 0 = some 4 ∧
      (AprBus.empty.run sharedService).svcs 4 = some 1 := by decide
  refine ⟨hbound, fun howned ↦ ?_⟩
  obtain ⟨id, hid, howner⟩ := howned 0 (by rw [hbound.1]; rfl)
  obtain rfl : 4 = id := Option.some.inj (hbound.2.1.symm.trans hid)
  exact absurd (hbound.2.2.symm.trans howner) (by decide)

end TclB220G.Audio
