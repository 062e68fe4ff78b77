import Mathlib.Algebra.Group.Int.Defs
import Mathlib.Data.List.Basic
import Mathlib.Logic.Function.Basic
import TclB220G.Kernel.Errno
import TclB220G.Lib.CString

/-!
# Clocks of the audio DSP and their aliases

`q6dsp_clock_dev_probe` registers the clocks of its descriptor, each under an identifier of its own.  A
device without a device tree node then adds aliases for the consumers that its property names, as
triples of the clock, the consumer's device and the consumer's name for the clock.

The property is read for its length first, and the length is a negative error if it cannot be read.  The
check of the length is meant to let an absent property pass, but it divides the error by three.
-/

namespace TclB220G.Audio

open Kernel Kernel.Errno Lib

/-- One clock of the descriptor, `struct q6dsp_clk_init`. -/
structure Q6dspClkInit where
  clkId : ℕ
  q6dspClkId : ℕ
  name : CString
  rate : ℕ

/-- A clock of the probe, `struct q6dsp_clk`.  It is told from others by its position in the descriptor. -/
structure Q6dspClk where
  position : ℕ
  attributes : ℕ
  q6dspClkId : ℕ
  rate : ℕ
  deriving DecidableEq

/-- A lookup of a clock by the names of a consumer. -/
structure ClkdevLookup where
  clk : Q6dspClk
  conId : CString
  devId : CString
  deriving DecidableEq

/-- A property of the firmware node, or the error of reading it. -/
inductive Property (α : Type) where
  | absent
  | unreadable (errno : Errno)
  | value (content : α)
  deriving DecidableEq

structure DspClockDevice where
  ofNode : Bool
  name : CString
  matchData : Option (List Q6dspClkInit)
  idData : Option (List Q6dspClkInit)
  clockAttribute : Property ℕ
  clockAliases : Property (List CString)

/-- What the rest of the kernel decides. -/
structure ClockCalls where
  maxClkId : ℕ
  allocatesController : Bool
  allocates : ℕ → Bool
  clkHwRegister : ℕ → Option Errno
  clkHwRegisterClkdev : ClkdevLookup → Option Errno
  ofClkAddHwProvider : Option Errno

/-- The clocks by identifier, and the lookups in the order in which they were added. -/
structure Q6dspCc where
  clks : ℕ → Option Q6dspClk
  lookups : List ClkdevLookup

def coupleNo : ℕ := 1

def coupleDivisor : ℕ := 3

/-- The length of the array `aliases`. -/
def maxAliases : ℕ := 48

section

variable (calls : ClockCalls) (device : DspClockDevice)

def clockAttributes : Except Errno ℕ :=
  if device.ofNode then .ok coupleNo
  else
    match device.clockAttribute with
    | .absent => .ok coupleNo
    | .unreadable errno => .error errno
    | .value attributes =>
      if attributes < coupleNo ∨ coupleDivisor < attributes then .error EINVAL else .ok attributes

def registerClkdev (lookup : ClkdevLookup) (cc : Q6dspCc) : Except Errno Q6dspCc :=
  match calls.clkHwRegisterClkdev lookup with
  | some errno => .error errno
  | none => .ok { cc with lookups := cc.lookups ++ [lookup] }

/-- The clock that is made for a position of the descriptor. -/
def newClock (attributes position : ℕ) (init : Q6dspClkInit) : Q6dspClk :=
  ⟨position, if device.ofNode then 0 else attributes, init.q6dspClkId, init.rate⟩

/-- The body of the loop over the descriptor. -/
def registerClock (attributes position : ℕ) (init : Q6dspClkInit) (cc : Q6dspCc) :
    Except Errno Q6dspCc :=
  if calls.maxClkId ≤ init.clkId ∨ (cc.clks init.clkId).isSome then .error EINVAL
  else if ¬calls.allocates position then .error ENOMEM
  else
    let clk := newClock device attributes position init
    let cc := { cc with clks := Function.update cc.clks init.clkId (some clk) }
    match calls.clkHwRegister position with
    | some errno => .error errno
    | none =>
      if !device.ofNode ∧ init.name.strlen < 16 then
        registerClkdev calls ⟨clk, init.name, device.name⟩ cc
      else .ok cc

def registerClocks (attributes : ℕ) : ℕ → List Q6dspClkInit → Q6dspCc → Except Errno Q6dspCc
  | _, [], cc => .ok cc
  | position, init :: inits, cc =>
    match registerClock calls device attributes position init cc with
    | .error errno => .error errno
    | .ok cc => registerClocks attributes (position + 1) inits cc

/-- The probe up to the aliases. -/
def registerProvider : Except Errno (List Q6dspClkInit × Q6dspCc) :=
  if ¬calls.allocatesController then .error ENOMEM
  else
    match device.matchData <|> device.idData with
    | none => .error EINVAL
    | some inits =>
      match clockAttributes device with
      | .error errno => .error errno
      | .ok attributes =>
        match registerClocks calls device attributes 0 inits ⟨fun _ ↦ none, []⟩ with
        | .error errno => .error errno
        | .ok cc => .ok (inits, cc)

/-- Reading an absent property fails as an invalid one does. -/
def readStringArray : Except Errno (List CString) :=
  match device.clockAliases with
  | .absent => .error EINVAL
  | .unreadable errno => .error errno
  | .value strings => .ok strings

/-- What reading the property without an array returns: its length or an error. -/
def stringCount : ℤ :=
  match readStringArray device with
  | .error errno => errno.ret
  | .ok strings => strings.length

/-- The clock that the descriptor has under a name first. -/
def matchClock (inits : List Q6dspClkInit) (cc : Q6dspCc) (name : CString) : Option Q6dspClk :=
  (inits.find? fun init ↦ init.name = name).bind fun init ↦ cc.clks init.clkId

/-- The loop over the triples. -/
def addAliases (inits : List Q6dspClkInit) : List CString → Q6dspCc → Except Errno Q6dspCc
  | clock :: dev :: con :: strings, cc =>
    match matchClock inits cc clock with
    | none => .error ENOENT
    | some clk =>
      match registerClkdev calls ⟨clk, con, dev⟩ cc with
      | .error errno => .error errno
      | .ok cc => addAliases inits strings cc
  | _, cc => .ok cc

/-- An `int` as a `size_t`. -/
def toSize (n : ℤ) : ℤ := if n < 0 then n + 2 ^ 64 else n

/-- The aliases of a device without a device tree node.  The remainder has the sign of the length, and
the comparison with the size of the array takes the length as an unsigned number. -/
def addClockAliases (inits : List Q6dspClkInit) (cc : Q6dspCc) : Except Errno Q6dspCc :=
  let n := stringCount device
  if h : n < 0 ∧ n ≠ EINVAL.ret then .error (Errno.ofRet n h.1)
  else if n.tmod 3 ≠ 0 ∨ (maxAliases : ℤ) < toSize n then .error EINVAL
  else
    match readStringArray device with
    | .error _ => .ok cc
    | .ok aliases => addAliases calls inits aliases cc

def q6dspClockDevProbe : Except Errno Q6dspCc :=
  match registerProvider calls device with
  | .error errno => .error errno
  | .ok (inits, cc) =>
    if !device.ofNode then addClockAliases calls device inits cc
    else
      match calls.ofClkAddHwProvider with
      | some errno => .error errno
      | none => .ok cc

end

/-! ## The clocks of the descriptor -/

/-- A clock is the one at its position of the descriptor. -/
def Q6dspClk.IsOf (clk : Q6dspClk) (inits : List Q6dspClkInit) (init : Q6dspClkInit) : Prop :=
  inits[clk.position]? = some init ∧ clk.q6dspClkId = init.q6dspClkId ∧ clk.rate = init.rate

/-- Every clock of the descriptor is found under its identifier. -/
def Q6dspCc.Holds (cc : Q6dspCc) (inits : List Q6dspClkInit) : Prop :=
  ∀ position init, inits[position]? = some init →
    ∃ clk, cc.clks init.clkId = some clk ∧ clk.position = position ∧ clk.IsOf inits init

section

variable {calls : ClockCalls} {device : DspClockDevice} {attributes : ℕ} {inits : List Q6dspClkInit}
  {cc after : Q6dspCc}

theorem clks_of_registerClkdev {lookup : ClkdevLookup}
    (h : registerClkdev calls lookup cc = .ok after) : after.clks = cc.clks := by
  unfold registerClkdev at h
  split at h
  · cases h
  · cases h
    rfl

/-- A clock is registered under an identifier that was free. -/
theorem registerClock_ok {position : ℕ} {init : Q6dspClkInit}
    (h : registerClock calls device attributes position init cc = .ok after) :
    cc.clks init.clkId = none ∧ after.clks =
      Function.update cc.clks init.clkId (some (newClock device attributes position init)) := by
  unfold registerClock at h
  split at h
  · cases h
  next hfree =>
    refine ⟨by simpa using fun htaken ↦ hfree (.inr htaken), ?_⟩
    split at h
    · cases h
    split at h
    · cases h
    split at h
    · exact clks_of_registerClkdev h
    · cases h
      rfl

theorem Q6dspCc.Holds.registerClock {init : Q6dspClkInit} (hholds : cc.Holds inits)
    (h : registerClock calls device attributes inits.length init cc = .ok after) :
    after.Holds (inits ++ [init]) := by
  obtain ⟨hfree, hclks⟩ := registerClock_ok h
  intro position other hother
  rw [hclks]
  rcases Nat.lt_or_ge position inits.length with hlt | hge
  · rw [List.getElem?_append_left hlt] at hother
    obtain ⟨clk, hclk, rfl, hat, hid, hrate⟩ := hholds position other hother
    -- An earlier clock has another identifier, as the new one was free.
    have hne : other.clkId ≠ init.clkId := by
      intro heq
      rw [heq, hfree] at hclk
      cases hclk
    exact ⟨clk, by rwa [Function.update_of_ne hne], rfl,
      by rwa [List.getElem?_append_left hlt], hid, hrate⟩
  · obtain ⟨rfl, rfl⟩ : position = inits.length ∧ other = init := by
      rw [List.getElem?_append_right hge, List.getElem?_singleton] at hother
      grind
    exact ⟨newClock device attributes inits.length other, Function.update_self .., rfl,
      by simp [newClock], rfl, rfl⟩

theorem Q6dspCc.Holds.registerClocks {rest : List Q6dspClkInit} (hholds : cc.Holds inits)
    (h : registerClocks calls device attributes inits.length rest cc = .ok after) :
    after.Holds (inits ++ rest) := by
  induction rest generalizing inits cc with
  | nil =>
    cases h
    rwa [List.append_nil]
  | cons init rest ih =>
    unfold Audio.registerClocks at h
    split at h
    · cases h
    next next hfirst =>
      have hnext := hholds.registerClock hfirst
      rw [← List.singleton_append, ← List.append_assoc]
      exact ih hnext (by rwa [List.length_append])

/-- When all clocks are registered, each is found under its identifier. -/
theorem holds_of_registerProvider (h : registerProvider calls device = .ok (inits, cc)) :
    cc.Holds inits := by
  unfold registerProvider at h
  split at h
  · cases h
  split at h
  · cases h
  split at h
  · cases h
  split at h
  · cases h
  next hclocks =>
    cases h
    have hempty : (⟨fun _ ↦ none, []⟩ : Q6dspCc).Holds [] := fun _ _ hnone ↦ by simp at hnone
    exact hempty.registerClocks hclocks

end

/-! ## The aliases of the property -/

/-- A clock of the provider and the names under which a consumer looks it up. -/
structure ClockAlias where
  clock : CString
  dev : CString
  con : CString
  deriving DecidableEq

/-- The strings of the property, three at a time. -/
def aliasesOf : List CString → List ClockAlias
  | clock :: dev :: con :: strings => ⟨clock, dev, con⟩ :: aliasesOf strings
  | _ => []

def Known (inits : List Q6dspClkInit) (triple : ClockAlias) : Prop :=
  ∃ init ∈ inits, init.name = triple.clock

/-- A lookup leads from the names of the consumer to the first clock of the name. -/
def LeadsTo (inits : List Q6dspClkInit) (triple : ClockAlias) (lookup : ClkdevLookup) : Prop :=
  lookup.devId = triple.dev ∧ lookup.conId = triple.con ∧
    ∃ init, lookup.clk.IsOf inits init ∧ init.name = triple.clock ∧
      ∀ earlier < lookup.clk.position, ∀ other, inits[earlier]? = some other → other.name ≠ triple.clock

/-- The aliases for which a property is accepted. -/
def Admitted (inits : List Q6dspClkInit) (strings : List CString) : Prop :=
  strings ≠ [] ∧ 3 ∣ strings.length ∧ strings.length ≤ maxAliases ∧
    ∀ triple ∈ aliasesOf strings, Known inits triple

/-- The names of the consumers are short enough, so that the kernel takes a lookup of any clock. -/
def ShortNames (calls : ClockCalls) (device : DspClockDevice) : Prop :=
  ∀ strings, device.clockAliases = .value strings → ∀ triple ∈ aliasesOf strings,
    ∀ clk, calls.clkHwRegisterClkdev ⟨clk, triple.con, triple.dev⟩ = none

/-- What the property means for the probe, given the clocks and lookups before it is read. -/
structure AliasesAsMeant (device : DspClockDevice) (inits : List Q6dspClkInit) (cc : Q6dspCc)
    (result : Except Errno Q6dspCc) : Prop where
  absent : device.clockAliases = .absent → result = .ok cc
  admitted : ∀ strings, device.clockAliases = .value strings → Admitted inits strings →
    ∃ added, result = .ok { cc with lookups := cc.lookups ++ added } ∧
      List.Forall₂ (LeadsTo inits) (aliasesOf strings) added
  refused : device.clockAliases ≠ .absent →
    (∀ strings, device.clockAliases = .value strings → ¬Admitted inits strings) →
    ∃ errno, result = .error errno

section

variable {calls : ClockCalls} {device : DspClockDevice} {inits : List Q6dspClkInit} {cc : Q6dspCc}

theorem registerClkdev_of_none {lookup : ClkdevLookup} (h : calls.clkHwRegisterClkdev lookup = none) :
    registerClkdev calls lookup cc = .ok { cc with lookups := cc.lookups ++ [lookup] } := by
  rw [registerClkdev, h]

/-- The search for a name gives the first clock that has it. -/
theorem matchClock_of_known (hholds : cc.Holds inits) {triple : ClockAlias} (hknown : Known inits triple) :
    ∃ clk, matchClock inits cc triple.clock = some clk ∧
      LeadsTo inits triple ⟨clk, triple.con, triple.dev⟩ := by
  obtain ⟨init, hmem, hname⟩ := hknown
  obtain ⟨first, hfirst⟩ : ∃ first, inits.find? (fun init ↦ init.name = triple.clock) = some first :=
    Option.isSome_iff_exists.1 (List.find?_isSome.2 ⟨init, hmem, by simpa using hname⟩)
  obtain ⟨hfirstName, position, hlt, hat, hbefore⟩ := List.find?_eq_some_iff_getElem.1 hfirst
  obtain ⟨clk, hclk, rfl, hof⟩ := hholds position first (by rw [List.getElem?_eq_getElem hlt, hat])
  refine ⟨clk, by rw [matchClock, hfirst, Option.bind_some, hclk], rfl, rfl, first, hof,
    by simpa using hfirstName, fun earlier hearlier other hother ↦ ?_⟩
  obtain ⟨hlt', rfl⟩ := List.getElem?_eq_some_iff.1 hother
  simpa using hbefore earlier hearlier

theorem matchClock_of_not_known {triple : ClockAlias} (hunknown : ¬Known inits triple) :
    matchClock inits cc triple.clock = none := by
  have hnone : inits.find? (fun init ↦ init.name = triple.clock) = none :=
    List.find?_eq_none.2 fun init hmem hname ↦ hunknown ⟨init, hmem, by simpa using hname⟩
  rw [matchClock, hnone, Option.bind_none]

/-- If all clocks are known, the loop adds one lookup for each triple. -/
theorem addAliases_of_known (strings : List CString) (hholds : cc.Holds inits)
    (haccepts : ∀ triple ∈ aliasesOf strings, ∀ clk,
      calls.clkHwRegisterClkdev ⟨clk, triple.con, triple.dev⟩ = none)
    (hknown : ∀ triple ∈ aliasesOf strings, Known inits triple) :
    ∃ added, addAliases calls inits strings cc = .ok { cc with lookups := cc.lookups ++ added } ∧
      List.Forall₂ (LeadsTo inits) (aliasesOf strings) added := by
  induction strings using aliasesOf.induct generalizing cc with
  | case1 clock dev con strings ih =>
    rw [aliasesOf, List.forall_mem_cons] at haccepts hknown
    obtain ⟨clk, hclk, hleads⟩ := matchClock_of_known hholds hknown.1
    have hnext : ({ cc with lookups := cc.lookups ++ [⟨clk, con, dev⟩] } : Q6dspCc).Holds inits := hholds
    obtain ⟨added, hadded, hall⟩ := ih hnext haccepts.2 hknown.2
    refine ⟨⟨clk, con, dev⟩ :: added, ?_, .cons hleads hall⟩
    simp only [addAliases, hclk, registerClkdev_of_none (haccepts.1 clk), hadded, List.append_assoc,
      List.singleton_append]
  | case2 strings hrest =>
    refine ⟨[], ?_, ?_⟩
    · rw [addAliases.eq_2 _ _ _ _ hrest, List.append_nil]
    · rw [aliasesOf.eq_2 _ hrest]
      exact .nil

/-- If a clock is not known, the loop fails there or before. -/
theorem addAliases_of_not_known (strings : List CString)
    (hunknown : ∃ triple ∈ aliasesOf strings, ¬Known inits triple) :
    ∃ errno, addAliases calls inits strings cc = .error errno := by
  induction strings using aliasesOf.induct generalizing cc with
  | case1 clock dev con strings ih =>
    unfold addAliases
    split
    · exact ⟨_, rfl⟩
    next hclk =>
      split
      · exact ⟨_, rfl⟩
      · refine ih ?_
        rw [aliasesOf, List.exists_mem_cons_iff] at hunknown
        refine hunknown.resolve_left fun hfirst ↦ ?_
        rw [matchClock_of_not_known hfirst] at hclk
        cases hclk
  | case2 strings hrest =>
    rw [aliasesOf.eq_2 _ hrest] at hunknown
    simp at hunknown

/-! ## The length of the property -/

theorem toSize_natCast (n : ℕ) : toSize n = n := if_neg (by omega)

/-- A property that cannot be read ends the probe, an absent one too: its length is -22, and the
remainder of -22 is -1. -/
theorem addClockAliases_of_error {errno : Errno} (h : readStringArray device = .error errno) :
    ∃ errno', addClockAliases calls device inits cc = .error errno' := by
  have hcount : stringCount device = errno.ret := by rw [stringCount, h]
  rw [addClockAliases]
  by_cases hinvalid : errno.ret = EINVAL.ret
  · exact ⟨EINVAL, by
      rw [dif_neg fun hother ↦ hother.2 (hcount.trans hinvalid), if_pos (.inl (by
        rw [hcount, hinvalid]
        decide))]⟩
  · exact ⟨_, dif_pos ⟨hcount ▸ errno.ret_neg, hcount ▸ hinvalid⟩⟩

theorem addClockAliases_of_value {strings : List CString} (h : device.clockAliases = .value strings) :
    addClockAliases calls device inits cc =
      if 3 ∣ strings.length ∧ strings.length ≤ maxAliases then addAliases calls inits strings cc
      else .error EINVAL := by
  have hread : readStringArray device = .ok strings := by rw [readStringArray, h]
  have hcount : stringCount device = strings.length := by rw [stringCount, hread]
  have hlength : ((strings.length : ℤ).tmod 3 ≠ 0 ∨ (maxAliases : ℤ) < toSize strings.length) ↔
      ¬(3 ∣ strings.length ∧ strings.length ≤ maxAliases) := by
    rw [toSize_natCast, Int.tmod_eq_emod_of_nonneg (Int.natCast_nonneg _)]
    omega
  simp only [addClockAliases, hread, hcount]
  rw [dif_neg (by omega)]
  by_cases hfits : 3 ∣ strings.length ∧ strings.length ≤ maxAliases
  · rw [if_pos hfits, if_neg fun hbad ↦ hlength.1 hbad hfits]
  · rw [if_neg hfits, if_pos (hlength.2 hfits)]

theorem q6dspClockDevProbe_eq (hnode : device.ofNode = false)
    (hclocks : registerProvider calls device = .ok (inits, cc)) :
    q6dspClockDevProbe calls device = addClockAliases calls device inits cc := by
  simp [q6dspClockDevProbe, hclocks, hnode]

/-- Strings other than none are taken as they are meant. -/
theorem aliasesAsMeant_of_value (hholds : cc.Holds inits) (hshort : ShortNames calls device)
    {strings : List CString} (hvalue : device.clockAliases = .value strings) (hnonempty : strings ≠ []) :
    AliasesAsMeant device inits cc (addClockAliases calls device inits cc) where
  absent habsent := by
    rw [hvalue] at habsent
    cases habsent
  admitted strings' hvalue' hadmitted := by
    obtain rfl : strings = strings' := by simpa [hvalue] using hvalue'
    obtain ⟨-, hthree, hfits, hknown⟩ := hadmitted
    rw [addClockAliases_of_value hvalue, if_pos ⟨hthree, hfits⟩]
    exact addAliases_of_known strings hholds (hshort strings hvalue) hknown
  refused _ hrefused := by
    rw [addClockAliases_of_value hvalue]
    split
    next hfits =>
      refine addAliases_of_not_known strings ?_
      by_contra hall
      exact hrefused strings hvalue ⟨hnonempty, hfits.1, hfits.2, fun triple hmem ↦
        by_contra fun hunknown ↦ hall ⟨triple, hmem, hunknown⟩⟩
    · exact ⟨_, rfl⟩

/-- **Aliases of the DSP clocks.** When the clocks are registered, the probe treats the property as it is
meant exactly if the property is there and not empty. -/
theorem q6dspClockDevProbe_aliases_iff (calls : ClockCalls) (device : DspClockDevice)
    (inits : List Q6dspClkInit) (cc : Q6dspCc) (hnode : device.ofNode = false)
    (hclocks : registerProvider calls device = .ok (inits, cc)) (hshort : ShortNames calls device) :
    AliasesAsMeant device inits cc (q6dspClockDevProbe calls device) ↔
      device.clockAliases ≠ .absent ∧ device.clockAliases ≠ .value [] := by
  rw [q6dspClockDevProbe_eq hnode hclocks]
  constructor
  · intro hmeant
    constructor
    · intro habsent
      have hread : readStringArray device = .error EINVAL := by rw [readStringArray, habsent]
      obtain ⟨errno, hfails⟩ := addClockAliases_of_error hread
      rw [hmeant.absent habsent] at hfails
      cases hfails
    · intro hempty
      obtain ⟨errno, hfails⟩ := hmeant.refused (by simp [hempty]) fun strings hvalue hadmitted ↦
        hadmitted.1 (by simpa [hempty] using hvalue.symm)
      rw [addClockAliases_of_value hempty] at hfails
      cases hfails
  · rintro ⟨hpresent, hnonempty⟩
    cases hvalue : device.clockAliases with
    | absent => exact absurd hvalue hpresent
    | unreadable errno =>
      have hread : readStringArray device = .error errno := by rw [readStringArray, hvalue]
      exact
        { absent := fun habsent ↦ absurd habsent hpresent
          admitted := fun strings hstrings ↦ by simp [hvalue] at hstrings
          refused := fun _ _ ↦ addClockAliases_of_error hread }
    | value strings =>
      refine aliasesAsMeant_of_value (holds_of_registerProvider hclocks) hshort hvalue fun hempty ↦ ?_
      exact hnonempty (hempty ▸ hvalue)

end

/-- Every call succeeds. -/
def willingCalls : ClockCalls := ⟨104, true, fun _ ↦ true, fun _ ↦ none, fun _ ↦ none, none⟩

/-- The strings `mclk`, `va` and `npl`. -/
def mclkName : CString := ⟨[0x6D, 0x63, 0x6C, 0x6B], by decide⟩

def vaName : CString := ⟨[0x76, 0x61], by decide⟩

def nplName : CString := ⟨[0x6E, 0x70, 0x6C], by decide⟩

/-- A provider of one clock, without a device tree node. -/
def oneClockDevice (clockAliases : Property (List CString)) : DspClockDevice :=
  ⟨false, vaName, some [⟨57, 0x300, mclkName, 19200000⟩], none, .absent, clockAliases⟩

/-- The provider of one clock does not probe without the property. -/
theorem not_aliasesAsMeant_absent :
    q6dspClockDevProbe willingCalls (oneClockDevice .absent) = .error EINVAL ∧
      ∃ inits cc, registerProvider willingCalls (oneClockDevice .absent) = .ok (inits, cc) ∧
        ¬AliasesAsMeant (oneClockDevice .absent) inits cc
          (q6dspClockDevProbe willingCalls (oneClockDevice .absent)) := by
  refine ⟨rfl, _, _, rfl, fun hmeant ↦ ?_⟩
  cases hmeant.absent rfl

/-- With one alias of its clock it does, and the alias leads to the clock. -/
theorem q6dspClockDevProbe_aliases_iff_oneClock :
    ∃ inits cc, registerProvider willingCalls (oneClockDevice (.value [mclkName, vaName, nplName])) =
        .ok (inits, cc) ∧
      AliasesAsMeant (oneClockDevice (.value [mclkName, vaName, nplName])) inits cc
        (q6dspClockDevProbe willingCalls (oneClockDevice (.value [mclkName, vaName, nplName]))) :=
  ⟨_, _, rfl, (q6dspClockDevProbe_aliases_iff _ _ _ _ rfl rfl fun _ _ _ _ _ ↦ rfl).2
    ⟨by decide, by decide⟩⟩

end TclB220G.Audio
