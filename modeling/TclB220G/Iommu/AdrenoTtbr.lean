import Mathlib.Data.List.Basic
import Mathlib.Data.List.Induction
import TclB220G.Kernel.Errno

/-!
# The second page table of the graphics processor

The context bank of the graphics processor has split page tables.  The kernel's own one is in TTBR1, and
`qcom_adreno_smmu_set_ttbr0_cfg` puts one of a process into TTBR0 or takes it out again.  The values of
the registers are kept in a cache, from which the bank is written again when the unit is resumed.
-/

namespace TclB220G.Iommu

open Kernel Kernel.Errno

/-- What is used of `struct io_pgtable_cfg`: the value that `arm_smmu_lpae_tcr` makes of it, and the address
of the table. -/
structure PgtableCfg where
  tcr : BitVec 32
  ttbr : BitVec 64
  deriving DecidableEq, Repr

/-- The bit that disables TTBR0. -/
def tcrEpd0 : BitVec 32 := .twoPow 32 7

/-- The bit that disables TTBR1. -/
def tcrEpd1 : BitVec 32 := .twoPow 32 23

/-- The field of a TTBR register for the address space. -/
def ttbrAsid (asid : BitVec 16) : BitVec 64 := asid.setWidth 64 <<< 48

/-- The registers of a context bank that the function sets. -/
structure ContextBank where
  tcr : BitVec 32
  ttbr : BitVec 64
  deriving DecidableEq, Repr

/-- The cache, the values written last to the context bank, and the usage count of the unit. -/
structure Smmu where
  cached : ContextBank
  written : ContextBank
  usage : ℤ

/-- A domain with split page tables: its own one is for TTBR1, with TTBR0 disabled. -/
structure SplitDomain where
  pgtableCfg : PgtableCfg
  asid : BitVec 16
  epd0 : pgtableCfg.tcr &&& tcrEpd0 ≠ 0
  epd1 : pgtableCfg.tcr &&& tcrEpd1 = 0

/-- What runtime power management does in a call: it is disabled, or the unit is active, is suspended and
can be resumed, or cannot be resumed. -/
inductive RuntimePm where
  | disabled
  | active
  | suspended
  | error (errno : Errno)
  deriving DecidableEq, Repr

/-- A call, with no table to put into TTBR0 if it shall be disabled. -/
structure Ttbr0Call where
  pgtblCfg : Option PgtableCfg
  runtimePm : RuntimePm
  deriving DecidableEq, Repr

def armSmmuWriteContextBank (smmu : Smmu) : Smmu := { smmu with written := smmu.cached }

/-- Resuming the unit resets it, which writes the context banks from the cache.  After a failure the
usage count is dropped again. -/
def pmRuntimeResumeAndGet (smmu : Smmu) : RuntimePm → Except Errno Unit × Smmu
  | .error errno =>
    let smmu := { smmu with usage := smmu.usage + 1 }
    (.error errno, { smmu with usage := smmu.usage - 1 })
  | .suspended => (.ok (), armSmmuWriteContextBank { smmu with usage := smmu.usage + 1 })
  | _ => (.ok (), { smmu with usage := smmu.usage + 1 })

def pmRuntimePutAutosuspend (smmu : Smmu) : Smmu := { smmu with usage := smmu.usage - 1 }

namespace SplitDomain

variable (domain : SplitDomain)

/-- The registers with TTBR0 disabled. -/
def original : ContextBank := ⟨domain.pgtableCfg.tcr, ttbrAsid domain.asid⟩

/-- The first part of `qcom_adreno_smmu_set_ttbr0_cfg`: the values that the registers shall have. -/
def ttbr0Values (cached : ContextBank) (pgtblCfg : Option PgtableCfg) : Except Errno ContextBank :=
  if cached.tcr &&& tcrEpd1 ≠ 0 then .error EINVAL
  else
    match pgtblCfg with
    | none =>
      if cached.tcr &&& tcrEpd0 ≠ 0 then .error EINVAL
      else .ok ⟨domain.pgtableCfg.tcr, ttbrAsid domain.asid⟩
    | some cfg =>
      if cached.tcr &&& tcrEpd0 = 0 then .error EINVAL
      else
        .ok ⟨(cached.tcr ||| cfg.tcr) &&& ~~~(tcrEpd0 ||| tcrEpd1),
          cfg.ttbr ||| ttbrAsid domain.asid⟩

def qcomAdrenoSmmuSetTtbr0Cfg (smmu : Smmu) (call : Ttbr0Call) : Except Errno Unit × Smmu :=
  let runtimePm := call.runtimePm ≠ .disabled
  match domain.ttbr0Values smmu.cached call.pgtblCfg with
  | .error errno => (.error errno, smmu)
  | .ok values =>
    match if runtimePm then pmRuntimeResumeAndGet smmu call.runtimePm else (.ok (), smmu) with
    | (.error errno, smmu) => (.error errno, smmu)
    | (.ok _, smmu) =>
      let smmu := armSmmuWriteContextBank { smmu with cached := values }
      (.ok (), if runtimePm then pmRuntimePutAutosuspend smmu else smmu)

/-- The state in which the domain was set up. -/
def start (usage : ℤ) : Smmu := ⟨domain.original, domain.original, usage⟩

/-- The state after some calls. -/
def after (usage : ℤ) (calls : List Ttbr0Call) : Smmu :=
  calls.foldl (fun smmu call ↦ (domain.qcomAdrenoSmmuSetTtbr0Cfg smmu call).2) (domain.start usage)

/-- What a call returns after some calls. -/
def answer (usage : ℤ) (earlier : List Ttbr0Call) (call : Ttbr0Call) : Except Errno Unit :=
  (domain.qcomAdrenoSmmuSetTtbr0Cfg (domain.after usage earlier) call).1

end SplitDomain

/-! ## The registers -/

/-- TTBR0 is disabled. -/
def ContextBank.Ttbr0Disabled (bank : ContextBank) : Prop := bank.tcr &&& tcrEpd0 ≠ 0

theorem and_twoPow_eq_zero {width : ℕ} (word : BitVec width) {index : ℕ} (hindex : index < width) :
    word &&& .twoPow width index = 0 ↔ word.getLsbD index = false := by
  rw [BitVec.and_twoPow]
  split_ifs with hbit
  · refine iff_of_false (fun hzero ↦ ?_) (by simp [hbit])
    have hset : (BitVec.twoPow width index).getLsbD index = true := by simp [hindex]
    rw [hzero, BitVec.ofNat_eq_ofNat, BitVec.getLsbD_zero] at hset
    exact Bool.false_ne_true hset
  · exact iff_of_true rfl (Bool.eq_false_iff.2 hbit)

theorem ttbr0Disabled_iff (bank : ContextBank) : bank.Ttbr0Disabled ↔ bank.tcr.getLsbD 7 = true := by
  rw [ContextBank.Ttbr0Disabled, ne_eq, tcrEpd0, and_twoPow_eq_zero _ (by decide), Bool.not_eq_false]

namespace SplitDomain

variable (domain : SplitDomain)

/-- The registers have TTBR1 enabled, and are the original ones if TTBR0 is disabled. -/
structure Split (bank : ContextBank) : Prop where
  epd1_clear : bank.tcr.getLsbD 23 = false
  eq_original : bank.Ttbr0Disabled → bank = domain.original

theorem split_original : domain.Split domain.original :=
  ⟨(and_twoPow_eq_zero _ (by decide)).1 domain.epd1, fun _ ↦ rfl⟩

theorem ttbr0Disabled_original : domain.original.Ttbr0Disabled := domain.epd0

/-- With both bits cleared there is no state in which TTBR0 is disabled. -/
theorem split_cleared (tcr : BitVec 32) (ttbr : BitVec 64) :
    domain.Split ⟨tcr &&& ~~~(tcrEpd0 ||| tcrEpd1), ttbr⟩ := by
  refine ⟨by simp [tcrEpd0, tcrEpd1], fun hdisabled ↦ ?_⟩
  rw [ttbr0Disabled_iff] at hdisabled
  simp [tcrEpd0] at hdisabled

variable {domain} {cached : ContextBank}

/-- A table is put in only if TTBR0 is disabled and taken out only if it is enabled. -/
theorem ttbr0Values_cases (hsplit : domain.Split cached) (pgtblCfg : Option PgtableCfg) :
    ((pgtblCfg.isSome ↔ cached.Ttbr0Disabled) ∧
      ∃ values, domain.ttbr0Values cached pgtblCfg = .ok values ∧ domain.Split values ∧
        (pgtblCfg = none → values = domain.original)) ∨
    (¬(pgtblCfg.isSome ↔ cached.Ttbr0Disabled) ∧
      domain.ttbr0Values cached pgtblCfg = .error EINVAL) := by
  have hepd1 : ¬cached.tcr &&& tcrEpd1 ≠ 0 :=
    not_not.2 ((and_twoPow_eq_zero _ (by decide)).2 hsplit.epd1_clear)
  unfold ttbr0Values ContextBank.Ttbr0Disabled
  rw [if_neg hepd1]
  by_cases hepd0 : cached.tcr &&& tcrEpd0 = 0
  · cases pgtblCfg with
    | none =>
      exact .inl ⟨by simp [hepd0], _, if_neg (not_not.2 hepd0), domain.split_original, fun _ ↦ rfl⟩
    | some cfg => exact .inr ⟨by simp [hepd0], if_pos hepd0⟩
  · cases pgtblCfg with
    | none => exact .inr ⟨by simpa using hepd0, if_pos hepd0⟩
    | some cfg =>
      refine .inl ⟨by simpa using hepd0, _, if_neg hepd0, domain.split_cleared _ _, ?_⟩
      exact fun hnone ↦ nomatch hnone

/-! ## Calls one after another -/

/-- A call fails and changes nothing, or the cache and the bank have the new values after it. -/
theorem setTtbr0Cfg_cases {smmu : Smmu} (hsplit : domain.Split smmu.cached) (call : Ttbr0Call) :
    ((call.pgtblCfg.isSome ↔ smmu.cached.Ttbr0Disabled) ∧ (∀ errno, call.runtimePm ≠ .error errno) ∧
      ∃ values, domain.qcomAdrenoSmmuSetTtbr0Cfg smmu call = (.ok (), ⟨values, values, smmu.usage⟩) ∧
        domain.Split values ∧ (call.pgtblCfg = none → values = domain.original)) ∨
    (¬((call.pgtblCfg.isSome ↔ smmu.cached.Ttbr0Disabled) ∧ ∀ errno, call.runtimePm ≠ .error errno) ∧
      ∃ errno, domain.qcomAdrenoSmmuSetTtbr0Cfg smmu call = (.error errno, smmu)) := by
  unfold qcomAdrenoSmmuSetTtbr0Cfg
  rcases ttbr0Values_cases hsplit call.pgtblCfg with
    ⟨haccepts, values, hvalues, hvalid⟩ | ⟨hrefuses, hvalues⟩
  · rw [hvalues]
    -- The usage count goes up and down again unless power management is disabled.
    cases call.runtimePm with
    | disabled => exact .inl ⟨haccepts, nofun, values, rfl, hvalid⟩
    | active =>
      refine .inl ⟨haccepts, nofun, values, ?_, hvalid⟩
      simp [pmRuntimeResumeAndGet, armSmmuWriteContextBank, pmRuntimePutAutosuspend]
    | suspended =>
      refine .inl ⟨haccepts, nofun, values, ?_, hvalid⟩
      simp [pmRuntimeResumeAndGet, armSmmuWriteContextBank, pmRuntimePutAutosuspend]
    | error errno =>
      refine .inr ⟨fun h ↦ h.2 errno rfl, errno, ?_⟩
      simp [pmRuntimeResumeAndGet]
  · rw [hvalues]
    exact .inr ⟨fun h ↦ hrefuses h.1, EINVAL, rfl⟩

/-- What holds before and after each call. -/
structure Consistent (domain : SplitDomain) (smmu : Smmu) : Prop where
  written_eq : smmu.written = smmu.cached
  split : domain.Split smmu.cached

theorem Consistent.set {smmu : Smmu} (hconsistent : domain.Consistent smmu) (call : Ttbr0Call) :
    domain.Consistent (domain.qcomAdrenoSmmuSetTtbr0Cfg smmu call).2 := by
  rcases setTtbr0Cfg_cases hconsistent.split call with
    ⟨-, -, values, hset, hvalues, -⟩ | ⟨-, errno, hset⟩
  · rw [hset]
    exact ⟨rfl, hvalues⟩
  · rw [hset]
    exact hconsistent

theorem after_concat (usage : ℤ) (earlier : List Ttbr0Call) (call : Ttbr0Call) :
    domain.after usage (earlier ++ [call]) =
      (domain.qcomAdrenoSmmuSetTtbr0Cfg (domain.after usage earlier) call).2 :=
  List.foldl_concat ..

theorem consistent_after (usage : ℤ) (calls : List Ttbr0Call) :
    domain.Consistent (domain.after usage calls) := by
  induction calls using List.reverseRecOn with
  | nil => exact ⟨rfl, domain.split_original⟩
  | append_singleton earlier call ih =>
    rw [after_concat]
    exact ih.set call

/-- The cases of a call after any calls. -/
theorem after_cases (usage : ℤ) (earlier : List Ttbr0Call) (call : Ttbr0Call) :
    ((call.pgtblCfg.isSome ↔ (domain.after usage earlier).cached.Ttbr0Disabled) ∧
      (∀ errno, call.runtimePm ≠ .error errno) ∧ domain.answer usage earlier call = .ok () ∧
      ∃ values,
        domain.after usage (earlier ++ [call]) = ⟨values, values, (domain.after usage earlier).usage⟩ ∧
        (call.pgtblCfg = none → values = domain.original)) ∨
    (¬((call.pgtblCfg.isSome ↔ (domain.after usage earlier).cached.Ttbr0Disabled) ∧
        ∀ errno, call.runtimePm ≠ .error errno) ∧
      (∃ errno, domain.answer usage earlier call = .error errno) ∧
      domain.after usage (earlier ++ [call]) = domain.after usage earlier) := by
  have hconsistent : domain.Consistent (domain.after usage earlier) := consistent_after usage earlier
  rw [after_concat, answer]
  rcases setTtbr0Cfg_cases hconsistent.split call with
    ⟨haccepts, hresumes, values, hset, -, hnone⟩ | ⟨hrefuses, errno, hset⟩
  · rw [hset]
    exact .inl ⟨haccepts, hresumes, rfl, values, rfl, hnone⟩
  · rw [hset]
    exact .inr ⟨hrefuses, ⟨errno, rfl⟩, rfl⟩

theorem answer_ok_iff (usage : ℤ) (earlier : List Ttbr0Call) (call : Ttbr0Call) :
    domain.answer usage earlier call = .ok () ↔
      (call.pgtblCfg.isSome ↔ (domain.after usage earlier).cached.Ttbr0Disabled) ∧
        ∀ errno, call.runtimePm ≠ .error errno := by
  rcases after_cases usage earlier call with ⟨haccepts, hresumes, hok, -⟩ | ⟨hrefuses, ⟨errno, herror⟩, -⟩
  · exact iff_of_true hok ⟨haccepts, hresumes⟩
  · rw [herror]
    exact iff_of_false (fun hok ↦ nomatch hok) hrefuses

/-- An accepted enable finds the original registers. -/
theorem cached_before_enable {usage : ℤ} {earlier : List Ttbr0Call} {call : Ttbr0Call}
    (henable : call.pgtblCfg.isSome) (hok : domain.answer usage earlier call = .ok ()) :
    (domain.after usage earlier).cached = domain.original := by
  have hconsistent : domain.Consistent (domain.after usage earlier) := consistent_after usage earlier
  exact hconsistent.split.eq_original (((answer_ok_iff usage earlier call).1 hok).1.1 henable)

/-- An accepted disable leaves the original registers. -/
theorem cached_after_disable {usage : ℤ} {earlier : List Ttbr0Call} {call : Ttbr0Call}
    (hdisable : call.pgtblCfg = none) (hok : domain.answer usage earlier call = .ok ()) :
    (domain.after usage (earlier ++ [call])).cached = domain.original := by
  rcases after_cases usage earlier call with ⟨-, -, -, values, hafter, hnone⟩ | ⟨-, ⟨errno, herror⟩, -⟩
  · rw [hafter]
    exact hnone hdisable
  · exact nomatch hok.symm.trans herror

end SplitDomain

end TclB220G.Iommu
