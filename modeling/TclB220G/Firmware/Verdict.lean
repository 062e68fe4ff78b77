import Mathlib.Data.List.Nodup
import TclB220G.Firmware.Manifest

/-!
# The verdict of the firmware check

The loop over the manifests keeps one row for each path that it has seen.  It goes through exactly if
all paths are valid and the entries of each path agree, which does not depend on their order.  The
verdict is then that of the files: each one that is not optional has the listed size and digest.
-/

namespace TclB220G.Firmware

open Lib

/-! ## Manifests -/

/-- The entries list a path. -/
def Lists (items : List Item) (path : Text) : Prop :=
  ∃ item ∈ items, item.firmwareRelativePath = some path

/-- The paths are valid, and entries for one path agree. -/
structure Coherent (items : List Item) : Prop where
  valid : ∀ item ∈ items, ∀ path, item.firmwareRelativePath = some path → isInvalid path = false
  agree : ∀ first ∈ items, ∀ second ∈ items, ∀ path, first.firmwareRelativePath = some path →
    second.firmwareRelativePath = some path →
      first.bytes = second.bytes ∧ first.sha256 = second.sha256

/-- There is one row for each path that the entries list. -/
structure Collected (items : List Item) (rows : List Reference) : Prop where
  nodup : (rows.map Reference.path).Nodup
  mem_iff : ∀ row, row ∈ rows ↔ ∃ item ∈ items, ∃ path,
    item.firmwareRelativePath = some path ∧ row = item.reference path

theorem Coherent.mono {items more : List Item} (hcoherent : Coherent more) (hsubset : items ⊆ more) :
    Coherent items :=
  ⟨fun item hitem ↦ hcoherent.valid item (hsubset hitem),
    fun first hfirst second hsecond ↦ hcoherent.agree first (hsubset hfirst) second (hsubset hsecond)⟩

/-- An entry fits those before it. -/
def Fits (items : List Item) (item : Item) : Prop :=
  ∀ path, item.firmwareRelativePath = some path → isInvalid path = false ∧
    ∀ other ∈ items, other.firmwareRelativePath = some path →
      other.reference path = item.reference path

theorem reference_eq_iff (first second : Item) (path : Text) :
    first.reference path = second.reference path ↔
      first.bytes = second.bytes ∧ first.sha256 = second.sha256 := by
  simp [Item.reference]

theorem coherent_concat_iff (items : List Item) (item : Item) :
    Coherent (items ++ [item]) ↔ Coherent items ∧ Fits items item := by
  constructor
  · intro hcoherent
    refine ⟨hcoherent.mono (List.subset_append_left _ _), fun path hpath ↦ ?_⟩
    have hlast : item ∈ items ++ [item] := List.mem_append_right _ (List.mem_singleton_self item)
    refine ⟨hcoherent.valid item hlast path hpath, fun other hother hotherPath ↦ ?_⟩
    exact (reference_eq_iff other item path).2
      (hcoherent.agree other (List.mem_append_left _ hother) item hlast path hotherPath hpath)
  · rintro ⟨hcoherent, hfits⟩
    have hwith (other : Item) (hother : other ∈ items) (path : Text)
        (hotherPath : other.firmwareRelativePath = some path)
        (hpath : item.firmwareRelativePath = some path) :=
      (reference_eq_iff other item path).1 ((hfits path hpath).2 other hother hotherPath)
    constructor
    · rw [List.forall_mem_append, List.forall_mem_singleton]
      exact ⟨hcoherent.valid, fun path hpath ↦ (hfits path hpath).1⟩
    · simp only [List.forall_mem_append, List.forall_mem_singleton]
      refine ⟨fun first hfirst ↦ ⟨hcoherent.agree first hfirst, hwith first hfirst⟩, ?_⟩
      refine ⟨fun second hsecond path hpath hsecondPath ↦ ?_, fun _ _ _ ↦ by simp⟩
      exact (hwith second hsecond path hsecondPath hpath).imp Eq.symm Eq.symm

theorem collected_nil : Collected [] [] :=
  ⟨List.nodup_nil, fun _ ↦ ⟨fun h ↦ absurd h List.not_mem_nil, fun ⟨_, h, _⟩ ↦ absurd h List.not_mem_nil⟩⟩

variable {items : List Item} {rows : List Reference}

section

variable (hcollected : Collected items rows)
include hcollected

/-- A row has the path of its entry. -/
theorem Collected.exists_item {row : Reference} (hrow : row ∈ rows) :
    ∃ item ∈ items, item.firmwareRelativePath = some row.path ∧ row = item.reference row.path := by
  obtain ⟨item, hitem, path, hpath, rfl⟩ := (hcollected.mem_iff row).1 hrow
  exact ⟨item, hitem, hpath, rfl⟩

theorem Collected.mem_path_iff (path : Text) :
    path ∈ rows.map Reference.path ↔ Lists items path := by
  rw [List.mem_map]
  constructor
  · rintro ⟨row, hrow, rfl⟩
    obtain ⟨item, hitem, hpath, _⟩ := hcollected.exists_item hrow
    exact ⟨item, hitem, hpath⟩
  · rintro ⟨item, hitem, hpath⟩
    exact ⟨item.reference path, (hcollected.mem_iff _).2 ⟨item, hitem, path, hpath, rfl⟩, rfl⟩

/-- What is listed with one entry more. -/
theorem Collected.exists_concat_iff (item : Item) (row : Reference) :
    (∃ other ∈ items ++ [item], ∃ path,
        other.firmwareRelativePath = some path ∧ row = other.reference path) ↔
      row ∈ rows ∨ ∃ path, item.firmwareRelativePath = some path ∧ row = item.reference path := by
  rw [hcollected.mem_iff]
  simp only [List.mem_append, List.mem_singleton, or_and_right, exists_or, exists_eq_left]

/-- An entry that adds nothing leaves the rows complete. -/
theorem Collected.concat_of_mem {item : Item}
    (hmem : ∀ path, item.firmwareRelativePath = some path → item.reference path ∈ rows) :
    Collected (items ++ [item]) rows := by
  refine ⟨hcollected.nodup, fun row ↦ ?_⟩
  rw [hcollected.exists_concat_iff, or_iff_left_of_imp]
  rintro ⟨path, hpath, rfl⟩
  exact hmem path hpath

theorem Collected.concat_new {item : Item} {path : Text}
    (hpath : item.firmwareRelativePath = some path) (hnew : ∀ row ∈ rows, row.path ≠ path) :
    Collected (items ++ [item]) (rows ++ [item.reference path]) := by
  constructor
  · rw [List.map_append, List.map_singleton, List.nodup_append_comm]
    refine List.nodup_cons.2 ⟨fun hmem ↦ ?_, hcollected.nodup⟩
    obtain ⟨row, hrow, hrowPath⟩ := List.mem_map.1 hmem
    exact hnew row hrow hrowPath
  · intro row
    rw [hcollected.exists_concat_iff, List.mem_append, List.mem_singleton, hpath]
    simp only [Option.some.injEq, exists_eq_left']

end

/-- One turn of the loop keeps what holds of the entries so far, and stops at an entry that does not
fit them. -/
theorem addItem_spec (hcoherent : Coherent items) (hcollected : Collected items rows) (item : Item) :
    match addItem rows item with
    | .ok rows => Coherent (items ++ [item]) ∧ Collected (items ++ [item]) rows
    | .error _ => ¬Coherent (items ++ [item]) := by
  rw [coherent_concat_iff]
  cases hpath : item.firmwareRelativePath with
  | none =>
    have hnone (path : Text) : item.firmwareRelativePath ≠ some path := by rw [hpath]; exact nofun
    rw [addItem, hpath]
    exact ⟨⟨hcoherent, fun path h ↦ absurd h (hnone path)⟩,
      hcollected.concat_of_mem fun path h ↦ absurd h (hnone path)⟩
  | some path =>
    have honly {other : Text} (hother : item.firmwareRelativePath = some other) : other = path :=
      Option.some.inj (hother.symm.trans hpath)
    rw [addItem, hpath]
    dsimp only
    split_ifs with hinvalid
    · exact fun h ↦ Bool.noConfusion (hinvalid.symm.trans (h.2 path hpath).1)
    · rw [Bool.not_eq_true] at hinvalid
      cases hfind : rows.find? fun row ↦ row.path = path with
      | none =>
        have hnew : ∀ row ∈ rows, row.path ≠ path := by simpa using hfind
        refine ⟨⟨hcoherent, fun other hother ↦ ?_⟩, hcollected.concat_new hpath hnew⟩
        rw [honly hother]
        refine ⟨hinvalid, fun earlier hearlier hsame ↦ ?_⟩
        exact absurd rfl (hnew (earlier.reference path)
          ((hcollected.mem_iff _).2 ⟨earlier, hearlier, path, hsame, rfl⟩))
      | some row =>
        have hrow : row ∈ rows := List.mem_of_find?_eq_some hfind
        have hrowPath : row.path = path := by simpa using List.find?_some hfind
        obtain ⟨owner, howner, hownerPath, hreference⟩ := hcollected.exists_item hrow
        rw [hrowPath] at hownerPath hreference
        dsimp only
        split_ifs with hdiffers
        · exact fun h ↦ hdiffers (hreference.trans ((h.2 path hpath).2 owner howner hownerPath))
        · rw [not_not] at hdiffers
          refine ⟨⟨hcoherent, fun other hother ↦ ?_⟩, hcollected.concat_of_mem fun other hother ↦ ?_⟩
          · rw [honly hother]
            refine ⟨hinvalid, fun earlier hearlier hsame ↦ ?_⟩
            rw [← hdiffers, hreference, reference_eq_iff]
            exact hcoherent.agree earlier hearlier owner howner path hsame hownerPath
          · rw [honly hother, ← hdiffers]
            exact hrow

/-- The loop goes through exactly if the entries are coherent, and then has one row for each path. -/
theorem foldlM_addItem_spec (hcoherent : Coherent items) (hcollected : Collected items rows)
    (more : List Item) :
    match more.foldlM addItem rows with
    | .ok rows => Coherent (items ++ more) ∧ Collected (items ++ more) rows
    | .error _ => ¬Coherent (items ++ more) := by
  induction more generalizing items rows with
  | nil =>
    rw [List.append_nil]
    exact ⟨hcoherent, hcollected⟩
  | cons item more ih =>
    have hstep := addItem_spec hcoherent hcollected item
    rw [List.foldlM_cons, ← List.singleton_append, ← List.append_assoc]
    revert hstep
    cases addItem rows item with
    | error refusal =>
      intro hincoherent
      exact fun h ↦ hincoherent (h.mono (List.subset_append_left _ _))
    | ok rows => exact fun hstep ↦ ih hstep.1 hstep.2

theorem references_spec (firmware runtime : List Item) :
    match references firmware runtime with
    | .ok rows => Coherent (firmware ++ runtime) ∧ Collected (firmware ++ runtime) rows
    | .error _ => ¬Coherent (firmware ++ runtime) := by
  have hnil : Coherent [] := ⟨fun _ h ↦ absurd h List.not_mem_nil, fun _ h ↦ absurd h List.not_mem_nil⟩
  exact foldlM_addItem_spec hnil collected_nil (firmware ++ runtime)

/-! ## Files -/

/-- The data of a path: those of the plain file if it is present, otherwise those of the first
compressed one that is. -/
def decoded (host : Host) (path : Text) : Option Bytes :=
  let plain := PosixPath.parts path
  let zst := PosixPath.parts (path ++ Text.ofString ".zst")
  let xz := PosixPath.parts (path ++ Text.ofString ".xz")
  if host.present plain then (host.readBytes plain).toOption
  else if host.present zst then (host.zstd zst).toOption
  else if host.present xz then ((host.readBytes xz).bind host.lzmaDecompress).toOption
  else none

/-- The path has data of this size and with this digest. -/
def Intact (host : Host) (path : Text) (bytes : ℤ) (sha256 : Text) : Prop :=
  ∃ data, decoded host path = some data ∧ (data.length : ℤ) = bytes ∧ host.hexdigest data = sha256

/-- The three candidates of a path are different. -/
theorem candidates_distinct (path : Text) :
    PosixPath.parts (path ++ Text.ofString ".zst") ≠ PosixPath.parts path ∧
      PosixPath.parts (path ++ Text.ofString ".xz") ≠ PosixPath.parts path ∧
      PosixPath.parts (path ++ Text.ofString ".xz") ≠
        PosixPath.parts (path ++ Text.ofString ".zst") := by
  refine ⟨PosixPath.parts_append_ne (by decide) (by decide),
    PosixPath.parts_append_ne (by decide) (by decide), fun heq ↦ ?_⟩
  have hsuffix := PosixPath.parts_append_injective (by decide) (by decide) (by decide) (by decide) heq
  exact absurd hsuffix (by decide)

theorem candidates_eq (path : Text) :
    candidates path = [PosixPath.parts path, PosixPath.parts (path ++ Text.ofString ".zst"),
      PosixPath.parts (path ++ Text.ofString ".xz")] := by
  have hplain : path ++ Text.ofString "" = path := List.append_nil path
  rw [candidates, suffixes, List.map_cons, hplain]
  rfl

/-- The selected candidate is decoded with the tool of its suffix. -/
theorem find?_candidates_bind_decode (host : Host) (path : Text) :
    (((candidates path).find? host.present).bind fun selected ↦
      (decode host path selected).toOption) = decoded host path := by
  have hdistinct := candidates_distinct path
  simp only [decode, decoded, candidates_eq]
  generalize PosixPath.parts path = plain at hdistinct
  generalize PosixPath.parts (path ++ Text.ofString ".zst") = zst at hdistinct
  generalize PosixPath.parts (path ++ Text.ofString ".xz") = xz at hdistinct
  obtain ⟨hzst, hxz, hboth⟩ := hdistinct
  by_cases hplainPresent : host.present plain = true
  · simp [hplainPresent, hzst, hxz]
  · by_cases hzstPresent : host.present zst = true
    · simp [hplainPresent, hzstPresent]
    · by_cases hxzPresent : host.present xz = true
      · simp [hplainPresent, hzstPresent, hxzPresent, hboth.symm]
        rfl
      · simp [hplainPresent, hzstPresent, hxzPresent]

theorem inspect_matches_iff (host : Host) (ref : Reference) :
    (inspect host ref).status = .matches ↔ Intact host ref.path ref.bytes ref.sha256 := by
  rw [Intact, ← find?_candidates_bind_decode, inspect]
  dsimp only
  cases (candidates ref.path).find? host.present with
  | none => simp
  | some selected =>
    dsimp only [Option.bind_some]
    cases decode host ref.path selected with
    | error text => simp [Except.toOption]
    | ok data => simp [Except.toOption]

theorem inspect_reference (host : Host) (ref : Reference) : (inspect host ref).reference = ref := by
  unfold inspect
  dsimp only
  split
  · rfl
  · split <;> rfl

theorem map_path_inspect (host : Host) (rows : List Reference) :
    ((rows.map (inspect host)).map fun row ↦ row.reference.path) = rows.map Reference.path := by
  rw [List.map_map]
  exact List.map_congr_left fun ref _ ↦ congrArg Reference.path (inspect_reference host ref)

/-! ## The program -/

/-- All files that are listed and not optional are intact. -/
def AllIntact (host : Host) (items : List Item) : Prop :=
  ∀ item ∈ items, ∀ path, item.firmwareRelativePath = some path → isOptional path = false →
    Intact host path item.bytes item.sha256

theorem main_finished (host : Host) {firmware runtime : List Item}
    (hrows : references firmware runtime = .ok rows) :
    main (some host) firmware runtime =
      .finished ⟨((rows.map (inspect host)).filter fun row ↦
        row.status ≠ .matches && !row.reference.optionalVariant).isEmpty, rows.map (inspect host)⟩ := by
  rw [main]
  dsimp only
  rw [hrows]

/-- The collected rows all match exactly if the listed files are intact. -/
theorem isEmpty_failed_iff (host : Host) (hcollected : Collected items rows) :
    ((rows.map (inspect host)).filter fun row ↦
        row.status ≠ .matches && !row.reference.optionalVariant).isEmpty = true ↔
      AllIntact host items := by
  rw [List.isEmpty_iff, List.filter_eq_nil_iff, List.forall_mem_map]
  constructor
  · intro hmatches item hitem path hpath hrequired
    have hrow : item.reference path ∈ rows := (hcollected.mem_iff _).2 ⟨item, hitem, path, hpath, rfl⟩
    have hstatus := hmatches _ hrow
    rw [inspect_reference] at hstatus
    refine (inspect_matches_iff host (item.reference path)).1 ?_
    simpa [Item.reference, hrequired] using hstatus
  · intro hintact row hrow
    obtain ⟨item, hitem, path, hpath, rfl⟩ := (hcollected.mem_iff row).1 hrow
    rw [inspect_reference]
    cases hoptional : isOptional path with
    | true => simp [Item.reference, hoptional]
    | false =>
      have hstatus := (inspect_matches_iff host (item.reference path)).2
        (hintact item hitem path hpath hoptional)
      simp [hstatus]

theorem exitStatus_eq_zero_iff (host : Host) (firmware runtime : List Item) :
    (main (some host) firmware runtime).exitStatus = 0 ↔
      Coherent (firmware ++ runtime) ∧ AllIntact host (firmware ++ runtime) := by
  have hspec := references_spec firmware runtime
  cases hrefs : references firmware runtime with
  | error refusal =>
    rw [hrefs] at hspec
    rw [main, hrefs]
    exact ⟨fun h ↦ absurd h Nat.one_ne_zero, fun h ↦ absurd h.1 hspec⟩
  | ok rows =>
    rw [hrefs] at hspec
    rw [main_finished host hrefs, ← isEmpty_failed_iff host hspec.2, Outcome.exitStatus]
    split_ifs with hempty
    · exact ⟨fun _ ↦ ⟨hspec.1, hempty⟩, fun _ ↦ rfl⟩
    · exact ⟨fun h ↦ absurd h (by decide), fun h ↦ absurd h.2 hempty⟩

theorem exitStatus_le_one (host : Host) (firmware runtime : List Item) :
    (main (some host) firmware runtime).exitStatus ≤ 1 := by
  rw [main]
  dsimp only
  split
  · exact Nat.le_refl 1
  · unfold Outcome.exitStatus
    dsimp only
    split_ifs <;> decide

/-- A plain file that is present decides alone. -/
theorem not_intact_of_present {host : Host} {path : Text} {bytes : ℤ} {sha256 : Text}
    (hpresent : host.present (PosixPath.parts path) = true)
    (hwrong : ∀ data, host.readBytes (PosixPath.parts path) = .ok data →
      ¬((data.length : ℤ) = bytes ∧ host.hexdigest data = sha256)) :
    ¬Intact host path bytes sha256 := by
  rintro ⟨data, hdata, hmatches⟩
  rw [decoded, if_pos hpresent] at hdata
  cases hread : host.readBytes (PosixPath.parts path) with
  | error text =>
    rw [hread] at hdata
    cases hdata
  | ok read =>
    rw [hread] at hdata
    cases hdata
    exact hwrong data hread hmatches

theorem coherent_and_allIntact_congr (host : Host) {items others : List Item}
    (hmem : ∀ item, item ∈ items ↔ item ∈ others) :
    Coherent items ∧ AllIntact host items ↔ Coherent others ∧ AllIntact host others :=
  ⟨fun h ↦ ⟨h.1.mono fun _ ↦ (hmem _).2, fun item hitem ↦ h.2 item ((hmem item).2 hitem)⟩,
    fun h ↦ ⟨h.1.mono fun _ ↦ (hmem _).1, fun item hitem ↦ h.2 item ((hmem item).1 hitem)⟩⟩

/-- The program succeeds exactly if the entries are coherent and all files that are not optional are
intact.  A plain file that is wrong or cannot be read is not made up for by a compressed one, the
order of the entries does not matter, and every path is reported once. -/
theorem main_verdict (host : Host) (firmware runtime : List Item) :
    ((main (some host) firmware runtime).exitStatus = 0 ↔
        Coherent (firmware ++ runtime) ∧ AllIntact host (firmware ++ runtime)) ∧
      (∀ item ∈ firmware ++ runtime, ∀ path, item.firmwareRelativePath = some path →
        isOptional path = false → host.present (PosixPath.parts path) = true →
        (∀ data, host.readBytes (PosixPath.parts path) = .ok data →
          ¬((data.length : ℤ) = item.bytes ∧ host.hexdigest data = item.sha256)) →
          (main (some host) firmware runtime).exitStatus ≠ 0) ∧
      (∀ otherFirmware otherRuntime, (otherFirmware ++ otherRuntime).Perm (firmware ++ runtime) →
        (main (some host) otherFirmware otherRuntime).exitStatus =
          (main (some host) firmware runtime).exitStatus) ∧
      (Coherent (firmware ++ runtime) → ∃ report,
        main (some host) firmware runtime = .finished report ∧
          (report.files.map fun row ↦ row.reference.path).Nodup ∧
          ∀ path, path ∈ report.files.map (fun row ↦ row.reference.path) ↔
            Lists (firmware ++ runtime) path) := by
  have hverdict := exitStatus_eq_zero_iff host firmware runtime
  refine ⟨hverdict, ?_, ?_, ?_⟩
  · intro item hitem path hpath hrequired hpresent hwrong hzero
    exact not_intact_of_present hpresent hwrong ((hverdict.1 hzero).2 item hitem path hpath hrequired)
  · intro otherFirmware otherRuntime hperm
    have hother := exitStatus_eq_zero_iff host otherFirmware otherRuntime
    rw [coherent_and_allIntact_congr host fun _ ↦ hperm.mem_iff, ← hverdict] at hother
    have hbound := exitStatus_le_one host firmware runtime
    have hotherBound := exitStatus_le_one host otherFirmware otherRuntime
    omega
  · intro hcoherent
    have hspec := references_spec firmware runtime
    cases hrefs : references firmware runtime with
    | error refusal =>
      rw [hrefs] at hspec
      exact absurd hcoherent hspec
    | ok rows =>
      rw [hrefs] at hspec
      refine ⟨_, main_finished host hrefs, ?_⟩
      rw [map_path_inspect]
      exact ⟨hspec.2.nodup, hspec.2.mem_path_iff⟩

end TclB220G.Firmware
