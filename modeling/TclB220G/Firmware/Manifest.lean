import TclB220G.Lib.PosixPath

/-!
# The firmware check

`check-firmware.py` compares a firmware directory with the files that two manifests list.  It collects
the entries of both, one for each path, and inspects each of them: the plain file if there is one,
otherwise a compressed one.  It succeeds if all files match but for some optional variants.

The parts of a path say where it leads in the directory.  What is there, what can be read and what the
decompressors give is arbitrary, and so is the digest.
-/

namespace TclB220G.Firmware

open Lib

/-- An entry of a manifest.  The path may be missing. -/
structure Item where
  firmwareRelativePath : Option Text
  bytes : ℤ
  sha256 : Text

/-- What is expected of a path. -/
structure Reference where
  path : Text
  bytes : ℤ
  sha256 : Text
  optionalVariant : Bool
  deriving DecidableEq

/-- Why the manifests are refused. -/
inductive Refusal where
  | invalidPath (path : Text)
  | conflictingEntry (path : Text)
  deriving DecidableEq

def Refusal.message : Refusal → Text
  | invalidPath path => Text.ofString "Invalid manifest path: " ++ path
  | conflictingEntry path => Text.ofString "Conflicting manifest entry: " ++ path

/-- The file name starts with `bdwlan.` or `bdwlanu.`. -/
def isOptional (path : Text) : Bool :=
  (Text.ofString "bdwlan.").isPrefixOf (PosixPath.name path) ||
    (Text.ofString "bdwlanu.").isPrefixOf (PosixPath.name path)

/-- The path is absolute or contains `..`. -/
def isInvalid (path : Text) : Bool :=
  PosixPath.isAbsolute path || (PosixPath.parts path).contains (Text.ofString "..")

def Item.reference (item : Item) (path : Text) : Reference :=
  ⟨path, item.bytes, item.sha256, isOptional path⟩

/-- One turn of the loop in `references`.  A row that is there already is equal to the new one. -/
def addItem (rows : List Reference) (item : Item) : Except Refusal (List Reference) :=
  match item.firmwareRelativePath with
  | none => .ok rows
  | some path =>
    if isInvalid path then .error (.invalidPath path)
    else
      match rows.find? fun row ↦ row.path = path with
      | none => .ok (rows ++ [item.reference path])
      | some row => if row ≠ item.reference path then .error (.conflictingEntry path) else .ok rows

/-- The entries of `firmware-manifest.json` and then those of `firmware-runtime-manifest.json`. -/
def references (firmware runtime : List Item) : Except Refusal (List Reference) :=
  (firmware ++ runtime).foldlM addItem []

/-- A firmware directory and the tools of the host.  A path that is present exists or is a symbolic
link.  The `pathlib` of Python 3.14 is assumed, in which neither test raises an error.  An error that
is caught comes with its text. -/
structure Host where
  present : List Text → Bool
  readBytes : List Text → Except Text Bytes
  zstd : List Text → Except Text Bytes
  lzmaDecompress : Bytes → Except Text Bytes
  hexdigest : Bytes → Text

inductive Status where
  | missing | matches | different | error
  deriving DecidableEq, Repr

/-- A row of the report. -/
structure Row where
  reference : Reference
  alternativesPresent : List Text
  selected : Option Text
  actualBytes : Option ℕ
  actualSha256 : Option Text
  status : Status
  error : Option Text

def suffixes : List Text := [Text.ofString "", Text.ofString ".zst", Text.ofString ".xz"]

/-- Where the plain file and the two compressed ones may be. -/
def candidates (path : Text) : List (List Text) :=
  suffixes.map fun suffix ↦ PosixPath.parts (path ++ suffix)

/-- The data of the selected candidate. -/
def decode (host : Host) (path : Text) (selected : List Text) : Except Text Bytes :=
  if (candidates path)[1]? = some selected then host.zstd selected
  else if (candidates path)[2]? = some selected then do
    host.lzmaDecompress (← host.readBytes selected)
  else host.readBytes selected

def inspect (host : Host) (ref : Reference) : Row :=
  let present := (candidates ref.path).filter host.present
  let row : Row := ⟨ref, present.map PosixPath.render, none, none, none, .missing, none⟩
  match (candidates ref.path).find? host.present with
  | none => row
  | some selected =>
    let row := { row with selected := some (PosixPath.render selected) }
    match decode host ref.path selected with
    | .ok data =>
      { row with
        actualBytes := some data.length
        actualSha256 := some (host.hexdigest data)
        status :=
          if (data.length : ℤ) = ref.bytes ∧ host.hexdigest data = ref.sha256 then .matches
          else .different }
    | .error text => { row with status := .error, error := some text }

/-- What is printed, without the fixed texts. -/
structure Report where
  referenceSubsetMatches : Bool
  files : List Row

/-- How the program ends. -/
inductive Outcome where
  | usage
  | raised (refusal : Refusal)
  | finished (report : Report)

def Outcome.exitStatus : Outcome → ℕ
  | usage => 2
  | raised _ => 1
  | finished report => if report.referenceSubsetMatches then 0 else 1

/-- The program, without a host if the directory does not exist. -/
def main (host : Option Host) (firmware runtime : List Item) : Outcome :=
  match host with
  | none => .usage
  | some host =>
    match references firmware runtime with
    | .error refusal => .raised refusal
    | .ok refs =>
      let rows := refs.map (inspect host)
      let failed := rows.filter fun row ↦ row.status ≠ .matches && !row.reference.optionalVariant
      .finished ⟨failed.isEmpty, rows⟩

end TclB220G.Firmware
