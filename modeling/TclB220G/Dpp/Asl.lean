import TclB220G.Dpp.Leftover
import TclB220G.Lib.IntegerList
import TclB220G.Lib.Replace

/-!
# From the image to the ACPI source

`wlan_mac` takes the factory address out of the provisioning file, and `render_asl` writes it into a
template in place of a marker.  The marker has to occur once, inside a package.

The marker is counted without overlaps, but inside the package it stands between blanks, which it does
not have.  So the one that is counted is the one in the package, and it is the only one.  The integers
of the package that is written are read back by a reader of its own.
-/

namespace TclB220G.Dpp

open Lib Lib.Text Lib.IntegerList Lib.Replace

def wlanFileSize : ℕ := 27

def wlanHeader : Bytes := [0x01, 0x07, 0x01]

/-- The presentation of an integer in base ten. -/
def formatNat (value : ℕ) : Text := ofString (toString value)

/-- The two digits of an octet in `bytes.hex`. -/
def hexOctet (octet : UInt8) : Text := [hexDigit (octet.toNat / 16), hexDigit (octet.toNat % 16)]

def wlanMac (image : Bytes) : Py Bytes := do
  let provision ← readRwfsFile image wlanFile
  if provision.length ≠ wlanFileSize then
    raise (ofString "unsupported " ++ wlanFile ++ ofString " size: " ++ formatNat provision.length ++
      ofString ", expected " ++ formatNat wlanFileSize)
  else if provision.slice 0 3 ≠ wlanHeader then
    raise (ofString "unsupported " ++ wlanFile ++ ofString " header: " ++
      (provision.slice 0 3).flatMap hexOctet)
  else
    let mac := provision.slice 3 9
    if mac = List.replicate 6 0 ∨ mac = List.replicate 6 0xff ∨ mac.getD 0 0 &&& 0x03 ≠ 0 then
      raise (ofString "invalid factory WLAN MAC: " ++
        (ofString ":").intercalate (mac.map hexOctet))
    else return mac

def marker : Text := ofString "@WLAN_MAC_BYTES@"

/-- What stands before and after the marker in its package. -/
def packageOpen : Text := ofString "Package () \x7b "
def packageClose : Text := ofString " \x7d"

def renderAsl (template : Text) (mac : Bytes) : Py Text :=
  if count marker template ≠ 1 then
    raise (ofString "ASL template must contain exactly one " ++ marker)
  else if ¬packageOpen ++ marker ++ packageClose <:+: template then
    raise (ofString "WLAN MAC must be an ACPI Package of integers; " ++
      ofString "a Buffer invalidates the standard _DSD property package in Linux")
  else return replace marker (printOctets mac) template

/-! ## The address -/

/-- Six octets, not all of them zero, with the bits of a group address and of a local address clear in
the first one. -/
structure FactoryAddress (mac : Bytes) : Prop where
  length : mac.length = 6
  nonzero : mac ≠ List.replicate 6 0
  unicast : (mac.getD 0 0).toNat.testBit 0 = false
  global : (mac.getD 0 0).toNat.testBit 1 = false

theorem testBit_of_and_three {octet : UInt8} (h : octet &&& 0x03 = 0) :
    octet.toNat.testBit 0 = false ∧ octet.toNat.testBit 1 = false := by
  have hnat : octet.toNat &&& 3 = 0 := by
    have hand := congrArg UInt8.toNat h
    rwa [UInt8.toNat_and] at hand
  have hbit (index : ℕ) (hindex : Nat.testBit 3 index = true) : octet.toNat.testBit index = false := by
    have hand : (octet.toNat &&& 3).testBit index = false := by rw [hnat, Nat.zero_testBit]
    rwa [Nat.testBit_and, hindex, Bool.and_true] at hand
  exact ⟨hbit 0 (by decide), hbit 1 (by decide)⟩

/-- An accepted address is that of the first provisioning file. -/
theorem wlanMac_ok {image mac : Bytes} (hmac : wlanMac image = .ok mac) :
    HeaderFits image ∧ ∃ index, FirstMatch image wlanFile index ∧
      (entryData image index).length = wlanFileSize ∧ mac = (entryData image index).slice 3 9 ∧
      FactoryAddress mac := by
  unfold wlanMac at hmac
  cases hread : readRwfsFile image wlanFile with
  | error exn => rw [hread] at hmac; cases hmac
  | ok provision =>
    obtain ⟨hfits, index, hmatch, rfl⟩ := (readRwfsFile_ok_iff image wlanFile provision).1 hread
    simp only [hread, bind, Except.bind, pure, Except.pure] at hmac
    split at hmac
    · cases hmac
    next hlength =>
      split at hmac
      · cases hmac
      split at hmac
      · cases hmac
      next hvalid =>
        cases hmac
        simp only [not_or, not_not] at hlength hvalid
        obtain ⟨hbits, hglobal⟩ := testBit_of_and_three hvalid.2.2
        refine ⟨hfits, index, hmatch, hlength, rfl, ?_, hvalid.1, hbits, hglobal⟩
        exact Bytes.length_slice _ (by rw [hlength]; decide)

/-! ## The package -/

def packageHead : Text := ofString "Package () \x7b"

/-- The brace that ends a package. -/
def closing : ℕ := 0x7d

theorem packageOpen_eq : packageOpen = packageHead ++ [blank] := by decide

theorem packageClose_eq : packageClose = [blank, closing] := by decide

/-- The integers of the package that a text starts with. -/
def readPackage (text : Text) : Option (List ℕ) :=
  if packageHead <+: text ∧ closing ∈ text.drop packageHead.length then
    readIntegers ((text.drop packageHead.length).takeWhile (· ≠ closing))
  else none

theorem readPackage_printOctets {octets : List UInt8} (hoctets : octets ≠ []) (after : Text) :
    readPackage (packageOpen ++ printOctets octets ++ packageClose ++ after) =
      some (octets.map UInt8.toNat) := by
  have hblank : ∀ point ∈ [blank], point = blank := by simp
  have hbody : ∀ point ∈ [blank] ++ (printOctets octets ++ [blank]), (decide (point ≠ closing)) = true := by
    intro point hpoint
    rw [decide_eq_true_eq]
    rintro rfl
    have hprinted : closing ∉ printOctets octets :=
      not_mem_printOctets (by decide) (by decide) (by decide) (by decide) octets
    simp only [List.mem_append, List.mem_singleton] at hpoint
    rcases hpoint with h | h | h
    · exact absurd h (by decide)
    · exact hprinted h
    · exact absurd h (by decide)
  have htext : packageOpen ++ printOctets octets ++ packageClose ++ after =
      packageHead ++ (([blank] ++ (printOctets octets ++ [blank])) ++ closing :: after) := by
    rw [packageOpen_eq, packageClose_eq]
    simp only [List.append_assoc, List.cons_append, List.nil_append]
  rw [htext, readPackage, List.drop_left, if_pos]
  · rw [List.takeWhile_append_of_pos hbody, List.takeWhile_cons_of_neg (by simp), List.append_nil]
    exact readIntegers_printOctets hblank hblank hoctets
  · exact ⟨List.prefix_append _ _, List.mem_append_right _ List.mem_cons_self⟩

/-- The marker stood in a package between `before` and `after` and nowhere else, and the octets are
printed there instead. -/
structure RenderedAt (template : Text) (mac : Bytes) (asl before after : Text) : Prop where
  source : template = before ++ packageOpen ++ marker ++ packageClose ++ after
  only : ∀ head tail, template = head ++ marker ++ tail →
    head = before ++ packageOpen ∧ tail = packageClose ++ after
  output : asl = before ++ packageOpen ++ printOctets mac ++ packageClose ++ after

theorem renderAsl_ok {template asl : Text} {mac : Bytes} (hasl : renderAsl template mac = .ok asl) :
    ¬marker <:+: asl ∧ ∃ before after, RenderedAt template mac asl before after := by
  have hmarker : marker ≠ [] := by decide
  have hseparator : blank ∉ marker := by decide
  unfold renderAsl at hasl
  split at hasl
  · cases hasl
  next hcount =>
    split at hasl
    · cases hasl
    next hpackage =>
      cases hasl
      obtain ⟨before, after, htemplate⟩ := not_not.1 hpackage
      obtain ⟨front, rest, hfirst, hfree, hreplace⟩ :=
        firstAt_of_count_eq_one hmarker (not_not.1 hcount)
      have hfound : template =
          (before ++ packageHead) ++ blank :: (marker ++ (blank :: closing :: after)) := by
        rw [← htemplate, packageOpen_eq, packageClose_eq]
        simp only [List.append_assoc, List.cons_append, List.nil_append]
      obtain ⟨rfl, rfl⟩ := hfirst.eq_of_separated hseparator hmarker hfree hfound
      have honly := fun {head tail} (h : template = head ++ marker ++ tail) ↦
        hfirst.unique hseparator (fun h ↦ hfree (List.infix_cons h)) h
      have hclose : packageClose ++ after = blank :: closing :: after := by rw [packageClose_eq]; rfl
      rw [hreplace]
      refine ⟨?_, before, after, ?_, fun head tail h ↦ ?_, ?_⟩
      · -- the blanks around the numerals keep a marker from reaching into them
        rw [List.append_assoc, List.append_assoc, List.singleton_append]
        intro hinfix
        rcases infix_of_separated hseparator hinfix with hbefore | hbehind
        · obtain ⟨head, tail, hsplit⟩ := hbefore
          have hother : template =
              head ++ marker ++ (tail ++ blank :: (marker ++ (blank :: closing :: after))) := by
            rw [hfound, ← hsplit]
            simp only [List.append_assoc]
          have hlength := congrArg List.length hsplit
          rw [(honly hother).1] at hlength
          simp only [List.length_append, List.length_singleton] at hlength
          omega
        · rcases infix_of_separated hseparator hbehind with hprinted | hafter
          · have hat : 0x40 ∉ printOctets mac :=
              not_mem_printOctets (by decide) (by decide) (by decide) (by decide) mac
            exact hat (hprinted.subset (by decide))
          · exact hfree (List.infix_cons hafter)
      · rw [← htemplate]
        simp only [List.append_assoc]
      · rw [hclose, packageOpen_eq, ← List.append_assoc]
        exact honly h
      · rw [packageOpen_eq, List.append_assoc _ packageClose, hclose]
        simp only [List.append_assoc]

/-- The place of the package is determined by the template. -/
theorem RenderedAt.before_eq {template asl otherAsl before after otherBefore otherAfter : Text}
    {mac otherMac : Bytes} (h : RenderedAt template mac asl before after)
    (hother : RenderedAt template otherMac otherAsl otherBefore otherAfter) : otherBefore = before := by
  have hsplit : template =
      (otherBefore ++ packageOpen) ++ marker ++ (packageClose ++ otherAfter) := by
    rw [hother.source]
    simp only [List.append_assoc]
  exact List.append_cancel_right (h.only _ _ hsplit).1

theorem RenderedAt.readPackage_drop {template asl before after : Text} {mac : Bytes} (hmac : mac ≠ [])
    (h : RenderedAt template mac asl before after) :
    readPackage (asl.drop before.length) = some (mac.map UInt8.toNat) := by
  have hdrop : asl.drop before.length = packageOpen ++ printOctets mac ++ packageClose ++ after := by
    rw [h.output]
    simp only [List.append_assoc, List.drop_left]
  rw [hdrop, readPackage_printOctets hmac]

theorem FactoryAddress.ne_nil {mac : Bytes} (h : FactoryAddress mac) : mac ≠ [] := by
  rintro rfl
  exact absurd h.length (by decide)

/-- **From the image to the ACPI source.** The marker is gone, the rest of the template is as it was,
and the integers of the package are the octets of the factory address in the first provisioning file.
Other addresses give other sources. -/
theorem renderAsl_wlanMac (image mac : Bytes) (template asl : Text) (hmac : wlanMac image = .ok mac)
    (hasl : renderAsl template mac = .ok asl) :
    ¬marker <:+: asl ∧
    (∃ before after, RenderedAt template mac asl before after ∧
      readPackage (asl.drop before.length) = some (mac.map UInt8.toNat)) ∧
    (HeaderFits image ∧ ∃ index, FirstMatch image wlanFile index ∧
      (entryData image index).length = 27 ∧ mac = (entryData image index).slice 3 9) ∧
    FactoryAddress mac ∧
    (∀ other otherMac otherAsl, wlanMac other = .ok otherMac →
      renderAsl template otherMac = .ok otherAsl → otherMac ≠ mac → otherAsl ≠ asl) := by
  obtain ⟨hfits, index, hmatch, hlength, hslice, haddress⟩ := wlanMac_ok hmac
  obtain ⟨hfree, before, after, hrendered⟩ := renderAsl_ok hasl
  have hread := hrendered.readPackage_drop haddress.ne_nil
  refine ⟨hfree, ⟨before, after, hrendered, hread⟩, ⟨hfits, index, hmatch, hlength, hslice⟩, haddress, ?_⟩
  intro other otherMac otherAsl hother hotherAsl hne heq
  obtain ⟨-, -, -, -, -, hotherAddress⟩ := wlanMac_ok hother
  obtain ⟨-, otherBefore, otherAfter, hotherRendered⟩ := renderAsl_ok hotherAsl
  have hotherRead := hotherRendered.readPackage_drop hotherAddress.ne_nil
  rw [heq, hrendered.before_eq hotherRendered, hread, Option.some.injEq] at hotherRead
  exact hne (List.map_injective_iff.2 (fun _ _ ↦ UInt8.toNat_inj.1) hotherRead).symm

/-- A provisioning file with the header and an address. -/
def provision : Bytes :=
  [1, 7, 1, 0x40, 0x45, 0xda, 0x0a, 0xbc, 0xff] ++ List.replicate 18 0

/-- An image with that file. -/
def addressed : Bytes :=
  provisioned.slice 0 0x124 ++ Bytes.ofWord 4 27 ++ Bytes.ofWord 4 27 ++ provisioned.slice 0x12C 0x154 ++
    provision

/-- The address of the image in a template of one line. -/
theorem renderAsl_wlanMac_addressed :
    wlanMac addressed = .ok [0x40, 0x45, 0xda, 0x0a, 0xbc, 0xff] ∧
      FactoryAddress [0x40, 0x45, 0xda, 0x0a, 0xbc, 0xff] ∧
      ¬marker <:+: ofString "Package () \x7b 0x40, 0x45, 0xDA, 0x0A, 0xBC, 0xFF \x7d" := by
  have hmac : wlanMac addressed = .ok [0x40, 0x45, 0xda, 0x0a, 0xbc, 0xff] := by decide +kernel
  have hasl : renderAsl (packageOpen ++ marker ++ packageClose) [0x40, 0x45, 0xda, 0x0a, 0xbc, 0xff] =
      .ok (ofString "Package () \x7b 0x40, 0x45, 0xDA, 0x0A, 0xBC, 0xFF \x7d") := by decide +kernel
  obtain ⟨hfree, -, -, haddress, -⟩ := renderAsl_wlanMac _ _ _ _ hmac hasl
  exact ⟨hmac, haddress, hfree⟩

end TclB220G.Dpp
