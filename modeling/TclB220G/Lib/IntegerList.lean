import TclB220G.Lib.Unicode

/-!
# Lists of hexadecimal integers

A list of integers is written with commas between the numerals and any number of blanks around them.
The reader splits the text at the commas and reads the digits of either case.  What the printer of
octets writes, it reads back.
-/

namespace TclB220G.Lib.IntegerList

open Text

/-- The numeral `0x` with one digit or more. -/
def readInteger : Text → Option ℕ
  | 0x30 :: 0x78 :: first :: rest =>
    ((first :: rest).mapM digitValue).map fun digits ↦ digits.foldl (fun value digit ↦ 16 * value + digit) 0
  | _ => none

def blank : ℕ := 0x20

def trimStart (text : Text) : Text := text.dropWhile (· = blank)

/-- The text without the blanks at both ends. -/
def trim (text : Text) : Text := (trimStart (trimStart text).reverse).reverse

def comma : ℕ := 0x2C

def readIntegers (text : Text) : Option (List ℕ) := (text.splitOn comma).mapM fun part ↦ readInteger (trim part)

/-- Code point of an upper-case digit. -/
def upperDigit (digit : ℕ) : ℕ := if digit < 10 then 0x30 + digit else 0x37 + digit

/-- The numeral of an octet with two upper-case digits. -/
def octetNumeral (octet : UInt8) : Text :=
  [0x30, 0x78, upperDigit (octet.toNat / 16), upperDigit (octet.toNat % 16)]

/-- The numerals with a comma and a blank between them. -/
def printOctets (octets : List UInt8) : Text := [comma, blank].intercalate (octets.map octetNumeral)

/-! ## Reading back -/

theorem digitValue_upperDigit {digit : ℕ} (hdigit : digit < 16) :
    digitValue (upperDigit digit) = some digit := by
  rw [upperDigit]
  split_ifs with hten
  · rw [digitValue, if_pos (by omega), Nat.add_sub_cancel_left]
  · rw [digitValue, if_neg (by omega), if_pos (by omega), Nat.add_sub_cancel_left]

theorem readInteger_octetNumeral (octet : UInt8) : readInteger (octetNumeral octet) = some octet.toNat := by
  have hlt : octet.toNat < 256 := octet.toNat_lt
  have hhigh : octet.toNat / 16 < 16 := by omega
  have hlow : octet.toNat % 16 < 16 := by omega
  simp only [readInteger, octetNumeral, List.mapM_cons, List.mapM_nil, digitValue_upperDigit hhigh,
    digitValue_upperDigit hlow, Option.pure_def, Option.bind_eq_bind, Option.bind_some,
    Option.map_some, List.foldl_cons, List.foldl_nil, Option.some.injEq]
  omega

/-- A numeral has no other points than its digits and the letter of its base. -/
theorem mem_octetNumeral {octet : UInt8} {point : ℕ} (h : point ∈ octetNumeral octet) :
    point = 0x78 ∨ digitValue point ≠ none := by
  have hlt : octet.toNat < 256 := octet.toNat_lt
  have hhigh : octet.toNat / 16 < 16 := by omega
  have hlow : octet.toNat % 16 < 16 := by omega
  simp only [octetNumeral, List.mem_cons, List.not_mem_nil, or_false] at h
  rcases h with rfl | rfl | rfl | rfl
  · exact .inr (by decide)
  · exact .inl rfl
  · exact .inr (by simp [digitValue_upperDigit hhigh])
  · exact .inr (by simp [digitValue_upperDigit hlow])

theorem not_mem_octetNumeral (octet : UInt8) {point : ℕ} (hbase : point ≠ 0x78)
    (hdigit : digitValue point = none) : point ∉ octetNumeral octet :=
  fun h ↦ (mem_octetNumeral h).elim hbase fun hvalue ↦ hvalue hdigit

theorem printOctets_cons_cons (octet next : UInt8) (octets : List UInt8) :
    printOctets (octet :: next :: octets) =
      octetNumeral octet ++ comma :: blank :: printOctets (next :: octets) := by
  rw [printOctets, List.map_cons, List.map_cons, List.intercalate_cons_cons, List.append_assoc]
  rfl

theorem not_mem_printOctets {point : ℕ} (hcomma : point ≠ comma) (hblank : point ≠ blank)
    (hbase : point ≠ 0x78) (hdigit : digitValue point = none) (octets : List UInt8) :
    point ∉ printOctets octets := by
  induction octets with
  | nil => exact List.not_mem_nil
  | cons octet octets ih =>
    have hoctet := not_mem_octetNumeral octet hbase hdigit
    cases octets with
    | nil => simpa [printOctets] using hoctet
    | cons next octets =>
      rw [printOctets_cons_cons]
      simp only [List.mem_append, List.mem_cons, not_or]
      exact ⟨hoctet, hcomma, hblank, ih⟩

section

variable {left right : Text} (hleft : ∀ point ∈ left, point = blank)
include hleft

theorem trimStart_append {word : Text} (hword : word ≠ []) (hblank : blank ∉ word) (rest : Text) :
    trimStart (left ++ (word ++ rest)) = word ++ rest := by
  obtain ⟨first, word, rfl⟩ := List.exists_cons_of_ne_nil hword
  have hfirst : first ≠ blank := fun h ↦ hblank (h ▸ List.mem_cons_self)
  rw [trimStart, List.dropWhile_append_of_pos (by simpa using hleft), List.cons_append,
    List.dropWhile_cons_of_neg (by simpa using hfirst)]

variable (hright : ∀ point ∈ right, point = blank)
include hright

theorem trim_append {word : Text} (hword : word ≠ []) (hblank : blank ∉ word) :
    trim (left ++ (word ++ right)) = word := by
  have hreverse : ∀ point ∈ right.reverse, point = blank := by simpa using hright
  have hstart : trimStart (right.reverse ++ (word.reverse ++ [])) = word.reverse ++ [] :=
    trimStart_append hreverse (by simpa using hword) (by simpa using hblank) []
  rw [trim, trimStart_append hleft hword hblank, List.reverse_append]
  rw [List.append_nil] at hstart
  rw [hstart, List.reverse_reverse]

theorem readInteger_trim (octet : UInt8) :
    readInteger (trim (left ++ (octetNumeral octet ++ right))) = some octet.toNat := by
  have hnumeral : octetNumeral octet ≠ [] := List.cons_ne_nil _ _
  have hblank : blank ∉ octetNumeral octet := not_mem_octetNumeral octet (by decide) (by decide)
  rw [trim_append hleft hright hnumeral hblank, readInteger_octetNumeral]

/-- The printed octets are read back, with any number of blanks around them. -/
theorem readIntegers_printOctets {octets : List UInt8} (hoctets : octets ≠ []) :
    readIntegers (left ++ (printOctets octets ++ right)) = some (octets.map UInt8.toNat) := by
  have hcomma : ∀ {text : Text}, (∀ point ∈ text, point = blank) → comma ∉ text :=
    fun htext h ↦ absurd (htext comma h) (by decide)
  induction octets generalizing left with
  | nil => exact absurd rfl hoctets
  | cons octet octets ih =>
    have hnumeral : comma ∉ octetNumeral octet := not_mem_octetNumeral octet (by decide) (by decide)
    cases octets with
    | nil =>
      have hfree : comma ∉ left ++ (octetNumeral octet ++ right) := by
        simp only [List.mem_append, not_or]
        exact ⟨hcomma hleft, hnumeral, hcomma hright⟩
      have hprint : printOctets [octet] = octetNumeral octet := by simp [printOctets]
      rw [hprint, readIntegers, List.splitOn_eq_singleton hfree, List.mapM_cons,
        readInteger_trim hleft hright]
      rfl
    | cons next octets =>
      have hhead : ∀ point ∈ left ++ octetNumeral octet, (point == comma) = false := by
        intro point hpoint
        rw [beq_eq_false_iff_ne]
        rintro rfl
        exact (List.mem_append.1 hpoint).elim (hcomma hleft) hnumeral
      have hrest : readIntegers ([blank] ++ (printOctets (next :: octets) ++ right)) =
          some ((next :: octets).map UInt8.toNat) := ih (by simp) (List.cons_ne_nil _ _)
      have hsplit : left ++ (printOctets (octet :: next :: octets) ++ right) =
          (left ++ octetNumeral octet) ++
            comma :: ([blank] ++ (printOctets (next :: octets) ++ right)) := by
        rw [printOctets_cons_cons]
        simp only [List.append_assoc, List.cons_append, List.nil_append]
      have hinteger : readInteger (trim (left ++ (octetNumeral octet ++ []))) = some octet.toNat :=
        readInteger_trim hleft (by simp) octet
      rw [List.append_nil] at hinteger
      rw [hsplit, readIntegers, List.splitOn,
        List.splitOnP_append_cons_of_forall_mem hhead comma (by simp), List.mapM_cons, hinteger]
      rw [readIntegers, List.splitOn] at hrest
      rw [hrest]
      rfl

end

end TclB220G.Lib.IntegerList
