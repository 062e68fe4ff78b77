import Mathlib.Data.Nat.Digits.Defs
import TclB220G.Lib.Bytes

/-!
# Text as sequences of code points

Strings of a language whose strings are sequences of code points (lone surrogates included) are
lists of numbers.  The module gives strict UTF-16LE decoding, UTF-8 encoding, printing in base
sixteen and full case folding by the table of Unicode 16.0, the version of Python 3.14.  The fold
table lists simple foldings as arithmetic runs `(first, last, step, shift)`; the foldings that expand
to several code points are listed one by one, but for some rows of Greek letters.
-/

namespace TclB220G.Lib

/-- A sequence of code points. -/
abbrev Text := List ℕ

namespace Text

/-- The code points of a literal. -/
def ofString (literal : String) : Text := literal.toList.map Char.toNat

/-! ## UTF-16 -/

/-- Little-endian pairing of octets into code units; an odd octet at the end is an error. -/
def utf16Units : Bytes → Option (List ℕ)
  | [] => some []
  | [_] => none
  | low :: high :: rest => (utf16Units rest).map fun units ↦ (low.toNat + 256 * high.toNat) :: units

/-- Code units to code points.  A high surrogate needs a low one right after it, and a low
surrogate stands nowhere else. -/
def decodeUnits : List ℕ → Option Text
  | [] => some []
  | [unit] => if unit < 0xD800 ∨ 0xDFFF < unit then some [unit] else none
  | unit :: next :: rest =>
    if unit < 0xD800 ∨ 0xDFFF < unit then (decodeUnits (next :: rest)).map (unit :: ·)
    else if unit < 0xDC00 ∧ 0xDC00 ≤ next ∧ next ≤ 0xDFFF then
      (decodeUnits rest).map fun text ↦
        (0x10000 + (unit - 0xD800) * 0x400 + (next - 0xDC00)) :: text
    else none

/-- Strict UTF-16LE; `none` is a decoding error. -/
def decodeUtf16le (raw : Bytes) : Option Text := (utf16Units raw).bind decodeUnits

/-! ## UTF-8 -/

/-- The octets of one code point. -/
def utf8Octets (point : ℕ) : List ℕ :=
  if point < 0x80 then [point]
  else if point < 0x800 then [0xC0 + point / 0x40, 0x80 + point % 0x40]
  else if point < 0x10000 then
    [0xE0 + point / 0x1000, 0x80 + point / 0x40 % 0x40, 0x80 + point % 0x40]
  else [0xF0 + point / 0x40000, 0x80 + point / 0x1000 % 0x40, 0x80 + point / 0x40 % 0x40,
    0x80 + point % 0x40]

def encodeUtf8 (text : Text) : Bytes := (text.flatMap utf8Octets).map UInt8.ofNat

/-! ## Base sixteen -/

/-- Code point of a lower-case digit. -/
def hexDigit (digit : ℕ) : ℕ := if digit < 10 then 0x30 + digit else 0x57 + digit

/-- The value of a digit of either case. -/
def digitValue (point : ℕ) : Option ℕ :=
  if 0x30 ≤ point ∧ point ≤ 0x39 then some (point - 0x30)
  else if 0x41 ≤ point ∧ point ≤ 0x46 then some (point - 0x37)
  else if 0x61 ≤ point ∧ point ≤ 0x66 then some (point - 0x57)
  else none

/-- Shortest lower-case numeral, with one digit for zero. -/
def hexNumeral (value : ℕ) : Text :=
  if value = 0 then [0x30] else ((Nat.digits 16 value).map hexDigit).reverse

/-! ## Case folding -/

/-- Simple foldings as runs of code points. -/
def foldRuns : List (ℕ × ℕ × ℕ × ℤ) :=
  [(0x41, 0x5a, 1, 32), (0xb5, 0xb5, 1, 775), (0xc0, 0xd6, 1, 32), (0xd8, 0xde, 1, 32),
   (0x100, 0x12e, 2, 1), (0x132, 0x136, 2, 1), (0x139, 0x147, 2, 1), (0x14a, 0x176, 2, 1),
   (0x178, 0x178, 1, -121), (0x179, 0x17d, 2, 1), (0x17f, 0x17f, 1, -268),
   (0x181, 0x181, 1, 210), (0x182, 0x184, 2, 1), (0x186, 0x186, 1, 206), (0x187, 0x187, 1, 1),
   (0x189, 0x18a, 1, 205), (0x18b, 0x18b, 1, 1), (0x18e, 0x18e, 1, 79), (0x18f, 0x18f, 1, 202),
   (0x190, 0x190, 1, 203), (0x191, 0x191, 1, 1), (0x193, 0x193, 1, 205), (0x194, 0x194, 1, 207),
   (0x196, 0x196, 1, 211), (0x197, 0x197, 1, 209), (0x198, 0x198, 1, 1), (0x19c, 0x19c, 1, 211),
   (0x19d, 0x19d, 1, 213), (0x19f, 0x19f, 1, 214), (0x1a0, 0x1a4, 2, 1), (0x1a6, 0x1a6, 1, 218),
   (0x1a7, 0x1a7, 1, 1), (0x1a9, 0x1a9, 1, 218), (0x1ac, 0x1ac, 1, 1), (0x1ae, 0x1ae, 1, 218),
   (0x1af, 0x1af, 1, 1), (0x1b1, 0x1b2, 1, 217), (0x1b3, 0x1b5, 2, 1), (0x1b7, 0x1b7, 1, 219),
   (0x1b8, 0x1b8, 1, 1), (0x1bc, 0x1bc, 1, 1), (0x1c4, 0x1c4, 1, 2), (0x1c5, 0x1c5, 1, 1),
   (0x1c7, 0x1c7, 1, 2), (0x1c8, 0x1c8, 1, 1), (0x1ca, 0x1ca, 1, 2), (0x1cb, 0x1db, 2, 1),
   (0x1de, 0x1ee, 2, 1), (0x1f1, 0x1f1, 1, 2), (0x1f2, 0x1f4, 2, 1), (0x1f6, 0x1f6, 1, -97),
   (0x1f7, 0x1f7, 1, -56), (0x1f8, 0x21e, 2, 1), (0x220, 0x220, 1, -130), (0x222, 0x232, 2, 1),
   (0x23a, 0x23a, 1, 10795), (0x23b, 0x23b, 1, 1), (0x23d, 0x23d, 1, -163),
   (0x23e, 0x23e, 1, 10792), (0x241, 0x241, 1, 1), (0x243, 0x243, 1, -195),
   (0x244, 0x244, 1, 69), (0x245, 0x245, 1, 71), (0x246, 0x24e, 2, 1), (0x345, 0x345, 1, 116),
   (0x370, 0x372, 2, 1), (0x376, 0x376, 1, 1), (0x37f, 0x37f, 1, 116), (0x386, 0x386, 1, 38),
   (0x388, 0x38a, 1, 37), (0x38c, 0x38c, 1, 64), (0x38e, 0x38f, 1, 63), (0x391, 0x3a1, 1, 32),
   (0x3a3, 0x3ab, 1, 32), (0x3c2, 0x3c2, 1, 1), (0x3cf, 0x3cf, 1, 8), (0x3d0, 0x3d0, 1, -30),
   (0x3d1, 0x3d1, 1, -25), (0x3d5, 0x3d5, 1, -15), (0x3d6, 0x3d6, 1, -22), (0x3d8, 0x3ee, 2, 1),
   (0x3f0, 0x3f0, 1, -54), (0x3f1, 0x3f1, 1, -48), (0x3f4, 0x3f4, 1, -60),
   (0x3f5, 0x3f5, 1, -64), (0x3f7, 0x3f7, 1, 1), (0x3f9, 0x3f9, 1, -7), (0x3fa, 0x3fa, 1, 1),
   (0x3fd, 0x3ff, 1, -130), (0x400, 0x40f, 1, 80), (0x410, 0x42f, 1, 32), (0x460, 0x480, 2, 1),
   (0x48a, 0x4be, 2, 1), (0x4c0, 0x4c0, 1, 15), (0x4c1, 0x4cd, 2, 1), (0x4d0, 0x52e, 2, 1),
   (0x531, 0x556, 1, 48), (0x10a0, 0x10c5, 1, 7264), (0x10c7, 0x10c7, 1, 7264),
   (0x10cd, 0x10cd, 1, 7264), (0x13f8, 0x13fd, 1, -8), (0x1c80, 0x1c80, 1, -6222),
   (0x1c81, 0x1c81, 1, -6221), (0x1c82, 0x1c82, 1, -6212), (0x1c83, 0x1c84, 1, -6210),
   (0x1c85, 0x1c85, 1, -6211), (0x1c86, 0x1c86, 1, -6204), (0x1c87, 0x1c87, 1, -6180),
   (0x1c88, 0x1c88, 1, 35267), (0x1c89, 0x1c89, 1, 1), (0x1c90, 0x1cba, 1, -3008), (0x1cbd, 0x1cbf, 1, -3008),
   (0x1e00, 0x1e94, 2, 1), (0x1e9b, 0x1e9b, 1, -58), (0x1ea0, 0x1efe, 2, 1),
   (0x1f08, 0x1f0f, 1, -8), (0x1f18, 0x1f1d, 1, -8), (0x1f28, 0x1f2f, 1, -8),
   (0x1f38, 0x1f3f, 1, -8), (0x1f48, 0x1f4d, 1, -8), (0x1f59, 0x1f5f, 2, -8),
   (0x1f68, 0x1f6f, 1, -8), (0x1fb8, 0x1fb9, 1, -8), (0x1fba, 0x1fbb, 1, -74),
   (0x1fbe, 0x1fbe, 1, -7173), (0x1fc8, 0x1fcb, 1, -86), (0x1fd8, 0x1fd9, 1, -8),
   (0x1fda, 0x1fdb, 1, -100), (0x1fe8, 0x1fe9, 1, -8), (0x1fea, 0x1feb, 1, -112),
   (0x1fec, 0x1fec, 1, -7), (0x1ff8, 0x1ff9, 1, -128), (0x1ffa, 0x1ffb, 1, -126),
   (0x2126, 0x2126, 1, -7517), (0x212a, 0x212a, 1, -8383), (0x212b, 0x212b, 1, -8262),
   (0x2132, 0x2132, 1, 28), (0x2160, 0x216f, 1, 16), (0x2183, 0x2183, 1, 1),
   (0x24b6, 0x24cf, 1, 26), (0x2c00, 0x2c2f, 1, 48), (0x2c60, 0x2c60, 1, 1),
   (0x2c62, 0x2c62, 1, -10743), (0x2c63, 0x2c63, 1, -3814), (0x2c64, 0x2c64, 1, -10727),
   (0x2c67, 0x2c6b, 2, 1), (0x2c6d, 0x2c6d, 1, -10780), (0x2c6e, 0x2c6e, 1, -10749),
   (0x2c6f, 0x2c6f, 1, -10783), (0x2c70, 0x2c70, 1, -10782), (0x2c72, 0x2c72, 1, 1),
   (0x2c75, 0x2c75, 1, 1), (0x2c7e, 0x2c7f, 1, -10815), (0x2c80, 0x2ce2, 2, 1),
   (0x2ceb, 0x2ced, 2, 1), (0x2cf2, 0x2cf2, 1, 1), (0xa640, 0xa66c, 2, 1),
   (0xa680, 0xa69a, 2, 1), (0xa722, 0xa72e, 2, 1), (0xa732, 0xa76e, 2, 1),
   (0xa779, 0xa77b, 2, 1), (0xa77d, 0xa77d, 1, -35332), (0xa77e, 0xa786, 2, 1),
   (0xa78b, 0xa78b, 1, 1), (0xa78d, 0xa78d, 1, -42280), (0xa790, 0xa792, 2, 1),
   (0xa796, 0xa7a8, 2, 1), (0xa7aa, 0xa7aa, 1, -42308), (0xa7ab, 0xa7ab, 1, -42319),
   (0xa7ac, 0xa7ac, 1, -42315), (0xa7ad, 0xa7ad, 1, -42305), (0xa7ae, 0xa7ae, 1, -42308),
   (0xa7b0, 0xa7b0, 1, -42258), (0xa7b1, 0xa7b1, 1, -42282), (0xa7b2, 0xa7b2, 1, -42261),
   (0xa7b3, 0xa7b3, 1, 928), (0xa7b4, 0xa7c2, 2, 1), (0xa7c4, 0xa7c4, 1, -48),
   (0xa7c5, 0xa7c5, 1, -42307), (0xa7c6, 0xa7c6, 1, -35384), (0xa7c7, 0xa7c9, 2, 1),
   (0xa7cb, 0xa7cb, 1, -42343), (0xa7cc, 0xa7cc, 1, 1), (0xa7d0, 0xa7d0, 1, 1),
   (0xa7d6, 0xa7da, 2, 1), (0xa7dc, 0xa7dc, 1, -42561), (0xa7f5, 0xa7f5, 1, 1),
   (0xab70, 0xabbf, 1, -38864), (0xff21, 0xff3a, 1, 32), (0x10400, 0x10427, 1, 40),
   (0x104b0, 0x104d3, 1, 40), (0x10570, 0x10594, 2, 39), (0x10571, 0x10579, 2, 39),
   (0x1057d, 0x10589, 2, 39), (0x1058d, 0x10591, 2, 39), (0x10595, 0x10595, 1, 39),
   (0x10c80, 0x10cb2, 1, 64), (0x10d50, 0x10d65, 1, 32), (0x118a0, 0x118bf, 1, 32), (0x16e40, 0x16e5f, 1, 32),
   (0x1e900, 0x1e921, 1, 34)]

/-- Greek letters with an iota below, in rows of eight: each expands to the letter and the iota. -/
def iotaExpansions : List (ℕ × Text) :=
  [(0x1f80, 0x1f00), (0x1f88, 0x1f00), (0x1f90, 0x1f20), (0x1f98, 0x1f20), (0x1fa0, 0x1f60),
    (0x1fa8, 0x1f60)].flatMap fun (first, letter) ↦
      (List.range 8).map fun place ↦ (first + place, [letter + place, 0x3b9])

/-- Foldings to more than one code point. -/
def foldExpansions : List (ℕ × Text) :=
  iotaExpansions ++
    [(0xdf, [0x73, 0x73]), (0x130, [0x69, 0x307]), (0x149, [0x2bc, 0x6e]), (0x1f0, [0x6a, 0x30c]),
     (0x390, [0x3b9, 0x308, 0x301]), (0x3b0, [0x3c5, 0x308, 0x301]), (0x587, [0x565, 0x582]),
     (0x1e96, [0x68, 0x331]), (0x1e97, [0x74, 0x308]), (0x1e98, [0x77, 0x30a]),
     (0x1e99, [0x79, 0x30a]), (0x1e9a, [0x61, 0x2be]), (0x1e9e, [0x73, 0x73]),
     (0x1f50, [0x3c5, 0x313]), (0x1f52, [0x3c5, 0x313, 0x300]), (0x1f54, [0x3c5, 0x313, 0x301]),
     (0x1f56, [0x3c5, 0x313, 0x342]), (0x1fb2, [0x1f70, 0x3b9]), (0x1fb3, [0x3b1, 0x3b9]),
     (0x1fb4, [0x3ac, 0x3b9]), (0x1fb6, [0x3b1, 0x342]), (0x1fb7, [0x3b1, 0x342, 0x3b9]),
     (0x1fbc, [0x3b1, 0x3b9]), (0x1fc2, [0x1f74, 0x3b9]), (0x1fc3, [0x3b7, 0x3b9]),
     (0x1fc4, [0x3ae, 0x3b9]), (0x1fc6, [0x3b7, 0x342]), (0x1fc7, [0x3b7, 0x342, 0x3b9]),
     (0x1fcc, [0x3b7, 0x3b9]), (0x1fd2, [0x3b9, 0x308, 0x300]), (0x1fd3, [0x3b9, 0x308, 0x301]),
     (0x1fd6, [0x3b9, 0x342]), (0x1fd7, [0x3b9, 0x308, 0x342]), (0x1fe2, [0x3c5, 0x308, 0x300]),
     (0x1fe3, [0x3c5, 0x308, 0x301]), (0x1fe4, [0x3c1, 0x313]), (0x1fe6, [0x3c5, 0x342]),
     (0x1fe7, [0x3c5, 0x308, 0x342]), (0x1ff2, [0x1f7c, 0x3b9]), (0x1ff3, [0x3c9, 0x3b9]),
     (0x1ff4, [0x3ce, 0x3b9]), (0x1ff6, [0x3c9, 0x342]), (0x1ff7, [0x3c9, 0x342, 0x3b9]),
     (0x1ffc, [0x3c9, 0x3b9]), (0xfb00, [0x66, 0x66]), (0xfb01, [0x66, 0x69]),
     (0xfb02, [0x66, 0x6c]), (0xfb03, [0x66, 0x66, 0x69]), (0xfb04, [0x66, 0x66, 0x6c]),
     (0xfb05, [0x73, 0x74]), (0xfb06, [0x73, 0x74]), (0xfb13, [0x574, 0x576]),
     (0xfb14, [0x574, 0x565]), (0xfb15, [0x574, 0x56b]), (0xfb16, [0x57e, 0x576]),
     (0xfb17, [0x574, 0x56d])]

/-- Full folding of one code point. -/
def foldPoint (point : ℕ) : Text :=
  match foldExpansions.lookup point with
  | some expansion => expansion
  | none =>
    match foldRuns.find? fun (first, last, step, _) ↦
        decide (first ≤ point ∧ point ≤ last ∧ (point - first) % step = 0) with
    | some (_, _, _, shift) => [((point : ℤ) + shift).toNat]
    | none => [point]

/-- Full case folding, code point by code point. -/
def casefold (text : Text) : Text := text.flatMap foldPoint

example : casefold (ofString "Wlan.PROVISION") = ofString "wlan.provision" := by decide +kernel

end Text

end TclB220G.Lib
