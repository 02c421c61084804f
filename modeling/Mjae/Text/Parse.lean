import Mathlib.Data.List.DropRight
import Mjae.Arith.Word

/-!
# Trimming and decimal parsing

The two text operations the readers of host files use: cutting Unicode white
space off both ends, and parsing an unsigned decimal word.
-/

namespace Mjae.Text

open Mjae.Arith

/-- The characters with the Unicode property `White_Space`. -/
def isWhitespace (c : Char) : Bool :=
  (9 ≤ c.toNat && c.toNat ≤ 13) || c.toNat == 0x20 || c.toNat == 0x85 || c.toNat == 0xA0 ||
    c.toNat == 0x1680 || (0x2000 ≤ c.toNat && c.toNat ≤ 0x200A) || c.toNat == 0x2028 ||
    c.toNat == 0x2029 || c.toNat == 0x202F || c.toNat == 0x205F || c.toNat == 0x3000

def trim (text : String) : String :=
  String.ofList ((text.toList.dropWhile isWhitespace).rdropWhile isWhitespace)

/-- Trimmed text has nothing left to trim. -/
theorem trim_trim (text : String) : trim (trim text) = trim text := by
  have first_kept := List.head?_dropWhile_not isWhitespace text.toList
  rw [trim, trim, String.toList_ofList]
  generalize text.toList.dropWhile isWhitespace = rest at first_kept ⊢
  have kept : (rest.rdropWhile isWhitespace).dropWhile isWhitespace =
      rest.rdropWhile isWhitespace := by
    cases shown : rest.rdropWhile isWhitespace with
    | nil => rfl
    | cons c others =>
        rcases shown ▸ List.rdropWhile_prefix isWhitespace rest with ⟨cut, rest_eq⟩
        rw [← rest_eq] at first_kept
        exact List.dropWhile_cons_of_neg (by simpa using first_kept)
  rw [kept, List.rdropWhile_idempotent]

/-- Read decimal digits onto `total`, most significant first. -/
def parseDigits : Nat → List Char → Except String UInt64
  | total, [] => .ok (UInt64.ofNat total)
  | total, c :: rest =>
      if c.isDigit then
        let next := total * 10 + (c.toNat - 48)
        if next ≤ U64.maxNat then parseDigits next rest
        else .error "number too large to fit in target type"
      else .error "invalid digit found in string"

/-- Parse an unsigned decimal word, with an optional plus sign. -/
def parseU64 (text : String) : Except String UInt64 :=
  match text.toList with
  | [] => .error "cannot parse integer from empty string"
  | ['+'] => .error "invalid digit found in string"
  | '+' :: digits => parseDigits 0 digits
  | digits => parseDigits 0 digits

end Mjae.Text
