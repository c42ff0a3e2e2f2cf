/-!
# Characters

What the readers of texts in this library share: hexadecimal digits, of either case, and the numbers
that they write; sets of code points, given by tables of ranges; and blanks. A table is a text of
rows between blanks, each row one or more hexadecimal numbers between hyphens. A set is a table
whose rows are single code points and ranges with both ends included.
-/

namespace CatalogSearch.Text

/-! ## Hexadecimal digits -/

/-- The lower-case digit of a number below sixteen. -/
def hexDigit (n : Nat) : Char := Nat.digitChar n

/-- The upper-case digit of a number below sixteen. -/
def upperHexDigit (n : Nat) : Char := (hexDigit n).toUpper

/-- The value of a hexadecimal digit, whose letters may be of either case. -/
def hexValue? (c : Char) : Option Nat :=
  if c.isDigit then some (c.toNat - '0'.toNat)
  else if 'a' ≤ c ∧ c ≤ 'f' then some (c.toNat - 'a'.toNat + 10)
  else if 'A' ≤ c ∧ c ≤ 'F' then some (c.toNat - 'A'.toNat + 10)
  else none

/-- The digit that is written for a number has that number as its value. -/
theorem hexValue?_upperHexDigit : ∀ n < 16, hexValue? (upperHexDigit n) = some n := by decide

/-- The number that hexadecimal digits write. Any other character counts as zero. -/
def hexNumber (digits : List Char) : Nat :=
  digits.foldl (fun sum c => sum * 16 + (hexValue? c).getD 0) 0

/-! ## Sets of code points -/

/-- The rows of a table. -/
def numberTable (text : String) : List (List Nat) :=
  let rows := text.toList.splitOnP fun c => c = ' ' || c = '\n'
  (rows.filter fun row => !row.isEmpty).map fun row => (row.splitOnP (· = '-')).map hexNumber

/-- A set of code points, as ranges with both ends included. -/
structure CodePointSet where
  ranges : List (Nat × Nat)

namespace CodePointSet

/-- The range of a row: a single code point, or its two ends. -/
def rangeOfRow? : List Nat → Option (Nat × Nat)
  | [only] => some (only, only)
  | [first, last] => some (first, last)
  | _ => none

/-- The set that a table describes. -/
def ofText (text : String) : CodePointSet := ⟨(numberTable text).filterMap rangeOfRow?⟩

/-- Whether a character is in a set. -/
def contains (set : CodePointSet) (c : Char) : Bool :=
  set.ranges.any fun range => range.1 ≤ c.toNat && c.toNat ≤ range.2

end CodePointSet

/-! ## Blanks -/

/-- Whether a character has the property White_Space. -/
def isBlank (c : Char) : Bool :=
  let n := c.toNat
  (0x09 ≤ n && n ≤ 0x0d) || n = 0x20 || n = 0x85 || n = 0xa0 || n = 0x1680 ||
    (0x2000 ≤ n && n ≤ 0x200a) || n = 0x2028 || n = 0x2029 || n = 0x202f || n = 0x205f ||
    n = 0x3000

/-- A text without the blanks at its ends. -/
def trim (text : String) : String :=
  String.ofList (((text.toList.dropWhile isBlank).reverse.dropWhile isBlank).reverse)

end CatalogSearch.Text
