import CatalogSearch.Text.Composition
import CatalogSearch.Text.Direction
import CatalogSearch.Text.Joining
import CatalogSearch.Url.Domain.Fold
import CatalogSearch.Url.Percent
import CatalogSearch.Url.Punycode

/-!
# Domain names

A domain name is compared in one form: every character in its common form, letters joined with
their marks, and every label in ASCII. Characters that delimit the parts of a URL may not stand in
it.

The labels stand between points. A label beyond ASCII is written in Punycode behind the mark
`xn--`; one that is already marked must be the written form of such a label. Every label beyond
ASCII starts with a character that is no mark of another, and its joiners stand where the script
needs them. Where a part of the name runs from right to left, each label keeps to one direction.
-/

namespace CatalogSearch.Domain

open Text

/-! ## Labels -/

/-- The mark of a label in Punycode. -/
def mark : List Char := "xn--".toList

/-- The greatest number of characters of a label that is put into Punycode. -/
def maxLabel : Nat := 1000

/-- The greatest number of characters of a label in Punycode, without its mark. -/
def maxWritten : Nat := 2000

/-- Whether a joiner may stand between two parts of a label, the first given from its end. Both
kinds may stand after a virama, and a non-joiner between letters that would join. -/
def connects (before : List Char) (c : Char) (after : List Char) : Bool :=
  before.head?.any isVirama || (c = nonJoiner && joinsNext before && joinsPrevious after)

/-- Whether every joiner of a label may stand there. The part before is given from its end. -/
def joinersConnect (before : List Char) : List Char → Bool
  | [] => true
  | c :: after =>
    (!(c = joiner || c = nonJoiner) || connects before c after) &&
      joinersConnect (c :: before) after

/-- Whether a text beyond ASCII may be a label. -/
def isLabel (text : List Char) : Bool :=
  !(text.head?.any isMark) && joinersConnect [] text

/-- The directions that a label from left to right may hold. -/
def leftToRightDirections : List Direction :=
  [.leftToRight, .europeanNumber, .europeanSeparator, .commonSeparator, .europeanTerminator,
    .otherNeutral, .boundaryNeutral, .nonspacingMark]

/-- The directions that a label from right to left may hold. -/
def rightToLeftDirections : List Direction :=
  [.rightToLeft, .arabicLetter, .arabicNumber, .europeanNumber, .europeanSeparator,
    .commonSeparator, .europeanTerminator, .otherNeutral, .boundaryNeutral, .nonspacingMark]

/-- Whether a label keeps to the direction of its first character, which must be a letter, and ends
in a letter of that direction or a number. Marks at the end do not count. From right to left all
numbers are of one kind. -/
def keepsDirection (text : List Char) : Bool :=
  match text.map direction with
  | [] => true
  | first :: rest =>
    let body := (rest.reverse.dropWhile (· = .nonspacingMark)).reverse
    let last := body.getLast?.getD first
    match first with
    | .leftToRight =>
      [Direction.leftToRight, .europeanNumber].contains last &&
        body.all leftToRightDirections.contains
    | .rightToLeft | .arabicLetter =>
      [Direction.rightToLeft, .arabicLetter, .europeanNumber, .arabicNumber].contains last &&
        body.all rightToLeftDirections.contains &&
        !(body.contains .europeanNumber && body.contains .arabicNumber)
    | _ => false

/-- A label as it is shown and as it is written in ASCII. -/
structure Label where
  shown : List Char
  ascii : List Char

/-- The label that a text behind the mark describes. Its form is the one that a label in common
form has. -/
def readWritten? (text : List Char) : Option (List Char) :=
  if text.isEmpty || text.getLast? = some '-' || maxWritten < text.length then none
  else
    match Punycode.decode? text with
    | none => none
    | some shown =>
      if shown.all isFolded && composed shown = shown && !(mark.isPrefixOf shown) &&
          isLabel shown then some shown
      else none

/-- Read a label in common form. -/
def readLabel? (text : List Char) : Option Label :=
  let isAscii := text.all fun c => c.toNat < 0x80
  if mark.isPrefixOf text then
    if isAscii then (readWritten? (text.drop mark.length)).map fun shown => ⟨shown, text⟩
    else none
  else if isAscii then some ⟨text, text⟩
  else if isLabel text && text.length ≤ maxLabel then
    some ⟨text, mark ++ Punycode.encode text⟩
  else none

/-! ## Names -/

/-- The characters that may not stand in the host of any URL. -/
def isForbiddenHost (c : Char) : Bool :=
  c.toNat = 0 || c = '\t' || c = '\n' || c = '\r' || " #/:<>?@[\\]^|".toList.contains c

/-- The characters that may not stand in a domain name. -/
def isForbidden (c : Char) : Bool :=
  isForbiddenHost c || c.toNat < 0x20 || c = '%' || c.toNat = 0x7f

/-- The labels of a domain name. -/
def readLabels? (name : List Char) : Option (List Label) := do
  let folded ← name.mapM fold?
  ((Text.composed folded.flatten).splitOnP (· = '.')).mapM readLabel?

/-- Whether the labels of a domain name keep to one direction each, if any of them has a part from
right to left. -/
def keepDirection (labels : List Label) : Bool :=
  !(labels.any fun label => label.shown.any Text.runsRightToLeft) ||
    labels.all fun label => keepsDirection label.shown

/-- A domain name in ASCII. -/
def toAscii? (name : List Char) : Option (List Char) :=
  match readLabels? name with
  | none => none
  | some labels =>
    let ascii := ['.'].intercalate (labels.map Label.ascii)
    if keepDirection labels && !(ascii.any isForbidden) then some ascii else none

end CatalogSearch.Domain
