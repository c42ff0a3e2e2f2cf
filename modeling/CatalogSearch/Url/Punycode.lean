/-!
# Punycode

An internationalised label of a domain name is written in ASCII: its ASCII characters, a hyphen,
and a description of where the others stand. Those are listed by increasing code point, each as
the number of steps that a position counter takes from the one before, in a positional system
whose digits have weights that adapt to the numbers seen.
-/

namespace CatalogSearch.Punycode

/-- The number of digits. -/
def base : Nat := 36

/-- The bias before any number is seen. -/
def initialBias : Nat := 72

/-- The least code point that is described. -/
def initialCode : Nat := 128

/-- The character of a digit. -/
def digitChar (digit : Nat) : Char :=
  if digit < 26 then Char.ofNat ('a'.toNat + digit) else Char.ofNat ('0'.toNat + digit - 26)

/-- The value of a digit. -/
def digitValue? (c : Char) : Option Nat :=
  if c.isDigit then some (c.toNat - '0'.toNat + 26)
  else if c.isLower then some (c.toNat - 'a'.toNat)
  else if c.isUpper then some (c.toNat - 'A'.toNat)
  else none

/-- The threshold of a digit position, which the weight of the next position depends on. -/
def threshold (position bias : Nat) : Nat := min 26 (max 1 (position - bias))

/-- A threshold is positive. -/
theorem threshold_pos (position bias : Nat) : 0 < threshold position bias := by
  unfold threshold
  omega

/-- Reduce a number until it fits a few digits, counting positions. -/
def adaptFrom (delta position : Nat) : Nat :=
  if 455 < delta then adaptFrom (delta / 35) (position + base)
  else position + base * delta / (delta + 38)
termination_by delta
decreasing_by omega

/-- The bias after a number was seen. -/
def adapt (delta points : Nat) (first : Bool) : Nat :=
  let halved := if first then delta / 700 else delta / 2
  adaptFrom (halved + halved / points) 0

/-- The digits of a number. -/
def encodeNumber (bias number position : Nat) : List Char :=
  let t := threshold position bias
  if number < t then [digitChar number]
  else
    digitChar (t + (number - t) % (base - t)) ::
      encodeNumber bias ((number - t) / (base - t)) (position + base)
termination_by number
decreasing_by
  have hpos := threshold_pos position bias
  have hle : (number - threshold position bias) / (base - threshold position bias) ≤
      number - threshold position bias := Nat.div_le_self _ _
  omega

/-- The state of encoding: the steps since the last described character, the bias, the number of
characters written, and the digits so far. -/
structure Encoder where
  delta : Nat
  bias : Nat
  written : Nat
  digits : List Char

/-- Pass one character of the label while describing those with a given code point. -/
def Encoder.pass (basic code : Nat) (state : Encoder) (c : Char) : Encoder :=
  if c.toNat < code then { state with delta := state.delta + 1 }
  else if c.toNat = code then
    { delta := 0
      bias := adapt state.delta (state.written + 1) (state.written = basic)
      written := state.written + 1
      digits := state.digits ++ encodeNumber state.bias state.delta base }
  else state

/-- Describe the characters with the given code points, in increasing order. The counter has
passed the label for every code point below `code`. -/
def describe (label : List Char) (basic : Nat) : List Nat → Nat → Encoder → Encoder
  | [], _, state => state
  | next :: rest, code, state =>
    let start := { state with delta := state.delta + (next - code) * (state.written + 1) }
    let passed := label.foldl (Encoder.pass basic next) start
    describe label basic rest (next + 1) { passed with delta := passed.delta + 1 }

/-- The code points beyond ASCII in a label, in increasing order, each once. -/
def extendedCodes (label : List Char) : List Nat :=
  ((label.map Char.toNat).filter (initialCode ≤ ·)).mergeSort.eraseDups

/-- A label in ASCII. -/
def encode (label : List Char) : List Char :=
  let basic := label.filter fun c => c.toNat < initialCode
  let described := describe label basic.length (extendedCodes label) initialCode
    { delta := 0, bias := initialBias, written := basic.length, digits := [] }
  (if basic.isEmpty then [] else basic ++ ['-']) ++ described.digits

/-- Read a number: its value, and the rest of the digits. -/
def decodeNumber? (bias : Nat) : List Char → (weight position sum : Nat) →
    Option (Nat × List Char)
  | [], _, _, _ => none
  | c :: rest, weight, position, sum => do
    let digit ← digitValue? c
    let sum := sum + digit * weight
    let t := threshold position bias
    if digit < t then pure (sum, rest)
    else decodeNumber? bias rest (weight * (base - t)) (position + base) sum

/-- Put the described characters into a label. The fuel bounds their number. -/
def insertAll? : Nat → List Char → (code index bias : Nat) → List Char → Option (List Char)
  | 0, [], _, _, _, label => some label
  | 0, _ :: _, _, _, _, _ => none
  | _ + 1, [], _, _, _, label => some label
  | fuel + 1, digits, code, index, bias, label => do
    let (delta, rest) ← decodeNumber? bias digits 1 base 0
    let size := label.length + 1
    let position := index + delta
    let code := code + position / size
    let place := position % size
    if code.isValidChar then
      insertAll? fuel rest code (place + 1) (adapt delta size (index = 0))
        (label.take place ++ Char.ofNat code :: label.drop place)
    else none

/-- The label that a text in ASCII describes. What stands behind the last hyphen are digits; a
hyphen with nothing before it ends no characters and is no digit. -/
def decode? (text : List Char) : Option (List Char) :=
  let fromEnd := text.reverse
  let digits := (fromEnd.takeWhile (· ≠ '-')).reverse
  let basic := ((fromEnd.dropWhile (· ≠ '-')).drop 1).reverse
  if basic.isEmpty && digits.length < text.length then none
  else insertAll? digits.length digits initialCode 0 initialBias basic

end CatalogSearch.Punycode
