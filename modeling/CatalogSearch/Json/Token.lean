import CatalogSearch.Double.Text
import CatalogSearch.Text.Basic

/-!
# The tokens of JSON text

JSON text is a sequence of tokens with blanks between them. A string token keeps its text, or
nothing if an escape in it is half of a surrogate pair; a number token keeps the exponent and as
many digits as 64 bits hold. `nextToken?_shorter` says that reading a token consumes a character, which is
why reading all of them ends.
-/

namespace CatalogSearch.Json

/-- A number as read: `digits * 10 ^ exponent`, negated when `negative` holds, and whether it is an
integer, without fraction and exponent mark, of which no digit was left out. -/
structure Literal where
  negative : Bool
  digits : Nat
  exponent : Int
  integral : Bool
deriving DecidableEq

/-- A token of JSON text. -/
inductive Token where
  | openArray
  | closeArray
  | openObject
  | closeObject
  | comma
  | colon
  | null
  | bool (value : Bool)
  | number (literal : Literal)
  | string (text : Option String)
deriving DecidableEq

/-- The code unit written by four hexadecimal digits. -/
def codeUnit? (a b c d : Char) : Option Nat := do
  let a ← Text.hexValue? a
  let b ← Text.hexValue? b
  let c ← Text.hexValue? c
  let d ← Text.hexValue? d
  pure (((a * 16 + b) * 16 + c) * 16 + d)

/-- The character that a letter after a backslash stands for. -/
def unescape? (c : Char) : Option Nat :=
  if c = '"' ∨ c = '\\' ∨ c = '/' then some c.toNat
  else if c = 'b' then some 0x08
  else if c = 'f' then some 0x0c
  else if c = 'n' then some 0x0a
  else if c = 'r' then some 0x0d
  else if c = 't' then some 0x09
  else none

/-- Read the rest of a string, after its opening quote, as code points and surrogates. A control
character may not stand in a string. -/
def readCodes : List Char → Option (List Nat × List Char)
  | [] => none
  | '"' :: rest => some ([], rest)
  | '\\' :: 'u' :: a :: b :: c :: d :: rest => do
    let code ← codeUnit? a b c d
    let (codes, rest) ← readCodes rest
    pure (code :: codes, rest)
  | '\\' :: c :: rest => do
    let code ← unescape? c
    let (codes, rest) ← readCodes rest
    pure (code :: codes, rest)
  | c :: rest =>
    if c.toNat < 0x20 then none
    else do
      let (codes, rest) ← readCodes rest
      pure (c.toNat :: codes, rest)

/-- Whether a code is the first half of a surrogate pair. -/
def isLeading (code : Nat) : Bool := 0xd800 ≤ code && code < 0xdc00

/-- Whether a code is the second half of a surrogate pair. -/
def isTrailing (code : Nat) : Bool := 0xdc00 ≤ code && code < 0xe000

/-- Join surrogate pairs; none if half a pair stands alone. -/
def joinPairs? : List Nat → Option (List Char)
  | [] => some []
  | [code] => if isLeading code || isTrailing code then none else some [Char.ofNat code]
  | first :: second :: rest =>
    if isTrailing first then none
    else if isLeading first then
      if isTrailing second then do
        let chars ← joinPairs? rest
        pure (Char.ofNat (0x10000 + (first - 0xd800) * 0x400 + (second - 0xdc00)) :: chars)
      else none
    else do
      let chars ← joinPairs? (second :: rest)
      pure (Char.ofNat first :: chars)

/-- Read the fraction of a number, if there is one: its digits, and whether it is there. -/
def readFraction? (text : List Char) : Option (List Char × Bool × List Char) :=
  match text with
  | '.' :: rest =>
    let digits := rest.takeWhile Char.isDigit
    if digits.isEmpty then none else some (digits, true, rest.dropWhile Char.isDigit)
  | rest => some ([], false, rest)

/-- Read the exponent of a number, if there is one. -/
def readExponent? (text : List Char) : Option (Int × Bool × List Char) :=
  match text with
  | mark :: rest =>
    if mark = 'e' ∨ mark = 'E' then
      let (negative, rest) := splitSign rest
      let digits := rest.takeWhile Char.isDigit
      if digits.isEmpty then none
      else
        let size : Int := natOfDigits digits
        some (if negative then -size else size, true, rest.dropWhile Char.isDigit)
    else some (0, false, mark :: rest)
  | [] => some (0, false, [])

/-- The digits of a number before its fraction: one zero, or any that start with another. -/
def wholeDigits : List Char → List Char
  | '0' :: _ => ['0']
  | digits => digits.takeWhile Char.isDigit

/-- Append decimal digits to a number while it stays below `2 ^ 64`: the number, and the digits from
the first one that does not fit. -/
def takeDigits (number : Nat) : List Char → Nat × List Char
  | [] => (number, [])
  | c :: rest =>
    let longer := 10 * number + (c.toNat - '0'.toNat)
    if longer < UInt64.size then takeDigits longer rest else (number, c :: rest)

/-- Read a number after its sign. A digit before the point that does not fit still raises the
exponent; one behind it counts for nothing. -/
def readNumber? (negative : Bool) (text : List Char) : Option (Literal × List Char) :=
  let whole := wholeDigits text
  if whole.isEmpty then none
  else do
    let (fraction, hasFraction, rest) ← readFraction? (text.drop whole.length)
    let (exponent, hasExponent, rest) ← readExponent? rest
    let (number, beyond) := takeDigits 0 whole
    let (digits, unused) := takeDigits number fraction
    pure
      ({ negative
         digits
         exponent := exponent + beyond.length - (fraction.length - unused.length)
         integral := !hasFraction && !hasExponent && beyond.isEmpty }, rest)

/-- Read one token from a text that does not start with a blank. -/
def nextToken? : List Char → Option (Token × List Char)
  | '[' :: rest => some (.openArray, rest)
  | ']' :: rest => some (.closeArray, rest)
  | '\x7b' :: rest => some (.openObject, rest)
  | '\x7d' :: rest => some (.closeObject, rest)
  | ',' :: rest => some (.comma, rest)
  | ':' :: rest => some (.colon, rest)
  | 'n' :: 'u' :: 'l' :: 'l' :: rest => some (.null, rest)
  | 't' :: 'r' :: 'u' :: 'e' :: rest => some (.bool true, rest)
  | 'f' :: 'a' :: 'l' :: 's' :: 'e' :: rest => some (.bool false, rest)
  | '"' :: rest =>
    (readCodes rest).map fun read => (.string ((joinPairs? read.1).map String.ofList), read.2)
  | '-' :: rest => (readNumber? true rest).map fun read => (.number read.1, read.2)
  | input => (readNumber? false input).map fun read => (.number read.1, read.2)

/-- Reading the rest of a string consumes a character. -/
theorem readCodes_shorter {text rest : List Char} {codes : List Nat}
    (h : readCodes text = some (codes, rest)) : rest.length < text.length := by
  fun_induction readCodes text generalizing codes rest with
  | case1 => cases h
  | case2 tail => cases h; simp
  | case3 a b c d tail ih =>
    simp only [Option.bind_eq_bind, Option.bind_eq_some_iff, Option.pure_def] at h
    obtain ⟨code, _, ⟨more, left⟩, hmore, heq⟩ := h
    cases heq
    have := ih hmore
    simp only [List.length_cons]
    omega
  | case4 c tail _ ih =>
    simp only [Option.bind_eq_bind, Option.bind_eq_some_iff, Option.pure_def] at h
    obtain ⟨code, _, ⟨more, left⟩, hmore, heq⟩ := h
    cases heq
    have := ih hmore
    simp only [List.length_cons]
    omega
  | case5 => cases h
  | case6 c tail _ _ _ _ ih =>
    simp only [Option.bind_eq_bind, Option.bind_eq_some_iff, Option.pure_def] at h
    obtain ⟨⟨more, left⟩, hmore, heq⟩ := h
    cases heq
    have := ih hmore
    simp only [List.length_cons]
    omega

/-- Dropping leading characters makes no text longer. -/
private theorem length_dropWhile_le (p : Char → Bool) (text : List Char) :
    (text.dropWhile p).length ≤ text.length :=
  (List.dropWhile_suffix p).length_le

/-- Reading a fraction makes no text longer. -/
theorem readFraction?_le {text rest digits : List Char} {found : Bool}
    (h : readFraction? text = some (digits, found, rest)) : rest.length ≤ text.length := by
  unfold readFraction? at h
  split at h
  · rename_i tail
    simp only at h
    split at h
    · cases h
    · cases h
      have := length_dropWhile_le Char.isDigit tail
      simp only [List.length_cons]
      omega
  · cases h
    exact Nat.le_refl _

/-- Reading an exponent makes no text longer. -/
theorem readExponent?_le {text rest : List Char} {exponent : Int} {found : Bool}
    (h : readExponent? text = some (exponent, found, rest)) : rest.length ≤ text.length := by
  unfold readExponent? at h
  split at h
  · rename_i mark tail
    split at h
    · have hsign : (splitSign tail).2.length ≤ tail.length := by
        unfold splitSign
        split <;> simp
      simp only at h
      split at h
      · cases h
      · simp only [Option.some.injEq, Prod.mk.injEq] at h
        obtain ⟨_, _, rfl⟩ := h
        have := length_dropWhile_le Char.isDigit (splitSign tail).2
        simp only [List.length_cons]
        omega
    · cases h
      exact Nat.le_refl _
  · cases h
    exact Nat.le_refl _

/-- The digits before a fraction are leading characters of the text. -/
theorem length_wholeDigits_le (text : List Char) : (wholeDigits text).length ≤ text.length := by
  unfold wholeDigits
  split
  · simp
  · exact (List.takeWhile_prefix _).length_le

/-- Reading a number consumes a character. -/
theorem readNumber?_shorter {negative : Bool} {text rest : List Char} {literal : Literal}
    (h : readNumber? negative text = some (literal, rest)) : rest.length < text.length := by
  unfold readNumber? at h
  simp only at h
  split at h
  · cases h
  · rename_i hwhole
    simp only [Option.bind_eq_bind, Option.bind_eq_some_iff, Option.pure_def] at h
    obtain ⟨⟨fraction, found, middle⟩, hfraction, ⟨exponent, found', rest'⟩, hexponent, heq⟩ := h
    cases heq
    have hpos : 0 < (wholeDigits text).length :=
      List.length_pos_iff.2 fun hnil => hwhole (by rw [hnil]; rfl)
    have hle := length_wholeDigits_le text
    have h1 := readFraction?_le hfraction
    have h2 := readExponent?_le hexponent
    simp only [List.length_drop] at h1 h2
    show rest'.length < text.length
    omega

/-- Reading a token consumes a character. -/
theorem nextToken?_shorter {text rest : List Char} {token : Token}
    (h : nextToken? text = some (token, rest)) : rest.length < text.length := by
  unfold nextToken? at h
  split at h
  case h_10 =>
    obtain ⟨read, hread, heq⟩ := Option.map_eq_some_iff.1 h
    cases heq
    have := readCodes_shorter hread
    simp only [List.length_cons]
    omega
  case h_11 =>
    obtain ⟨read, hread, heq⟩ := Option.map_eq_some_iff.1 h
    cases heq
    have := readNumber?_shorter hread
    simp only [List.length_cons]
    omega
  case h_12 =>
    obtain ⟨read, hread, heq⟩ := Option.map_eq_some_iff.1 h
    cases heq
    exact readNumber?_shorter hread
  all_goals
    cases h
    simp only [List.length_cons]
    omega

/-- The blanks that may stand between tokens. -/
def isBlank (c : Char) : Bool := c = ' ' || c = '\n' || c = '\r' || c = '\t'

/-- All tokens of a text. -/
def tokens? (text : List Char) : Option (List Token) :=
  match text with
  | [] => some []
  | c :: rest =>
    if isBlank c then tokens? rest
    else
      match _ : nextToken? (c :: rest) with
      | none => none
      | some (token, rest') => (tokens? rest').map (token :: ·)
termination_by text.length
decreasing_by
  · simp
  · exact nextToken?_shorter ‹_›

end CatalogSearch.Json
