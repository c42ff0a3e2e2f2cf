import CatalogSearch.Double.Text
import CatalogSearch.Text.Basic
import CatalogSearch.Url.Domain

/-!
# Hosts

The host of a URL is a name or an address. A host name that ends in a number must be an IPv4
address, whose one to four parts are decimal, octal or hexadecimal, the last one filling what the
others leave; a host in brackets must be an IPv6 address. Addresses have one text each.
-/

namespace CatalogSearch

/-! A power of a number is the core library's power, whatever other powers are in scope. -/

attribute [local instance (1100)] instPowNat

/-- The host of a URL. An empty name is a host that is there but says nothing. -/
inductive Host where
  | name (text : String)
  | ipv4 (address : Nat)
  | ipv6 (pieces : List Nat)
deriving DecidableEq

namespace Host

/-- The parts of a text between points. -/
def parts (text : List Char) : List (List Char) := text.splitOnP (· = '.')

/-- The number that a non-empty run of digits writes in a base. -/
def readBase? (base : Nat) (digits : List Char) : Option Nat :=
  digits.foldlM (fun sum c => do
    let digit ← Text.hexValue? c
    if digit < base then some (sum * base + digit) else none) 0

/-- The number that one part of an IPv4 address writes. A zero in front marks octal digits, a zero
and an x hexadecimal ones; a mark alone is zero. -/
def ipv4Part? : List Char → Option Nat
  | [] => none
  | '0' :: 'x' :: digits => readBase? 16 digits
  | '0' :: 'X' :: digits => readBase? 16 digits
  | '0' :: digit :: digits => readBase? 8 (digit :: digits)
  | digits => readBase? 10 digits

/-- Whether the last part of a name, before a final point, is a number. -/
def endsInNumber (text : List Char) : Bool :=
  let last? :=
    match (parts text).reverse with
    | [] :: last :: _ => some last
    | [] :: [] => none
    | last :: _ => some last
    | [] => none
  match last? with
  | none => false
  | some last => (!last.isEmpty && last.all Char.isDigit) || (ipv4Part? last).isSome

/-- The address of some parts: all but the last one byte each, and the last one what is left. -/
def ipv4OfParts? (numbers : List Nat) : Option Nat :=
  match numbers.reverse with
  | [] => none
  | last :: others =>
    let leading := others.reverse
    if leading.length ≤ 3 ∧ leading.all (· ≤ 255) ∧ last < 256 ^ (4 - leading.length) then
      some (leading.foldl (fun sum n => sum * 256 + n) 0 * 256 ^ (4 - leading.length) + last)
    else none

/-- Read an IPv4 address. -/
def readIpv4? (text : List Char) : Option Nat := do
  let written := parts text
  let written := if written.getLast? = some [] then written.dropLast else written
  let numbers ← written.mapM ipv4Part?
  ipv4OfParts? numbers

/-- A part of an IPv4 address inside an IPv6 one: a decimal byte without zeros in front. -/
def decimalByte? (digits : List Char) : Option Nat := do
  guard (!digits.isEmpty && digits.length ≤ 3 && digits.all Char.isDigit)
  guard (digits.length = 1 || digits.head? ≠ some '0')
  let n ← readBase? 10 digits
  if n ≤ 255 then some n else none

/-- The two pieces of an IPv4 address at the end of an IPv6 one. -/
def ipv4Tail? (text : List Char) : Option (List Nat) := do
  match ← (parts text).mapM decimalByte? with
  | [a, b, c, d] => some [a * 256 + b, c * 256 + d]
  | _ => none

/-- A piece of an IPv6 address: one to four hexadecimal digits. -/
def piece? (digits : List Char) : Option Nat :=
  if digits.isEmpty || 4 < digits.length then none else readBase? 16 digits

/-- The pieces of a part of an IPv6 address without a gap. An IPv4 address may stand at its
end. -/
def pieces? : List (List Char) → Option (List Nat)
  | [] => some []
  | [last] => if last.contains '.' then ipv4Tail? last else (piece? last).map ([·])
  | digits :: rest => do
    let piece ← piece? digits
    let rest ← pieces? rest
    pure (piece :: rest)

/-- The pieces between colons; none of them for the empty text. -/
def piecesOf? (text : List Char) : Option (List Nat) :=
  if text.isEmpty then some [] else pieces? (text.splitOnP (· = ':'))

/-- Split a text at its first double colon. -/
def splitGap? : List Char → Option (List Char × List Char)
  | [] => none
  | ':' :: ':' :: rest => some ([], rest)
  | c :: rest => (splitGap? rest).map fun split => (c :: split.1, split.2)

/-- Read an IPv6 address. A double colon stands for one or more zero pieces. -/
def readIpv6? (text : List Char) : Option (List Nat) := do
  match splitGap? text with
  | none => do
    let pieces ← piecesOf? text
    if pieces.length = 8 then some pieces else none
  | some (before, after) => do
    guard (!(before.contains '.'))
    let leading ← piecesOf? before
    let trailing ← piecesOf? after
    let given := leading.length + trailing.length
    if given ≤ 7 then some (leading ++ List.replicate (8 - given) 0 ++ trailing) else none

/-- Read a host in brackets. -/
def readBracketed? (text : List Char) : Option Host := do
  guard (text.getLast? = some ']')
  let pieces ← readIpv6? text.dropLast
  pure (.ipv6 pieces)

/-- Read a host of the special schemes: an address, or a domain name. -/
def readSpecial? (text : List Char) : Option Host :=
  match text with
  | '[' :: rest => readBracketed? rest
  | _ => do
    let decoded ← Percent.decode? text
    let name ← Domain.toAscii? decoded
    guard (!name.isEmpty)
    if endsInNumber name then (readIpv4? name).map .ipv4
    else pure (.name (String.ofList name))

/-- Read a host of any other scheme: an address in brackets, or a name kept as it is. -/
def readOther? (text : List Char) : Option Host :=
  match text with
  | '[' :: rest => readBracketed? rest
  | _ =>
    if text.any Domain.isForbiddenHost then none
    else some (.name (String.ofList (Percent.encode Percent.controls text)))

/-- The longest run of at least two zero pieces, the first of several: where it starts and how
long it is. -/
def longestZeros (pieces : List Nat) : Nat × Nat :=
  let runs := (List.range pieces.length).map fun start =>
    (start, ((pieces.drop start).takeWhile (· = 0)).length)
  runs.foldl (fun best run => if best.2 < run.2 && 2 ≤ run.2 then run else best) (0, 0)

/-- The pieces of an IPv6 address between colons. -/
def pieceText (pieces : List Nat) : List Char :=
  [':'].intercalate (pieces.map (Nat.toDigits 16))

/-- The text of an IPv6 address, with its longest run of zeros left out. -/
def ipv6Text (pieces : List Nat) : List Char :=
  let (start, size) := longestZeros pieces
  if size = 0 then pieceText pieces
  else pieceText (pieces.take start) ++ "::".toList ++ pieceText (pieces.drop (start + size))

/-- The text of a host. -/
def text : Host → String
  | .name text => text
  | .ipv4 address =>
    String.ofList (['.'].intercalate
      ([3, 2, 1, 0].map fun (place : Nat) => decimalDigits (address / 256 ^ place % 256)))
  | .ipv6 pieces => String.ofList ('[' :: ipv6Text pieces ++ [']'])

end Host

end CatalogSearch
