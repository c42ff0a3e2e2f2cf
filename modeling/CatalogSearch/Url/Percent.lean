import CatalogSearch.Text.Basic

/-!
# Percent-encoding

Characters that may not stand in a part of a URL are written as their UTF-8 bytes, each as a
percent sign and two hexadecimal digits. Which bytes those are depends on the part. Bytes outside
printable ASCII are always encoded.
-/

namespace CatalogSearch.Percent

/-- A set of bytes to encode. -/
abbrev EncodeSet := UInt8 → Bool

/-- Whether a byte is the code of one of some ASCII characters. -/
def isOneOf (chars : String) (b : UInt8) : Bool := chars.toList.any fun c => c.toNat = b.toNat

/-- The bytes that are encoded everywhere: controls and all beyond ASCII. -/
def controls : EncodeSet := fun b => b < 0x20 || 0x7f ≤ b

/-- The bytes encoded in a fragment. -/
def fragmentSet : EncodeSet := fun b => controls b || isOneOf " \"<>\x60" b

/-- The bytes encoded in a path. -/
def pathSet : EncodeSet := fun b => fragmentSet b || isOneOf "#?\x7b\x7d" b

/-- The bytes encoded in a user name or password. -/
def userinfoSet : EncodeSet := fun b => pathSet b || isOneOf "/:;=@[\\]^|" b

/-- The bytes encoded in a single path segment, which may not end it. -/
def segmentSet : EncodeSet := fun b => pathSet b || isOneOf "/%" b

/-- The bytes encoded in a single path segment where a backslash would end it too. -/
def specialSegmentSet : EncodeSet := fun b => segmentSet b || isOneOf "\\" b

/-- The bytes encoded in a query. -/
def querySet : EncodeSet := fun b => controls b || isOneOf " \"#<>" b

/-- The bytes encoded in a query of the special schemes. -/
def specialQuerySet : EncodeSet := fun b => querySet b || isOneOf "\x27" b

/-- A byte as a percent sign and two digits, if it is in the set, and as it is otherwise. -/
def encodeByte (set : EncodeSet) (b : UInt8) : List Char :=
  if set b then ['%', Text.upperHexDigit (b.toNat / 16), Text.upperHexDigit (b.toNat % 16)]
  else [Char.ofNat b.toNat]

/-- A text with the bytes of a set encoded. -/
def encode (set : EncodeSet) (text : List Char) : List Char :=
  text.flatMap fun c => (String.utf8EncodeChar c).flatMap (encodeByte set)

/-- The byte written by two hexadecimal digits. -/
def byte? (high low : Char) : Option UInt8 := do
  let high ← Text.hexValue? high
  let low ← Text.hexValue? low
  pure (UInt8.ofNat (high * 16 + low))

/-- The bytes of a text in which encoded bytes are decoded. A percent sign without two digits
stands for itself. -/
def decodeBytes : List Char → List UInt8
  | [] => []
  | '%' :: high :: low :: rest =>
    match byte? high low with
    | some b => b :: decodeBytes rest
    | none => String.utf8EncodeChar '%' ++ decodeBytes (high :: low :: rest)
  | c :: rest => String.utf8EncodeChar c ++ decodeBytes rest

/-- A text in which encoded bytes are decoded, if they are UTF-8. -/
def decode? (text : List Char) : Option (List Char) :=
  (String.fromUTF8? ⟨(decodeBytes text).toArray⟩).map String.toList

end CatalogSearch.Percent
