import CatalogSearch.Json.Basic
import CatalogSearch.Json.Token

/-!
# JSON documents

A document is JSON text with its structure recognised and nothing else decided: members stand in
their written order, repeated keys included, numbers are still decimal, and a string with half a
surrogate pair has no text. `Document.ofTokens?` recognises it in one pass with a stack of the
enclosing arrays and objects. `Document.toJson?` is the strict reading of a document as a value.
-/

namespace CatalogSearch.Json

/-- The structure of a JSON text. -/
inductive Document where
  | null
  | bool (value : Bool)
  | number (literal : Literal)
  | string (text : Option String)
  | array (items : List Document)
  | object (members : List (Option String × Document))

/-- An array or object around the value being read, with what precedes that value, latest
first. -/
inductive Enclosure where
  | array (before : List Document)
  | object (before : List (Option String × Document)) (key : Option String)

/-- What may come next. -/
inductive Expectation where
  | value
  | itemOrEnd
  | keyOrEnd
  | key (before : List (Option String × Document))
  | colon (before : List (Option String × Document)) (key : Option String)
  | separator (value : Document)

/-- A position in the structure: the enclosures, innermost first, and what may come next. -/
structure Position where
  around : List Enclosure
  expect : Expectation

namespace Position

/-- A value has ended. -/
def closed (around : List Enclosure) (value : Document) : Position := ⟨around, .separator value⟩

/-- Read a token where a value must start. -/
def startValue? (around : List Enclosure) : Token → Option Position
  | .openArray => some ⟨around, .itemOrEnd⟩
  | .openObject => some ⟨around, .keyOrEnd⟩
  | .null => some (closed around .null)
  | .bool value => some (closed around (.bool value))
  | .number literal => some (closed around (.number literal))
  | .string content => some (closed around (.string content))
  | .closeArray | .closeObject | .comma | .colon => none

/-- Read a token after a value: a comma, or the end of the innermost enclosure. -/
def afterValue? (value : Document) : List Enclosure → Token → Option Position
  | .array before :: around, .comma => some ⟨.array (value :: before) :: around, .value⟩
  | .array before :: around, .closeArray =>
    some (closed around (.array (value :: before).reverse))
  | .object before key :: around, .comma => some ⟨around, .key ((key, value) :: before)⟩
  | .object before key :: around, .closeObject =>
    some (closed around (.object ((key, value) :: before).reverse))
  | _, _ => none

/-- Read one token. -/
def next? (position : Position) (token : Token) : Option Position :=
  match position.expect, token with
  | .value, token => startValue? position.around token
  | .itemOrEnd, .closeArray => some (closed position.around (.array []))
  | .itemOrEnd, token => startValue? (.array [] :: position.around) token
  | .keyOrEnd, .closeObject => some (closed position.around (.object []))
  | .keyOrEnd, .string key => some ⟨position.around, .colon [] key⟩
  | .key before, .string key => some ⟨position.around, .colon before key⟩
  | .colon before key, .colon => some ⟨.object before key :: position.around, .value⟩
  | .separator value, token => afterValue? value position.around token
  | _, _ => none

end Position

namespace Document

/-- The structure of a sequence of tokens, if they form exactly one value. -/
def ofTokens? (tokens : List Token) : Option Document :=
  match tokens.foldlM Position.next? (⟨[], .value⟩ : Position) with
  | some ⟨[], .separator value⟩ => some value
  | _ => none

/-- The structure of a text, if it is JSON. -/
def ofText? (text : String) : Option Document := do
  let tokens ← tokens? text.toList
  ofTokens? tokens

end Document

/-- The value of a number. An integer is kept as one if it fits in 64 bits; the negative zero and
every other number is a double, its digits rounded and then scaled, which must be finite. -/
def Literal.toJson? (literal : Literal) : Option Json :=
  let signed : Int := if literal.negative then -(literal.digits : Int) else literal.digits
  let whole? :=
    if literal.integral ∧ ¬(literal.negative ∧ literal.digits = 0) then Whole.ofInt? signed
    else none
  match whole? with
  | some whole => some (.integer whole)
  | none => do
    let rounded ← Finite.ofRatio? literal.negative literal.digits 1 Nat.one_pos
    let value ← rounded.scale? literal.exponent
    pure (.decimal value)

namespace Document

mutual

/-- The strict reading of a document with at most `levels` arrays and objects inside one
another: every string has its text, every number is finite, and the last of several members of
one key counts. -/
def toJson? (levels : Nat) : Document → Option Json
  | .null => some .null
  | .bool value => some (.bool value)
  | .number literal => literal.toJson?
  | .string content => content.map .text
  | .array items =>
    match levels with
    | 0 => none
    | levels + 1 => (itemsToJson? levels items).map .array
  | .object members =>
    match levels with
    | 0 => none
    | levels + 1 => (membersToJson? levels members).map Json.ofMembers

/-- The strict reading of the items of an array. -/
def itemsToJson? (levels : Nat) : List Document → Option (List Json)
  | [] => some []
  | item :: rest => do
    let item ← toJson? levels item
    let rest ← itemsToJson? levels rest
    pure (item :: rest)

/-- The strict reading of the members of an object. -/
def membersToJson? (levels : Nat) :
    List (Option String × Document) → Option (List (String × Json))
  | [] => some []
  | (key, value) :: rest => do
    let key ← key
    let value ← toJson? levels value
    let rest ← membersToJson? levels rest
    pure ((key, value) :: rest)

end

end Document

/-- The number of arrays and objects that may stand inside one another in a text read
strictly. -/
def maxLevels : Nat := 127

/-- The value of a JSON text, read strictly with at most `levels` levels of nesting. -/
def ofTextWithin? (levels : Nat) (text : String) : Option Json := do
  let document ← Document.ofText? text
  document.toJson? levels

/-- The value of a JSON text, read strictly. -/
def ofText? (text : String) : Option Json := ofTextWithin? maxLevels text

end CatalogSearch.Json
