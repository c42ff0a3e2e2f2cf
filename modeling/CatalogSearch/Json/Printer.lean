import CatalogSearch.Json.Basic
import CatalogSearch.Double.Text
import CatalogSearch.Text.Basic

/-!
# Compact JSON text

The text of a JSON value without any blank: members in the order in which the object holds them,
doubles as their shortest decimal, and strings with only the quote, the backslash and the control
characters escaped. No character of the text is a control character, so a text never spans lines.
-/

namespace CatalogSearch.Json

/-- The text of one character inside a string. -/
def escape (c : Char) : List Char :=
  if c = '"' then ['\\', '"']
  else if c = '\\' then ['\\', '\\']
  else if c.toNat < 0x20 then
    if c.toNat = 0x08 then ['\\', 'b']
    else if c.toNat = 0x09 then ['\\', 't']
    else if c.toNat = 0x0a then ['\\', 'n']
    else if c.toNat = 0x0c then ['\\', 'f']
    else if c.toNat = 0x0d then ['\\', 'r']
    else ['\\', 'u', '0', '0', Text.hexDigit (c.toNat / 16), Text.hexDigit (c.toNat % 16)]
  else [c]

/-- The text of a string, in quotes. -/
def quoted (value : String) : List Char :=
  '"' :: value.toList.flatMap escape ++ ['"']

mutual

/-- The characters of the compact text of a value. -/
def chars : Json → List Char
  | .null => ['n', 'u', 'l', 'l']
  | .bool true => ['t', 'r', 'u', 'e']
  | .bool false => ['f', 'a', 'l', 's', 'e']
  | .integer value => integerText value.val
  | .decimal value => value.text
  | .text value => quoted value
  | .array items => '[' :: itemChars items ++ [']']
  | .object members => '\x7b' :: memberChars members ++ ['\x7d']

/-- The items of an array, between commas. -/
def itemChars : List Json → List Char
  | [] => []
  | [item] => chars item
  | item :: rest => chars item ++ ',' :: itemChars rest

/-- The members of an object, between commas. -/
def memberChars : List (String × Json) → List Char
  | [] => []
  | [(key, value)] => quoted key ++ ':' :: chars value
  | (key, value) :: rest => quoted key ++ ':' :: chars value ++ ',' :: memberChars rest

end

/-- The compact text of a value. -/
def compact (value : Json) : String := String.ofList value.chars

end CatalogSearch.Json
