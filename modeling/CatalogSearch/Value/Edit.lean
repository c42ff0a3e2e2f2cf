import CatalogSearch.Request
import CatalogSearch.Failure
import CatalogSearch.Value.Basic

/-!
# Edits of field values

What a value becomes when a text is put into it or removed from it. A list takes texts as further
items and loses the first item that is displayed as the text to remove; anything else is treated
as a single value.
-/

namespace CatalogSearch.Value

/-- A value with a text put into it. Adding to a single value makes a list of both; null holds
nothing to keep. Overwriting keeps a list a list. -/
def updated (current : Value) (text : String) : UpdateMode → Value
  | .add =>
    match current with
    | .list items => .list (items ++ [.text text])
    | .null => .list [.text text]
    | single => .list [single, .text text]
  | .overwrite =>
    match current with
    | .list _ => .list [.text text]
    | _ => .text text

/-- Items without the first one that is displayed as a text, if there is one. -/
def removeFirst? (text : String) : List Value → Option (List Value)
  | [] => none
  | item :: rest =>
    if item.display = text then some rest else (removeFirst? text rest).map (item :: ·)

/-- A value with a text removed from it. A list loses every item when no text, or the empty one, is
given; a single value is cleared whatever the text. -/
def removed (current : Value) (text : Option String) : Except ValueAbsent Value :=
  match current with
  | .list items =>
    match text with
    | none => .ok (.list [])
    | some text =>
      if text.isEmpty then .ok (.list [])
      else
        match removeFirst? text items with
        | some rest => .ok (.list rest)
        | none => .error ⟨text⟩
  | _ => .ok (.text "")

end CatalogSearch.Value
