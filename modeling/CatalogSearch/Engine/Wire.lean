import CatalogSearch.Engine.Basic
import CatalogSearch.Json.Document

/-!
# The engine's replies on the wire

A reply to several searches is a record with one entry for each. An entry with an error member is
a refusal, whatever else it holds; any other must be a reply. One entry that is neither makes the
whole unreadable.

The text of such a record is read strictly, except that what stands under other keys only has to
be well-formed; the key of the entries may not be repeated.
-/

namespace CatalogSearch

/-- Read a hit. -/
def Hit.ofJson? (value : Json) : Option Hit := do
  let [index, id, score, source] ← value.slots? ["_index", "_id", "_score", "_source"] | none
  pure
    { index := ← index.required? Json.text?
      id := ← id.optional? Json.text?
      score := ← score.optional? Json.double?
      source := ← source.optional? some }

namespace Reply

/-- Read the number of all matches. -/
def totalOfJson? (value : Json) : Option UInt64 := do
  let [total] ← value.slots? ["value"] | none
  total.required? Json.uint64?

/-- Read the hits and their total. -/
def hitsOfJson? (value : Json) : Option Reply := do
  let [total, hits] ← value.slots? ["total", "hits"] | none
  pure
    { total := ← total.optional? totalOfJson?
      hits := ← hits.required? (Json.list? Hit.ofJson?) }

/-- Read a reply. -/
def ofJson? (value : Json) : Option Reply := do
  let [hits] ← value.slots? ["hits"] | none
  hits.required? hitsOfJson?

end Reply

namespace Item

/-- Read an entry: a refusal if it has an error member, else a reply. -/
def ofJson? (value : Json) : Option Item :=
  match value.member? "error" with
  | some failures => some (.failure failures)
  | none => (Reply.ofJson? value).map .success

/-- The name of the record's only field. -/
def responsesName : String := "responses"

/-- Read the entries of a record. -/
def listOfJson? (value : Json) : Option (List Item) := do
  let [responses] ← value.slots? [responsesName] | none
  let entries ← responses.required? (Json.list? some)
  entries.mapM ofJson?

/-- The document under the only key of the entries, if every key has a text. -/
def responsesMember? (members : List (Option String × Json.Document)) :
    Option Json.Document := do
  let named ← members.mapM fun member => member.1.map (·, member.2)
  match named.filter fun member => member.1 = responsesName with
  | [member] => some member.2
  | _ => none

/-- The document that holds the entries. -/
def responsesDocument? : Json.Document → Option Json.Document
  | .object members => responsesMember? members
  | .array [responses] => some responses
  | _ => none

/-- Read the entries from the text of a record. -/
def listOfText? (text : String) : Option (List Item) := do
  let document ← Json.Document.ofText? text
  let responses ← responsesDocument? document
  let value ← responses.toJson? (Json.maxLevels - 1)
  let entries ← value.list? some
  entries.mapM ofJson?

end Item

end CatalogSearch
