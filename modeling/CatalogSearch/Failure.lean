import CatalogSearch.Filter
import CatalogSearch.Json.Printer
import CatalogSearch.Resource

/-!
# Failures

What can go wrong with a search, a lookup by key or a change of a document, each kind of cause as
a constructor and its wording in one function. An internal error is a chain of causes with no
more to it than their texts and where it arose.
-/

namespace CatalogSearch

/-- Where an internal error arose: stated by this library, in a reply that reports a failure, in a
reply that cannot be read, or on the way to the engine. -/
inductive ErrorOrigin where
  | stated
  | status
  | decode
  | transport
deriving DecidableEq

/-- A failure that no caller can act upon: its direct cause and the causes behind that. -/
structure InternalError where
  origin : ErrorOrigin
  cause : String
  behind : List String
deriving DecidableEq

namespace InternalError

/-- A failure stated by this library. -/
def stated (cause : String) : InternalError := ⟨.stated, cause, []⟩

/-- The text shown for any internal error. -/
def display (_ : InternalError) : String := "Internal error"

/-- The whole chain of causes, outermost first. -/
def reason (error : InternalError) : String := ": ".intercalate (error.cause :: error.behind)

/-- An internal error as the cause of another one. -/
def wrapped (error : InternalError) : InternalError :=
  ⟨error.origin, error.display, error.cause :: error.behind⟩

end InternalError

/-- The engine refused a search of one kind, and this is what it said. -/
structure EngineFailure where
  kind : ResourceKind
  failures : Json
deriving DecidableEq

/-- The text of an engine's refusal. -/
def EngineFailure.message (failure : EngineFailure) : String :=
  "Request to search engine failed for " ++ failure.kind.name ++ ": " ++ failure.failures.compact

/-- Why a search has no response. -/
inductive SearchFailure where
  | invalidFilter (invalid : InvalidFilter)
  | engine (failure : EngineFailure)
  | internal (error : InternalError)
deriving DecidableEq

namespace SearchFailure

/-- The text of a failed search. -/
def message : SearchFailure → String
  | .invalidFilter invalid => invalid.message
  | .engine failure => failure.message
  | .internal error => error.display

/-- Whether the request itself was at fault. -/
def isClientError : SearchFailure → Bool
  | .invalidFilter _ => true
  | .engine _ => false
  | .internal _ => false

end SearchFailure

/-- Why a lookup by key has no document. -/
inductive LookupFailure where
  | notFound (kind : ResourceKind) (key : String)
  | notUnique (kind : ResourceKind) (key : String) (count : UInt64)
  | engine (failure : EngineFailure)
  | internal (error : InternalError)
deriving DecidableEq

namespace LookupFailure

/-- The text of a failed lookup. -/
def message : LookupFailure → String
  | .notFound kind key => "Requested key " ++ key ++ " returned no " ++ kind.name ++ " documents"
  | .notUnique kind key count =>
    "Key " ++ key ++ " is not unique to a single " ++ kind.name ++ " document, found " ++
      String.ofList (decimalDigits count.toNat)
  | .engine failure => failure.message
  | .internal error => error.display

/-- The text of a failed lookup inside another message, which spells out an internal error. -/
def description : LookupFailure → String
  | .internal error => error.reason
  | other => other.message

end LookupFailure

/-- Why the field to be changed could not be fetched. -/
inductive FetchFailure where
  | lookup (failure : LookupFailure)
  | fieldMissing (id : String) (field : String)
deriving DecidableEq

/-- The text of a failed fetch. -/
def FetchFailure.message : FetchFailure → String
  | .lookup failure => failure.description
  | .fieldMissing id field => "Document " ++ id ++ " has no field " ++ field

/-- The value to be removed is not among the items of the field. -/
structure ValueAbsent where
  value : String
deriving DecidableEq

/-- The text about an absent value. -/
def ValueAbsent.message (absent : ValueAbsent) : String :=
  "Value " ++ absent.value ++ " is not present in the field"

/-- What stopped the change of a field. -/
inductive MutationCause where
  | fetch (failure : FetchFailure)
  | removal (absent : ValueAbsent)
  | persist (error : InternalError)
deriving DecidableEq

/-- The failed change of a field, under its canonical name, of the document with a key. -/
structure MutationFailure where
  field : String
  key : String
  cause : MutationCause
deriving DecidableEq

/-- The text of a failed change. -/
def MutationFailure.message (failure : MutationFailure) : String :=
  let ofDocument := failure.field ++ " for " ++ failure.key ++ ": "
  match failure.cause with
  | .fetch cause => "Failed to get field " ++ ofDocument ++ cause.message
  | .removal absent => "Failed to delete value from field " ++ ofDocument ++ absent.message
  | .persist error => "Failed to update field " ++ ofDocument ++ error.reason

end CatalogSearch
