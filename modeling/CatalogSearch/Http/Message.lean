import CatalogSearch.Url.Basic

/-!
# HTTP messages

Requests and replies, as far as this library looks at them, and the means to exchange them: a
transport takes a request and yields the reply, or nothing when there is none.
-/

namespace CatalogSearch.Http

/-- The method of a request. -/
inductive Method where
  | head
  | get
  | post
deriving DecidableEq

/-- The name of a method. -/
def Method.name : Method → String
  | .head => "HEAD"
  | .get => "GET"
  | .post => "POST"

/-- A request, with the values of its headers for authorization and for the type of its body. -/
structure Request where
  method : Method
  url : Url
  authorization : List String
  contentType : List String
  body : String
deriving DecidableEq

/-- A reply to a request: the status, the phrase that explains it, and the body. -/
structure Reply where
  status : Nat
  phrase : String
  body : String
deriving DecidableEq

namespace Reply

/-- Whether the request succeeded. -/
def isSuccess (reply : Reply) : Bool := 200 ≤ reply.status && reply.status < 300

/-- Whether the reply puts the fault on the client. -/
def isClientError (reply : Reply) : Bool := 400 ≤ reply.status && reply.status < 500

/-- Whether the reply puts the fault on the server. -/
def isServerError (reply : Reply) : Bool := 500 ≤ reply.status && reply.status < 600

end Reply

/-- The means to exchange messages, with a state. -/
structure Transport (τ : Type) where
  send : Request → StateM τ (Option Reply)

end CatalogSearch.Http
