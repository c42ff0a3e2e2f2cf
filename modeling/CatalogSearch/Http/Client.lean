import CatalogSearch.Engine.Wire
import CatalogSearch.Http.Message
import CatalogSearch.Json.Record
import CatalogSearch.Url.Parser

/-!
# A search engine reached over HTTP

The operations of a search engine as requests to the paths below its URL. Several searches travel
in one body of lines, two for each: where to search, and what. A reply counts only as a whole: one
with a failure status, an unreadable entry, or more or fewer entries than searches is an error.

Requests authenticate as the user named in the URL, which is taken out of it, and as the
configured one. A user and a password travel in base64: bytes in groups of three, each written as
four characters of six bits, an incomplete group padded with equals signs.
-/

namespace CatalogSearch

namespace Base64

/-- The character of a number of six bits. -/
def digitChar (n : Nat) : Char :=
  if n < 26 then Char.ofNat ('A'.toNat + n)
  else if n < 52 then Char.ofNat ('a'.toNat + (n - 26))
  else if n < 62 then Char.ofNat ('0'.toNat + (n - 52))
  else if n = 62 then '+'
  else '/'

/-- The characters of a list of bytes. -/
def encode : List UInt8 → List Char
  | [] => []
  | [a] =>
    let n := a.toNat * 16
    [digitChar (n / 64), digitChar (n % 64), '=', '=']
  | [a, b] =>
    let n := (a.toNat * 256 + b.toNat) * 4
    [digitChar (n / 4096), digitChar (n / 64 % 64), digitChar (n % 64), '=']
  | a :: b :: c :: rest =>
    let n := (a.toNat * 256 + b.toNat) * 256 + c.toNat
    digitChar (n / 262144) :: digitChar (n / 4096 % 64) :: digitChar (n / 64 % 64) ::
      digitChar (n % 64) :: encode rest

end Base64

namespace Http

/-- The configuration of a client. -/
structure ClientConfig where
  url : Url
  user : Option String
  password : Option String
  timeoutSecs : UInt64

namespace ClientConfig

/-- How long to wait for a reply unless configured otherwise, in seconds. -/
def standardTimeout : UInt64 := 30

/-- Read a configuration. -/
def ofJson? (value : Json) : Option ClientConfig := do
  let [url, user, password, timeout] ← value.slots? ["url", "user", "password", "timeout_secs"]
    | none
  pure
    { url := ← url.required? fun value => value.text?.bind Url.parse?
      user := ← user.withDefault? none (Json.nullable? Json.text?)
      password := ← password.withDefault? none (Json.nullable? Json.text?)
      timeoutSecs := ← timeout.withDefault? standardTimeout Json.uint64? }

end ClientConfig

/-- The value of an authorization header for a user. -/
def basicAuthorization (user : String) (password : Option String) : String :=
  let bytes := (user ++ ":" ++ password.getD "").toUTF8.data.toList
  "Basic " ++ String.ofList (Base64.encode bytes)

/-- The user and the password named in a URL, if they are texts and there are any. -/
def urlCredentials? (url : Url) : Option (String × Option String) := do
  let user ← Percent.decode? url.username.toList
  let password :=
    if url.password.isEmpty then none
    else (Percent.decode? url.password.toList).map String.ofList
  guard (!(user.isEmpty && password.isNone))
  pure (String.ofList user, password)

/-- The failure to exchange messages with a URL. -/
def transportError (url : Url) : InternalError where
  origin := .transport
  cause := "error sending request for url (" ++ url.text ++ ")"
  behind := ["client error (SendRequest)", "connection closed before message completed"]

/-- The failure to read the body of a reply. -/
def decodeError : InternalError := ⟨.decode, "error decoding response body", []⟩

/-- The failure that the status of a reply reports. -/
def statusError (reply : Reply) (url : Url) : InternalError where
  origin := .status
  cause :=
    "HTTP status " ++ (if reply.isClientError then "client" else "server") ++ " error (" ++
      String.ofList (decimalDigits reply.status) ++ " " ++ reply.phrase ++ ") for url (" ++
      url.text ++ ")"
  behind := []

/-- A reply, unless its status reports a failure. -/
def Reply.accepted (reply : Reply) (url : Url) : Except InternalError Reply :=
  if reply.isClientError || reply.isServerError then .error (statusError reply url)
  else .ok reply

/-- The body that carries several searches: two lines for each. -/
def searchBody (calls : List SearchCall) : String :=
  String.join (calls.map fun call => call.header.compact ++ "\n" ++ call.body.compact ++ "\n")

/-- The outcomes in the reply to some searches. -/
def outcomes (calls : List SearchCall) (reply : Reply) : Except InternalError (List Item) :=
  match Item.listOfText? reply.body with
  | none => .error decodeError
  | some items =>
    if items.length = calls.length then .ok items
    else
      .error (.stated
        ("Elasticsearch returned " ++ String.ofList (decimalDigits items.length) ++
          " responses for " ++ String.ofList (decimalDigits calls.length) ++ " searches"))

/-- A client of a search engine, with a transport. -/
structure Client (τ : Type) where
  config : ClientConfig
  transport : Transport τ

namespace Client

variable {τ : Type}

/-- The URL of a path below the engine's. -/
def endpoint (client : Client τ) (segments : List String) : Except InternalError Url :=
  match client.config.url.extend? segments with
  | some url => .ok url
  | none =>
    .error (.stated
      ("Elasticsearch url " ++ client.config.url.text ++ " cannot be used as a base"))

/-- A request to a URL, authenticated. -/
def request (client : Client τ) (method : Method) (url : Url) (contentType : List String)
    (body : String) : Request where
  method := method
  url := if (urlCredentials? url).isSome then url.withoutUserinfo else url
  authorization :=
    ((urlCredentials? url).map fun named => basicAuthorization named.1 named.2).toList ++
      (client.config.user.map fun user => basicAuthorization user client.config.password).toList
  contentType := contentType
  body := body

/-- Send a request, and yield the reply unless there is none or its status reports a failure. -/
def exchange (client : Client τ) (request : Request) : StateM τ (Except InternalError Reply) := do
  match ← client.transport.send request with
  | none => pure (.error (transportError request.url))
  | some reply => pure (reply.accepted request.url)

/-- Whether the engine answers at its URL. A reply that does not come is an answer too: no. -/
def ping (client : Client τ) : StateM τ (Except InternalError Bool) :=
  match client.endpoint [] with
  | .error error => pure (.error error)
  | .ok url => do
    match ← client.transport.send (client.request .head url [] "") with
    | none => pure (.ok false)
    | some reply => pure (.ok reply.isSuccess)

/-- The payload in which the engine's cluster tells its state. -/
def clusterHealth (client : Client τ) : StateM τ (Except InternalError Json) :=
  match client.endpoint ["_cluster", "health"] with
  | .error error => pure (.error error)
  | .ok url => do
    match ← client.exchange (client.request .get url [] "") with
    | .error error => pure (.error error)
    | .ok reply =>
      match Json.ofText? reply.body with
      | none => pure (.error decodeError)
      | some payload => pure (.ok payload)

/-- Run several searches in one round trip. -/
def multiSearch (client : Client τ) (calls : List SearchCall) :
    StateM τ (Except InternalError (List Item)) :=
  match client.endpoint ["_msearch"] with
  | .error error => pure (.error error)
  | .ok url => do
    let request := client.request .post url ["application/x-ndjson"] (searchBody calls)
    match ← client.exchange request with
    | .error error => pure (.error error)
    | .ok reply => pure (outcomes calls reply)

/-- Update one document in part. -/
def updateDocument (client : Client τ) (index id : String) (body : Json) :
    StateM τ (Except InternalError Unit) :=
  match client.endpoint [index, "_update", id] with
  | .error error => pure (.error error)
  | .ok url => do
    match ← client.exchange (client.request .post url ["application/json"] body.compact) with
    | .error error => pure (.error error)
    | .ok _ => pure (.ok ())

/-- The client as a search engine. -/
def engine (client : Client τ) : Engine τ where
  ping := client.ping
  clusterHealth := client.clusterHealth
  multiSearch := client.multiSearch
  updateDocument := client.updateDocument

end Client

end Http

end CatalogSearch
