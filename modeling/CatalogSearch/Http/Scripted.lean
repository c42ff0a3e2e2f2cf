import CatalogSearch.Http.Client

/-!
# A scripted server

A transport to one server that gives prepared replies in order and records the requests that reach
it. A request beyond the replies gets none, and neither does one to another server, which is not
recorded either. `Script.client` is a client with this transport, whose exchanges can be followed
to the end.
-/

namespace CatalogSearch.Http

/-- The state of a server: the replies still to be given, and the requests so far, oldest first. -/
structure Script where
  replies : List Reply
  requests : List Request

/-- A reply as it arrives: the answers to some requests, and some statuses, never carry a body. -/
def Reply.delivered (reply : Reply) (method : Method) : Reply :=
  if method = .head ∨ reply.status = 204 ∨ reply.status = 304 then { reply with body := "" }
  else reply

/-- The transport to the server at an address, a host with the number behind it. -/
def scripted (address : String) : Transport Script where
  send := fun request script =>
    if request.url.scheme = "http" ∧ request.url.hostText = address then
      let recorded := { script with requests := script.requests ++ [request] }
      match script.replies with
      | [] => (none, recorded)
      | reply :: rest => (some (reply.delivered request.method), { recorded with replies := rest })
    else (none, script)

/-- The client of the scripted server with the address `engine:9200`. -/
def Script.client : Client Script where
  config :=
    { url := ⟨"http", "", "", some (.name "engine"), some 9200, .segments [""], none, none⟩
      user := none
      password := none
      timeoutSecs := 30 }
  transport := scripted "engine:9200"

end CatalogSearch.Http
