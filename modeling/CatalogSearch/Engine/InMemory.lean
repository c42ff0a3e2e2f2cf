import CatalogSearch.Engine.Basic

/-!
# An engine in memory

An engine without documents, which answers each round of searches with the oldest of the answers
queued for it and records every round and every update that it accepts. When no answer is queued,
nothing matches.
-/

namespace CatalogSearch

/-- An accepted update. -/
structure RecordedUpdate where
  index : String
  id : String
  body : Json
deriving DecidableEq

/-- The state of the engine: its answers, the failure of updates if they are to fail, and its
records, oldest first. -/
structure InMemory where
  ping : Except String Bool
  clusterHealth : Except String Json
  replies : List (Except String (List Item))
  updateFailure : Option String
  searches : List (List SearchCall)
  updates : List RecordedUpdate

namespace InMemory

/-- The engine before anything happens: reachable, healthy, with no answer queued. -/
def fresh : InMemory where
  ping := .ok true
  clusterHealth := .ok
    (.object [("cluster_name", .text "in-memory"), ("status", .text "green")])
  replies := []
  updateFailure := none
  searches := []
  updates := []

/-- Queue an answer behind the others. -/
def enqueue (state : InMemory) (reply : Except String (List Item)) : InMemory :=
  { state with replies := state.replies ++ [reply] }

/-- A refusal for a reason. -/
def refusal (reason : String) : Item :=
  .failure (.object
    [("reason", .text reason), ("type", .text "search_phase_execution_exception")])

/-- A hit with an identifier, a score and a source. A score that is not a number is absent. -/
def hit (id : String) (score : Double) (source : Json) : Hit where
  index := "in_memory"
  id := some id
  score := if score.isFinite then some score else none
  source := if source = .null then none else some source

/-- A reply with a total. -/
def reply (total : UInt64) (hits : List Hit) : Item := .success ⟨some total, hits⟩

/-- A stated failure as an internal error. -/
def lift {α : Type} : Except String α → Except InternalError α
  | .ok value => .ok value
  | .error reason => .error (.stated reason)

/-- Record a round of searches and answer it. -/
def multiSearch (calls : List SearchCall) (state : InMemory) :
    Except InternalError (List Item) × InMemory :=
  let recorded := { state with searches := state.searches ++ [calls] }
  match state.replies with
  | [] => (.ok (calls.map fun _ => reply 0 []), recorded)
  | answer :: rest => (lift answer, { recorded with replies := rest })

/-- Record an update, unless updates fail. -/
def updateDocument (index id : String) (body : Json) (state : InMemory) :
    Except InternalError Unit × InMemory :=
  match state.updateFailure with
  | some reason => (.error (.stated reason), state)
  | none => (.ok (), { state with updates := state.updates ++ [⟨index, id, body⟩] })

/-- The engine that acts on this state. -/
def engine : Engine InMemory where
  ping := fun state => (lift state.ping, state)
  clusterHealth := fun state => (lift state.clusterHealth, state)
  multiSearch := multiSearch
  updateDocument := updateDocument

end InMemory

end CatalogSearch
