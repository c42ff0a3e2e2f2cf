import CatalogSearch.Engine.InMemory
import CatalogSearch.Service.Health
import CatalogSearch.Service.Mutation

/-!
# Sessions

A session runs steps against a catalog over the engine in memory: settings of the engine, queued
answers, and the operations of the catalog. Each step has an outcome, which holds its result and
what the engine recorded meanwhile.
-/

namespace CatalogSearch.Session

/-- A step of a session. -/
inductive Step where
  | setPing (reachable : Bool)
  | setPingError (reason : String)
  | setClusterHealth (payload : Json)
  | setClusterHealthError (reason : String)
  | failUpdates (reason : String)
  | enqueue (items : List Item)
  | enqueueFailure (reason : String)
  | health
  | search (request : SearchRequest)
  | get (kind : ResourceKind) (key : String)
  | mutate (mutation : Mutation)

/-- The result of a step. -/
inductive Result where
  | done
  | health (report : Health)
  | search (answer : Except SearchFailure SearchResponse)
  | get (answer : Except LookupFailure Document)
  | mutate (answer : Except MutationFailure String)

/-- The outcome of a step: its result, and what the engine recorded meanwhile. -/
structure Outcome where
  result : Result
  searches : List (List SearchCall)
  updates : List RecordedUpdate

/-- The catalog over the engine in memory. -/
def catalog (config : CatalogConfig) : Catalog InMemory := ⟨InMemory.engine, config⟩

/-- Run a step, to its result. -/
def Step.run (config : CatalogConfig) (step : Step) : StateM InMemory Result :=
  match step with
  | .setPing reachable => fun state => (.done, { state with ping := .ok reachable })
  | .setPingError reason => fun state => (.done, { state with ping := .error reason })
  | .setClusterHealth payload => fun state => (.done, { state with clusterHealth := .ok payload })
  | .setClusterHealthError reason =>
    fun state => (.done, { state with clusterHealth := .error reason })
  | .failUpdates reason => fun state => (.done, { state with updateFailure := some reason })
  | .enqueue items => fun state => (.done, state.enqueue (.ok items))
  | .enqueueFailure reason => fun state => (.done, state.enqueue (.error reason))
  | .health => Result.health <$> (catalog config).health
  | .search request => Result.search <$> (catalog config).search request
  | .get kind key => Result.get <$> (catalog config).lookup kind key
  | .mutate mutation => Result.mutate <$> (catalog config).mutate mutation

/-- Run a step, to its outcome. -/
def Step.observe (config : CatalogConfig) (step : Step) (state : InMemory) : Outcome × InMemory :=
  let (result, after) := step.run config state
  ({ result
     searches := after.searches.drop state.searches.length
     updates := after.updates.drop state.updates.length }, after)

/-- Run steps one after the other, to their outcomes. -/
def run (config : CatalogConfig) : List Step → InMemory → List Outcome × InMemory
  | [], state => ([], state)
  | step :: rest, state =>
    let (outcome, after) := step.observe config state
    let (outcomes, final) := run config rest after
    (outcome :: outcomes, final)

/-- The outcomes of steps run from the beginning. -/
def outcomes (config : CatalogConfig) (steps : List Step) : List Outcome :=
  (run config steps .fresh).1

end CatalogSearch.Session
