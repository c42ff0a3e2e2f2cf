import CatalogSearch.Proofs.Service.Dispatch
import CatalogSearch.Proofs.Service.Mutation

/-!
# What a step of a session does

`Step.run_effect` says all that one step does to the engine in memory: whether it asks for a round
and for which, what it queues, whether it makes updates fail, and, if it asks, what it concludes
from the answer to its round and what it records. `Step.observe_eq` says the same of its outcome.
-/

namespace CatalogSearch

/-- The response to a request does not depend on why its round failed. -/
@[simp] theorem SearchRequest.respond_lift (request : SearchRequest) (size : UInt64)
    (answer : Except String (List Item)) :
    request.respond size (InMemory.lift answer) = request.respond size answer := by
  simp only [respond, Catalog.paired_lift]

/-- In memory, a health check leaves the engine alone. -/
theorem Catalog.health_in_memory (config : CatalogConfig) (state : InMemory) :
    ((Session.catalog config).health state).2 = state := by
  have hconnection : ((Session.catalog config).connection state).2 = state := by
    rw [connection, bind_apply]
    cases hping : state.ping with
    | error reason => simp [InMemory.engine, InMemory.lift, hping, pure_apply]
    | ok reachable =>
      cases reachable with
      | false => simp [InMemory.engine, InMemory.lift, hping, pure_apply]
      | true =>
        cases hhealth : state.clusterHealth <;>
          simp [InMemory.engine, InMemory.lift, hping, hhealth, bind_apply, pure_apply]
  rw [health, bind_apply, hconnection]
  generalize ((Session.catalog config).connection state).1 = connected
  rcases connected with _ | ⟨_ | _⟩ <;> rfl

namespace Session

/-- An answer that a round can receive: its items, or why it failed as a whole. -/
abbrev Answer := Except String (List Item)

namespace Step

/-- A step that asks the engine for a round: a lookup, a change, or a search whose filters are all
known. -/
def asks : Step → Bool
  | .search request => decide (∀ filter ∈ request.filters, filter.Known)
  | .get _ _ => true
  | .mutate _ => true
  | _ => false

/-- The searches of the round that a step asks for. -/
def calls (config : CatalogConfig) : Step → List SearchCall
  | .search request => (catalog config).searchCalls request
  | .get kind key => [(catalog config).keyCall kind key]
  | .mutate mutation => [(catalog config).keyCall mutation.kind mutation.key]
  | _ => []

/-- The rounds that a step asks for: one or none. -/
def rounds (config : CatalogConfig) (step : Step) : List (List SearchCall) :=
  if step.asks then [step.calls config] else []

/-- The answers that a step queues: one or none. -/
def queues : Step → List Answer
  | .enqueue items => [.ok items]
  | .enqueueFailure reason => [.error reason]
  | _ => []

/-- The reason for which updates fail from a step on. -/
def refuses : Step → Option String
  | .failUpdates reason => some reason
  | _ => none

/-- The result of a step that asks for a round, from the answer to it, when updates fail for a
reason or do not. -/
def concludes (config : CatalogConfig) (refusal : Option String) (answer : Answer) : Step → Result
  | .search request =>
    .search (request.respond ((catalog config).pageSize request.resultsPerPage) answer)
  | .get kind key => .get (Catalog.resolve kind key (Catalog.paired [kind] answer))
  | .mutate mutation =>
    .mutate (Catalog.settle config mutation refusal
      (Catalog.resolve mutation.kind mutation.key (Catalog.paired [mutation.kind] answer))).1
  | _ => .done

/-- The updates that a step records, when its round receives an answer, and when updates fail for a
reason or do not: at most one, and only by a change. -/
def records (config : CatalogConfig) (refusal : Option String) (answer : Answer) :
    Step → List RecordedUpdate
  | .mutate mutation =>
    (Catalog.settle config mutation refusal
      (Catalog.resolve mutation.kind mutation.key (Catalog.paired [mutation.kind] answer))).2
  | _ => []

/-- All that a step does to the engine in memory. -/
structure Effect (config : CatalogConfig) (step : Step) (state : InMemory) (result : Result)
    (after : InMemory) : Prop where
  searches : after.searches = state.searches ++ step.rounds config
  replies : after.replies =
    (if step.asks then state.replies.tail else state.replies) ++ step.queues
  updateFailure : after.updateFailure = step.refuses.or state.updateFailure
  updates : after.updates = state.updates ++
    step.records config state.updateFailure (state.nextAnswer (step.calls config))
  result : step.asks = true → result =
    step.concludes config state.updateFailure (state.nextAnswer (step.calls config))

variable {config : CatalogConfig}

/-- A step that asks for no round and records nothing. -/
theorem effect_of_not_asks {step : Step} {state after : InMemory} {result : Result}
    (hasks : step.asks = false) (hsearches : after.searches = state.searches)
    (hreplies : after.replies = state.replies ++ step.queues)
    (hfailure : after.updateFailure = step.refuses.or state.updateFailure)
    (hupdates : after.updates = state.updates)
    (hrecords : ∀ refusal answer, step.records config refusal answer = []) :
    step.Effect config state result after where
  searches := by simp [rounds, hasks, hsearches]
  replies := by simp [hasks, hreplies]
  updateFailure := hfailure
  updates := by rw [hupdates, hrecords, List.append_nil]
  result := by simp [hasks]

/-- A search with known filters asks for a round and records no update. -/
theorem search_effect {request : SearchRequest} (h : ∀ filter ∈ request.filters, filter.Known)
    (state : InMemory) :
    (Step.search request).Effect config state
      (.search ((catalog config).search request state).1)
      ((catalog config).search request state).2 := by
  have hasks : (Step.search request).asks = true := decide_eq_true h
  rw [Catalog.search_apply _ request h, catalog_engine, InMemory.multiSearch_apply]
  exact {
    searches := by simp [rounds, hasks, calls]
    replies := by simp [hasks, queues, InMemory.afterRound]
    updateFailure := rfl
    updates := (List.append_nil _).symm
    result := fun _ => by simp [concludes, calls] }

/-- A search with a filter that is not known does nothing. -/
theorem search_effect_of_unknown {request : SearchRequest}
    (h : ¬ ∀ filter ∈ request.filters, filter.Known) (state : InMemory) :
    (Step.search request).Effect config state
      (.search ((catalog config).search request state).1)
      ((catalog config).search request state).2 := by
  obtain ⟨before, filter, after, hfilters, hbefore, hfilter⟩ := Filter.exists_first_unknown h
  rw [Catalog.search_of_unknown _ hfilters hbefore hfilter]
  exact effect_of_not_asks (decide_eq_false h) rfl (List.append_nil _).symm rfl rfl fun _ _ => rfl

/-- A lookup asks for a round and records no update. -/
theorem get_effect (kind : ResourceKind) (key : String) (state : InMemory) :
    (Step.get kind key).Effect config state (.get ((catalog config).lookup kind key state).1)
      ((catalog config).lookup kind key state).2 := by
  rw [Catalog.lookup_in_memory]
  exact {
    searches := rfl
    replies := (List.append_nil _).symm
    updateFailure := rfl
    updates := (List.append_nil _).symm
    result := fun _ => rfl }

/-- A change asks for a round and records what becomes of it. -/
theorem mutate_effect (mutation : Mutation) (state : InMemory) :
    (Step.mutate mutation).Effect config state
      (.mutate ((catalog config).mutate mutation state).1)
      ((catalog config).mutate mutation state).2 := by
  rw [Catalog.mutate_in_memory, Catalog.lookup_in_memory]
  exact {
    searches := rfl
    replies := (List.append_nil _).symm
    updateFailure := rfl
    updates := rfl
    result := fun _ => rfl }

/-- A health check leaves the engine alone. -/
theorem health_effect (state : InMemory) :
    Step.health.Effect config state (.health ((catalog config).health state).1)
      ((catalog config).health state).2 := by
  rw [Catalog.health_in_memory]
  exact effect_of_not_asks rfl rfl (List.append_nil _).symm rfl rfl fun _ _ => rfl

/-- All that a step does when it runs. -/
theorem run_effect (config : CatalogConfig) (step : Step) (state : InMemory) :
    step.Effect config state (step.run config state).1 (step.run config state).2 := by
  cases step with
  | setPing | setPingError | setClusterHealth | setClusterHealthError | failUpdates | enqueue
  | enqueueFailure =>
    apply effect_of_not_asks <;> simp [asks, queues, refuses, records, run, InMemory.enqueue]
  | health => exact health_effect state
  | search request =>
    by_cases h : ∀ filter ∈ request.filters, filter.Known
    · exact search_effect h state
    · exact search_effect_of_unknown h state
  | get kind key => exact get_effect kind key state
  | mutate mutation => exact mutate_effect mutation state

/-- All that is observed of a step. -/
theorem observe_eq (config : CatalogConfig) (step : Step) (state : InMemory) :
    (step.observe config state).1 =
      { result := (step.run config state).1
        searches := step.rounds config
        updates :=
          step.records config state.updateFailure (state.nextAnswer (step.calls config)) } := by
  have heffect := step.run_effect config state
  have hsearches : (step.run config state).2.searches.drop state.searches.length =
      step.rounds config := by rw [heffect.searches, List.drop_left]
  have hupdates : (step.run config state).2.updates.drop state.updates.length =
      step.records config state.updateFailure (state.nextAnswer (step.calls config)) := by
    rw [heffect.updates, List.drop_left]
  rw [← hsearches, ← hupdates]
  rfl

/-- A step that does not change a document records no update. -/
theorem records_of_not_mutate {step : Step} (h : ∀ mutation, step ≠ .mutate mutation)
    (refusal : Option String) (answer : Answer) : step.records config refusal answer = [] := by
  cases step with
  | mutate mutation => exact absurd rfl (h mutation)
  | _ => rfl

end Step

end Session

end CatalogSearch
