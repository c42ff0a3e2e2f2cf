import CatalogSearch.Session

/-!
# Rounds of searches

What one round of searches does to the state of an engine, and what the catalog makes of its
answer. `Catalog.execute_apply` reduces a round of the catalog to one call of the engine, for any
engine; `InMemory.multiSearch_apply` says what that call does in memory: it takes the oldest queued
answer and records the round, and changes nothing else.
-/

namespace CatalogSearch

namespace InMemory

/-- The answer to the next round: the oldest queued one, or else that nothing matches. -/
def nextAnswer (state : InMemory) (calls : List SearchCall) : Except String (List Item) :=
  state.replies.head?.getD (.ok (calls.map fun _ => reply 0 []))

/-- The state after a round. -/
def afterRound (state : InMemory) (calls : List SearchCall) : InMemory :=
  { state with searches := state.searches ++ [calls], replies := state.replies.tail }

/-- A round is recorded behind the earlier ones. -/
@[simp] theorem afterRound_searches (state : InMemory) (calls : List SearchCall) :
    (state.afterRound calls).searches = state.searches ++ [calls] := rfl

/-- A round records no update. -/
@[simp] theorem afterRound_updates (state : InMemory) (calls : List SearchCall) :
    (state.afterRound calls).updates = state.updates := rfl

/-- A round does not decide whether updates fail. -/
@[simp] theorem afterRound_updateFailure (state : InMemory) (calls : List SearchCall) :
    (state.afterRound calls).updateFailure = state.updateFailure := rfl

/-- A round is answered from the queue and recorded. -/
theorem multiSearch_apply (calls : List SearchCall) (state : InMemory) :
    engine.multiSearch calls state = (lift (state.nextAnswer calls), state.afterRound calls) := by
  obtain ⟨ping, clusterHealth, replies, updateFailure, searches, updates⟩ := state
  cases replies with
  | nil => rfl
  | cons answer rest => rfl

/-- An update is recorded unless updates fail, and then nothing changes. -/
theorem updateDocument_apply (index id : String) (body : Json) (state : InMemory) :
    engine.updateDocument index id body state =
      match state.updateFailure with
      | some reason => (.error (.stated reason), state)
      | none => (.ok (), { state with updates := state.updates ++ [⟨index, id, body⟩] }) := rfl

end InMemory

/-- The catalog of a session works on the engine in memory. -/
@[simp] theorem Session.catalog_engine (config : CatalogConfig) :
    (Session.catalog config).engine = InMemory.engine := rfl

namespace Catalog

variable {σ : Type}

/-- A program after another one runs in the state that the first one leaves. -/
theorem bind_apply {α β : Type} (first : StateM σ α) (next : α → StateM σ β) (state : σ) :
    (first >>= next) state = next (first state).1 (first state).2 := rfl

/-- A program that only returns a value leaves the state alone. -/
theorem pure_apply {α : Type} (value : α) (state : σ) :
    (pure value : StateM σ α) state = (value, state) := rfl

/-- The outcomes of a round for some kinds: its items in the order of the kinds, and none if it
failed as a whole. -/
def paired {ε : Type} (kinds : List ResourceKind) :
    Except ε (List Item) → List (ResourceKind × Item)
  | .ok items => kinds.zip items
  | .error _ => []

/-- The outcomes of a round do not depend on why it failed. -/
@[simp] theorem paired_lift (kinds : List ResourceKind) (answer : Except String (List Item)) :
    paired kinds (InMemory.lift answer) = paired kinds answer := by
  cases answer <;> rfl

/-- Running some queries is one call of the engine. -/
theorem execute_apply (catalog : Catalog σ) {queries : OrderedMap ResourceKind Query}
    (h : queries.entries ≠ []) (pageIndex size : UInt64) (state : σ) :
    catalog.execute queries pageIndex size state =
      let answer := catalog.engine.multiSearch (catalog.calls queries pageIndex size) state
      (paired queries.keys answer.1, answer.2) := by
  have hne : ¬ queries.entries.isEmpty = true := by simpa using h
  rw [execute, if_neg hne, bind_apply]
  generalize catalog.engine.multiSearch (catalog.calls queries pageIndex size) state = answer
  obtain ⟨items, after⟩ := answer
  cases items <;> rfl

end Catalog

end CatalogSearch
