import CatalogSearch.Health
import CatalogSearch.Service.Search

/-!
# The health of the catalog

The catalog is healthy when its engine answers a probe and reports a cluster state that serves. An
engine that cannot be reached is a failed check, not an error.
-/

namespace CatalogSearch

namespace Health

/-- The name of the check of the engine. -/
def connectionName : String := "ElasticsearchSearchProxy:connection"

/-- The report on an engine that cannot be reached. -/
def unreachable : Health :=
  .single .fail connectionName (.object [("status", .text "Unable to connect")])

/-- The report on a cluster, from the payload in which it tells its state. A state that is not
known is a failure. -/
def ofCluster (payload : Json) : Health :=
  let state := ((payload.member? "status").bind Json.text?).bind ClusterStatus.ofName?
  .single (state.elim .fail ClusterStatus.health) connectionName payload

end Health

namespace Catalog

variable {σ : Type}

/-- The cluster's payload, or nothing if the engine does not answer the probe. -/
def connection (catalog : Catalog σ) : StateM σ (Except InternalError (Option Json)) := do
  match ← catalog.engine.ping with
  | .error error => pure (.error error)
  | .ok false => pure (.ok none)
  | .ok true =>
    match ← catalog.engine.clusterHealth with
    | .error error => pure (.error error)
    | .ok payload => pure (.ok (some payload))

/-- The report on the engine. -/
def health (catalog : Catalog σ) : StateM σ Health := do
  match ← catalog.connection with
  | .ok (some payload) => pure (.ofCluster payload)
  | .ok none => pure .unreachable
  | .error _ => pure .unreachable

end Catalog

end CatalogSearch
