import CatalogSearch.Json.Record

/-!
# Health

The report on the dependencies of the catalog: whether all is well, and a payload for each
dependency that was checked.
-/

namespace CatalogSearch

/-- Whether all is well. -/
inductive HealthStatus where
  | ok
  | fail
deriving DecidableEq

namespace HealthStatus

/-- The name of a status. -/
def name : HealthStatus → String
  | .ok => "ok"
  | .fail => "fail"

/-- The status with exactly this name. -/
def ofName? (text : String) : Option HealthStatus :=
  [HealthStatus.ok, HealthStatus.fail].find? fun status => status.name = text

/-- A status as JSON: its name. -/
def toJson (status : HealthStatus) : Json := .text status.name

/-- Read a status, as one of the names of the closed set. -/
def ofJson? (value : Json) : Option HealthStatus := value.name?.bind ofName?

end HealthStatus

/-- The report on all dependencies. -/
structure Health where
  status : HealthStatus
  checks : OrderedMap String Json

namespace Health

/-- The report on a single dependency. -/
def single (status : HealthStatus) (name : String) (details : Json) : Health :=
  ⟨status, .ofList [(name, details)]⟩

/-- A report as JSON. -/
def toJson (health : Health) : Json :=
  .object [("checks", .object health.checks.entries), ("status", health.status.toJson)]

/-- Read a report. -/
def ofJson? (value : Json) : Option Health := do
  let [status, checks] ← value.slots? ["status", "checks"] | none
  pure
    { status := ← status.required? HealthStatus.ofJson?
      checks := .ofList (← checks.required? (Json.members? some)) }

end Health

/-- The state of an engine's cluster: healthy, degraded, or unavailable. -/
inductive ClusterStatus where
  | green
  | yellow
  | red
deriving DecidableEq

namespace ClusterStatus

/-- The name of a cluster state. -/
def name : ClusterStatus → String
  | .green => "green"
  | .yellow => "yellow"
  | .red => "red"

/-- The cluster state with exactly this name. -/
def ofName? (text : String) : Option ClusterStatus :=
  [ClusterStatus.green, ClusterStatus.yellow, ClusterStatus.red].find? fun status =>
    status.name = text

/-- A degraded cluster still serves. -/
def health : ClusterStatus → HealthStatus
  | .green => .ok
  | .yellow => .ok
  | .red => .fail

end ClusterStatus

end CatalogSearch
