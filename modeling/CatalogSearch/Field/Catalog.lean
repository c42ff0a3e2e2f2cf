import CatalogSearch.Field.Table
import CatalogSearch.Resource

/-!
# The field tables of the catalog

The bindings for each kind of resource. Tables, dashboards and features share a common layer;
users do not.
-/

namespace CatalogSearch.FieldTable

/-- The document field that holds the unique key of a resource. -/
def keyField : String := "key"

/-- The document field in which a document declares its kind. -/
def kindField : String := "resource_type"

/-- The bindings that tables, dashboards and features share. -/
def commonLayer : List (String × String) :=
  [("key", "key"), ("description", "description"), ("resource_type", "resource_type")]

/-- The bindings of tables. -/
def tableLayer : List (String × String) :=
  [("badges", "badges.keyword"),
   ("tag", "tags.keyword"),
   ("schema", "schema.keyword"),
   ("table", "name.keyword"),
   ("column", "columns.keyword"),
   ("database", "database.keyword"),
   ("cluster", "cluster.keyword")]

/-- The bindings of dashboards. -/
def dashboardLayer : List (String × String) :=
  [("url", "url"),
   ("uri", "uri"),
   ("last_successful_run_timestamp", "last_successful_run_timestamp"),
   ("group_name", "group_name.keyword"),
   ("chart_names", "chart_names.keyword"),
   ("query_names", "query_names.keyword"),
   ("name", "name.keyword"),
   ("tag", "tags.keyword")]

/-- The bindings of features. -/
def featureLayer : List (String × String) :=
  [("version", "version"),
   ("availability", "availability"),
   ("feature_group", "feature_group.keyword"),
   ("feature_name", "name.keyword"),
   ("entity", "entity.keyword"),
   ("status", "status.keyword"),
   ("tags", "tags.keyword"),
   ("badges", "badges.keyword")]

/-- The bindings of users. -/
def userLayer : List (String × String) :=
  [("full_name", "name.keyword"),
   ("email", "key"),
   ("first_name", "first_name"),
   ("last_name", "last_name"),
   ("resource_type", "resource_type")]

/-- The field table of a kind. -/
def ofKind : ResourceKind → FieldTable
  | .table => ofLayers [commonLayer, tableLayer]
  | .dashboard => ofLayers [commonLayer, dashboardLayer]
  | .feature => ofLayers [commonLayer, featureLayer]
  | .user => ofLayers [userLayer]

end CatalogSearch.FieldTable
