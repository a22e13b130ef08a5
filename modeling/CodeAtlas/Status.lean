import CodeAtlas.Assistant.Model
import CodeAtlas.Graph.Catalogue

/-! Whether everything that the service needs is there, and which projects it
knows. -/

namespace CodeAtlas

/-- The state of a part: connected, or what is wrong. -/
inductive Health where
  | connected
  | faulty (text : String)
  deriving Repr, DecidableEq

namespace Health

def text : Health → String
  | .connected => "connected"
  | .faulty why => "error: " ++ why

def isConnected : Health → Bool
  | .connected => true
  | .faulty _ => false

/-- The state by a check that fails with a text. -/
def ofCheck : Except String Unit → Health
  | .ok () => .connected
  | .error why => .faulty why

/-- The state of the language model by the models that are installed. -/
def ofModels : Except String (List String) → Health
  | .ok names =>
    if names.contains Assistant.modelName then .connected
    else .faulty ("model '" ++ Assistant.modelName ++ "' not found")
  | .error why => .faulty why

end Health

structure Status where
  vectors : Health
  graph : Health
  model : Health
  deriving Repr, DecidableEq

namespace Status

/-- The number of parts that are connected. -/
def connectedCount (s : Status) : Nat :=
  ([s.vectors, s.graph, s.model].filter Health.isConnected).length

/-- All parts make it well, some make it degraded, none is an error. -/
def overall (s : Status) : String :=
  if s.connectedCount = 0 then "error" else if s.connectedCount < 3 then "degraded" else "ok"

def toJson (s : Status) : Json :=
  .object [("status", .string s.overall), ("vector_db", .string s.vectors.text),
    ("graph_db", .string s.graph.text), ("llm", .string s.model.text)]

end Status

/-- The projects with their number; a failure is told in their place. -/
def projectListing : Dialogue Json := do
  match ← Graph.listProjects.attempt with
  | .ok projects =>
    pure (.object [("projects", .array (projects.map Json.object)),
      ("count", .nat projects.length)])
  | .error e =>
    pure (.object [("error", .string e.message), ("projects", .array []), ("count", .int 0)])

end CodeAtlas
