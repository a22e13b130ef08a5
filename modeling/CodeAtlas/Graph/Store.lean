import CodeAtlas.Graph.Query

/-! A graph database in memory. It keeps code records under their ids, in the order
in which they were created, and the names of projects. Ids and names are texts; what goes by
anything else is accepted and not kept, and neither are links. -/

namespace CodeAtlas.Graph

structure Store where
  nodes : List (String × Fields)
  projects : List String
  deriving Repr

namespace Store

def empty : Store := ⟨[], []⟩

/-- The properties of a node. -/
def get? (s : Store) (id : String) : Option Fields :=
  s.nodes.lookup id

/-- Create a node, or set the given properties of one that is there. -/
def upsert (s : Store) (id : String) (props : Fields) : Store :=
  match s.get? id with
  | some _ =>
    { s with nodes := s.nodes.map fun e => if e.1 == id then (id, e.2.merge props) else e }
  | none => { s with nodes := s.nodes ++ [(id, Fields.merge [] props)] }

def addProject (s : Store) (name : String) : Store :=
  if s.projects.contains name then s else { s with projects := s.projects ++ [name] }

/-- The nodes of a project, oldest first. -/
def nodesOf (s : Store) (project : Json) : List Fields :=
  (s.nodes.map (·.2)).filter fun n => (n.getOrNull "project").same project

/-- A record with one value in it. -/
def record (name : String) (value : Json) : Fields := [(name, value)]

/-- Projects by name, with the number of their nodes. -/
def projectCounts (s : Store) : List Fields :=
  (s.projects.mergeSort fun a b => decide (a ≤ b)).map fun p =>
    [("name", .string p), ("node_count", .nat (s.nodesOf (.string p)).length)]

/-- Carry a statement out: the records that it gives and the store afterwards. -/
def answer (s : Store) : Query → List Fields × Store
  | .upsertNode props hash =>
    match props.get? "node_id" with
    | some (.string id) => ([], s.upsert id (Query.upsertNode props hash).params)
    | _ => ([], s)
  | .upsertProject name => ([], (name.string?.map s.addProject).getD s)
  | .node id => (((id.string?.bind s.get?).map fun n => record "n" (.object n)).toList, s)
  | .projectNodes project => ((s.nodesOf project).map fun n => record "n" (.object n), s)
  | .projectExists name => ([record "exists" (.bool (name.string?.any s.projects.contains))], s)
  | .projects => (s.projectCounts, s)
  | _ => ([], s)

end Store

end CodeAtlas.Graph
