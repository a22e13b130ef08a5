import CodeAtlas.Graph.Operation
import CodeAtlas.Json.Shown
import CodeAtlas.Text.Blank

/-! Questions and changes that are put to the graph database, and how each one is
written in the database's query language, on one line and with its parameters
apart. Parameters are values of any kind; the database is the one to judge them. -/

namespace CodeAtlas.Graph

/-- A piece of code as the database keeps it. -/
structure CodeRecord where
  id : String
  name : String
  kind : String
  type : String
  language : String
  path : String
  project : String
  startLine : Int
  endLine : Int
  summary : String
  defined : List String
  used : List String
  hash : String
  deriving Repr, DecidableEq

/-- The properties of a record besides its fingerprint, under the names of their parameters. -/
def CodeRecord.fields (r : CodeRecord) : Fields :=
  [("node_id", .string r.id), ("node_name", .string r.name), ("node_kind", .string r.kind),
    ("node_type", .string r.type), ("language", .string r.language), ("file_path", .string r.path),
    ("project", .string r.project), ("start_line", .int r.startLine), ("end_line", .int r.endLine),
    ("summary", .string r.summary), ("symbols_defined", .ofStrings r.defined),
    ("symbols_used", .ofStrings r.used)]

/-- The statements that set up the database. -/
inductive SchemaStep where
  | uniqueId
  | idIndex
  | nameIndex
  | projectIndex
  | symbolIndex
  deriving Repr, DecidableEq

inductive Query where
  | schema (step : SchemaStep)
  /-- Create or update a node, with a fingerprint unless that is empty. -/
  | upsertNode (props : Fields) (hash : Json)
  | upsertProject (name : Json)
  | node (id : Json)
  | projectNodes (project : Json)
  | projectExists (name : Json)
  | projects
  /-- Projects with their numbers of files and definitions. -/
  | overview
  | resolveSymbol (symbol project limit : Json)
  | link (source target relation props : Json)
  | linkProject (project node relation props : Json)
  | linkBatch (links : Json)
  | nodesByName (name project limit : Json)
  | traverse (node : Json) (operation : Operation) (depth : Json)
  /-- Methods of a class, or without a class the functions outside classes. -/
  | methods (cls project : Json)
  | classOfMethod (method project : Json)
  | methodNode (method project : Json)
  | calledFromOutside (cls method : Json)
  | collaborators (cls : Json)
  | dependenciesOf (cls method : Json)
  /-- Any other statement. -/
  | other (text : String) (params : Fields)
  deriving Repr

namespace Query

/-- The clause that sets a link's properties, if it has any. -/
def propsClause (props : Json) : String :=
  if props.truthy then " SET r += $props" else ""

/-- A link's properties; those that are empty are none. -/
def propsParam (props : Json) : String × Json :=
  ("props", if props.truthy then props else .object [])

def schemaText : SchemaStep → String
  | .uniqueId =>
    "CREATE CONSTRAINT code_node_id_unique IF NOT EXISTS FOR (n:CodeNode) " ++
      "REQUIRE n.node_id IS UNIQUE"
  | .idIndex => "CREATE INDEX code_node_id IF NOT EXISTS FOR (n:CodeNode) ON (n.node_id)"
  | .nameIndex => "CREATE INDEX code_node_name IF NOT EXISTS FOR (n:CodeNode) ON (n.node_name)"
  | .projectIndex => "CREATE INDEX code_node_project IF NOT EXISTS FOR (n:CodeNode) ON (n.project)"
  | .symbolIndex =>
    "CREATE INDEX code_node_symbols_defined IF NOT EXISTS FOR (n:CodeNode) ON (n.symbols_defined)"

/-- The arrow of a traversal: links are followed against their direction to find
callers. -/
def arrow (operation : Operation) (depth : Json) : String :=
  let links := "[:SEMANTIC_LINK*1.." ++ depth.shown ++ "]"
  if operation = .calledBy then "<-" ++ links ++ "-" else "-" ++ links ++ "->"

/-- The statement as written, before runs of blanks are made one. -/
def rawText : Query → String
  | .schema step => schemaText step
  | .upsertNode _ hash =>
    "MERGE (n:CodeNode \x7bnode_id: $node_id\x7d) SET n.node_name = $node_name, " ++
      "n.node_kind = $node_kind, n.node_type = $node_type, n.language = $language, " ++
      "n.file_path = $file_path, n.project = $project, n.start_line = $start_line, " ++
      "n.end_line = $end_line, n.summary = $summary, n.symbols_defined = $symbols_defined, " ++
      "n.symbols_used = $symbols_used" ++
      (if hash.truthy then " SET n.node_hash = $node_hash" else "")
  | .upsertProject _ => "MERGE (p:Project \x7bname: $name\x7d)"
  | .node _ => "MATCH (n:CodeNode \x7bnode_id: $node_id\x7d) RETURN n"
  | .projectNodes _ => "MATCH (n:CodeNode) WHERE n.project = $project RETURN n"
  | .projectExists _ => "MATCH (p:Project \x7bname: $name\x7d) RETURN count(p) > 0 AS exists"
  | .projects =>
    "MATCH (p:Project) OPTIONAL MATCH (n:CodeNode \x7bproject: p.name\x7d) " ++
      "WITH p.name AS name, COUNT(n) AS node_count RETURN name, node_count ORDER BY name"
  | .overview =>
    "MATCH (p:Project) OPTIONAL MATCH (p)-[:CONTAINS]->(f:File) " ++
      "OPTIONAL MATCH (f)-[:CONTAINS]->(n) " ++
      "WHERE n.node_type IN ['function', 'method', 'class', 'interface'] " ++
      "RETURN p.name as project, COUNT(DISTINCT f) as file_count, " ++
      "COUNT(DISTINCT n) as node_count ORDER BY p.name"
  | .resolveSymbol _ _ _ =>
    "MATCH (n:CodeNode) WHERE n.project = $project AND $symbol IN n.symbols_defined " ++
      "RETURN n LIMIT $limit"
  | .link _ _ relation props =>
    "MATCH (a:CodeNode \x7bnode_id: $from\x7d) MATCH (b:CodeNode \x7bnode_id: $to\x7d) " ++
      "MERGE (a)-[r:" ++ relation.shown ++ "]->(b)" ++ propsClause props
  | .linkProject _ _ relation props =>
    "MATCH (p:Project \x7bname: $project\x7d) MATCH (n:CodeNode \x7bnode_id: $node\x7d) " ++
      "MERGE (p)-[r:" ++ relation.shown ++ "]->(n)" ++ propsClause props
  | .linkBatch _ =>
    "UNWIND $links AS link MATCH (a:CodeNode \x7bnode_id: link.from\x7d) " ++
      "MATCH (b:CodeNode \x7bnode_id: link.to\x7d) WHERE a <> b " ++
      "MERGE (a)-[r:SEMANTIC_LINK \x7btype: link.type\x7d]->(b) SET r += link.props"
  | .nodesByName _ _ _ =>
    "MATCH (n:CodeNode) WHERE n.project = $project " ++
      "AND ( n.node_name = $name OR n.node_id ENDS WITH $name ) RETURN n LIMIT $limit"
  | .traverse _ operation depth =>
    "MATCH path = (start:CodeNode \x7bnode_id: $node_id\x7d)" ++ arrow operation depth ++
      "(target) WHERE ALL(rel IN relationships(path) WHERE rel.type IN $types) " ++
      "RETURN DISTINCT target AS n"
  | .methods cls _ =>
    if cls.truthy then
      "MATCH (c:CodeNode \x7bnode_kind: 'class', node_name: $class_name, project: $project\x7d) " ++
        "OPTIONAL MATCH (c)-[:CONTAINS]->(m:CodeNode) " ++
        "WHERE m.node_kind IN ['method', 'function'] " ++
        "RETURN m.node_name AS method_name, c.node_name AS class_name, m.file_path AS file_path"
    else
      "MATCH (m:CodeNode) WHERE m.project = $project AND m.node_kind = 'function' " ++
        "AND NOT ( (:CodeNode \x7bnode_kind: 'class', project: $project\x7d)-[:CONTAINS]->(m) ) " ++
        "RETURN m.node_name AS method_name, NULL AS class_name, m.file_path AS file_path"
  | .classOfMethod _ _ =>
    "MATCH (c:CodeNode \x7bnode_kind: 'class', project: $project\x7d)-[:CONTAINS]->(m:CodeNode) " ++
      "WHERE m.node_name = $method_name AND m.node_kind IN ['method', 'function'] " ++
      "RETURN c.node_name AS class_name LIMIT 1"
  | .methodNode _ _ =>
    "MATCH (m:CodeNode) WHERE m.project = $project AND m.node_name = $method_name " ++
      "AND m.node_kind IN ['method', 'function'] " ++
      "OPTIONAL MATCH (c:CodeNode \x7bnode_kind: 'class', project: $project\x7d)" ++
      "-[:CONTAINS]->(m) RETURN m.node_name AS method_name, c.node_name AS class_name, " ++
      "m.file_path AS file_path LIMIT 1"
  | .calledFromOutside cls _ =>
    let (owner, outside) :=
      if cls.truthy then
        ("MATCH (c:CodeNode \x7bnode_kind: 'class', node_name: $class_name\x7d)" ++
          "-[:CONTAINS]->(m:CodeNode) ", " AND NOT (caller)-[:CONTAINS]->(m)")
      else ("MATCH (m:CodeNode \x7bnode_kind: 'function', node_name: $method_name\x7d) ", "")
    owner ++ "MATCH (caller)-[r:SEMANTIC_LINK]->(m) WHERE m.node_name = $method_name " ++
      "AND r.type = 'CALLS'" ++ outside ++ " RETURN COUNT(caller) > 0 AS called_externally"
  | .collaborators _ =>
    "MATCH (c:CodeNode \x7bnode_kind: 'class', node_name: $class_name\x7d)" ++
      "-[:CONTAINS]->(m:CodeNode) MATCH (m)-[r:SEMANTIC_LINK]->" ++
      "(other:CodeNode \x7bnode_kind: 'class'\x7d) " ++
      "WHERE r.type IN ['USES', 'CALLS'] RETURN COUNT(DISTINCT other) AS collaborator_count"
  | .dependenciesOf cls _ =>
    (if cls.truthy then
      "MATCH (c:CodeNode \x7bnode_kind: 'class', node_name: $class_name\x7d)" ++
        "-[:CONTAINS]->(m:CodeNode) WHERE m.node_name = $method_name " ++
        "AND m.node_kind IN ['method', 'function'] "
    else "MATCH (m:CodeNode \x7bnode_kind: 'function', node_name: $method_name\x7d) ") ++
      "MATCH (m)-[r:SEMANTIC_LINK]->(dep:CodeNode) WHERE r.type IN ['USES', 'CALLS'] " ++
      "RETURN DISTINCT dep.node_name AS dependency"
  | .other text _ => text

/-- The statement on one line. -/
def text (q : Query) : String :=
  Text.collapse q.rawText

/-- Parameters for a class, if there is one, and a method. -/
def memberParams (cls method : Json) : Fields :=
  if cls.truthy then [("class_name", cls), ("method_name", method)] else [("method_name", method)]

def params : Query → Fields
  | .schema _ | .projects | .overview => []
  | .upsertNode props hash => props ++ (if hash.truthy then [("node_hash", hash)] else [])
  | .upsertProject name | .projectExists name => [("name", name)]
  | .node id => [("node_id", id)]
  | .projectNodes project => [("project", project)]
  | .resolveSymbol symbol project limit =>
    [("symbol", symbol), ("project", project), ("limit", limit)]
  | .link source target _ props => [("from", source), ("to", target), propsParam props]
  | .linkProject project target _ props =>
    [("project", project), ("node", target), propsParam props]
  | .linkBatch links => [("links", links)]
  | .nodesByName name project limit => [("name", name), ("project", project), ("limit", limit)]
  | .traverse start operation _ => [("node_id", start), ("types", .ofStrings operation.linkTypes)]
  | .methods cls project =>
    ("project", project) :: (if cls.truthy then [("class_name", cls)] else [])
  | .classOfMethod method project | .methodNode method project =>
    [("project", project), ("method_name", method)]
  | .calledFromOutside cls method | .dependenciesOf cls method => memberParams cls method
  | .collaborators cls => [("class_name", cls)]
  | .other _ params => params

end Query

end CodeAtlas.Graph
