import CodeAtlas.Dialogue
import CodeAtlas.Json.Mapping

/-! Talking to the graph database: changes that are made to it, and look-ups with
what they give back. -/

namespace CodeAtlas.Graph

/-- Carry out a statement whose records do not matter. -/
def execute (q : Query) : Dialogue Unit := do
  let _ ← Dialogue.request (.graph q)

def records (q : Query) : Dialogue (List Fields) :=
  Dialogue.request (.graph q)

/-- The first record, if there is one with anything in it. -/
def firstRecord (q : Query) : Dialogue (Option Fields) := do
  let rs : List Fields ← records q
  pure (rs.head?.filter fun r => !r.isEmpty)

/-- A field that has to be there. -/
def need (r : Fields) (key : String) : Except Failure Json :=
  match r.get? key with
  | some v => .ok v
  | none => .error (.missingKey (.string key))

/-- The node in a record. -/
def nodeIn (r : Fields) : Except Failure Fields := do
  (← need r "n").mapping

/-- The nodes in a list of records. -/
def nodesIn (rs : List Fields) : Except Failure (List Fields) :=
  rs.mapM nodeIn

/-! ### Changes -/

/-- The statements that prepare an empty database. -/
def prepare : Dialogue Unit :=
  Dialogue.forEach [.uniqueId, .idIndex, .nameIndex, .projectIndex, .symbolIndex] fun step =>
    execute (.schema step)

/-- Create or update a record. -/
def upsertNode (r : CodeRecord) : Dialogue Unit :=
  execute (.upsertNode r.fields (.string r.hash))

def upsertProject (name : Json) : Dialogue Unit :=
  execute (.upsertProject name)

def link (source target relation props : Json) : Dialogue Unit :=
  execute (.link source target relation props)

def linkProject (project target relation props : Json) : Dialogue Unit :=
  execute (.linkProject project target relation props)

def linkBatch (links : Json) : Dialogue Unit :=
  execute (.linkBatch links)

/-! ### Look-ups -/

def getNode (id : Json) : Dialogue (Option Fields) := do
  match ← firstRecord (.node id) with
  | none => pure none
  | some r => some <$> (nodeIn r : Except Failure Fields)

def nodesByProject (project : Json) : Dialogue (List Fields) := do
  let rs ← records (.projectNodes project)
  nodesIn rs

/-- Whether a project is known, as the database says it. -/
def projectExists (name : Json) : Dialogue Json := do
  match ← firstRecord (.projectExists name) with
  | none => .fail (.wrongType "'NoneType' object is not subscriptable")
  | some r => need r "exists"

/-- All projects with the number of their nodes. -/
def listProjects : Dialogue (List Fields) := do
  let rs ← records .projects
  (rs.mapM fun r => do
    let name ← need r "name"
    let count ← need r "node_count"
    pure [("name", name), ("node_count", count)] : Except Failure (List Fields))

def resolveSymbol (symbol project limit : Json) : Dialogue (List Fields) := do
  let rs ← records (.resolveSymbol symbol project limit)
  nodesIn rs

def nodesByName (name project limit : Json) : Dialogue (List Fields) := do
  let rs ← records (.nodesByName name project limit)
  nodesIn rs

/-- Nodes that an operation leads to. -/
def traverse (start : Json) (operation : Operation) (depth : Json) : Dialogue (List Fields) := do
  let rs ← records (.traverse start operation depth)
  nodesIn rs

/-- Follow an operation given by its name; any other value is refused. -/
def traverseNamed (start operation depth : Json) : Dialogue (List Fields) :=
  match operation.string?.bind Operation.ofName?, operation.asKey with
  | some op, _ => traverse start op depth
  | none, .ok v => .fail (.badValue v.shown)
  | none, .error e => .fail e

/-- Methods of a class; without a class, functions outside classes. -/
def listMethods (cls project : Json) : Dialogue (List Fields) := do
  let rs : List Fields ← records (.methods cls project)
  pure (rs.filter fun r => (r.getOrNull "method_name").truthy)

/-- The class that a method belongs to, or null. -/
def classOfMethod (method project : Json) : Dialogue Json := do
  match ← firstRecord (.classOfMethod method project) with
  | none => pure .null
  | some r => need r "class_name"

def methodNode (method project : Json) : Dialogue (Option Fields) :=
  firstRecord (.methodNode method project)

def calledFromOutside (cls method : Json) : Dialogue Json := do
  match ← firstRecord (.calledFromOutside cls method) with
  | none => pure (.bool false)
  | some r => need r "called_externally"

def collaboratorCount (cls : Json) : Dialogue Json := do
  match ← firstRecord (.collaborators cls) with
  | none => pure (.int 0)
  | some r => need r "collaborator_count"

def dependenciesOf (cls method : Json) : Dialogue (List Json) := do
  let rs ← records (.dependenciesOf cls method)
  (rs.mapM (need · "dependency") : Except Failure (List Json))

end CodeAtlas.Graph
