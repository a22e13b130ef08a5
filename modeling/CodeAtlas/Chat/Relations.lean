import CodeAtlas.Assistant.Extraction
import CodeAtlas.Chat.Line
import CodeAtlas.Graph.Catalogue

/-! Answers from the code graph. The question names symbols and an operation; the
nodes of those names are looked up, the operation is followed from each, and the
model answers from what was found. -/

namespace CodeAtlas.Chat

/-- Links drawn from one node. -/
def maxEdges : Nat := 5

/-- Steps that are followed. -/
def maxSteps : Int := 10

/-- Nodes looked up for one name. -/
def maxNodes : Int := 3

/-! ### The drawn graph -/

/-- A list without repetitions; the first of equal items stays. -/
def distinct {α : Type} [DecidableEq α] (xs : List α) : List α :=
  xs.foldl (fun seen x => if x ∈ seen then seen else seen ++ [x]) []

/-- Names in order, each once. -/
def sortedNames (names : List String) : List String :=
  (distinct names).mergeSort fun a b => decide (a ≤ b)

/-- The graph of names with the names related to each. -/
def DependencyGraph.ofRelated (operation : Graph.Operation)
    (related : List (String × List String)) : DependencyGraph where
  nodes := sortedNames (related.flatMap fun r => r.1 :: r.2)
  edges := distinct (related.flatMap fun r => r.2.map fun t => ⟨r.1, t⟩)
  description := operation.title ++ " relationships"

/-! ### Descriptions for the model -/

/-- A field as text. -/
def fieldText (r : Fields) (key : String) : Except Failure String :=
  (Graph.need r key).map Json.shown

/-- A related node on one line. -/
def relatedLine (r : Fields) : Except Failure String := do
  let name ← fieldText r "node_name"
  let type ← fieldText r "node_type"
  let path ← fieldText r "file_path"
  let line ← fieldText r "start_line"
  pure ("- " ++ name ++ " (" ++ type ++ ") in " ++ path ++ ":" ++ line)

/-- A node with everything that is related to it. -/
def describeNode (node : Fields) (related : List Fields) (operation : Graph.Operation) :
    Except Failure String := do
  let name ← fieldText node "node_name"
  let type ← fieldText node "node_type"
  let path ← fieldText node "file_path"
  let line ← fieldText node "start_line"
  let head := ["Symbol: " ++ name ++ " (" ++ type ++ ")", "Defined in: " ++ path ++ ":" ++ line]
  if related.isEmpty then pure ("\n".intercalate (head ++ ["\nNo related nodes found."]))
  else
    let lines ← related.mapM relatedLine
    pure ("\n".intercalate (head ++ ["\n" ++ operation.title ++ ":"] ++ lines))

/-! ### Following an operation -/

/-- A name can be kept in a set: lists and objects cannot. -/
def hashable : Json → Except Failure Unit
  | .array _ => .error (.wrongType "unhashable type: 'list'")
  | .object _ => .error (.wrongType "unhashable type: 'dict'")
  | _ => .ok ()

/-- The name of a node, of any type. -/
def nodeName (r : Fields) : Except Failure Json := do
  let name ← Graph.need r "node_name"
  hashable name
  pure name

/-- The end of a link; both ends are texts. -/
def edgeEnd (source : Json) (r : Fields) : Except Failure String := do
  match source, ← nodeName r with
  | .string _, .string t => pure t
  | _, _ => .error .invalidData

/-- What was found for one node. -/
structure Finding where
  name : Json
  related : List String
  description : String

/-- The links to draw and the description of a node, given all that is related. -/
def finding (node : Fields) (name : Json) (related : List Fields) (operation : Graph.Operation) :
    Except Failure Finding := do
  let drawn ← (related.take maxEdges).mapM (edgeEnd name)
  let description ← describeNode node related operation
  pure ⟨name, drawn, description⟩

/-- Follow the operation from one node. -/
def follow (operation : Graph.Operation) (node : Fields) : Dialogue Finding := do
  let name ← (nodeName node : Except Failure Json)
  let id ← (Graph.need node "node_id" : Except Failure Json)
  let related ← Graph.traverse id operation (.int maxSteps)
  (finding node name related operation : Except Failure Finding)

/-- All names have to be texts. Without that, names that can be sorted are no valid
data, and names that cannot are of the wrong type. -/
def textNames (names : List Json) : Except Failure (List String) :=
  match names.mapM Json.string? with
  | some texts => .ok texts
  | none =>
    if names.all (·.number?.isSome) || names.all (names.headD .null).same then .error .invalidData
    else .error (.wrongType "names of different types")

/-- The drawn graph of all findings. -/
def graphOf (operation : Graph.Operation) (findings : List Finding) :
    Except Failure DependencyGraph := do
  let _ ← textNames (findings.flatMap fun f => f.name :: f.related.map Json.string)
  pure (.ofRelated operation (findings.map fun f => (f.name.shown, f.related)))

/-- Follow the operation from every node: descriptions and the drawn graph. -/
def followAll (nodes : List Fields) (operation : Graph.Operation) :
    Dialogue (List String × DependencyGraph) := do
  let findings ← Dialogue.collect nodes (follow operation)
  let graph ← (graphOf operation findings : Except Failure DependencyGraph)
  pure (findings.map (·.description), graph)

/-- The nodes of all symbols. -/
def resolve (symbols : List String) (project : Option String) : Dialogue (List Fields) := do
  let found ← Dialogue.collect symbols fun s =>
    Graph.nodesByName (.string s) (.ofText? project) (.int maxNodes)
  pure found.flatten

/-- What the graph has to say about a question; nothing without a plan, without a
node, or without a link to draw. -/
def relations (q : Question) : Dialogue (Option (List String × DependencyGraph)) := do
  match ← Assistant.extractPlan q.prompt with
  | none => pure none
  | some plan =>
    let nodes ← resolve plan.symbols q.project
    if nodes.isEmpty then pure none
    else
      let (descriptions, graph) ← followAll nodes plan.operation
      pure (if graph.edges.isEmpty then none else some (descriptions, graph))

/-- The model's task with the descriptions in it. -/
def relationsPrompt (prompt : String) (descriptions : List String) : String :=
  "\nUser question:\n" ++ prompt ++ "\n\nCode information:\n" ++ "\n".intercalate descriptions ++
    "\n\nAnswer the user's question using the provided code information.\x20\n" ++
    "Do not mention the code or the fact that it was provided to you; " ++
    "just answer concisely and authoritatively.\n    "

/-- Answer from the graph; with nothing to say, decline. -/
def answerByRelations (q : Question) : Dialogue Unit := do
  match ← relations q with
  | none => refuse
  | some (descriptions, graph) =>
    emit (.metadata .graphReasoning none (some graph))
    emitAnswer (relationsPrompt q.prompt descriptions) Assistant.Prompts.general

/-- The answer in one piece with its graph, as part of a larger answer. -/
def relationsContext (q : Question) : Dialogue (Option (String × DependencyGraph)) := do
  match ← relations q with
  | none => pure none
  | some (descriptions, graph) =>
    let text ← Assistant.answer (relationsPrompt q.prompt descriptions) Assistant.Prompts.general
    pure (some (text, graph))

end CodeAtlas.Chat
