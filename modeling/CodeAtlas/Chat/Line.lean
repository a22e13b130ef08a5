import CodeAtlas.Assistant.Model
import CodeAtlas.Chat.Intent
import CodeAtlas.Json.Writer

/-! A chat answer is a stream of lines, each a JSON object: a first line about the
answer, then its text in pieces; or a single line that declines. -/

namespace CodeAtlas.Chat

/-- A question, perhaps about one project. -/
structure Question where
  prompt : String
  project : Option String
  deriving Repr, DecidableEq

/-- Code that was found for a question. -/
structure RetrievedFile where
  path : String
  content : String
  relevance : Float
  deriving Repr

structure Edge where
  source : String
  target : String
  deriving Repr, DecidableEq

/-- Names of code and the links between them, to be drawn. -/
structure DependencyGraph where
  nodes : List String
  edges : List Edge
  description : String
  deriving Repr, DecidableEq

inductive Line where
  | metadata (intent : Intent) (files : Option (List RetrievedFile))
      (graph : Option DependencyGraph)
  | content (text : String)
  deriving Repr

def RetrievedFile.toJson (f : RetrievedFile) : Json :=
  .object [("path", .string f.path), ("content", .string f.content),
    ("relevance", .float f.relevance)]

def Edge.toJson (e : Edge) : Json :=
  .object [("from", .string e.source), ("to", .string e.target)]

def DependencyGraph.toJson (g : DependencyGraph) : Json :=
  .object [("nodes", .ofStrings g.nodes), ("edges", .array (g.edges.map Edge.toJson)),
    ("description", .string g.description)]

def Line.toJson : Line → Json
  | .metadata intent files graph =>
    .object [("type", .string "metadata"), ("intent", .string intent.name),
      ("retrievedFiles", .ofOption (files.map fun fs => .array (fs.map RetrievedFile.toJson))),
      ("dependencyGraph", .ofOption (graph.map DependencyGraph.toJson))]
  | .content text => .object [("type", .string "content"), ("content", .string text)]

/-- A line as it is sent. -/
def Line.text (l : Line) : String :=
  l.toJson.write ++ "\n"

def emit (l : Line) : Dialogue Unit :=
  Dialogue.request (.emit l.text)

/-- Decline to answer. -/
def refuse : Dialogue Unit :=
  emit (.content "Sorry, I can't answer that question")

/-- Send the model's answer piece by piece. -/
def emitAnswer (question instructions : String) : Dialogue Unit := do
  let texts ← Assistant.streamAnswer question instructions
  Dialogue.forEach texts fun t => emit (.content t)

end CodeAtlas.Chat
