import CodeAtlas.Assistant.Model
import CodeAtlas.Embedding
import CodeAtlas.Rehearsal.Stage

/-! Logs of rehearsals in JSON, by what was talked to. -/

namespace CodeAtlas.Rehearsal

/-- A name for long instructions, under which they are logged. -/
abbrev Naming := List (String × String)

def Naming.label (names : Naming) (content : String) : String :=
  ((names.find? (·.2 == content)).map (·.1)).getD content

def graphItem? : Event → Option Json
  | .query text params => some (.array [.string text, .object params])
  | _ => none

def modelItem? (names : Naming) : Event → Option Json
  | .chat stream messages =>
    some (.object [("call", .string "chat"), ("model", .string Assistant.modelName),
      ("stream", .bool stream),
      ("messages", .array (messages.map fun m => .ofStrings [m.role, names.label m.content]))])
  | .generate prompt =>
    some (.object [("call", .string "generate"), ("model", .string Assistant.modelName),
      ("prompt", .string prompt)])
  | _ => none

def vectorItem? : Event → Option Json
  | .opened c =>
    some (.object [("call", .string "collection"), ("name", .string c.name),
      ("metadata", .object [("description", .string c.description)]),
      ("embedding", .string Embedding.name)])
  | .added c texts abouts ids =>
    some (.object [("call", .string "add"), ("collection", .string c.name), ("documents", texts),
      ("metadatas", abouts), ("ids", ids)])
  | .searched c vector count filter =>
    some (.object [("call", .string "query"), ("collection", .string c.name),
      ("embeddings", .array [.array (vector.map Json.nat)]), ("texts", .null),
      ("n_results", count), ("where", filter)])
  | _ => none

def shownJson : Shown → Json
  | .line text => .ofStrings ["print", text]
  | .blank => .ofStrings ["print"]
  | .task n text => .array [.string "task", .nat n, .string text]
  | .progress n text => .array [.string "update", .nat n, .string text]
  | .table title columns rows =>
    .array [.string "table", .string title,
      .array (columns.map fun (name, style, noWrap) =>
        .array [.string name, .string style, .bool noWrap]),
      .array (rows.map .ofStrings)]

def screenItem? : Event → Option Json
  | .displayed item => some (shownJson item)
  | _ => none

def chunkItem? : Event → Option Json
  | .emitted line => some (.string line)
  | _ => none

def cloneItem? : Event → Option Json
  | .cloned url folder => some (.ofStrings ["git", "clone", "--depth=1", url, folder])
  | _ => none

def entries (f : Event → Option Json) (log : List Event) : Json :=
  .array (log.filterMap f)

/-- Lines as they come out. -/
def printedText (lines : List String) : String :=
  String.join (lines.map (· ++ "\n"))

def saidLine? : Event → Option String
  | .said line => some line
  | _ => none

def printed (log : List Event) : Json :=
  .string (printedText (log.filterMap saidLine?))

/-- The logs of both databases and the model. -/
def callLogs (names : Naming) (log : List Event) : Fields :=
  [("db", entries graphItem? log), ("llm", entries (modelItem? names) log),
    ("vec", entries vectorItem? log)]

end CodeAtlas.Rehearsal
