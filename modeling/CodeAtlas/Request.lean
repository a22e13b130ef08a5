import CodeAtlas.Failure
import CodeAtlas.Graph.Query
import CodeAtlas.Language
import CodeAtlas.Node

/-! What the analyses ask of the world outside: databases, the language model,
parsers, files, the clock, and the places where output goes. Every request says
what kind of answer belongs to it. -/

namespace CodeAtlas

/-- A message to the language model. -/
structure Message where
  role : String
  content : String
  deriving Repr, DecidableEq

/-- A text with its description, to be found again by meaning. -/
structure Document where
  id : String
  text : String
  about : Fields
  deriving Repr

/-- Texts, their descriptions and their ids, each in a column of its own. -/
structure Columns where
  texts : List String
  abouts : List Fields
  ids : List String
  deriving Repr

def Columns.empty : Columns := ⟨[], [], []⟩

/-- A document at the end of every column. -/
def Columns.push (c : Columns) (doc : Document) : Columns :=
  ⟨c.texts ++ [doc.text], c.abouts ++ [doc.about], c.ids ++ [doc.id]⟩

/-- The collections of the vector database. -/
inductive Collection where
  | code
  | docs
  deriving Repr, DecidableEq

def Collection.name : Collection → String
  | .code => "code"
  | .docs => "docs"

def Collection.description : Collection → String
  | .code => "Codebase embeddings"
  | .docs => "Documentation embeddings"

/-- A streamed reply: its pieces, some without content, and why it broke off. -/
structure Reply where
  pieces : List (Option String)
  broken : Option Failure
  deriving Repr

/-- What stands at a path. -/
inductive PathKind where
  | nothing
  | file
  | folder
  deriving Repr, DecidableEq

/-- Something shown on the terminal. -/
inductive Shown where
  | line (text : String)
  | blank
  | task (number : Nat) (text : String)
  | progress (number : Nat) (text : String)
  | table (title : String) (columns : List (String × String × Bool)) (rows : List (List String))
  deriving Repr

inductive Request where
  | graph (q : Graph.Query)
  | chat (messages : List Message)
  | chatStream (messages : List Message)
  | generate (prompt : String)
  | addDocuments (into : Collection) (columns : Columns)
  /-- Columns of any kind: texts, descriptions and ids. -/
  | addColumns (into : Collection) (texts abouts ids : Json)
  | nearest (inside : Collection) (text : Json) (count : Json) (filter : Json)
  | classify (code : String)
  /-- Make the parser of a language ready. -/
  | loadParser (language : Language)
  | parseCode (language : Language) (code : String)
  /-- The text of a file; a lossy reader leaves out what is not valid. -/
  | readFile (path : String) (lossy : Bool)
  | pathKind (path : String)
  /-- Seconds at which a file was last changed. -/
  | modified (path : String)
  /-- All files below a folder, sorted by path. -/
  | filesBelow (folder : String)
  | writeFile (path text : String)
  /-- Fetch a repository into a folder. -/
  | clone (url folder : String)
  | now
  /-- The lint listing for a source. -/
  | lint (file code : String)
  | say (line : String)
  /-- Hand out one line of a streamed answer. -/
  | emit (line : String)
  | display (item : Shown)

/-- The kind of answer that belongs to a request. -/
def Request.Answer : Request → Type
  | .graph _ => List Fields
  | .chat _ | .generate _ | .classify _ | .readFile _ _ | .lint _ _ => String
  | .chatStream _ => Reply
  | .nearest _ _ _ _ => Json
  | .parseCode _ _ => Node
  | .pathKind _ => PathKind
  | .modified _ | .now => Float
  | .filesBelow _ => List String
  | .addDocuments _ _ | .addColumns _ _ _ _ | .loadParser _ | .writeFile _ _
  | .clone _ _ | .say _ | .emit _ | .display _ => Unit

end CodeAtlas
