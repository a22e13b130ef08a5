/-! The web service: where its endpoints are, and who may call them. -/

namespace CodeAtlas.Service

inductive Endpoint where
  | status
  | projects
  | chat
  deriving Repr, DecidableEq

def Endpoint.verb : Endpoint → String
  | .status | .projects => "GET"
  | .chat => "POST"

def Endpoint.path : Endpoint → String
  | .status => "/status"
  | .projects => "/projects"
  | .chat => "/chat/stream"

/-- Endpoints under one heading. -/
structure Section where
  root : String
  tags : List String
  endpoints : List Endpoint
  deriving Repr, DecidableEq

def sections : List Section :=
  [⟨"/api", ["status"], [.status, .projects]⟩, ⟨"/api", ["chat"], [.chat]⟩]

/-- Callers from other sites: everyone, with credentials, any verb and header. -/
structure CrossOrigin where
  origins : List String
  credentials : Bool
  verbs : List String
  headers : List String
  deriving Repr, DecidableEq

def crossOrigin : CrossOrigin := ⟨["*"], true, ["*"], ["*"]⟩

/-- The kind of answer that a chat gives: a JSON value on every line. -/
def chatMediaType : String := "application/x-ndjson"

/-- Headers that keep a chat answer from being held back. -/
def chatHeaders : List (String × String) :=
  [("Cache-Control", "no-cache"), ("Connection", "keep-alive"), ("X-Accel-Buffering", "no")]

end CodeAtlas.Service
