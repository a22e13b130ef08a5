/-! What a question wants, and with that who answers it. -/

namespace CodeAtlas.Chat

inductive Intent where
  /-- How pieces of code relate. -/
  | graphReasoning
  /-- Showing code. -/
  | codeRetrieval
  /-- Showing documentation. -/
  | docsRetrieval
  /-- Both relations and code. -/
  | hybrid
  /-- Missing tests. -/
  | testAnalysis
  /-- Anything else. -/
  | general
  deriving Repr, DecidableEq

namespace Intent

def name : Intent → String
  | .graphReasoning => "CODE_GRAPH_REASONING"
  | .codeRetrieval => "CODE_VECTOR_RETRIEVAL"
  | .docsRetrieval => "DOCS_VECTOR_RETRIEVAL"
  | .hybrid => "CODE_HYBRID"
  | .testAnalysis => "TEST_ANALYSIS"
  | .general => "GENERAL"

def all : List Intent :=
  [.graphReasoning, .codeRetrieval, .docsRetrieval, .hybrid, .testAnalysis, .general]

def ofName? (s : String) : Option Intent :=
  all.find? (·.name == s)

end Intent

end CodeAtlas.Chat
