/-! What can be asked about a symbol in the code graph. -/

namespace CodeAtlas.Graph

inductive Operation where
  | calls
  | calledBy
  | uses
  | contents
  | dependencies
  deriving Repr, DecidableEq

namespace Operation

def name : Operation → String
  | .calls => "calls"
  | .calledBy => "called_by"
  | .uses => "uses"
  | .contents => "structure"
  | .dependencies => "dependencies"

def all : List Operation := [.calls, .calledBy, .uses, .contents, .dependencies]

def ofName? (s : String) : Option Operation :=
  all.find? (·.name == s)

/-- The name as a heading. -/
def title : Operation → String
  | .calls => "Calls"
  | .calledBy => "Called By"
  | .uses => "Uses"
  | .contents => "Structure"
  | .dependencies => "Dependencies"

/-- The kinds of link that are followed. -/
def linkTypes : Operation → List String
  | .contents => ["CONTAINS"]
  | .calls | .calledBy => ["CALLS"]
  | .uses => ["USES"]
  | .dependencies => ["USES", "CALLS"]

end Operation

end CodeAtlas.Graph
