import CodeAtlas.Failure

/-! Where the databases are, as the environment says. -/

namespace CodeAtlas.Settings

/-- Variables with their values. -/
abbrev Environment := List (String × String)

/-- A variable that is set and not empty. -/
def given? (env : Environment) (name : String) : Option String :=
  (env.lookup name).filter (· ≠ "")

/-- The graph database and who may use it. -/
structure GraphAccess where
  uri : String
  user : String
  password : String
  deriving Repr, DecidableEq

/-- Everything has to be given. -/
def graphAccess (env : Environment) : Except Failure GraphAccess :=
  match given? env "NEO4J_URI", given? env "NEO4J_USERNAME", given? env "NEO4J_PASSWORD" with
  | some uri, some user, some password => .ok ⟨uri, user, password⟩
  | _, _, _ => .error (.reported "Missing Neo4j environment variables")

/-- The vector database. -/
structure VectorAccess where
  host : String
  port : Int
  deriving Repr, DecidableEq

/-- Without other words, a database on this machine. -/
def vectorAccess (env : Environment) : Except Failure VectorAccess := do
  match Text.readInt ((env.lookup "CHROMA_PORT").getD "8001") with
  | .ok port => pure ⟨(env.lookup "CHROMA_HOST").getD "localhost", port⟩
  | .error why => .error (.unreadableNumber why)

end CodeAtlas.Settings
