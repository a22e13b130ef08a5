import CodeAtlas.Failure

/-! The programming languages that can be analysed. -/

namespace CodeAtlas

inductive Language where
  | python
  | java
  deriving Repr, DecidableEq

def Language.name : Language → String
  | .python => "python"
  | .java => "java"

/-- The language of a name. -/
def Language.ofName (name : String) : Except Failure Language :=
  if name == "python" then .ok .python
  else if name == "java" then .ok .java
  else .error (.unsupportedLanguage name)

end CodeAtlas
