import CodeAtlas.Dialogue
import CodeAtlas.Issue.Duplicate
import CodeAtlas.Issue.Shape
import CodeAtlas.Issue.Unused
import CodeAtlas.Json.Basic
import CodeAtlas.Text.Casing

/-! All issues of a piece of code: what its tree shows, then repeated blocks, then
names that are not used. -/

namespace CodeAtlas.Issue

/-- Issues that a tree shows. -/
def shapeIssues (lang : Language) (tree : Node) : List Issue :=
  longFunctions lang tree ++ deepNesting lang tree ++ manyParams lang tree

/-- The name that code without a file goes by. -/
def inputName : String := "<input>"

/-- Names that are not used in Python code, by its lint listing. -/
def unusedInPython (file code : String) : Dialogue (List Issue) := do
  let listing : String ← Dialogue.request (.lint file code)
  (ofListing listing : Except Failure (List Issue))

/-- The fields of an issue. It has no fix and no confidence. -/
def fields (i : Issue) : Fields :=
  [("type", .string i.type), ("message", .string i.message), ("severity", .string i.severity.name),
    ("line_start", .int i.lineStart), ("line_end", (i.lineEnd.map fun n => Json.int n).getD .null),
    ("issue_id", .string i.id), ("suggested_fix", .null), ("confidence", .null)]

/-- A member of an issue: one of its fields. -/
def member (i : Issue) (name : String) : Except Failure Json :=
  match i.fields.get? name with
  | some v => .ok v
  | none => .error (.noMember "Issue" name)

/-- What issues are told apart by: their id, and the row on which their place begins. A place
that is a plain value has no rows. -/
def placeKey (i : Issue) : Except Failure (Json × Json) := do
  let id ← i.member "issue_id"
  let place ← i.member "location"
  match place with
  | .object parts => pure (id, Fields.getOrNull parts "line_start")
  | v => .error (.noMember v.typeName "line_start")

/-- Go through issues and keep the first of each key. -/
def keepFirst (kept : List ((Json × Json) × Issue)) : List Issue → Except Failure (List Issue)
  | [] => .ok (kept.map (·.2))
  | i :: rest => do
    let key ← placeKey i
    if kept.any fun e => e.1.1.same key.1 && e.1.2.same key.2 then keepFirst kept rest
    else keepFirst (kept ++ [(key, i)]) rest

/-- Issues of Python code, the first of each key. -/
def analyzePython (code : String) : Dialogue (List Issue) := do
  Dialogue.request (.loadParser .python)
  let tree : Node ← Dialogue.request (.parseCode .python code)
  let unused ← unusedInPython inputName code
  (keepFirst [] (shapeIssues .python tree ++ duplicates .python code ++ unused) :
    Except Failure (List Issue))

/-- Issues of Java code. -/
def analyzeJava (code : String) : Dialogue (List Issue) := do
  match ← (Dialogue.request (.loadParser .java)).attempt with
  | .error e =>
    .fail (.reported
      ("Failed loading tree-sitter parser for 'java'. Original error: " ++ e.message))
  | .ok () =>
    let tree : Node ← Dialogue.request (.parseCode .java code)
    let unused ← (unusedNames tree code : Except Failure (List Issue))
    pure (shapeIssues .java tree ++ duplicates .java code ++ unused)

/-- Issues of code in a language that has yet to be told. -/
def analyze (code : String) : Dialogue (List Issue) := do
  let label : String ← Dialogue.request (.classify code)
  match Text.lower label with
  | "python" => analyzePython code
  | "java" => analyzeJava code
  | _ => pure []

end CodeAtlas.Issue
