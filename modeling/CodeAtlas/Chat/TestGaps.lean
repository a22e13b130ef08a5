import CodeAtlas.Assistant.Extraction
import CodeAtlas.Chat.Line
import CodeAtlas.Dialogue
import CodeAtlas.Graph.Catalogue
import CodeAtlas.Issue.TestSigns
import CodeAtlas.Json.Order
import CodeAtlas.Paths

/-! Methods that look as if they lack tests. Six signals are weighed for each method
that a question is about; two of them are enough to report it. -/

namespace CodeAtlas

/-! ### Files that were changed lately -/

def daySeconds : Float := 86400.0

/-- Days within which a change is recent, unless told otherwise. -/
def recentDays : Float := 7.0

def isRecent (now modified days : Float) : Bool :=
  (now - modified) / daySeconds ≤ days

/-- Whether what stands at a path was changed within the given days; nothing there
is not recent. -/
def recentlyModified (path : String) (days : Float) : Dialogue Bool := do
  let path := Paths.normalize path
  match ← Dialogue.request (.pathKind path) with
  | .nothing => pure false
  | _ =>
    let modified : Float ← Dialogue.request (.modified path)
    let now : Float ← Dialogue.request .now
    pure (isRecent now modified days)

namespace Chat

/-! ### Signals -/

/-- A reason to test a method. -/
inductive Signal where
  | calledFromOutside
  | longFunction
  | deepNesting
  | manyParams (count : Option Nat)
  | recentlyModified
  | manyCollaborators
  deriving Repr, DecidableEq

def Signal.reason : Signal → String
  | .calledFromOutside => "Method/function is called from outside the class/module"
  | .longFunction => "Long function detected"
  | .deepNesting => "Deep nesting detected"
  | .manyParams (some count) => toString count ++ " parameters detected"
  | .manyParams none => "Many parameters detected"
  | .recentlyModified => "Recently modified file"
  | .manyCollaborators => "Class has many collaborators"

/-- A method that looks as if it lacks tests. -/
structure TestGap where
  cls : Option String
  method : String
  reasons : List String
  priority : Nat
  focus : Option String
  deriving Repr, DecidableEq

/-- A method with the place of its code; each may be any value. -/
structure Candidate where
  cls : Json
  method : Json
  path : Json

/-- Signals that are enough to report a method. -/
def enoughSignals : Nat := 2

/-- A class with more collaborators than this has many. -/
def manyCollaborators : Int := 3

/-- What is counted and noted about a method, each on its own. -/
structure Tally where
  score : Nat
  reasons : List String
  deriving Repr, DecidableEq

def Tally.raise (t : Tally) : Tally :=
  { t with score := t.score + 1 }

def Tally.note (t : Tally) (reason : String) : Tally :=
  { t with reasons := t.reasons ++ [reason] }

/-- Whether a file exists and was changed lately; an empty value names none. -/
def pathIsRecent (path : Json) : Dialogue Bool :=
  match path with
  | .string p => if p = "" then pure false else recentlyModified p recentDays
  | v => if v.truthy then .fail (.wrongType "a path is a text") else pure false

/-- Whether a class works together with many others. -/
def hasManyCollaborators (cls : Json) : Dialogue Bool := do
  if cls.truthy then
    let count ← Graph.collaboratorCount cls
    if count.number?.isSome then
      pure (Json.compareNumber? (.int manyCollaborators) count == some .lt)
    else .fail (.wrongType "a count is a number")
  else pure false

/-- Ask for one signal after another. Each one that holds raises the score and is noted. -/
def tally (c : Candidate) : Dialogue Tally := do
  let t : Tally := ⟨0, []⟩
  let outside ← Graph.calledFromOutside c.cls c.method
  let t := if outside.truthy then t.raise.note Signal.calledFromOutside.reason else t
  let signs ← Issue.testSigns c.path c.cls c.method
  let t := if signs.longFunction then t.raise.note Signal.longFunction.reason else t
  let t := if signs.deepNesting then t.raise.note Signal.deepNesting.reason else t
  let t := if signs.manyParams then t.raise.note (Signal.manyParams signs.paramCount).reason else t
  let recent ← pathIsRecent c.path
  let t := if recent then t.raise.note Signal.recentlyModified.reason else t
  let many ← hasManyCollaborators c.cls
  pure (if many then t.raise.note Signal.manyCollaborators.reason else t)

/-- What a test should stand in for: the things that a method depends on. -/
def focusOn (dependencies : List Json) : Except Failure (Option String) :=
  if dependencies.isEmpty then .ok none
  else
    match dependencies.mapM Json.string? with
    | some names => .ok (some ("Consider mocking: " ++ ", ".intercalate names))
    | none => .error (.wrongType "a dependency's name is a text")

/-- The report for a method: it tells the reasons, and the score is its priority. -/
def gapOf (c : Candidate) (t : Tally) (focus : Option String) : Except Failure TestGap :=
  match Assistant.optionalText? c.cls, c.method with
  | some cls, .string method => .ok ⟨cls, method, t.reasons, t.score, focus⟩
  | _, _ => .error .invalidData

/-- The report for a method, if its score is high enough. -/
def gap? (c : Candidate) : Dialogue (Option TestGap) := do
  let t ← tally c
  if t.score < enoughSignals then pure none
  else
    let dependencies ← Graph.dependenciesOf c.cls c.method
    let focus ← (focusOn dependencies : Except Failure (Option String))
    some <$> (gapOf c t focus : Except Failure TestGap)

/-- A method as a record gives it. -/
def candidate (r : Fields) : Except Failure Candidate := do
  let method ← Graph.need r "method_name"
  pure ⟨r.getOrNull "class_name", method, r.getOrNull "file_path"⟩

/-- Methods of a class that have a given name, or all of them. -/
def methodsOf (cls : Json) (method : Option String) (project : Option String) :
    Dialogue (List Candidate) := do
  let rs ← Graph.listMethods cls (.ofText? project)
  let cs ← (rs.mapM candidate : Except Failure (List Candidate))
  match method with
  | some m => pure (if m = "" then cs else cs.filter fun c => c.method.same (.string m))
  | none => pure cs

/-- The methods that names stand for. A method alone is looked for in a class first,
then outside classes. -/
def candidates (names : Assistant.TestedNames) (project : Option String) :
    Dialogue (List Candidate) := do
  match names.method.filter (· ≠ ""), names.cls.filter (· ≠ "") with
  | some method, none =>
    match ← Graph.classOfMethod (.string method) (.ofText? project) with
    | .null =>
      match ← Graph.methodNode (.string method) (.ofText? project) with
      | none => pure []
      | some r =>
        let c ← (candidate r : Except Failure Candidate)
        pure [c]
    | cls => methodsOf cls (some method) project
  | method, _ => methodsOf (.ofText? names.cls) method project

/-- The reports for a question: nothing at all, an empty list, when no method is
found, and `none` when no method needs a report. -/
def findTestGaps (q : Question) : Dialogue (Option (List TestGap)) := do
  match ← Assistant.extractNames q.prompt with
  | none => .fail (.noMember "NoneType" "class_name")
  | some names =>
    if names.cls.isNone && names.method.isNone then pure (some [])
    else
      let cs ← candidates names q.project
      if cs.isEmpty then pure (some [])
      else
        let gaps := (← Dialogue.collect cs gap?).filterMap id
        pure (if gaps.isEmpty then none else some gaps)

/-- A value, or a word in its place when it is missing or empty. -/
def orWord (text : Option String) (word : String) : String :=
  match text with
  | none | some "" => word
  | some s => s

def TestGap.describe (g : TestGap) : String :=
  "- Method: " ++ g.method ++ " (Class: " ++ orWord g.cls "module-level" ++ ")\nReasons:\n- " ++
    "\n".intercalate g.reasons ++ "\nSuggested focus: " ++ orWord g.focus "N/A"

/-- The model's task with the reports in it. -/
def testGapsPrompt (gaps : Option (List TestGap)) (prompt : String) : String :=
  let listed :=
    match gaps with
    | none | some [] => "NONE"
    | some gs => "\n".intercalate (gs.map TestGap.describe)
  "\nUser question:\n" ++ prompt ++ "\n\nIdentified test gaps:\n" ++ listed ++ "\n"

def answerByTestGaps (q : Question) : Dialogue Unit := do
  let gaps ← findTestGaps q
  emit (.metadata .testAnalysis none none)
  emitAnswer (testGapsPrompt gaps q.prompt) Assistant.Prompts.testAnalysis

end Chat

end CodeAtlas
