import CodeAtlas.Assistant.Model
import CodeAtlas.Chat.Intent
import CodeAtlas.Graph.Operation
import CodeAtlas.Json.Reader
import CodeAtlas.Text.Casing
import CodeAtlas.Text.Search

/-! What is read off a question with the model's help: its intent, a plan for the
code graph, or the class and method that it is about. The model is told to answer
with JSON alone; around that, a fence and other words are tolerated. -/

namespace CodeAtlas.Assistant

/-! ### The JSON object in a reply -/

/-- The characters that stand for a letter of either case. -/
def fenceWord : List (List Char) :=
  [['`'], ['`'], ['`'], ['j', 'J'], ['s', 'S', 'ſ'], ['o', 'O'], ['n', 'N']]

/-- What follows characters of the given classes. -/
def afterClasses? : List (List Char) → List Char → Option (List Char)
  | [], cs => some cs
  | cls :: rest, c :: cs => if cls.contains c then afterClasses? rest cs else none
  | _ :: _, [] => none

/-- Drop an opening fence with the blanks after it. -/
def dropOpening (cs : List Char) : List Char :=
  match afterClasses? fenceWord cs with
  | some rest => Text.dropBlanks rest
  | none => cs

/-- Drop a closing fence with the blanks before it. -/
def dropClosing (cs : List Char) : List Char :=
  match cs.reverse with
  | '`' :: '`' :: '`' :: rest => (Text.dropBlanks rest).reverse
  | _ => cs

/-- A reply without the fence around it. -/
def unfence (reply : List Char) : List Char :=
  Text.strip (dropClosing (dropOpening (Text.strip reply)))

/-- From the first opening to the last closing brace. -/
def jsonObject? (cs : List Char) : Option (List Char) :=
  let fromOpening := cs.dropWhile (· ≠ '\x7b')
  let span := (fromOpening.reverse.dropWhile (· ≠ '\x7d')).reverse
  if span.isEmpty then none else some span

/-- The object in a reply. Text that is not JSON holds none; a number that is too
long and values that are nested too deeply are failures. -/
def objectIn (reply : String) : Except Failure (Option Fields) :=
  match jsonObject? (unfence reply.toList) with
  | none => .ok none
  | some cs =>
    match Json.readChars cs with
    | .ok (.object fields) => .ok (some fields)
    | .ok _ => .ok none
    | .error .malformed => .ok none
    | .error .tooDeep => .error .tooDeep
    | .error (.tooManyDigits n) => .error (.tooManyDigits n)

/-! ### Intent -/

/-- The intent that a reply names; anything unknown is general. -/
def intentIn (reply : String) : Chat.Intent :=
  let label := (Text.upper (Text.trim reply)).toList.filter (· ≠ '"')
  (Chat.Intent.ofName? (String.ofList label)).getD .general

def classifyIntent (question : String) : Dialogue Chat.Intent := do
  pure (intentIn (← ask Prompts.intent question))

/-! ### Query plans -/

/-- What to look up in the code graph. -/
structure QueryPlan where
  symbols : List String
  operation : Graph.Operation
  deriving Repr, DecidableEq

/-- The plan in an object: there have to be symbols, and a known operation in
letters of any case. -/
def planOf (data : Fields) : Except Failure (Option QueryPlan) :=
  if !(data.getOrNull "symbols").truthy then .ok none
  else
    match data.get? "operation" with
    | none => .ok none
    | some (.string op) =>
      .ok do
        let symbols ← (data.getOrNull "symbols").strings?
        let operation ← Graph.Operation.ofName? (Text.lower op)
        pure ⟨symbols, operation⟩
    | some v => .error (.noMember (v.typeName) "lower")

/-- The plan in a reply. -/
def planIn (reply : String) : Except Failure (Option QueryPlan) := do
  match ← objectIn reply with
  | none => pure none
  | some data => planOf data

def extractPlan (question : String) : Dialogue (Option QueryPlan) := do
  planIn (← ask Prompts.queryPlan question)

/-! ### Names that a question about tests is about -/

structure TestedNames where
  cls : Option String
  method : Option String
  deriving Repr, DecidableEq

/-- A text or null; anything else does not fit. -/
def optionalText? : Json → Option (Option String)
  | .null => some none
  | .string s => some (some s)
  | _ => none

/-- The names in an object. -/
def namesOf? (data : Fields) : Option TestedNames := do
  let cls ← optionalText? (data.getOrNull "class_name")
  let method ← optionalText? (data.getOrNull "method_name")
  pure ⟨cls, method⟩

/-- The names in a reply. -/
def namesIn (reply : String) : Except Failure (Option TestedNames) := do
  let data ← objectIn reply
  pure (data.bind namesOf?)

def extractNames (question : String) : Dialogue (Option TestedNames) := do
  namesIn (← ask Prompts.testedNames question)

end CodeAtlas.Assistant
