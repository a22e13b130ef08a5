import CodeAtlas.Classifier.Outputs
import CodeAtlas.Json.Reader

/-! The classifier that tells the language of code: its files, which are fetched when
they are missing, and its choice of a label. -/

namespace CodeAtlas.Classifier

/-- Where the model and its labels are fetched from. -/
def modelUrl : String :=
  "https://huggingface.co/josipmusa/code-classifier/resolve/main/code_classifier.onnx"

def labelsUrl : String :=
  "https://huggingface.co/josipmusa/code-classifier/resolve/main/labels.json"

/-- The kinds of processor that the model is run on, best first. -/
def providers : List String := ["CUDAExecutionProvider", "CPUExecutionProvider"]

/-- The most tokens of a code that are looked at. -/
def maxTokens : Nat := 512

/-- The labels that come with the model. -/
def ownLabels : List String := ["python", "java"]

/-- A file of the classifier: what it holds, and what would be fetched for it. -/
structure Resource where
  content : Option String
  url : Option String
  remote : String
  deriving Repr, DecidableEq

/-- What was fetched, and what was printed meanwhile. -/
structure Report where
  fetched : List String
  printed : List String
  deriving Repr, DecidableEq

/-- Fetch a file that is missing, if it is known where from. -/
def Resource.ensure (r : Resource) (announcement : String) : Option String × Report :=
  match r.content, r.url.filter (· ≠ "") with
  | none, some url => (some r.remote, ⟨[url], [announcement, "Download complete."]⟩)
  | content, _ => (content, ⟨[], []⟩)

/-- A classifier that is ready: its model and labels. -/
structure Ready where
  model : Option String
  labels : Json
  report : Report

/-- Labels are JSON. -/
def readLabels (content : Option String) : Except Failure Json :=
  match content with
  | none => .error (.missingFile "labels.json")
  | some text =>
    match Json.readChars text.toList with
    | .ok j => .ok j
    | .error .malformed => .error .malformedJson
    | .error .tooDeep => .error .tooDeep
    | .error (.tooManyDigits n) => .error (.tooManyDigits n)

/-- Make a classifier ready. -/
def prepare (model labels : Resource) : Except Failure Ready := do
  let (model, first) := model.ensure "Downloading ONNX code classifier model..."
  let (labels, second) := labels.ensure "Downloading labels..."
  let labels ← readLabels labels
  pure ⟨model, labels, ⟨first.fetched ++ second.fetched, first.printed ++ second.printed⟩⟩

/-- The label with a number. -/
def labelAt (labels : Json) (i : Nat) : Except Failure Json :=
  match labels with
  | .array xs =>
    match xs[i]? with
    | some l => .ok l
    | none => .error .outOfRange
  | .string s =>
    match s.toList[i]? with
    | some c => .ok (.string (String.ofList [c]))
    | none => .error .outOfRange
  | .object _ => .error (.missingKey (.nat i))
  | v => .error (.wrongType ("'" ++ v.typeName ++ "' object is not subscriptable"))

/-- The label for the outputs of the model. -/
def predict (labels outputs : Json) : Except Failure Json := do
  labelAt labels (← (← Outputs.ofJson outputs).choice)

/-- A line of code to try the classifier on. -/
def sampleCode : String := "private final MyService myService;"

/-- What is printed for the try. -/
def sampleLine (label : Json) : String :=
  "Predicted language:  " ++ label.shown

end CodeAtlas.Classifier
