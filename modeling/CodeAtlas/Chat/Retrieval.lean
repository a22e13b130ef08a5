import CodeAtlas.Chat.Line
import CodeAtlas.Decimal.Nearest
import CodeAtlas.Graph.Catalogue
import CodeAtlas.Json.Mapping
import CodeAtlas.Json.Order
import CodeAtlas.Text.Dedent
import CodeAtlas.Text.Search

/-! Answers from code that is near to the question in meaning. The vector database
gives texts with their distances; the nearest are shown, and the model answers from
them. -/

namespace CodeAtlas.Chat

/-- The code in a stored text: what follows its marker. -/
def codeIn (text : String) : String :=
  match Text.cut? "Code:\n".toList text.toList with
  | some (_, code) => Text.trim (String.ofList code)
  | none => text

/-- A text that was found, with its description and its distance. -/
structure Hit (δ : Type) where
  text : Json
  about : Json
  distance : δ

/-- The first of a value's items. -/
def firstItem (v : Json) : Except Failure Json :=
  match v with
  | .object _ => .error (.missingKey (.int 0))
  | v =>
    match v.itemsIn? with
    | none => .error (.wrongType ("'" ++ v.typeName ++ "' object is not subscriptable"))
    | some [] => .error .outOfRange
    | some (x :: _) => .ok x

/-- The column of an answer: the first of those under its name. -/
def column (answer : Json) (name : String) : Except Failure Json := do
  let fields ←
    match answer with
    | .object fs => Except.ok fs
    | _ => .error (.wrongType "an answer with columns is needed")
  firstItem (← Graph.need fields name)

/-- The hits in an answer; the shortest column counts. -/
def hitsIn (answer : Json) : Except Failure (List (Hit Json)) := do
  let texts ← column answer "documents"
  let abouts ← column answer "metadatas"
  let distances ← column answer "distances"
  let texts ← texts.itemsIn
  let abouts ← abouts.itemsIn
  let distances ← distances.itemsIn
  pure ((texts.zip (abouts.zip distances)).map fun (t, a, d) => ⟨t, a, d⟩)

/-- At most this many hits are looked at. -/
def maxHits : Nat := 10

/-- The nearest hits first; hits of one distance keep their order. -/
def nearest {δ : Type} (le : δ → δ → Bool) (hits : List (Hit δ)) : List (Hit δ) :=
  (hits.mergeSort fun a b => le a.distance b.distance).take maxHits

/-- Rank hits. Distances that cannot be compared are refused. -/
def rank (hits : List (Hit Json)) : Except Failure (List (Hit Json)) :=
  if Json.areOrdered (hits.map (·.distance)) then .ok (nearest Json.isLe hits)
  else .error (.wrongType "distances that do not compare")

/-- Nearness from distance: one over one more. -/
def nearness {α : Type} [OfNat α 1] [Add α] [Div α] (distance : α) : α :=
  1 / (1 + distance)

/-- The nearness of a hit. That of a whole distance is exact until it is rounded, that of a
double is worked out in doubles. -/
def relevance (distance : Json) : Except Failure Float :=
  match distance.whole?, distance.number? with
  | some n, _ =>
    if n + 1 = 0 then .error .divisionByZero else .ok (Decimal.ofRat (nearness (n : Rat)))
  | none, some d => if 1.0 + d == 0.0 then .error .divisionByZero else .ok (nearness d)
  | none, none => .error (.wrongType "a distance is a number")

/-- A field of a description. -/
def describe (about : Json) (key : String) : Except Failure Json :=
  match about with
  | .object fields => Graph.need fields key
  | _ => .error (.wrongType "a description has fields")

/-- The code in a stored value. Only a text has any; a list or an object that holds the
marker itself is refused. -/
def codeOf (text : Json) : Except Failure Json :=
  match text with
  | .string s => .ok (.string (codeIn s))
  | v => do
    let items ← v.itemsIn
    if items.any (Json.same (.string "Code:\n")) then .error (.noMember v.typeName "split")
    else pure v

/-- What is shown of a hit, and the block that the model reads. -/
def present (h : Hit Json) : Except Failure (RetrievedFile × String) := do
  let path ← describe h.about "file_path"
  let content ← codeOf h.text
  let relevance ← relevance h.distance
  match path, content with
  | .string path, .string content =>
    let language ← describe h.about "language"
    pure (⟨path, content, relevance⟩,
      "[Source: " ++ path ++ " | Language: " ++ language.shown ++ "]\n" ++ h.text.shown)
  | _, _ => .error .invalidData

/-- The files and blocks of an answer of the vector database. -/
def presentAll (answer : Json) : Except Failure (List RetrievedFile × List String) := do
  let hits ← rank (← hitsIn answer)
  let shown ← hits.mapM present
  pure (shown.map (·.1), shown.map (·.2))

/-- Search within the project of the question, if it has one. -/
def projectFilter (q : Question) : Json :=
  match q.project with
  | none | some "" => .null
  | some p => .object [("project", .string p)]

/-- Files and blocks for a question. -/
def retrieve (q : Question) : Dialogue (List RetrievedFile × List String) := do
  let answer : Json ←
    Dialogue.request (.nearest .code (.string q.prompt) (.int 30) (projectFilter q))
  (presentAll answer : Except Failure _)

/-- The model's task with the blocks in it, before it is tidied. -/
def rawRetrievalPrompt (prompt context : String) : String :=
  "\nRelevant semantic context (vector retrieval):\n" ++ context ++ "\n\nUser question:\n" ++
    prompt ++ "\n\nUsing the information above, answer the user's question.\n" ++
    "Focus on correctness, clarity, and actionable insights.\n" ++
    "If the answer is not in the context, respond with EXACTLY: \"I don't know\".\n" ++
    "Do not mention the fact that the code was provided to you; answer like you know the code.\n"

def retrievalPrompt (prompt context : String) : String :=
  Text.trim (String.ofList (Text.dedent (rawRetrievalPrompt prompt context).toList))

def joinBlocks (blocks : List String) : String :=
  "\n\n---\n".intercalate blocks

/-- Answer from retrieved code; without any, decline. -/
def answerByRetrieval (q : Question) (intent : Intent) : Dialogue Unit := do
  let (files, blocks) ← retrieve q
  if files.isEmpty then refuse
  else
    emit (.metadata intent (some files) none)
    emitAnswer (retrievalPrompt q.prompt (joinBlocks blocks)) Assistant.Prompts.grounded

/-- The answer in one piece with its files, as part of a larger answer. -/
def retrievalContext (q : Question) : Dialogue (String × List RetrievedFile) := do
  let (files, blocks) ← retrieve q
  let text ← Assistant.answer (retrievalPrompt q.prompt (joinBlocks blocks))
    Assistant.Prompts.grounded
  pure (text, files)

end CodeAtlas.Chat
