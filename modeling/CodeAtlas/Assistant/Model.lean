import CodeAtlas.Assistant.Prompts
import CodeAtlas.Dialogue

/-! Talking to the language model. -/

namespace CodeAtlas.Assistant

/-- The model that answers. -/
def modelName : String := "qwen2.5:3b-instruct"

/-- A question under given instructions. -/
def messages (instructions question : String) : List Message :=
  [⟨"system", instructions⟩, ⟨"user", question⟩]

/-- The model's answer; it fails when the model does. -/
def ask (instructions question : String) : Dialogue String :=
  Dialogue.request (.chat (messages instructions question))

/-- The model's answer, or words that say that there is none. -/
def answer (question instructions : String) : Dialogue String := do
  match ← (ask instructions question).attempt with
  | .ok text => pure text
  | .error _ => pure "Error generating answer, try again later"

/-- The texts of a streamed reply, with a last one if it broke off. -/
def Reply.texts (r : Reply) : List String :=
  r.pieces.filterMap id ++ (r.broken.map fun e => "Error generating answer: " ++ e.message).toList

/-- The model's answer piece by piece. -/
def streamAnswer (question instructions : String) : Dialogue (List String) := do
  match ← (Dialogue.request (.chatStream (messages instructions question))).attempt with
  | .ok reply => pure (Reply.texts reply)
  | .error e => pure ["Error generating answer: " ++ e.message]

/-- The request for a summary of some code. -/
def summaryPrompt (code : String) : String :=
  "\nYou are a helpful programming assistant.\nSummarize the following code in 1-2 sentences, " ++
    "focusing on its purpose and functionality:\n" ++ code ++ "\nSummary:"

/-- A summary in words; without an answer it says so. -/
def summarize (code : String) : Dialogue String := do
  match ← (Dialogue.request (.generate (summaryPrompt code))).attempt with
  | .ok (text : String) => pure (Text.trim text)
  | .error e =>
    Dialogue.request (.say ("Error summarizing code: " ++ e.message))
    pure "Unable to summarize"

end CodeAtlas.Assistant
