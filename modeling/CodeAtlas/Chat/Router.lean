import CodeAtlas.Chat.Relations
import CodeAtlas.Chat.Retrieval
import CodeAtlas.Chat.TestGaps

/-! Who answers a question: the code graph, retrieved code or both, the gaps of tests, or the model
alone. -/

namespace CodeAtlas.Chat

/-- The sections of the model's task; those without content are left out. -/
def hybridPrompt (prompt : String) (relations : Option String) (retrieved : String) : String :=
  let graphPart := relations.map
    ("Code structure and relationships (graph reasoning):\n" ++ ·)
  let codePart :=
    if retrieved = "" then none
    else some ("Relevant semantic context (vector retrieval):\n" ++ retrieved)
  "\n\n".intercalate (["User question:\n" ++ prompt] ++ graphPart.toList ++ codePart.toList ++
    ["Using the information above, answer the user's question.\n" ++
      "Focus on correctness, clarity, and actionable insights.\n" ++
      "Do not mention the code or the fact that it was provided to you; " ++
      "just answer concisely and authoritatively."])

def answerByBoth (q : Question) : Dialogue Unit := do
  let found ← relationsContext q
  let (retrieved, files) ← retrievalContext q
  emit (.metadata .hybrid (some files) (found.map (·.2)))
  emitAnswer (hybridPrompt q.prompt (found.map (·.1)) retrieved) Assistant.Prompts.grounded

/-- Answer without looking anything up. -/
def answerGenerally (q : Question) : Dialogue Unit := do
  emit (.metadata .general none none)
  emitAnswer q.prompt Assistant.Prompts.general

/-- Answer a question with a known intent. -/
def answerWith (intent : Intent) (q : Question) : Dialogue Unit :=
  match intent with
  | .graphReasoning => answerByRelations q
  | .codeRetrieval | .docsRetrieval => answerByRetrieval q intent
  | .hybrid => answerByBoth q
  | .testAnalysis => answerByTestGaps q
  | .general => answerGenerally q

/-- Tell what a question wants, and answer it. -/
def answer (q : Question) : Dialogue Unit := do
  let intent ← Assistant.classifyIntent q.prompt
  answerWith intent q

end CodeAtlas.Chat
