import CodeAtlas.Json.Mapping

/-! Numbers for texts, under which the vector database finds them. A text encoder is
given; here is what it is applied to. -/

namespace CodeAtlas.Embedding

/-- The encoder's model. -/
def modelName : String := "BAAI/bge-small-en-v1.5"

/-- The name under which the database knows the encoder. -/
def name : String := "sentence-transformers-bge-small-en-v1.5"

/-- An encoder of texts. -/
abbrev Encoder := Json → Except Failure Json

def documents (encode : Encoder) (texts : Json) : Except Failure Json := do
  let xs ← texts.itemsIn
  pure (.array (← xs.mapM encode))

def query (encode : Encoder) (text : Json) : Except Failure Json :=
  encode text

/-- What the database hands over: documents, or else queries, in an object; or a
list of documents. -/
def apply (encode : Encoder) (input : Json) : Except Failure Json :=
  match input with
  | .array xs => documents encode (.array xs)
  | .object fields =>
    match Fields.getOrNull fields "documents", Fields.getOrNull fields "queries" with
    | .null, .null => refuse
    | .null, queries => documents encode queries
    | texts, _ => documents encode texts
  | _ => refuse
where
  refuse := .error (.badValue ("Invalid embedding input received: " ++ input.shown))

end CodeAtlas.Embedding
