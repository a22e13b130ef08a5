import CodeAtlas.Dialogue
import CodeAtlas.Paths
import CodeAtlas.Text.Casing
import CodeAtlas.Text.Separated
import CodeAtlas.Training.Snippet

/-! The examples that a classifier of languages is trained on: pieces of files from
well-known repositories, and for Java also made-up snippets. They are collected
once and kept in a table. -/

namespace CodeAtlas.Training

/-- Where examples of a language come from. -/
structure Source where
  language : String
  extensions : List String
  repositories : List String
  deriving Repr, DecidableEq

def sources : List Source := [
  ⟨"python", [".py"],
    ["https://github.com/pallets/flask.git", "https://github.com/psf/requests.git",
      "https://github.com/pandas-dev/pandas.git"]⟩,
  ⟨"javascript", [".js", ".jsx", ".ts", ".tsx"],
    ["https://github.com/axios/axios.git", "https://github.com/facebook/react.git",
      "https://github.com/expressjs/express.git"]⟩,
  ⟨"java", [".java"],
    ["https://github.com/spring-projects/spring-framework.git",
      "https://github.com/google/guava.git"]⟩,
  ⟨"php", [".php"], ["https://github.com/laravel/laravel.git"]⟩]

/-- Examples of a language that are enough. -/
def targetSamples : Nat := 2000

/-- The most tokens in a piece. -/
def maxTokens : Nat := 512

/-- The file with the table. -/
def tableName : String := "dataset.csv"

def repositoryFolder : String := "repos"

/-- Snippets to make up: plain ones, and ones of web services. -/
def generalCount : Nat := 1000

def springCount : Nat := 300

/-- Pieces of at most `n` tokens, where every character is a token. -/
def piecesFrom (n : Nat) : Nat → List Char → List String
  | 0, _ => []
  | _, [] => []
  | fuel + 1, cs => String.ofList (cs.take n) :: piecesFrom n fuel (cs.drop n)

def pieces (code : String) : List String :=
  piecesFrom maxTokens code.length code.toList

/-- The pieces of a file; one that cannot be read has none. -/
def piecesOf (path : String) : Dialogue (List String) := do
  match ← (Dialogue.request (.readFile path true)).attempt with
  | .ok code => pure (pieces code)
  | .error _ => pure []

/-- The folder of a repository. -/
def folderOf (url : String) : String :=
  let name := String.ofList (Text.afterLast '/' url.toList)
  repositoryFolder ++ "/" ++ name.replace ".git" ""

/-- Fetch a repository unless it is there. -/
def fetch (url : String) : Dialogue Unit := do
  let folder := folderOf url
  match ← Dialogue.request (.pathKind folder) with
  | .nothing =>
    Dialogue.request (.say ("Cloning " ++ url ++ " → " ++ folder))
    Dialogue.request (.clone url folder)
  | _ => Dialogue.request (.say ("Repo exists, skipping clone: " ++ folder))

/-- Whether a file can hold examples of a language. -/
def Source.takes (src : Source) (path : String) : Bool :=
  (Paths.name path).toList.contains '.' && src.extensions.contains (Text.lower (Paths.suffix path))

/-- Add samples one by one until there are enough; says whether there are. -/
def addUntil (target : Nat) (have_ : List Sample) : List Sample → List Sample × Bool
  | [] => (have_, false)
  | s :: rest =>
    let now := have_ ++ [s]
    if target ≤ now.length then (now, true) else addUntil target now rest

/-- Collect from files until there are enough samples. -/
def collectFiles (src : Source) (target : Nat) :
    List String → List Sample → Dialogue (List Sample × Bool)
  | [], found => pure (found, false)
  | path :: rest, found => do
    let parts ← piecesOf path
    match addUntil target found (parts.map fun t => ⟨t, src.language⟩) with
    | (found, true) => pure (found, true)
    | (found, false) => collectFiles src target rest found

/-- Collect from repositories until there are enough samples. -/
def collectRepositories (src : Source) (target : Nat) :
    List String → List Sample → Dialogue (List Sample × Bool)
  | [], found => pure (found, false)
  | url :: rest, found => do
    fetch url
    let files : List String ← Dialogue.request (.filesBelow (folderOf url))
    match ← collectFiles src target (files.filter src.takes) found with
    | (found, true) => pure (found, true)
    | (found, false) => collectRepositories src target rest found

/-- The samples of a language. -/
def collectLanguage (target : Nat) (src : Source) : Dialogue (List Sample) := do
  Dialogue.request (.say ("Collecting samples for: " ++ src.language))
  let (found, enough) ← collectRepositories src target src.repositories []
  let ending :=
    if enough then "Reached " ++ toString target ++ " samples for "
    else "Only collected " ++ toString found.length ++ " samples for "
  Dialogue.request (.say (ending ++ src.language))
  pure found

/-- Made-up samples; at most `cap` of each kind are made. -/
def madeUp (cap : Nat) : Roll (List Sample) := do
  let general ← javaSamples generalSnippet (min generalCount cap)
  let spring ← javaSamples springSnippet (min springCount cap)
  pure (general ++ spring)

/-- The samples of all languages in order; made-up ones follow those of Java. -/
def collectAll (target cap : Nat) (dice : Dice) : List Source → Dialogue (List Sample)
  | [] => pure []
  | src :: rest => do
    let found ← collectLanguage target src
    let extra := if src.language = "java" then ((madeUp cap).run dice).1 else []
    let others ← collectAll target cap dice rest
    pure (found ++ extra ++ others)

/-- The table of samples. -/
def tableOf (samples : List Sample) : String :=
  Text.writeTable (["code_snippet", "label"] :: samples.map fun s => [s.text, s.label])

/-- Build the table unless it is there; says whether it was built. -/
def buildTable (path : String) (target cap : Nat) (dice : Dice) : Dialogue Bool := do
  match ← Dialogue.request (.pathKind path) with
  | .nothing =>
    let samples ← collectAll target cap dice sources
    Dialogue.request (.writeFile path (tableOf samples))
    Dialogue.request (.say ("Dataset saved to " ++ path ++ " (" ++ toString samples.length ++
      " samples)"))
    pure true
  | _ =>
    Dialogue.request (.say (path ++ " already exists. Skipping dataset creation."))
    pure false

end CodeAtlas.Training
