import CodeAtlas.Assistant.Model
import CodeAtlas.Digest.Sha256
import CodeAtlas.Graph.Catalogue
import CodeAtlas.Ingest.Definition
import CodeAtlas.Paths
import CodeAtlas.Text.Casing

/-! Taking a source file into the databases. The file and each definition in it
become records of the graph, linked from outside in; definitions whose code has not
changed since the last time are left alone. A full ingestion also puts every new
definition into the vector database, in batches. -/

namespace CodeAtlas.Ingest

/-- Whether the vector database is filled too, and in batches of which size. -/
inductive Mode where
  | graphOnly
  | full (batchSize : Int)
  deriving Repr, DecidableEq

/-- Endings of source files, with the language that they stand for. -/
def supportedSuffixes : List (String × String) := [(".py", "Python"), (".java", "Java")]

/-- Folders whose files are passed over. -/
def ignoredFolders : List String := [".git", "__pycache__", "venv", ".idea", "docker", ".mvn"]

/-- The fingerprint by which changed code is told. -/
def fingerprint (code : String) : String :=
  Digest.sha256 code

/-- A language by its name in any case. -/
def languageOf? (name : String) : Option Language :=
  match Language.ofName (Text.lower name) with
  | .ok lang => some lang
  | .error _ => none

/-- The tree of a piece of code. -/
def parse (lang : Language) (content : String) : Dialogue Node := do
  Dialogue.request (.loadParser lang)
  Dialogue.request (.parseCode lang content)

/-- Read the definitions of a file. A language that is not known has none, and a
file that cannot be parsed is mentioned and has none either. -/
def extractDefinitions (language content path : String) (maxRows : Int) :
    Dialogue (Option Extraction) := do
  match languageOf? language with
  | none => pure none
  | some lang =>
    match ← (parse lang content).attempt with
    | .error e =>
      Dialogue.request (.say ("Failed to parse " ++ path ++ ": " ++ e.message))
      pure none
    | .ok tree => some <$> (extract lang content path maxRows tree : Except Failure Extraction)

/-- A file that is being taken in. -/
structure SourceFile where
  path : String
  project : String
  language : String
  content : String
  extraction : Extraction

namespace SourceFile

variable (f : SourceFile)

def nodeId : String := f.project ++ ":" ++ f.path

def fileName : String := Paths.name f.path

/-- The record of the file itself. -/
def fileRecord : Graph.CodeRecord where
  id := f.nodeId
  name := f.fileName
  kind := "file"
  type := "file"
  language := f.language
  path := f.path
  project := f.project
  startLine := 1
  endLine := (Text.rows f.content.toList).length
  summary := "File " ++ f.fileName
  defined := []
  used := []
  hash := fingerprint f.content

/-- The record of a definition. -/
def record (d : Definition) (summary : String) : Graph.CodeRecord where
  id := d.id
  name := d.name
  kind := d.type
  type := d.type
  language := f.language
  path := f.path
  project := f.project
  startLine := d.startLine
  endLine := d.endLine
  summary := summary
  defined := f.extraction.definedBy d.id
  used := f.extraction.usedBy d.id
  hash := fingerprint d.fullCode

/-- The text under which a definition is found again. -/
def documentText (d : Definition) (summary : String) : String :=
  "Type: " ++ d.type ++ "\nName: " ++ d.name ++ "\nSummary: " ++ summary ++ "\n\nCode:\n" ++
    d.truncatedCode

def document (d : Definition) (summary : String) : Document where
  id := d.id
  text := documentText d summary
  about :=
    [("project", .string f.project), ("file_path", .string f.path),
      ("language", .string f.language), ("node_type", .string d.type),
      ("node_name", .string d.name),
      ("symbols_defined", .string (",".intercalate (f.extraction.definedBy d.id)))]

/-- A record is up to date when it has the fingerprint of the code. -/
def upToDate (d : Definition) (existing : Option Fields) : Bool :=
  match existing with
  | some props =>
    !props.isEmpty && (props.getOrNull "node_hash").same (.string (fingerprint d.fullCode))
  | none => false

/-- The relation of a thing to the things in it. -/
def contains : Json := .string "CONTAINS"

/-- The properties of a link that is there for a reason. -/
def because (reason : String) : Json := .object [("reason", .string reason)]

/-- Link a definition from the one around it, or else from the file. -/
def linkDefinition (d : Definition) : Dialogue Unit :=
  match d.parent.filter (· ≠ "") with
  | some parent =>
    Graph.link (.string parent) (.string d.id) contains (because "ast_structure")
  | none => Graph.link (.string f.nodeId) (.string d.id) contains (because "file_structure")

/-- Take in one definition; gives its document unless nothing has changed. -/
def ingestDefinition (d : Definition) : Dialogue (Option Document) := do
  let existing ← Graph.getNode (.string d.id)
  if upToDate d existing then pure none
  else
    let summary ← Assistant.summarize d.fullCode
    Graph.upsertNode (f.record d summary)
    f.linkDefinition d
    pure (some (f.document d summary))

/-- Put a batch away when there are enough texts in it; all columns begin anew then. -/
def flushFull (batchSize : Int) (batch : Columns) : Dialogue Columns := do
  if batchSize ≤ batch.texts.length then
    Dialogue.request (.addDocuments .code batch)
    pure .empty
  else pure batch

/-- Take in definitions one after another, holding back a batch of documents in columns. -/
def ingestAll (mode : Mode) : List Definition → Columns → Dialogue Unit
  | [], batch =>
    match mode, batch.texts with
    | .full _, _ :: _ => Dialogue.request (.addDocuments .code batch)
    | _, _ => pure ()
  | d :: rest, batch => do
    match ← f.ingestDefinition d, mode with
    | some doc, .full batchSize =>
      let batch ← flushFull batchSize (batch.push doc)
      ingestAll mode rest batch
    | _, _ => ingestAll mode rest batch

/-- Take in the file: its own record, its place in the project, its definitions. -/
def ingest (mode : Mode) : Dialogue Unit := do
  Graph.upsertNode f.fileRecord
  Graph.linkProject (.string f.project) (.string f.nodeId) contains (because "project_root")
  f.ingestAll mode f.extraction.definitions .empty

end SourceFile

/-- The language of a file by its ending, or else by its content. -/
def detectLanguage (path content : String) : Dialogue String :=
  match supportedSuffixes.lookup (Paths.suffix path) with
  | some language => pure language
  | none => Dialogue.request (.classify content)

/-- Take a file in. One that cannot be read is mentioned and passed over. -/
def ingestFile (mode : Mode) (path project : String) : Dialogue Unit := do
  let path := Paths.normalize path
  match ← (Dialogue.request (.readFile path true)).attempt with
  | .error e => Dialogue.request (.say ("Skipping " ++ path ++ ": " ++ e.message))
  | .ok (content : String) =>
    let language ← detectLanguage path content
    match ← extractDefinitions language content path defaultMaxRows with
    | none => pure ()
    | some extraction =>
      (SourceFile.mk path project language content extraction).ingest mode

/-- Whether a file of a codebase is taken in: it has a known ending, and no folder
on its path is to be ignored. -/
def isSelected (path : String) : Bool :=
  (supportedSuffixes.lookup (Paths.suffix path)).isSome &&
    !(Paths.parts path).any ignoredFolders.contains

/-- Carry every task out, then fail with the first failure. -/
def runTasks : List (Dialogue Unit) → Option Failure → Dialogue Unit
  | [], none => pure ()
  | [], some e => .fail e
  | t :: rest, failed => do
    match ← t.attempt with
    | .ok () => runTasks rest failed
    | .error e => runTasks rest (failed.or (some e))

/-- Take in all source files of a folder. -/
def ingestCodebase (mode : Mode) (folder project : String) : Dialogue Unit := do
  Graph.upsertProject (.string project)
  let files : List String ← Dialogue.request (.filesBelow (Paths.normalize folder))
  runTasks ((files.filter isSelected).map fun path => ingestFile mode path project) none

end CodeAtlas.Ingest
