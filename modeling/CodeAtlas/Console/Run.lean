import CodeAtlas.Console.Command
import CodeAtlas.Ingest.File
import CodeAtlas.Link.Project

/-! Carrying commands out. What happens is shown on the terminal as it goes, with a
task for every folder or project. -/

namespace CodeAtlas.Console

/-- Show a line, with markup for its colours. -/
def line (text : String) : Dialogue Unit :=
  Dialogue.request (.display (.line text))

def blank : Dialogue Unit :=
  Dialogue.request (.display .blank)

def task (number : Nat) (text : String) : Dialogue Unit :=
  Dialogue.request (.display (.task number text))

def progress (number : Nat) (text : String) : Dialogue Unit :=
  Dialogue.request (.display (.progress number text))

def good : String := "[green]✓[/green] "

def bad : String := "[red]✗[/red] "

def warning : String := "[yellow]⚠[/yellow] "

/-- A heading in a colour. -/
def heading (colour text : String) : Dialogue Unit :=
  line ("\n[bold " ++ colour ++ "]" ++ text ++ "[/bold " ++ colour ++ "]\n")

/-- The folders among paths; anything else is pointed out. -/
def folders : List String → Dialogue (List String)
  | [] => pure []
  | path :: rest => do
    let path := Paths.normalize path
    match ← Dialogue.request (.pathKind path) with
    | .nothing =>
      line (bad ++ "Path does not exist: " ++ path)
      folders rest
    | .file =>
      line (bad ++ "Path is not a directory: " ++ path)
      folders rest
    | .folder => do
      let others ← folders rest
      pure (path :: others)

/-! ### Linking -/

/-- Link one project. That it cannot be looked up is a failure of the whole; that
it cannot be linked is only shown. -/
def linkOne (created : Link.Times) (number : Nat) (project : String) : Dialogue Unit := do
  task number ("Linking " ++ project ++ "...")
  if (← Graph.projectExists (.string project)).truthy then
    match ← (Link.linkProject project created).attempt with
    | .ok () =>
      progress number (good ++ "Linked " ++ project)
      line (good ++ "Successfully linked: " ++ project)
    | .error e =>
      progress number (bad ++ "Failed " ++ project)
      line (bad ++ "Failed to link " ++ project ++ ": " ++ e.message)
  else
    progress number (warning ++ "Project " ++ project ++ " not found")
    line (warning ++ "Project '" ++ project ++ "' not found in graph DB")

def linkFrom (created : Link.Times) (number : Nat) : List String → Dialogue Unit
  | [] => pure ()
  | p :: rest => do
    linkOne created number p
    linkFrom created (number + 1) rest

def linkAll (created : Link.Times) (projects : List String) : Dialogue Unit :=
  linkFrom created 0 projects

def linkingHeading : Dialogue Unit :=
  heading "cyan" "🔗 Starting Semantic Linking"

/-! ### Taking folders in -/

/-- Words for the two ways of taking folders in. -/
structure Wording where
  start : String
  /-- After the project's name while it is being taken in. -/
  whither : String
  success : String
  finish : String

def fullWording : Wording where
  start := "🚀 Starting Full Ingestion"
  whither := "..."
  success := "Successfully ingested: "
  finish := "✓ Full ingestion complete!"

def graphWording : Wording where
  start := "🚀 Starting Graph DB Ingestion"
  whither := " to graph DB..."
  success := "Successfully ingested to graph DB: "
  finish := "✓ Graph DB ingestion complete!"

/-- Take one folder in as a project of its name. -/
def ingestOne (mode : Ingest.Mode) (w : Wording) (number : Nat) (folder : String) :
    Dialogue Unit := do
  let project := Paths.name folder
  task number ("Ingesting " ++ project ++ w.whither)
  match ← (Ingest.ingestCodebase mode folder project).attempt with
  | .ok () =>
    progress number (good ++ "Ingested " ++ project)
    line (good ++ w.success ++ folder)
  | .error e =>
    progress number (bad ++ "Failed " ++ project)
    line (bad ++ "Failed to ingest " ++ folder ++ ": " ++ e.message)

def ingestFrom (mode : Ingest.Mode) (w : Wording) (number : Nat) : List String → Dialogue Unit
  | [] => pure ()
  | f :: rest => do
    ingestOne mode w number f
    ingestFrom mode w (number + 1) rest

/-- Take folders in and perhaps link them; gives the exit code. -/
def ingestAll (mode : Ingest.Mode) (w : Wording) (linking : Bool) (created : Link.Times)
    (paths : List String) : Dialogue Nat := do
  heading "cyan" w.start
  let found ← folders paths
  if found.isEmpty then
    line "[red]No valid paths to process[/red]"
    pure 1
  else
    ingestFrom mode w 0 found
    if linking then
      linkingHeading
      linkAll created (found.map Paths.name)
    heading "green" w.finish
    pure 0

/-! ### The other commands -/

def linkProjects (created : Link.Times) (projects : List String) : Dialogue Nat := do
  linkingHeading
  if projects.isEmpty then
    line "[red]No projects specified[/red]"
    pure 1
  else
    linkAll created projects
    heading "green" "✓ Semantic linking complete!"
    pure 0

/-- A cell of the overview. -/
def cell (r : Fields) (key : String) (missing : Json) : String :=
  ((r.get? key).getD missing).shown

/-- The overview of projects. -/
def overviewTable (rs : List Fields) : Shown :=
  .table "Ingested Projects"
    [("Project", "cyan", true), ("Files", "magenta", false), ("Code Nodes", "green", false)]
    (rs.map fun r => [cell r "project" (.string "N/A"), cell r "file_count" (.int 0),
      cell r "node_count" (.int 0)])

/-- Show the projects that the graph database knows. -/
def showProjects : Dialogue Unit := do
  line "[yellow]Connecting to graph database...[/yellow]"
  let rs ← Graph.records .overview
  if rs.isEmpty then line "[yellow]No projects found in database[/yellow]"
  else Dialogue.request (.display (overviewTable rs))

def showStatus : Dialogue Nat := do
  heading "cyan" "📊 Project Status"
  match ← showProjects.attempt with
  | .ok () => pure ()
  | .error e => line (bad ++ "Failed to retrieve status: " ++ e.message)
  blank
  pure 0

/-- What the commands do. -/
def infoText : String := "\n".intercalate [
  "",
  "[bold]Available Commands:[/bold]",
  "",
  "  [cyan]full[/cyan]     - Complete ingestion pipeline (vector DB + graph DB + semantic linking)",
  "  [cyan]vector[/cyan]   - Ingest codebase into vector database only",
  "  [cyan]graph[/cyan]    - Ingest codebase into graph database only",
  "  [cyan]link[/cyan]     - Perform semantic linking on existing graph data",
  "  [cyan]status[/cyan]   - Show status of ingested projects",
  "  [cyan]info[/cyan]     - Display this information",
  "",
  "[bold]Usage Examples:[/bold]",
  "",
  "  # Full ingestion of a project",
  "  python -m src.app.cli full /path/to/project",
  "",
  "  # Graph ingestion with semantic linking",
  "  python -m src.app.cli graph /path/to/project --with-semantic-linking",
  "",
  "  # Vector DB ingestion only",
  "  python -m src.app.cli vector /path/to/project1 /path/to/project2",
  "",
  "  # Semantic linking for existing projects",
  "  python -m src.app.cli link project_name1 project_name2",
  "",
  "  # Check project status",
  "  python -m src.app.cli status",
  "",
  "[bold]Notes:[/bold]",
  "",
  "  • Multiple paths/projects can be specified for batch processing",
  "  • Project name is derived from the folder name",
  "  • Use --help on any command for detailed options",
  "\x20\x20\x20\x20"]

def showInfo : Dialogue Nat := do
  heading "cyan" "ℹ️  JAICA CLI Information"
  line infoText
  blank
  pure 0

/-- Documents that are put into the vector database at a time. -/
def batchSize : Int := 16

/-- Carry a command out at a given time; gives the exit code. -/
def run (created : Link.Times) : Command → Dialogue Nat
  | .full paths skip => ingestAll (.full batchSize) fullWording (!skip) created paths
  | .graph paths linking => ingestAll .graphOnly graphWording linking created paths
  | .link projects => linkProjects created projects
  | .status => showStatus
  | .info => showInfo

end CodeAtlas.Console
