import CodeAtlas.Proofs.Ingest.Ledger

/-! Taking a file in has two parts. Reading it asks files and parsers only, so it goes the
same way whatever the databases hold; then everything that is asked is about the file read
or about a definition in it. -/

namespace CodeAtlas.Ingest

open Dialogue

/-! ### Reading -/

/-- Read a file and its definitions. One that cannot be read or parsed gives nothing. -/
def readSource (path project : String) : Dialogue (Option SourceFile) :=
  let path := Paths.normalize path
  (Dialogue.request (.readFile path true)).attempt.bind fun
    | .error e =>
      (Dialogue.request (.say ("Skipping " ++ path ++ ": " ++ e.message))).bind fun _ => .done none
    | .ok content =>
      (detectLanguage path content).bind fun language =>
        (extractDefinitions language content path defaultMaxRows).bind fun extraction =>
          .done (extraction.map fun x => ⟨path, project, language, content, x⟩)

theorem ingestFile_eq (mode : Mode) (path project : String) :
    ingestFile mode path project = (readSource path project).bind fun
      | none => .done ()
      | some f => f.ingest mode := by
  simp only [ingestFile, readSource, bind_eq, bind_assoc]
  congr 1
  funext r
  cases r with
  | error e =>
    simp only [Dialogue.request, ask_bind]
    congr 1
    funext a
    cases a <;> rfl
  | ok content =>
    simp only [bind_assoc]
    congr 1
    funext language
    congr 1
    funext x
    cases x <;> rfl

/-- The file is this one, and its definitions are those of some tree. -/
structure SourceFile.IsRead (path project : String) (f : SourceFile) : Prop where
  path_eq : f.path = Paths.normalize path
  project_eq : f.project = project
  extracted : ∃ lang tree, extract lang f.content f.path defaultMaxRows tree = .ok f.extraction

namespace SourceFile

variable {path project : String} {f : SourceFile}

theorem IsRead.nodeId_eq (h : f.IsRead path project) :
    f.nodeId = fileId project (Paths.normalize path) := by
  rw [SourceFile.nodeId, h.path_eq, h.project_eq]
  rfl

theorem IsRead.id_eq (h : f.IsRead path project) {d : Definition}
    (hd : d ∈ f.extraction.definitions) :
    d.id = definitionId (Paths.normalize path) d.name d.startLine := by
  obtain ⟨lang, tree, hx⟩ := h.extracted
  rw [id_of_mem_extract hx hd, h.path_eq]

/-- In a file with a known ending no definition goes by the id of the file. -/
theorem IsRead.id_ne_nodeId (h : f.IsRead path project)
    (hs : (supportedSuffixes.lookup (Paths.suffix path)).isSome) {d : Definition}
    (hd : d ∈ f.extraction.definitions) : d.id ≠ f.nodeId := by
  rw [h.id_eq hd, h.nodeId_eq]
  exact definitionId_ne_fileId (plainEnd_normalize hs) _ _ _

end SourceFile

namespace Surroundings

variable {w w' : Surroundings}

theorem keeps_detectLanguage (path content : String) :
    Keeps w.world Plain (fun _ => True) (detectLanguage path content) := by
  unfold detectLanguage
  split
  · exact .done trivial
  · exact keeps_request (q := .classify content) trivial fun _ => trivial

theorem keeps_extractDefinitions (language content path : String) (maxRows : Int) :
    Keeps w.world Plain (fun r => ∀ x, r = some x →
        ∃ lang tree, extract lang content path maxRows tree = .ok x)
      (extractDefinitions language content path maxRows) := by
  unfold extractDefinitions
  split
  · exact .done fun x hx => by cases hx
  next lang _ =>
    have hparse : Keeps w.world Plain (fun _ => True) (parse lang content) :=
      keeps_request_bind trivial fun _ =>
        keeps_request (q := .parseCode lang content) trivial fun _ => trivial
    refine keeps_bind (keeps_attempt hparse) fun r _ => ?_
    cases r with
    | error e =>
      refine keeps_request_bind trivial fun _ => ?_
      exact .done fun x hx => by cases hx
    | ok tree =>
      refine keeps_bind (keeps_ofExcept fun x hx => hx) fun x hx => ?_
      exact .done fun y hy => ⟨lang, tree, Option.some.inj hy ▸ hx⟩

theorem keeps_readSource (path project : String) :
    Keeps w.world Plain (fun r => ∀ f, r = some f → f.IsRead path project)
      (readSource path project) := by
  refine keeps_bind (keeps_attempt (keeps_request trivial fun _ => trivial)) fun r _ => ?_
  cases r with
  | error e =>
    refine keeps_request_bind trivial fun _ => ?_
    exact .done fun f hf => by cases hf
  | ok content =>
    refine keeps_bind (keeps_detectLanguage ..) fun language _ =>
      keeps_bind (keeps_extractDefinitions ..) fun x hx => .done fun f hf => ?_
    obtain ⟨y, rfl, rfl⟩ := Option.map_eq_some_iff.mp hf
    exact ⟨rfl, rfl, hx y rfl⟩

variable (w)

/-- What reading a file gives. -/
def source (path project : String) : Except Failure (Option SourceFile) :=
  ((readSource path project).run w.world .empty).1

/-- What reading a file asks. -/
def readings (path project : String) : Journal :=
  ((readSource path project).run w.world .empty).2.journal

variable {w}

/-- Reading gives a file that passes a test. -/
def readsTo (w : Surroundings) (path project : String) (test : SourceFile → Bool) : Bool :=
  match w.source path project with
  | .ok (some f) => test f
  | _ => false

theorem exists_of_readsTo (path project : String) (test : SourceFile → Bool)
    (h : w.readsTo path project test = true) :
    ∃ f, w.source path project = .ok (some f) ∧ test f = true := by
  unfold readsTo at h
  split at h
  · exact ⟨_, by assumption, h⟩
  · cases h

theorem isRead_of_source {path project : String} {f : SourceFile}
    (h : w.source path project = .ok (some f)) : f.IsRead path project :=
  (keeps_readSource path project).run_post h f rfl

theorem plain_readings (path project : String) :
    ∀ e ∈ w.readings path project, Plain e.request := by
  have hstep : ∀ q (s : Ledger), Plain q → (∀ e ∈ s.journal, Plain e.request) →
      ∀ e ∈ (w.world q s).2.journal, Plain e.request := by
    intro q s hq hs e he
    rw [world_plain hq] at he
    rcases List.mem_append.mp he with he | he
    · exact hs e he
    · rw [List.mem_singleton.mp he]
      exact hq
  have hempty : ∀ e ∈ Ledger.empty.journal, Plain e.request := fun e he => by cases he
  exact (keeps_readSource path project).run_preserves
    (fun s => ∀ e ∈ s.journal, Plain e.request) hstep hempty

theorem idle_readings (path project : String) : (w.readings path project).Idle :=
  fun e he => idle_of_quiet (quiet_of_plain (plain_readings path project e he))

/-- Taking a file in is reading it and then, if there is something, going on with that. -/
theorem run_ingestFile (mode : Mode) (path project : String) (s : Ledger) :
    (ingestFile mode path project).run w.world s =
      match w.source path project with
      | .error e => (.error e, ⟨s.store, s.journal ++ w.readings path project⟩)
      | .ok none => (.ok (), ⟨s.store, s.journal ++ w.readings path project⟩)
      | .ok (some f) =>
        (f.ingest mode).run w.world ⟨s.store, s.journal ++ w.readings path project⟩ := by
  rw [ingestFile_eq, run_bind, run_plain (keeps_readSource path project), source, readings]
  rcases ((readSource path project).run w.world .empty).1 with e | _ | f <;> rfl

/-- Reading does not depend on the databases. -/
theorem source_congr (hw : w'.answer = w.answer) (path project : String) :
    w'.source path project = w.source path project ∧
      w'.readings path project = w.readings path project := by
  have h := run_plain_congr hw (keeps_readSource (w := w) path project) .empty
  exact ⟨congrArg (·.1) h, congrArg (·.2.journal) h⟩

end Surroundings

/-- One text on the disk, whose tree is known, and databases that carry everything out. -/
def Surroundings.ofText (content : String) (tree : Node) : Surroundings where
  answer
    | .readFile _ _ => .ok content
    | .loadParser _ | .say _ => .ok ()
    | .parseCode _ _ => .ok tree
    | _ => .error .untold
  reply _ _ := .ok "Some code."
  refusal _ _ := none

/-! ### What is asked about a file -/

namespace SourceFile

variable (f : SourceFile)

/-- What a definition is linked from: the definition around it, or else the file. -/
def container (d : Definition) : String :=
  (d.parent.filter (· ≠ "")).getD f.nodeId

/-- Why a definition is linked from there. -/
def linkReason (d : Definition) : String :=
  if (d.parent.filter (· ≠ "")).isSome then "ast_structure" else "file_structure"

def linkQuery (d : Definition) : Graph.Query :=
  .link (.string (f.container d)) (.string d.id) contains (because (linkReason d))

def projectQuery : Graph.Query :=
  .linkProject (.string f.project) (.string f.nodeId) contains (because "project_root")

/-- The statement that stores a record. -/
def recordQuery (r : Graph.CodeRecord) : Graph.Query :=
  .upsertNode r.fields (.string r.hash)

theorem linkDefinition_eq (d : Definition) :
    f.linkDefinition d = Graph.execute (f.linkQuery d) := by
  unfold linkDefinition linkQuery container linkReason
  cases d.parent.filter (· ≠ "") <;> rfl

/-- Every document is one of a definition of the file. -/
def OwnDocuments (docs : List Document) : Prop :=
  ∀ doc ∈ docs, ∃ d ∈ f.extraction.definitions, ∃ summary, doc = f.document d summary

/-- The requests that taking a file in can lead to once it is read. -/
inductive Asks : Request → Prop where
  | fileRecord : Asks (.graph (recordQuery f.fileRecord))
  | project : Asks (.graph f.projectQuery)
  | lookUp {d : Definition} (hd : d ∈ f.extraction.definitions) :
    Asks (.graph (.node (.string d.id)))
  | quiet {q : Request} (hq : Quiet q) : Asks q
  | record {d : Definition} (hd : d ∈ f.extraction.definitions) (summary : String) :
    Asks (.graph (recordQuery (f.record d summary)))
  | link {d : Definition} (hd : d ∈ f.extraction.definitions) : Asks (.graph (f.linkQuery d))
  | documents {docs : List Document} (h : f.OwnDocuments docs) :
    Asks (.addDocuments .code (.of docs))

variable {f} {w : Surroundings} {σ : Type} {world : World σ} {allowed : Request → Prop}

theorem keeps_execute {q : Graph.Query} (hq : allowed (.graph q)) :
    Keeps world allowed (fun _ => True) (Graph.execute q) :=
  keeps_request_bind hq fun _ => .done trivial

theorem keeps_getNode {id : Json} (hq : allowed (.graph (.node id))) :
    Keeps world allowed (fun _ => True) (Graph.getNode id) := by
  have hfirst : Keeps world allowed (fun _ => True) (Graph.firstRecord (.node id)) :=
    keeps_request_bind hq fun _ => .done trivial
  refine keeps_bind hfirst fun r _ => ?_
  cases r with
  | none => exact .done trivial
  | some r => exact keeps_bind (keeps_ofExcept fun _ _ => trivial) fun _ (_ : True) => .done trivial

/-- A definition is looked up, and then perhaps summarised, stored and linked. -/
theorem keeps_ingestDefinition {d : Definition} (hd : d ∈ f.extraction.definitions) :
    Keeps w.world f.Asks (fun r => ∀ doc, r = some doc → ∃ summary, doc = f.document d summary)
      (f.ingestDefinition d) := by
  refine keeps_bind (keeps_getNode (.lookUp hd)) fun existing _ => ?_
  split
  · exact .done fun doc hdoc => by cases hdoc
  · have hsummary := (Surroundings.keeps_summarize (w := w) d.fullCode).weaken
      (fun _ hq => Asks.quiet (f := f) hq) (fun _ h => h)
    refine keeps_bind hsummary fun summary _ => keeps_bind (keeps_execute (.record hd summary))
      fun _ _ => ?_
    rw [linkDefinition_eq]
    exact keeps_bind (keeps_execute (.link hd)) fun _ _ => .done fun doc hdoc =>
      ⟨summary, (Option.some.inj hdoc).symm⟩

theorem keeps_flushFull {docs : List Document} (h : f.OwnDocuments docs) (batchSize : Int) :
    Keeps w.world f.Asks (fun batch => ∃ docs, batch = .of docs ∧ f.OwnDocuments docs)
      (flushFull batchSize (.of docs)) := by
  unfold flushFull
  split
  · exact keeps_request_bind (.documents h) fun _ =>
      .done ⟨[], rfl, fun doc hdoc => by cases hdoc⟩
  · exact .done ⟨docs, rfl, h⟩

theorem keeps_ingestAll (mode : Mode) {ds : List Definition}
    (hds : ∀ d ∈ ds, d ∈ f.extraction.definitions) {batch : List Document}
    (hb : f.OwnDocuments batch) :
    Keeps w.world f.Asks (fun _ => True) (f.ingestAll mode ds (.of batch)) := by
  induction ds generalizing batch with
  | nil =>
    rcases mode with _ | batchSize
    · exact .done trivial
    · cases batch with
      | nil => exact .done trivial
      | cons doc rest =>
        exact keeps_request (q := .addDocuments .code _) (.documents hb) fun _ => trivial
  | cons d rest ih =>
    have hrest : ∀ d ∈ rest, d ∈ f.extraction.definitions :=
      fun d hd => hds d (List.mem_cons_of_mem _ hd)
    have hd := hds d List.mem_cons_self
    refine keeps_bind (keeps_ingestDefinition hd) fun r hr => ?_
    cases r with
    | none => exact ih hrest hb
    | some doc =>
      cases mode with
      | graphOnly => exact ih hrest hb
      | full batchSize =>
        have hdocs : f.OwnDocuments (batch ++ [doc]) := by
          intro doc' hdoc'
          rcases List.mem_append.mp hdoc' with h | h
          · exact hb doc' h
          · exact ⟨d, hd, List.mem_singleton.mp h ▸ hr doc rfl⟩
        have hflush := keeps_flushFull (w := w) hdocs batchSize
        rw [← Columns.push_of] at hflush
        refine keeps_bind hflush fun rows hrows => ?_
        obtain ⟨docs, rfl, hown⟩ := hrows
        exact ih hrest hown

theorem keeps_ingest (mode : Mode) : Keeps w.world f.Asks (fun _ => True) (f.ingest mode) := by
  have hempty : f.OwnDocuments [] := fun _ hdoc => by cases hdoc
  exact keeps_bind (keeps_execute .fileRecord) fun _ _ =>
    keeps_bind (keeps_execute .project) fun _ _ =>
      keeps_ingestAll mode (fun _ hd => hd) hempty

end SourceFile

/-- The requests that taking in the file at a path leads to. -/
def Surroundings.Asks (w : Surroundings) (path project : String) (q : Request) : Prop :=
  Quiet q ∨ ∃ f, w.source path project = .ok (some f) ∧ f.Asks q

theorem Surroundings.keeps_ingestFile (w : Surroundings) (mode : Mode) (path project : String) :
    Keeps w.world (w.Asks path project) (fun _ => True) (ingestFile mode path project) := by
  rw [ingestFile_eq]
  have hread := (keeps_run_plain (keeps_readSource (w := w) path project)).weaken
    (fun q hq => (Or.inl (quiet_of_plain hq) : w.Asks path project q)) (fun _ h => h)
  refine keeps_bind hread fun r hr => ?_
  cases r with
  | none => exact .done trivial
  | some f => exact (SourceFile.keeps_ingest mode).weaken (fun q hq => .inr ⟨f, hr, hq⟩) fun _ h => h

end CodeAtlas.Ingest
