import CodeAtlas.Proofs.Dialogue.Transcript
import CodeAtlas.Proofs.Ingest.Interleaving
import CodeAtlas.Proofs.Paths

/-! Which files of a codebase are taken in. Folders to be ignored are looked for on the whole path
of a file, which begins with the way to the codebase. So if such a folder is on the way, no file is
read, and otherwise the source files are that are in no such folder. Two places with the same files
are taken in alike just when both ways have such a folder or neither has. -/

namespace CodeAtlas.Ingest

open Dialogue

variable {σ : Type} {world : World σ}

/-! ### Files by their place in the codebase -/

/-- No name is that of a folder to be ignored. -/
def Clear (names : List String) : Prop := ∀ p ∈ names, p ∉ ignoredFolders

instance : DecidablePred Clear := fun names =>
  inferInstanceAs (Decidable (∀ p ∈ names, p ∉ ignoredFolders))

theorem clear_append {names names' : List String} :
    Clear (names ++ names') ↔ Clear names ∧ Clear names' :=
  List.forall_mem_append

theorem any_ignored_eq_false_iff {names : List String} :
    names.any ignoredFolders.contains = false ↔ Clear names := by
  simp [Clear]

/-- Where a file is in a folder: the names that lead there. -/
structure Spot where
  names : List String
  ne_nil : names ≠ []
  isName : ∀ p ∈ names, Paths.IsName p

namespace Spot

variable {x y : Spot} {folder : String}

/-- The path of the file when the folder is the given one. -/
def inside (x : Spot) (folder : String) : String := Paths.under folder x.names

def fileName (x : Spot) : String := x.names.getLast x.ne_nil

/-- A source file, and no folder in the codebase that leads to it is to be ignored. -/
def IsWanted (x : Spot) : Prop :=
  Paths.suffixOf x.fileName ∈ [".py", ".java"] ∧ Clear x.names

instance : DecidablePred IsWanted := fun x =>
  inferInstanceAs (Decidable (Paths.suffixOf x.fileName ∈ [".py", ".java"] ∧ Clear x.names))

theorem parts_inside : Paths.parts (x.inside folder) = Paths.parts folder ++ x.names :=
  Paths.parts_under x.ne_nil x.isName

theorem normalize_inside : Paths.normalize (x.inside folder) = x.inside folder :=
  Paths.normalize_under x.ne_nil x.isName

theorem suffix_inside : Paths.suffix (x.inside folder) = Paths.suffixOf x.fileName :=
  congrArg Paths.suffixOf (Paths.name_under x.ne_nil x.isName)

theorem inside_inj : x.inside folder = y.inside folder ↔ x = y := by
  refine ⟨fun h => ?_, fun h => h ▸ rfl⟩
  have hparts := congrArg Paths.parts h
  rw [parts_inside, parts_inside, List.append_cancel_left_eq] at hparts
  cases x
  cases y
  cases hparts
  rfl

end Spot

theorem isSome_lookup_suffix_iff {ending : String} :
    (supportedSuffixes.lookup ending).isSome = true ↔ ending ∈ [".py", ".java"] := by
  rw [List.lookup_isSome_iff]
  simp [supportedSuffixes]

/-- The way to the codebase counts like the folders in it. -/
theorem isSelected_inside_iff {x : Spot} {folder : String} :
    isSelected (x.inside folder) = true ↔ x.IsWanted ∧ Clear (Paths.parts folder) := by
  rw [isSelected, Bool.and_eq_true, Bool.not_eq_true', any_ignored_eq_false_iff,
    isSome_lookup_suffix_iff, Spot.suffix_inside, Spot.parts_inside, clear_append, Spot.IsWanted]
  constructor
  · rintro ⟨hend, hfolder, hnames⟩
    exact ⟨⟨hend, hnames⟩, hfolder⟩
  · rintro ⟨⟨hend, hnames⟩, hfolder⟩
    exact ⟨hend, hfolder, hnames⟩

/-! ### Files that are read -/

def readPath? : Request → Option String
  | .readFile path _ => some path
  | _ => none

/-- The files that are read in a conversation. -/
def filesRead (es : List Exchange) : List String := es.filterMap fun e => readPath? e.request

def ReadsNone (q : Request) : Prop := readPath? q = none

theorem filesRead_append (es es' : List Exchange) :
    filesRead (es ++ es') = filesRead es ++ filesRead es' :=
  List.filterMap_append

theorem filesRead_eq_nil {α : Type} {d : Dialogue α} (hd : Keeps world ReadsNone (fun _ => True) d)
    (s : σ) : filesRead (d.transcript world s) = [] :=
  hd.filterMap_eq_nil (fun _ h => h) s

theorem readsNone_detectLanguage (path content : String) :
    Keeps world ReadsNone (fun _ => True) (detectLanguage path content) := by
  unfold detectLanguage
  split
  · exact .done trivial
  · exact keeps_request (q := .classify content) rfl fun _ => trivial

theorem readsNone_extractDefinitions (language content path : String) (maxRows : Int) :
    Keeps world ReadsNone (fun _ => True) (extractDefinitions language content path maxRows) := by
  unfold extractDefinitions
  split
  · exact .done trivial
  next lang _ =>
    have hparse : Keeps world ReadsNone (fun _ => True) (parse lang content) :=
      keeps_request_bind rfl fun _ =>
        keeps_request (q := .parseCode lang content) rfl fun _ => trivial
    refine keeps_bind (keeps_attempt hparse) fun r _ => ?_
    cases r with
    | error e => exact keeps_request_bind rfl fun _ => .done trivial
    | ok tree => exact keeps_seq (keeps_ofExcept fun _ _ => trivial) fun _ => .done trivial

theorem readsNone_summarize (code : String) :
    Keeps world ReadsNone (fun _ => True) (Assistant.summarize code) := by
  refine keeps_bind (keeps_attempt (keeps_request rfl fun _ => trivial)) fun r _ => ?_
  cases r with
  | error e => exact keeps_request_bind rfl fun _ => .done trivial
  | ok text => exact .done trivial

namespace SourceFile

variable (f : SourceFile)

theorem readsNone_ingestDefinition (d : Definition) :
    Keeps world ReadsNone (fun _ => True) (f.ingestDefinition d) := by
  refine keeps_seq (keeps_getNode rfl) fun existing => ?_
  split
  · exact .done trivial
  · refine keeps_seq (readsNone_summarize d.fullCode) fun summary => ?_
    refine keeps_seq (keeps_execute rfl) fun _ => ?_
    rw [linkDefinition_eq]
    exact keeps_seq (keeps_execute rfl) fun _ => .done trivial

theorem readsNone_flushFull (batchSize : Int) (batch : Columns) :
    Keeps world ReadsNone (fun _ => True) (flushFull batchSize batch) := by
  unfold flushFull
  split
  · exact keeps_request_bind rfl fun _ => .done trivial
  · exact .done trivial

theorem readsNone_ingestAll (mode : Mode) (ds : List Definition) (batch : Columns) :
    Keeps world ReadsNone (fun _ => True) (f.ingestAll mode ds batch) := by
  induction ds generalizing batch with
  | nil =>
    rcases mode with _ | batchSize
    · exact .done trivial
    · obtain ⟨_ | ⟨text, texts⟩, abouts, ids⟩ := batch
      · exact .done trivial
      · exact keeps_request (q := .addDocuments .code _) rfl fun _ => trivial
  | cons d rest ih =>
    refine keeps_seq (f.readsNone_ingestDefinition d) fun r => ?_
    cases r with
    | none => exact ih batch
    | some doc =>
      cases mode with
      | graphOnly => exact ih batch
      | full batchSize => exact keeps_seq (readsNone_flushFull batchSize _) fun batch => ih batch

theorem readsNone_ingest (mode : Mode) : Keeps world ReadsNone (fun _ => True) (f.ingest mode) :=
  keeps_seq (keeps_execute rfl) fun _ => keeps_seq (keeps_execute rfl) fun _ =>
    f.readsNone_ingestAll mode _ _

end SourceFile

/-- To take a file in, that file is read and no other. -/
theorem filesRead_ingestFile (mode : Mode) (path project : String) (s : σ) :
    filesRead ((ingestFile mode path project).transcript world s) = [Paths.normalize path] := by
  rw [ingestFile, Dialogue.bind_eq, transcript_bind, transcript_attempt, transcript_request,
    run_attempt, filesRead_append]
  refine congrArg (Paths.normalize path :: ·) (filesRead_eq_nil ?_ _)
  cases (run world (request (.readFile (Paths.normalize path) true)) s).1 with
  | error e => exact keeps_request (q := .say _) rfl fun _ => trivial
  | ok content =>
    refine keeps_seq (readsNone_detectLanguage ..) fun language => ?_
    refine keeps_seq (readsNone_extractDefinitions ..) fun r => ?_
    cases r with
    | none => exact .done trivial
    | some x => exact SourceFile.readsNone_ingest _ mode

/-- That a file fails does not keep the others from being read. -/
theorem filesRead_runTasks (mode : Mode) (paths : List String) (project : String)
    (failed : Option Failure) (s : σ) :
    filesRead ((runTasks (paths.map fun path => ingestFile mode path project) failed).transcript
      world s) = paths.map Paths.normalize := by
  induction paths generalizing failed s with
  | nil => cases failed <;> rfl
  | cons path rest ih =>
    rw [List.map_cons, runTasks, Dialogue.bind_eq, transcript_bind, transcript_attempt, run_attempt,
      filesRead_append, filesRead_ingestFile]
    refine congrArg (Paths.normalize path :: ·) ?_
    cases ((ingestFile mode path project).run world s).1 with
    | ok _ => exact ih failed _
    | error e => exact ih _ _

/-! ### The files of a codebase -/

/-- The project is accepted, and below the folder there are just the given files. -/
structure Houses (world : World σ) (s : σ) (folder project : String) (files : List Spot) :
    Prop where
  accepted : ∃ rs, (world (.graph (.upsertProject (.string project))) s).1 = .ok rs
  listed : (world (.filesBelow (Paths.normalize folder))
    (world (.graph (.upsertProject (.string project))) s).2).1 = .ok (files.map (·.inside folder))

/-- The paths of the files that are read when a codebase is taken in. -/
def taken (world : World σ) (s : σ) (mode : Mode) (folder project : String) : List String :=
  filesRead ((ingestCodebase mode folder project).transcript world s)

section Taken
variable {s : σ} {folder project : String} {files : List Spot}

theorem Houses.run_listCodebase (h : Houses world s folder project files) :
    ∃ t, (listCodebase folder project).run world s =
      (.ok ((files.map (·.inside folder)).filter isSelected), t) := by
  obtain ⟨rs, hrs⟩ := h.accepted
  have hopen : (Graph.upsertProject (.string project)).run world s =
      (.ok (), (world (.graph (.upsertProject (.string project))) s).2) :=
    run_bind_of_ok world (run_request_of_ok world hrs) _
  rw [listCodebase, run_bind_of_ok world hopen,
    run_bind_of_ok world (run_request_of_ok world h.listed)]
  exact ⟨_, rfl⟩

theorem readsNone_listCodebase :
    Keeps world ReadsNone (fun _ => True) (listCodebase folder project) :=
  keeps_seq (SourceFile.keeps_execute rfl) fun _ =>
    keeps_request_bind rfl fun _ => .done trivial

theorem Houses.taken_eq (h : Houses world s folder project files) (mode : Mode) :
    taken world s mode folder project = (files.map (·.inside folder)).filter isSelected := by
  obtain ⟨t, hlist⟩ := h.run_listCodebase
  rw [taken, ingestCodebase_eq, filesRead,
    readsNone_listCodebase.filterMap_bind_ok (fun _ h => h) hlist]
  refine (filesRead_runTasks mode _ project none t).trans ?_
  rw [List.map_congr_left (g := id), List.map_id]
  intro path hpath
  obtain ⟨x, -, rfl⟩ := List.mem_map.mp (List.mem_filter.mp hpath).1
  exact x.normalize_inside

theorem Houses.inside_mem_taken_iff (h : Houses world s folder project files) (mode : Mode)
    (x : Spot) : x.inside folder ∈ taken world s mode folder project ↔
      x ∈ files ∧ x.IsWanted ∧ Clear (Paths.parts folder) := by
  rw [h.taken_eq, List.mem_filter, isSelected_inside_iff, List.mem_map]
  simp only [Spot.inside_inj, exists_eq_right]

end Taken

/-- Where a codebase is decides whether it is taken in. The files read are its source files outside
folders to be ignored, provided that the way to the codebase has no such folder. So of two places
with the same files the same are read just when both ways are free of such folders or both are not,
or there is nothing to read. -/
theorem ingestCodebase_selection {τ : Type} (world : World σ) (s : σ) (world' : World τ) (t : τ)
    (mode mode' : Mode) (folder folder' project project' : String) (files files' : List Spot)
    (h : Houses world s folder project files) (h' : Houses world' t folder' project' files')
    (hsame : ∀ x, x ∈ files ↔ x ∈ files') :
    (∀ path, path ∈ taken world s mode folder project ↔
      ∃ x ∈ files, x.inside folder = path ∧ x.IsWanted ∧ Clear (Paths.parts folder)) ∧
    ((∀ x : Spot, x.inside folder ∈ taken world s mode folder project ↔
        x.inside folder' ∈ taken world' t mode' folder' project') ↔
      ((∃ x ∈ files, x.IsWanted) →
        (Clear (Paths.parts folder) ↔ Clear (Paths.parts folder')))) := by
  refine ⟨fun path => ?_, ?_⟩
  · constructor
    · intro hpath
      rw [h.taken_eq] at hpath
      obtain ⟨x, hx, rfl⟩ := List.mem_map.mp (List.mem_filter.mp hpath).1
      exact ⟨x, hx, rfl, isSelected_inside_iff.mp (List.mem_filter.mp hpath).2⟩
    · rintro ⟨x, hx, rfl, hwanted⟩
      exact (h.inside_mem_taken_iff mode x).mpr ⟨hx, hwanted⟩
  · simp only [h.inside_mem_taken_iff, h'.inside_mem_taken_iff, ← hsame]
    constructor
    · rintro hboth ⟨x, hx, hwanted⟩
      have := hboth x
      simpa only [hx, hwanted, true_and] using this
    · intro hclear x
      constructor
      · rintro ⟨hx, hwanted, hfolder⟩
        exact ⟨hx, hwanted, (hclear ⟨x, hx, hwanted⟩).mp hfolder⟩
      · rintro ⟨hx, hwanted, hfolder⟩
        exact ⟨hx, hwanted, (hclear ⟨x, hx, hwanted⟩).mpr hfolder⟩

/-! ### One shop in several places -/

namespace Depot

def stock : Spot := ⟨["stock.py"], by decide, by decide⟩

def library : Spot := ⟨["venv", "lib.py"], by decide, by decide⟩

def notes : Spot := ⟨["notes.txt"], by decide, by decide⟩

def files : List Spot := [stock, library, notes]

/-- A disk with these files below a folder, and a database that accepts what it is told. -/
def disk (folder : String) : World Unit := fun q s =>
  (match q with
    | .graph _ => .ok []
    | .filesBelow _ => .ok (files.map (·.inside folder))
    | _ => .error (.badValue ""), s)

theorem houses (folder : String) : Houses (disk folder) () folder "shop" files :=
  ⟨⟨[], rfl⟩, rfl⟩

theorem shop_taken_anywhere :
    taken (disk "shop") () .graphOnly "shop" "shop" = ["shop/stock.py"] ∧
      ∀ x : Spot, x.inside "shop" ∈ taken (disk "shop") () .graphOnly "shop" "shop" ↔
        x.inside "/srv/shop" ∈ taken (disk "/srv/shop") () (.full 16) "/srv/shop" "shop" := by
  obtain ⟨-, hiff⟩ := ingestCodebase_selection (disk "shop") () (disk "/srv/shop") () .graphOnly
    (.full 16) "shop" "/srv/shop" "shop" "shop" files files (houses _) (houses _) fun _ => Iff.rfl
  refine ⟨?_, hiff.mpr fun _ => iff_of_true (by decide +kernel) (by decide +kernel)⟩
  rw [(houses "shop").taken_eq]
  decide +kernel

/-- Below a folder that is to be ignored the same shop is passed over. -/
theorem shop_passed_over_in_docker :
    stock.inside "shop" ∈ taken (disk "shop") () .graphOnly "shop" "shop" ∧
      taken (disk "docker/shop") () .graphOnly "docker/shop" "shop" = [] := by
  rw [(houses "shop").inside_mem_taken_iff, (houses "docker/shop").taken_eq]
  exact ⟨⟨List.mem_cons_self, by decide +kernel⟩, by decide +kernel⟩

end Depot

end CodeAtlas.Ingest
