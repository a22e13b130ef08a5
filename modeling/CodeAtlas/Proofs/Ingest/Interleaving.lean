import CodeAtlas.Proofs.Ingest.Pool
import CodeAtlas.Proofs.Ingest.Reading

/-! A codebase comes out the same whatever the order in which its files are worked on.
Everything in the databases is under some id: records, links to it, documents about it. A
request changes what is under an id by that alone, each file asks about its own ids only,
and no id belongs to two files. So the tasks are separate in the sense of pools. The
databases are taken to carry everything out, and summaries to depend on the code alone;
failures come in as tasks that are broken off. -/

namespace CodeAtlas.Ingest

open Dialogue

/-! ### What is kept under an id -/

/-- Lists with the same items for every key are the same up to order. -/
theorem perm_of_filter_eq {α κ : Type} [DecidableEq κ] (key : α → κ) {l l' : List α}
    (h : ∀ k, l.filter (key · = k) = l'.filter (key · = k)) : l.Perm l' := by
  have := Classical.typeDecidableEq α
  rw [List.perm_iff_count]
  intro a
  have hcount : ∀ l : List α, (l.filter (key · = key a)).count a = l.count a :=
    fun l => List.count_filter (by simp)
  rw [← hcount l, ← hcount l', h]

/-- The record under an id, the links to it and the documents about it. -/
structure Share where
  record : Option Fields
  links : List Containment
  documents : List Document

def Ledger.share (s : Ledger) (id : String) : Share where
  record := s.store.get? id
  links := s.journal.links.filter (·.id = id)
  documents := s.journal.documents.filter (·.id = id)

/-- What a request that is carried out makes of what is under an id. -/
def Share.after (v : Share) (q : Request) (id : String) : Share where
  record :=
    match q with
    | .graph q => Graph.Store.recordAfter q id v.record
    | _ => v.record
  links := v.links ++ (containment? q).toList.filter (·.id = id)
  documents := v.documents ++ (documentsIn q).filter (·.id = id)

theorem share_note_accepted (s : Ledger) (q : Request) (id : String) :
    (s.note q true).share id = (s.share id).after q id := by
  have hrecord : (s.storeAfter q).get? id = ((s.share id).after q id).record := by
    cases q with
    | graph q => exact Graph.Store.get?_answer s.store q id
    | _ => rfl
  simp only [Ledger.share, Ledger.note, Share.after, Journal.links_append,
    Journal.documents_append, List.filter_append, if_true] at hrecord ⊢
  rw [hrecord]
  simp [Journal.links, Journal.documents, Entry.links, Entry.documents]

theorem share_note_refused (s : Ledger) (q : Request) (id : String) :
    (s.note q false).share id = s.share id := by
  simp [Ledger.share, Ledger.note, Journal.links, Journal.documents, Entry.links, Entry.documents]

/-- A request changes what is under an id by that alone. -/
theorem share_note_congr {s t : Ledger} {id : String} (h : s.share id = t.share id) (q : Request)
    (accepted : Bool) : (s.note q accepted).share id = (t.note q accepted).share id := by
  cases accepted with
  | true => rw [share_note_accepted, share_note_accepted, h]
  | false => rw [share_note_refused, share_note_refused, h]

theorem Share.after_quiet {q : Request} (hq : Quiet q) (v : Share) (id : String) :
    v.after q id = v := by
  have h : containment? q = none ∧ documentsIn q = [] := by
    cases q <;> first | exact hq.elim | exact ⟨rfl, rfl⟩
  cases q <;> first | exact hq.elim | simp [Share.after, h]

theorem Share.after_record {r : Graph.CodeRecord} {id : String} (hid : id ≠ r.id) (v : Share) :
    v.after (.graph (SourceFile.recordQuery r)) id = v := by
  simp [Share.after, SourceFile.recordQuery, containment?, documentsIn,
    Graph.Store.recordAfter_upsertNode, hid]

/-- What a file asks concerns its own id and those of its definitions. -/
theorem Share.after_of_foreign {f : SourceFile} {q : Request} (hq : f.Asks q) {id : String}
    (hfile : id ≠ f.nodeId) (hdefs : ∀ d ∈ f.extraction.definitions, id ≠ d.id) (v : Share) :
    v.after q id = v := by
  cases hq with
  | fileRecord => exact v.after_record hfile
  | project =>
    simp [Share.after, SourceFile.projectQuery, containment?, documentsIn, SourceFile.contains,
      Graph.Store.recordAfter, Containment.id, hfile.symm]
  | lookUp hd => simp [Share.after, containment?, documentsIn, Graph.Store.recordAfter]
  | quiet hq => exact v.after_quiet hq id
  | record hd summary => exact v.after_record (hdefs _ hd)
  | link hd =>
    simp [Share.after, SourceFile.linkQuery, containment?, documentsIn, SourceFile.contains,
      Graph.Store.recordAfter, Containment.id, (hdefs _ hd).symm]
  | @documents docs h =>
    have hnone : docs.filter (·.id = id) = [] := by
      rw [List.filter_eq_nil_iff]
      intro doc hdoc
      obtain ⟨d, hd, summary, rfl⟩ := h doc hdoc
      exact fun he => hdefs d hd (of_decide_eq_true he).symm
    simp [Share.after, containment?, documentsIn, Columns.documents_of, hnone]

/-! ### Files are separate -/

/-- The distinct files of a project that are worked on, with names free of colons. -/
structure Fileset (w : Surroundings) (project : String) (files : List String) : Prop where
  selected : ∀ path ∈ files, (supportedSuffixes.lookup (Paths.suffix path)).isSome
  distinct : (files.map Paths.normalize).Nodup
  names : ∀ path ∈ files, ∀ f, w.source path project = .ok (some f) →
    ∀ d ∈ f.extraction.definitions, ':' ∉ d.name.toList

/-- The ids of the file with number `i`. -/
def OwnedBy (project : String) (files : List String) (i : Nat) (id : String) : Prop :=
  ∃ path, files[i]? = some path ∧ Owns project (Paths.normalize path) id

/-- The same is kept under all ids of a file. -/
def AgreeFor (project : String) (files : List String) (i : Nat) (s t : Ledger) : Prop :=
  ∀ id, OwnedBy project files i id → s.share id = t.share id

/-- What the task of a file may ask. -/
def TaskAsks (w : Surroundings) (project : String) (files : List String) (i : Nat)
    (q : Request) : Prop :=
  ∃ path, files[i]? = some path ∧ w.Asks path project q

section Fileset
variable {w : Surroundings} {project : String} {files : List String}

theorem Fileset.owner_unique (h : Fileset w project files) {i j : Nat} {id : String}
    (hi : OwnedBy project files i id) (hj : OwnedBy project files j id) : i = j := by
  obtain ⟨path, hpath, howns⟩ := hi
  obtain ⟨path', hpath', howns'⟩ := hj
  have heq := Owns.path_eq (plainEnd_normalize (h.selected path (List.mem_of_getElem? hpath)))
    (plainEnd_normalize (h.selected path' (List.mem_of_getElem? hpath'))) howns howns'
  obtain ⟨hlt, -⟩ := List.getElem?_eq_some_iff.mp hpath
  refine (List.getElem?_inj (l := files.map Paths.normalize) (by simpa using hlt) h.distinct).mp ?_
  simp [hpath, hpath', heq]

/-- The ids that a file's requests are about belong to it. -/
theorem Fileset.owns (h : Fileset w project files) {i : Nat} {path : String} {f : SourceFile}
    (hi : files[i]? = some path) (hf : w.source path project = .ok (some f)) :
    OwnedBy project files i f.nodeId ∧
      ∀ d ∈ f.extraction.definitions, OwnedBy project files i d.id := by
  have hread := Surroundings.isRead_of_source hf
  refine ⟨⟨path, hi, .inl hread.nodeId_eq⟩, fun d hd => ⟨path, hi, .inr ?_⟩⟩
  exact ⟨d.name, d.startLine, h.names path (List.mem_of_getElem? hi) f hf d hd, hread.id_eq hd⟩

/-- An answer depends on nothing but what is under the file's own ids. -/
theorem Fileset.result_eq (h : Fileset w project files) (hserves : w.Serves) (hsteady : w.Steady)
    {i : Nat} {q : Request} (hq : TaskAsks w project files i q) {s t : Ledger}
    (hst : AgreeFor project files i s t) : w.result s q = w.result t q := by
  have hgraph : ∀ q, (s.store.answer q).1 = (t.store.answer q).1 →
      w.result s (.graph q) = w.result t (.graph q) := by
    intro q hq
    rw [Surroundings.result_graph, Surroundings.result_graph, hserves, hserves, hq]
  have hquiet : ∀ {q}, Quiet q → w.result s q = w.result t q := by
    intro q hq
    cases q <;> first | exact hq.elim | exact hsteady .. | rfl
  obtain ⟨path, hi, hq | ⟨f, hf, hq⟩⟩ := hq
  · exact hquiet hq
  · cases hq with
    | fileRecord => exact hgraph _ (by simp [SourceFile.recordQuery])
    | project => exact hgraph _ rfl
    | @lookUp d hd =>
      have hshare := hst d.id ((h.owns hi hf).2 d hd)
      have hget : s.store.get? d.id = t.store.get? d.id := congrArg Share.record hshare
      exact hgraph _ (by simp [hget])
    | quiet hq => exact hquiet hq
    | record hd summary => exact hgraph _ (by simp [SourceFile.recordQuery])
    | link hd => exact hgraph _ rfl
    | documents hdocs =>
      rw [Surroundings.result_addDocuments, Surroundings.result_addDocuments, hserves, hserves]

/-- A request of one file leaves alone what is under any other id. -/
theorem Fileset.share_eq (h : Fileset w project files) {i : Nat} {q : Request}
    (hq : TaskAsks w project files i q) {id : String} (hid : ¬ OwnedBy project files i id)
    (s : Ledger) : (w.world q s).2.share id = s.share id := by
  have hafter : (s.share id).after q id = s.share id := by
    obtain ⟨path, hi, hq | ⟨f, hf, hq⟩⟩ := hq
    · exact Share.after_quiet hq ..
    · obtain ⟨hfile, hdefs⟩ := h.owns hi hf
      have hne : ∀ k, OwnedBy project files i k → id ≠ k := fun k hk he => hid (he ▸ hk)
      exact Share.after_of_foreign hq (hne _ hfile) (fun d hd => hne _ (hdefs d hd)) _
  change (s.note q (w.result s q).isOk).share id = s.share id
  cases (w.result s q).isOk with
  | true => rw [share_note_accepted, hafter]
  | false => exact share_note_refused s q id

theorem Fileset.separated (h : Fileset w project files) (hserves : w.Serves)
    (hsteady : w.Steady) :
    Separated w.world (TaskAsks w project files) (AgreeFor project files) where
  refl _ _ _ _ := rfl
  trans _ _ _ _ hst htu id hid := (hst id hid).trans (htu id hid)
  answer i q s t hq hst := by
    have hresult := h.result_eq hserves hsteady hq hst
    refine ⟨hresult, fun id hid => ?_⟩
    change (s.note q (w.result s q).isOk).share id = (t.note q (w.result t q).isOk).share id
    rw [hresult]
    exact share_note_congr (hst id hid) q _
  frame i j q s hij hq id hid :=
    h.share_eq hq (fun hj => hij (h.owner_unique hid hj)) s

/-! ### Codebases -/

/-- One task for every file. -/
def codebasePool (mode : Mode) (project : String) (files : List String) (s : Ledger) :
    Pool Ledger :=
  ⟨files.map fun path => ingestFile mode path project, s⟩

theorem confined_codebasePool (mode : Mode) (s : Ledger) :
    (codebasePool mode project files s).Confined w.world (TaskAsks w project files) := by
  intro i t hi
  obtain ⟨path, hpath, rfl⟩ : ∃ path, files[i]? = some path ∧ ingestFile mode path project = t := by
    simpa [codebasePool] using hi
  exact (w.keeps_ingestFile mode path project).weaken (fun q hq => ⟨path, hpath, hq⟩) fun _ h => h

/-- However the files are worked on, one that is not broken off ends in the same way. -/
theorem Fileset.run_agree (h : Fileset w project files) (hserves : w.Serves)
    (hsteady : w.Steady) {mode : Mode} {s : Ledger} {moves moves' : List Move} {i : Nat}
    (hi : i < files.length)
    (hfin : ((codebasePool mode project files s).run w.world moves).Finished)
    (hfin' : ((codebasePool mode project files s).run w.world moves').Finished)
    (hm : ∀ e, .abort i e ∉ moves) (hm' : ∀ e, .abort i e ∉ moves') :
    ((codebasePool mode project files s).run w.world moves).tasks[i]? =
        ((codebasePool mode project files s).run w.world moves').tasks[i]? ∧
      AgreeFor project files i ((codebasePool mode project files s).run w.world moves).shared
        ((codebasePool mode project files s).run w.world moves').shared := by
  have hsep := h.separated hserves hsteady
  have hconf : (codebasePool mode project files s).Confined w.world (TaskAsks w project files) :=
    confined_codebasePool mode s
  obtain ⟨t, ht⟩ : ∃ t, (codebasePool mode project files s).tasks[i]? = some t :=
    ⟨_, List.getElem?_eq_getElem (by simpa [codebasePool] using hi)⟩
  obtain ⟨hend, hagree⟩ := (Pool.run_endsAs hsep hconf ht hm).finished hfin
  obtain ⟨hend', hagree'⟩ := (Pool.run_endsAs hsep hconf ht hm').finished hfin'
  refine ⟨hend.trans hend'.symm, fun id hid => ?_⟩
  exact (hagree id hid).trans (hagree' id hid).symm

/-- What is under an id of no file stays as it is. -/
theorem Fileset.run_share_of_unowned (h : Fileset w project files) (mode : Mode) (s : Ledger)
    (moves : List Move) {id : String} (hid : ∀ i, ¬ OwnedBy project files i id) :
    ((codebasePool mode project files s).run w.world moves).shared.share id = s.share id := by
  refine Pool.run_preserves (fun t => t.share id = s.share id) ?_ moves
    (confined_codebasePool mode s) rfl
  intro i q t hq ht
  rw [h.share_eq hq (hid i), ht]

/-- Two ways to work on all files to their ends come to the same. -/
theorem Fileset.run_share_eq (h : Fileset w project files) (hserves : w.Serves)
    (hsteady : w.Steady) {mode : Mode} {s : Ledger} {moves moves' : List Move}
    (hfin : ((codebasePool mode project files s).run w.world moves).Finished)
    (hfin' : ((codebasePool mode project files s).run w.world moves').Finished)
    (hm : ∀ i e, .abort i e ∉ moves) (hm' : ∀ i e, .abort i e ∉ moves') (id : String) :
    ((codebasePool mode project files s).run w.world moves).shared.share id =
      ((codebasePool mode project files s).run w.world moves').shared.share id := by
  by_cases howned : ∃ i, OwnedBy project files i id
  · obtain ⟨i, hid⟩ := howned
    obtain ⟨path, hpath, howns⟩ := hid
    obtain ⟨hi, -⟩ := List.getElem?_eq_some_iff.mp hpath
    exact (h.run_agree hserves hsteady hi hfin hfin' (hm i) (hm' i)).2 id ⟨path, hpath, howns⟩
  · have hid : ∀ i, ¬ OwnedBy project files i id := fun i hi => howned ⟨i, hi⟩
    rw [h.run_share_of_unowned mode s moves hid, h.run_share_of_unowned mode s moves' hid]

theorem Fileset.run_tasks_eq (h : Fileset w project files) (hserves : w.Serves)
    (hsteady : w.Steady) {mode : Mode} {s : Ledger} {moves moves' : List Move}
    (hfin : ((codebasePool mode project files s).run w.world moves).Finished)
    (hfin' : ((codebasePool mode project files s).run w.world moves').Finished)
    (hm : ∀ i e, .abort i e ∉ moves) (hm' : ∀ i e, .abort i e ∉ moves') :
    ((codebasePool mode project files s).run w.world moves).tasks =
      ((codebasePool mode project files s).run w.world moves').tasks := by
  have hlen : ∀ moves, ((codebasePool mode project files s).run w.world moves).tasks.length =
      files.length := fun moves => by simp [Pool.length_run, codebasePool]
  apply List.ext_getElem?
  intro i
  by_cases hi : i < files.length
  · exact (h.run_agree hserves hsteady hi hfin hfin' (hm i) (hm' i)).1
  · rw [List.getElem?_eq_none (by rw [hlen]; omega), List.getElem?_eq_none (by rw [hlen]; omega)]

end Fileset

/-- The first part of taking a codebase in: the project, and which files there are. -/
def listCodebase (folder project : String) : Dialogue (List String) :=
  (Graph.upsertProject (.string project)).bind fun _ =>
    (Dialogue.request (.filesBelow (Paths.normalize folder))).bind fun files =>
      .done (List.filter isSelected files)

theorem ingestCodebase_eq (mode : Mode) (folder project : String) :
    ingestCodebase mode folder project = (listCodebase folder project).bind fun files =>
      runTasks (files.map fun path => ingestFile mode path project) none := by
  simp only [ingestCodebase, listCodebase, bind_eq, bind_assoc, done_bind]
  rfl

theorem isSelected_of_list {w : Surroundings} {folder project : String} {files : List String}
    {s t : Ledger} (h : (listCodebase folder project).run w.world s = (.ok files, t)) :
    ∀ path ∈ files, (supportedSuffixes.lookup (Paths.suffix path)).isSome := by
  obtain ⟨_, _, -, h⟩ := run_bind_eq_ok _ h
  obtain ⟨all, _, -, h⟩ := run_bind_eq_ok _ h
  obtain rfl : List.filter isSelected all = files := Except.ok.inj (congrArg Prod.fst h)
  intro path hpath
  have hsel := (List.mem_filter.mp hpath).2
  rw [isSelected, Bool.and_eq_true] at hsel
  exact hsel.1

/-- Taking a codebase in does not depend on how its files are worked on. In every order, records,
links and documents come out as in the order one after another. A file that is not broken off
gets what it gets there whatever becomes of the others. The whole fails, in whichever order
the results are looked at, exactly when a task has. -/
theorem ingestCodebase_interleaving (w : Surroundings) (hserves : w.Serves) (hsteady : w.Steady)
    (mode : Mode) (folder project : String) (files : List String) (s opened : Ledger)
    (hlist : (listCodebase folder project).run w.world s = (.ok files, opened))
    (hdistinct : (files.map Paths.normalize).Nodup)
    (hnames : ∀ path ∈ files, ∀ f, w.source path project = .ok (some f) →
      ∀ d ∈ f.extraction.definitions, ':' ∉ d.name.toList)
    (moves : List Move) (pool : Pool Ledger)
    (hpool : pool = (codebasePool mode project files opened).run w.world moves)
    (hfin : pool.Finished) (result : Except Failure Unit) (alone : Ledger)
    (halone : (ingestCodebase mode folder project).run w.world s = (result, alone)) :
    ((∀ i e, .abort i e ∉ moves) →
      (∀ id, pool.shared.store.get? id = alone.store.get? id) ∧
      (∀ c, c ∈ pool.shared.journal.links ↔ c ∈ alone.journal.links) ∧
      pool.shared.journal.documents.Perm alone.journal.documents ∧
      ((∃ e, result = .error e) ↔ ∃ e, .fail e ∈ pool.tasks)) ∧
    (∀ i path, files[i]? = some path → (∀ e, .abort i e ∉ moves) →
      ∀ id, Owns project (Paths.normalize path) id →
        pool.shared.share id = alone.share id) ∧
    ∀ order : List (Dialogue Unit), order.Perm pool.tasks →
      ((∃ e, runTasks order none = .fail e) ↔ ∃ e, .fail e ∈ pool.tasks) := by
  have hset : Fileset w project files := ⟨isSelected_of_list hlist, hdistinct, hnames⟩
  rw [ingestCodebase_eq, run_bind_of_ok _ hlist] at halone
  -- The files one after another are one more way to work on them, to compare the given one with.
  obtain ⟨seq, ends, hseq, hends, hrun, hresult⟩ := Pool.exists_sequential w.world []
    (files.map fun path => ingestFile mode path project) none opened
  rw [halone] at hrun hresult
  have hlast : (codebasePool mode project files opened).run w.world seq = ⟨ends, alone⟩ := hrun
  have hlastfin : ((codebasePool mode project files opened).run w.world seq).Finished := by
    rw [hlast]
    exact hends
  subst hpool
  refine ⟨fun hm => ?_, fun i path hi hm id hid => ?_, fun order horder => ?_⟩
  · have hshare : ∀ id, ((codebasePool mode project files opened).run w.world moves).shared.share id =
        alone.share id := fun id => by
      rw [hset.run_share_eq hserves hsteady hfin hlastfin hm hseq, hlast]
    refine ⟨fun id => congrArg Share.record (hshare id), fun c => ?_, ?_, ?_⟩
    · have hlinks := congrArg Share.links (hshare c.id)
      have hmem : ∀ l : List Containment, c ∈ l ↔ c ∈ l.filter (·.id = c.id) := by simp
      rw [hmem, hmem alone.journal.links]
      exact iff_of_eq (congrArg (c ∈ ·) hlinks)
    · exact perm_of_filter_eq Document.id fun id => congrArg Share.documents (hshare id)
    · rw [hset.run_tasks_eq hserves hsteady hfin hlastfin hm hseq, hlast]
      have hfails := runTasks_fails_iff ends hends none
      rw [hresult] at hfails
      rw [← show (_ ↔ ∃ e, Dialogue.fail e ∈ ends) by simpa using hfails]
      cases result <;> simp [Dialogue.ofExcept]
  · obtain ⟨hlt, -⟩ := List.getElem?_eq_some_iff.mp hi
    have := (hset.run_agree hserves hsteady hlt hfin hlastfin hm (hseq i)).2 id ⟨path, hi, hid⟩
    rwa [hlast] at this
  · rw [runTasks_fails_iff order fun t ht => hfin t (horder.mem_iff.mp ht)]
    simp [horder.mem_iff]

/-! ### Two files, one broken off -/

/-- A module with one function of two rows. -/
def functionTree (name : String) : Node :=
  .mk "module" 0 1 (.ok "") [] [.mk "function_definition" 0 1 (.ok "") []
    [.mk "identifier" 0 0 (.ok name) [] []]]

def shop : Surroundings where
  answer
    | .filesBelow _ => .ok ["shop/cart.py", "shop/till.py"]
    | .readFile path _ =>
      .ok (if path = "shop/cart.py" then "def add():\n    pass" else "def pay():\n    pass")
    | .loadParser _ | .say _ => .ok ()
    | .parseCode _ code =>
      .ok (functionTree (if code = "def add():\n    pass" then "add" else "pay"))
    | _ => .error .untold
  reply _ _ := .ok "A step of the shop."
  refusal _ _ := none

def shopFiles : List String := List.filter isSelected ["shop/cart.py", "shop/till.py"]

/-- The files take turns, until the second one is broken off. -/
def shopMoves : List Move :=
  (List.replicate 6 [.advance 0, .advance 1]).flatten ++
    .abort 1 .untold :: List.replicate 4 (.advance 0)

def shopPool : Pool Ledger :=
  (codebasePool (.full 1) "shop" shopFiles ((listCodebase "shop" "shop").run shop.world .empty).2).run
    shop.world shopMoves

set_option maxRecDepth 10000 in
theorem shop_first_file_undisturbed :
    shopPool.Finished ∧ shopPool.shared.journal.writes.map Prod.fst =
      ["shop:shop/cart.py", "shop:shop/till.py", "shop/cart.py:add:1"] ∧
    ∀ id, Owns "shop" (Paths.normalize "shop/cart.py") id → shopPool.shared.share id =
      ((ingestCodebase (.full 1) "shop" "shop").run shop.world .empty).2.share id := by
  have hfin : shopPool.Finished := by decide +kernel
  have hnames : (shopFiles.all fun path => shop.readsTo path "shop" fun f =>
      f.extraction.definitions.all fun d => !d.name.toList.contains ':') = true := by
    decide +kernel
  refine ⟨hfin, by decide +kernel, ?_⟩
  refine (ingestCodebase_interleaving shop (fun _ _ => rfl) (fun _ _ _ => rfl) (.full 1) "shop"
    "shop" shopFiles .empty _ rfl (by decide +kernel) ?_ shopMoves shopPool rfl hfin _ _ rfl).2.1
    0 "shop/cart.py" (by decide +kernel) (by simp [shopMoves])
  intro path hpath f hf d hd
  obtain ⟨g, hg, hall⟩ :=
    Surroundings.exists_of_readsTo path "shop" _ (List.all_eq_true.mp hnames path hpath)
  obtain rfl : f = g := Option.some.inj (Except.ok.inj (hf.symm.trans hg))
  simpa using List.all_eq_true.mp hall d hd

end CodeAtlas.Ingest
