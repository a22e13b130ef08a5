import CodeAtlas.Proofs.Dialogue.Grounded
import CodeAtlas.Proofs.Ingest.Interleaving
import CodeAtlas.Proofs.Ingest.Site
import CodeAtlas.Proofs.Ingest.Turn

/-! Links find both of their ends. The database makes a link between two things only if both are
there; otherwise it does nothing and says nothing. Whenever taking in a codebase asks for a
link, both ends are in the store: the project is entered first, a file before its definitions,
and a definition after all definitions around it, unless it was there before. Nothing is ever
taken out of the store, so this holds as well while several files are worked on at once. -/

namespace CodeAtlas

namespace Graph

/-! ### Ends of links -/

/-- What a link can begin or end at. -/
inductive Endpoint where
  | node (id : Json)
  | project (name : Json)

/-- The ends that a statement looks for before it makes a link. -/
def Query.endpoints : Query → List Endpoint
  | .link source target _ _ => [.node source, .node target]
  | .linkProject project target _ _ => [.project project, .node target]
  | _ => []

def Store.has (s : Store) : Endpoint → Bool
  | .node id => (id.string?.bind s.get?).isSome
  | .project name => name.string?.any s.projects.contains

namespace Store

theorem isSome_recordAfter {old : Option Fields} (h : old.isSome) (q : Query) (id : String) :
    (recordAfter q id old).isSome := by
  unfold recordAfter
  split
  · split
    · split
      · rfl
      · exact h
    · exact h
  · exact h

theorem mem_projects_answer {s : Store} {name : String} (h : name ∈ s.projects) (q : Query) :
    name ∈ (s.answer q).2.projects := by
  cases q with
  | upsertNode props hash =>
    simp only [answer]
    split
    · unfold upsert
      split <;> exact h
    · exact h
  | upsertProject new =>
    cases new with
    | string new =>
      change name ∈ (s.addProject new).projects
      unfold addProject
      split
      · exact h
      · exact List.mem_append_left _ h
    | _ => exact h
  | _ => exact h

/-- Nothing is taken out of the store. -/
theorem has_answer {s : Store} {x : Endpoint} (h : s.has x = true) (q : Query) :
    (s.answer q).2.has x = true := by
  cases x with
  | node id =>
    cases id with
    | string id =>
      have hsome : (s.get? id).isSome := h
      change ((s.answer q).2.get? id).isSome
      rw [get?_answer]
      exact isSome_recordAfter hsome q id
    | _ => cases h
  | project name =>
    cases name with
    | string name =>
      have hmem : name ∈ s.projects := by simpa [has, Json.string?] using h
      simpa [has, Json.string?] using mem_projects_answer hmem q
    | _ => cases h

theorem has_answer_record (s : Store) (r : CodeRecord) :
    (s.answer (.upsertNode r.fields (.string r.hash))).2.has (.node (.string r.id)) = true := by
  simp [has, Json.string?, get?_upsert]

theorem has_answer_project (s : Store) (name : String) :
    (s.answer (.upsertProject (.string name))).2.has (.project (.string name)) = true := by
  have hmem : name ∈ (s.addProject name).projects := by
    unfold addProject
    split
    · simpa using ‹s.projects.contains name = true›
    · simp
  simpa [answer, has, Json.string?] using hmem

end Store

end Graph

namespace Ingest

open Dialogue
open CodeAtlas.Graph (Endpoint)

/-! ### Order of definitions -/

/-- A definition comes after the one around it, or that one is known already. -/
def OutsideIn (known : String → Prop) : List Definition → Prop
  | [] => True
  | d :: rest =>
    (∀ p, d.parent = some p → known p) ∧ OutsideIn (fun id => known id ∨ id = d.id) rest

theorem OutsideIn.mono {known known' : String → Prop} {ds : List Definition}
    (h : OutsideIn known ds) (hsub : ∀ id, known id → known' id) : OutsideIn known' ds := by
  induction ds generalizing known known' with
  | nil => trivial
  | cons d rest ih =>
    refine ⟨fun p hp => hsub p (h.1 p hp), ih h.2 fun id hid => ?_⟩
    exact hid.imp_left (hsub id)

theorem OutsideIn.append {known : String → Prop} {ds ds' : List Definition}
    (h : OutsideIn known ds) (h' : OutsideIn known ds') : OutsideIn known (ds ++ ds') := by
  induction ds generalizing known with
  | nil => exact h'
  | cons d rest ih => exact ⟨h.1, ih h.2 (h'.mono fun _ => .inl)⟩

mutual

/-- Definitions are extracted from outside in. -/
theorem outsideIn_extractFrom (src : Source) : ∀ (owner : Option String) (n : Node)
    {x : Extraction} {known : String → Prop}, extractFrom src owner n = .ok x →
      (∀ o, owner = some o → known o) → OutsideIn known x.definitions
  | owner, .mk kind first last text roles children, x, known, h, howner => by
    obtain ⟨own, below, hown, hbelow, rfl⟩ := extractFrom_eq_ok h
    change OutsideIn known (own.definitions ++ below.definitions)
    rw [definitions_of_contribution hown]
    rw [ownerAt] at hbelow
    cases hd : definitionAt? src owner (.mk kind first last text roles children) with
    | none =>
      rw [hd] at hbelow
      exact outsideIn_extractAll src owner children hbelow howner
    | some d =>
      rw [hd] at hbelow
      have hparent : d.parent = owner := by
        obtain ⟨type, -, rfl⟩ := Option.map_eq_some_iff.mp hd
        rfl
      refine ⟨fun p hp => howner p (hparent ▸ hp), ?_⟩
      refine outsideIn_extractAll src (some d.id) children hbelow fun o ho => .inr ?_
      exact (Option.some.inj ho).symm

theorem outsideIn_extractAll (src : Source) : ∀ (owner : Option String) (ns : List Node)
    {x : Extraction} {known : String → Prop}, extractAll src owner ns = .ok x →
      (∀ o, owner = some o → known o) → OutsideIn known x.definitions
  | owner, [], x, known, h, _ => by
    cases h
    trivial
  | owner, n :: rest, x, known, h, howner => by
    obtain ⟨a, b, ha, hb, rfl⟩ := extractAll_cons_eq_ok h
    exact (outsideIn_extractFrom src owner n ha howner).append
      (outsideIn_extractAll src owner rest hb howner)

end

theorem SourceFile.IsRead.outsideIn {path project : String} {f : SourceFile}
    (h : f.IsRead path project) (known : String → Prop) :
    OutsideIn known f.extraction.definitions := by
  obtain ⟨lang, tree, hx⟩ := h.extracted
  rw [extract_eq_extractFrom] at hx
  exact outsideIn_extractFrom _ none tree hx fun o ho => by cases ho

/-! ### What is asked relies on what was done -/

/-- The ends of the link that a request asks for. -/
def endpoints : Request → List Endpoint
  | .graph q => q.endpoints
  | _ => []

/-- Something is in the store. -/
def Held (s : Ledger) (x : Endpoint) : Prop := s.store.has x = true

def Needed (q : Request) (x : Endpoint) : Prop := x ∈ endpoints q

/-- Requests find the ends of links that they ask for. -/
abbrev FindsEnds {α : Type} (w : Surroundings) (post : α → (Endpoint → Prop) → Prop)
    (known : Endpoint → Prop) (d : Dialogue α) : Prop :=
  Grounded w.world Held Needed post known d

section FindsEnds
variable {w : Surroundings} {known : Endpoint → Prop}

theorem lasting_held : Lasting w.world Held := by
  intro q s x hx
  change (if (w.result s q).isOk then s.storeAfter q else s.store).has x = true
  split
  · cases q with
    | graph q => exact Graph.Store.has_answer hx q
    | _ => exact hx
  · exact hx

theorem not_needed_of_quiet (q : Request) (hq : Quiet q) (x : Endpoint) : ¬ Needed q x := by
  cases q <;> first | exact hq.elim | exact List.not_mem_nil

/-- A statement that is carried out brings in what it always brings in. -/
theorem findsEnds_execute {q : Graph.Query} (hneeds : ∀ x ∈ q.endpoints, known x)
    {gained : List Endpoint}
    (hgained : ∀ store : Graph.Store, ∀ x ∈ gained, (store.answer q).2.has x = true) :
    FindsEnds w (fun _ known => ∀ x ∈ gained, known x) known (Graph.execute q) := by
  have hasked : FindsEnds w (fun _ known => ∀ x ∈ gained, known x) known
      (request (.graph q)) := by
    refine grounded_request hneeds fun s a ha x hx => ?_
    rw [Surroundings.world_graph] at ha ⊢
    cases hr : w.refusal s.journal (.graph q) with
    | some e =>
      rw [hr] at ha
      cases ha
    | none => exact hgained s.store x hx
  exact hasked.bind lasting_held fun _ _ _ h => .done h

/-- What a look-up has found is in the store. -/
theorem findsEnds_getNode (id : String) :
    FindsEnds w (fun r known => r.isSome → known (.node (.string id))) known
      (Graph.getNode (.string id)) := by
  let found (rs : List Fields) (known : Endpoint → Prop) : Prop :=
    rs ≠ [] → known (.node (.string id))
  have hrecords : FindsEnds w found known (Graph.records (.node (.string id))) := by
    refine grounded_request (q := .graph (.node (.string id)))
      (fun x hx => absurd hx List.not_mem_nil) fun s a ha hne => ?_
    rw [Surroundings.world_graph] at ha ⊢
    cases hr : w.refusal s.journal (.graph (.node (.string id))) with
    | some e =>
      rw [hr] at ha
      cases ha
    | none =>
      rw [hr] at ha
      cases ha
      change (s.store.get? id).isSome
      cases hget : s.store.get? id with
      | none => simp [hget] at hne
      | some n => rfl
  have hfirst : FindsEnds w (fun r known => r.isSome → known (.node (.string id))) known
      (Graph.firstRecord (.node (.string id))) := by
    refine hrecords.bind lasting_held fun rs _ _ hrs => .done fun hsome => hrs ?_
    rintro rfl
    cases hsome
  refine hfirst.bind lasting_held fun r known₁ _ hr => ?_
  cases r with
  | none => exact .done fun h => by cases h
  | some r =>
    have hnode : FindsEnds w (fun _ _ => True) known₁ (ofExcept (Graph.nodeIn r)) :=
      grounded_ofExcept fun _ _ => trivial
    exact hnode.bind lasting_held fun _ _ hsub _ => .done fun _ => hsub _ (hr rfl)

theorem findsEnds_addCode (batch : Columns) :
    FindsEnds w (fun _ _ => True) known (SourceFile.addCode batch) :=
  grounded_request (q := .addDocuments .code batch)
    (fun _ hx => absurd hx List.not_mem_nil) fun _ _ _ => trivial

namespace SourceFile

variable {f : SourceFile}

/-- A definition that was taken in or left alone is in the store. -/
theorem findsEnds_ingestDefinition {d : Definition}
    (hcontainer : known (.node (.string (f.container d)))) :
    FindsEnds w (fun _ known => known (.node (.string d.id))) known (f.ingestDefinition d) := by
  refine (findsEnds_getNode d.id).bind lasting_held fun existing known₁ hsub₁ hfound => ?_
  by_cases hup : upToDate d existing = true
  · rw [if_pos hup]
    refine .done (hfound ?_)
    cases existing with
    | none => cases hup
    | some n => rfl
  · rw [if_neg hup]
    have hsummary : FindsEnds w (fun _ _ => True) known₁ (Assistant.summarize d.fullCode) :=
      (Surroundings.keeps_summarize d.fullCode).grounded not_needed_of_quiet known₁
    refine hsummary.bind lasting_held fun summary known₂ hsub₂ _ => ?_
    have hrecord : FindsEnds w (fun _ known => ∀ x ∈ [Endpoint.node (.string d.id)], known x)
        known₂ (Graph.execute (recordQuery (f.record d summary))) := by
      refine findsEnds_execute (fun x hx => absurd hx List.not_mem_nil) fun store x hx => ?_
      rw [List.mem_singleton.mp hx]
      exact store.has_answer_record (f.record d summary)
    refine hrecord.bind lasting_held fun _ known₃ hsub₃ hstored => ?_
    have hchild : known₃ (.node (.string d.id)) := hstored _ (List.mem_singleton.mpr rfl)
    rw [linkDefinition_eq]
    have hlink : FindsEnds w (fun _ known => ∀ x ∈ [], known x) known₃
        (Graph.execute (f.linkQuery d)) := by
      refine findsEnds_execute (fun x hx => ?_) fun _ x hx => absurd hx List.not_mem_nil
      rcases List.mem_cons.mp hx with rfl | hx
      · exact hsub₃ _ (hsub₂ _ (hsub₁ _ hcontainer))
      · rw [List.mem_singleton.mp hx]
        exact hchild
    exact hlink.bind lasting_held fun _ _ hsub₄ _ => .done (hsub₄ _ hchild)

theorem known_container {d : Definition} (hfile : known (.node (.string f.nodeId)))
    (hparent : ∀ p, d.parent = some p → known (.node (.string p))) :
    known (.node (.string (f.container d))) := by
  unfold container
  cases hp : d.parent.filter (· ≠ "") with
  | none => exact hfile
  | some p => exact hparent p (Option.eq_some_of_filter_eq_some hp)

theorem findsEnds_ingestAll (mode : Mode) {ds : List Definition} (batch : Columns)
    (hfile : known (.node (.string f.nodeId)))
    (hds : OutsideIn (fun id => known (.node (.string id))) ds) :
    FindsEnds w (fun _ _ => True) known (f.ingestAll mode ds batch) := by
  induction ds generalizing known batch with
  | nil =>
    rcases f.ingestAll_nil mode batch with h | h
    · rw [h]
      exact .done trivial
    · rw [h]
      exact findsEnds_addCode batch
  | cons d rest ih =>
    rw [ingestAll_cons]
    refine (findsEnds_ingestDefinition (known_container hfile hds.1)).bind lasting_held
      fun r known₁ hsub₁ hd => ?_
    -- Whatever is known when the rest is come to, the file and all earlier definitions are.
    have hrest : ∀ batch known', (∀ x, known₁ x → known' x) →
        FindsEnds w (fun _ _ => True) known' (f.ingestAll mode rest batch) := by
      intro batch known' hsub'
      refine ih batch (hsub' _ (hsub₁ _ hfile)) (hds.2.mono fun id hid => hsub' _ ?_)
      rcases hid with hid | rfl
      · exact hsub₁ _ hid
      · exact hd
    cases r with
    | none => exact hrest batch known₁ fun _ hx => hx
    | some doc =>
      cases mode with
      | graphOnly => exact hrest batch known₁ fun _ hx => hx
      | full batchSize =>
        simp only [goOn, flushFull_eq]
        split
        · have hflush : FindsEnds w (fun _ _ => True) known₁
              ((addCode (batch.push doc)).bind fun _ => .done Columns.empty) :=
            (findsEnds_addCode _).bind lasting_held fun _ _ _ _ => .done trivial
          exact hflush.bind lasting_held fun batch known' hsub' _ => hrest batch known' hsub'
        · exact hrest _ known₁ fun _ hx => hx

theorem findsEnds_ingest (mode : Mode) {path project : String} (hread : f.IsRead path project)
    (hproject : known (.project (.string f.project))) :
    FindsEnds w (fun _ _ => True) known (f.ingest mode) := by
  have hrecord : FindsEnds w (fun _ known => ∀ x ∈ [Endpoint.node (.string f.nodeId)], known x)
      known (Graph.execute (recordQuery f.fileRecord)) := by
    refine findsEnds_execute (fun x hx => absurd hx List.not_mem_nil) fun store x hx => ?_
    rw [List.mem_singleton.mp hx]
    exact store.has_answer_record f.fileRecord
  refine hrecord.bind lasting_held fun _ known₁ hsub₁ hstored => ?_
  have hfile : known₁ (.node (.string f.nodeId)) := hstored _ (List.mem_singleton.mpr rfl)
  have hlink : FindsEnds w (fun _ known => ∀ x ∈ [], known x) known₁
      (Graph.execute f.projectQuery) := by
    refine findsEnds_execute (fun x hx => ?_) fun _ x hx => absurd hx List.not_mem_nil
    rcases List.mem_cons.mp hx with rfl | hx
    · exact hsub₁ _ hproject
    · rw [List.mem_singleton.mp hx]
      exact hfile
  refine hlink.bind lasting_held fun _ known₂ hsub₂ _ => ?_
  exact findsEnds_ingestAll mode .empty (hsub₂ _ hfile) (hread.outsideIn _)

end SourceFile

theorem findsEnds_ingestFile (mode : Mode) (path : String) {project : String}
    (hproject : known (.project (.string project))) :
    FindsEnds w (fun _ _ => True) known (ingestFile mode path project) := by
  rw [ingestFile_eq]
  have hreading : FindsEnds w (fun r _ => ∀ f, r = some f → f.IsRead path project) known
      (readSource path project) :=
    (Surroundings.keeps_readSource path project).grounded
      (fun q hq => not_needed_of_quiet q (quiet_of_plain hq)) known
  refine hreading.bind lasting_held fun r known' hsub hread => ?_
  cases r with
  | none => exact .done trivial
  | some f =>
    have hf := hread f rfl
    exact SourceFile.findsEnds_ingest mode hf (hf.project_eq ▸ hsub _ hproject)

theorem findsEnds_runTasks {tasks : List (Dialogue Unit)} (failed : Option Failure)
    (htasks : ∀ t ∈ tasks, FindsEnds w (fun _ _ => True) known t) :
    FindsEnds w (fun _ _ => True) known (runTasks tasks failed) := by
  induction tasks generalizing known failed with
  | nil =>
    cases failed with
    | none => exact .done trivial
    | some e => exact .fail e
  | cons t rest ih =>
    refine (htasks t List.mem_cons_self).attempt.bind lasting_held fun r known' hsub _ => ?_
    have hrest : ∀ t ∈ rest, FindsEnds w (fun _ _ => True) known' t :=
      fun t ht => (htasks t (List.mem_cons_of_mem _ ht)).mono hsub
    cases r with
    | ok _ => exact ih failed hrest
    | error e => exact ih _ hrest

theorem findsEnds_listCodebase (folder project : String) :
    FindsEnds w (fun _ known => known (.project (.string project))) known
      (listCodebase folder project) := by
  have hproject : FindsEnds w
      (fun _ known => ∀ x ∈ [Endpoint.project (.string project)], known x) known
      (Graph.execute (.upsertProject (.string project))) := by
    refine findsEnds_execute (fun x hx => absurd hx List.not_mem_nil) fun store x hx => ?_
    rw [List.mem_singleton.mp hx]
    exact store.has_answer_project project
  refine hproject.bind lasting_held fun _ known₁ _ hknown => ?_
  have hfiles : FindsEnds w (fun _ _ => True) known₁
      (request (.filesBelow (Paths.normalize folder))) :=
    grounded_request (fun _ hx => absurd hx List.not_mem_nil) fun _ _ _ => trivial
  exact hfiles.bind lasting_held fun _ _ hsub _ =>
    .done (hsub _ (hknown _ (List.mem_singleton.mpr rfl)))

theorem findsEnds_tasks (mode : Mode) {project : String} (files : List String)
    (hproject : known (.project (.string project))) :
    ∀ t ∈ files.map fun path => ingestFile mode path project,
      FindsEnds w (fun _ _ => True) known t := by
  intro t ht
  obtain ⟨path, -, rfl⟩ := List.mem_map.mp ht
  exact findsEnds_ingestFile mode path hproject

theorem findsEnds_ingestCodebase (mode : Mode) (folder project : String) :
    FindsEnds w (fun _ _ => True) known (ingestCodebase mode folder project) := by
  rw [ingestCodebase_eq]
  exact (findsEnds_listCodebase folder project).bind lasting_held fun files _ _ hproject =>
    findsEnds_runTasks none (findsEnds_tasks mode files hproject)

end FindsEnds

/-! ### Beside one another -/

/-- However grounded tasks are advanced, whichever is about to ask finds what it needs. -/
theorem Pool.needs_met {σ φ : Type} {world : World σ} {holds : σ → φ → Prop}
    {needs : Request → φ → Prop} (hlasting : Lasting world holds) (moves : List Move) {p : Pool σ}
    (hp : ∀ t ∈ p.tasks, Grounded world holds needs (fun _ _ => True) (holds p.shared) t)
    {q : Request} {next : Except Failure q.Answer → Dialogue Unit}
    (hq : .ask q next ∈ (p.run world moves).tasks) :
    ∀ x, needs q x → holds (p.run world moves).shared x := by
  induction moves generalizing p with
  | nil =>
    cases hp _ hq with
    | ask hneeds _ => exact hneeds
  | cons m moves ih =>
    refine ih ?_ hq
    rcases p.step_cases world m with hs | ⟨j, q, next, -, hj, hs⟩ | ⟨j, e, -, hs⟩
    · rwa [hs]
    · rw [hs]
      intro t ht
      rcases List.mem_or_eq_of_mem_set ht with ht | rfl
      · exact (hp t ht).mono fun x hx => hlasting q p.shared x hx
      · cases hp _ (List.mem_of_getElem? hj) with
        | ask _ hnext => exact hnext p.shared fun _ hx => hx
    · rw [hs]
      intro t ht
      rcases List.mem_or_eq_of_mem_set ht with ht | rfl
      · exact hp t ht
      · exact .fail e

/-- Whenever a link is asked for, both of its ends are in the store at that moment: in a run of
the whole, and however the tasks of the files are advanced or broken off. -/
theorem ingestCodebase_endpoints_held (w : Surroundings) (mode : Mode) (folder project : String)
    (s : Ledger) :
    (∀ m ∈ (ingestCodebase mode folder project).moments w.world s,
      ∀ x ∈ endpoints m.1, m.2.store.has x = true) ∧
    ∀ files opened, (listCodebase folder project).run w.world s = (.ok files, opened) →
      ∀ (moves : List Move) (pool : Pool Ledger),
        pool = (codebasePool mode project files opened).run w.world moves →
        ∀ q next, Dialogue.ask q next ∈ pool.tasks →
          ∀ x ∈ endpoints q, pool.shared.store.has x = true := by
  refine ⟨fun m hm => ?_, ?_⟩
  · have hwhole : FindsEnds w (fun _ _ => True) (fun _ => False) _ :=
      findsEnds_ingestCodebase mode folder project
    exact hwhole.needs_met (fun _ hx => hx.elim) m hm
  · rintro files opened hrun moves _ rfl q next hq
    have hlist : FindsEnds w _ (fun _ => False) _ := findsEnds_listCodebase folder project
    have hproject : Held opened (.project (.string project)) :=
      hlist.run_post (fun _ _ _ hsub h => hsub _ h) (fun _ hx => hx.elim) hrun
    have htasks : ∀ t ∈ (codebasePool mode project files opened).tasks,
        FindsEnds w (fun _ _ => True) (Held opened) t := findsEnds_tasks mode files hproject
    exact Pool.needs_met lasting_held moves htasks hq

/-! ### A class that is there already -/

/-- One file with a class and its method; from some length of the journal on the databases
carry nothing out. -/
def rack (limit : Nat) : Surroundings where
  answer
    | .filesBelow _ => .ok ["shop/rack.py"]
    | .readFile _ _ => .ok "class Rack:\n    def add(self): pass"
    | .loadParser _ | .say _ => .ok ()
    | .parseCode _ _ => .ok (.mk "module" 0 1 (.ok "") [] [.mk "class_definition" 0 1 (.ok "") []
        [.mk "identifier" 0 0 (.ok "Rack") [] [], .mk "function_definition" 1 1 (.ok "") []
          [.mk "identifier" 1 1 (.ok "add") [] []]]])
    | _ => .error .untold
  reply _ _ := .ok "Some code."
  refusal es _ := if limit ≤ es.length then some .untold else none

/-- The ledger when a first run has broken off after the class. -/
def rackBegun : Ledger :=
  ((ingestCodebase .graphOnly "shop" "shop").run (rack 11).world .empty).2

/-- A second run, just before the method is linked. -/
def rackPool : Pool Ledger :=
  (codebasePool .graphOnly "shop" (List.filter isSelected ["shop/rack.py"])
    ((listCodebase "shop" "shop").run (rack 100).world rackBegun).2).run (rack 100).world
      (List.replicate 9 (.advance 0))

/-- The task is about to ask for this link. -/
def isAbout (link : Containment) : Dialogue Unit → Bool
  | .ask q _ => containment? q = some link
  | _ => false

theorem exists_ask_of_isAbout {link : Containment} {t : Dialogue Unit} (h : isAbout link t = true) :
    ∃ q next, t = .ask q next ∧ containment? q = some link := by
  cases t with
  | ask q next => exact ⟨q, next, rfl, of_decide_eq_true h⟩
  | _ => cases h

set_option maxRecDepth 10000 in
/-- The second run leaves the class alone, and the method's link finds it. -/
theorem rack_link_finds_ends :
    rackBegun.journal.writes.map Prod.fst = ["shop:shop/rack.py", "shop/rack.py:Rack:1"] ∧
    rackPool.shared.journal.writes.map Prod.fst = ["shop:shop/rack.py", "shop/rack.py:Rack:1",
      "shop:shop/rack.py", "shop/rack.py:add:2"] ∧
    (∃ m ∈ (ingestCodebase .graphOnly "shop" "shop").moments (rack 100).world rackBegun,
      containment? m.1 = some (.inNode "shop/rack.py:Rack:1" "shop/rack.py:add:2") ∧
      ∀ x ∈ endpoints m.1, m.2.store.has x = true) ∧
    ∃ q next, Dialogue.ask q next ∈ rackPool.tasks ∧
      containment? q = some (.inNode "shop/rack.py:Rack:1" "shop/rack.py:add:2") ∧
      ∀ x ∈ endpoints q, rackPool.shared.store.has x = true := by
  have hheld := ingestCodebase_endpoints_held (rack 100) .graphOnly "shop" "shop" rackBegun
  have hmoment : (((ingestCodebase .graphOnly "shop" "shop").moments (rack 100).world rackBegun).any
      fun m => containment? m.1 = some (.inNode "shop/rack.py:Rack:1" "shop/rack.py:add:2")) =
        true := by
    decide +kernel
  have htask : (rackPool.tasks.any
      (isAbout (.inNode "shop/rack.py:Rack:1" "shop/rack.py:add:2"))) = true := by
    decide +kernel
  obtain ⟨m, hm, hlink⟩ := List.any_eq_true.mp hmoment
  obtain ⟨t, ht, habout⟩ := List.any_eq_true.mp htask
  obtain ⟨q, next, rfl, hq⟩ := exists_ask_of_isAbout habout
  refine ⟨by decide +kernel, by decide +kernel, ⟨m, hm, of_decide_eq_true hlink, hheld.1 m hm⟩,
    q, next, ht, hq, hheld.2 _ _ rfl _ rackPool rfl q next ht⟩

end Ingest

end CodeAtlas
