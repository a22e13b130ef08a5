import CodeAtlas.Proofs.Dialogue.Rely
import CodeAtlas.Proofs.Ingest.Interleaving
import CodeAtlas.Proofs.Ingest.Turn

/-! Taking a codebase in, as a change of the store. Its files are worked on at once, so what one of
them finds may have been written by another. A course is a way in which the store may go on from
the start. If all that a file writes stays on the course, and what it writes or leaves alone meets
a goal that the course does not undo, then the goals of all files are met at the end, whatever
the order. Nothing is assumed of the databases, which may refuse any request, nor of the
files, which may give rise to the same ids. -/

namespace CodeAtlas.Ingest

open Dialogue
open CodeAtlas.Graph (Store)

/-! ### Courses -/

/-- A way in which the store may go on. -/
structure Course where
  rel : Store → Store → Prop
  refl : ∀ a, rel a a
  trans : ∀ {a b c}, rel a b → rel b c → rel a c

namespace Course

/-- A fact stays true. -/
def preserving (fact : Store → Prop) : Course where
  rel a b := fact a → fact b
  refl _ h := h
  trans hab hbc h := hbc (hab h)

/-- The store of a ledger goes on in this way. -/
def along (c : Course) (s t : Ledger) : Prop := c.rel s.store t.store

variable {c : Course} {w : Surroundings} {s : Ledger} {α : Type}

theorem along_refl (s : Ledger) : c.along s s := c.refl s.store

theorem along_trans (s t u : Ledger) (h : c.along s t) (h' : c.along t u) : c.along s u :=
  c.trans h h'

theorem along_of_store_eq {t : Ledger} (h : t.store = s.store) : c.along s t := by
  rw [along, h]
  exact c.refl _

/-- Where the store stays as it is, every course is kept. -/
theorem secures_of_still {post : α → Prop} {d : Dialogue α}
    (hd : Keeps w.world (fun q => ∀ t, (w.world q t).2.store = t.store) post d) (s : Ledger) :
    Secures w.world c.along (fun a _ => post a) s d :=
  hd.secures (fun _ t hq => along_of_store_eq (hq t)) s

theorem still_of_quiet {q : Request} (hq : Quiet q) (t : Ledger) :
    (w.world q t).2.store = t.store := by
  rw [Surroundings.world_quiet hq]

theorem still_addDocuments (into : Collection) (columns : Columns) (t : Ledger) :
    (w.world (.addDocuments into columns) t).2.store = t.store := by
  rw [Surroundings.world_addDocuments]
  cases w.refusal t.journal (.addDocuments into columns) <;> rfl

/-- A statement that is carried out does what it does to the store of that moment. -/
theorem secures_statement {q : Graph.Query}
    (hmove : ∀ t, c.along s t → c.rel t.store (t.store.answer q).2) :
    Secures w.world c.along (fun rs u => ∃ t, c.along s t ∧ t.store.answer q = (rs, u.store)) s
      (request (.graph q)) := by
  refine secures_request (q := .graph q) (fun t hst => ?_) fun t rs hst hrs => ⟨t, hst, ?_⟩
  · rw [Surroundings.world_graph]
    cases w.refusal t.journal (.graph q) with
    | some e => exact along_of_store_eq rfl
    | none => exact hmove t hst
  · rw [Surroundings.world_graph] at hrs ⊢
    cases hr : w.refusal t.journal (.graph q) with
    | some e => simp [hr] at hrs
    | none =>
      rw [hr] at hrs
      exact Prod.ext (Except.ok.inj hrs) rfl

theorem secures_execute {q : Graph.Query}
    (hmove : ∀ t, c.along s t → c.rel t.store (t.store.answer q).2) :
    Secures w.world c.along (fun _ u => ∃ t, c.along s t ∧ u.store = (t.store.answer q).2) s
      (Graph.execute q) := by
  refine (secures_statement hmove).bind along_trans along_refl fun rs u _ hu => .done ?_
  obtain ⟨t, hst, hanswer⟩ := hu
  exact ⟨t, hst, (congrArg Prod.snd hanswer).symm⟩

/-- A look-up gives what the store has at that moment. -/
theorem secures_getNode (id : String) :
    Secures w.world c.along (fun r t => r = t.store.get? id) s (Graph.getNode (.string id)) := by
  have hfirst : Secures w.world c.along
      (fun r t => r = (t.store.get? id).map fun n => Store.record "n" (.object n)) s
      (Graph.firstRecord (.node (.string id))) := by
    refine (secures_statement fun t _ => c.refl t.store).bind along_trans along_refl
      fun rs u _ hu => .done ?_
    obtain ⟨t, -, hanswer⟩ := hu
    rw [Store.answer_node] at hanswer
    obtain ⟨rfl, hstore⟩ := Prod.mk.inj hanswer
    rw [← hstore]
    cases t.store.get? id <;> rfl
  refine hfirst.bind along_trans along_refl fun r t _ hr => ?_
  subst hr
  cases hget : t.store.get? id with
  | none => exact .done hget.symm
  | some n => exact .done hget.symm

end Course

/-! ### Files -/

/-- What a file writes stays on a course that begins at a store. Once the file's own record is
written `own` holds, and once a definition is written or left alone its `goal` holds; the course
undoes neither. A definition is written after it was found to be out of date, but others may
have gone on since. -/
structure SourceFile.Follows (f : SourceFile) (c : Course) (start : Store) (own : Store → Prop)
    (goal : Definition → Store → Prop) : Prop where
  file : ∀ a, c.rel start a → c.rel a (a.upsert f.nodeId f.fileRecord.properties)
  stored : ∀ d ∈ f.extraction.definitions, ∀ a b summary, c.rel start a →
    a.hash? d.id ≠ some d.hash → c.rel a b →
      c.rel b (b.upsert d.id (f.record d summary).properties)
  own_file : ∀ a : Store, own (a.upsert f.nodeId f.fileRecord.properties)
  goal_stored : ∀ d ∈ f.extraction.definitions, ∀ (a : Store) summary,
    goal d (a.upsert d.id (f.record d summary).properties)
  goal_kept : ∀ d ∈ f.extraction.definitions, ∀ a, c.rel start a →
    a.hash? d.id = some d.hash → goal d a
  own_stays : ∀ a b, c.rel a b → own a → own b
  goal_stays : ∀ d ∈ f.extraction.definitions, ∀ a b, c.rel a b → goal d a → goal d b

namespace SourceFile.Follows

open Course

variable {f : SourceFile} {c : Course} {start : Store} {own : Store → Prop}
  {goal : Definition → Store → Prop} {w : Surroundings}

theorem secures_ingestDefinition (h : f.Follows c start own goal) {d : Definition}
    (hd : d ∈ f.extraction.definitions) {s : Ledger} (hs : c.rel start s.store) :
    Secures w.world c.along (fun _ t => goal d t.store) s (f.ingestDefinition d) := by
  refine (secures_getNode d.id).bind along_trans along_refl fun existing a hsa hfound => ?_
  have ha : c.rel start a.store := c.trans hs hsa
  by_cases hup : upToDate d existing = true
  · rw [if_pos hup]
    rw [hfound, upToDate_iff] at hup
    exact .done (h.goal_kept d hd _ ha hup)
  · rw [if_neg hup]
    rw [hfound, upToDate_iff] at hup
    -- From here on the store at the look-up is what the written record goes back to.
    have hsummary : Secures w.world c.along (fun _ _ => True) a
        (Assistant.summarize d.fullCode) :=
      secures_of_still ((Surroundings.keeps_summarize d.fullCode).weaken
        (fun _ hq => still_of_quiet hq) fun _ h => h) a
    refine hsummary.bind along_trans along_refl fun summary b hab _ => ?_
    have hrecord : Secures w.world c.along (fun _ u => goal d u.store) b
        (Graph.execute (recordQuery (f.record d summary))) := by
      refine (secures_execute fun t hbt => ?_).weaken fun _ u hu => ?_
      · rw [recordQuery, Store.answer_upsertNode]
        exact h.stored d hd _ _ summary ha hup (c.trans hab hbt)
      · obtain ⟨t, -, hstore⟩ := hu
        rw [hstore, recordQuery, Store.answer_upsertNode]
        exact h.goal_stored d hd _ summary
    refine hrecord.bind along_trans along_refl fun _ u _ hu => ?_
    rw [linkDefinition_eq]
    have hlink : Secures w.world c.along (fun _ _ => True) u (Graph.execute (f.linkQuery d)) :=
      (secures_execute fun t _ => c.refl t.store).weaken fun _ _ _ => trivial
    refine (hlink.frame along_trans (fun t => goal d t.store) ?_ hu).bind along_trans
      along_refl fun _ _ _ ht => .done ht.2
    exact fun _ _ hab => h.goal_stays d hd _ _ hab

theorem secures_addCode (batch : Columns) (s : Ledger) :
    Secures w.world c.along (fun _ _ => True) s (addCode batch) :=
  secures_of_still (keeps_request (still_addDocuments .code batch) fun _ => trivial) s

theorem secures_ingestAll (h : f.Follows c start own goal) (mode : Mode) {ds : List Definition}
    (hds : ∀ d ∈ ds, d ∈ f.extraction.definitions) (batch : Columns) {s : Ledger}
    (hs : c.rel start s.store) :
    Secures w.world c.along (fun _ t => ∀ d ∈ ds, goal d t.store) s
      (f.ingestAll mode ds batch) := by
  induction ds generalizing batch s with
  | nil =>
    have hnone : ∀ (u : Unit) (t : Ledger), True → ∀ d ∈ [], goal d t.store :=
      fun _ _ _ d hd => by cases hd
    rcases f.ingestAll_nil mode batch with heq | heq
    · rw [heq]
      exact .done (hnone () s trivial)
    · rw [heq]
      exact (secures_addCode batch s).weaken hnone
  | cons d rest ih =>
    have hd := hds d List.mem_cons_self
    rw [ingestAll_cons]
    refine (h.secures_ingestDefinition hd hs).bind along_trans along_refl fun r a hsa hgoal => ?_
    -- While the others are come to, the goal of the first one stays met.
    have hrest : ∀ batch t, c.along a t → Secures w.world c.along
        (fun _ u => ∀ d' ∈ d :: rest, goal d' u.store) t (f.ingestAll mode rest batch) := by
      intro batch t hat
      have hsecures := ih (fun d hd => hds d (List.mem_cons_of_mem _ hd)) batch
        (c.trans hs (c.trans hsa hat))
      refine (hsecures.frame along_trans (fun t => goal d t.store)
        (fun _ _ hab => h.goal_stays d hd _ _ hab) (h.goal_stays d hd _ _ hat hgoal)).weaken ?_
      exact fun _ u hu => List.forall_mem_cons.mpr ⟨hu.2, hu.1⟩
    cases r with
    | none => exact hrest batch a (along_refl a)
    | some doc =>
      cases mode with
      | graphOnly => exact hrest batch a (along_refl a)
      | full batchSize =>
        have hflush : Secures w.world c.along (fun _ _ => True) a
            (flushFull batchSize (batch.push doc)) := by
          rw [flushFull_eq]
          split
          · exact (secures_addCode _ a).bind along_trans along_refl fun _ _ _ _ => .done trivial
          · exact .done trivial
        exact hflush.bind along_trans along_refl fun batch t hat _ => hrest batch t hat

theorem secures_ingest (h : f.Follows c start own goal) (mode : Mode) {s : Ledger}
    (hs : c.rel start s.store) :
    Secures w.world c.along
      (fun _ t => own t.store ∧ ∀ d ∈ f.extraction.definitions, goal d t.store) s
      (f.ingest mode) := by
  have hrecord : Secures w.world c.along (fun _ u => own u.store) s
      (Graph.execute (recordQuery f.fileRecord)) := by
    refine (secures_execute fun t hst => ?_).weaken fun _ u hu => ?_
    · rw [recordQuery, Store.answer_upsertNode]
      exact h.file _ (c.trans hs hst)
    · obtain ⟨t, -, hstore⟩ := hu
      rw [hstore, recordQuery, Store.answer_upsertNode]
      exact h.own_file _
  have hlink : ∀ u, Secures w.world c.along (fun _ _ => True) u (Graph.execute f.projectQuery) :=
    fun u => (secures_execute fun t _ => c.refl t.store).weaken fun _ _ _ => trivial
  have hstays : ∀ s t : Ledger, c.along s t → own s.store → own t.store :=
    fun _ _ hst => h.own_stays _ _ hst
  refine hrecord.bind along_trans along_refl fun _ a hsa ha => ?_
  refine (hlink a).bind along_trans along_refl fun _ b hab _ => ?_
  have hall := h.secures_ingestAll (w := w) mode (fun _ hd => hd) .empty
    (c.trans hs (c.trans hsa hab))
  have hframed := hall.frame along_trans (fun t => own t.store) hstays (hstays _ _ hab ha)
  exact hframed.weaken fun _ _ hu => hu.symm

end SourceFile.Follows

/-- The goals of a file, if there is something to read. -/
theorem Surroundings.secures_ingestFile {w : Surroundings} {c : Course} {start : Store}
    {own : SourceFile → Store → Prop} {goal : SourceFile → Definition → Store → Prop}
    {path project : String}
    (h : ∀ f, w.source path project = .ok (some f) → f.Follows c start (own f) (goal f))
    (mode : Mode) {s : Ledger} (hs : c.rel start s.store) :
    Secures w.world c.along (fun _ t => ∀ f, w.source path project = .ok (some f) →
      own f t.store ∧ ∀ d ∈ f.extraction.definitions, goal f d t.store) s
      (ingestFile mode path project) := by
  have hread : Secures w.world c.along (fun r _ => w.source path project = .ok r) s
      (readSource path project) :=
    Course.secures_of_still ((keeps_run_plain (keeps_readSource path project)).weaken
      (fun _ hq => Course.still_of_quiet (quiet_of_plain hq)) fun _ h => h) s
  rw [ingestFile_eq]
  refine hread.bind Course.along_trans Course.along_refl fun r a hsa hr => ?_
  cases r with
  | none => exact .done fun f hf => by simp [hr] at hf
  | some f =>
    refine ((h f hr).secures_ingest mode (c.trans hs hsa)).weaken fun _ t ht g hg => ?_
    obtain rfl : f = g := Option.some.inj (Except.ok.inj (hr.symm.trans hg))
    exact ht

/-! ### Tasks beside each other -/

/-- However a pool is advanced, the state stays on the way that its tasks keep to, and every task
still secures what it has to. -/
theorem Pool.run_secures {σ : Type} {world : World σ} {rel : σ → σ → Prop}
    {post : Nat → Unit → σ → Prop} (hrefl : ∀ s, rel s s)
    (htrans : ∀ s t u, rel s t → rel t u → rel s u)
    (hstays : ∀ i a s t, rel s t → post i a s → post i a t) (moves : List Move) {p : Pool σ}
    (hp : ∀ i t, p.tasks[i]? = some t → Secures world rel (post i) p.shared t) :
    rel p.shared (p.run world moves).shared ∧
      ∀ i t, (p.run world moves).tasks[i]? = some t →
        Secures world rel (post i) (p.run world moves).shared t := by
  induction moves generalizing p with
  | nil => exact ⟨hrefl _, hp⟩
  | cons m moves ih =>
    have hmoved : rel p.shared (p.step world m).shared ∧ ∀ i t,
        (p.step world m).tasks[i]? = some t →
          Secures world rel (post i) (p.step world m).shared t := by
      rcases p.step_cases world m with hs | ⟨j, q, next, -, hj, hs⟩ | ⟨j, e, -, hs⟩
      · rw [hs]
        exact ⟨hrefl _, hp⟩
      · rw [hs]
        cases hp j _ hj with
        | ask hmove hnext =>
          have hstep : rel p.shared (world q p.shared).2 := hmove _ (hrefl _)
          refine ⟨hstep, fun i t hi => ?_⟩
          by_cases hij : j = i
          · subst hij
            obtain ⟨hlt, -⟩ := List.getElem?_eq_some_iff.mp hj
            rw [List.getElem?_set_self hlt, Option.some.injEq] at hi
            exact hi ▸ hnext _ (hrefl _)
          · rw [List.getElem?_set_ne hij] at hi
            exact (hp i t hi).moved htrans (hstays i) hstep
      · rw [hs]
        refine ⟨hrefl _, fun i t hi => ?_⟩
        rw [List.getElem?_set] at hi
        split at hi
        · split at hi
          · exact Option.some.inj hi ▸ .fail e
          · cases hi
        · exact hp i t hi
    obtain ⟨hrest, htasks⟩ := ih hmoved.2
    exact ⟨htrans _ _ _ hmoved.1 hrest, htasks⟩

/-! ### Codebases -/

/-- One run over a codebase: what is taken in, how, and in which surroundings. -/
structure Intake where
  surroundings : Surroundings
  mode : Mode
  folder : String
  project : String

namespace Intake

/-- The files of the codebase that are worked on. -/
def files (c : Intake) : List String :=
  match c.surroundings.answer (.filesBelow (Paths.normalize c.folder)) with
  | .ok files => List.filter isSelected files
  | .error _ => []

/-- Reading a file of the codebase gives this. -/
def Has (c : Intake) (f : SourceFile) : Prop :=
  ∃ path ∈ c.files, c.surroundings.source path c.project = .ok (some f)

/-- The files are worked on, starting from here. -/
def pool (c : Intake) (s : Ledger) : Pool Ledger := codebasePool c.mode c.project c.files s

/-- The project is entered and the files are listed. -/
def listing (c : Intake) (s : Ledger) : Except Failure (List String) × Ledger :=
  (listCodebase c.folder c.project).run c.surroundings.world s

/-- All files have come to a good end, in some order. -/
def Leads (c : Intake) (s t : Ledger) : Prop :=
  ∃ listed opened moves, c.listing s = (.ok listed, opened) ∧
    ((c.pool opened).run c.surroundings.world moves).shared = t ∧
    ∀ task ∈ ((c.pool opened).run c.surroundings.world moves).tasks, task = .done ()

/-- The codebase was begun, and may have been left at any time. -/
inductive Passes (c : Intake) (s : Ledger) : Ledger → Prop where
  | unlisted {e : Failure} {t : Ledger} (h : c.listing s = (.error e, t)) : Passes c s t
  | worked {listed : List String} {opened : Ledger} (h : c.listing s = (.ok listed, opened))
    (moves : List Move) :
    Passes c s ((c.pool opened).run c.surroundings.world moves).shared

variable {c : Intake} {s t : Ledger}

theorem Leads.passes (h : c.Leads s t) : c.Passes s t := by
  obtain ⟨listed, opened, moves, hopen, rfl, -⟩ := h
  exact .worked hopen moves

/-- Opening enters the project, unless that is refused, and finds the files. -/
theorem listing_cases (c : Intake) (s : Ledger) :
    ((c.listing s).2.store = s.store ∨ (c.listing s).2.store = s.store.addProject c.project) ∧
      ∀ listed, (c.listing s).1 = .ok listed → listed = c.files := by
  have hrun : c.listing s = ((Graph.execute (.upsertProject (.string c.project))).bind fun _ =>
      (Dialogue.request (.filesBelow (Paths.normalize c.folder))).bind fun files =>
        .done (List.filter isSelected files)).run c.surroundings.world s := rfl
  rw [hrun, run_bind, Surroundings.run_execute]
  cases c.surroundings.refusal s.journal (.graph (.upsertProject (.string c.project))) with
  | some e => exact ⟨.inl rfl, fun listed h => by cases h⟩
  | none =>
    simp only [files]
    rw [run_bind, run_request, Surroundings.world_plain (q := .filesBelow _) trivial]
    cases c.surroundings.answer (.filesBelow (Paths.normalize c.folder)) with
    | error e => exact ⟨.inr rfl, fun listed h => by cases h⟩
    | ok all => exact ⟨.inr rfl, fun listed h => (Except.ok.inj h).symm⟩

theorem isSelected_of_mem_files {path : String} (h : path ∈ c.files) : isSelected path = true := by
  unfold files at h
  split at h
  · exact (List.mem_filter.mp h).2
  · cases h

/-- Taking the files in one after another. -/
def run (c : Intake) (s : Ledger) : Except Failure Unit × Ledger :=
  (ingestCodebase c.mode c.folder c.project).run c.surroundings.world s

/-- A run one after another that ends well has worked on all files to their ends. -/
theorem leads_of_run (h : (c.run s).1.isOk = true) : c.Leads s (c.run s).2 := by
  replace h : c.run s = (.ok (), (c.run s).2) := run_eq_of_isOk _ h
  generalize (c.run s).2 = t at h ⊢
  rw [run, ingestCodebase_eq] at h
  obtain ⟨listed, opened, hopen, htasks⟩ := run_bind_eq_ok _ h
  have hlisted : listed = c.files :=
    (c.listing_cases s).2 listed (congrArg Prod.fst (show c.listing s = _ from hopen))
  obtain ⟨moves, ends, -, hover, hrun, hends⟩ := Pool.exists_sequential c.surroundings.world []
    (listed.map fun path => ingestFile c.mode path c.project) none opened
  rw [htasks] at hrun hends
  rw [hlisted] at hrun
  have hpool : (c.pool opened).run c.surroundings.world moves = ⟨ends, t⟩ := hrun
  refine ⟨listed, opened, moves, hopen, by rw [hpool], fun task htask => ?_⟩
  rw [hpool] at htask
  cases task with
  | done _ => rfl
  | ask q next => exact (hover _ htask).elim
  | fail e =>
    obtain ⟨e', he'⟩ := (runTasks_fails_iff ends hover none).mpr (.inr ⟨e, htask⟩)
    rw [hends] at he'
    cases he'

section Follows
variable {course : Course} {own : SourceFile → Store → Prop}
  {goal : SourceFile → Definition → Store → Prop}

theorem listing_follows (hproject : course.rel s.store (s.store.addProject c.project)) :
    course.rel s.store (c.listing s).2.store := by
  rcases (c.listing_cases s).1 with h | h
  · rw [h]
    exact course.refl _
  · rw [h]
    exact hproject

/-- Files that follow a course from the start keep the store on it, and each of them that comes
to a good end has met its goals. -/
theorem pool_follows (hfiles : ∀ f, c.Has f → f.Follows course s.store (own f) (goal f))
    {opened : Ledger} (hopened : course.rel s.store opened.store) (moves : List Move) :
    course.rel s.store ((c.pool opened).run c.surroundings.world moves).shared.store ∧
      ((∀ task ∈ ((c.pool opened).run c.surroundings.world moves).tasks, task = .done ()) →
        ∀ f, c.Has f →
          own f ((c.pool opened).run c.surroundings.world moves).shared.store ∧
          ∀ d ∈ f.extraction.definitions,
            goal f d ((c.pool opened).run c.surroundings.world moves).shared.store) := by
  have hmem : ∀ {path : String} {f : SourceFile}, path ∈ c.files →
      c.surroundings.source path c.project = .ok (some f) → c.Has f :=
    fun hpath hf => ⟨_, hpath, hf⟩
  -- What the task with number `i` has to secure is about the file that stands there.
  let post (i : Nat) (_ : Unit) (u : Ledger) : Prop := ∀ path, c.files[i]? = some path → ∀ f,
    c.surroundings.source path c.project = .ok (some f) →
      own f u.store ∧ ∀ d ∈ f.extraction.definitions, goal f d u.store
  have hstays : ∀ i a s t, course.along s t → post i a s → post i a t := by
    intro i a s t hst hs path hpath f hf
    have hfollows := hfiles f (hmem (List.mem_of_getElem? hpath) hf)
    obtain ⟨hown, hgoal⟩ := hs path hpath f hf
    exact ⟨hfollows.own_stays _ _ hst hown,
      fun d hd => hfollows.goal_stays d hd _ _ hst (hgoal d hd)⟩
  have htasks : ∀ i t, (c.pool opened).tasks[i]? = some t →
      Secures c.surroundings.world course.along (post i) (c.pool opened).shared t := by
    intro i t hi
    obtain ⟨path, hpath, rfl⟩ : ∃ path, c.files[i]? = some path ∧
        ingestFile c.mode path c.project = t := by
      simpa [pool, codebasePool] using hi
    refine (Surroundings.secures_ingestFile
      (fun f hf => hfiles f (hmem (List.mem_of_getElem? hpath) hf)) c.mode hopened).weaken ?_
    intro _ u hu path' hpath' f hf
    obtain rfl : path = path' := Option.some.inj (hpath.symm.trans hpath')
    exact hu f hf
  obtain ⟨hrel, hrun⟩ := Pool.run_secures Course.along_refl Course.along_trans hstays moves htasks
  refine ⟨course.trans hopened hrel, fun hdone f hf => ?_⟩
  obtain ⟨path, hpath, hsource⟩ := hf
  obtain ⟨i, hi⟩ := List.getElem?_of_mem hpath
  have hlt : i < ((c.pool opened).run c.surroundings.world moves).tasks.length := by
    rw [Pool.length_run]
    simpa [pool, codebasePool] using (List.getElem?_eq_some_iff.mp hi).1
  have hover := hrun i _ (List.getElem?_eq_getElem hlt)
  rw [hdone _ (List.getElem_mem hlt)] at hover
  cases hover with
  | done hpost => exact hpost path hi f hsource

theorem Passes.follows (h : c.Passes s t) (course : Course)
    (hproject : course.rel s.store (s.store.addProject c.project))
    (hfiles : ∀ f, c.Has f → f.Follows course s.store (own f) (goal f)) :
    course.rel s.store t.store := by
  have hopened := c.listing_follows hproject
  cases h with
  | unlisted hlist => rwa [hlist] at hopened
  | worked hlist moves =>
    rw [hlist] at hopened
    exact (pool_follows hfiles hopened moves).1

/-- At a good end all goals are met. -/
theorem Leads.goals (h : c.Leads s t) (course : Course)
    (hproject : course.rel s.store (s.store.addProject c.project))
    (hfiles : ∀ f, c.Has f → f.Follows course s.store (own f) (goal f)) {f : SourceFile}
    (hf : c.Has f) : own f t.store ∧ ∀ d ∈ f.extraction.definitions, goal f d t.store := by
  obtain ⟨listed, opened, moves, hlist, rfl, hdone⟩ := h
  have hopened := c.listing_follows hproject
  rw [hlist] at hopened
  exact (pool_follows hfiles hopened moves).2 hdone f hf

end Follows

end Intake

end CodeAtlas.Ingest
