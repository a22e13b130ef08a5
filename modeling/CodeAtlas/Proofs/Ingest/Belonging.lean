import CodeAtlas.Proofs.Graph.Listing
import CodeAtlas.Proofs.Ingest.Intake
import CodeAtlas.Proofs.Link.Ingested

/-! Which project a definition is listed for. A record names the project for which it was written
last, and a definition is written again only when its code has changed. So a codebase that was
taken in before for another project comes to its own project only in part: a definition is listed
for it if it was before or if its code was not the stored one. Codebases may overlap, and earlier
ones may have been left at any time. -/

namespace CodeAtlas.Ingest

open Dialogue
open CodeAtlas.Graph (CodeRecord Lists Store)
open CodeAtlas.Link (Gives)

/-! ### Courses of a file -/

section Courses
variable {f : SourceFile} {start : Store}

/-- Where only the course matters, no goals are set. -/
theorem SourceFile.follows_course {c : Course}
    (hfile : ∀ a, c.rel start a → c.rel a (a.upsert f.nodeId f.fileRecord.properties))
    (hstored : ∀ d ∈ f.extraction.definitions, ∀ a b summary, c.rel start a →
      a.hash? d.id ≠ some d.hash → c.rel a b →
        c.rel b (b.upsert d.id (f.record d summary).properties)) :
    f.Follows c start (fun _ => True) fun _ _ => True where
  file := hfile
  stored := hstored
  own_file _ := trivial
  goal_stored _ _ _ _ := trivial
  goal_kept _ _ _ _ _ := trivial
  own_stays _ _ _ _ := trivial
  goal_stays _ _ _ _ _ _ := trivial

/-- What no record of a file undoes stays true. -/
theorem SourceFile.follows_preserving {fact : Store → Prop}
    (h : ∀ r, Gives f r → ∀ a : Store, fact a → fact (a.upsert r.id r.properties)) :
    f.Follows (.preserving fact) start (fun _ => True) fun _ _ => True :=
  follows_course (fun a _ => h _ .file a)
    fun _ hd _ b summary _ _ _ => h _ (.definition hd summary) b

/-- Nodes stay as they are or come to a project. -/
def Course.adopting (project : String) : Course where
  rel a b := ∀ id, b.get? id = a.get? id ∨ b.project? id = some project
  refl _ _ := .inl rfl
  trans {a b c} hab hbc id := by
    rcases hbc id with h | h
    · rcases hab id with h' | h'
      · exact .inl (h.trans h')
      · refine .inr ?_
        rw [Store.project?, h]
        exact h'
    · exact .inr h

theorem Course.adopting_upsert (a : Store) (r : CodeRecord) :
    (Course.adopting r.project).rel a (a.upsert r.id r.properties) := by
  intro id
  by_cases hid : id = r.id
  · exact .inr (by simp [Store.project?_upsert, hid])
  · exact .inl (by simp [Store.get?_upsert, hid])

/-- What comes to a project stays there. -/
theorem Course.adopting_stays {project : String} {a b : Store}
    (h : (Course.adopting project).rel a b) {id : String} (ha : a.project? id = some project) :
    b.project? id = some project := by
  rcases h id with h | h
  · rw [Store.project?, h]
    exact ha
  · exact h

/-- A definition comes to the project of its file, unless the store had its code from the start. -/
theorem SourceFile.follows_adopting (f : SourceFile) (start : Store) :
    f.Follows (.adopting f.project) start (fun a => a.project? f.nodeId = some f.project)
      fun d a => a.project? d.id = some f.project ∨ start.hash? d.id = some d.hash where
  file a _ := Course.adopting_upsert a f.fileRecord
  stored d _ _ b summary _ _ _ := Course.adopting_upsert b (f.record d summary)
  own_file a := (a.project?_upsert f.fileRecord f.nodeId).trans (if_pos rfl)
  goal_stored d _ a summary :=
    .inl ((a.project?_upsert (f.record d summary) d.id).trans (if_pos rfl))
  goal_kept d _ a h hkept := by
    rcases h d.id with h | h
    · rw [Store.hash?, h] at hkept
      exact .inr hkept
    · exact .inl h
  own_stays _ _ h := Course.adopting_stays h
  goal_stays _ _ _ _ h := Or.imp_left (Course.adopting_stays h)

/-- A node stays as it is if the store has the code of all definitions that go by its id. -/
theorem SourceFile.follows_untouched {id : String} (hfile : f.nodeId ≠ id)
    (hdefs : ∀ d ∈ f.extraction.definitions, d.id = id → start.hash? id = some d.hash) :
    f.Follows (.preserving fun a => a.get? id = start.get? id) start (fun _ => True)
      fun _ _ => True := by
  refine follows_course (fun a _ ha => ?_) fun d hd a b summary ha hstale _ hb => ?_
  · exact (a.get?_upsert ..).trans ((if_neg hfile.symm).trans ha)
  · have hne : id ≠ d.id := by
      rintro rfl
      refine hstale ?_
      rw [Store.hash?, ha rfl]
      exact hdefs d hd rfl
    exact (b.get?_upsert ..).trans ((if_neg hne).trans hb)

end Courses

/-! ### One codebase -/

namespace Intake

variable {c : Intake} {s t : Ledger} {f : SourceFile}

theorem Has.project_eq (h : c.Has f) : f.project = c.project := by
  obtain ⟨path, -, hf⟩ := h
  exact (Surroundings.isRead_of_source hf).project_eq

/-- Ids of definitions are none of files. -/
theorem Has.nodeId_ne {g : SourceFile} {c' : Intake} (hf : c.Has f) (hg : c'.Has g)
    {d : Definition} (hd : d ∈ g.extraction.definitions) : f.nodeId ≠ d.id := by
  obtain ⟨path, hpath, hf⟩ := hf
  obtain ⟨path', -, hg⟩ := hg
  have hsel := isSelected_of_mem_files hpath
  rw [isSelected, Bool.and_eq_true] at hsel
  rw [(Surroundings.isRead_of_source hf).nodeId_eq, (Surroundings.isRead_of_source hg).id_eq hd]
  exact (definitionId_ne_fileId (plainEnd_normalize hsel.1) _ _ _).symm

/-- A definition that goes by an id has code that the store does not have. -/
def Renews (c : Intake) (store : Store) (id : String) : Prop :=
  ∃ f, c.Has f ∧ ∃ d ∈ f.extraction.definitions, d.id = id ∧ store.hash? id ≠ some d.hash

/-- A definition with this id and this fingerprint is in the codebase. -/
def Yields (c : Intake) (id hash : String) : Prop :=
  ∃ f, c.Has f ∧ ∃ d ∈ f.extraction.definitions, d.id = id ∧ d.hash = hash

/-- The records that a codebase can give rise to. -/
def Writes (c : Intake) (r : CodeRecord) : Prop := ∃ f, c.Has f ∧ Gives f r

theorem get?_addProject (store : Store) (name id : String) :
    (store.addProject name).get? id = store.get? id := by
  rw [Store.get?, Store.nodes_addProject]
  rfl

/-- A definition is in the project afterwards if it was before or was written again. -/
theorem Leads.project?_eq_iff (h : c.Leads s t) (hf : c.Has f) {n : Definition}
    (hn : n ∈ f.extraction.definitions) :
    t.store.project? n.id = some c.project ↔
      s.store.project? n.id = some c.project ∨ c.Renews s.store n.id := by
  have hclaim : ∀ g, c.Has g → g.Follows (.adopting c.project) s.store
      (fun a => a.project? g.nodeId = some c.project)
      fun d a => a.project? d.id = some c.project ∨ s.store.hash? d.id = some d.hash := by
    intro g hg
    have := g.follows_adopting s.store
    rwa [hg.project_eq] at this
  have hopen : (Course.adopting c.project).rel s.store (s.store.addProject c.project) :=
    fun id => .inl (get?_addProject ..)
  constructor
  · intro ht
    by_contra hnot
    obtain ⟨hold, hfresh⟩ := not_or.mp hnot
    have hsame := h.passes.follows (.preserving fun a => a.get? n.id = s.store.get? n.id)
      (fun _ => get?_addProject ..)
      (fun g hg => SourceFile.follows_untouched (hg.nodeId_ne hf hn) fun d hd hid => by
        by_contra hstale
        exact hfresh ⟨g, hg, d, hd, hid, hstale⟩) rfl
    rw [Store.project?, hsame] at ht
    exact hold ht
  · rintro (hold | ⟨g, hg, d, hd, hid, hstale⟩)
    · exact Course.adopting_stays (h.passes.follows _ hopen hclaim) hold
    · have hgoal := (h.goals _ hopen hclaim hg).2 d hd
      rw [hid] at hgoal
      exact hgoal.resolve_right hstale

/-- Nothing but its own records comes in with a codebase. -/
theorem Passes.stems (h : c.Passes s t) {written : CodeRecord → Prop}
    (hs : s.store.Stems written) (hwrites : ∀ r, c.Writes r → written r) :
    t.store.Stems written :=
  h.follows (.preserving (Store.Stems written)) (fun hs => hs.addProject _)
    (fun g hg => SourceFile.follows_preserving fun r hr _ ha =>
      ha.upsert (hwrites r ⟨g, hg, hr⟩)) hs

end Intake

/-! ### One codebase after another -/

/-- The databases after codebases were taken in one after another, some perhaps only in part. -/
inductive Reached : List Intake → Ledger → Prop where
  | empty : Reached [] .empty
  | pass {earlier : List Intake} {c : Intake} {s t : Ledger} (hs : Reached earlier s)
    (hc : c.Passes s t) : Reached (earlier ++ [c]) t

theorem Reached.stems {earlier : List Intake} {s : Ledger} (h : Reached earlier s) :
    s.store.Stems fun r => ∃ c ∈ earlier, c.Writes r := by
  induction h with
  | empty => exact Store.stems_empty
  | @pass earlier c s t _ hc ih =>
    refine hc.stems (ih.mono ?_) fun r hr => ⟨c, by simp, hr⟩
    rintro r ⟨b, hb, hr⟩
    exact ⟨b, List.mem_append_left _ hb, hr⟩

/-- A stored fingerprint is that of a definition of the project under which it is. -/
theorem Reached.yields {earlier : List Intake} {s : Ledger} (h : Reached earlier s) {c : Intake}
    {f : SourceFile} (hf : c.Has f) {n : Definition} (hn : n ∈ f.extraction.definitions)
    {hash : String} (hhash : s.store.hash? n.id = some hash) :
    ∃ b ∈ earlier, s.store.project? n.id = some b.project ∧ b.Yields n.id hash := by
  obtain ⟨fs, hfs, htext⟩ := Option.bind_eq_some_iff.mp hhash
  obtain ⟨r, ⟨b, hb, g, hg, hgives⟩, hid, hprops⟩ := h.stems.get? hfs
  cases hgives with
  | file => exact absurd hid (hg.nodeId_ne hf hn)
  | @definition d hd summary =>
    have hstored := hprops ("node_hash", .string d.hash) (by
      rw [CodeRecord.properties_eq _ (fingerprint_ne_empty _)]
      exact List.mem_append_right _ (List.mem_singleton.mpr rfl))
    rw [Fields.get?] at hstored
    refine ⟨b, hb, ?_, g, hg, d, hd, hid, ?_⟩
    · rw [Store.project?_of_properties hfs hprops, ← hg.project_eq]
      rfl
    · rw [Fields.getOrNull, hstored] at htext
      exact Option.some.inj htext

/-- Listing a project gives what the store has of it. -/
theorem Surroundings.run_nodesByProject {w : Surroundings} {t : Ledger} {project : String}
    (hlook : w.refusal t.journal (.graph (.projectNodes (.string project))) = none) :
    ∃ u, (Graph.nodesByProject (.string project)).run w.world t =
      (.ok (t.store.nodesOf (.string project)), u) := by
  refine ⟨_, Graph.run_nodesByProject ?_⟩
  rw [world_graph, hlook]
  rfl

/-- After a codebase was taken in, listing its project gives a definition of it exactly if it was
in the project before or has code that was not the stored one. So all definitions are there
unless the same code was taken in before under the same id for another project. -/
theorem nodesByProject_lists_definition (earlier : List Intake) (c : Intake) (s t : Ledger)
    (hs : Reached earlier s) (hc : c.Leads s t) (w : Surroundings)
    (hlook : w.refusal t.journal (.graph (.projectNodes (.string c.project))) = none) :
    ∃ nodes u, (Graph.nodesByProject (.string c.project)).run w.world t = (.ok nodes, u) ∧
      ∀ f, c.Has f → ∀ n ∈ f.extraction.definitions,
        (Lists nodes n.id ↔
          s.store.project? n.id = some c.project ∨ c.Renews s.store n.id) ∧
        ((∀ b ∈ earlier, b.project ≠ c.project → ¬ b.Yields n.id n.hash) → Lists nodes n.id) := by
  have hstems := (Reached.pass hs hc.passes).stems
  obtain ⟨u, hrun⟩ := Surroundings.run_nodesByProject hlook
  refine ⟨_, u, hrun, fun f hf n hn => ?_⟩
  have hiff : Lists (t.store.nodesOf (.string c.project)) n.id ↔
      s.store.project? n.id = some c.project ∨ c.Renews s.store n.id := by
    rw [hstems.lists_nodesOf_iff, hc.project?_eq_iff hf hn]
  refine ⟨hiff, fun hnone => hiff.mpr ?_⟩
  by_cases hhash : s.store.hash? n.id = some n.hash
  · obtain ⟨b, hb, hproject, hyields⟩ := hs.yields hf hn hhash
    refine .inl (hproject.trans ?_)
    by_contra hne
    exact hnone b hb (fun heq => hne (by rw [heq])) hyields
  · exact .inr ⟨f, hf, n, hn, rfl, hhash⟩

/-! ### A shop in a mall -/

/-- One file with one function, wherever one looks from. -/
def stockroom (name code : String) : Surroundings where
  answer
    | .filesBelow _ => .ok ["mall/shop/stock.py"]
    | .readFile _ _ => .ok code
    | .loadParser _ | .say _ => .ok ()
    | .parseCode _ _ => .ok (functionTree name)
    | _ => .error .untold
  reply _ _ := .ok "Puts things away."
  refusal _ _ := none

/-- The whole mall, taken in for a project of its own. -/
def mall : Intake := ⟨stockroom "shelve" "def shelve():\n    pass", .graphOnly, "mall", "mall"⟩

/-- The shop in it, with this function. -/
def mallShop (name code : String) : Intake :=
  ⟨stockroom name code, .graphOnly, "mall/shop", "shop"⟩

section MallShop
variable (name code : String) (test : SourceFile → Bool)
  (h : (stockroom name code).readsTo "mall/shop/stock.py" "shop" test = true)

theorem files_mallShop : (mallShop name code).files = ["mall/shop/stock.py"] := by
  have hfilter : List.filter isSelected ["mall/shop/stock.py"] = ["mall/shop/stock.py"] := by
    decide +kernel
  exact hfilter

include h

theorem mallShop_has : ∃ f, (mallShop name code).Has f ∧ test f = true := by
  obtain ⟨f, hf, htest⟩ := Surroundings.exists_of_readsTo _ _ _ h
  exact ⟨f, ⟨_, by rw [files_mallShop]; exact List.mem_singleton.mpr rfl, hf⟩, htest⟩

theorem mallShop_has_only {f : SourceFile} (hf : (mallShop name code).Has f) : test f = true := by
  obtain ⟨g, hg, htest⟩ := Surroundings.exists_of_readsTo _ _ _ h
  obtain ⟨path, hpath, hf⟩ := hf
  rw [files_mallShop, List.mem_singleton] at hpath
  subst hpath
  obtain rfl : f = g := Option.some.inj (Except.ok.inj (hf.symm.trans hg))
  exact htest

end MallShop

set_option maxRecDepth 10000 in
theorem mall_leads : mall.Leads .empty (mall.run .empty).2 :=
  Intake.leads_of_run (by decide +kernel)

set_option maxRecDepth 10000 in
/-- A function that was changed since the mall was taken in is listed for the shop. -/
theorem shop_lists_changed_function :
    ∃ s t nodes u f n, mall.Leads .empty s ∧
      (mallShop "shelve" "def shelve():\n    return").Leads s t ∧
      (Graph.nodesByProject (.string "shop")).run mall.surroundings.world t = (.ok nodes, u) ∧
      (mallShop "shelve" "def shelve():\n    return").Has f ∧ n ∈ f.extraction.definitions ∧
      Lists nodes n.id := by
  have hshop := Intake.leads_of_run (c := mallShop "shelve" "def shelve():\n    return")
    (s := (mall.run .empty).2) (by decide +kernel)
  obtain ⟨f, hf, htest⟩ := mallShop_has "shelve" "def shelve():\n    return"
    (fun f => f.extraction.definitions.any fun d =>
      (mall.run .empty).2.store.hash? d.id ≠ some d.hash) (by decide +kernel)
  obtain ⟨n, hn, hstale⟩ := List.any_eq_true.mp htest
  obtain ⟨nodes, u, hrun, hlists⟩ := nodesByProject_lists_definition [mall] _ _ _
    (.pass .empty mall_leads.passes) hshop mall.surroundings rfl
  refine ⟨_, _, nodes, u, f, n, mall_leads, hshop, hrun, hf, hn,
    (hlists f hf n hn).1.mpr (.inr ?_)⟩
  exact ⟨f, hf, n, hn, rfl, of_decide_eq_true hstale⟩

set_option maxRecDepth 10000 in
/-- One that was not changed stays with the mall. -/
theorem shop_lacks_known_function :
    ∃ s t nodes u f n, mall.Leads .empty s ∧
      (mallShop "shelve" "def shelve():\n    pass").Leads s t ∧
      (Graph.nodesByProject (.string "shop")).run mall.surroundings.world t = (.ok nodes, u) ∧
      (mallShop "shelve" "def shelve():\n    pass").Has f ∧ n ∈ f.extraction.definitions ∧
      ¬ Lists nodes n.id := by
  have hshop := Intake.leads_of_run (c := mallShop "shelve" "def shelve():\n    pass")
    (s := (mall.run .empty).2) (by decide +kernel)
  obtain ⟨f, hf, htest⟩ := mallShop_has "shelve" "def shelve():\n    pass"
    (fun f => f.extraction.definitions.any fun d => d.id = "mall/shop/stock.py:shelve:1")
    (by decide +kernel)
  obtain ⟨n, hn, hid⟩ := List.any_eq_true.mp htest
  refine ⟨_, _, _, _, f, n, mall_leads, hshop, Graph.run_nodesByProject rfl, hf, hn, ?_⟩
  rw [of_decide_eq_true hid]
  decide +kernel

end CodeAtlas.Ingest
