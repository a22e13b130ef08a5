import CodeAtlas.Proofs.Ingest.Belonging

/-! What is left of earlier versions of a codebase. Nothing is ever taken out of the graph: what a
new version does not have stays as the earlier ones have left it. After all versions of one project
the nodes listed are those of some version, and they are those of the last one only if that has
everything that the others had. -/

namespace CodeAtlas.Ingest

open Dialogue
open CodeAtlas.Graph (CodeRecord Lists Store)
open CodeAtlas.Link (Gives)

/-! ### Nothing is taken out -/

/-- Nodes that are there stay there. -/
def Course.growing : Course where
  rel a b := ∀ id, (a.get? id).isSome → (b.get? id).isSome
  refl _ _ h := h
  trans hab hbc id h := hbc id (hab id h)

theorem Course.growing_upsert (a : Store) (id : String) (props : Fields) :
    Course.growing.rel a (a.upsert id props) := by
  intro k hk
  rw [Store.get?_upsert]
  split
  · rfl
  · exact hk

/-- The file and all its definitions are there afterwards. -/
theorem SourceFile.follows_growing (f : SourceFile) (start : Store) :
    f.Follows .growing start (fun a => (a.get? f.nodeId).isSome)
      fun d a => (a.get? d.id).isSome where
  file a _ := Course.growing_upsert a _ _
  stored _ _ _ b _ _ _ _ := Course.growing_upsert b _ _
  own_file a := by simp [Store.get?_upsert]
  goal_stored d _ a summary := by simp [Store.get?_upsert]
  goal_kept d _ a _ hkept := by
    rw [Store.hash?] at hkept
    exact Option.isSome_of_isSome_bind (Option.isSome_of_eq_some hkept)
  own_stays _ _ h := h _
  goal_stays _ _ _ _ h := h _

namespace Intake

/-- A record of the codebase goes by this id. -/
def Names (c : Intake) (id : String) : Prop := ∃ r, c.Writes r ∧ r.id = id

variable {c : Intake} {s t : Ledger} {id : String}

theorem growing_addProject (c : Intake) (store : Store) :
    Course.growing.rel store (store.addProject c.project) := by
  intro id h
  rwa [get?_addProject]

theorem Leads.isSome_of_names (h : c.Leads s t) (hid : c.Names id) :
    (t.store.get? id).isSome := by
  obtain ⟨r, ⟨f, hf, hr⟩, rfl⟩ := hid
  obtain ⟨hfile, hdefs⟩ := h.goals _ (growing_addProject c _) (fun g _ => g.follows_growing _) hf
  cases hr with
  | file => exact hfile
  | definition hd _ => exact hdefs _ hd

theorem Leads.isSome_of_isSome (h : c.Leads s t) (hid : (s.store.get? id).isSome) :
    (t.store.get? id).isSome :=
  h.passes.follows _ (growing_addProject c _) (fun g _ => g.follows_growing _) id hid

/-- What a codebase does not have stays as it is. -/
theorem Passes.get?_of_not_names (h : c.Passes s t) (hid : ¬ c.Names id) :
    t.store.get? id = s.store.get? id := by
  refine h.follows (.preserving fun a => a.get? id = s.store.get? id) (fun _ => get?_addProject ..)
    (fun g hg => SourceFile.follows_preserving fun r hr a ha => ?_) rfl
  have hne : id ≠ r.id := fun heq => hid ⟨r, ⟨g, hg, hr⟩, heq.symm⟩
  exact (a.get?_upsert ..).trans ((if_neg hne).trans ha)

theorem Writes.project_eq {r : CodeRecord} (h : c.Writes r) : r.project = c.project := by
  obtain ⟨f, hf, hr⟩ := h
  exact hr.project_eq.trans hf.project_eq

end Intake

/-! ### Versions -/

/-- The databases after codebases were taken in to their ends, one after another. -/
inductive Completed : List Intake → Ledger → Prop where
  | empty : Completed [] .empty
  | next {earlier : List Intake} {c : Intake} {s t : Ledger} (hs : Completed earlier s)
    (hc : c.Leads s t) : Completed (earlier ++ [c]) t

namespace Completed

variable {versions : List Intake} {s : Ledger} {id : String}

theorem reached (h : Completed versions s) : Reached versions s := by
  induction h with
  | empty => exact .empty
  | next _ hc ih => exact .pass ih hc.passes

/-- The store has what some version had. -/
theorem isSome_get?_iff (h : Completed versions s) :
    (s.store.get? id).isSome ↔ ∃ c ∈ versions, c.Names id := by
  constructor
  · intro hsome
    obtain ⟨n, hn⟩ := Option.isSome_iff_exists.mp hsome
    obtain ⟨r, ⟨c, hc, hr⟩, hid, -⟩ := h.reached.stems.get? hn
    exact ⟨c, hc, r, hr, hid⟩
  · induction h with
    | empty => rintro ⟨c, hc, -⟩; cases hc
    | @next earlier c s t _ hc ih =>
      rintro ⟨b, hb, hid⟩
      rcases List.mem_append.mp hb with hb | hb
      · exact hc.isSome_of_isSome (ih ⟨b, hb, hid⟩)
      · rw [List.mem_singleton.mp hb] at hid
        exact hc.isSome_of_names hid

/-- Where all versions are of one project, everything is in it. -/
theorem project?_eq_iff (h : Completed versions s) {project : String}
    (hproject : ∀ c ∈ versions, c.project = project) :
    s.store.project? id = some project ↔ ∃ c ∈ versions, c.Names id := by
  rw [← h.isSome_get?_iff]
  constructor
  · intro hid
    exact Option.isSome_of_isSome_bind (Option.isSome_of_eq_some hid)
  · intro hsome
    obtain ⟨n, hn⟩ := Option.isSome_iff_exists.mp hsome
    obtain ⟨r, ⟨c, hc, hr⟩, -, hprops⟩ := h.reached.stems.get? hn
    rw [Store.project?_of_properties hn hprops, hr.project_eq, hproject c hc]

end Completed

/-- After the versions of a project were taken in, listing it gives the nodes of all of them. What
the last version does not have is left as it was, so the listing is that of the last version
only if it has everything that any version had. -/
theorem nodesByProject_lists_all_versions (project : String) (earlier : List Intake)
    (v : Intake) (s t : Ledger) (hs : Completed earlier s) (hv : v.Leads s t)
    (hearlier : ∀ b ∈ earlier, b.project = project) (hproject : v.project = project)
    (w : Surroundings)
    (hlook : w.refusal t.journal (.graph (.projectNodes (.string project))) = none) :
    ∃ nodes u, (Graph.nodesByProject (.string project)).run w.world t = (.ok nodes, u) ∧
      (∀ id, Lists nodes id ↔ v.Names id ∨ ∃ b ∈ earlier, b.Names id) ∧
      (∀ id, ¬ v.Names id → t.store.get? id = s.store.get? id) ∧
      ((∀ id, Lists nodes id ↔ v.Names id) ↔ ∀ b ∈ earlier, ∀ id, b.Names id → v.Names id) := by
  have hall : Completed (earlier ++ [v]) t := .next hs hv
  have hprojects : ∀ b ∈ earlier ++ [v], b.project = project := by
    intro b hb
    rcases List.mem_append.mp hb with hb | hb
    · exact hearlier b hb
    · rw [List.mem_singleton.mp hb]
      exact hproject
  obtain ⟨u, hrun⟩ := Surroundings.run_nodesByProject hlook
  have hlists : ∀ id, Lists (t.store.nodesOf (.string project)) id ↔
      v.Names id ∨ ∃ b ∈ earlier, b.Names id := by
    intro id
    rw [hall.reached.stems.lists_nodesOf_iff, hall.project?_eq_iff hprojects]
    simp [or_and_right, exists_or, or_comm]
  refine ⟨_, u, hrun, hlists, fun id hid => hv.passes.get?_of_not_names hid, ?_, ?_⟩
  · intro honly b hb id hid
    exact (honly id).mp ((hlists id).mpr (.inr ⟨b, hb, hid⟩))
  · intro hsub id
    rw [hlists id, or_iff_left_iff_imp]
    rintro ⟨b, hb, hid⟩
    exact hsub b hb id hid

/-! ### A function with a new name -/

/-- The shop before and after its function was renamed. -/
def shelving : Intake := mallShop "shelve" "def shelve():\n    pass"

def restocking : Intake := mallShop "restock" "def restock():\n    pass"

set_option maxRecDepth 10000 in
theorem shelving_leads : shelving.Leads .empty (shelving.run .empty).2 :=
  Intake.leads_of_run (by decide +kernel)

set_option maxRecDepth 10000 in
theorem restocking_leads :
    restocking.Leads (shelving.run .empty).2 (restocking.run (shelving.run .empty).2).2 :=
  Intake.leads_of_run (by decide +kernel)

/-- The old name is none of the new version. -/
theorem restocking_not_names : ¬ restocking.Names "mall/shop/stock.py:shelve:1" := by
  rintro ⟨r, ⟨f, hf, hr⟩, hid⟩
  have htest := mallShop_has_only "restock" "def restock():\n    pass"
    (fun f => f.nodeId ≠ "mall/shop/stock.py:shelve:1" ∧
      ∀ d ∈ f.extraction.definitions, d.id ≠ "mall/shop/stock.py:shelve:1") (by decide +kernel) hf
  obtain ⟨hfile, hdefs⟩ := of_decide_eq_true htest
  cases hr with
  | file => exact hfile hid
  | definition hd _ => exact hdefs _ hd hid

theorem shop_lists_both_names :
    ∃ s t nodes u, shelving.Leads .empty s ∧ restocking.Leads s t ∧
      (Graph.nodesByProject (.string "shop")).run shelving.surroundings.world t = (.ok nodes, u) ∧
      Lists nodes "mall/shop/stock.py:shelve:1" ∧ Lists nodes "mall/shop/stock.py:restock:1" ∧
      t.store.get? "mall/shop/stock.py:shelve:1" = s.store.get? "mall/shop/stock.py:shelve:1" := by
  obtain ⟨nodes, u, hrun, hlists, hleft, -⟩ := nodesByProject_lists_all_versions "shop" [shelving]
    restocking _ _ (.next .empty shelving_leads) restocking_leads
    (fun b hb => List.mem_singleton.mp hb ▸ rfl) rfl shelving.surroundings rfl
  have hnames : ∀ name code id, (stockroom name code).readsTo "mall/shop/stock.py" "shop"
      (fun f => f.extraction.definitions.any fun d => d.id = id) = true →
      (mallShop name code).Names id := by
    intro name code id h
    obtain ⟨f, hf, htest⟩ := mallShop_has name code _ h
    obtain ⟨d, hd, hid⟩ := List.any_eq_true.mp htest
    exact ⟨_, ⟨f, hf, .definition hd ""⟩, of_decide_eq_true hid⟩
  refine ⟨_, _, nodes, u, shelving_leads, restocking_leads, hrun, (hlists _).mpr (.inr ?_),
    (hlists _).mpr (.inl ?_), hleft _ restocking_not_names⟩
  · exact ⟨shelving, List.mem_singleton.mpr rfl, hnames _ _ _ (by decide +kernel)⟩
  · exact hnames _ _ _ (by decide +kernel)

set_option maxRecDepth 10000 in
/-- The listing is not that of the new version. -/
theorem shop_lists_old_name :
    ∃ s t nodes u id, shelving.Leads .empty s ∧ restocking.Leads s t ∧
      (Graph.nodesByProject (.string "shop")).run shelving.surroundings.world t = (.ok nodes, u) ∧
      Lists nodes id ∧ ¬ restocking.Names id :=
  ⟨_, _, _, _, _, shelving_leads, restocking_leads, Graph.run_nodesByProject rfl,
    by decide +kernel, restocking_not_names⟩

end CodeAtlas.Ingest
