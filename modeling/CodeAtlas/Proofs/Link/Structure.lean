import CodeAtlas.Proofs.Graph.Network
import CodeAtlas.Proofs.Ingest.Belonging
import Mathlib.Data.List.Induction

/-! What a traversal makes of the structure of code. Taking code in says what stands in what by
edges of one type, and linking says what calls or uses what by edges of another type, which have
the kind of link as a property. A traversal follows edges of the second type only, also when it
is asked for the structure. So of all that was taken in and linked, in whatever order and
however often, a traversal of the structure finds nothing, while the edges that it should follow
are all there. -/

namespace CodeAtlas.Graph

open CodeAtlas.Link (Relation SemanticLink)

/-! ### Edges that are made -/

/-- The edge is one of structure, or one of the links that are found by matching symbols. -/
def Edge.Proper (e : Edge) : Prop :=
  e.type = "CONTAINS" ∨
    e.type = "SEMANTIC_LINK" ∧ ∃ r : Relation, e.props.Settled "type" (.string r.name)

/-- The statement makes edges. -/
def Query.makesEdges : Query → Bool
  | .link _ _ _ _ | .linkProject _ _ _ _ | .linkBatch _ => true
  | _ => false

namespace Network

variable {g : Network} {pattern : Edge} {props : Fields} {a m : String}

theorem mem_parts_iff :
    m ∈ g.parts a ↔ ∃ e ∈ g.edges, e.source = .node a ∧ e.type = "CONTAINS" ∧ e.target = m := by
  simp [parts, mem_next_iff, isPart]

/-- An edge that is put in adds what it says, if both ends are there. -/
theorem mem_parts_put_iff :
    m ∈ (g.put pattern props).parts a ↔ m ∈ g.parts a ∨ pattern.ends.all g.store.has = true ∧
      pattern.source = .node a ∧ pattern.type = "CONTAINS" ∧ pattern.target = m := by
  unfold put
  split
  next hends =>
    simp only [mem_parts_iff]
    constructor
    · rintro ⟨e, he, hs, ht, rfl⟩
      rcases cases_of_mem_mergeEdge he with he | ⟨⟨hs', ht', htype⟩, -⟩
      · exact .inl ⟨e, he, hs, ht, rfl⟩
      · exact .inr ⟨hends, hs' ▸ hs, htype ▸ ht, ht'.symm⟩
    · have hkept : ∀ e, e ∈ g.edges ∨ e = pattern →
          ∃ e' ∈ mergeEdge g.edges pattern props, e'.Parallel e :=
        fun e he => exists_parallel_mergeEdge he
      rintro (⟨e, he, hs, ht, rfl⟩ | ⟨-, hs, ht, rfl⟩)
      · obtain ⟨e', he', hs', ht', htype⟩ := hkept e (.inl he)
        exact ⟨e', he', hs'.trans hs, htype.trans ht, ht'⟩
      · obtain ⟨e', he', hs', ht', htype⟩ := hkept pattern (.inr rfl)
        exact ⟨e', he', hs'.trans hs, htype.trans ht, ht'⟩
  next hends => simp [hends]

/-- Putting in structure, or a link whose kind is not overwritten, leaves all edges proper. -/
theorem proper_put (hg : ∀ e ∈ g.edges, e.Proper) (hpattern : pattern.Proper)
    (hprops : pattern.type = "SEMANTIC_LINK" → ∀ p ∈ props, p.1 ≠ "type") :
    ∀ e ∈ (g.put pattern props).edges, e.Proper := by
  unfold put
  split
  next =>
    intro e he
    rcases cases_of_mem_mergeEdge he with he | ⟨⟨-, -, htype⟩, hcases⟩
    · exact hg e he
    · rcases hpattern with hpart | ⟨hlink, r, hr⟩
      · exact .inl (htype.trans hpart)
      · refine .inr ⟨htype.trans hlink, ?_⟩
        rcases hcases with heq | ⟨old, hold, ⟨-, -, holdtype⟩, heq⟩
        · rw [heq]
          exact ⟨r, hr.merge (hprops hlink)⟩
        · rw [heq]
          rcases hg old hold with hpart | ⟨-, r', hr'⟩
          · rw [holdtype, hlink] at hpart
            exact absurd hpart (by decide)
          · exact ⟨r', hr'.merge (hprops hlink)⟩
  next => exact hg

theorem edges_after {q : Query} (h : q.makesEdges = false) : (g.after q).edges = g.edges := by
  cases q <;> first | rfl | cases h

/-- What a link is put in as. -/
theorem eq_of_batchEdge? {created : Link.Times} {l : SemanticLink}
    (h : batchEdge? (l.toJson created) = some (pattern, props)) :
    pattern.type = "SEMANTIC_LINK" ∧ pattern.props = [("type", .string l.relation.name)] ∧
      props = Link.props l.relation (created l) := by
  unfold batchEdge? at h
  obtain ⟨source, -, h⟩ := Option.bind_eq_some_iff.mp h
  obtain ⟨target, -, h⟩ := Option.bind_eq_some_iff.mp h
  split at h
  · cases h
  · obtain ⟨rfl, rfl⟩ := Prod.mk.inj (Option.some.inj h)
    exact ⟨rfl, rfl, rfl⟩

/-- A batch of links leaves the structure alone and all edges proper. -/
theorem batch_cases (created : Link.Times) (links : List SemanticLink) (g : Network) :
    (∀ a m, m ∈ (g.after (.linkBatch (.array (links.map (SemanticLink.toJson created))))).parts a ↔
      m ∈ g.parts a) ∧
    ((∀ e ∈ g.edges, e.Proper) →
      ∀ e ∈ (g.after (.linkBatch (.array (links.map (SemanticLink.toJson created))))).edges,
        e.Proper) := by
  induction links generalizing g with
  | nil => exact ⟨fun _ _ => Iff.rfl, fun h => h⟩
  | cons l links ih =>
    simp only [after, List.map_cons, List.filterMap_cons] at ih ⊢
    cases hl : batchEdge? (l.toJson created) with
    | none => exact ih g
    | some item =>
      obtain ⟨pattern, props⟩ := item
      obtain ⟨htype, hpattern, rfl⟩ := eq_of_batchEdge? hl
      obtain ⟨hparts, hproper⟩ := ih (g.put pattern (Link.props l.relation (created l)))
      refine ⟨fun a m => (hparts a m).trans ?_, fun hg => hproper (proper_put hg (.inr ?_) ?_)⟩
      · simp [mem_parts_put_iff, htype]
      · refine ⟨htype, l.relation, ?_⟩
        rw [hpattern]
        exact Fields.settled_put [] "type" _
      · intro _ p hp
        simp only [Link.props, List.mem_cons, List.not_mem_nil, or_false] at hp
        rcases hp with rfl | rfl | rfl <;> simp

/-- Of proper edges none passes for structure that a traversal follows. -/
theorem follow_contents_eq_nil (hg : ∀ e ∈ g.edges, e.Proper) (a : String) :
    g.follow .contents a = [] := by
  rw [follow, if_neg (by decide), next, List.map_eq_nil_iff, List.filter_eq_nil_iff]
  intro e he htest
  simp only [isSemantic, Bool.and_eq_true, decide_eq_true_eq] at htest
  obtain ⟨-, hlink, hkind⟩ := htest
  rcases hg e he with hpart | ⟨-, r, hr⟩
  · rw [hpart] at hlink
    exact absurd hlink (by decide)
  · have hget := hr.get?
    rw [Fields.get?] at hget
    rw [Fields.getOrNull, hget] at hkind
    cases r <;> cases hkind

end Network

end CodeAtlas.Graph

namespace CodeAtlas.Ingest

open Dialogue
open CodeAtlas.Graph (Edge Lists Network Query Store)
open CodeAtlas.Link (SemanticLink)

/-! ### What a journal leaves behind -/

/-- What becomes of a network with a request that was carried out, or was not. -/
def Entry.carry (g : Network) : Entry → Network
  | ⟨.graph q, true⟩ => g.after q
  | _ => g

/-- The network that all requests of the journal have made. -/
def Ledger.network (s : Ledger) : Network := s.journal.foldl Entry.carry .empty

theorem network_note (s : Ledger) (q : Request) (accepted : Bool) :
    (s.note q accepted).network = Entry.carry s.network ⟨q, accepted⟩ := by
  simp [Ledger.network, Ledger.note]

/-- A request to the graph is carried out, or nothing changes that a network shows. -/
theorem Surroundings.world_cases (w : Surroundings) (q : Request) (s : Ledger) :
    (∃ query, q = .graph query ∧ (w.world q s).2 = s.note (.graph query) true) ∨
      (w.world q s).2.network = s.network ∧ (w.world q s).2.store = s.store ∧
        (w.world q s).2.journal.links = s.journal.links := by
  have hworld : (w.world q s).2 = s.note q (w.result s q).isOk := rfl
  have hstill : ∀ accepted, (∀ query, q ≠ .graph query) ∨ accepted = false →
      (s.note q accepted).network = s.network ∧ (s.note q accepted).store = s.store ∧
        (s.note q accepted).journal.links = s.journal.links := by
    intro accepted h
    rw [network_note]
    cases accepted with
    | false =>
      refine ⟨?_, rfl, ?_⟩
      · cases q <;> rfl
      · simp [Ledger.note, Journal.links, Entry.links]
    | true =>
      have hq := h.resolve_right (by decide)
      cases q <;> first
        | exact absurd rfl (hq _)
        | exact ⟨rfl, rfl, by simp [Ledger.note, Journal.links, Entry.links, containment?]⟩
  rw [hworld]
  cases haccepted : (w.result s q).isOk with
  | false => exact .inr (hstill false (.inr rfl))
  | true =>
    by_cases hq : ∃ query, q = .graph query
    · obtain ⟨query, rfl⟩ := hq
      exact .inl ⟨query, rfl, rfl⟩
    · exact .inr (hstill true (.inl fun query heq => hq ⟨query, heq⟩))

/-- The network has the nodes of the store, only proper edges, and for structure just what was
linked. -/
structure Faithful (s : Ledger) : Prop where
  store : s.network.store = s.store
  proper : ∀ e ∈ s.network.edges, e.Proper
  parts : ∀ holder id, id ∈ s.network.parts holder ↔ .inNode holder id ∈ s.journal.links

theorem faithful_empty : Faithful .empty where
  store := rfl
  proper e he := by cases he
  parts holder id := by
    simp [Ledger.network, Ledger.empty, Network.mem_parts_iff, Network.empty, Journal.links]

/-- The statements that taking code in and linking it lead to. -/
inductive Usual : Query → Prop where
  | part (holder id reason : String) :
    Usual (.link (.string holder) (.string id) SourceFile.contains (SourceFile.because reason))
  | file (project id reason : String) :
    Usual (.linkProject (.string project) (.string id) SourceFile.contains
      (SourceFile.because reason))
  | batch (created : Link.Times) (links : List SemanticLink) :
    Usual (.linkBatch (.array (links.map (SemanticLink.toJson created))))
  | still {q : Query} (h : q.makesEdges = false) : Usual q

theorem links_note (s : Ledger) (q : Query) :
    (s.note (.graph q) true).journal.links =
      s.journal.links ++ (containment? (.graph q)).toList := by
  simp [Ledger.note, Journal.links, Entry.links]

/-- A usual statement that finds the ends which it looks for leaves the network faithful. -/
theorem Faithful.note {s : Ledger} (h : Faithful s) {q : Query} (hq : Usual q)
    (hends : ∀ x ∈ q.endpoints, s.store.has x = true) : Faithful (s.note (.graph q) true) := by
  have hnetwork : (s.note (.graph q) true).network = s.network.after q := network_note ..
  refine ⟨?_, ?_, ?_⟩
  · rw [hnetwork, Network.store_after, h.store]
    rfl
  · rw [hnetwork]
    cases hq with
    | part holder id reason =>
      refine Network.proper_put h.proper (.inl rfl) fun heq => ?_
      exact absurd (show "CONTAINS" = "SEMANTIC_LINK" from heq) (by decide)
    | file project id reason =>
      refine Network.proper_put h.proper (.inl rfl) fun heq => ?_
      exact absurd (show "CONTAINS" = "SEMANTIC_LINK" from heq) (by decide)
    | batch created links => exact (Network.batch_cases created links _).2 h.proper
    | still hstill =>
      rw [Network.edges_after hstill]
      exact h.proper
  · intro holder id
    rw [hnetwork, links_note, List.mem_append, ← h.parts]
    cases hq with
    | part holder' id' reason =>
      have hall : (Edge.mk (.node holder') id' "CONTAINS" []).ends.all s.network.store.has =
          true := by
        rw [h.store]
        exact List.all_eq_true.mpr hends
      refine Network.mem_parts_put_iff.trans (or_congr_right ?_)
      simp only [SourceFile.contains, Json.shown, hall, true_and, containment?]
      simp [eq_comm]
    | file project id' reason =>
      refine Network.mem_parts_put_iff.trans (or_congr_right ?_)
      simp [SourceFile.contains, containment?]
    | batch created links =>
      simp [(Network.batch_cases created links _).1, containment?]
    | still hstill =>
      have hnone : containment? (.graph q) = none := by
        cases q <;> first | rfl | cases hstill
      rw [Network.mem_parts_iff, Network.edges_after hstill, ← Network.mem_parts_iff, hnone]
      simp

/-- The request is usual and finds the ends that it looks for. -/
def Fair (q : Request) (s : Ledger) : Prop :=
  (∀ query, q = .graph query → Usual query) ∧ ∀ x ∈ endpoints q, s.store.has x = true

theorem Faithful.world {s : Ledger} (h : Faithful s) (w : Surroundings) {q : Request}
    (hq : Fair q s) : Faithful (w.world q s).2 := by
  rcases w.world_cases q s with ⟨query, rfl, heq⟩ | ⟨hnetwork, hstore, hlinks⟩
  · rw [heq]
    exact h.note (hq.1 query rfl) hq.2
  · refine ⟨?_, ?_, ?_⟩
    · rw [hnetwork, hstore]
      exact h.store
    · rw [hnetwork]
      exact h.proper
    · rw [hnetwork, hlinks]
      exact h.parts

/-! ### Taking in and linking -/

theorem usual_of_asks {f : SourceFile} {query : Query} (h : f.Asks (.graph query)) :
    Usual query := by
  generalize hq : Request.graph query = q at h
  cases h with
  | fileRecord => cases hq; exact .still rfl
  | project => cases hq; exact .file ..
  | lookUp _ => cases hq; exact .still rfl
  | quiet hquiet => cases hq; exact hquiet.elim
  | record _ _ => cases hq; exact .still rfl
  | link _ => cases hq; exact .part ..
  | documents _ => cases hq

theorem fair_of_plain {query : Query} (hstill : query.makesEdges = false)
    (hnone : query.endpoints = []) (s : Ledger) : Fair (.graph query) s := by
  refine ⟨fun query' heq => ?_, ?_⟩
  · cases heq
    exact .still hstill
  · intro x hx
    rw [show endpoints (.graph query) = query.endpoints from rfl, hnone] at hx
    cases hx

theorem fair_of_quiet {q : Request} (hq : Quiet q) (s : Ledger) : Fair q s := by
  refine ⟨fun query heq => ?_, fun x hx => absurd hx (not_needed_of_quiet q hq x)⟩
  rw [heq] at hq
  exact hq.elim

/-- What every request preserves that the tasks come to, a pool preserves. -/
theorem Pool.run_preserves_of_asked {σ : Type} {world : World σ} (inv : σ → Prop) {p : Pool σ}
    {ok : Request → σ → Prop}
    (hasked : ∀ moves q next, .ask q next ∈ (p.run world moves).tasks →
      ok q (p.run world moves).shared)
    (hstep : ∀ q s, ok q s → inv s → inv (world q s).2) (h : inv p.shared) (moves : List Move) :
    inv (p.run world moves).shared := by
  induction moves using List.reverseRecOn with
  | nil => exact h
  | append_singleton moves m ih =>
    rw [Pool.run_append, Pool.run_cons, Pool.run_nil]
    rcases (p.run world moves).step_cases world m with hs | ⟨i, q, next, -, hi, hs⟩ | ⟨i, e, -, hs⟩
    · rwa [hs]
    · rw [hs]
      exact hstep q _ (hasked moves q next (List.mem_of_getElem? hi)) ih
    · rwa [hs]

theorem Pool.Confined.run {σ : Type} {world : World σ} {allowed : Nat → Request → Prop}
    {p : Pool σ} (h : p.Confined world allowed) (moves : List Move) :
    (p.run world moves).Confined world allowed := by
  induction moves generalizing p with
  | nil => exact h
  | cons m moves ih => exact ih (h.step m)

namespace Intake

variable {c : Intake} {s t : Ledger}

theorem faithful_listing (hs : Faithful s) : Faithful (c.listing s).2 := by
  have hkeeps : Keeps c.surroundings.world (fun q => ∀ s, Fair q s) (fun _ => True)
      (listCodebase c.folder c.project) := by
    refine keeps_seq (keeps_request_bind (fair_of_plain rfl rfl) fun _ => .done trivial) fun _ => ?_
    exact keeps_request_bind (fair_of_quiet trivial) fun _ => .done trivial
  exact hkeeps.run_preserves Faithful (fun q s hq hs => hs.world c.surroundings (hq s)) hs

/-- Taking code in leaves the network faithful, in whatever order and wherever it stops. -/
theorem Passes.faithful (h : c.Passes s t) (hs : Faithful s) : Faithful t := by
  have hlisted := faithful_listing (c := c) hs
  cases h with
  | unlisted hlist => rwa [hlist] at hlisted
  | @worked listed opened hlist moves =>
    have hfiles : listed = c.files := (c.listing_cases s).2 listed (congrArg Prod.fst hlist)
    rw [hlist] at hlisted
    refine Pool.run_preserves_of_asked Faithful ?_ (fun q s hq hs => hs.world c.surroundings hq)
      hlisted moves
    intro moves q next hq
    refine ⟨fun query heq => ?_, ?_⟩
    · obtain ⟨i, hi⟩ := List.getElem?_of_mem hq
      have hconfined : (c.pool opened).Confined c.surroundings.world
          (TaskAsks c.surroundings c.project c.files) := confined_codebasePool c.mode opened
      obtain ⟨path, -, hquiet | ⟨f, -, hasks⟩⟩ := (hconfined.run moves).asks hi
      · rw [heq] at hquiet
        exact hquiet.elim
      · rw [heq] at hasks
        exact usual_of_asks hasks
    · have hlist' : (listCodebase c.folder c.project).run c.surroundings.world s =
          (.ok c.files, opened) := hfiles ▸ hlist
      have hknown : FindsEnds c.surroundings _ (fun _ => False) _ :=
        findsEnds_listCodebase c.folder c.project
      have hproject : Held opened (.project (.string c.project)) :=
        hknown.run_post (fun _ _ _ hsub h => hsub _ h) (fun _ hx => hx.elim) hlist'
      exact Pool.needs_met lasting_held moves (findsEnds_tasks c.mode c.files hproject) hq

end Intake

/-- The databases after code was taken in and projects were linked, in any order, and each time
perhaps only in part. -/
inductive Built : Ledger → Prop where
  | empty : Built .empty
  | intake {c : Intake} {s t : Ledger} (hs : Built s) (hc : c.Passes s t) : Built t
  | linked {s : Ledger} (hs : Built s) (w : Surroundings) (project : String) (created : Link.Times) :
    Built ((Link.linkProject project created).run w.world s).2

theorem keeps_linkProject (w : Surroundings) (project : String) (created : Link.Times) :
    Keeps w.world (fun q => q = .graph (.projectNodes (.string project)) ∨
      ∃ links : List SemanticLink,
        q = .graph (.linkBatch (.array (links.map (SemanticLink.toJson created)))))
      (fun _ => True) (Link.linkProject project created) := by
  rw [Link.linkProject_eq]
  refine keeps_request_bind (.inl rfl) fun rows => keeps_seq (keeps_ofExcept fun _ _ => trivial)
    fun links => ?_
  unfold Link.writeBack
  split
  · exact .done trivial
  · exact SourceFile.keeps_execute (.inr ⟨links, rfl⟩)

namespace Built

variable {s : Ledger}

theorem faithful (h : Built s) : Faithful s := by
  induction h with
  | empty => exact faithful_empty
  | intake _ hc ih => exact hc.faithful ih
  | linked _ w project created ih =>
    refine (keeps_linkProject w project created).run_preserves Faithful (fun q s hq hs => ?_) ih
    refine hs.world w ?_
    rcases hq with rfl | ⟨links, rfl⟩
    · exact fair_of_plain rfl rfl s
    · refine ⟨fun query heq => ?_, fun x hx => by cases hx⟩
      cases heq
      exact .batch created links

theorem stems (h : Built s) : s.store.Stems fun _ => True := by
  induction h with
  | empty => exact Store.stems_empty
  | intake _ hc ih => exact hc.stems ih fun _ _ => trivial
  | linked _ w project created ih =>
    refine (keeps_linkProject w project created).run_preserves
      (fun s => s.store.Stems fun _ => True) (fun q s hq hs => ?_) ih
    have hstore : (w.world q s).2.store = s.store := by
      rcases hq with rfl | ⟨links, rfl⟩ <;> rw [Surroundings.world_graph] <;> split <;> rfl
    rw [hstore]
    exact hs

end Built

/-- A traversal gives the nodes to which its kinds of link lead, within the depth. For the
structure these are none, although everything that was linked as a part of something is in the
graph. So what is given is what stands in a node only if nothing was ever linked as a part
of it. -/
theorem traverse_structure_finds_nothing (s : Ledger) (hs : Built s) (start : String)
    (operation : Graph.Operation) (depth : Int) (hdepth : 1 ≤ depth) {σ : Type} (rest : World σ)
    (now : σ)
    (hlook : (rest (.graph (.traverse (.string start) operation (.int depth))) now).1.isOk = true) :
    ∃ nodes u, (Graph.traverse (.string start) operation (.int depth)).run
        (s.network.serve rest) now = (.ok nodes, u) ∧
      (∀ id, Lists nodes id ↔
        ∃ k < depth.toNat, Network.Walk (s.network.follow operation) (k + 1) start id) ∧
      (∀ holder id, id ∈ s.network.parts holder ↔ .inNode holder id ∈ s.journal.links) ∧
      (operation = .contents → nodes = [] ∧
        ((∀ id, Lists nodes id ↔
            ∃ k < depth.toNat, Network.Walk s.network.parts (k + 1) start id) ↔
          ∀ id, .inNode start id ∉ s.journal.links)) := by
  have hfaithful := hs.faithful
  have hstems : s.network.store.Stems fun _ => True := by
    rw [hfaithful.store]
    exact hs.stems
  obtain ⟨u, hrun⟩ := s.network.run_traverse rest now start operation depth hlook
  refine ⟨_, u, hrun, fun id => s.network.lists_traverse_iff hstems, hfaithful.parts, ?_⟩
  rintro rfl
  have hnone : Network.within (s.network.follow .contents) depth.toNat start = [] :=
    Network.within_eq_nil (Network.follow_contents_eq_nil hfaithful.proper start) _
  rw [hnone]
  refine ⟨rfl, ?_⟩
  simp only [← hfaithful.parts]
  constructor
  · intro h id hid
    have hone : ∃ k < depth.toNat, Network.Walk s.network.parts (k + 1) start id :=
      ⟨0, by omega, id, hid, rfl⟩
    obtain ⟨n, hn, -⟩ := (h id).mpr hone
    cases hn
  · intro h id
    refine iff_of_false (fun ⟨n, hn, _⟩ => by cases hn) ?_
    rintro ⟨k, -, m, hm, -⟩
    exact h m hm

/-! ### A function in its file -/

set_option maxRecDepth 10000 in
theorem mall_function_linked :
    .inNode "mall:mall/shop/stock.py" "mall/shop/stock.py:shelve:1" ∈
      (mall.run .empty).2.journal.links := by
  decide +kernel

theorem mall_structure_lost :
    ∃ nodes u, (Graph.traverse (.string "mall:mall/shop/stock.py") .contents (.int 3)).run
        ((mall.run .empty).2.network.serve mall.surroundings.world) .empty = (.ok nodes, u) ∧
      nodes = [] ∧ "mall/shop/stock.py:shelve:1" ∈
        (mall.run .empty).2.network.parts "mall:mall/shop/stock.py" := by
  obtain ⟨nodes, u, hrun, -, hparts, hnone⟩ := traverse_structure_finds_nothing
    (mall.run .empty).2 (.intake .empty mall_leads.passes) "mall:mall/shop/stock.py" .contents 3
    (by decide) mall.surroundings.world .empty rfl
  exact ⟨nodes, u, hrun, (hnone rfl).1, (hparts _ _).mpr mall_function_linked⟩

set_option maxRecDepth 10000 in
/-- The function stands in the file, and a traversal of the structure does not give it. -/
theorem mall_function_not_found :
    ∃ nodes u, Built (mall.run .empty).2 ∧
      (Graph.traverse (.string "mall:mall/shop/stock.py") .contents (.int 1)).run
        ((mall.run .empty).2.network.serve mall.surroundings.world) .empty = (.ok nodes, u) ∧
      Network.Walk (mall.run .empty).2.network.parts 1 "mall:mall/shop/stock.py"
        "mall/shop/stock.py:shelve:1" ∧
      ¬ Lists nodes "mall/shop/stock.py:shelve:1" := by
  obtain ⟨u, hrun⟩ := (mall.run .empty).2.network.run_traverse mall.surroundings.world .empty
    "mall:mall/shop/stock.py" .contents 1 rfl
  have hnone : Network.within ((mall.run .empty).2.network.follow .contents) (1 : Int).toNat
      "mall:mall/shop/stock.py" = [] := by
    decide +kernel
  rw [hnone] at hrun
  refine ⟨_, u, .intake .empty mall_leads.passes, hrun, ⟨_, ?_, rfl⟩, fun ⟨n, hn, _⟩ => by cases hn⟩
  decide +kernel

end CodeAtlas.Ingest
