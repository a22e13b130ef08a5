import CodeAtlas.Proofs.Link.Project
import Mathlib.Data.List.Perm.Basic

/-! How the links of a project depend on the list of its nodes. The database may list nodes in any
order, and nodes that are created later come at its end. Links to all candidates do not depend on
the order, and links to the first candidate do not where there is one only. What comes at the end
is no candidate before those that were there, so all links stay. -/

namespace CodeAtlas.Link

open Dialogue
open CodeAtlas.Graph (CodeRecord)

/-! ### Candidates -/

section Candidates
variable {ms ms' : List Member} {kinds : List String} {symbol : String}

theorem candidates_perm (h : ms.Perm ms') (symbol : String) :
    (candidates ms symbol).Perm (candidates ms' symbol) := by
  rw [candidates_eq, candidates_eq]
  exact h.flatMap fun _ _ => .refl _

theorem select_eq_some {xs : List Member} {t : Member} (h : select xs kinds = some t) :
    t ∈ xs ∧ t.isOneOf kinds = true := by
  rw [select] at h
  have hkind := List.find?_some h
  exact ⟨List.mem_of_find?_eq_some h, hkind⟩

/-- Which of several members comes first does not matter if their ids are all the same. -/
theorem map_id_select_perm {xs ys : List Member} (h : xs.Perm ys)
    (hone : ∀ a ∈ xs, ∀ b ∈ xs, a.isOneOf kinds = true → b.isOneOf kinds = true → a.id = b.id) :
    (select xs kinds).map (·.id) = (select ys kinds).map (·.id) := by
  cases hx : select xs kinds with
  | none =>
    have hnone : select ys kinds = none := by
      rw [select, List.find?_eq_none] at hx ⊢
      exact fun t ht => hx t (h.mem_iff.mpr ht)
    rw [hnone]
  | some a =>
    obtain ⟨ha, hkind⟩ := select_eq_some hx
    cases hy : select ys kinds with
    | none =>
      rw [select, List.find?_eq_none] at hy
      exact absurd hkind (hy a (h.mem_iff.mp ha))
    | some b =>
      obtain ⟨hb, hkind'⟩ := select_eq_some hy
      exact congrArg some (hone a ha b (h.mem_iff.mpr hb) hkind hkind')

end Candidates

/-! ### Links to the first candidate -/

/-- The ids of all members of these kinds that define a symbol are the same. -/
def OneDefiner (ms : List Member) (kinds : List String) : Prop :=
  ∀ a ∈ ms, ∀ b ∈ ms, a.isOneOf kinds = true → b.isOneOf kinds = true →
    ∀ d ∈ a.defined, ∀ e ∈ b.defined, normalForm d = normalForm e → a.id = b.id

section First
variable {ms ms' : List Member} {relation : Relation} {kinds : List String} {m : Member}
  {symbol : String} {l : SemanticLink}

theorem linkToFirst_eq (ms : List Member) (relation : Relation) (kinds : List String) (m : Member)
    (symbol : String) : linkToFirst ms relation kinds m symbol =
      ((select (candidates ms symbol) kinds).map (·.id)).bind fun id =>
        if id.same m.id then none else some ⟨m.id, id, relation⟩ := by
  rw [linkToFirst]
  cases select (candidates ms symbol) kinds <;> rfl

theorem linkToFirst_eq_some (h : linkToFirst ms relation kinds m symbol = some l) :
    ∃ t ∈ ms, l = ⟨m.id, t.id, relation⟩ := by
  rw [linkToFirst] at h
  split at h
  · cases h
  next t ht =>
    split at h
    · cases h
    · exact ⟨t, (mem_candidates_iff.mp (select_eq_some ht).1).1, (Option.some.inj h).symm⟩

theorem linkToFirst_perm (h : ms.Perm ms') (hone : OneDefiner ms kinds) (relation : Relation)
    (m : Member) (symbol : String) :
    linkToFirst ms relation kinds m symbol = linkToFirst ms' relation kinds m symbol := by
  rw [linkToFirst_eq, linkToFirst_eq, map_id_select_perm (candidates_perm h symbol)]
  intro a ha b hb hkind hkind'
  obtain ⟨hmem, d, hd, hmatch⟩ := mem_candidates_iff.mp ha
  obtain ⟨hmem', e, he, hmatch'⟩ := mem_candidates_iff.mp hb
  exact hone a hmem b hmem' hkind hkind' d hd e he (hmatch.trans hmatch'.symm)

/-- The first candidate stays the first. -/
theorem linkToFirst_append (h : linkToFirst ms relation kinds m symbol = some l)
    (more : List Member) : linkToFirst (ms ++ more) relation kinds m symbol = some l := by
  rw [linkToFirst] at h ⊢
  rw [candidates_append, select, List.find?_append]
  rw [select] at h
  cases hfirst : (candidates ms symbol).find? (·.isOneOf kinds) with
  | none => simp [hfirst] at h
  | some t => simpa [hfirst] using h

end First

/-! ### One relation -/

section Collected
variable {ms ms' : List Member} {relation : Relation} {l : SemanticLink}

/-- Where links of a relation go to the first candidate, there is only one. -/
def Settled (ms : List Member) : Relation → Prop
  | .calls => OneDefiner ms calleeKinds
  | .uses => OneDefiner ms usableKinds
  | .implements | .overrides => True

/-- Links lead from members to members. -/
theorem ends_of_mem_collected (h : l ∈ collected ms relation) :
    ∃ a ∈ ms, ∃ b ∈ ms, l = ⟨a.id, b.id, relation⟩ := by
  cases relation with
  | calls =>
    simp only [collected, calls, List.mem_flatMap, List.mem_filter, List.mem_filterMap] at h
    obtain ⟨a, ⟨ha, -⟩, s, -, hl⟩ := h
    obtain ⟨b, hb, rfl⟩ := linkToFirst_eq_some hl
    exact ⟨a, ha, b, hb, rfl⟩
  | uses =>
    simp only [collected, usages, List.mem_flatMap, List.mem_filterMap] at h
    obtain ⟨a, ha, s, -, hl⟩ := h
    obtain ⟨b, hb, rfl⟩ := linkToFirst_eq_some hl
    exact ⟨a, ha, b, hb, rfl⟩
  | implements =>
    simp only [collected, implementations, List.mem_flatMap, List.mem_filter, List.mem_map] at h
    obtain ⟨a, ⟨ha, -⟩, s, -, b, ⟨hb, -⟩, rfl⟩ := h
    exact ⟨a, ha, b, (mem_candidates_iff.mp hb).1, rfl⟩
  | overrides =>
    simp only [collected, overridings, List.mem_flatMap, List.mem_filter, List.mem_map] at h
    obtain ⟨a, ⟨ha, -⟩, s, -, b, ⟨hb, -⟩, rfl⟩ := h
    exact ⟨a, ha, b, (mem_candidates_iff.mp hb).1, rfl⟩

theorem mem_all_iff : l ∈ all ms ↔ l ∈ collected ms l.relation := by
  constructor
  · intro h
    have hsome : ∃ relation, l ∈ collected ms relation := by
      simp only [all, List.mem_append] at h
      rcases h with ((h | h) | h) | h
      · exact ⟨.calls, h⟩
      · exact ⟨.uses, h⟩
      · exact ⟨.implements, h⟩
      · exact ⟨.overrides, h⟩
    obtain ⟨relation, h⟩ := hsome
    obtain ⟨a, -, b, -, rfl⟩ := ends_of_mem_collected h
    exact h
  · intro h
    simp only [all, List.mem_append]
    cases hrelation : l.relation <;> rw [hrelation] at h
    · exact .inl (.inl (.inl h))
    · exact .inl (.inl (.inr h))
    · exact .inl (.inr h)
    · exact .inr h

/-- The same links are collected in any order of the members. -/
theorem collected_perm (h : ms.Perm ms') (hone : Settled ms relation) :
    (collected ms relation).Perm (collected ms' relation) := by
  cases relation with
  | calls =>
    refine (h.filter _).flatMap fun m _ => .of_eq ?_
    simp only [linkToFirst_perm h hone]
  | uses =>
    refine h.flatMap fun m _ => .of_eq ?_
    simp only [linkToFirst_perm h hone]
  | implements =>
    exact (h.filter _).flatMap fun m _ => .flatMap_left _ fun s _ =>
      ((candidates_perm h _).filter _).map _
  | overrides =>
    exact (h.filter _).flatMap fun m _ => .flatMap_left _ fun s _ =>
      ((candidates_perm h _).filter _).map _

/-- No link is lost when members are added at the end. -/
theorem mem_collected_append (h : l ∈ collected ms relation) (more : List Member) :
    l ∈ collected (ms ++ more) relation := by
  have hmember : ∀ {m}, m ∈ ms → m ∈ ms ++ more := fun hm => List.mem_append_left _ hm
  have hcandidate : ∀ {symbol t}, t ∈ candidates ms symbol →
      t ∈ candidates (ms ++ more) symbol := by
    intro symbol t ht
    rw [candidates_append]
    exact List.mem_append_left _ ht
  cases relation with
  | calls =>
    simp only [collected, calls, List.mem_flatMap, List.mem_filter, List.mem_filterMap] at h ⊢
    obtain ⟨m, ⟨hm, hkind⟩, s, hs, hl⟩ := h
    exact ⟨m, ⟨hmember hm, hkind⟩, s, hs, linkToFirst_append hl more⟩
  | uses =>
    simp only [collected, usages, List.mem_flatMap, List.mem_filterMap] at h ⊢
    obtain ⟨m, hm, s, hs, hl⟩ := h
    exact ⟨m, hmember hm, s, hs, linkToFirst_append hl more⟩
  | implements =>
    simp only [collected, implementations, List.mem_flatMap, List.mem_filter, List.mem_map] at h ⊢
    obtain ⟨m, ⟨hm, hkind⟩, s, hs, t, ⟨ht, htest⟩, rfl⟩ := h
    exact ⟨m, ⟨hmember hm, hkind⟩, s, hs, t, ⟨hcandidate ht, htest⟩, rfl⟩
  | overrides =>
    simp only [collected, overridings, List.mem_flatMap, List.mem_filter, List.mem_map] at h ⊢
    obtain ⟨m, ⟨hm, hkind⟩, s, hs, t, ⟨ht, htest⟩, rfl⟩ := h
    exact ⟨m, ⟨hmember hm, hkind⟩, s, hs, t, ⟨hcandidate ht, htest⟩, rfl⟩

end Collected

/-! ### Nodes as the database lists them -/

/-- What a look-up gives back for nodes. -/
def rowsOf (nodes : List Fields) : List Fields :=
  nodes.map fun n => Graph.Store.record "n" (.object n)

/-- The id of a node, if it has one, is a text. -/
def HasTextId (n : Fields) : Prop := ∀ v, n.get? "node_id" = some v → ∃ id, v = .string id

theorem member_id_of_linkable {n : Fields} (h : Linkable n) (hid : HasTextId n) :
    ∃ id, (member n).id = .string id := by
  obtain ⟨v, hv⟩ := h.id
  obtain ⟨id, rfl⟩ := hid v hv
  rw [Fields.get?] at hv
  exact ⟨id, by simp [member, Fields.getOrNull, hv]⟩

section Nodes
variable {nodes : List Fields} {l : SemanticLink}

theorem textEnds_of_mem_all (h : ∀ n ∈ nodes, Linkable n) (hids : ∀ n ∈ nodes, HasTextId n)
    (hl : l ∈ all (nodes.map member)) : HasTextEnds l := by
  have hid : ∀ m ∈ nodes.map member, ∃ id, m.id = .string id := by
    intro m hm
    obtain ⟨n, hn, rfl⟩ := List.mem_map.mp hm
    exact member_id_of_linkable (h n hn) (hids n hn)
  obtain ⟨a, ha, b, hb, heq⟩ := ends_of_mem_collected (mem_all_iff.mp hl)
  obtain ⟨i, hi⟩ := hid a ha
  obtain ⟨j, hj⟩ := hid b hb
  rw [hi, hj] at heq
  exact ⟨i, j, by rw [heq], by rw [heq]⟩

/-- What is written back for nodes: all links between them, if each of them can be linked. -/
theorem mem_linksFor_iff (hids : ∀ n ∈ nodes, HasTextId n) :
    l ∈ linksFor (rowsOf nodes) ↔ (∀ n ∈ nodes, Linkable n) ∧ l ∈ all (nodes.map member) := by
  have hread : Graph.nodesIn (rowsOf nodes) = .ok nodes := Graph.nodesIn_records nodes
  rw [linksFor, linksIn, hread, ok_bind]
  cases hmembers : members nodes with
  | error e =>
    have hnot : ¬ ∀ n ∈ nodes, Linkable n := by
      intro hall
      rw [members_eq_ok_iff.mpr ⟨rfl, hall⟩] at hmembers
      cases hmembers
    change l ∈ [] ↔ _
    simp [hnot]
  | ok ms =>
    obtain ⟨rfl, hall⟩ := members_eq_ok_iff.mp hmembers
    have hends : ∀ l ∈ all (nodes.map member), HasTextEnds l :=
      fun l hl => textEnds_of_mem_all hall hids hl
    rw [ok_bind, checkEnds_eq_ok_of_textEnds hends, ok_bind, and_iff_right hall]
    change l ∈ dedupe _ ↔ _
    rw [dedupe, mem_dedupeBy_iff same_iff_of_textEnds hends (by simp)]
    simp

end Nodes

/-! ### Two runs -/

/-- Linking a project from here looks its nodes up and writes these links back. The entry of a
link names its ends and its type. -/
structure WritesBack {σ : Type} (world : World σ) (s : σ) (project : String)
    (created : Times) (links : List SemanticLink) : Prop where
  requests : ((linkProject project created).transcript world s).map Exchange.request =
    .graph (.projectNodes (.string project)) :: batchOf created links
  keys : ∀ l ∈ links, keyOf (l.toJson created) = .ok [l.source, l.target, .string l.relation.name]

theorem writesBack_linksFor {σ : Type} {world : World σ} {s : σ} {project : String}
    {nodes : List Fields} (hids : ∀ n ∈ nodes, HasTextId n)
    (hrows : (world (.graph (.projectNodes (.string project))) s).1 = .ok (rowsOf nodes))
    (created : Times) :
    WritesBack world s project created (linksFor (rowsOf nodes)) where
  requests := requests_linkProject_rows world s created hrows
  keys l hl := by
    obtain ⟨hall, hl⟩ := (mem_linksFor_iff hids).mp hl
    exact keyOf_toJson created (textEnds_of_mem_all hall hids hl)

/-- The order in which nodes are listed does not matter for what is implemented and overridden.
Nor does it for what is called and used where no symbol is defined under two ids. -/
theorem linkProject_perm {σ τ : Type} (world : World σ) (s : σ) (world' : World τ) (s' : τ)
    (project : String) (created created' : Times) (nodes nodes' : List Fields)
    (hperm : nodes.Perm nodes') (hids : ∀ n ∈ nodes, HasTextId n)
    (hrows : (world (.graph (.projectNodes (.string project))) s).1 = .ok (rowsOf nodes))
    (hrows' : (world' (.graph (.projectNodes (.string project))) s').1 = .ok (rowsOf nodes')) :
    ∃ links links', WritesBack world s project created links ∧
      WritesBack world' s' project created' links' ∧
      (∀ a b, ⟨a, b, .implements⟩ ∈ links ↔ ⟨a, b, .implements⟩ ∈ links') ∧
      (∀ a b, ⟨a, b, .overrides⟩ ∈ links ↔ ⟨a, b, .overrides⟩ ∈ links') ∧
      (OneDefiner (nodes.map member) calleeKinds →
        ∀ a b, ⟨a, b, .calls⟩ ∈ links ↔ ⟨a, b, .calls⟩ ∈ links') ∧
      (OneDefiner (nodes.map member) usableKinds →
        ∀ a b, ⟨a, b, .uses⟩ ∈ links ↔ ⟨a, b, .uses⟩ ∈ links') := by
  have hids' : ∀ n ∈ nodes', HasTextId n := fun n hn => hids n (hperm.mem_iff.mpr hn)
  have hsame : ∀ relation, Settled (nodes.map member) relation → ∀ a b,
      ⟨a, b, relation⟩ ∈ linksFor (rowsOf nodes) ↔ ⟨a, b, relation⟩ ∈ linksFor (rowsOf nodes') := by
    intro relation hone a b
    rw [mem_linksFor_iff hids, mem_linksFor_iff hids', mem_all_iff, mem_all_iff,
      (collected_perm (hperm.map member) hone).mem_iff]
    simp only [hperm.mem_iff]
  exact ⟨_, _, writesBack_linksFor hids hrows created,
    writesBack_linksFor hids' hrows' created', hsame .implements trivial,
    hsame .overrides trivial, hsame .calls, hsame .uses⟩

namespace Stall

/-- A world in which records are found in this order, and nothing else. -/
def listing (rs : List CodeRecord) : World Unit := fun q _ =>
  (match q with
    | .graph (.projectNodes _) => .ok (rs.map fun r => (StoredNode.stored [] r).row)
    | _ => .error (.wrongType "closed"), ())

/-- The nodes that are found. -/
def nodes (rs : List CodeRecord) : List Fields :=
  rs.map fun r => (StoredNode.stored [] r).fields

theorem hasTextId_of_mem_nodes (rs : List CodeRecord) {n : Fields} (h : n ∈ nodes rs) :
    HasTextId n := by
  obtain ⟨r, -, rfl⟩ := List.mem_map.mp h
  intro v hv
  rw [StoredNode.get?_id] at hv
  exact ⟨_, (Option.some.inj hv).symm⟩

theorem oneDefiner_nodes {rs : List CodeRecord} {kinds : List String}
    (h : ∀ a ∈ rs, ∀ b ∈ rs, a.kind ∈ kinds → b.kind ∈ kinds →
      ∀ d ∈ a.defined, ∀ e ∈ b.defined, normalForm d = normalForm e → a.id = b.id) :
    OneDefiner ((nodes rs).map member) kinds := by
  have hmembers : (nodes rs).map member = rs.map Member.ofRecord := by
    rw [nodes, List.map_map]
    exact List.map_congr_left fun r _ => member_eq (.stored [] r)
  rw [hmembers]
  intro a ha b hb hkind hkind' d hd e he hmatch
  obtain ⟨r, hr, rfl⟩ := List.mem_map.mp ha
  obtain ⟨r', hr', rfl⟩ := List.mem_map.mp hb
  rw [isOneOf_ofRecord] at hkind hkind'
  exact congrArg Json.string (h r hr r' hr' hkind hkind' d hd e he hmatch)

/-- Links are written back if there is a second request. -/
theorem ne_nil_of_writesBack {rs : List CodeRecord} {links : List SemanticLink}
    (h : WritesBack (listing rs) () "market" clock links)
    (htwo : ((linkProject "market" clock).transcript (listing rs) ()).length = 2) : links ≠ [] := by
  rintro rfl
  have hlength := congrArg List.length h.requests
  simp [htwo, batchOf] at hlength

theorem reversed_same_links :
    ∃ links links', WritesBack (listing [drawer, till, total, report]) () "market" clock links ∧
      WritesBack (listing [report, total, till, drawer]) () "market" clock links' ∧ links ≠ [] ∧
      ∀ a b relation, ⟨a, b, relation⟩ ∈ links ↔ ⟨a, b, relation⟩ ∈ links' := by
  obtain ⟨links, links', hlinks, hlinks', himplements, hoverrides, hcalls, huses⟩ :=
    linkProject_perm (listing [drawer, till, total, report]) ()
      (listing [report, total, till, drawer]) () "market" clock clock
      (nodes [drawer, till, total, report]) (nodes [report, total, till, drawer])
      (List.reverse_perm _).symm
      (fun n hn => hasTextId_of_mem_nodes _ hn) rfl rfl
  refine ⟨links, links', hlinks, hlinks', ne_nil_of_writesBack hlinks (by decide +kernel), ?_⟩
  intro a b relation
  cases relation with
  | calls => exact hcalls (oneDefiner_nodes (by decide +kernel)) a b
  | uses => exact huses (oneDefiner_nodes (by decide +kernel)) a b
  | implements => exact himplements a b
  | overrides => exact hoverrides a b

end Stall

/-- Every link of a project is still among its links when nodes are added at the end. -/
theorem linkProject_append {σ τ : Type} (world : World σ) (s : σ) (world' : World τ) (s' : τ)
    (project : String) (created created' : Times) (nodes more : List Fields)
    (hids : ∀ n ∈ nodes ++ more, HasTextId n) (hmore : ∀ n ∈ more, Linkable n)
    (hrows : (world (.graph (.projectNodes (.string project))) s).1 = .ok (rowsOf nodes))
    (hrows' : (world' (.graph (.projectNodes (.string project))) s').1 =
      .ok (rowsOf (nodes ++ more))) :
    ∃ links links', WritesBack world s project created links ∧
      WritesBack world' s' project created' links' ∧ ∀ l ∈ links, l ∈ links' := by
  have hids' : ∀ n ∈ nodes, HasTextId n := fun n hn => hids n (List.mem_append_left _ hn)
  refine ⟨_, _, writesBack_linksFor hids' hrows created, writesBack_linksFor hids hrows' created',
    fun l hl => ?_⟩
  obtain ⟨hnodes, hl⟩ := (mem_linksFor_iff hids').mp hl
  rw [mem_linksFor_iff hids, List.forall_mem_append, List.map_append]
  exact ⟨⟨hnodes, hmore⟩, mem_all_iff.mpr (mem_collected_append (mem_all_iff.mp hl) _)⟩

namespace Stall

/-- Another method with a name that is already defined. -/
def spareTotal : CodeRecord := { total with id := "annex:total" }

theorem links_stay_beside_spare :
    ∃ links links', WritesBack (listing [drawer, till, total, report]) () "market" clock links ∧
      WritesBack (listing [drawer, till, total, report, spareTotal]) () "market" clock links' ∧
      links ≠ [] ∧ ∀ l ∈ links, l ∈ links' := by
  obtain ⟨links, links', hlinks, hlinks', hsub⟩ :=
    linkProject_append (listing [drawer, till, total, report]) ()
      (listing [drawer, till, total, report, spareTotal]) () "market" clock clock
      (nodes [drawer, till, total, report]) (nodes [spareTotal])
      (fun n hn => hasTextId_of_mem_nodes [drawer, till, total, report, spareTotal] hn)
      (fun n hn => List.mem_singleton.mp hn ▸ StoredNode.linkable _) rfl rfl
  exact ⟨links, links', hlinks, hlinks', ne_nil_of_writesBack hlinks (by decide +kernel), hsub⟩

end Stall

end CodeAtlas.Link
