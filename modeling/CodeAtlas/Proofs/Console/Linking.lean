import CodeAtlas.Console.Run
import CodeAtlas.Proofs.Ingest.Ledger
import CodeAtlas.Proofs.Link.Project

/-! Linking several projects in one go. For each there is a plan of queries, which is followed up to
the first query that is refused. A project whose nodes or links are refused takes nothing away from
the others, whose plans are followed as if each was linked alone. Only when the look-up of a project
itself is refused does everything end there. -/

namespace CodeAtlas.Console

open Dialogue Ingest

/-! ### Queries and plans -/

/-- A query, and why it was refused if it was. -/
structure Call where
  request : Request
  refused : Option Failure

def Call.ofAnswer (q : Graph.Query) : Except Failure (List Fields) → Call
  | .ok _ => ⟨.graph q, none⟩
  | .error e => ⟨.graph q, some e⟩

/-- A query that is not refused. -/
def Call.granted (q : Request) : Call := ⟨q, none⟩

theorem map_request_granted (qs : List Request) : (qs.map Call.granted).map (·.request) = qs := by
  rw [List.map_map]
  exact List.map_id qs

def call? : Exchange → Option Call
  | ⟨.graph q, r⟩ => some (.ofAnswer q r)
  | _ => none

/-- The queries in a conversation. -/
def callsIn (es : List Exchange) : List Call := es.filterMap call?

def lookUp (p : String) : Request := .graph (.projectExists (.string p))

/-- The look-up of a project is refused. -/
def Call.BreaksOff (c : Call) : Prop := ∃ p e, c = ⟨lookUp p, some e⟩

variable {w : Surroundings} {created : Link.Times} {store : Graph.Store} {p : String}

/-- A plan is followed up to the first query that is refused. -/
inductive Along (w : Surroundings) : List Request → List Call → Prop where
  | nil : Along w [] []
  | refused {q : Request} {plan : List Request} {es : Journal} {e : Failure}
    (h : w.refusal es q = some e) : Along w (q :: plan) [⟨q, some e⟩]
  | next {q : Request} {plan : List Request} {cs : List Call} (h : Along w plan cs) :
    Along w (q :: plan) (⟨q, none⟩ :: cs)

namespace Along

variable {plan : List Request} {cs : List Call}

theorem requests_prefix (h : Along w plan cs) : cs.map (·.request) <+: plan := by
  induction h with
  | nil => exact List.prefix_rfl
  | refused _ => exact (List.prefix_cons_inj _).mpr List.nil_prefix
  | next _ ih => exact (List.prefix_cons_inj _).mpr ih

theorem eq_of_unrefused (h : Along w plan cs)
    (hplan : ∀ q ∈ plan, ∀ es, w.refusal es q = none) : cs = plan.map .granted := by
  induction h with
  | nil => rfl
  | @refused q _ es _ h =>
    rw [hplan q List.mem_cons_self es] at h
    cases h
  | next _ ih => exact congrArg (_ :: ·) (ih fun q hq => hplan q (List.mem_cons_of_mem _ hq))

end Along

/-- The queries for a project that is there. -/
def linkPlan (created : Link.Times) (store : Graph.Store) (p : String) : List Request :=
  .graph (.projectNodes (.string p)) ::
    Link.batchOf created (Link.linksFor (store.answer (.projectNodes (.string p))).1)

/-- The queries for a project: it is looked up first. -/
def plan (created : Link.Times) (store : Graph.Store) (p : String) : List Request :=
  lookUp p :: if store.projects.contains p then linkPlan created store p else []

theorem not_breaksOff_of_along {cs : List Call} (h : Along w (linkPlan created store p) cs) :
    ∀ c ∈ cs, ¬ c.BreaksOff := by
  rintro c hc ⟨p', e, rfl⟩
  have hmem := h.requests_prefix.subset (List.mem_map_of_mem hc)
  rw [linkPlan, Link.batchOf] at hmem
  split at hmem <;> simp [lookUp] at hmem

/-! ### Dialogues that leave the store alone -/

/-- Carried out from a ledger, a dialogue makes the given calls and has the given result, and the
store stays as it is. -/
structure Does {α : Type} (w : Surroundings) (s : Ledger) (d : Dialogue α) (cs : List Call)
    (r : Except Failure α) : Prop where
  calls : callsIn (d.transcript w.world s) = cs
  result : (d.run w.world s).1 = r
  store : (d.run w.world s).2.store = s.store

section Does
variable {α β : Type} {s : Ledger} {d : Dialogue α} {f : α → Dialogue β} {cs cs' : List Call}

theorem does_done (a : α) : Does w s (.done a) [] (.ok a) := ⟨rfl, rfl, rfl⟩

theorem does_ofExcept (r : Except Failure α) : Does w s (ofExcept r) [] r := by
  cases r <;> exact ⟨rfl, rfl, rfl⟩

theorem Does.bind {a : α} {r : Except Failure β} (hd : Does w s d cs (.ok a))
    (hrest : Does w (d.run w.world s).2 (f a) cs' r) : Does w s (d.bind f) (cs ++ cs') r := by
  have hrun : d.run w.world s = (.ok a, (d.run w.world s).2) := Prod.ext hd.result rfl
  refine ⟨?_, ?_, ?_⟩
  · rw [transcript_bind, hrun, callsIn, List.filterMap_append]
    exact congrArg₂ (· ++ ·) hd.calls hrest.calls
  · rw [run_bind_of_ok _ hrun, hrest.result]
  · rw [run_bind_of_ok _ hrun, hrest.store, hd.store]

theorem Does.bind_silent {a : α} {r : Except Failure β} (hd : Does w s d cs (.ok a))
    (hrest : Does w (d.run w.world s).2 (f a) [] r) : Does w s (d.bind f) cs r := by
  simpa only [List.append_nil] using hd.bind hrest

theorem Does.bind_error {e : Failure} (hd : Does w s d cs (.error e)) :
    Does w s (d.bind f) cs (.error e) := by
  have hrun : d.run w.world s = (.error e, (d.run w.world s).2) := Prod.ext hd.result rfl
  refine ⟨?_, ?_, ?_⟩
  · rw [transcript_bind, hrun, List.append_nil, hd.calls]
  · rw [run_bind, hrun]
  · rw [run_bind, hrun]
    exact hd.store

theorem Does.attempt {r : Except Failure α} (hd : Does w s d cs r) :
    Does w s d.attempt cs (.ok r) := by
  refine ⟨?_, ?_, ?_⟩
  · rw [transcript_attempt, hd.calls]
  · rw [run_attempt, hd.result]
  · rw [run_attempt, hd.store]

/-- What is shown asks nothing of the graph. -/
theorem does_display (hshows : ∀ item, w.answer (.display item) = .ok ()) (item : Shown) :
    Does w s (request (.display item)) [] (.ok ()) := by
  have hworld := Surroundings.world_plain (w := w) (q := .display item) trivial s
  refine ⟨?_, ?_, ?_⟩
  · rw [transcript_request]
    rfl
  · rw [run_request, hworld, hshows]
  · rw [run_request, hworld]

section Query
variable {q : Graph.Query} (hkeeps : (s.store.answer q).2 = s.store)
include hkeeps

theorem does_query (h : w.refusal s.journal (.graph q) = none) :
    Does w s (request (.graph q)) [⟨.graph q, none⟩] (.ok (s.store.answer q).1) := by
  have hworld := Surroundings.world_graph (w := w) s q
  rw [h] at hworld
  refine ⟨?_, ?_, ?_⟩
  · rw [transcript_request, hworld]
    rfl
  · rw [run_request, hworld]
  · rw [run_request, hworld, hkeeps]

omit hkeeps in
theorem does_query_refused {e : Failure} (h : w.refusal s.journal (.graph q) = some e) :
    Does w s (request (.graph q)) [⟨.graph q, some e⟩] (.error e) := by
  have hworld := Surroundings.world_graph (w := w) s q
  rw [h] at hworld
  refine ⟨?_, ?_, ?_⟩
  · rw [transcript_request, hworld]
    rfl
  · rw [run_request, hworld]
  · rw [run_request, hworld]

end Query

end Does

/-! ### One project -/

variable {s : Ledger}

theorem does_writeBack (w : Surroundings) (s : Ledger) (created : Link.Times)
    (links : List Link.SemanticLink) :
    ∃ cs r, Does w s (Link.writeBack created links) cs r ∧
      Along w (Link.batchOf created links) cs := by
  unfold Link.writeBack Link.batchOf
  split
  · exact ⟨_, _, does_done (), .nil⟩
  · rw [Graph.linkBatch, Graph.execute, Dialogue.bind_eq]
    cases h : w.refusal s.journal
        (.graph (.linkBatch (.array (links.map (Link.SemanticLink.toJson created))))) with
    | some e => exact ⟨_, _, (does_query_refused h).bind_error, .refused h⟩
    | none => exact ⟨_, _, (does_query rfl h).bind (does_done ()), .next .nil⟩

theorem does_linkProject (w : Surroundings) (s : Ledger) (created : Link.Times) (p : String) :
    ∃ cs r, Does w s (Link.linkProject p created) cs r ∧
      Along w (linkPlan created s.store p) cs := by
  rw [Link.linkProject_eq, Graph.records, linkPlan, Link.linksFor]
  cases h : w.refusal s.journal (.graph (.projectNodes (.string p))) with
  | some e => exact ⟨_, _, (does_query_refused h).bind_error, .refused h⟩
  | none =>
    have hrows := does_query (w := w) (s := s) (q := .projectNodes (.string p)) rfl h
    cases hlinks : Link.linksIn (s.store.answer (.projectNodes (.string p))).1 with
    | error e =>
      refine ⟨_, _, hrows.bind (Does.bind_error (e := e) ?_), .next .nil⟩
      rw [hlinks]
      exact does_ofExcept _
    | ok links =>
      obtain ⟨cs, r, hwrite, halong⟩ := does_writeBack w
        ((request (.graph (.projectNodes (.string p)))).run w.world s).2 created links
      refine ⟨_, r, hrows.bind ?_, .next halong⟩
      rw [hlinks]
      exact (does_ofExcept _).bind hwrite

/-- Whether the project is there, as the store has it. -/
theorem does_projectExists (h : w.refusal s.journal (lookUp p) = none) :
    Does w s (Graph.projectExists (.string p)) [⟨lookUp p, none⟩]
      (.ok (.bool (s.store.projects.contains p))) := by
  have hfirst : Does w s (Graph.firstRecord (.projectExists (.string p)))
      [⟨lookUp p, none⟩]
      (.ok (some [("exists", .bool (s.store.projects.contains p))])) :=
    (does_query rfl h).bind (does_done _)
  exact hfirst.bind (does_ofExcept (.ok _))

theorem does_projectExists_refused {e : Failure}
    (h : w.refusal s.journal (lookUp p) = some e) :
    Does w s (Graph.projectExists (.string p)) [⟨lookUp p, some e⟩] (.error e) :=
  (does_query_refused h).bind_error.bind_error

section Shown
variable (hshows : ∀ item, w.answer (.display item) = .ok ())
include hshows

theorem does_display_twice (item item' : Shown) :
    Does w s ((request (.display item)).bind fun _ => request (.display item')) [] (.ok ()) :=
  (does_display hshows item).bind (does_display hshows item')

/-- The look-up of the project is refused, or its plan is followed and all goes well. -/
theorem does_linkOne (created : Link.Times) (number : Nat) (p : String) (s : Ledger) :
    (∃ e, Does w s (linkOne created number p) [⟨lookUp p, some e⟩] (.error e) ∧
        Along w (plan created s.store p) [⟨lookUp p, some e⟩]) ∨
      ∃ cs, Does w s (linkOne created number p) (⟨lookUp p, none⟩ :: cs) (.ok ()) ∧
        Along w (plan created s.store p) (⟨lookUp p, none⟩ :: cs) ∧
        ∀ c ∈ cs, ¬ c.BreaksOff := by
  have htask : Does w s (task number ("Linking " ++ p ++ "...")) [] (.ok ()) :=
    does_display hshows _
  unfold linkOne
  generalize task number ("Linking " ++ p ++ "...") = start at htask ⊢
  cases h : w.refusal (start.run w.world s).2.journal (lookUp p) with
  | some e => exact .inl ⟨e, htask.bind (does_projectExists_refused h).bind_error, .refused h⟩
  | none =>
    have hexists := does_projectExists h
    rw [htask.store] at hexists
    refine .inr ?_
    rw [plan]
    cases hp : s.store.projects.contains p with
    | false =>
      rw [hp] at hexists
      refine ⟨[], htask.bind (hexists.bind_silent ?_), .next .nil, fun c hc => by cases hc⟩
      exact does_display_twice hshows _ _
    | true =>
      rw [hp] at hexists
      obtain ⟨cs, r, hlink, halong⟩ := does_linkProject w
        ((Graph.projectExists (.string p)).run w.world (start.run w.world s).2).2 created p
      rw [hexists.store, htask.store] at halong
      refine ⟨cs, htask.bind (hexists.bind (hlink.attempt.bind_silent ?_)), .next halong,
        not_breaksOff_of_along halong⟩
      -- From here on a failure is only shown, so both results end well.
      cases r with
      | ok a => exact does_display_twice hshows _ _
      | error e => exact does_display_twice hshows _ _

/-! ### All projects -/

/-- Projects are linked one after another, up to the first one whose look-up is refused. -/
theorem does_linkFrom (created : Link.Times) (number : Nat) (projects : List String) (s : Ledger) :
    ∃ begun parts, List.Forall₂ (fun p part => Along w (plan created s.store p) part) begun parts ∧
      (∀ c ∈ parts.flatten, ¬ c.BreaksOff) ∧
      ((begun = projects ∧ Does w s (linkFrom created number projects) parts.flatten (.ok ())) ∨
        ∃ p e, begun ++ [p] <+: projects ∧ Does w s (linkFrom created number projects)
          (parts.flatten ++ [⟨lookUp p, some e⟩]) (.error e)) := by
  induction projects generalizing number s with
  | nil => exact ⟨[], [], .nil, by simp, .inl ⟨rfl, does_done ()⟩⟩
  | cons p rest ih =>
    rcases does_linkOne hshows created number p s with ⟨e, hone, -⟩ | ⟨cs, hone, halong, hcs⟩
    · exact ⟨[], [], .nil, by simp, .inr ⟨p, e, ⟨rest, rfl⟩, hone.bind_error⟩⟩
    · obtain ⟨begun, parts, hparts, hall, hend⟩ :=
        ih (number + 1) ((linkOne created number p).run w.world s).2
      rw [hone.store] at hparts
      refine ⟨p :: begun, _ :: parts, .cons halong hparts, ?_, ?_⟩
      · rw [List.flatten_cons, List.forall_mem_append, List.forall_mem_cons]
        refine ⟨⟨?_, hcs⟩, hall⟩
        rintro ⟨_, _, heq⟩
        cases heq
      · rcases hend with ⟨rfl, hrest⟩ | ⟨p', e, hprefix, hrest⟩
        · exact .inl ⟨rfl, hone.bind hrest⟩
        · refine .inr ⟨p', e, (List.prefix_cons_inj p).mpr hprefix, ?_⟩
          rw [List.flatten_cons, List.append_assoc]
          exact hone.bind hrest

end Shown

/-- The surroundings with databases that refuse nothing. -/
def serving (w : Surroundings) : Surroundings := { w with refusal := fun _ _ => none }

/-- The queries of linking one project alone, when none is refused. -/
def alone (w : Surroundings) (created : Link.Times) (store : Graph.Store) (p : String) : List Call :=
  callsIn ((linkAll created [p]).transcript (serving w).world ⟨store, []⟩)

theorem alone_eq (hshows : ∀ item, w.answer (.display item) = .ok ()) (created : Link.Times)
    (store : Graph.Store) (p : String) :
    alone w created store p = (plan created store p).map .granted := by
  obtain ⟨cs, r, hone, halong⟩ : ∃ cs r, Does (serving w) ⟨store, []⟩ (linkOne created 0 p) cs r ∧
      Along (serving w) (plan created store p) cs := by
    rcases does_linkOne (w := serving w) hshows created 0 p ⟨store, []⟩ with
      ⟨e, hone, halong⟩ | ⟨cs, hone, halong, -⟩
    · exact ⟨_, _, hone, halong⟩
    · exact ⟨_, _, hone, halong⟩
  have hcs := halong.eq_of_unrefused fun _ _ _ => rfl
  rw [← hcs]
  cases r with
  | ok a => exact (hone.bind_silent (does_done ())).calls
  | error e => exact hone.bind_error.calls

/-- No query about a project is refused. -/
def Spared (w : Surroundings) (created : Link.Times) (store : Graph.Store) (p : String) : Prop :=
  ∀ c ∈ alone w created store p, ∀ es, w.refusal es c.request = none

/-- The queries for a project are the first ones of those that it has alone, and all of them if
none is refused. -/
def AsAlone (w : Surroundings) (created : Link.Times) (store : Graph.Store) (p : String)
    (part : List Call) : Prop :=
  part.map (·.request) <+: (alone w created store p).map (·.request) ∧
    (Spared w created store p → part = alone w created store p)

theorem asAlone_of_along (hshows : ∀ item, w.answer (.display item) = .ok ()) {part : List Call}
    (h : Along w (plan created store p) part) : AsAlone w created store p part := by
  have halone := alone_eq hshows created store p
  refine ⟨?_, fun hspared => ?_⟩
  · rw [halone, map_request_granted]
    exact h.requests_prefix
  · rw [halone]
    refine h.eq_of_unrefused fun q hq es => hspared (.granted q) ?_ es
    rw [halone]
    exact List.mem_map_of_mem hq

/-- One project does not keep the others from being linked unless its look-up is refused. Linking
returns just when no look-up of a project is. Then the queries are those of the projects one after
another, each as if it was linked alone. Otherwise the same holds for the projects up to the first
one whose look-up is refused, with which everything ends. -/
theorem linkAll_isolation (w : Surroundings) (hshows : ∀ item, w.answer (.display item) = .ok ())
    (created : Link.Times) (projects : List String) (s : Ledger) (result : Except Failure Unit)
    (calls : List Call) (hresult : ((linkAll created projects).run w.world s).1 = result)
    (hcalls : callsIn ((linkAll created projects).transcript w.world s) = calls) :
    (result = .ok () ↔ ∀ c ∈ calls, ¬ c.BreaksOff) ∧
    ∃ begun parts, List.Forall₂ (AsAlone w created s.store) begun parts ∧
      (result = .ok () → begun = projects ∧ calls = parts.flatten) ∧
      ∀ e, result = .error e → ∃ p, begun ++ [p] <+: projects ∧
        calls = parts.flatten ++ [⟨lookUp p, some e⟩] := by
  obtain ⟨begun, parts, hparts, hall, hend⟩ := does_linkFrom hshows created 0 projects s
  have hasAlone : List.Forall₂ (AsAlone w created s.store) begun parts :=
    hparts.imp fun _ _ h => asAlone_of_along hshows h
  rcases hend with ⟨rfl, hdoes⟩ | ⟨p, e, hprefix, hdoes⟩
  · obtain rfl : result = .ok () := hresult.symm.trans hdoes.result
    obtain rfl : calls = parts.flatten := hcalls.symm.trans hdoes.calls
    exact ⟨iff_of_true rfl hall, begun, parts, hasAlone, fun _ => ⟨rfl, rfl⟩,
      fun e he => by cases he⟩
  · obtain rfl : result = .error e := hresult.symm.trans hdoes.result
    obtain rfl : calls = _ := hcalls.symm.trans hdoes.calls
    refine ⟨iff_of_false (fun h => by cases h) fun h => ?_, begun, parts, hasAlone,
      fun h => (by cases h), fun e' he => ⟨p, hprefix, ?_⟩⟩
    · exact h _ List.mem_concat_self ⟨p, e, rfl⟩
    · rw [Except.error.inj he]

/-! ### Two projects, one in trouble -/

namespace Street

open Link (StoredNode)
open Link.Stall (clock drawer report till total)

/-- Two projects, of which the second one has nodes. -/
def shops : Graph.Store :=
  ⟨[drawer, till, total, report].map fun r => (r.id, (StoredNode.stored [] r).fields),
    ["mall", "market"]⟩

def outage : Failure := .reported "connection lost"

/-- A terminal that shows everything, and a database that refuses some queries. -/
def refusing (blocked : Graph.Query → Bool) : Surroundings where
  answer
    | .display _ => .ok ()
    | _ => .error outage
  reply _ _ := .error outage
  refusal _
    | .graph q => if blocked q then some outage else none
    | _ => none

/-- The nodes of the first project cannot be listed. -/
def listsMall : Graph.Query → Bool
  | .projectNodes (.string p) => p == "mall"
  | _ => false

/-- The first project cannot be looked up. -/
def looksUpMall : Graph.Query → Bool
  | .projectExists (.string p) => p == "mall"
  | _ => false

theorem spared_market {blocked : Graph.Query → Bool}
    (hlookUp : blocked (.projectExists (.string "market")) = false)
    (hnodes : blocked (.projectNodes (.string "market")) = false)
    (hbatch : ∀ links, blocked (.linkBatch links) = false) :
    Spared (refusing blocked) clock shops "market" := by
  intro c hc es
  rw [alone_eq fun _ => rfl] at hc
  obtain ⟨q, hq, rfl⟩ := List.mem_map.mp hc
  have hrefusal : ∀ q, blocked q = false → (refusing blocked).refusal es (.graph q) = none :=
    fun q hq => if_neg (by simp [hq])
  rw [plan, linkPlan, Link.batchOf] at hq
  rcases List.mem_cons.mp hq with rfl | hq
  · exact hrefusal _ hlookUp
  split at hq
  · rcases List.mem_cons.mp hq with rfl | hq
    · exact hrefusal _ hnodes
    split at hq
    · cases hq
    · rw [List.mem_singleton.mp hq]
      exact hrefusal _ (hbatch _)
  · cases hq

theorem market_linked_after_mall_fails :
    ((linkAll clock ["mall", "market"]).run (refusing listsMall).world ⟨shops, []⟩).1 = .ok () ∧
      ∃ part, callsIn ((linkAll clock ["mall", "market"]).transcript (refusing listsMall).world
          ⟨shops, []⟩) = part ++ alone (refusing listsMall) clock shops "market" ∧
        (alone (refusing listsMall) clock shops "market").length = 3 := by
  obtain ⟨-, begun, parts, hparts, hok, -⟩ := linkAll_isolation (refusing listsMall)
    (fun _ => rfl) clock ["mall", "market"] ⟨shops, []⟩ (.ok ()) _ (by rfl) rfl
  obtain ⟨rfl, hcalls⟩ := hok rfl
  cases hparts with
  | @cons _ mall _ _ _ hrest =>
    cases hrest with
    | cons hmarket hnil =>
      cases hnil
      refine ⟨by rfl, mall, ?_, by decide +kernel⟩
      rw [hcalls, ← hmarket.2 (spared_market rfl rfl fun _ => rfl), List.flatten_cons, List.flatten_cons,
        List.flatten_nil, List.append_nil]

/-- That the first project cannot be looked up keeps the second one from being linked, about which
no query is refused. -/
theorem market_not_linked_after_mall_lost :
    Spared (refusing looksUpMall) clock shops "market" ∧
      ((linkAll clock ["mall", "market"]).run (refusing looksUpMall).world ⟨shops, []⟩).1 =
        .error outage ∧
      callsIn ((linkAll clock ["mall", "market"]).transcript (refusing looksUpMall).world
        ⟨shops, []⟩) = [⟨lookUp "mall", some outage⟩] :=
  ⟨spared_market rfl rfl fun _ => rfl, rfl, rfl⟩

end Street

end CodeAtlas.Console
