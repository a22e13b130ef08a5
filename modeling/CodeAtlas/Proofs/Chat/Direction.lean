import CodeAtlas.Proofs.Chat.Drawing
import CodeAtlas.Proofs.Graph.Network

/-! Which way links are drawn. Calls can be followed from the caller and from what is called, and
what is found from one end is found from the other. The drawing does not know the difference: every
link leads away from the node that was asked about. So a call has its caller in front only if it
was found from the caller. -/

namespace CodeAtlas.Graph.Network

/-! ### Calls from both ends -/

variable (g : Network) {a b m : String}

theorem mem_previous_iff {test : Edge → Bool} :
    a ∈ g.previous test m ↔ ∃ e ∈ g.edges, e.source = .node a ∧ test e = true ∧ e.target = m := by
  have hsource : ∀ e : Edge, e.source.node? = some a ↔ e.source = .node a := by
    intro e
    cases e.source <;> simp [Holder.node?]
  simp only [previous, List.mem_filterMap, List.mem_filter, Bool.and_eq_true, decide_eq_true_eq,
    hsource]
  constructor
  · rintro ⟨e, ⟨he, htarget, htest⟩, hs⟩
    exact ⟨e, he, hs, htest, htarget⟩
  · rintro ⟨e, he, hs, htest, htarget⟩
    exact ⟨e, ⟨he, htarget, htest⟩, hs⟩

theorem mem_follow_calledBy_iff : a ∈ g.follow .calledBy m ↔ m ∈ g.follow .calls a := by
  have hback : g.follow .calledBy m = g.previous (isSemantic ["CALLS"]) m := rfl
  have hahead : g.follow .calls a = g.next (isSemantic ["CALLS"]) a := rfl
  rw [hback, hahead, mem_previous_iff, mem_next_iff]

/-- A walk can be cut before its last step. -/
theorem walk_succ_iff {step : String → List String} {n : Nat} :
    Walk step (n + 1) a b ↔ ∃ m, Walk step n a m ∧ b ∈ step m := by
  induction n generalizing a with
  | zero =>
    constructor
    · rintro ⟨m, hm, rfl⟩
      exact ⟨a, rfl, hm⟩
    · rintro ⟨m, rfl, hm⟩
      exact ⟨b, hm, rfl⟩
  | succ n ih =>
    constructor
    · rintro ⟨m, hm, hwalk⟩
      obtain ⟨last, hfront, hlast⟩ := ih.mp hwalk
      exact ⟨last, ⟨m, hm, hfront⟩, hlast⟩
    · rintro ⟨last, ⟨m, hm, hfront⟩, hlast⟩
      exact ⟨m, hm, ih.mpr ⟨last, hfront, hlast⟩⟩

/-- Callers are met on the way back from what they call. -/
theorem walk_calledBy_iff {n : Nat} :
    Walk (g.follow .calledBy) n b a ↔ Walk (g.follow .calls) n a b := by
  induction n generalizing b with
  | zero => exact eq_comm
  | succ n ih =>
    rw [walk_succ_iff (a := a)]
    constructor
    · rintro ⟨m, hm, hwalk⟩
      exact ⟨m, ih.mp hwalk, (g.mem_follow_calledBy_iff).mp hm⟩
    · rintro ⟨m, hwalk, hm⟩
      exact ⟨m, (g.mem_follow_calledBy_iff).mpr hm, ih.mpr hwalk⟩

/-- What a traversal gives, whenever it gives anything. -/
theorem eq_of_run_traverse {σ : Type} {rest : Dialogue.World σ} {s t : σ} {start : String}
    {operation : Operation} {depth : Int} {found : List Fields}
    (h : (traverse (.string start) operation (.int depth)).run (g.serve rest) s = (.ok found, t)) :
    found = (g.nodesAt (within (g.follow operation) depth.toNat start).eraseDups).map Prod.snd := by
  rw [traverse, Dialogue.bind_eq] at h
  obtain ⟨rs, s', hask, hread⟩ := Dialogue.run_bind_eq_ok _ h
  have hanswer : rs = g.answer (.traverse (.string start) operation (.int depth)) :=
    eq_answer_of_serve (congrArg Prod.fst ((Dialogue.run_request ..).symm.trans hask))
  have hnodes : nodesIn rs = .ok found :=
    congrArg Prod.fst ((Dialogue.run_ofExcept ..).symm.trans hread)
  have hrecords := nodesIn_records
    ((g.nodesAt (within (g.follow operation) depth.toNat start).eraseDups).map Prod.snd)
  rw [List.map_map] at hrecords
  rw [hanswer] at hnodes
  exact Except.ok.inj (hnodes.symm.trans hrecords)

/-- The node is in the network, and its id is one of its properties. -/
def IsNode (g : Network) (id : String) (n : Fields) : Prop :=
  g.store.get? id = some n ∧ n.get? "node_id" = some (.string id)

/-- One comes from a node to another in at most ten calls. -/
def Calls (g : Network) (caller called : Fields) : Prop :=
  ∃ a b, g.IsNode a caller ∧ g.IsNode b called ∧ ∃ k < 10, Walk (g.follow .calls) (k + 1) a b

theorem mem_nodesAt_of_walk {operation : Operation} {k n : Nat} {node : Fields} (hk : k < n)
    (hwalk : Walk (g.follow operation) (k + 1) a b) (hb : g.store.get? b = some node) :
    node ∈ (g.nodesAt (within (g.follow operation) n a).eraseDups).map Prod.snd := by
  have hreached : b ∈ (within (g.follow operation) n a).eraseDups :=
    List.mem_eraseDups.mpr (mem_within_iff.mpr ⟨k, hk, hwalk⟩)
  refine List.mem_map.mpr ⟨(b, node), List.mem_filterMap.mpr ⟨b, hreached, ?_⟩, rfl⟩
  rw [hb]
  rfl

end CodeAtlas.Graph.Network

namespace CodeAtlas.Chat

open Dialogue
open CodeAtlas.Graph (Network Operation Store)

variable {σ : Type} {world : World σ} {operation : Operation} {bs : List Branch}
  {graph : DependencyGraph}

/-- In some state of the world the branches are found, and this graph is drawn of them. -/
def Answered (world : World σ) (operation : Operation) (bs : List Branch)
    (graph : DependencyGraph) : Prop :=
  ∃ s t contexts, Traced world operation s bs t ∧
    ((followAll (bs.map (·.node)) operation).run world s).1 = .ok (contexts, graph)

/-- The link that is meant, with the user in front of what it uses. -/
def meant (operation : Operation) (n r : Fields) : Chat.Edge :=
  if operation = .calledBy then ⟨nameOf r, nameOf n⟩ else ⟨nameOf n, nameOf r⟩

theorem answered_of_complete {s t : σ} (h : Traced world operation s bs t)
    (hcomplete : ∀ b ∈ bs, b.Complete) :
    Answered world operation bs (.ofRelated operation (bs.map Branch.names)) :=
  ⟨s, t, _, h, (run_followAll_iff h).mpr ⟨hcomplete, rfl, rfl⟩⟩

theorem Answered.mem_edges_iff (h : Answered world operation bs graph) {e : Chat.Edge} :
    e ∈ graph.edges ↔
      ∃ b ∈ bs, nameOf b.node = e.source ∧ ∃ r ∈ b.shown, nameOf r = e.target := by
  obtain ⟨s, t, contexts, htraced, hrun⟩ := h
  obtain ⟨-, -, rfl⟩ := (run_followAll_iff htraced).mp hrun
  rw [edges_ofRelated, mem_distinct_iff, mem_drawn_iff]

/-- A link is drawn as it is meant, if callers are not asked for. If they are, it takes a branch
that leads the other way. -/
theorem Answered.meant_mem_iff (h : Answered world operation bs graph) {b : Branch} (hb : b ∈ bs)
    {r : Fields} (hr : r ∈ b.shown) :
    meant operation b.node r ∈ graph.edges ↔ (operation = .calledBy →
      ∃ b' ∈ bs, nameOf b'.node = nameOf r ∧ ∃ r' ∈ b'.shown, nameOf r' = nameOf b.node) := by
  rw [h.mem_edges_iff, meant]
  split
  next hcalled => rw [forall_prop_of_true hcalled]
  next hother =>
    rw [forall_prop_of_false hother, iff_true]
    exact ⟨b, hb, rfl, r, hr, rfl⟩

/-- What is found from one node of a network. -/
theorem Answered.related_eq {g : Network} {rest : World σ} {id : String} {n : Fields}
    {related : List Fields} (hid : n.get? "node_id" = some (.string id))
    (h : Answered (g.serve rest) operation [⟨n, related⟩] graph) :
    related = (g.nodesAt (Network.within (g.follow operation) 10 id).eraseDups).map Prod.snd := by
  obtain ⟨s, t, contexts, htraced, -⟩ := h
  cases htraced with
  | cons hid' hrun _ =>
    obtain rfl := Option.some.inj (hid.symm.trans hid')
    exact g.eq_of_run_traverse hrun

/-- Whatever is asked, links lead from the nodes that are asked about to what is found. So a call
that is found from both of its ends is drawn both ways. -/
theorem drawn_from_asked {σ : Type} :
    (∀ (world : World σ) operation bs graph, Answered world operation bs graph →
      (∀ e, e ∈ graph.edges ↔ ∃ b ∈ bs, ∃ r ∈ b.shown, e = ⟨nameOf b.node, nameOf r⟩) ∧
      ∀ b ∈ bs, ∀ r ∈ b.shown, meant operation b.node r ∈ graph.edges ↔
        (operation = .calledBy → ∃ b' ∈ bs, nameOf b'.node = nameOf r ∧
          ∃ r' ∈ b'.shown, nameOf r' = nameOf b.node)) ∧
    ∀ (g : Network) (rest : World σ) (caller called : Fields), g.Calls caller called →
      ∀ callees callers ahead back,
        Answered (g.serve rest) .calls [⟨caller, callees⟩] ahead →
        Answered (g.serve rest) .calledBy [⟨called, callers⟩] back →
          called ∈ callees ∧ caller ∈ callers ∧
          (called ∈ callees.take 5 → ⟨nameOf caller, nameOf called⟩ ∈ ahead.edges) ∧
          (caller ∈ callers.take 5 → ⟨nameOf called, nameOf caller⟩ ∈ back.edges ∧
            (⟨nameOf caller, nameOf called⟩ ∈ back.edges ↔ nameOf caller = nameOf called)) := by
  refine ⟨?_, ?_⟩
  · intro world operation bs graph h
    refine ⟨fun e => ?_, fun b hb r hr => h.meant_mem_iff hb hr⟩
    rw [h.mem_edges_iff]
    constructor
    · rintro ⟨b, hb, hsource, r, hr, htarget⟩
      exact ⟨b, hb, r, hr, by rw [hsource, htarget]⟩
    · rintro ⟨b, hb, r, hr, rfl⟩
      exact ⟨b, hb, rfl, r, hr, rfl⟩
  · rintro g rest caller called ⟨a, b, ⟨ha, hida⟩, ⟨hb, hidb⟩, k, hk, hwalk⟩ callees callers ahead
      back hahead hback
    have hcallees : called ∈ callees := by
      rw [hahead.related_eq hida]
      exact g.mem_nodesAt_of_walk hk hwalk hb
    have hcallers : caller ∈ callers := by
      rw [hback.related_eq hidb]
      exact g.mem_nodesAt_of_walk hk (g.walk_calledBy_iff.mpr hwalk) ha
    refine ⟨hcallees, hcallers, fun hshown => ?_, fun hshown => ⟨?_, ?_⟩⟩
    · exact hahead.mem_edges_iff.mpr ⟨_, List.mem_singleton_self _, rfl, called, hshown, rfl⟩
    · exact hback.mem_edges_iff.mpr ⟨_, List.mem_singleton_self _, rfl, caller, hshown, rfl⟩
    · rw [hback.mem_edges_iff]
      constructor
      · rintro ⟨b', hb', hsource, -⟩
        rw [List.mem_singleton.mp hb'] at hsource
        exact hsource.symm
      · intro hname
        exact ⟨_, List.mem_singleton_self _, hname.symm, caller, hshown, hname⟩

namespace Door

open Crossroads (place place_told)

def login : Fields := place "1" "login"

def authenticate : Fields := place "2" "authenticate"

def verify : Fields := place "3" "verify_token"

def calling (source target : String) : Graph.Edge :=
  ⟨.node source, target, "SEMANTIC_LINK", [("type", .string "CALLS")]⟩

/-- Two functions that call a third one. -/
def door : Network where
  store := ⟨[("1", login), ("2", authenticate), ("3", verify)], []⟩
  edges := [calling "1" "2", calling "3" "2"]
  distinct := by
    change ["1", "2", "3"].Nodup
    decide
  anchored e he x hx := by
    have hall : [calling "1" "2", calling "3" "2"].all (fun e => e.ends.all
      (Store.mk [("1", login), ("2", authenticate), ("3", verify)] []).has) = true := rfl
    exact List.all_eq_true.mp (List.all_eq_true.mp hall e he) x hx

/-- All statements are accepted. -/
def listening : World Unit
  | .graph _, s => (.ok [], s)
  | _, s => (.error .untold, s)

theorem login_calls : door.Calls login authenticate :=
  ⟨"1", "2", ⟨rfl, rfl⟩, ⟨rfl, rfl⟩, 0, by omega, "2", by decide, rfl⟩

theorem answered_login : Answered (door.serve listening) .calls [⟨login, [authenticate]⟩]
    (.ofRelated .calls [("login", ["authenticate"])]) := by
  refine answered_of_complete (s := ()) (t := ()) (.cons rfl rfl (.nil ())) ?_
  simp [Branch.Complete.of_forall, login, authenticate, place_told]

theorem answered_authenticate :
    Answered (door.serve listening) .calledBy [⟨authenticate, [login, verify]⟩]
      (.ofRelated .calledBy [("authenticate", ["login", "verify_token"])]) := by
  refine answered_of_complete (s := ()) (t := ()) (.cons rfl rfl (.nil ())) ?_
  simp [Branch.Complete.of_forall, login, authenticate, verify, place_told]

theorem login_drawn_both_ways :
    door.Calls login authenticate ∧ ∃ ahead back,
      Answered (door.serve listening) .calls [⟨login, [authenticate]⟩] ahead ∧
      Answered (door.serve listening) .calledBy [⟨authenticate, [login, verify]⟩] back ∧
      ⟨"login", "authenticate"⟩ ∈ ahead.edges ∧ ⟨"authenticate", "login"⟩ ∈ back.edges := by
  obtain ⟨-, -, hahead, hback⟩ :=
    drawn_from_asked.2 door listening _ _ login_calls _ _ _ _ answered_login answered_authenticate
  exact ⟨login_calls, _, _, answered_login, answered_authenticate, hahead (by simp),
    (hback (by simp)).1⟩

/-- Callers that are asked for do not come first in their links. -/
theorem login_not_drawn_first :
    Answered (door.serve listening) .calledBy [⟨authenticate, [login, verify]⟩]
        (.ofRelated .calledBy [("authenticate", ["login", "verify_token"])]) ∧
      meant .calledBy authenticate login = ⟨"login", "authenticate"⟩ ∧
      ⟨"login", "authenticate"⟩ ∉ (DependencyGraph.ofRelated .calledBy
        [("authenticate", ["login", "verify_token"])]).edges ∧
      ⟨"authenticate", "login"⟩ ∈ (DependencyGraph.ofRelated .calledBy
        [("authenticate", ["login", "verify_token"])]).edges :=
  ⟨answered_authenticate, rfl, by decide, by decide⟩

end Door

end CodeAtlas.Chat
