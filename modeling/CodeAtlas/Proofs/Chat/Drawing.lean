import CodeAtlas.Chat.Relations
import CodeAtlas.Proofs.Assistant.Plan
import CodeAtlas.Proofs.Dialogue.Laws
import CodeAtlas.Proofs.Outcome
import Mathlib.Data.List.Induction

/-! The graph that is drawn for a question, and the texts that go with it. An operation is followed
from every node that the question is about. Of all that is found the first five nodes are drawn
beside each, by name, and every node has a text that names all of them. Several nodes can have one
name: their links are drawn together, each of them once. -/

namespace CodeAtlas.Chat

open Dialogue

/-! ### Lists without repetitions -/

section Distinct
variable {α : Type} [DecidableEq α]

theorem distinct_concat (xs : List α) (x : α) :
    distinct (xs ++ [x]) = if x ∈ distinct xs then distinct xs else distinct xs ++ [x] := by
  rw [distinct, List.foldl_append, ← distinct]
  rfl

theorem distinct_sublist (xs : List α) : (distinct xs).Sublist xs := by
  induction xs using List.reverseRecOn with
  | nil => exact List.Sublist.refl _
  | append_singleton xs x ih =>
    rw [distinct_concat]
    split
    · exact ih.trans (List.sublist_append_left _ _)
    · exact ih.append (List.Sublist.refl _)

theorem mem_distinct_iff {xs : List α} {x : α} : x ∈ distinct xs ↔ x ∈ xs := by
  induction xs using List.reverseRecOn with
  | nil => exact Iff.rfl
  | append_singleton xs y ih =>
    rw [distinct_concat]
    split
    next hy =>
      constructor
      · intro hx
        exact List.mem_append_left _ (ih.mp hx)
      · intro hx
        rcases List.mem_append.mp hx with hx | hx
        · exact ih.mpr hx
        · rwa [List.mem_singleton.mp hx]
    next hy => rw [List.mem_append, List.mem_append, ih]

/-- What is kept stands in the order in which it first occurs. -/
theorem pairwise_distinct (xs : List α) :
    (distinct xs).Pairwise fun a b => xs.idxOf a < xs.idxOf b := by
  induction xs using List.reverseRecOn with
  | nil => exact List.Pairwise.nil
  | append_singleton xs x ih =>
    -- the old items are where they were, and a new one is behind them all
    have hold : ∀ a ∈ distinct xs, (xs ++ [x]).idxOf a = xs.idxOf a ∧ xs.idxOf a < xs.length := by
      intro a ha
      have hmem := mem_distinct_iff.mp ha
      exact ⟨List.idxOf_append_of_mem hmem, List.idxOf_lt_length_iff.mpr hmem⟩
    have hkept : (distinct xs).Pairwise fun a b =>
        (xs ++ [x]).idxOf a < (xs ++ [x]).idxOf b :=
      ih.imp_of_mem fun ha hb hab => by rwa [(hold _ ha).1, (hold _ hb).1]
    rw [distinct_concat]
    split
    · exact hkept
    next hx =>
      refine List.pairwise_append.mpr ⟨hkept, List.pairwise_singleton _ _, fun a ha b hb => ?_⟩
      have hnew : (xs ++ [x]).idxOf x = xs.length := by
        rw [List.idxOf_append_of_notMem (fun h => hx (mem_distinct_iff.mpr h))]
        simp
      rw [List.mem_singleton.mp hb, (hold a ha).1, hnew]
      exact (hold a ha).2

theorem nodup_distinct (xs : List α) : (distinct xs).Nodup :=
  (pairwise_distinct xs).imp fun hab heq => by
    rw [heq] at hab
    exact Nat.lt_irrefl _ hab

end Distinct

theorem mem_sortedNames_iff {names : List String} {x : String} :
    x ∈ sortedNames names ↔ x ∈ names := by
  rw [sortedNames, List.mem_mergeSort, mem_distinct_iff]

/-- Names are in order, and none is there twice. -/
theorem sortedNames_increasing (names : List String) : (sortedNames names).Pairwise (· < ·) := by
  have hsorted : (sortedNames names).Pairwise fun a b => decide (a ≤ b) = true := by
    refine List.pairwise_mergeSort (fun a b c hab hbc => ?_) (fun a b => ?_) _
    · simp only [decide_eq_true_eq] at hab hbc ⊢
      exact String.le_trans hab hbc
    · simp only [Bool.or_eq_true, decide_eq_true_eq]
      exact String.le_total a b
  have hnodup : (sortedNames names).Nodup :=
    (List.mergeSort_perm _ _).nodup_iff.mpr (nodup_distinct names)
  refine hsorted.imp₂ (fun a b hab hne => ?_) hnodup
  by_contra hlt
  exact hne (String.le_antisymm (of_decide_eq_true hab) (String.not_lt.mp hlt))

/-! ### Following an operation from every node -/

/-- A node that is asked about, with all that the operation leads to from it. -/
structure Branch where
  node : Fields
  related : List Fields

variable {σ : Type} {world : World σ} {operation : Graph.Operation} {s t : σ} {b : Branch}
  {bs : List Branch}

/-- The traversals from the nodes of the branches, one after another, give what is related. -/
inductive Traced (world : World σ) (operation : Graph.Operation) : σ → List Branch → σ → Prop where
  | nil (s : σ) : Traced world operation s [] s
  | cons {s s' t : σ} {id : Json} {b : Branch} {bs : List Branch}
    (hid : b.node.get? "node_id" = some id)
    (hrun : (Graph.traverse id operation (.int maxSteps)).run world s = (.ok b.related, s'))
    (hrest : Traced world operation s' bs t) : Traced world operation s (b :: bs) t

/-- What is found for a branch. -/
def Branch.finding (operation : Graph.Operation) (b : Branch) : Except Failure Finding := do
  let name ← nodeName b.node
  Chat.finding b.node name b.related operation

theorem run_follow {id : Json} {s' : σ} (hid : b.node.get? "node_id" = some id)
    (hrun : (Graph.traverse id operation (.int maxSteps)).run world s = (.ok b.related, s')) :
    ((follow operation b.node).run world s).1 = b.finding operation ∧
      ∀ f, b.finding operation = .ok f → ((follow operation b.node).run world s).2 = s' := by
  have hneed : Graph.need b.node "node_id" = .ok id := need_eq_ok_iff.mpr hid
  rw [Branch.finding]
  cases hname : nodeName b.node with
  | error e =>
    have hfails : (follow operation b.node).run world s = (.error e, s) := by
      rw [follow, hname]
      rfl
    rw [hfails]
    exact ⟨rfl, fun f hf => by cases hf⟩
  | ok name =>
    have hfound : (follow operation b.node).run world s =
        (Chat.finding b.node name b.related operation, s') := by
      rw [follow, hname, hneed]
      exact (run_bind_of_ok world hrun _).trans (run_ofExcept world _ _)
    rw [hfound]
    exact ⟨rfl, fun f _ => rfl⟩

/-- The nodes are followed one after another up to the first that fails. -/
theorem run_collect_follow (h : Traced world operation s bs t) :
    ((collect (bs.map (·.node)) (follow operation)).run world s).1 =
      bs.mapM (Branch.finding operation) := by
  induction h with
  | nil s => rfl
  | @cons s s' t id b bs hid hrun _ ih =>
    obtain ⟨hfirst, hstate⟩ := run_follow hid hrun
    rw [List.map_cons, collect, run_bind, List.mapM_cons]
    rcases hfollow : (follow operation b.node).run world s with ⟨e | f, u⟩
    · rw [hfollow] at hfirst
      rw [← hfirst]
      rfl
    · rw [hfollow] at hfirst hstate
      obtain rfl := hstate f hfirst.symm
      rw [← hfirst, ← ih]
      exact run_bind_done world u (collect (bs.map (·.node)) (follow operation)) (f :: ·)

/-- A whole run ends well if all findings are there and can be drawn. -/
theorem run_followAll (h : Traced world operation s bs t) {contexts : List String}
    {graph : DependencyGraph} :
    ((followAll (bs.map (·.node)) operation).run world s).1 = .ok (contexts, graph) ↔
      ∃ fs, bs.mapM (Branch.finding operation) = .ok fs ∧ graphOf operation fs = .ok graph ∧
        fs.map (·.description) = contexts := by
  rw [followAll, bind_eq, run_bind, ← run_collect_follow h]
  rcases hrun : (collect (bs.map (·.node)) (follow operation)).run world s with ⟨e | fs, u⟩
  · rw [hrun]
    simp
  · rw [hrun]
    simp only [bind_eq, monadLift_eq, pure_eq, run_bind_done, run_ofExcept, bind_eq_ok_iff,
      Except.ok.injEq, Prod.mk.injEq]
    constructor
    · rintro ⟨g, hg, hcontexts, rfl⟩
      exact ⟨fs, rfl, hg, hcontexts⟩
    · rintro ⟨_, rfl, hg, hcontexts⟩
      exact ⟨graph, hg, hcontexts, rfl⟩

/-! ### Names -/

/-- A field as it is shown. -/
def shownIn (n : Fields) (key : String) : String := (n.getOrNull key).shown

/-- The name of a node as it is shown. -/
def nameOf (n : Fields) : String := shownIn n "node_name"

/-- The node has a name, and it is a text. -/
def Named (n : Fields) : Prop := ∃ x, n.get? "node_name" = some (.string x)

theorem nameOf_eq {n : Fields} {x : String} (h : n.get? "node_name" = some (.string x)) :
    nameOf n = x := by
  unfold nameOf shownIn Fields.getOrNull
  rw [Fields.get?] at h
  rw [h]
  rfl

theorem nodeName_eq_ok_iff {n : Fields} {x : String} :
    nodeName n = .ok (.string x) ↔ Named n ∧ x = nameOf n := by
  simp only [nodeName, bind_eq_ok_iff, need_eq_ok_iff, pure_eq_ok_iff]
  constructor
  · rintro ⟨v, hv, -, -, rfl⟩
    exact ⟨⟨x, hv⟩, (nameOf_eq hv).symm⟩
  · rintro ⟨⟨y, hy⟩, rfl⟩
    rw [nameOf_eq hy]
    exact ⟨_, hy, (), rfl, rfl⟩

/-- A link from a name ends at a name. -/
theorem edgeEnd_eq_ok_iff (x : String) (r : Fields) (y : String) :
    edgeEnd (.string x) r = .ok y ↔ Named r ∧ y = nameOf r := by
  rw [edgeEnd, bind_eq_ok_iff, ← nodeName_eq_ok_iff]
  constructor
  · rintro ⟨v, hv, hy⟩
    cases v with
    | string z => rwa [← Except.ok.inj hy]
    | _ => cases hy
  · intro h
    exact ⟨_, h, rfl⟩

/-! ### Descriptions -/

/-- All that a description shows of a node is there. -/
def Describable (n : Fields) : Prop :=
  ∀ key ∈ ["node_name", "node_type", "file_path", "start_line"], (n.get? key).isSome

/-- A related node on a line. -/
def lineOf (r : Fields) : String :=
  "- " ++ nameOf r ++ " (" ++ shownIn r "node_type" ++ ") in " ++ shownIn r "file_path" ++ ":" ++
    shownIn r "start_line"

/-- The lines before those of the related nodes. -/
def Branch.heading (operation : Graph.Operation) (b : Branch) : List String :=
  ["Symbol: " ++ nameOf b.node ++ " (" ++ shownIn b.node "node_type" ++ ")",
    "Defined in: " ++ shownIn b.node "file_path" ++ ":" ++ shownIn b.node "start_line",
    if b.related.isEmpty then "\nNo related nodes found." else "\n" ++ operation.title ++ ":"]

/-- All that is known about a branch. -/
def Branch.text (operation : Graph.Operation) (b : Branch) : String :=
  "\n".intercalate (b.heading operation ++ b.related.map lineOf)

/-- A field is read if it is there. -/
theorem fieldText_bind_eq_ok_iff {α : Type} {n : Fields} {key : String}
    {f : String → Except Failure α} {a : α} :
    (fieldText n key >>= f) = .ok a ↔ (n.get? key).isSome ∧ f (shownIn n key) = .ok a := by
  rw [shownIn, Fields.getOrNull, ← Fields.get?, fieldText, Graph.need]
  cases n.get? key with
  | none => exact iff_of_false (fun h => by cases h) (by simp)
  | some v =>
    rw [and_iff_right (by rfl)]
    exact Iff.rfl

theorem relatedLine_eq_ok_iff (r : Fields) (line : String) :
    relatedLine r = .ok line ↔ Describable r ∧ line = lineOf r := by
  simp only [relatedLine, fieldText_bind_eq_ok_iff, pure_eq_ok_iff, Describable,
    List.forall_mem_cons, List.not_mem_nil, false_imp_iff, implies_true, and_true, and_assoc,
    eq_comm (b := line)]
  rfl

/-- There is a description just when all that it shows is there. -/
theorem describeNode_eq_ok_iff {text : String} :
    describeNode b.node b.related operation = .ok text ↔
      (∀ n ∈ b.node :: b.related, Describable n) ∧ text = b.text operation := by
  have hnode : Describable b.node ↔ (b.node.get? "node_name").isSome ∧
      (b.node.get? "node_type").isSome ∧ (b.node.get? "file_path").isSome ∧
      (b.node.get? "start_line").isSome := by simp [Describable]
  rw [List.forall_mem_cons, hnode, Branch.text, Branch.heading, nameOf]
  simp only [describeNode, fieldText_bind_eq_ok_iff, and_assoc]
  refine and_congr_right fun _ => and_congr_right fun _ => and_congr_right fun _ =>
    and_congr_right fun _ => ?_
  split
  next hempty =>
    have hnone : b.related = [] := by simpa using hempty
    rw [pure_eq_ok_iff, hnone, and_iff_right fun r hr => (List.not_mem_nil hr).elim]
    exact eq_comm
  next =>
    rw [bind_eq_ok_iff]
    simp only [mapM_eq_ok_iff relatedLine_eq_ok_iff, pure_eq_ok_iff]
    constructor
    · rintro ⟨lines, ⟨hall, rfl⟩, rfl⟩
      exact ⟨hall, rfl⟩
    · rintro ⟨hall, rfl⟩
      exact ⟨_, ⟨hall, rfl⟩, rfl⟩

/-! ### What a run gives -/

/-- The related nodes that are drawn. -/
def Branch.shown (b : Branch) : List Fields := b.related.take 5

/-- The node and those drawn beside it have names, and all that is related can be described. -/
structure Branch.Complete (b : Branch) : Prop where
  named : ∀ n ∈ b.node :: b.shown, Named n
  describable : ∀ n ∈ b.node :: b.related, Describable n

theorem Branch.Complete.of_forall (h : ∀ n ∈ b.node :: b.related, Named n ∧ Describable n) :
    b.Complete := by
  obtain ⟨hnode, hrelated⟩ := List.forall_mem_cons.mp h
  refine ⟨List.forall_mem_cons.mpr ⟨hnode.1, fun r hr => ?_⟩, fun n hn => (h n hn).2⟩
  exact (hrelated r (List.mem_of_mem_take hr)).1

/-- The name of the node and the names drawn beside it. -/
def Branch.names (b : Branch) : String × List String := (nameOf b.node, b.shown.map nameOf)

/-- What is found for a complete branch. -/
def Branch.found (operation : Graph.Operation) (b : Branch) : Finding :=
  ⟨.string (nameOf b.node), b.shown.map nameOf, b.text operation⟩

/-- Just complete branches have findings with names. -/
theorem Branch.finding_eq_ok_iff {f : Finding} :
    (b.finding operation = .ok f ∧ ∃ x, f.name = .string x) ↔
      b.Complete ∧ f = b.found operation := by
  simp only [Branch.finding, Chat.finding, bind_eq_ok_iff, pure_eq_ok_iff,
    describeNode_eq_ok_iff]
  constructor
  · rintro ⟨⟨_, hname, drawn, hdrawn, text, ⟨htext, rfl⟩, rfl⟩, x, rfl⟩
    obtain ⟨hshown, rfl⟩ := (mapM_eq_ok_iff (edgeEnd_eq_ok_iff x)).mp hdrawn
    obtain ⟨hnode, rfl⟩ := nodeName_eq_ok_iff.mp hname
    exact ⟨⟨List.forall_mem_cons.mpr ⟨hnode, hshown⟩, htext⟩, rfl⟩
  · rintro ⟨hcomplete, rfl⟩
    obtain ⟨hnode, hshown⟩ := List.forall_mem_cons.mp hcomplete.named
    exact ⟨⟨_, nodeName_eq_ok_iff.mpr ⟨hnode, rfl⟩, _,
      (mapM_eq_ok_iff (edgeEnd_eq_ok_iff _)).mpr ⟨hshown, rfl⟩, _,
      ⟨hcomplete.describable, rfl⟩, rfl⟩, _, rfl⟩

theorem findings_eq_ok_iff {fs : List Finding} :
    (bs.mapM (Branch.finding operation) = .ok fs ∧ ∀ f ∈ fs, ∃ x, f.name = .string x) ↔
      (∀ b ∈ bs, b.Complete) ∧ fs = bs.map (Branch.found operation) := by
  induction bs generalizing fs with
  | nil =>
    rw [List.mapM_nil, pure_eq_ok_iff]
    simp +contextual [eq_comm]
  | cons b bs ih =>
    simp only [List.mapM_cons, bind_eq_ok_iff, pure_eq_ok_iff, List.forall_mem_cons,
      List.map_cons]
    constructor
    · rintro ⟨⟨f, hf, fs, hfs, rfl⟩, hnames⟩
      obtain ⟨hname, hrest⟩ := List.forall_mem_cons.mp hnames
      obtain ⟨hb, rfl⟩ := Branch.finding_eq_ok_iff.mp ⟨hf, hname⟩
      obtain ⟨hbs, rfl⟩ := ih.mp ⟨hfs, hrest⟩
      exact ⟨⟨hb, hbs⟩, rfl⟩
    · rintro ⟨⟨hb, hbs⟩, rfl⟩
      obtain ⟨hf, hname⟩ := Branch.finding_eq_ok_iff.mpr ⟨hb, rfl⟩
      obtain ⟨hfs, hrest⟩ := ih.mpr ⟨hbs, rfl⟩
      exact ⟨⟨_, hf, _, hfs, rfl⟩, List.forall_mem_cons.mpr ⟨hname, hrest⟩⟩

theorem exists_texts {names : List Json} (h : ∀ v ∈ names, ∃ x, v = .string x) :
    ∃ texts : List String, names = texts.map .string := by
  induction names with
  | nil => exact ⟨[], rfl⟩
  | cons v names ih =>
    obtain ⟨⟨x, rfl⟩, hrest⟩ := List.forall_mem_cons.mp h
    obtain ⟨texts, rfl⟩ := ih hrest
    exact ⟨x :: texts, rfl⟩

/-- Names can be listed just when all of them are texts. -/
theorem exists_textNames_iff {names : List Json} :
    (∃ texts, textNames names = .ok texts) ↔ ∀ v ∈ names, ∃ x, v = .string x := by
  rw [textNames]
  cases hnames : names.mapM Json.string? with
  | some texts =>
    rw [Json.mapM_string?_eq_some_iff.mp hnames]
    simp
  | none =>
    refine iff_of_false ?_ fun hall => ?_
    · rintro ⟨texts, h⟩
      dsimp only at h
      split at h <;> cases h
    · obtain ⟨texts, rfl⟩ := exists_texts hall
      rw [Json.mapM_string?_eq_some_iff.mpr rfl] at hnames
      cases hnames

/-- Findings can be drawn just when all of them have names. -/
theorem graphOf_eq_ok_iff {fs : List Finding} {graph : DependencyGraph} :
    graphOf operation fs = .ok graph ↔ (∀ f ∈ fs, ∃ x, f.name = .string x) ∧
      graph = .ofRelated operation (fs.map fun f => (f.name.shown, f.related)) := by
  have htexts : (∃ texts, textNames (fs.flatMap fun f => f.name :: f.related.map Json.string) =
      .ok texts) ↔ ∀ f ∈ fs, ∃ x, f.name = .string x := by
    rw [exists_textNames_iff]
    constructor
    · intro h f hf
      exact h _ (List.mem_flatMap.mpr ⟨f, hf, List.mem_cons_self⟩)
    · intro h v hv
      obtain ⟨f, hf, hv⟩ := List.mem_flatMap.mp hv
      rcases List.mem_cons.mp hv with rfl | hv
      · exact h f hf
      · obtain ⟨x, -, rfl⟩ := List.mem_map.mp hv
        exact ⟨x, rfl⟩
  rw [graphOf, bind_eq_ok_iff, ← htexts]
  constructor
  · rintro ⟨texts, h, hgraph⟩
    exact ⟨⟨texts, h⟩, (Except.ok.inj hgraph).symm⟩
  · rintro ⟨⟨texts, h⟩, rfl⟩
    exact ⟨texts, h, rfl⟩

/-- A run gives the texts of the branches and the graph of the names that are drawn, just when the
branches are complete. -/
theorem run_followAll_iff (h : Traced world operation s bs t) {contexts : List String}
    {graph : DependencyGraph} :
    ((followAll (bs.map (·.node)) operation).run world s).1 = .ok (contexts, graph) ↔
      (∀ b ∈ bs, b.Complete) ∧ contexts = bs.map (Branch.text operation) ∧
        graph = .ofRelated operation (bs.map Branch.names) := by
  have hrelated : (bs.map (Branch.found operation)).map (fun f => (f.name.shown, f.related)) =
      bs.map Branch.names := by
    rw [List.map_map]
    rfl
  have htexts : (bs.map (Branch.found operation)).map (·.description) =
      bs.map (Branch.text operation) := by
    rw [List.map_map]
    rfl
  rw [run_followAll h]
  constructor
  · rintro ⟨fs, hfs, hgraph, rfl⟩
    obtain ⟨hnames, rfl⟩ := graphOf_eq_ok_iff.mp hgraph
    obtain ⟨hcomplete, rfl⟩ := findings_eq_ok_iff.mp ⟨hfs, hnames⟩
    exact ⟨hcomplete, htexts, by rw [hrelated]⟩
  · rintro ⟨hcomplete, rfl, rfl⟩
    obtain ⟨hfs, hnames⟩ := findings_eq_ok_iff.mpr ⟨hcomplete, rfl⟩
    exact ⟨_, hfs, graphOf_eq_ok_iff.mpr ⟨hnames, by rw [hrelated]⟩, htexts⟩

/-! ### Well-drawn graphs -/

/-- The links from nodes to what is drawn beside them, in the order in which they are met. -/
def drawn (bs : List Branch) : List Edge :=
  bs.flatMap fun b => b.shown.map fun r => ⟨nameOf b.node, nameOf r⟩

/-- The text names the node, and on a line each all that is related to it. -/
def Describes (b : Branch) (text : String) : Prop :=
  ∃ first rest lines, text = "\n".intercalate (first :: rest ++ lines) ∧
    (∃ more, first = "Symbol: " ++ nameOf b.node ++ more) ∧
    List.Forall₂ (fun r line => ∃ more, line = "- " ++ nameOf r ++ more) b.related lines

/-- A graph and texts as they are to be for the branches. -/
structure WellDrawn (bs : List Branch) (contexts : List String) (graph : DependencyGraph) :
    Prop where
  sorted : graph.nodes.Pairwise (· < ·)
  unrepeated : graph.edges.Nodup
  links : ∀ e, e ∈ graph.edges ↔ e ∈ drawn bs
  inOrder : graph.edges.Pairwise fun e e' => (drawn bs).idxOf e < (drawn bs).idxOf e'
  ends : ∀ x, x ∈ graph.nodes ↔
    (∃ b ∈ bs, nameOf b.node = x) ∨ ∃ e ∈ graph.edges, e.source = x ∨ e.target = x
  bounded : ∀ x, graph.edges.countP (·.source = x) ≤ 5 * bs.countP (nameOf ·.node = x)
  described : List.Forall₂ Describes bs contexts

theorem edges_ofRelated (operation : Graph.Operation) (bs : List Branch) :
    (DependencyGraph.ofRelated operation (bs.map Branch.names)).edges = distinct (drawn bs) := by
  unfold DependencyGraph.ofRelated drawn Branch.names
  simp only [List.flatMap_map, List.map_map]
  rfl

theorem mem_nodes_ofRelated_iff {x : String} :
    x ∈ (DependencyGraph.ofRelated operation (bs.map Branch.names)).nodes ↔
      ∃ b ∈ bs, nameOf b.node = x ∨ ∃ r ∈ b.shown, nameOf r = x := by
  unfold DependencyGraph.ofRelated Branch.names
  simp [mem_sortedNames_iff, List.mem_flatMap, eq_comm]

theorem mem_drawn_iff {e : Edge} :
    e ∈ drawn bs ↔ ∃ b ∈ bs, nameOf b.node = e.source ∧ ∃ r ∈ b.shown, nameOf r = e.target := by
  simp only [drawn, List.mem_flatMap, List.mem_map]
  constructor
  · rintro ⟨b, hb, r, hr, rfl⟩
    exact ⟨b, hb, rfl, r, hr, rfl⟩
  · rintro ⟨b, hb, hsource, r, hr, htarget⟩
    exact ⟨b, hb, r, hr, by rw [hsource, htarget]⟩

/-- A branch adds five links, or none if the node has another name. -/
theorem countP_drawn_le (bs : List Branch) (x : String) :
    (drawn bs).countP (·.source = x) ≤ 5 * bs.countP (nameOf ·.node = x) := by
  induction bs with
  | nil => exact Nat.le_refl _
  | cons b bs ih =>
    have hfirst : (b.shown.map fun r => (⟨nameOf b.node, nameOf r⟩ : Edge)).countP (·.source = x) ≤
        5 * if nameOf b.node = x then 1 else 0 := by
      rw [List.countP_map]
      split
      next => exact List.countP_le_length.trans (List.length_take_le _ _)
      next hx =>
        rw [List.countP_eq_zero.mpr fun r _ => by simpa using hx]
    have hcount : (b :: bs).countP (nameOf ·.node = x) =
        bs.countP (nameOf ·.node = x) + if nameOf b.node = x then 1 else 0 := by
      rw [List.countP_cons]
      simp only [decide_eq_true_eq]
    rw [drawn, List.flatMap_cons, List.countP_append, ← drawn, hcount]
    omega

theorem describes_text (operation : Graph.Operation) (b : Branch) :
    Describes b (b.text operation) := by
  have hfirst : ∃ more, "Symbol: " ++ nameOf b.node ++ " (" ++ shownIn b.node "node_type" ++ ")" =
      "Symbol: " ++ nameOf b.node ++ more :=
    ⟨" (" ++ shownIn b.node "node_type" ++ ")", by simp only [String.append_assoc]⟩
  refine ⟨_, _, b.related.map lineOf, rfl, hfirst, ?_⟩
  rw [List.forall₂_map_right_iff, List.forall₂_same]
  intro r _
  refine ⟨" (" ++ shownIn r "node_type" ++ ") in " ++ shownIn r "file_path" ++ ":" ++
    shownIn r "start_line", ?_⟩
  simp only [lineOf, String.append_assoc]

theorem wellDrawn_ofRelated (operation : Graph.Operation) (bs : List Branch) :
    WellDrawn bs (bs.map (Branch.text operation))
      (.ofRelated operation (bs.map Branch.names)) where
  sorted := sortedNames_increasing _
  unrepeated := by
    rw [edges_ofRelated]
    exact nodup_distinct _
  links e := by rw [edges_ofRelated, mem_distinct_iff]
  inOrder := by
    rw [edges_ofRelated]
    exact pairwise_distinct _
  ends x := by
    simp only [mem_nodes_ofRelated_iff, edges_ofRelated, mem_distinct_iff, mem_drawn_iff]
    constructor
    · rintro ⟨b, hb, hx | ⟨r, hr, hx⟩⟩
      · exact .inl ⟨b, hb, hx⟩
      · exact .inr ⟨⟨nameOf b.node, x⟩, ⟨b, hb, rfl, r, hr, hx⟩, .inr rfl⟩
    · rintro (⟨b, hb, hx⟩ | ⟨e, ⟨b, hb, hsource, r, hr, htarget⟩, rfl | rfl⟩)
      · exact ⟨b, hb, .inl hx⟩
      · exact ⟨b, hb, .inl hsource⟩
      · exact ⟨b, hb, .inr ⟨r, hr, htarget⟩⟩
  bounded x := by
    rw [edges_ofRelated]
    exact ((distinct_sublist _).countP_le).trans (countP_drawn_le bs x)
  described := by
    rw [List.forall₂_map_right_iff, List.forall₂_same]
    exact fun b _ => describes_text operation b

/-- A run gives a graph and texts just when the branches are complete, and these are well drawn. -/
theorem followAll_well_drawn (h : Traced world operation s bs t) :
    ((∃ out, ((followAll (bs.map (·.node)) operation).run world s).1 = .ok out) ↔
        ∀ b ∈ bs, b.Complete) ∧
      ∀ contexts graph,
        ((followAll (bs.map (·.node)) operation).run world s).1 = .ok (contexts, graph) →
          WellDrawn bs contexts graph := by
  refine ⟨⟨?_, ?_⟩, ?_⟩
  · rintro ⟨⟨contexts, graph⟩, hrun⟩
    exact ((run_followAll_iff h).mp hrun).1
  · intro hcomplete
    exact ⟨_, (run_followAll_iff h).mpr ⟨hcomplete, rfl, rfl⟩⟩
  · intro contexts graph hrun
    obtain ⟨-, rfl, rfl⟩ := (run_followAll_iff h).mp hrun
    exact wellDrawn_ofRelated operation bs

namespace Crossroads

def place (id name : String) : Fields :=
  [("node_id", .string id), ("node_name", .string name), ("node_type", .string "METHOD_NODE"),
    ("file_path", .string "roads.py"), ("start_line", .int 3)]

theorem place_told (id name : String) :
    Named (place id name) ∧ Describable (place id name) :=
  ⟨⟨name, rfl⟩, by simp [Describable, place, Fields.get?]⟩

/-- The names to which one comes from a node. -/
def beside : String → List String
  | "1" => ["f", "a", "north", "a", "b", "c", "d"]
  | "3" => ["a", "e"]
  | _ => []

def roads : World Unit
  | .graph (.traverse (.string id) _ _), _ =>
    (.ok ((beside id).map fun name => [("n", .object (place name name))]), ())
  | _, _ => (.error .untold, ())

/-- Two nodes of one name, and one that leads nowhere. -/
def branches : List Branch :=
  [("1", "north"), ("2", "east"), ("3", "north")].map fun n =>
    ⟨place n.1 n.2, (beside n.1).map fun name => place name name⟩

theorem traced : Traced roads .calls () branches () :=
  .cons rfl rfl (.cons rfl rfl (.cons rfl rfl (.nil ())))

theorem complete : ∀ b ∈ branches, b.Complete := by
  intro b hb
  obtain ⟨n, -, rfl⟩ := List.mem_map.mp hb
  refine .of_forall (List.forall_mem_cons.mpr ⟨place_told _ _, fun r hr => ?_⟩)
  obtain ⟨name, -, rfl⟩ := List.mem_map.mp hr
  exact place_told name name

theorem crossroads_drawn :
    ∃ contexts graph, ((followAll (branches.map (·.node)) .calls).run roads ()).1 =
        .ok (contexts, graph) ∧ WellDrawn branches contexts graph := by
  obtain ⟨hreturns, hdrawn⟩ := followAll_well_drawn traced
  obtain ⟨⟨contexts, graph⟩, hrun⟩ := hreturns.mpr complete
  exact ⟨contexts, graph, hrun, hdrawn _ _ hrun⟩

end Crossroads

end CodeAtlas.Chat
