import CodeAtlas.Link.Project
import CodeAtlas.Proofs.Graph.Listing
import CodeAtlas.Proofs.Ingest.Endpoints

/-! The graph database with its edges. The store keeps nodes and projects; a network also keeps the
edges between them, each with a type and properties of its own, and answers the statements that
follow edges. Statements that make edges look for both ends first, and make one only if there is
none of the same kind yet. A network carries the proof that ids are distinct and that
every edge has both of its ends; of the nodes and projects it says what the store says. -/

namespace CodeAtlas.Graph

/-! ### Edges -/

/-- What an edge begins at. -/
inductive Holder where
  | node (id : String)
  | project (name : String)
  deriving DecidableEq

def Holder.endpoint : Holder → Endpoint
  | .node id => .node (.string id)
  | .project name => .project (.string name)

def Holder.node? : Holder → Option String
  | .node id => some id
  | .project _ => none

structure Edge where
  source : Holder
  target : String
  type : String
  props : Fields

def Edge.ends (e : Edge) : List Endpoint := [e.source.endpoint, .node (.string e.target)]

/-- Values that a statement takes for equal; null is equal to nothing. -/
def equal : Json → Json → Bool
  | .null, _ => false
  | a, b => a.same b

/-- The edge is what a pattern describes: ends, type and the properties that are given. -/
def Edge.fits (e pattern : Edge) : Bool :=
  e.source = pattern.source && e.target = pattern.target && e.type = pattern.type &&
    pattern.props.all fun p => equal (e.props.getOrNull p.1) p.2

/-- Find the edges that fit a pattern, or make one, and set properties of them. -/
def mergeEdge (es : List Edge) (pattern : Edge) (props : Fields) : List Edge :=
  if es.any (·.fits pattern) then
    es.map fun e => if e.fits pattern then { e with props := e.props.merge props } else e
  else es ++ [{ pattern with props := pattern.props.merge props }]

/-- Edges with the same ends and of one type. -/
def Edge.Parallel (e e' : Edge) : Prop :=
  e.source = e'.source ∧ e.target = e'.target ∧ e.type = e'.type

theorem Edge.Parallel.ends_eq {e e' : Edge} (h : e.Parallel e') : e.ends = e'.ends := by
  rw [ends, ends, h.1, h.2.1]

theorem Edge.parallel_of_fits {e pattern : Edge} (h : e.fits pattern = true) :
    e.Parallel pattern := by
  simp only [fits, Bool.and_eq_true, decide_eq_true_eq] at h
  exact ⟨h.1.1.1, h.1.1.2, h.1.2⟩

section MergeEdge
variable {es : List Edge} {pattern e : Edge} {props : Fields}

/-- An edge after the merge was there before, or is along the pattern with the properties set. -/
theorem cases_of_mem_mergeEdge (he : e ∈ mergeEdge es pattern props) :
    e ∈ es ∨ e.Parallel pattern ∧
      (e.props = pattern.props.merge props ∨ ∃ old ∈ es, old.Parallel pattern ∧
        e.props = old.props.merge props) := by
  unfold mergeEdge at he
  split at he
  · obtain ⟨old, hold, rfl⟩ := List.mem_map.mp he
    by_cases hfits : old.fits pattern = true
    · rw [if_pos hfits]
      have hparallel := Edge.parallel_of_fits hfits
      exact .inr ⟨hparallel, .inr ⟨old, hold, hparallel, rfl⟩⟩
    · rw [if_neg hfits]
      exact .inl hold
  · rcases List.mem_append.mp he with he | he
    · exact .inl he
    · rw [List.mem_singleton.mp he]
      exact .inr ⟨⟨rfl, rfl, rfl⟩, .inl rfl⟩

/-- No edge goes away, and there is one along the pattern. -/
theorem exists_parallel_mergeEdge (h : e ∈ es ∨ e = pattern) :
    ∃ e' ∈ mergeEdge es pattern props, e'.Parallel e := by
  unfold mergeEdge
  split
  next hany =>
    have hkept : ∀ e ∈ es, ∃ e' ∈ es.map fun e =>
        if e.fits pattern then { e with props := e.props.merge props } else e, e'.Parallel e := by
      intro e he
      refine ⟨_, List.mem_map_of_mem he, ?_⟩
      split <;> exact ⟨rfl, rfl, rfl⟩
    rcases h with he | rfl
    · exact hkept e he
    · obtain ⟨old, hold, hfits⟩ := List.any_eq_true.mp hany
      obtain ⟨e', he', hparallel⟩ := hkept old hold
      obtain ⟨hs, ht, hty⟩ := Edge.parallel_of_fits hfits
      exact ⟨e', he', hparallel.1.trans hs, hparallel.2.1.trans ht, hparallel.2.2.trans hty⟩
  next =>
    rcases h with he | rfl
    · exact ⟨e, List.mem_append_left _ he, rfl, rfl, rfl⟩
    · exact ⟨_, List.mem_append_right _ (List.mem_singleton.mpr rfl), rfl, rfl, rfl⟩

end MergeEdge

/-! ### Networks -/

structure Network where
  store : Store
  edges : List Edge
  distinct : store.Distinct
  anchored : ∀ e ∈ edges, ∀ x ∈ e.ends, store.has x = true

namespace Network

def empty : Network := ⟨.empty, [], Store.distinct_empty, fun _ h => by cases h⟩

/-- Merge an edge, if both of its ends are there. -/
def put (g : Network) (pattern : Edge) (props : Fields) : Network :=
  if h : pattern.ends.all g.store.has = true then
    { g with
      edges := mergeEdge g.edges pattern props
      anchored := fun e he x hx => by
        rcases cases_of_mem_mergeEdge he with he | ⟨hparallel, -⟩
        · exact g.anchored e he x hx
        · exact List.all_eq_true.mp h x (hparallel.ends_eq ▸ hx) }
  else g

/-- The properties that a value gives. -/
def propsIn (v : Json) : Fields := v.object?.getD []

/-- The edge that an item of a batch asks for; none leads from a node to itself. -/
def batchEdge? (item : Json) : Option (Edge × Fields) := do
  let source ← (item.field? "from").bind Json.string?
  let target ← (item.field? "to").bind Json.string?
  if source = target then none
  else some (⟨.node source, target, "SEMANTIC_LINK", [("type", (item.field? "type").getD .null)]⟩,
    propsIn ((item.field? "props").getD .null))

/-- Carry a statement out. -/
def after (g : Network) : Query → Network
  | .link (.string source) (.string target) relation props =>
    g.put ⟨.node source, target, relation.shown, []⟩ (propsIn props)
  | .linkProject (.string project) (.string target) relation props =>
    g.put ⟨.project project, target, relation.shown, []⟩ (propsIn props)
  | .linkBatch (.array items) =>
    (items.filterMap batchEdge?).foldl (fun g e => g.put e.1 e.2) g
  | q =>
    { g with
      store := (g.store.answer q).2
      distinct := g.distinct.answer q
      anchored := fun e he x hx => Store.has_answer (g.anchored e he x hx) q }

@[simp] theorem store_put (g : Network) (pattern : Edge) (props : Fields) :
    (g.put pattern props).store = g.store := by
  unfold put
  split <;> rfl

theorem store_foldl_put (items : List (Edge × Fields)) (g : Network) :
    (items.foldl (fun g e => g.put e.1 e.2) g).store = g.store := by
  induction items generalizing g with
  | nil => rfl
  | cons e items ih => rw [List.foldl_cons, ih, store_put]

/-- Of nodes and projects a network keeps what the store keeps. -/
theorem store_after (g : Network) (q : Query) : (g.after q).store = (g.store.answer q).2 := by
  unfold after
  split
  · exact g.store_put _ _
  · exact g.store_put _ _
  · exact store_foldl_put _ g
  · rfl

/-! ### Following edges -/

/-- Where edges that pass a test lead from a node. -/
def next (g : Network) (test : Edge → Bool) (id : String) : List String :=
  (g.edges.filter fun e => e.source = .node id && test e).map (·.target)

/-- The nodes from which edges that pass a test lead to a node. -/
def previous (g : Network) (test : Edge → Bool) (id : String) : List String :=
  (g.edges.filter fun e => e.target = id && test e).filterMap (·.source.node?)

/-- The edge says that one thing is a part of another. -/
def isPart (e : Edge) : Bool := e.type = "CONTAINS"

/-- The edge was found by matching symbols, and is of one of these kinds. -/
def isSemantic (kinds : List String) (e : Edge) : Bool :=
  e.type = "SEMANTIC_LINK" && Link.isOneOf (e.props.getOrNull "type") kinds

/-- What stands directly in a node. -/
def parts (g : Network) : String → List String := g.next isPart

/-- Where an operation leads in one step. -/
def follow (g : Network) (operation : Operation) : String → List String :=
  if operation = .calledBy then g.previous (isSemantic operation.linkTypes)
  else g.next (isSemantic operation.linkTypes)

/-- Where one comes from a node in at least one and at most so many steps. A way may pass an edge
twice; what it leads to is then reached by a shorter way too. -/
def within (step : String → List String) : Nat → String → List String
  | 0, _ => []
  | n + 1, id => (step id).flatMap fun m => m :: within step n m

/-- One comes from a node to another in just so many steps. -/
def Walk (step : String → List String) : Nat → String → String → Prop
  | 0, a, b => a = b
  | n + 1, a, b => ∃ m ∈ step a, Walk step n m b

theorem mem_within_iff {step : String → List String} {n : Nat} {a b : String} :
    b ∈ within step n a ↔ ∃ k < n, Walk step (k + 1) a b := by
  induction n generalizing a with
  | zero => simp [within]
  | succ n ih =>
    simp only [within, List.mem_flatMap, List.mem_cons]
    constructor
    · rintro ⟨m, hm, rfl | hb⟩
      · exact ⟨0, by omega, b, hm, rfl⟩
      · obtain ⟨k, hk, hwalk⟩ := ih.mp hb
        exact ⟨k + 1, by omega, m, hm, hwalk⟩
    · rintro ⟨k, hk, m, hm, hwalk⟩
      refine ⟨m, hm, ?_⟩
      cases k with
      | zero => exact .inl hwalk.symm
      | succ k => exact .inr (ih.mpr ⟨k, by omega, hwalk⟩)

theorem within_eq_nil {step : String → List String} {a : String} (h : step a = []) (n : Nat) :
    within step n a = [] := by
  cases n with
  | zero => rfl
  | succ n => rw [within, h, List.flatMap_nil]

/-! ### Look-ups -/

/-- Nodes with their ids, of those ids that there are. -/
def nodesAt (g : Network) (ids : List String) : List (String × Fields) :=
  ids.filterMap fun id => (g.store.get? id).map (id, ·)

def isNamed (name : Json) (n : Fields) : Bool := equal (n.getOrNull "node_name") name

def isIn (project : Json) (n : Fields) : Bool := equal (n.getOrNull "project") project

/-- Classes with a name. -/
def classesNamed (g : Network) (cls : Json) : List (String × Fields) :=
  g.store.nodes.filter fun c => Link.hasKind ["class"] c.2 && isNamed cls c.2

/-- Methods with a name in classes with a name; without a class, functions with the name. -/
def members (g : Network) (cls method : Json) : List (String × Fields) :=
  if cls.truthy then
    ((g.classesNamed cls).flatMap fun c => g.nodesAt (g.parts c.1)).filter fun m =>
      isNamed method m.2
  else g.store.nodes.filter fun m => Link.hasKind ["function"] m.2 && isNamed method m.2

/-- A method as a record: its name, its class or null, and its file. -/
def methodRow (cls : Json) (m : Fields) : Fields :=
  [("method_name", m.getOrNull "node_name"), ("class_name", cls),
    ("file_path", m.getOrNull "file_path")]

def methodKinds : List String := ["method", "function"]

/-- What a method uses or calls. -/
def dependencies (g : Network) (id : String) : List (String × Fields) :=
  g.nodesAt (g.next (isSemantic ["USES", "CALLS"]) id)

/-- The classes of a project in which a node stands. -/
def classesAround (g : Network) (project : Json) (id : String) : List (String × Fields) :=
  (g.nodesAt (g.previous isPart id)).filter fun c =>
    Link.hasKind ["class"] c.2 && isIn project c.2

/-- The records that a statement gives. A class without methods still gives a record, and a
count gives one even if there is nothing to count. A limit takes the first records. -/
def answer (g : Network) : Query → List Fields
  | .traverse (.string start) operation (.int depth) =>
    (g.nodesAt (within (g.follow operation) depth.toNat start).eraseDups).map fun n =>
      Store.record "n" (.object n.2)
  | .methods cls project =>
    if cls.truthy then
      ((g.classesNamed cls).filter (isIn project ·.2)).flatMap fun c =>
        let ms := (g.nodesAt (g.parts c.1)).filter (Link.hasKind methodKinds ·.2)
        if ms.isEmpty then [methodRow (c.2.getOrNull "node_name") []]
        else ms.map fun m => methodRow (c.2.getOrNull "node_name") m.2
    else
      (g.store.nodes.filter fun m => isIn project m.2 && Link.hasKind ["function"] m.2 &&
        (g.classesAround project m.1).isEmpty).map fun m => methodRow .null m.2
  | .classOfMethod method project =>
    ((g.store.nodes.filter fun c => Link.hasKind ["class"] c.2 && isIn project c.2).flatMap
      fun c => ((g.nodesAt (g.parts c.1)).filter fun m =>
        isNamed method m.2 && Link.hasKind methodKinds m.2).map fun _ =>
          Store.record "class_name" (c.2.getOrNull "node_name")).take 1
  | .methodNode method project =>
    ((g.store.nodes.filter fun m => isIn project m.2 && isNamed method m.2 &&
      Link.hasKind methodKinds m.2).flatMap fun m =>
        let cs := g.classesAround project m.1
        if cs.isEmpty then [methodRow .null m.2]
        else cs.map fun c => methodRow (c.2.getOrNull "node_name") m.2).take 1
  | .calledFromOutside cls method =>
    [Store.record "called_externally" (.bool ((g.members cls method).any fun m =>
      (g.previous (isSemantic ["CALLS"]) m.1).any fun caller =>
        !cls.truthy || !(g.parts caller).contains m.1))]
  | .collaborators cls =>
    [Store.record "collaborator_count" (.nat
      ((((g.classesNamed cls).flatMap fun c => (g.parts c.1).flatMap g.dependencies).filter
        (Link.hasKind ["class"] ·.2)).map Prod.fst).eraseDups.length)]
  | .dependenciesOf cls method =>
    (Link.dedupeBy Json.same id [] ((((g.members cls method).filter
      (Link.hasKind methodKinds ·.2)).flatMap fun m => g.dependencies m.1).map
        fun d => d.2.getOrNull "node_name")).map (Store.record "dependency")
  | q => (g.store.answer q).1

/-- A world that looks everything up in this network. It may refuse what another world refuses,
and all that is not for the graph goes to that world. -/
def serve {σ : Type} (g : Network) (rest : Dialogue.World σ) : Dialogue.World σ
  | .graph q, s => ((rest (.graph q) s).1.map fun _ => g.answer q, (rest (.graph q) s).2)
  | q, s => rest q s

theorem eq_answer_of_serve {σ : Type} {g : Network} {rest : Dialogue.World σ} {q : Query} {s : σ}
    {rs : List Fields} (h : (g.serve rest (.graph q) s).1 = .ok rs) : rs = g.answer q := by
  change (rest (.graph q) s).1.map _ = _ at h
  cases hr : (rest (.graph q) s).1 with
  | error e =>
    rw [hr] at h
    cases h
  | ok _ =>
    rw [hr] at h
    exact (Except.ok.inj h).symm

/-! ### Traversals -/

section Traversal
variable (g : Network) {a m : String}

theorem mem_next_iff {test : Edge → Bool} :
    m ∈ g.next test a ↔ ∃ e ∈ g.edges, e.source = .node a ∧ test e = true ∧ e.target = m := by
  simp [next, and_assoc]

/-- Every step ends at a node. -/
theorem isSome_of_mem_follow {operation : Operation} (h : m ∈ g.follow operation a) :
    (g.store.get? m).isSome := by
  unfold follow at h
  split at h
  · obtain ⟨e, he, hsource⟩ := List.mem_filterMap.mp h
    have hheld := g.anchored e (List.mem_filter.mp he).1 _ List.mem_cons_self
    cases hs : e.source with
    | node id =>
      rw [hs] at hsource hheld
      exact Option.some.inj hsource ▸ hheld
    | project name =>
      rw [hs] at hsource
      cases hsource
  · obtain ⟨e, he, -, -, rfl⟩ := (g.mem_next_iff).mp h
    exact g.anchored e he _ (List.mem_cons_of_mem _ (List.mem_singleton.mpr rfl))

theorem isSome_of_walk {operation : Operation} {n : Nat}
    (h : Walk (g.follow operation) (n + 1) a m) : (g.store.get? m).isSome := by
  induction n generalizing a with
  | zero =>
    obtain ⟨b, hb, rfl⟩ := h
    exact g.isSome_of_mem_follow hb
  | succ n ih =>
    obtain ⟨b, -, hwalk⟩ := h
    exact ih hwalk

theorem lists_nodesAt_iff {written : CodeRecord → Prop} (hg : g.store.Stems written)
    {ids : List String} :
    Lists ((g.nodesAt ids).map Prod.snd) m ↔ m ∈ ids ∧ (g.store.get? m).isSome := by
  constructor
  · rintro ⟨n, hn, hid⟩
    obtain ⟨⟨id, n⟩, hmem, rfl⟩ := List.mem_map.mp hn
    obtain ⟨id', hid', hget⟩ := List.mem_filterMap.mp hmem
    obtain ⟨n', hn', heq⟩ := Option.map_eq_some_iff.mp hget
    obtain ⟨rfl, rfl⟩ := Prod.mk.inj heq
    obtain ⟨r, -, rfl, hprops⟩ := hg.get? hn'
    obtain rfl : m = r.id := by
      have hkey := hprops _ r.id_mem_properties
      rw [hid] at hkey
      simpa using hkey
    exact ⟨hid', Option.isSome_of_eq_some hn'⟩
  · rintro ⟨hmem, hsome⟩
    obtain ⟨n, hn⟩ := Option.isSome_iff_exists.mp hsome
    obtain ⟨r, -, rfl, hprops⟩ := hg.get? hn
    refine ⟨n, List.mem_map.mpr ⟨(r.id, n), List.mem_filterMap.mpr ⟨r.id, hmem, ?_⟩, rfl⟩,
      hprops _ r.id_mem_properties⟩
    rw [hn]
    rfl

/-- A traversal gives the nodes to which so many steps of the operation lead. -/
theorem run_traverse {σ : Type} (rest : Dialogue.World σ) (s : σ) (start : String)
    (operation : Operation) (depth : Int)
    (hlook : (rest (.graph (.traverse (.string start) operation (.int depth))) s).1.isOk = true) :
    ∃ t, (traverse (.string start) operation (.int depth)).run (g.serve rest) s =
      (.ok ((g.nodesAt (within (g.follow operation) depth.toNat start).eraseDups).map Prod.snd),
        t) := by
  refine ⟨_, run_nodes ?_⟩
  change (rest _ s).1.map _ = _
  cases hr : (rest (.graph (.traverse (.string start) operation (.int depth))) s).1 with
  | error e =>
    rw [hr] at hlook
    cases hlook
  | ok rs =>
    rw [List.map_map]
    rfl

theorem lists_traverse_iff {written : CodeRecord → Prop} (hg : g.store.Stems written)
    {operation : Operation} {n : Nat} :
    Lists ((g.nodesAt (within (g.follow operation) n a).eraseDups).map Prod.snd) m ↔
      ∃ k < n, Walk (g.follow operation) (k + 1) a m := by
  rw [g.lists_nodesAt_iff hg, List.mem_eraseDups, mem_within_iff, and_iff_left_iff_imp]
  rintro ⟨k, -, hwalk⟩
  exact g.isSome_of_walk hwalk

end Traversal

end Network

end CodeAtlas.Graph
