import CodeAtlas.Excerpt.Indented
import CodeAtlas.Script.Node
import Mathlib.Data.List.Shortlex

/-! Which function is cut out of Python source. The search goes through an outline, which has only
the nodes with statements below them, with a queue and so level by level. What it finds is told here
by the whole tree: a node stands at the end of a path, and breadth orders paths by length first and
from left to right next. The levels of the outline are those of the tree with the other nodes left
out, so the function found comes first in breadth, and none that fits is nearer to the top. -/

namespace CodeAtlas.Script

/-! ### Outlines of parts -/

/-- The outline of a node that can have statements below it. -/
def Node.outline? : Node → Option Outline
  | .stmt s => some s.outline
  | .handler (.mk _ _ _ body) => some (.node .other (outlines body))
  | .case (.mk _ _ body) => some (.node .other (outlines body))
  | _ => none

/-- The outlines among the nodes right below a node. -/
def partOutlines (parts : List (Part × Node)) : List Outline :=
  parts.filterMap (·.2.outline?)

theorem partOutlines_append (ps qs : List (Part × Node)) :
    partOutlines (ps ++ qs) = partOutlines ps ++ partOutlines qs := List.filterMap_append

theorem partOutlines_map_eq_nil {α : Type} {f : α → Part × Node}
    (h : ∀ a, (f a).2.outline? = none) (xs : List α) : partOutlines (xs.map f) = [] :=
  List.filterMap_eq_nil_iff.mpr (List.forall_mem_map.mpr fun a _ => h a)

theorem partOutlines_exprParts (part : Part) (es : List Expr) :
    partOutlines (exprParts part es) = [] := partOutlines_map_eq_nil (fun _ => rfl) es

theorem partOutlines_stmtParts (part : Part) (ss : List Stmt) :
    partOutlines (stmtParts part ss) = outlines ss := by
  induction ss with
  | nil => rfl
  | cons s ss ih => exact congrArg (s.outline :: ·) ih

theorem partOutlines_handlers (hs : List Handler) (i : Nat) :
    partOutlines ((hs.zipIdx i).map fun (h, i) => (.handler i, .handler h)) =
      handlerOutlines hs := by
  induction hs generalizing i with
  | nil => rfl
  | cons h hs ih =>
    obtain ⟨span, kind, name, body⟩ := h
    exact congrArg (Outline.node .other (outlines body) :: ·) (ih (i + 1))

theorem partOutlines_cases (cs : List Case) (i : Nat) :
    partOutlines ((cs.zipIdx i).map fun (c, i) => (.case i, .case c)) = caseOutlines cs := by
  induction cs generalizing i with
  | nil => rfl
  | cons c cs ih =>
    obtain ⟨pattern, guard, body⟩ := c
    exact congrArg (Outline.node .other (outlines body) :: ·) (ih (i + 1))

theorem partOutlines_keywords (ks : List Keyword) :
    partOutlines (ks.map fun k => (.keywords, .keyword k)) = [] :=
  partOutlines_map_eq_nil (fun _ => rfl) ks

theorem partOutlines_opened (items : List (Expr × Option Expr)) :
    partOutlines (items.map fun (e, target) => (.items, .opened e target)) = [] :=
  partOutlines_map_eq_nil (fun _ => rfl) items

theorem partOutlines_stmt (s : Stmt) : partOutlines s.parts = s.outline.children := by
  cases s <;> simp only [Stmt.parts, Stmt.outline, Outline.children, partOutlines_append,
    partOutlines_exprParts, partOutlines_stmtParts, partOutlines_handlers, partOutlines_cases,
    partOutlines_keywords, partOutlines_opened, List.nil_append, List.append_nil]
  all_goals rfl

/-- No statement stands below a node without an outline. -/
theorem outline?_of_mem_parts {n : Node} (h : n.outline? = none) :
    ∀ p ∈ n.parts, p.2.outline? = none := by
  cases n with
  | stmt s => cases h
  | handler h' => cases h'; cases h
  | case c => cases c; cases h
  | expr e =>
    cases e <;> simp only [Node.parts, Expr.parts, exprParts, Node.outline?,
      List.forall_mem_append, List.forall_mem_map, List.forall_mem_cons, List.not_mem_nil,
      false_implies, implies_true, and_self]
  | pattern p =>
    cases p <;> simp only [Node.parts, Pattern.parts, exprParts, patternParts, Node.outline?,
      List.forall_mem_append, List.forall_mem_map, List.not_mem_nil, false_implies, implies_true,
      and_self]
  | params p =>
    cases p
    simp only [Node.parts, Params.parts, exprParts, Node.outline?, List.forall_mem_append,
      List.forall_mem_map, implies_true, and_self]
  | keyword k => cases k; simp [Node.parts, exprParts, Node.outline?]
  | generator g => cases g; simp [Node.parts, exprParts, Node.outline?]
  | param p => cases p; simp [Node.parts, exprParts, Node.outline?]
  | opened e t => simp [Node.parts, exprParts, Node.outline?]

/-- The outlines right below a node are the children of its own. -/
theorem partOutlines_node (n : Node) :
    partOutlines n.parts = (n.outline?.map Outline.children).getD [] := by
  cases ho : n.outline? with
  | none => exact List.filterMap_eq_nil_iff.mpr (outline?_of_mem_parts ho)
  | some o =>
    cases n with
    | stmt s =>
      obtain rfl : s.outline = o := Option.some.inj ho
      exact partOutlines_stmt s
    | handler h =>
      obtain ⟨_, _, _, body⟩ := h
      obtain rfl : .node .other (outlines body) = o := Option.some.inj ho
      simp [Node.parts, partOutlines_append, partOutlines_exprParts, partOutlines_stmtParts,
        Outline.children]
    | case c =>
      obtain ⟨pattern, _, body⟩ := c
      obtain rfl : .node .other (outlines body) = o := Option.some.inj ho
      have hpattern : partOutlines (patternParts [pattern]) = [] := rfl
      simp [Node.parts, partOutlines_append, partOutlines_exprParts, partOutlines_stmtParts,
        hpattern, Outline.children]
    | expr | pattern | params | param | keyword | generator | opened => cases ho

/-! ### Levels of a tree -/

/-- The nodes right below a node, or below the source itself. -/
def nodesBelow (body : List Stmt) : Option Node → List Node
  | none => body.map .stmt
  | some n => n.parts.map (·.2)

/-- What stands at the end of a path: a node, or the source itself. -/
def at? (body : List Stmt) (path : List Nat) : Option (Option Node) :=
  path.foldlM (fun above i => (nodesBelow body above)[i]?.map some) none

/-- A node with the path to it and what stands above it. -/
structure Position where
  path : List Nat
  above : Option Node
  node : Node

/-- The positions one step further down. -/
def stepsDown (body : List Stmt) (path : List Nat) (above : Option Node) : List Position :=
  (nodesBelow body above).zipIdx.map fun n => ⟨path ++ [n.2], above, n.1⟩

/-- The positions that are `n` steps below those right in the source, from left to right. -/
def level (body : List Stmt) : Nat → List Position
  | 0 => stepsDown body [] none
  | n + 1 => (level body n).flatMap fun p => stepsDown body p.path (some p.node)

section Levels
variable {body : List Stmt} {path : List Nat} {above : Option Node} {p q : Position} {n : Nat}

theorem at?_concat_eq_some_iff {i : Nat} {m : Option Node} :
    at? body (path ++ [i]) = some m ↔
      ∃ above node, at? body path = some above ∧ (nodesBelow body above)[i]? = some node ∧
        some node = m := by
  rw [at?, List.foldlM_append]
  simp [at?, Option.bind_eq_some_iff]

theorem mem_stepsDown_iff :
    p ∈ stepsDown body path above ↔
      ∃ i, p.path = path ++ [i] ∧ p.above = above ∧ (nodesBelow body above)[i]? = some p.node := by
  simp only [stepsDown, List.mem_map, Prod.exists, List.mem_zipIdx_iff_getElem?]
  constructor
  · rintro ⟨n, i, hn, rfl⟩
    exact ⟨i, rfl, rfl, hn⟩
  · rintro ⟨i, hpath, rfl, hn⟩
    exact ⟨p.node, i, hn, by rw [← hpath]⟩

/-- A level has the nodes at the ends of all paths of one length. -/
theorem mem_level_iff :
    p ∈ level body n ↔ ∃ front i, front.length = n ∧ p.path = front ++ [i] ∧
      at? body front = some p.above ∧ (nodesBelow body p.above)[i]? = some p.node := by
  induction n generalizing p with
  | zero =>
    rw [level, mem_stepsDown_iff]
    constructor
    · rintro ⟨i, hpath, habove, hnode⟩
      rw [habove]
      exact ⟨[], i, rfl, hpath, rfl, hnode⟩
    · rintro ⟨front, i, hlen, hpath, habove, hnode⟩
      obtain rfl := List.length_eq_zero_iff.mp hlen
      have hnone : p.above = none := (Option.some.inj habove).symm
      rw [hnone] at hnode
      exact ⟨i, hpath, hnone, hnode⟩
  | succ n ih =>
    simp only [level, List.mem_flatMap, mem_stepsDown_iff]
    constructor
    · rintro ⟨q, hq, i, hpath, habove, hnode⟩
      obtain ⟨front, j, hlen, hqpath, hqabove, hqnode⟩ := ih.mp hq
      refine ⟨q.path, i, by simp [hqpath, hlen], hpath, ?_, by rw [habove, hnode]⟩
      rw [hqpath, at?_concat_eq_some_iff]
      exact ⟨q.above, q.node, hqabove, hqnode, habove.symm⟩
    · rintro ⟨front, i, hlen, hpath, habove, hnode⟩
      obtain rfl | ⟨front, j, rfl⟩ := front.eq_nil_or_concat'
      · cases hlen
      · obtain ⟨above, node, hfront, hj, hm⟩ := at?_concat_eq_some_iff.mp habove
        rw [← hm] at hnode
        refine ⟨⟨front ++ [j], above, node⟩, ih.mpr ⟨front, j, ?_, rfl, hfront, hj⟩,
          i, hpath, hm.symm, hnode⟩
        simpa using hlen

theorem length_path (h : p ∈ level body n) : p.path.length = n + 1 := by
  obtain ⟨front, i, hlen, hpath, -⟩ := mem_level_iff.mp h
  simp [hpath, hlen]

/-- Paths of one length are in order however they go on. -/
theorem lex_append {a b x y : List Nat} (hlen : a.length = b.length)
    (h : List.Lex (· < ·) a b) : List.Lex (· < ·) (a ++ x) (b ++ y) := by
  induction h with
  | nil => cases hlen
  | rel h => exact .rel h
  | cons _ ih => exact .cons (ih (Nat.succ.inj hlen))

theorem pairwise_stepsDown (body : List Stmt) (path : List Nat) (above : Option Node) :
    (stepsDown body path above).Pairwise fun p q => List.Lex (· < ·) p.path q.path := by
  rw [stepsDown, List.pairwise_map]
  have hindices := List.pairwise_lt_range' (s := 0) (n := (nodesBelow body above).length)
  rw [← List.zipIdx_map_snd, List.pairwise_map] at hindices
  exact hindices.imp fun h => .append_left _ (.rel h) path

/-- A level goes from left to right. -/
theorem pairwise_level (body : List Stmt) (n : Nat) :
    (level body n).Pairwise fun p q => List.Lex (· < ·) p.path q.path := by
  induction n with
  | zero => exact pairwise_stepsDown body [] none
  | succ n ih =>
    rw [level, List.pairwise_flatMap]
    refine ⟨fun p _ => pairwise_stepsDown body p.path _, ?_⟩
    refine ih.imp_of_mem fun {p q} hp hq hpq p' hp' q' hq' => ?_
    obtain ⟨i, hi, -⟩ := mem_stepsDown_iff.mp hp'
    obtain ⟨j, hj, -⟩ := mem_stepsDown_iff.mp hq'
    rw [hi, hj]
    exact lex_append (by rw [length_path hp, length_path hq]) hpq

end Levels

end CodeAtlas.Script

namespace CodeAtlas.Excerpt

open Script

/-! ### Levels of an outline -/

/-- The nodes one level down, each with the label of its parent. -/
def below (level : List (Label × Outline)) : List (Label × Outline) :=
  level.flatMap fun (_, o) => o.children.map (o.label, ·)

theorem map_snd_below (l : List (Label × Outline)) :
    (below l).map (·.2) = (l.map (·.2)).flatMap Outline.children := by
  simp [below, List.map_flatMap, List.flatMap_map]

theorem sizeAll_append (xs ys : List Outline) : sizeAll (xs ++ ys) = sizeAll xs + sizeAll ys := by
  induction xs with
  | nil => simp [sizeAll]
  | cons x xs ih => simp only [List.cons_append, sizeAll, ih, Nat.add_assoc]

/-- Outlines have their roots, and what is one level down. -/
theorem sizeAll_eq (xs : List Outline) :
    sizeAll xs = xs.length + sizeAll (xs.flatMap Outline.children) := by
  induction xs with
  | nil => rfl
  | cons x xs ih =>
    obtain ⟨label, children⟩ := x
    rw [sizeAll, size, ih, List.flatMap_cons, sizeAll_append, List.length_cons, Outline.children]
    omega

/-! ### The queue -/

/-- A node as it stands in the queue. -/
def attached (q : Label × Outline) : Attached := attach q.1 q.2

theorem attachAll_eq (parent : Label) (os : List Outline) :
    attachAll parent os = os.map (attach parent) := by
  induction os with
  | nil => rfl
  | cons o os ih => rw [attachAll, ih, List.map_cons]

theorem children_attached (q : Label × Outline) :
    (attached q).children = (q.2.children.map (q.2.label, ·)).map attached := by
  obtain ⟨parent, label, children⟩ := q
  rw [List.map_map]
  exact attachAll_eq label children

theorem label_attached (q : Label × Outline) : (attached q).label = q.2.label := by
  obtain ⟨parent, label, children⟩ := q
  rfl

theorem parent_attached (q : Label × Outline) : (attached q).parent = q.1 := by
  obtain ⟨parent, label, children⟩ := q
  rfl

/-- What stands first in the queue comes first, and what is below it comes after the rest. -/
theorem walk_append (n : Nat) (first queue : List Attached) :
    walk (first.length + n) (first ++ queue) =
      first ++ walk n (queue ++ first.flatMap Attached.children) := by
  induction first generalizing queue with
  | nil => simp
  | cons a first ih =>
    rw [List.length_cons, Nat.add_right_comm, List.cons_append, walk, List.append_assoc, ih,
      List.append_assoc, List.flatMap_cons, List.cons_append]

theorem flatMap_children_attached (l : List (Label × Outline)) :
    (l.map attached).flatMap Attached.children = (below l).map attached := by
  rw [List.flatMap_map, below, List.map_flatMap]
  exact List.flatMap_congr fun q _ => children_attached q

/-- The queue goes by levels: after one level it has the next one in order. -/
theorem walk_level (n : Nat) (l : List (Label × Outline)) :
    walk (l.length + n) (l.map attached) = l.map attached ++ walk n ((below l).map attached) := by
  have hwalk := walk_append n (l.map attached) []
  rwa [List.append_nil, List.nil_append, List.length_map, flatMap_children_attached] at hwalk

/-- The first answer on one level. -/
def hit? {α : Type} (accept : Label → Label → Option α) (l : List (Label × Outline)) : Option α :=
  l.findSome? fun q => accept q.1 q.2.label

/-- The first answer that the queue comes by from one level on. -/
def found? {α : Type} (accept : Label → Label → Option α) (n : Nat) (l : List (Label × Outline)) :
    Option α :=
  (walk n (l.map attached)).findSome? fun a => accept a.parent a.label

section Search
variable {α : Type} {accept : Label → Label → Option α} {l : List (Label × Outline)} {x : α}
  {fuel : Nat}

/-- There is fuel for each node that the queue comes by. -/
def Suffices (fuel : Nat) (l : List (Label × Outline)) : Prop := sizeAll (l.map (·.2)) ≤ fuel

theorem found?_nil (accept : Label → Label → Option α) (fuel : Nat) :
    found? accept fuel [] = none := by
  cases fuel <;> rfl

/-- The first answer is on this level or from the next one on, for which there is fuel left. -/
theorem found?_of_suffices (accept : Label → Label → Option α) (h : Suffices fuel l) :
    ∃ left, fuel = l.length + left ∧ Suffices left (below l) ∧
      found? accept fuel l = (hit? accept l).or (found? accept left (below l)) := by
  rw [Suffices, sizeAll_eq, List.length_map, ← map_snd_below] at h
  obtain ⟨left, rfl⟩ := Nat.exists_eq_add_of_le (Nat.le_of_add_right_le h)
  refine ⟨left, rfl, Nat.add_le_add_iff_left.mp h, ?_⟩
  rw [found?, walk_level, List.findSome?_append, List.findSome?_map]
  simp only [Function.comp_def, parent_attached, label_attached]
  rfl

/-- An answer of the search is the first one on the first level that has any. -/
theorem hit_of_found? (hfuel : Suffices fuel l) (h : found? accept fuel l = some x) :
    ∃ n, hit? accept (below^[n] l) = some x ∧ ∀ m < n, hit? accept (below^[m] l) = none := by
  induction fuel using Nat.strong_induction_on generalizing l with
  | _ fuel ih =>
    obtain ⟨left, hleft, hsuffices, heq⟩ := found?_of_suffices accept hfuel
    rw [heq] at h
    cases hl : hit? accept l with
    | some y =>
      rw [hl] at h
      exact ⟨0, hl.trans h, by simp⟩
    | none =>
      rw [hl] at h
      have hlength : 0 < l.length := by
        refine List.length_pos_of_ne_nil fun hnil => ?_
        rw [hnil] at h
        cases (found?_nil accept left).symm.trans h
      obtain ⟨n, hn, hm⟩ := ih left (by omega) hsuffices h
      refine ⟨n + 1, hn, fun m hlt => ?_⟩
      cases m with
      | zero => exact hl
      | succ m => exact hm m (Nat.lt_of_succ_lt_succ hlt)

/-- A search without an answer leaves out no answer. -/
theorem hit_eq_none (hfuel : Suffices fuel l) (h : found? accept fuel l = none) (n : Nat) :
    hit? accept (below^[n] l) = none := by
  induction n generalizing fuel l with
  | zero =>
    obtain ⟨left, -, -, heq⟩ := found?_of_suffices accept hfuel
    exact (Option.or_eq_none_iff.mp (heq.symm.trans h)).1
  | succ n ih =>
    obtain ⟨left, -, hsuffices, heq⟩ := found?_of_suffices accept hfuel
    exact ih hsuffices (Option.or_eq_none_iff.mp (heq.symm.trans h)).2

end Search

/-! ### The outline of a tree, level by level -/

/-- The label that an outline gives to what stands above a node. -/
def labelOf (above : Option Node) : Label :=
  ((above.bind Node.outline?).map Outline.label).getD .other

/-- A position as the search comes by it, if it does. -/
def seen? (p : Position) : Option (Label × Outline) :=
  p.node.outline?.map (labelOf p.above, ·)

theorem filterMap_seen_stepsDown (body : List Stmt) (path : List Nat) (above : Option Node) :
    (stepsDown body path above).filterMap seen? =
      ((nodesBelow body above).filterMap Node.outline?).map (labelOf above, ·) := by
  have hnodes : (nodesBelow body above).zipIdx.map (·.1) = nodesBelow body above :=
    List.zipIdx_map_fst 0 _
  rw [stepsDown, List.filterMap_map, ← hnodes, List.map_filterMap, List.filterMap_map, hnodes]
  rfl

theorem below_cons (q : Label × Outline) (l : List (Label × Outline)) :
    below (q :: l) = q.2.children.map (q.2.label, ·) ++ below l := rfl

/-- What the search comes by below some positions is what it sees of the positions below them. -/
theorem below_filterMap_seen (body : List Stmt) (ps : List Position) :
    below (ps.filterMap seen?) =
      (ps.flatMap fun p => stepsDown body p.path (some p.node)).filterMap seen? := by
  induction ps with
  | nil => rfl
  | cons p ps ih =>
    have hbelow : (nodesBelow body (some p.node)).filterMap Node.outline? =
        (p.node.outline?.map Outline.children).getD [] := by
      rw [nodesBelow, List.filterMap_map]
      exact partOutlines_node p.node
    rw [List.flatMap_cons, List.filterMap_append, ← ih, filterMap_seen_stepsDown, hbelow]
    cases ho : p.node.outline? with
    | none => simp [seen?, ho]
    | some o => simp [seen?, ho, below_cons, labelOf]

/-- The levels of the outline below its root are those of the tree, with only the nodes that have
outlines. -/
theorem iterate_below (body : List Stmt) (n : Nat) :
    below^[n + 1] [(.other, outlineOf body)] = (level body n).filterMap seen? := by
  induction n with
  | zero =>
    have hbody : (nodesBelow body none).filterMap Node.outline? = outlines body := by
      rw [← partOutlines_stmtParts .body body, partOutlines, stmtParts, nodesBelow,
        List.filterMap_map, List.filterMap_map]
      rfl
    rw [level, filterMap_seen_stepsDown, hbody]
    exact List.append_nil _
  | succ n ih =>
    rw [Function.iterate_succ_apply', ih, below_filterMap_seen, level]

/-! ### The function asked for -/

/-- A function of this name that is not asynchronous. -/
def IsFunction (name : String) (span : Span) (n : Node) : Prop :=
  ∃ params body decorators returns,
    n = .stmt (.function span false name params body decorators returns)

/-- A class of this name. -/
def IsClass (name : String) (n : Node) : Prop :=
  ∃ span bases keywords body decorators,
    n = .stmt (.classDef span name bases keywords body decorators)

/-- The function asked for may be this node, with this above it. An empty class name asks for no
class. -/
def IsAskedFor (method : String) (cls : Option String) (above : Option Node) (span : Span)
    (node : Node) : Prop :=
  IsFunction method span node ∧ ∀ c, cls = some c → c ≠ "" → ∃ n, above = some n ∧ IsClass c n

theorem rowsOf?_eq_some_iff {method : String} {cls : Option String} {parent own : Label}
    {r : Nat × Nat} :
    rowsOf? method cls parent own = some r ↔
      own = .function method r.1 r.2 ∧ ∀ c, cls = some c → parent = .classDef c := by
  cases own with
  | function name first last =>
    cases cls <;> grind [rowsOf?]
  | classDef | other => simp [rowsOf?]

theorem label_eq_function_iff {n : Node} {name : String} {r : Nat × Nat} :
    n.outline?.map Outline.label = some (.function name r.1 r.2) ↔
      ∃ span, IsFunction name span n ∧ r = (span.line, span.lastLine) := by
  cases n with
  | stmt s =>
    cases s with
    | function span isAsync =>
      cases isAsync <;>
        simp [Node.outline?, Stmt.outline, Outline.label, IsFunction, Prod.ext_iff, eq_comm]
    | _ => simp [Node.outline?, Stmt.outline, Outline.label, IsFunction]
  | handler h => cases h; simp [Node.outline?, Outline.label, IsFunction]
  | case c => cases c; simp [Node.outline?, Outline.label, IsFunction]
  | _ => simp [Node.outline?, IsFunction]

theorem labelOf_eq_classDef_iff {above : Option Node} {c : String} :
    labelOf above = .classDef c ↔ ∃ n, above = some n ∧ IsClass c n := by
  cases above with
  | none => simp [labelOf]
  | some n =>
    cases n with
    | stmt s =>
      cases s with
      | function span isAsync =>
        cases isAsync <;> simp [labelOf, Node.outline?, Stmt.outline, Outline.label, IsClass]
      | _ => simp [labelOf, Node.outline?, Stmt.outline, Outline.label, IsClass]
    | handler h => cases h; simp [labelOf, Node.outline?, Outline.label, IsClass]
    | case c => cases c; simp [labelOf, Node.outline?, Outline.label, IsClass]
    | _ => simp [labelOf, Node.outline?, IsClass]

/-- The rows that the search answers with at a position. -/
def rowsAt? (method : String) (cls : Option String) (p : Position) : Option (Nat × Nat) :=
  (seen? p).bind fun q => rowsOf? method (askedClass cls) q.1 q.2.label

theorem rowsAt?_eq_some_iff {method : String} {cls : Option String} {p : Position}
    {r : Nat × Nat} :
    rowsAt? method cls p = some r ↔
      ∃ span, IsAskedFor method cls p.above span p.node ∧ r = (span.line, span.lastLine) := by
  have hlabel : rowsAt? method cls p = some r ↔
      p.node.outline?.map Outline.label = some (.function method r.1 r.2) ∧
        ∀ c, askedClass cls = some c → labelOf p.above = .classDef c := by
    simp only [rowsAt?, seen?]
    cases p.node.outline? <;> simp [rowsOf?_eq_some_iff]
  simp only [hlabel, label_eq_function_iff, labelOf_eq_classDef_iff, askedClass, IsAskedFor,
    Option.filter_eq_some_iff, decide_eq_true_eq, and_imp]
  grind

theorem not_isAskedFor {method : String} {cls : Option String} {p : Position} {span : Span}
    (h : rowsAt? method cls p = none) : ¬ IsAskedFor method cls p.above span p.node := by
  intro hasked
  rw [rowsAt?_eq_some_iff.mpr ⟨span, hasked, rfl⟩] at h
  cases h

/-- A function that may be the one asked for stands at the end of the path. -/
def Wanted (body : List Stmt) (method : String) (cls : Option String) (path : List Nat)
    (span : Span) : Prop :=
  ∃ front i above node, path = front ++ [i] ∧ at? body front = some above ∧
    (nodesBelow body above)[i]? = some node ∧ IsAskedFor method cls above span node

/-- Of all such functions it is the first one in breadth: the others have longer paths, or paths of
the same length further to the right. -/
def Outermost (body : List Stmt) (method : String) (cls : Option String) (path : List Nat)
    (span : Span) : Prop :=
  Wanted body method cls path span ∧
    ∀ path' span', Wanted body method cls path' span' →
      path' = path ∨ List.Shortlex (· < ·) path path'

section Found
variable {body : List Stmt} {method : String} {cls : Option String} {path : List Nat} {span : Span}

theorem wanted_iff :
    Wanted body method cls path span ↔
      ∃ n, ∃ p ∈ level body n, p.path = path ∧ IsAskedFor method cls p.above span p.node := by
  constructor
  · rintro ⟨front, i, above, node, hpath, habove, hnode, hasked⟩
    exact ⟨front.length, ⟨path, above, node⟩,
      mem_level_iff.mpr ⟨front, i, rfl, hpath, habove, hnode⟩, rfl, hasked⟩
  · rintro ⟨n, p, hp, rfl, hasked⟩
    obtain ⟨front, i, -, hpath, habove, hnode⟩ := mem_level_iff.mp hp
    exact ⟨front, i, p.above, p.node, hpath, habove, hnode, hasked⟩

theorem hit_level (body : List Stmt) (method : String) (cls : Option String) (n : Nat) :
    hit? (rowsOf? method (askedClass cls)) (below^[n + 1] [(.other, outlineOf body)]) =
      (level body n).findSome? (rowsAt? method cls) := by
  rw [iterate_below, hit?, ← List.head?_filterMap, List.filterMap_filterMap, List.head?_filterMap]
  rfl

/-- No function is left out by a level without an answer. -/
theorem not_isAskedFor_of_hit {n : Nat}
    (h : hit? (rowsOf? method (askedClass cls)) (below^[n + 1] [(.other, outlineOf body)]) = none)
    {p : Position} (hp : p ∈ level body n) : ¬ IsAskedFor method cls p.above span p.node := by
  rw [hit_level, List.findSome?_eq_none_iff] at h
  exact not_isAskedFor (h p hp)

theorem suffices_size (body : List Stmt) :
    Suffices (size (outlineOf body)) [(.other, outlineOf body)] := by
  simp [Suffices, sizeAll]

theorem not_wanted_of_findFunction? (h : findFunction? (outlineOf body) method cls = none) :
    ¬ Wanted body method cls path span := by
  rw [wanted_iff]
  rintro ⟨n, p, hp, -, hasked⟩
  exact not_isAskedFor_of_hit (hit_eq_none (suffices_size body) h (n + 1)) hp hasked

theorem outermost_of_findFunction? {r : Nat × Nat}
    (h : findFunction? (outlineOf body) method cls = some r) :
    ∃ path span, Outermost body method cls path span ∧ r = (span.line, span.lastLine) := by
  obtain ⟨n, hn, hearlier⟩ := hit_of_found? (suffices_size body) h
  -- The source itself is no function, so the level is one of those below it.
  obtain _ | n := n
  · cases hn
  rw [hit_level] at hn
  obtain ⟨left, p, right, hlevel, hp, hleft⟩ := List.findSome?_eq_some_iff.mp hn
  obtain ⟨span, hasked, hr⟩ := rowsAt?_eq_some_iff.mp hp
  have hmem : p ∈ level body n := by simp [hlevel]
  refine ⟨p.path, span, ⟨wanted_iff.mpr ⟨n, p, hmem, rfl, hasked⟩, ?_⟩, hr⟩
  intro path' span' hwanted
  obtain ⟨m, q, hq, rfl, hasked'⟩ := wanted_iff.mp hwanted
  obtain hlt | rfl | hgt := Nat.lt_trichotomy m n
  · exact absurd hasked' (not_isAskedFor_of_hit (hearlier (m + 1) (by omega)) hq)
  · have hlen : p.path.length = q.path.length := by rw [length_path hmem, length_path hq]
    have hsorted := pairwise_level body m
    rw [hlevel] at hq hsorted
    obtain hq | hq := List.mem_append.mp hq
    · exact absurd hasked' (not_isAskedFor (hleft q hq))
    · obtain rfl | hq := List.mem_cons.mp hq
      · exact .inl rfl
      · have hlex := (List.pairwise_cons.mp (List.pairwise_append.mp hsorted).2.1).1 q hq
        exact .inr (.of_lex hlen hlex)
  · exact .inr (.of_length_lt (by rw [length_path hmem, length_path hq]; omega))

end Found

/-- What is to be cut out of a source, by the statements that are read in it. -/
def Answers (code method : String) (cls : Option String) (answer : String) :
    Except Fault (List Stmt) → Prop
  | .ok body =>
    (∃ path span, Outermost body method cls path span ∧
      answer = String.ofList (Text.rowsBetween (Text.rows code.toList) span.line span.lastLine)) ∨
    (∀ path span, ¬ Wanted body method cls path span) ∧ answer = ""
  | .error _ => answer = ""

/-- The rows cut out are those of the outermost function asked for, the first of them in breadth,
and there are none if there is no such function. -/
theorem indented_cuts_outermost (code method : String) (cls : Option String) :
    Answers code method cls (indented code method cls) (parse code.toList) := by
  rw [indented]
  cases parse code.toList with
  | error => rfl
  | ok body =>
    cases hfound : findFunction? (outlineOf body) method cls with
    | none => exact .inr ⟨fun _ _ => not_wanted_of_findFunction? hfound, by simp only [hfound]⟩
    | some r =>
      obtain ⟨path, span, houtermost, rfl⟩ := outermost_of_findFunction? hfound
      exact .inl ⟨path, span, houtermost, by simp only [hfound]⟩

end CodeAtlas.Excerpt
