import CodeAtlas.Node
import Mathlib.Data.List.Infix

/-! Places in a tree. A node does not say where it stands, and two nodes of one tree can be alike.
A place is a node together with the way to it from the root and the nodes around it. The places of
a tree are listed in preorder, which is the lexicographic order of the ways to them. -/

namespace CodeAtlas

namespace Node

/-- What passes from the children of a node to the node holds of every tree. -/
@[elab_as_elim]
theorem child_induction {motive : Node → Prop}
    (h : ∀ n : Node, (∀ c ∈ n.children, motive c) → motive n) (n : Node) : motive n :=
  @Node.rec motive (fun cs => ∀ c ∈ cs, motive c) (fun _ _ _ _ _ _ hcs => h _ hcs)
    (fun _ hc => nomatch hc) (fun _ _ hc hcs => List.forall_mem_cons.mpr ⟨hc, hcs⟩) n

end Node

/-- A node where it stands. -/
structure Place where
  /-- Which child to take at each step from the root. -/
  path : List Nat
  node : Node
  /-- The nodes on the way, nearest first. -/
  around : List Node

/-- A place in a tree, once that tree is the child with this number of a node. -/
def Place.below (parent : Node) (i : Nat) (p : Place) : Place :=
  ⟨i :: p.path, p.node, p.around ++ [parent]⟩

namespace Node

mutual

/-- The places of a tree, each before those below it. -/
def places : Node → List Place
  | .mk kind first last text roles children =>
    ⟨[], .mk kind first last text roles children, []⟩ ::
      placesBelow (.mk kind first last text roles children) 0 children

/-- The places in children of a node, which are numbered from `i` on. -/
def placesBelow (parent : Node) (i : Nat) : List Node → List Place
  | [] => []
  | c :: rest => c.places.map (.below parent i) ++ placesBelow parent (i + 1) rest

end

theorem places_eq (n : Node) : n.places = ⟨[], n, []⟩ :: placesBelow n 0 n.children := by
  cases n
  rfl

theorem preorder_eq (n : Node) : n.preorder = n :: preorderAll n.children := by
  cases n
  rfl

/-- The node at the end of a path. -/
def follow? : Node → List Nat → Option Node
  | n, [] => some n
  | n, i :: path => n.children[i]?.bind (·.follow? path)

/-- The nodes that a path passes before its end, the last of them first. -/
def passed (n : Node) (path : List Nat) : List Node :=
  path.inits.dropLast.reverse.filterMap n.follow?

theorem passed_cons {n c : Node} {i : Nat} (hc : n.children[i]? = some c) (path : List Nat) :
    n.passed (i :: path) = c.passed path ++ [n] := by
  have hne : path.inits.map (i :: ·) ≠ [] := by
    cases path <;> simp
  have hat : (fun p => n.follow? (i :: p)) = c.follow? := by
    funext p
    simp [follow?, hc]
  rw [passed, List.inits_cons, List.dropLast_cons_of_ne_nil hne, List.reverse_cons,
    List.filterMap_append, ← List.map_dropLast, ← List.map_reverse, List.filterMap_map]
  simp only [Function.comp_def, hat]
  rfl

theorem follow?_concat (n : Node) (path : List Nat) (i : Nat) :
    n.follow? (path ++ [i]) = (n.follow? path).bind (·.children[i]?) := by
  induction path generalizing n with
  | nil => simp [follow?]
  | cons j path ih => simp [follow?, ih, Option.bind_assoc]

theorem passed_concat {n m : Node} {path : List Nat} (h : n.follow? path = some m) (i : Nat) :
    n.passed (path ++ [i]) = m :: n.passed path := by
  induction path generalizing n with
  | nil =>
    obtain rfl : n = m := Option.some.inj h
    simp [passed, follow?]
  | cons j path ih =>
    obtain ⟨c, hc, h⟩ := Option.bind_eq_some_iff.mp h
    rw [List.cons_append, passed_cons hc, passed_cons hc, ih h, List.cons_append]

/-! ### Which places there are -/

theorem mem_placesBelow_iff {parent : Node} {p : Place} {cs : List Node} {i : Nat} :
    p ∈ placesBelow parent i cs ↔
      ∃ (j : Nat) (c : Node) (q : Place), cs[j]? = some c ∧ q ∈ c.places ∧
        p = q.below parent (i + j) := by
  induction cs generalizing i with
  | nil => simp [placesBelow]
  | cons c rest ih =>
    rw [placesBelow, List.mem_append, List.mem_map, ih]
    constructor
    · rintro (⟨q, hq, rfl⟩ | ⟨j, c', q, hc', hq, rfl⟩)
      · exact ⟨0, c, q, rfl, hq, rfl⟩
      · exact ⟨j + 1, c', q, hc', hq, by rw [Nat.add_right_comm, Nat.add_assoc]⟩
    · rintro ⟨j, c', q, hc', hq, rfl⟩
      cases j with
      | zero =>
        obtain rfl : c = c' := by simpa using hc'
        exact .inl ⟨q, hq, rfl⟩
      | succ j =>
        exact .inr ⟨j, c', q, by simpa using hc', hq, by rw [Nat.add_right_comm, Nat.add_assoc]⟩

theorem mem_places_cons_iff {n : Node} {p : Place} :
    p ∈ n.places ↔ p = ⟨[], n, []⟩ ∨
      ∃ (i : Nat) (c : Node) (q : Place), n.children[i]? = some c ∧ q ∈ c.places ∧
        p = q.below n i := by
  rw [places_eq, List.mem_cons, mem_placesBelow_iff]
  simp only [Nat.zero_add]

/-- A place is told by its path: the node is the one at its end, and around it are those that the
path passes. -/
theorem mk_mem_places_iff {n m : Node} {path : List Nat} {around : List Node} :
    ⟨path, m, around⟩ ∈ n.places ↔ n.follow? path = some m ∧ around = n.passed path := by
  -- Each step of the path goes on in a child, so the tree is not fixed.
  induction path generalizing n around with
  | nil =>
    rw [mem_places_cons_iff]
    simp [follow?, passed, Place.below, eq_comm]
  | cons i path ih =>
    rw [mem_places_cons_iff]
    constructor
    · rintro (h | ⟨j, c, q, hc, hq, h⟩)
      · cases h
      · rw [Place.below, Place.mk.injEq, List.cons.injEq] at h
        obtain ⟨⟨rfl, rfl⟩, rfl, rfl⟩ := h
        obtain ⟨hat, haround⟩ := ih.mp hq
        exact ⟨by rw [follow?, hc, Option.bind_some, hat], by rw [passed_cons hc, haround]⟩
    · rintro ⟨hat, rfl⟩
      obtain ⟨c, hc, hat⟩ := Option.bind_eq_some_iff.mp hat
      refine .inr ⟨i, c, ⟨path, m, c.passed path⟩, hc, ih.mpr ⟨hat, rfl⟩, ?_⟩
      rw [passed_cons hc]
      rfl

theorem mem_places_iff {n : Node} {p : Place} :
    p ∈ n.places ↔ n.follow? p.path = some p.node ∧ p.around = n.passed p.path := by
  cases p
  exact mk_mem_places_iff

theorem eq_of_path_eq {n : Node} {p q : Place} (hp : p ∈ n.places) (hq : q ∈ n.places)
    (h : p.path = q.path) : p = q := by
  obtain ⟨hnode, haround⟩ := mem_places_iff.mp hp
  obtain ⟨hnode', haround'⟩ := mem_places_iff.mp hq
  rw [h] at hnode haround
  rcases p with ⟨path, m, around⟩
  rcases q with ⟨path', m', around'⟩
  obtain rfl : m = m' := Option.some.inj (hnode.symm.trans hnode')
  rw [Place.mk.injEq]
  exact ⟨h, rfl, haround.trans haround'.symm⟩

theorem child_mem_places {n d c : Node} {path : List Nat} {around : List Node} {i : Nat}
    (h : ⟨path, d, around⟩ ∈ n.places) (hc : d.children[i]? = some c) :
    ⟨path ++ [i], c, d :: around⟩ ∈ n.places := by
  obtain ⟨hat, haround⟩ := mk_mem_places_iff.mp h
  refine mk_mem_places_iff.mpr ⟨?_, ?_⟩
  · rw [follow?_concat, hat, Option.bind_some, hc]
  · rw [passed_concat hat, haround]

/-- The node next around a place has it as a child. -/
theorem exists_parent {n d : Node} {p : Place} {around : List Node} (hp : p ∈ n.places)
    (h : p.around = d :: around) :
    ∃ path i, p.path = path ++ [i] ∧ ⟨path, d, around⟩ ∈ n.places ∧
      d.children[i]? = some p.node := by
  obtain ⟨hat, haround⟩ := mem_places_iff.mp hp
  rcases List.eq_nil_or_concat' p.path with hpath | ⟨path, i, hpath⟩
  · rw [hpath, h] at haround
    cases haround
  · rw [hpath, follow?_concat] at hat
    obtain ⟨d', hd', hat⟩ := Option.bind_eq_some_iff.mp hat
    rw [hpath, h, passed_concat hd', List.cons.injEq] at haround
    obtain ⟨rfl, rfl⟩ := haround
    exact ⟨path, i, hpath, mk_mem_places_iff.mpr ⟨hd', rfl⟩, hat⟩

/-- Of two places, one on the way to the other, the first one and all around it are around the
second one. -/
theorem around_suffix_of_path {n : Node} {p q : Place} (hp : p ∈ n.places) (hq : q ∈ n.places)
    (h : p.path <+: q.path) (hne : p ≠ q) : p.node :: p.around <:+ q.around := by
  induction n using child_induction generalizing p q with
  | h n ih =>
    rcases mem_places_cons_iff.mp hp with rfl | ⟨i, c, p, hc, hp', rfl⟩
    · rcases mem_places_cons_iff.mp hq with rfl | ⟨j, d, q, -, -, rfl⟩
      · exact absurd rfl hne
      · exact List.suffix_append _ _
    · rcases mem_places_cons_iff.mp hq with rfl | ⟨j, d, q, hd, hq', rfl⟩
      · exact absurd (List.prefix_nil.mp h) (List.cons_ne_nil _ _)
      · obtain ⟨rfl, hpath⟩ := List.cons_prefix_cons.mp h
        obtain rfl : c = d := Option.some.inj (hc.symm.trans hd)
        obtain ⟨between, hbetween⟩ := ih c (List.mem_of_getElem? hc) hp' hq' hpath fun heq =>
          hne (congrArg (Place.below n i) heq)
        refine ⟨between, ?_⟩
        rw [Place.below, Place.below, ← List.cons_append, ← List.append_assoc, hbetween]

/-! ### Their order -/

theorem map_node_placesBelow {cs : List Node} (parent : Node) (i : Nat)
    (h : ∀ c ∈ cs, c.places.map (·.node) = c.preorder) :
    (placesBelow parent i cs).map (·.node) = preorderAll cs := by
  induction cs generalizing i with
  | nil => rfl
  | cons c rest ih =>
    obtain ⟨hc, hrest⟩ := List.forall_mem_cons.mp h
    rw [placesBelow, preorderAll, List.map_append, ih (i + 1) hrest, ← hc, List.map_map]
    rfl

theorem map_node_places (n : Node) : n.places.map (·.node) = n.preorder := by
  induction n using child_induction with
  | h n ih =>
    rw [places_eq, preorder_eq, List.map_cons, map_node_placesBelow n 0 ih]

theorem paths_placesBelow {cs : List Node} (parent : Node) (i : Nat)
    (h : ∀ c ∈ cs, c.places.Pairwise (·.path < ·.path)) :
    (placesBelow parent i cs).Pairwise (·.path < ·.path) := by
  induction cs generalizing i with
  | nil => exact .nil
  | cons c rest ih =>
    obtain ⟨hc, hrest⟩ := List.forall_mem_cons.mp h
    rw [placesBelow, List.pairwise_append, List.pairwise_map]
    refine ⟨hc.imp fun hpq => List.cons_lt_cons_iff.mpr (.inr ⟨rfl, hpq⟩), ih (i + 1) hrest, ?_⟩
    intro p hp q hq
    obtain ⟨p, -, rfl⟩ := List.mem_map.mp hp
    obtain ⟨j, c', q, -, -, rfl⟩ := mem_placesBelow_iff.mp hq
    exact List.cons_lt_cons_iff.mpr (.inl (by omega))

/-- The places of a tree stand in the lexicographic order of their paths. -/
theorem places_sorted (n : Node) : n.places.Pairwise (·.path < ·.path) := by
  induction n using child_induction with
  | h n ih =>
    rw [places_eq, List.pairwise_cons]
    refine ⟨fun q hq => ?_, paths_placesBelow n 0 ih⟩
    obtain ⟨j, c, q, -, -, rfl⟩ := mem_placesBelow_iff.mp hq
    exact List.nil_lt_cons _ _

theorem places_nodup (n : Node) : n.places.Nodup := by
  refine n.places_sorted.imp fun {p q} hlt heq => ?_
  rw [heq] at hlt
  exact List.lt_irrefl _ hlt

end Node

end CodeAtlas
