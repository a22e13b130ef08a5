import CodeAtlas.Issue.Analysis
import CodeAtlas.Proofs.Tree.Place

/-! Trees whose shape is no issue: no function is too long, no code is nested too deeply, and no
function has too many parameters. -/

namespace CodeAtlas.Issue

variable {lang : Language} {tree : Node}

theorem longFunctions_eq_nil_iff :
    longFunctions lang tree = [] ↔
      ∀ n ∈ tree.preorder, n.kind = functionKind lang → n.last ≤ n.first + longFunctionRows := by
  rw [longFunctions, List.filterMap_eq_nil_iff]
  refine forall₂_congr fun n _ => ?_
  simp [longFunction?]

/-! ### Nesting -/

def nests (lang : Language) (n : Node) : Bool := (nestingKinds lang).contains n.kind

/-- Number of nesting nodes on the way to a place, its own node among them. -/
def depthAt (lang : Language) (p : Place) : Nat := (p.node :: p.around).countP (nests lang)

theorem depthAt_below (parent : Node) (i : Nat) (p : Place) :
    depthAt lang (p.below parent i) = [parent].countP (nests lang) + depthAt lang p := by
  rw [depthAt, Place.below, ← List.cons_append, List.countP_append, Nat.add_comm]
  rfl

theorem deepNestingAll_eq_nil_iff {depth : Nat} {cs : List Node} :
    deepNestingAll lang depth cs = [] ↔ ∀ c ∈ cs, deepNestingFrom lang depth c = [] := by
  induction cs with
  | nil => simp [deepNestingAll]
  | cons c cs ih => rw [deepNestingAll, List.append_eq_nil_iff, ih, List.forall_mem_cons]

/-- One level of the walk: the node itself counts, and then its children are looked at. -/
theorem deepNestingFrom_step (depth : Nat) (n : Node) :
    deepNestingFrom lang depth n =
      if maxDepth < depth + [n].countP (nests lang) then
        [⟨lang, .deepNesting (depth + [n].countP (nests lang)) (n.first + 1) (n.last + 1)⟩]
      else deepNestingAll lang (depth + [n].countP (nests lang)) n.children := by
  obtain ⟨kind, first, last, text, roles, children⟩ := n
  have hdepth : (if (nestingKinds lang).contains kind = true then depth + 1 else depth) =
      depth + [Node.mk kind first last text roles children].countP (nests lang) := by
    rw [List.countP_singleton, nests, Node.kind]
    split <;> rfl
  rw [deepNestingFrom, hdepth]
  rfl

theorem deepNestingFrom_eq_nil_iff_children {depth : Nat} {n : Node} :
    deepNestingFrom lang depth n = [] ↔
      depth + [n].countP (nests lang) ≤ maxDepth ∧
        ∀ c ∈ n.children, deepNestingFrom lang (depth + [n].countP (nests lang)) c = [] := by
  rw [deepNestingFrom_step]
  split
  next hdeep => exact iff_of_false (List.cons_ne_nil _ _) fun h => Nat.not_le_of_lt hdeep h.1
  next hdeep => rw [deepNestingAll_eq_nil_iff, and_iff_right (Nat.le_of_not_lt hdeep)]

/-- Nothing is reported just when no place has too many nesting nodes on the way to it. -/
theorem deepNestingFrom_eq_nil_iff {depth : Nat} (n : Node) :
    deepNestingFrom lang depth n = [] ↔
      ∀ p ∈ n.places, depth + depthAt lang p ≤ maxDepth := by
  induction n using Node.child_induction generalizing depth with
  | h n ih =>
    rw [deepNestingFrom_eq_nil_iff_children]
    constructor
    · rintro ⟨hroot, hchildren⟩ p hp
      rcases Node.mem_places_cons_iff.mp hp with rfl | ⟨i, c, q, hc, hq, rfl⟩
      · exact hroot
      · have hmem := List.mem_of_getElem? hc
        rw [depthAt_below, ← Nat.add_assoc]
        exact (ih c hmem).mp (hchildren c hmem) q hq
    · intro h
      refine ⟨h _ (Node.mem_places_cons_iff.mpr (.inl rfl)), fun c hc => ?_⟩
      refine (ih c hc).mpr fun q hq => ?_
      obtain ⟨i, hi⟩ := List.mem_iff_getElem?.mp hc
      have hbelow := h _ (Node.mem_places_cons_iff.mpr (.inr ⟨i, c, q, hi, hq, rfl⟩))
      rwa [depthAt_below, ← Nat.add_assoc] at hbelow

theorem deepNesting_eq_nil_iff :
    deepNesting lang tree = [] ↔ ∀ p ∈ tree.places, depthAt lang p ≤ maxDepth := by
  rw [deepNesting, deepNestingFrom_eq_nil_iff]
  simp only [Nat.zero_add]

/-! ### Parameters -/

/-- The parameter list of a function: the first that it has. -/
def ParamList (lang : Language) (n ps : Node) : Prop :=
  n.kind = functionKind lang ∧ n.children.find? (·.kind = (paramKinds lang).1) = some ps

theorem paramCount?_eq_some_iff {n : Node} {count : Nat} :
    paramCount? lang n = some count ↔
      ∃ ps, ParamList lang n ps ∧ ps.children.countP (·.kind = (paramKinds lang).2) = count := by
  simp [paramCount?, ParamList, List.countP_eq_length_filter, and_assoc]

theorem manyParams?_eq_none_iff {n : Node} :
    manyParams? lang n = none ↔ ∀ count, paramCount? lang n = some count → count ≤ maxParams := by
  rw [manyParams?]
  cases paramCount? lang n <;> simp

theorem manyParams_eq_nil_iff :
    manyParams lang tree = [] ↔
      ∀ n ∈ tree.preorder, ∀ ps, ParamList lang n ps →
        ps.children.countP (·.kind = (paramKinds lang).2) ≤ maxParams := by
  simp only [manyParams, List.filterMap_eq_nil_iff, manyParams?_eq_none_iff,
    paramCount?_eq_some_iff, forall_exists_index, and_imp, forall_apply_eq_imp_iff₂]

/-! ### All three -/

/-- Nothing about the shape of a tree is an issue. -/
structure WellShaped (lang : Language) (tree : Node) : Prop where
  short : ∀ n ∈ tree.preorder, n.kind = functionKind lang → n.last ≤ n.first + longFunctionRows
  shallow : ∀ p ∈ tree.places, depthAt lang p ≤ maxDepth
  fewParams : ∀ n ∈ tree.preorder, ∀ ps, ParamList lang n ps →
    ps.children.countP (·.kind = (paramKinds lang).2) ≤ maxParams

theorem shapeIssues_eq_nil_iff : shapeIssues lang tree = [] ↔ WellShaped lang tree := by
  rw [shapeIssues, List.append_eq_nil_iff, List.append_eq_nil_iff, longFunctions_eq_nil_iff,
    deepNesting_eq_nil_iff, manyParams_eq_nil_iff]
  constructor
  · rintro ⟨⟨hshort, hshallow⟩, hfew⟩
    exact ⟨hshort, hshallow, hfew⟩
  · rintro ⟨hshort, hshallow, hfew⟩
    exact ⟨⟨hshort, hshallow⟩, hfew⟩

end CodeAtlas.Issue
