import CodeAtlas.Proofs.Issue.Shape

/-! Which nodes are reported as nested too deeply. The walk stops at a node that it reports, so what
is reported are the outermost offenders: nesting nodes with as many nesting nodes around them as
code may have. No two of them stand one inside the other, and all that is nested too deeply stands
inside one of them. -/

namespace CodeAtlas.Issue

variable {lang : Language} {tree : Node} {depth : Nat} {p q r : Place}

/-- The node itself nests code, and the nodes around it, below `depth` others, use up what code
may have. -/
def outermostBelow (lang : Language) (depth : Nat) (p : Place) : Bool :=
  nests lang p.node && depth + p.around.countP (nests lang) == maxDepth

theorem outermostBelow_iff : outermostBelow lang depth p = true ↔
    nests lang p.node = true ∧ depth + p.around.countP (nests lang) = maxDepth := by
  rw [outermostBelow, Bool.and_eq_true, beq_iff_eq]

theorem depthAt_of_outermostBelow (h : outermostBelow lang depth p = true) :
    depth + depthAt lang p = maxDepth + 1 := by
  obtain ⟨hnests, haround⟩ := outermostBelow_iff.mp h
  rw [depthAt, List.countP_cons_of_pos hnests, ← haround, Nat.add_assoc]

/-- A node around a place counts like one more level above it. -/
theorem outermostBelow_below (parent : Node) (i : Nat) (p : Place) :
    outermostBelow lang depth (p.below parent i) =
      outermostBelow lang (depth + [parent].countP (nests lang)) p := by
  rw [outermostBelow, outermostBelow, Place.below, List.countP_append, Nat.add_assoc,
    Nat.add_comm (List.countP _ [parent])]

/-! ### What is reported -/

/-- The report on a place. -/
def nestingIssue (lang : Language) (p : Place) : Issue :=
  ⟨lang, .deepNesting (maxDepth + 1) (p.node.first + 1) (p.node.last + 1)⟩

theorem deepNestingAll_eq {parent : Node} {d : Nat} {cs : List Node} (i : Nat)
    (hd : d = depth + [parent].countP (nests lang))
    (h : ∀ c ∈ cs, deepNestingFrom lang d c =
      (c.places.filter (outermostBelow lang d)).map (nestingIssue lang)) :
    deepNestingAll lang d cs =
      ((Node.placesBelow parent i cs).filter (outermostBelow lang depth)).map
        (nestingIssue lang) := by
  induction cs generalizing i with
  | nil => rfl
  | cons c cs ih =>
    obtain ⟨hc, hcs⟩ := List.forall_mem_cons.mp h
    have htest : outermostBelow lang depth ∘ Place.below parent i = outermostBelow lang d := by
      funext p
      rw [hd]
      exact outermostBelow_below parent i p
    rw [deepNestingAll, Node.placesBelow, List.filter_append, List.map_append, List.filter_map,
      htest, List.map_map, hc, ih (i + 1) hcs]
    rfl

/-- The walk reports the outermost offenders. As long as nothing is reported the depth is one that
code may have, so where it is exceeded it is exceeded by one. -/
theorem deepNestingFrom_eq (hdepth : depth ≤ maxDepth) (n : Node) :
    deepNestingFrom lang depth n =
      (n.places.filter (outermostBelow lang depth)).map (nestingIssue lang) := by
  induction n using Node.child_induction generalizing depth with
  | h n ih =>
    have hcount : [n].countP (nests lang) = if nests lang n = true then 1 else 0 :=
      List.countP_singleton
    rw [deepNestingFrom_step, Node.places_eq]
    split
    next hdeep =>
      have hnests : nests lang n = true := by
        by_contra hnot
        rw [hcount, if_neg hnot] at hdeep
        omega
      have hmax : depth = maxDepth := by
        rw [hcount, if_pos hnests] at hdeep
        omega
      have hroot : outermostBelow lang depth ⟨[], n, []⟩ = true :=
        outermostBelow_iff.mpr ⟨hnests, hmax⟩
      -- Below the node there is more around a place than an outermost offender has.
      have hbelow : ∀ p ∈ Node.placesBelow n 0 n.children, ¬ outermostBelow lang depth p = true := by
        intro p hp htest
        obtain ⟨j, c, q, -, -, rfl⟩ := Node.mem_placesBelow_iff.mp hp
        rw [outermostBelow_below, outermostBelow_iff, hcount, if_pos hnests] at htest
        omega
      rw [List.filter_cons_of_pos hroot, List.filter_eq_nil_iff.mpr hbelow, hcount, if_pos hnests,
        hmax]
      rfl
    next hdeep =>
      have hroot : ¬ outermostBelow lang depth ⟨[], n, []⟩ = true := by
        intro htest
        obtain ⟨hnests, hmax⟩ := outermostBelow_iff.mp htest
        rw [hcount, if_pos hnests] at hdeep
        exact hdeep (by simp only [List.countP_nil] at hmax; omega)
      rw [List.filter_cons_of_neg hroot]
      exact deepNestingAll_eq 0 rfl fun c hc => ih c hc (Nat.le_of_not_lt hdeep)

/-- The outermost offenders of a tree, in preorder. -/
def outermost (lang : Language) (tree : Node) : List Place :=
  tree.places.filter fun p =>
    nests lang p.node ∧ p.around.countP (nests lang) = maxDepth

theorem mem_outermost_iff : p ∈ outermost lang tree ↔
    p ∈ tree.places ∧ outermostBelow lang 0 p = true := by
  rw [outermost, List.mem_filter, decide_eq_true_iff, outermostBelow_iff, Nat.zero_add]

theorem deepNesting_eq :
    deepNesting lang tree = (outermost lang tree).map (nestingIssue lang) := by
  have htest : outermostBelow lang 0 =
      fun p => decide (nests lang p.node ∧ p.around.countP (nests lang) = maxDepth) := by
    funext p
    rw [Bool.eq_iff_iff, decide_eq_true_iff, outermostBelow_iff, Nat.zero_add]
  rw [deepNesting, deepNestingFrom_eq (Nat.zero_le _), htest, outermost]

/-! ### One inside the other -/

/-- An offender has fewer nesting nodes around it than on the way to another one. -/
theorem eq_of_outermost_of_path (hp : p ∈ outermost lang tree) (hq : q ∈ outermost lang tree)
    (h : p.path <+: q.path) : p = q := by
  obtain ⟨hp, hp'⟩ := mem_outermost_iff.mp hp
  obtain ⟨hq, hq'⟩ := mem_outermost_iff.mp hq
  by_contra hne
  have hinside : (p.node :: p.around).countP (nests lang) ≤ q.around.countP (nests lang) :=
    (Node.around_suffix_of_path hp hq h hne).sublist.countP_le
  have hdepth := depthAt_of_outermostBelow hp'
  have haround := (outermostBelow_iff.mp hq').2
  rw [depthAt] at hdepth
  omega

/-- On the way to a place that is nested too deeply there is an offender. -/
theorem exists_outermostBelow (hdepth : depth ≤ maxDepth) (hp : p ∈ tree.places)
    (hdeep : maxDepth < depth + depthAt lang p) :
    ∃ r ∈ tree.places, outermostBelow lang depth r = true ∧ r.path <+: p.path := by
  induction tree using Node.child_induction generalizing depth p with
  | h n ih =>
    have hcount : [n].countP (nests lang) = if nests lang n = true then 1 else 0 :=
      List.countP_singleton
    by_cases hroot : maxDepth < depth + [n].countP (nests lang)
    · refine ⟨⟨[], n, []⟩, Node.mem_places_cons_iff.mpr (.inl rfl), ?_, List.nil_prefix⟩
      rw [hcount] at hroot
      split at hroot
      next hnests => exact outermostBelow_iff.mpr ⟨hnests, by simp only [List.countP_nil]; omega⟩
      next => omega
    · rcases Node.mem_places_cons_iff.mp hp with rfl | ⟨i, c, q, hc, hq, rfl⟩
      · exact absurd hdeep hroot
      · rw [depthAt_below, ← Nat.add_assoc] at hdeep
        obtain ⟨r, hr, htest, hpath⟩ :=
          ih c (List.mem_of_getElem? hc) (Nat.le_of_not_lt hroot) hq hdeep
        refine ⟨r.below n i, Node.mem_places_cons_iff.mpr (.inr ⟨i, c, r, hc, hr, rfl⟩), ?_, ?_⟩
        · rw [outermostBelow_below, htest]
        · exact List.cons_prefix_cons.mpr ⟨rfl, hpath⟩

theorem depthAt_mono (hp : p ∈ tree.places) (hq : q ∈ tree.places) (h : p.path <+: q.path) :
    depthAt lang p ≤ depthAt lang q := by
  by_cases heq : p = q
  · rw [heq]
  · have hinside := Node.around_suffix_of_path hp hq h heq
    exact (hinside.trans (List.suffix_cons _ _)).sublist.countP_le

/-- A place is nested too deeply just when it is inside an offender, and then inside one only. -/
theorem deep_iff_existsUnique (hp : p ∈ tree.places) :
    maxDepth < depthAt lang p ↔ ∃! r, r ∈ outermost lang tree ∧ r.path <+: p.path := by
  constructor
  · intro hdeep
    obtain ⟨r, hr, htest, hpath⟩ :=
      exists_outermostBelow (Nat.zero_le _) hp (by rwa [Nat.zero_add])
    have hmem := mem_outermost_iff.mpr ⟨hr, htest⟩
    refine ⟨r, ⟨hmem, hpath⟩, ?_⟩
    rintro r' ⟨hmem', hpath'⟩
    rcases List.prefix_or_prefix_of_prefix hpath hpath' with h | h
    · exact (eq_of_outermost_of_path hmem hmem' h).symm
    · exact eq_of_outermost_of_path hmem' hmem h
  · rintro ⟨r, ⟨hmem, hpath⟩, -⟩
    obtain ⟨hr, htest⟩ := mem_outermost_iff.mp hmem
    have hdepth := depthAt_of_outermostBelow htest
    have hle : depthAt lang r ≤ depthAt lang p := depthAt_mono hr hp hpath
    omega

/-- The reports are those on the outermost offenders, in preorder. None of these is inside
another one, what is nested too deeply is what is inside just one of them, and all messages tell
the same depth. -/
theorem deepNesting_reports_outermost (lang : Language) (tree : Node) :
    deepNesting lang tree = (outermost lang tree).map (nestingIssue lang) ∧
      (outermost lang tree).Pairwise (fun p q => ¬ p.path <+: q.path ∧ ¬ q.path <+: p.path) ∧
      (∀ p ∈ tree.places, maxDepth < depthAt lang p ↔
        ∃! r, r ∈ outermost lang tree ∧ r.path <+: p.path) ∧
      ∀ i ∈ deepNesting lang tree,
        i.message = "Code nested too deeply (depth=" ++ toString (maxDepth + 1) ++ ")." := by
  refine ⟨deepNesting_eq, ?_, fun p hp => deep_iff_existsUnique hp, fun i hi => ?_⟩
  · have hnodup : (outermost lang tree).Nodup := tree.places_nodup.filter _
    refine hnodup.imp_of_mem fun {p q} hp hq hne => ⟨fun h => ?_, fun h => ?_⟩
    · exact hne (eq_of_outermost_of_path hp hq h)
    · exact hne (eq_of_outermost_of_path hq hp h).symm
  · rw [deepNesting_eq] at hi
    obtain ⟨p, -, rfl⟩ := List.mem_map.mp hi
    rfl

end CodeAtlas.Issue
