import CodeAtlas.Proofs.Graph.Network
import CodeAtlas.Proofs.Graph.Scope

/-! The part of a network that belongs to a project: the nodes of the project and the edges between
them. Statements that name the project are answered from that part if no edge crosses its border.
A statement that names a class and a method of the part, but no project, is answered from it if
moreover nothing elsewhere has these names. -/

namespace CodeAtlas.Graph

open Network (isIn)

/-! ### The part -/

def Store.only (s : Store) (project : Json) : Store :=
  ⟨s.nodes.filter (isIn project ·.2), []⟩

theorem Store.Distinct.only {s : Store} (h : s.Distinct) (project : Json) :
    (s.only project).Distinct :=
  (List.filter_sublist.map _).nodup h

theorem Store.Distinct.get?_only {s : Store} (h : s.Distinct) (project : Json) (id : String) :
    (s.only project).get? id = (s.get? id).filter (isIn project) := by
  ext n
  rw [(h.only project).get?_eq_some_iff, Option.filter_eq_some_iff, h.get?_eq_some_iff]
  exact List.mem_filter

namespace Network

/-- A node with this id is there, and it belongs to the project. -/
def holds (g : Network) (project : Json) (id : String) : Bool :=
  (g.store.get? id).any (isIn project)

def only (g : Network) (project : Json) : Network where
  store := g.store.only project
  edges := g.edges.filter fun e => e.source.node?.any (g.holds project) && g.holds project e.target
  distinct := g.distinct.only project
  anchored := by
    have hnode : ∀ id, g.holds project id = true →
        (g.store.only project).has (.node (.string id)) = true := by
      intro id hid
      rw [Store.has, Json.string?, Option.bind_some, g.distinct.get?_only, Option.isSome_filter]
      exact hid
    intro e he x hx
    obtain ⟨-, hends⟩ := List.mem_filter.mp he
    obtain ⟨hsource, htarget⟩ := Bool.and_eq_true_iff.mp hends
    rcases List.mem_cons.mp hx with rfl | hx
    · cases hs : e.source with
      | node id =>
        rw [hs] at hsource
        exact hnode id hsource
      | project name =>
        rw [hs] at hsource
        cases hsource
    · rw [List.mem_singleton.mp hx]
      exact hnode _ htarget

/-- The node stands in no class of the project, or in one that has no name. -/
def isLoose (g : Network) (project : Json) (id : String) : Bool :=
  (g.classesAround project id).isEmpty ||
    (g.classesAround project id).any fun c => !(c.2.getOrNull "node_name").truthy

/-- A class of this name is there, if one is named, and otherwise a method or function of this
name outside classes. -/
def HasMember (g : Network) (project cls method : Json) : Prop :=
  (cls.truthy = true → ∃ c ∈ g.store.nodes, Link.hasKind ["class"] c.2 = true ∧
    c.2.getOrNull "node_name" = cls) ∧
  (cls.truthy = false → ∃ m ∈ g.store.nodes, Link.hasKind methodKinds m.2 = true ∧
    g.isLoose project m.1 = true ∧ m.2.getOrNull "node_name" = method)

/-- The project stands apart: no edge leads into it or out of it, no class elsewhere is named
like one of its classes, and no function elsewhere like one of its functions outside classes. -/
structure Apart (g : Network) (project : Json) : Prop where
  border : ∀ e ∈ g.edges, ∀ a ∈ e.source.node?, g.holds project a = g.holds project e.target
  classes : ∀ c ∈ (g.only project).store.nodes, Link.hasKind ["class"] c.2 = true →
    ∀ d ∈ g.classesNamed (c.2.getOrNull "node_name"), isIn project d.2 = true
  functions : ∀ m ∈ (g.only project).store.nodes, Link.hasKind methodKinds m.2 = true →
    (g.only project).isLoose project m.1 = true →
    ∀ f ∈ g.members .null (m.2.getOrNull "node_name"), isIn project f.2 = true

instance (g : Network) (project : Json) : Decidable (g.Apart project) :=
  decidable_of_iff
    ((∀ e ∈ g.edges, ∀ a ∈ e.source.node?, g.holds project a = g.holds project e.target) ∧
      (∀ c ∈ (g.only project).store.nodes, Link.hasKind ["class"] c.2 = true →
        ∀ d ∈ g.classesNamed (c.2.getOrNull "node_name"), isIn project d.2 = true) ∧
      ∀ m ∈ (g.only project).store.nodes, Link.hasKind methodKinds m.2 = true →
        (g.only project).isLoose project m.1 = true →
        ∀ f ∈ g.members .null (m.2.getOrNull "node_name"), isIn project f.2 = true)
    ⟨fun ⟨hb, hc, hf⟩ => ⟨hb, hc, hf⟩, fun ⟨hb, hc, hf⟩ => ⟨hb, hc, hf⟩⟩

variable {g : Network} {project : Json}

theorem holds_of_mem {n : String × Fields} (hn : n ∈ g.store.nodes) :
    g.holds project n.1 = isIn project n.2 := by
  rw [holds, g.distinct.get?_eq_some_iff.mpr hn, Option.any_some]

theorem mem_nodesAt {ids : List String} {n : String × Fields} (hn : n ∈ g.nodesAt ids) :
    n.1 ∈ ids ∧ n ∈ g.store.nodes := by
  obtain ⟨id, hid, hget⟩ := List.mem_filterMap.mp hn
  obtain ⟨m, hm, rfl⟩ := Option.map_eq_some_iff.mp hget
  exact ⟨hid, g.distinct.get?_eq_some_iff.mp hm⟩

/-- A filter that only the project's nodes can pass may be applied to the part. -/
theorem filter_only {test test' : String × Fields → Bool}
    (hpart : ∀ n ∈ g.store.nodes, isIn project n.2 = true → test n = test' n)
    (hin : ∀ n ∈ g.store.nodes, test' n = true → isIn project n.2 = true) :
    (g.only project).store.nodes.filter test = g.store.nodes.filter test' := by
  refine List.filter_filter.trans (List.filter_congr fun n hn => ?_)
  cases hn' : isIn project n.2 with
  | true => rw [Bool.and_true, hpart n hn hn']
  | false =>
    rw [Bool.and_false]
    refine (Bool.eq_false_iff.mpr fun htest => ?_).symm
    rw [hin n hn htest] at hn'
    cases hn'

theorem nodesAt_only {ids : List String} (hids : ∀ id ∈ ids, g.holds project id = true) :
    (g.only project).nodesAt ids = g.nodesAt ids := by
  refine List.filterMap_congr fun id hid => ?_
  obtain ⟨n, hn, hin⟩ := (Option.any_eq_true _ _).mp (hids id hid)
  change ((g.store.only project).get? id).map _ = _
  rw [g.distinct.get?_only, hn, Option.filter_some, if_pos hin]

/-! ### Along the edges -/

section Apart
variable (hg : g.Apart project)
include hg

theorem Apart.holds_of_mem_next {test : Edge → Bool} {id m : String}
    (hid : g.holds project id = true) (hm : m ∈ g.next test id) : g.holds project m = true := by
  obtain ⟨e, he, hsource, -, rfl⟩ := g.mem_next_iff.mp hm
  rw [← hg.border e he id (congrArg Holder.node? hsource)]
  exact hid

theorem Apart.holds_of_mem_previous {test : Edge → Bool} {id m : String}
    (hid : g.holds project id = true) (hm : m ∈ g.previous test id) :
    g.holds project m = true := by
  obtain ⟨e, he, hsource⟩ := List.mem_filterMap.mp hm
  obtain ⟨he, htest⟩ := List.mem_filter.mp he
  obtain ⟨htarget, -⟩ := Bool.and_eq_true_iff.mp htest
  rw [hg.border e he m hsource, of_decide_eq_true htarget]
  exact hid

theorem Apart.next_only {id : String} (hid : g.holds project id = true) (test : Edge → Bool) :
    (g.only project).next test id = g.next test id := by
  refine congrArg _ (List.filter_filter.trans (List.filter_congr fun e he => ?_))
  by_cases hs : e.source = .node id
  · have htarget := (hg.border e he id (congrArg Holder.node? hs)).symm.trans hid
    rw [hs, htarget, Holder.node?, Option.any_some, hid, Bool.and_true, Bool.and_true]
  · rw [decide_eq_false hs, Bool.false_and, Bool.false_and]

theorem Apart.previous_only {id : String} (hid : g.holds project id = true) (test : Edge → Bool) :
    (g.only project).previous test id = g.previous test id := by
  unfold previous
  change ((g.edges.filter _).filter _).filterMap _ = _
  rw [List.filter_filter, List.filterMap_filter, List.filterMap_filter]
  refine List.filterMap_congr fun e he => ?_
  by_cases ht : e.target = id
  · cases hs : e.source.node? with
    | some a =>
      have hsource := (hg.border e he a hs).trans (ht ▸ hid)
      rw [ht, Option.any_some, hsource, hid, Bool.and_true, Bool.and_true]
    | none => rw [ite_self, ite_self]
  · rw [decide_eq_false ht, Bool.false_and, Bool.false_and]

theorem Apart.nodesAt_next {id : String} (hid : g.holds project id = true) (test : Edge → Bool) :
    (g.only project).nodesAt ((g.only project).next test id) = g.nodesAt (g.next test id) := by
  rw [hg.next_only hid]
  exact nodesAt_only fun m hm => hg.holds_of_mem_next hid hm

theorem Apart.classesAround_only {id : String} (hid : g.holds project id = true) :
    (g.only project).classesAround project id = g.classesAround project id := by
  rw [classesAround, hg.previous_only hid, classesAround,
    nodesAt_only fun m hm => hg.holds_of_mem_previous hid hm]

/-! ### Statements that name the project -/

theorem Apart.answer_of_scoped {q : Query} (hq : q.Scoped project) :
    (g.only project).answer q = g.answer q := by
  cases hq with
  | methods cls =>
    simp only [answer]
    split
    · have hclasses : ((g.only project).classesNamed cls).filter (isIn project ·.2) =
          (g.classesNamed cls).filter (isIn project ·.2) := by
        rw [classesNamed, List.filter_filter, classesNamed, List.filter_filter]
        exact filter_only (fun _ _ _ => rfl) fun c _ hc => (Bool.and_eq_true_iff.mp hc).1
      rw [hclasses]
      refine List.flatMap_congr fun c hc => ?_
      obtain ⟨hnamed, hin⟩ := List.mem_filter.mp hc
      have hc : g.holds project c.1 = true :=
        (holds_of_mem (List.mem_filter.mp hnamed).1).trans hin
      rw [parts, hg.nodesAt_next hc, parts]
    · refine congrArg _ (filter_only (fun m hm hin => ?_) fun m _ hm => ?_)
      · rw [hg.classesAround_only ((holds_of_mem hm).trans hin)]
      · exact (Bool.and_eq_true_iff.mp (Bool.and_eq_true_iff.mp hm).1).1
  | classOfMethod method =>
    simp only [answer]
    rw [filter_only (fun _ _ _ => rfl) fun c _ hc => (Bool.and_eq_true_iff.mp hc).2]
    refine congrArg _ (List.flatMap_congr fun c hc => ?_)
    obtain ⟨hmem, htest⟩ := List.mem_filter.mp hc
    have hc : g.holds project c.1 = true :=
      (holds_of_mem hmem).trans (Bool.and_eq_true_iff.mp htest).2
    rw [parts, hg.nodesAt_next hc, parts]
  | methodNode method =>
    simp only [answer]
    have hin : ∀ m : String × Fields, (isIn project m.2 && isNamed method m.2 &&
        Link.hasKind methodKinds m.2) = true → isIn project m.2 = true := fun m hm =>
      (Bool.and_eq_true_iff.mp (Bool.and_eq_true_iff.mp hm).1).1
    rw [filter_only (fun _ _ _ => rfl) fun m _ hm => hin m hm]
    refine congrArg _ (List.flatMap_congr fun m hm => ?_)
    obtain ⟨hmem, htest⟩ := List.mem_filter.mp hm
    rw [hg.classesAround_only ((holds_of_mem hmem).trans (hin m htest))]

/-! ### Statements that name a class or a method -/

variable {cls method : Json} (h : (g.only project).HasMember project cls method)
include h

theorem Apart.isIn_of_mem_classesNamed (hcls : cls.truthy = true) {c : String × Fields}
    (hc : c ∈ g.classesNamed cls) : isIn project c.2 = true := by
  obtain ⟨d, hd, hkind, rfl⟩ := h.1 hcls
  exact hg.classes d hd hkind c hc

theorem Apart.classesNamed_only (hcls : cls.truthy = true) :
    (g.only project).classesNamed cls = g.classesNamed cls :=
  filter_only (fun _ _ _ => rfl) fun _ hc htest =>
    hg.isIn_of_mem_classesNamed h hcls (List.mem_filter.mpr ⟨hc, htest⟩)

theorem Apart.holds_of_mem_members {m : String × Fields} (hm : m ∈ g.members cls method) :
    g.holds project m.1 = true := by
  unfold members at hm
  split at hm
  next hcls =>
    obtain ⟨c, hc, hm⟩ := List.mem_flatMap.mp (List.mem_filter.mp hm).1
    have hin := hg.isIn_of_mem_classesNamed h hcls hc
    exact hg.holds_of_mem_next ((holds_of_mem (List.mem_filter.mp hc).1).trans hin)
      (mem_nodesAt hm).1
  next hcls =>
    obtain ⟨n, hn, hkind, hloose, rfl⟩ := h.2 (Bool.eq_false_iff.mpr hcls)
    rw [holds_of_mem (List.mem_filter.mp hm).1]
    exact hg.functions n hn hkind hloose m hm

theorem Apart.members_only :
    (g.only project).members cls method = g.members cls method := by
  by_cases hcls : cls.truthy = true
  · rw [members, if_pos hcls, members, if_pos hcls, hg.classesNamed_only h hcls]
    refine congrArg _ (List.flatMap_congr fun c hc => ?_)
    have hin := hg.isIn_of_mem_classesNamed h hcls hc
    exact hg.nodesAt_next ((holds_of_mem (List.mem_filter.mp hc).1).trans hin) _
  · rw [members, if_neg hcls, members, if_neg hcls]
    refine filter_only (fun _ _ _ => rfl) fun m hm htest => ?_
    rw [← holds_of_mem hm]
    refine hg.holds_of_mem_members h ?_
    rw [members, if_neg hcls]
    exact List.mem_filter.mpr ⟨hm, htest⟩

theorem Apart.answer_of_unscoped {q : Query} (hq : q.Unscoped cls method) :
    (g.only project).answer q = g.answer q := by
  have hmember : ∀ m ∈ g.members cls method, g.holds project m.1 = true := fun _ hm =>
    hg.holds_of_mem_members h hm
  cases hq with
  | calledFromOutside =>
    simp only [answer, hg.members_only h]
    refine congrArg (fun b => [Store.record "called_externally" (.bool b)]) ?_
    rw [Bool.eq_iff_iff, List.any_eq_true, List.any_eq_true]
    refine exists_congr fun m => and_congr_right fun hm => ?_
    rw [hg.previous_only (hmember m hm), List.any_eq_true, List.any_eq_true]
    refine exists_congr fun caller => and_congr_right fun hcaller => ?_
    rw [parts, hg.next_only (hg.holds_of_mem_previous (hmember m hm) hcaller), parts]
  | collaborators hcls =>
    have huses : (g.classesNamed cls).flatMap
          (fun c => ((g.only project).parts c.1).flatMap (g.only project).dependencies) =
        (g.classesNamed cls).flatMap fun c => (g.parts c.1).flatMap g.dependencies := by
      refine List.flatMap_congr fun c hc => ?_
      have hc : g.holds project c.1 = true := (holds_of_mem (List.mem_filter.mp hc).1).trans
        (hg.isIn_of_mem_classesNamed h hcls hc)
      rw [parts, hg.next_only hc, parts]
      exact List.flatMap_congr fun m hm => hg.nodesAt_next (hg.holds_of_mem_next hc hm) _
    simp only [answer, hg.classesNamed_only h hcls, huses]
  | dependenciesOf =>
    have huses : ((g.members cls method).filter (Link.hasKind methodKinds ·.2)).flatMap
          (fun m => (g.only project).dependencies m.1) =
        ((g.members cls method).filter (Link.hasKind methodKinds ·.2)).flatMap
          fun m => g.dependencies m.1 :=
      List.flatMap_congr fun m hm => hg.nodesAt_next (hmember m (List.mem_filter.mp hm).1) _
    simp only [answer, hg.members_only h, huses]

end Apart

/-! ### Methods that are found -/

theorem isMethodKind_of_function {n : Fields} (h : Link.hasKind ["function"] n = true) :
    Link.hasKind methodKinds n = true := by
  unfold Link.hasKind Link.isOneOf at h ⊢
  split at h
  · simp_all [methodKinds]
  · cases h

theorem mem_classesAround {c : String × Fields} {id : String} (hc : c ∈ g.store.nodes)
    (hkind : Link.hasKind ["class"] c.2 = true) (hin : isIn project c.2 = true)
    (hid : id ∈ g.parts c.1) : c ∈ g.classesAround project id := by
  obtain ⟨e, he, hsource, hpart, rfl⟩ := g.mem_next_iff.mp hid
  have hprevious : c.1 ∈ g.previous isPart e.target := by
    refine List.mem_filterMap.mpr ⟨e, List.mem_filter.mpr ⟨he, ?_⟩, congrArg Holder.node? hsource⟩
    rw [hpart, decide_eq_true rfl, Bool.and_true]
  have hnode : c ∈ g.nodesAt (g.previous isPart e.target) := by
    refine List.mem_filterMap.mpr ⟨c.1, hprevious, ?_⟩
    rw [g.distinct.get?_eq_some_iff.mpr hc]
    rfl
  refine List.mem_filter.mpr ⟨hnode, ?_⟩
  rw [hkind, hin, Bool.and_true]

/-- A method of a class that has no name. -/
theorem isLoose_of_mem_classesAround {c : String × Fields} {id : String}
    (hc : c ∈ g.classesAround project id) (hname : (c.2.getOrNull "node_name").truthy = false) :
    g.isLoose project id = true := by
  refine Bool.or_eq_true_iff.mpr (.inr (List.any_eq_true.mpr ⟨c, hc, ?_⟩))
  rw [hname, Bool.not_false]

/-- What is found by looking for methods is there, with its class. -/
theorem hasMember_of_mem_answer {q : Query} (hq : q.Scoped project) {r : Fields}
    (hr : r ∈ g.answer q) (htells : q.TellsMethod r) :
    g.HasMember project (r.getOrNull "class_name") (r.getOrNull "method_name") := by
  cases hq with
  | methods cls =>
    simp only [answer] at hr
    split at hr
    · obtain ⟨c, hc, hr⟩ := List.mem_flatMap.mp hr
      obtain ⟨hc, hin⟩ := List.mem_filter.mp hc
      obtain ⟨hc, hnamed⟩ := List.mem_filter.mp hc
      have hkind := (Bool.and_eq_true_iff.mp hnamed).1
      split at hr
      · -- A class without methods.
        rw [List.mem_singleton.mp hr] at htells
        cases htells
      · obtain ⟨m, hm, rfl⟩ := List.mem_map.mp hr
        obtain ⟨hm, hmethod⟩ := List.mem_filter.mp hm
        obtain ⟨hpart, hm⟩ := mem_nodesAt hm
        exact ⟨fun _ => ⟨c, hc, hkind, rfl⟩, fun hname => ⟨m, hm, hmethod,
          isLoose_of_mem_classesAround (mem_classesAround hc hkind hin hpart) hname, rfl⟩⟩
    · obtain ⟨m, hm, rfl⟩ := List.mem_map.mp hr
      obtain ⟨hm, htest⟩ := List.mem_filter.mp hm
      obtain ⟨htest, hempty⟩ := Bool.and_eq_true_iff.mp htest
      have hmethod := isMethodKind_of_function (Bool.and_eq_true_iff.mp htest).2
      exact ⟨nofun, fun _ => ⟨m, hm, hmethod, Bool.or_eq_true_iff.mpr (.inl hempty), rfl⟩⟩
  | classOfMethod method => exact htells.elim
  | methodNode method =>
    obtain ⟨m, hm, hr⟩ := List.mem_flatMap.mp (List.mem_of_mem_take hr)
    obtain ⟨hm, htest⟩ := List.mem_filter.mp hm
    have hmethod := (Bool.and_eq_true_iff.mp htest).2
    dsimp only at hr
    split at hr
    next hempty =>
      rw [List.mem_singleton.mp hr]
      exact ⟨nofun, fun _ => ⟨m, hm, hmethod, Bool.or_eq_true_iff.mpr (.inl hempty), rfl⟩⟩
    next =>
      obtain ⟨c, hc, rfl⟩ := List.mem_map.mp hr
      obtain ⟨hnode, hclass⟩ := List.mem_filter.mp hc
      have hkind := (Bool.and_eq_true_iff.mp hclass).1
      exact ⟨fun _ => ⟨c, (mem_nodesAt hnode).2, hkind, rfl⟩, fun hname =>
        ⟨m, hm, hmethod, isLoose_of_mem_classesAround hc hname, rfl⟩⟩

end Network

end CodeAtlas.Graph
