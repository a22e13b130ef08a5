import CodeAtlas.Proofs.Ingest.Site
import CodeAtlas.Proofs.Outcome
import CodeAtlas.Proofs.Tree.Place

/-! Lexical scoping. The walk over a tree keeps one stack for all of it, and stops at the first
text that is not valid. At every place the stack has the ids of the definitions around that place.
So the result is told place by place: a definition belongs to the nearest one around it, and calls
and uses are noted for the nearest definition at or around them, in preorder. -/

namespace CodeAtlas.Ingest

/-! ### The scope of a place -/

/-- Whether a node defines something. -/
def defines (lang : Language) (n : Node) : Bool :=
  ((definitionKinds lang).lookup n.kind).isSome

/-- The id of the definition at a node. -/
def idOf (path : String) (n : Node) : String :=
  definitionId path (definitionName n) (n.first + 1)

/-- The nearest definition around a place. -/
def enclosing? (lang : Language) (p : Place) : Option Node :=
  p.around.find? (defines lang)

/-- The nearest definition at or around a place. -/
def scope? (lang : Language) (p : Place) : Option Node :=
  (p.node :: p.around).find? (defines lang)

def definitionPlaces (lang : Language) (tree : Node) : List Place :=
  tree.places.filter (defines lang ·.node)

theorem map_node_definitionPlaces (lang : Language) (tree : Node) :
    (definitionPlaces lang tree).map (·.node) = tree.preorder.filter (defines lang) := by
  rw [← Node.map_node_places, List.filter_map]
  rfl

/-- What is called at a node, and how the call is noted. -/
def callee? (lang : Language) (n : Node) : Option (Node × String) :=
  (callRole? lang n.kind).bind fun role => (n.child? role.1).map (·, role.2)

/-- The name that is used at a node, and how the use is noted. -/
def used? (lang : Language) (n : Node) : Option (Node × String) :=
  (usage? lang n.kind).map (n, ·)

/-- Something to be noted: the definition for which it is, the node that spells it, and how. -/
structure Site where
  owner : Node
  spelling : Node
  how : String

/-- What is to be noted at a place, where `name?` tells what stands at a node. -/
def siteAt? (lang : Language) (name? : Language → Node → Option (Node × String)) (p : Place) :
    Option Site :=
  (scope? lang p).bind fun d => (name? lang p.node).map fun t => ⟨d, t.1, t.2⟩

def sites (lang : Language) (name? : Language → Node → Option (Node × String)) (tree : Node) :
    List Site :=
  tree.places.filterMap (siteAt? lang name?)

/-- What is noted at a place, once it is clear what is to be. -/
def mentionsAt (path : String) : Option Site → Except Failure (List Mention)
  | none => .ok []
  | some s => (textOf s.spelling).map fun name => [⟨idOf path s.owner, name, s.how⟩]

/-! ### The walk -/

/-- What is extracted at several places together. -/
def Extraction.join (xs : List Extraction) : Extraction :=
  ⟨xs.flatMap (·.definitions), xs.flatMap (·.calls), xs.flatMap (·.usages)⟩

theorem Extraction.join_append (xs ys : List Extraction) :
    Extraction.join (xs ++ ys) = (Extraction.join xs).append (Extraction.join ys) := by
  simp [Extraction.join, Extraction.append]

/-- The id of the nearest definition around a place, in a tree that may itself be inside one. -/
def ownerOf (src : Source) (owner : Option String) (p : Place) : Option String :=
  ((enclosing? src.language p).map (idOf src.path)).or owner

/-- What is extracted at a place. -/
def contributionAt (src : Source) (owner : Option String) (p : Place) : Except Failure Extraction :=
  contribution src (ownerOf src owner p) (definitionAt? src (ownerOf src owner p) p.node) p.node

section Walk
variable (src : Source) (owner : Option String)

theorem map_id_definitionAt? (n : Node) : (definitionAt? src owner n).map (·.id) =
    ([n].find? (defines src.language)).map (idOf src.path) := by
  rw [definitionAt?, List.find?_singleton, defines]
  cases (definitionKinds src.language).lookup n.kind with
  | none => rfl
  | some type => rfl

theorem ownerOf_below (parent : Node) (i : Nat) (p : Place) :
    ownerOf src owner (p.below parent i) = ownerOf src (ownerAt src owner parent) p := by
  rw [ownerOf, ownerOf, enclosing?, enclosing?, ownerAt, map_id_definitionAt?, Place.below,
    List.find?_append, Option.map_or, Option.or_assoc]

theorem contributionAt_below (parent : Node) (i : Nat) (p : Place) :
    contributionAt src owner (p.below parent i) =
      contributionAt src (ownerAt src owner parent) p := by
  rw [contributionAt, contributionAt, ownerOf_below]
  rfl

theorem extractAll_eq_join {cs : List Node} (parent : Node) (i : Nat)
    (h : ∀ c ∈ cs, ∀ owner, extractFrom src owner c =
      (c.places.mapM (contributionAt src owner)).map Extraction.join) :
    extractAll src (ownerAt src owner parent) cs =
      ((Node.placesBelow parent i cs).mapM (contributionAt src owner)).map Extraction.join := by
  induction cs generalizing i with
  | nil => rfl
  | cons c rest ih =>
    obtain ⟨hc, hrest⟩ := List.forall_mem_cons.mp h
    have hbelow : (c.places.map (.below parent i)).mapM (contributionAt src owner) =
        c.places.mapM (contributionAt src (ownerAt src owner parent)) := by
      simp only [List.mapM_map, Function.comp_def, contributionAt_below]
    rw [extractAll, hc, ih (i + 1) hrest, Node.placesBelow, List.mapM_append, hbelow]
    cases c.places.mapM (contributionAt src (ownerAt src owner parent)) with
    | error e => rfl
    | ok xs =>
      cases (Node.placesBelow parent (i + 1) rest).mapM (contributionAt src owner) with
      | error e => rfl
      | ok ys => exact congrArg Except.ok (Extraction.join_append xs ys).symm

theorem extractFrom_eq (n : Node) : extractFrom src owner n = (do
    let own ← contributionAt src owner ⟨[], n, []⟩
    let below ← extractAll src (ownerAt src owner n) n.children
    pure (own.append below)) := by
  cases n
  rw [extractFrom]
  rfl

/-- The walk extracts what each place has to give, in preorder, up to the first failure. -/
theorem extractFrom_eq_join (n : Node) : extractFrom src owner n =
    (n.places.mapM (contributionAt src owner)).map Extraction.join := by
  induction n using Node.child_induction generalizing owner with
  | h n ih =>
    -- The children are walked with the id of this node, so the hypothesis is for every owner.
    rw [extractFrom_eq, extractAll_eq_join src owner n 0 ih, Node.places_eq, List.mapM_cons]
    cases contributionAt src owner ⟨[], n, []⟩ with
    | error e => rfl
    | ok own =>
      cases (Node.placesBelow n 0 n.children).mapM (contributionAt src owner) with
      | error e => rfl
      | ok xs => rfl

/-- The ids of the definitions around a place, the nearest first. -/
def chain (p : Place) : List String :=
  (p.around.filter (defines src.language)).map (idOf src.path)

theorem head?_chain_append (p : Place) (scopes : List String) :
    (chain src p ++ scopes).head? = ownerOf src scopes.head? p := by
  rw [List.head?_append, chain, List.head?_map, List.head?_filter]
  rfl

theorem Extraction.foldl_append (xs : List Extraction) (found : Extraction) :
    xs.foldl Extraction.append found = found.append (.join xs) := by
  induction xs generalizing found with
  | nil => exact found.append_empty.symm
  | cons x xs ih =>
    rw [List.foldl_cons, ih, Extraction.append_assoc]
    rfl

/-- From any state on, the walk visits the places of a tree in preorder. At each of them the stack
has the ids of the definitions around it on top of what it had before, and afterwards it has just
that again. -/
theorem walk_visits (n : Node) (found : Extraction) (scopes : List String) :
    walk src n ⟨found, scopes⟩ =
      (n.places.foldlM (fun found p =>
        (visit src p.node ⟨found, chain src p ++ scopes⟩).map (·.found)) found).map
          (⟨·, scopes⟩) := by
  have hvisit : (fun found (p : Place) =>
      (visit src p.node ⟨found, chain src p ++ scopes⟩).map (·.found)) =
      fun found p => (contributionAt src scopes.head? p).map found.append := by
    funext found p
    rw [visit_eq, head?_chain_append, ← contributionAt]
    cases contributionAt src scopes.head? p <;> rfl
  rw [hvisit, foldlM_eq_map_mapM, walk_eq, extractFrom_eq_join]
  cases n.places.mapM (contributionAt src scopes.head?) with
  | error e => rfl
  | ok xs => rw [map_ok, map_ok, map_ok, map_ok, Extraction.foldl_append]

/-! ### One place -/

theorem ownerAt_ownerOf (p : Place) : ownerAt src (ownerOf src none p) p.node =
    (scope? src.language p).map (idOf src.path) := by
  have hscope : scope? src.language p =
      ([p.node].find? (defines src.language)).or (enclosing? src.language p) := by
    rw [scope?, enclosing?, ← List.find?_append, List.singleton_append]
  rw [ownerAt, map_id_definitionAt?, ownerOf, Option.or_none, ← Option.map_or, hscope]

end Walk

theorem callsAt_eq (lang : Language) (path : String) (d n : Node) :
    callsAt lang (idOf path d) n =
      mentionsAt path ((callee? lang n).map fun t => ⟨d, t.1, t.2⟩) := by
  rw [callsAt, callee?]
  cases callRole? lang n.kind with
  | none => rfl
  | some role =>
    cases h : n.child? role.1 with
    | none => simp [h, mentionsAt]
    | some target => simp [h, mentionsAt]

theorem usagesAt_eq (lang : Language) (path : String) (d n : Node) :
    usagesAt lang (idOf path d) n =
      mentionsAt path ((used? lang n).map fun t => ⟨d, t.1, t.2⟩) := by
  rw [usagesAt, used?]
  cases usage? lang n.kind with
  | none => rfl
  | some how => rfl

/-- A place gives the definition at it, the call at it and the use at it. -/
theorem contributionAt_eq (src : Source) (p : Place) : contributionAt src none p = (do
    let calls ← mentionsAt src.path (siteAt? src.language callee? p)
    let usages ← mentionsAt src.path (siteAt? src.language used? p)
    pure ⟨(definitionAt? src (ownerOf src none p) p.node).toList, calls, usages⟩) := by
  rw [contributionAt, contribution, ← ownerAt, ownerAt_ownerOf, siteAt?, siteAt?]
  cases scope? src.language p with
  | none => rfl
  | some d =>
    simp only [Option.map_some, Option.bind_some, callsAt_eq, usagesAt_eq]

/-- What the definition at a place is recorded as. -/
structure RecordedAt (src : Source) (p : Place) (d : Definition) : Prop where
  type : (definitionKinds src.language).lookup p.node.kind = some d.type
  name : d.name = definitionName p.node
  id : d.id = idOf src.path p.node
  parent : d.parent = (enclosing? src.language p).map (idOf src.path)
  startLine : d.startLine = p.node.first + 1
  endLine : d.endLine = p.node.last + 1
  fullCode : d.fullCode = rowsUpTo src.rows (p.node.first + 1) (p.node.last + 1)
  truncatedCode : d.truncatedCode = rowsUpTo src.rows (p.node.first + 1)
    (min (p.node.last + 1 : Int) ((p.node.first + 1 : Nat) + src.maxRows - 1))

theorem recordedAt_of_definitionAt? {src : Source} {p : Place} {d : Definition}
    (h : definitionAt? src (ownerOf src none p) p.node = some d) : RecordedAt src p d := by
  rw [ownerOf, Option.or_none] at h
  obtain ⟨type, htype, rfl⟩ := Option.map_eq_some_iff.mp h
  exact ⟨htype, rfl, rfl, rfl, rfl, rfl, rfl, rfl⟩

/-- A mention is noted at a site: for the definition there, with the text that stands there. -/
structure NotedAt (path : String) (s : Site) (m : Mention) : Prop where
  owner : m.owner = idOf path s.owner
  name : s.spelling.text = .ok m.name
  how : m.how = s.how

theorem forall₂_of_mentionsAt {path : String} {s : Option Site} {ms : List Mention}
    (h : mentionsAt path s = .ok ms) : List.Forall₂ (NotedAt path) s.toList ms := by
  cases s with
  | none =>
    cases h
    exact .nil
  | some s =>
    rw [mentionsAt] at h
    cases htext : textOf s.spelling with
    | error e =>
      rw [htext] at h
      cases h
    | ok name =>
      rw [htext] at h
      cases h
      exact .cons ⟨rfl, text_of_textOf htext, rfl⟩ .nil

theorem text_ok_of_notedAt {path : String} {ss : List Site} {ms : List Mention}
    (h : List.Forall₂ (NotedAt path) ss ms) {s : Site} (hs : s ∈ ss) :
    ∃ name, s.spelling.text = .ok name := by
  induction h with
  | nil => cases hs
  | @cons s' m ss ms hm _ ih =>
    rcases List.mem_cons.mp hs with rfl | hs
    · exact ⟨m.name, hm.name⟩
    · exact ih hs

theorem exists_of_mentionsAt_error {path : String} {s : Option Site} {e : Failure}
    (h : mentionsAt path s = .error e) :
    ∃ s', s = some s' ∧ ∃ m, e = .undecodable m ∧ s'.spelling.text = .error m := by
  cases s with
  | none => cases h
  | some s =>
    refine ⟨s, rfl, ?_⟩
    rw [mentionsAt, textOf] at h
    cases htext : s.spelling.text with
    | error m =>
      rw [htext] at h
      cases h
      exact ⟨m, rfl, rfl⟩
    | ok name =>
      rw [htext] at h
      cases h

theorem contributionAt_eq_ok {src : Source} {p : Place} {x : Extraction}
    (h : contributionAt src none p = .ok x) :
    x.definitions = (definitionAt? src (ownerOf src none p) p.node).toList ∧
      List.Forall₂ (NotedAt src.path) (siteAt? src.language callee? p).toList x.calls ∧
      List.Forall₂ (NotedAt src.path) (siteAt? src.language used? p).toList x.usages := by
  rw [contributionAt_eq, bind_eq_ok_iff] at h
  obtain ⟨calls, hcalls, h⟩ := h
  obtain ⟨usages, husages, h⟩ := bind_eq_ok_iff.mp h
  cases h
  exact ⟨rfl, forall₂_of_mentionsAt hcalls, forall₂_of_mentionsAt husages⟩

theorem contributionAt_eq_error {src : Source} {p : Place} {e : Failure}
    (h : contributionAt src none p = .error e) :
    ∃ m, e = .undecodable m ∧ ∃ name?, (name? = callee? ∨ name? = used?) ∧
      ∃ s, siteAt? src.language name? p = some s ∧ s.spelling.text = .error m := by
  rw [contributionAt_eq] at h
  cases hcalls : mentionsAt src.path (siteAt? src.language callee? p) with
  | error e' =>
    rw [hcalls] at h
    cases h
    obtain ⟨s, hs, m, rfl, htext⟩ := exists_of_mentionsAt_error hcalls
    exact ⟨m, rfl, callee?, .inl rfl, s, hs, htext⟩
  | ok calls =>
    cases husages : mentionsAt src.path (siteAt? src.language used? p) with
    | error e' =>
      rw [hcalls, husages] at h
      cases h
      obtain ⟨s, hs, m, rfl, htext⟩ := exists_of_mentionsAt_error husages
      exact ⟨m, rfl, used?, .inr rfl, s, hs, htext⟩
    | ok usages =>
      rw [hcalls, husages] at h
      cases h

/-! ### The whole tree -/

theorem isSome_definitionAt? (src : Source) (owner : Option String) (n : Node) :
    (definitionAt? src owner n).isSome = defines src.language n :=
  Option.isSome_map

theorem forall₂_definitions {src : Source} {ps : List Place} {xs : List Extraction}
    (h : List.Forall₂ (fun p x => contributionAt src none p = .ok x) ps xs) :
    List.Forall₂ (RecordedAt src) (ps.filter (defines src.language ·.node))
      (Extraction.join xs).definitions := by
  induction h with
  | nil => exact .nil
  | @cons p x ps xs hx _ ih =>
    have hown := (contributionAt_eq_ok hx).1
    have hdefines := isSome_definitionAt? src (ownerOf src none p) p.node
    change List.Forall₂ _ _ (x.definitions ++ (Extraction.join xs).definitions)
    cases hd : definitionAt? src (ownerOf src none p) p.node with
    | none =>
      rw [hd] at hown hdefines
      rw [hown, List.filter_cons_of_neg (by simp [← hdefines])]
      exact ih
    | some d =>
      rw [hd] at hown hdefines
      rw [hown, List.filter_cons_of_pos (by simp [← hdefines])]
      exact .cons (recordedAt_of_definitionAt? hd) ih

section Tree
variable {lang : Language} {content path : String} {maxRows : Int} {tree : Node}

theorem extract_eq_join : extract lang content path maxRows tree =
    (tree.places.mapM (contributionAt ⟨lang, path, Text.rows content.toList, maxRows⟩ none)).map
      Extraction.join := by
  rw [extract_eq_extractFrom, extractFrom_eq_join]

theorem extract_eq_ok {x : Extraction} (h : extract lang content path maxRows tree = .ok x) :
    List.Forall₂ (RecordedAt ⟨lang, path, Text.rows content.toList, maxRows⟩)
        (definitionPlaces lang tree) x.definitions ∧
      List.Forall₂ (NotedAt path) (sites lang callee? tree) x.calls ∧
      List.Forall₂ (NotedAt path) (sites lang used? tree) x.usages := by
  rw [extract_eq_join] at h
  cases hxs : tree.places.mapM
    (contributionAt ⟨lang, path, Text.rows content.toList, maxRows⟩ none) with
  | error e =>
    rw [hxs] at h
    cases h
  | ok xs =>
    rw [hxs] at h
    cases h
    have hall := forall₂_of_mapM hxs
    -- Joining is concatenation list by list, and so is what the sites of all places are.
    rw [sites, sites, List.filterMap_eq_flatMap_toList, List.filterMap_eq_flatMap_toList]
    exact ⟨forall₂_definitions hall,
      List.rel_flatMap hall fun _ _ hx => (contributionAt_eq_ok hx).2.1,
      List.rel_flatMap hall fun _ _ hx => (contributionAt_eq_ok hx).2.2⟩

theorem extract_eq_error {e : Failure} (h : extract lang content path maxRows tree = .error e) :
    ∃ m, e = .undecodable m ∧
      ∃ s ∈ sites lang callee? tree ++ sites lang used? tree, s.spelling.text = .error m := by
  rw [extract_eq_join] at h
  cases hxs : tree.places.mapM
    (contributionAt ⟨lang, path, Text.rows content.toList, maxRows⟩ none) with
  | ok xs =>
    rw [hxs] at h
    cases h
  | error e' =>
    rw [hxs] at h
    cases h
    obtain ⟨p, hp, hfail⟩ := exists_of_mapM_error hxs
    obtain ⟨m, rfl, name?, hname, s, hs, htext⟩ := contributionAt_eq_error hfail
    have hmem : s ∈ sites lang name? tree := List.mem_filterMap.mpr ⟨p, hp, hs⟩
    refine ⟨m, rfl, s, List.mem_append.mpr ?_, htext⟩
    rcases hname with rfl | rfl
    · exact .inl hmem
    · exact .inr hmem

end Tree

/-- What is recorded of a tree is its lexical scoping. The walk visits its places in preorder, each
with the definitions around it on the stack, and leaves the stack as it was. The definitions are
those at its nodes, in preorder, each inside of the nearest one around it; calls and uses are noted
in preorder for the nearest definition at or around them, and for no other place. The walk fails
just if one of the texts that are to be noted is not valid. -/
theorem extract_scoped (lang : Language) (content path : String) (maxRows : Int) (tree : Node) :
    (∀ src found scopes, walk src tree ⟨found, scopes⟩ =
      (tree.places.foldlM (fun found p =>
        (visit src p.node ⟨found, chain src p ++ scopes⟩).map (·.found)) found).map
          (⟨·, scopes⟩)) ∧
    (definitionPlaces lang tree).map (·.node) = tree.preorder.filter (defines lang) ∧
    (∀ x, extract lang content path maxRows tree = .ok x →
      List.Forall₂ (RecordedAt ⟨lang, path, Text.rows content.toList, maxRows⟩)
        (definitionPlaces lang tree) x.definitions ∧
      List.Forall₂ (NotedAt path) (sites lang callee? tree) x.calls ∧
      List.Forall₂ (NotedAt path) (sites lang used? tree) x.usages) ∧
    (∀ e, extract lang content path maxRows tree = .error e → ∃ m, e = .undecodable m) ∧
    ((∃ m, extract lang content path maxRows tree = .error (.undecodable m)) ↔
      ∃ s ∈ sites lang callee? tree ++ sites lang used? tree, ∃ m, s.spelling.text = .error m) := by
  refine ⟨fun src found scopes => walk_visits src tree found scopes,
    map_node_definitionPlaces lang tree, fun x hx => extract_eq_ok hx, fun e he => ?_, ?_, ?_⟩
  · obtain ⟨m, hm, -⟩ := extract_eq_error he
    exact ⟨m, hm⟩
  · rintro ⟨m, hm⟩
    obtain ⟨m', -, s, hs, htext⟩ := extract_eq_error hm
    exact ⟨s, hs, m', htext⟩
  · rintro ⟨s, hs, m, htext⟩
    cases hx : extract lang content path maxRows tree with
    | error e =>
      obtain ⟨m', rfl, -⟩ := extract_eq_error hx
      exact ⟨m', rfl⟩
    | ok x =>
      obtain ⟨-, hcalls, husages⟩ := extract_eq_ok hx
      obtain ⟨name, hname⟩ := text_ok_of_notedAt (List.rel_append hcalls husages) hs
      rw [htext] at hname
      cases hname

namespace Bell

def name (row : Nat) (text : String) : Node := .mk "identifier" row row (.ok text) [] []

/-- A call with a byte in its arguments that is no character. -/
def call : Node :=
  .mk "call" 2 2 (Text.Utf8.decode [0x64, 0x69, 0x61, 0x6c, 0x28, 0xff, 0x29]) [("function", 0)]
    [name 2 "dial", .mk "argument_list" 2 2 (Text.Utf8.decode [0x28, 0xff, 0x29]) [] []]

def method : Node := .mk "function_definition" 2 2 (.ok "") [("name", 0)] [name 2 "ring", call]

def class_ : Node := .mk "class_definition" 1 2 (.ok "") [("name", 0)] [name 1 "Bell", method]

/-- A call outside of all definitions, and one in the method of a class. -/
def tree : Node :=
  .mk "module" 0 2 (.ok "") []
    [.mk "call" 0 0 (.ok "setup()") [("function", 0)] [name 0 "setup"], class_]

def content : String := "setup()\nclass Bell:\n    def ring(self): dial(x)"

theorem method_scoped : ∃ x, extract .python content "shop/bell.py" 300 tree = .ok x ∧
    (definitionPlaces .python tree).map (fun p => (p.path, (enclosing? .python p).map (·.first))) =
      [([1], none), ([1, 1], some 1)] ∧
    List.Forall₂ (RecordedAt ⟨.python, "shop/bell.py", Text.rows content.toList, 300⟩)
      (definitionPlaces .python tree) x.definitions ∧
    (sites .python callee? tree).map (fun s => (s.owner.first, s.spelling.text.toOption)) =
      [(2, some "dial")] ∧
    List.Forall₂ (NotedAt "shop/bell.py") (sites .python callee? tree) x.calls ∧
    List.Forall₂ (NotedAt "shop/bell.py") (sites .python used? tree) x.usages := by
  obtain ⟨x, hx⟩ : ∃ x, extract .python content "shop/bell.py" 300 tree = .ok x :=
    ⟨_, (extract_eq_extractFrom ..).trans rfl⟩
  obtain ⟨hdefinitions, hcalls, husages⟩ :=
    (extract_scoped .python content "shop/bell.py" 300 tree).2.2.1 x hx
  exact ⟨x, hx, by decide, hdefinitions, by decide, hcalls, husages⟩

/-- Of a call only what is called has to be valid, so a call whose own text is not may be noted. -/
theorem call_text_not_read :
    ¬((∃ m, extract .python content "shop/bell.py" 300 tree = .error (.undecodable m)) ↔
      ∃ p ∈ tree.places, (scope? .python p).isSome ∧
        ((callee? .python p.node).isSome ∨ (used? .python p.node).isSome) ∧
        ∃ m, p.node.text = .error m) := by
  intro h
  have hplace : ⟨[1, 1, 1], call, [method, class_, tree]⟩ ∈ tree.places :=
    Node.mem_places_iff.mpr ⟨rfl, rfl⟩
  obtain ⟨m, hm⟩ := h.mpr ⟨_, hplace, by decide, .inl (by decide), _, rfl⟩
  obtain ⟨x, hx⟩ : ∃ x, extract .python content "shop/bell.py" 300 tree = .ok x :=
    ⟨_, (extract_eq_extractFrom ..).trans rfl⟩
  rw [hx] at hm
  cases hm

end Bell

end CodeAtlas.Ingest
