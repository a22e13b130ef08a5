import CodeAtlas.Proofs.Ingest.Scoping
import CodeAtlas.Proofs.Lists

/-! What definitions go by. A definition is recorded under the text of its first child that can
name something, which is its own name only if no such child stands before that. Its id has the
name and the row where it starts, and nothing else tells two definitions of one file apart. -/

namespace CodeAtlas.Ingest

/-! ### Ids -/

theorem toString_nat_inj {m n : Nat} (h : toString m = toString n) : m = n := by
  rw [Nat.toString_eq_repr, Nat.toString_eq_repr, ← String.toList_inj, Nat.toList_repr,
    Nat.toList_repr] at h
  have hvalue := congrArg (Nat.ofDigitChars 10 · 0) h
  simpa only [Nat.ofDigitChars_ten_toDigits] using hvalue

/-- Within one file an id tells the name and the row, whatever characters the name has. -/
theorem definitionId_inj_iff {path name name' : String} {row row' : Nat} :
    definitionId path name row = definitionId path name' row' ↔ name = name' ∧ row = row' := by
  constructor
  · intro h
    -- A number has no colon, so the last colon of an id is the one before the row.
    have hl : (path ++ ":" ++ name).toList ++ ':' :: (toString row).toList =
        (path ++ ":" ++ name').toList ++ ':' :: (toString row').toList := by
      simpa [definitionId, ← String.toList_inj] using h
    obtain ⟨hfront, hrow⟩ :=
      append_colon_inj (colon_notMem_toString row) (colon_notMem_toString row') hl
    have hf : (path ++ ":").toList ++ name.toList = (path ++ ":").toList ++ name'.toList := by
      simpa using hfront
    exact ⟨String.toList_inj.mp (List.append_cancel_left hf),
      toString_nat_inj (String.toList_inj.mp hrow)⟩
  · rintro ⟨rfl, rfl⟩
    rfl

/-- Definitions that share an id share their name, so the id is enough to find it. -/
theorem definedBy_id {lang : Language} {content path : String} {maxRows : Int} {tree : Node}
    {x : Extraction} (h : extract lang content path maxRows tree = .ok x) {d : Definition}
    (hd : d ∈ x.definitions) : x.definedBy d.id = [d.name] := by
  obtain ⟨d', hfound⟩ : ∃ d', x.definitions.find? (·.id == d.id) = some d' :=
    Option.isSome_iff_exists.mp (List.find?_isSome.mpr ⟨d, hd, by simp⟩)
  -- What is found may be another definition with this id, but not one of another name.
  have hid : d'.id = d.id := by simpa using List.find?_some hfound
  rw [id_of_mem_extract h hd, id_of_mem_extract h (List.mem_of_find?_eq_some hfound),
    definitionId_inj_iff] at hid
  rw [Extraction.definedBy, hfound]
  exact congrArg (fun name => [name]) hid.1

/-! ### Names -/

/-- Whether a node is taken for the name of what it stands in. -/
def canName (n : Node) : Bool := nameKinds.contains n.kind

/-- The name that a definition gets from the child that is taken for it. -/
def nameFrom (n child : Node) : String :=
  match child.text with
  | .ok name => if name = "" then "unnamed_" ++ toString (n.first + 1) else name
  | .error _ => "unnamed_" ++ toString (n.first + 1)

/-- The definition has a name of its own: the child in that role is a plain name with this text,
and stands behind these other children. -/
structure OwnName (n : Node) (name : String) (before : List Node) : Prop where
  ne_empty : name ≠ ""
  child : ∃ c after, n.child? "name" = some c ∧ c.kind = "identifier" ∧ c.text = .ok name ∧
    n.children = before ++ c :: after

/-- A definition is recorded under this name, and so is what it defines. -/
structure UnderName (path : String) (x : Extraction) (n : Node) (text : String) (d : Definition) :
    Prop where
  name : d.name = text
  id : d.id = definitionId path text (n.first + 1)
  defined : x.definedBy d.id = [text]

theorem definitionName_of_find? {n child : Node} (h : n.children.find? canName = some child) :
    definitionName n = nameFrom n child := by
  have hname : nameOf? n = child.text.toOption := by
    rw [nameOf?]
    change (n.children.find? canName).bind _ = _
    rw [h]
    rfl
  rw [definitionName, hname, nameFrom]
  cases child.text with
  | ok name => rfl
  | error e => rfl

/-- A definition is recorded under its own name, unless a child before that can name it too. -/
theorem OwnName.definitionName_eq {n : Node} {name : String} {before : List Node}
    (h : OwnName n name before) :
    definitionName n = (before.find? canName).elim name (nameFrom n) := by
  obtain ⟨c, after, -, hkind, htext, hsplit⟩ := h.child
  have hc : canName c = true := by
    rw [canName, hkind]
    decide
  have hfind : n.children.find? canName = (before.find? canName).or (some c) := by
    rw [hsplit, List.find?_append, List.find?_cons_of_pos hc]
  cases hb : before.find? canName with
  | none =>
    rw [hb] at hfind
    rw [definitionName_of_find? hfind, nameFrom, htext]
    exact if_neg h.ne_empty
  | some f =>
    rw [hb] at hfind
    exact definitionName_of_find? hfind

/-! ### What is recorded -/

section Recorded
variable {lang : Language} {content path : String} {maxRows : Int} {tree : Node} {x : Extraction}

/-- A definition that has a name of its own is recorded under it just if no child before the name
can name it, or the first that can reads the same. Else it is recorded under the text of that
child. -/
theorem recorded_name_iff (hx : extract lang content path maxRows tree = .ok x) :
    List.Forall₂ (fun p d => ∀ name before, OwnName p.node name before →
        d.name = (before.find? canName).elim name (nameFrom p.node) ∧
        (UnderName path x p.node name d ↔
          ∀ child, before.find? canName = some child → nameFrom p.node child = name))
      (definitionPlaces lang tree) x.definitions := by
  refine (forall₂_and_mem (extract_eq_ok hx).1).imp ?_
  rintro p d ⟨hd, hat⟩ name before hown
  have hname : d.name = (before.find? canName).elim name (nameFrom p.node) :=
    hat.name.trans hown.definitionName_eq
  refine ⟨hname, ?_⟩
  have hunder : d.name = name → UnderName path x p.node name d := by
    rintro rfl
    exact ⟨rfl, hat.id.trans (by rw [idOf, hat.name]), definedBy_id hx hd⟩
  cases hb : before.find? canName with
  | none =>
    rw [hb] at hname
    constructor
    · intro _ child hchild
      cases hchild
    · intro _
      exact hunder hname
  | some f =>
    rw [hb] at hname
    constructor
    · intro h child hchild
      obtain rfl := Option.some.inj hchild
      exact hname.symm.trans h.name
    · intro h
      exact hunder (hname.trans (h f rfl))

theorem idOf_eq_iff {n m : Node} : idOf path n = idOf path m ↔
    definitionName n = definitionName m ∧ n.first = m.first := by
  rw [idOf, idOf, definitionId_inj_iff, Nat.add_right_cancel_iff]

theorem map_id_extract (hx : extract lang content path maxRows tree = .ok x) :
    x.definitions.map (·.id) = (definitionPlaces lang tree).map (idOf path ·.node) := by
  have hids := (extract_eq_ok hx).1.imp fun p d h => h.id.symm
  rw [← List.forall₂_map_right_iff, ← List.forall₂_map_left_iff, List.forall₂_eq_eq_eq] at hids
  exact hids.symm

theorem mem_places_of_mem_definitionPlaces {p : Place} (h : p ∈ definitionPlaces lang tree) :
    p ∈ tree.places :=
  (List.mem_filter.mp h).1

/-- Two definitions of a file have the same id just if they start on one row and are recorded
under one name. So the ids are distinct just if that is so for no two places of the tree. -/
theorem ids_nodup_iff (hx : extract lang content path maxRows tree = .ok x) :
    x.definitions.map (·.id) = (definitionPlaces lang tree).map (idOf path ·.node) ∧
    (∀ p ∈ definitionPlaces lang tree, ∀ q ∈ definitionPlaces lang tree,
      idOf path p.node = idOf path q.node ↔
        definitionName p.node = definitionName q.node ∧ p.node.first = q.node.first) ∧
    ((x.definitions.map (·.id)).Nodup ↔
      ∀ p ∈ definitionPlaces lang tree, ∀ q ∈ definitionPlaces lang tree, p.path ≠ q.path →
        p.node.first = q.node.first → definitionName p.node ≠ definitionName q.node) := by
  have hids := map_id_extract hx
  have hplaces : (definitionPlaces lang tree).Nodup := tree.places_nodup.filter _
  refine ⟨hids, fun p _ q _ => idOf_eq_iff, ?_⟩
  rw [hids, List.nodup_map_iff_inj_on hplaces]
  simp only [idOf_eq_iff]
  constructor
  · intro h p hp q hq hne hrow hname
    exact hne (congrArg Place.path (h p hp q hq ⟨hname, hrow⟩))
  · intro h p hp q hq heq
    by_contra hne
    refine h p hp q hq (fun hpath => hne ?_) heq.2 heq.1
    exact Node.eq_of_path_eq (mem_places_of_mem_definitionPlaces hp)
      (mem_places_of_mem_definitionPlaces hq) hpath

end Recorded

namespace Till

def word (kind : String) (row : Nat) (text : String) : Node := .mk kind row row (.ok text) [] []

/-- Braces with nothing between them. -/
def body : String := "\x7b \x7d"

/-- A method that gives something of another class. -/
def total : Node :=
  .mk "method_declaration" 1 1 (.ok ("Money total() " ++ body)) [("type", 0), ("name", 1)]
    [word "type_identifier" 1 "Money", word "identifier" 1 "total",
      word "formal_parameters" 1 "()", word "block" 1 body]

/-- A method that gives nothing. -/
def add : Node :=
  .mk "method_declaration" 2 2 (.ok ("void add() " ++ body)) [("type", 0), ("name", 1)]
    [word "void_type" 2 "void", word "identifier" 2 "add", word "formal_parameters" 2 "()",
      word "block" 2 body]

def till : Node :=
  .mk "class_declaration" 0 3 (.ok "") [("name", 1), ("body", 2)]
    [word "class" 0 "class", word "identifier" 0 "Till",
      .mk "class_body" 0 3 (.ok "") [] [total, add]]

def tree : Node := .mk "program" 0 3 (.ok "") [] [till]

def content : String :=
  "class Till \x7b\n    Money total() " ++ body ++ "\n    void add() " ++ body ++ "\n\x7d"

theorem ownName_till : OwnName till "Till" [word "class" 0 "class"] :=
  ⟨by decide, word "identifier" 0 "Till", _, rfl, rfl, rfl, rfl⟩

theorem ownName_total : OwnName total "total" [word "type_identifier" 1 "Money"] :=
  ⟨by decide, word "identifier" 1 "total", _, rfl, rfl, rfl, rfl⟩

theorem ownName_add : OwnName add "add" [word "void_type" 2 "void"] :=
  ⟨by decide, word "identifier" 2 "add", _, rfl, rfl, rfl, rfl⟩

theorem nodes_eq : (definitionPlaces .java tree).map (·.node) = [till, total, add] := rfl

theorem named : ∀ p ∈ definitionPlaces .java tree, ∃ name before, OwnName p.node name before := by
  intro p hp
  have hnode : p.node ∈ [till, total, add] := nodes_eq ▸ List.mem_map_of_mem hp
  simp only [List.mem_cons, List.not_mem_nil, or_false] at hnode
  rcases hnode with h | h | h
  · exact ⟨_, _, h ▸ ownName_till⟩
  · exact ⟨_, _, h ▸ ownName_total⟩
  · exact ⟨_, _, h ▸ ownName_add⟩

theorem names_eq : ∃ x, extract .java content "shop/Till.java" 300 tree = .ok x ∧
    x.definitions.map (·.name) = ["Till", "Money", "add"] := by
  rw [extract_eq_extractFrom]
  exact ⟨_, rfl, rfl⟩

/-- The class and the second method are recorded under their names, and the first is not. -/
theorem recorded_names : ∃ x, extract .java content "shop/Till.java" 300 tree = .ok x ∧
    x.definitions.map (·.name) = ["Till", "Money", "add"] ∧
    List.Forall₂ (fun p d => ∀ name before, OwnName p.node name before →
        d.name = (before.find? canName).elim name (nameFrom p.node) ∧
        (UnderName "shop/Till.java" x p.node name d ↔
          ∀ child, before.find? canName = some child → nameFrom p.node child = name))
      (definitionPlaces .java tree) x.definitions := by
  obtain ⟨x, hx, hnames⟩ := names_eq
  exact ⟨x, hx, hnames, recorded_name_iff hx⟩

/-- A method that gives something of a class is recorded under the name of that class. -/
theorem total_recorded_as_type :
    (∀ p ∈ definitionPlaces .java tree, ∃ name before, OwnName p.node name before) ∧
    ∃ x, extract .java content "shop/Till.java" 300 tree = .ok x ∧
      ¬List.Forall₂ (fun p d => ∀ name before, OwnName p.node name before →
        UnderName "shop/Till.java" x p.node name d)
        (definitionPlaces .java tree) x.definitions := by
  obtain ⟨x, hx, hnames⟩ := names_eq
  refine ⟨named, x, hx, fun h => ?_⟩
  have hall : List.Forall₂ (fun n text => ∀ name before, OwnName n name before → text = name)
      ((definitionPlaces .java tree).map (·.node)) (x.definitions.map (·.name)) := by
    rw [List.forall₂_map_left_iff, List.forall₂_map_right_iff]
    exact h.imp fun p d hpd name before hown => (hpd name before hown).name
  rw [nodes_eq, hnames] at hall
  obtain ⟨-, hall⟩ := List.forall₂_cons.mp hall
  obtain ⟨htotal, -⟩ := List.forall₂_cons.mp hall
  exact absurd (htotal "total" _ ownName_total) (by decide)

theorem ids_distinct : ∃ x, extract .java content "shop/Till.java" 300 tree = .ok x ∧
    (x.definitions.map (·.id)).Nodup := by
  obtain ⟨x, hx, -⟩ := names_eq
  have hrows : ((definitionPlaces .java tree).map (·.node.first)).Nodup := by decide
  refine ⟨x, hx, (ids_nodup_iff hx).2.2.mpr fun p hp q hq hne hrow => ?_⟩
  exact absurd (congrArg Place.path (List.inj_on_of_nodup_map hrows hp hq hrow)) hne

end Till

namespace Kiosk

open Till (word body)

/-- A class with a constructor, all on one row. -/
def tree : Node :=
  .mk "program" 0 0 (.ok "") []
    [.mk "class_declaration" 0 0 (.ok "") [("name", 1), ("body", 2)]
      [word "class" 0 "class", word "identifier" 0 "Kiosk",
        .mk "class_body" 0 0 (.ok "") []
          [.mk "constructor_declaration" 0 0 (.ok "") [("name", 0)]
            [word "identifier" 0 "Kiosk", word "formal_parameters" 0 "()",
              word "constructor_body" 0 body]]]]

def content : String := "class Kiosk \x7b Kiosk() " ++ body ++ " \x7d"

/-- The constructor is recorded under the id of its class. -/
theorem class_and_constructor_share_id :
    ∃ x, extract .java content "shop/Kiosk.java" 300 tree = .ok x ∧
      (definitionPlaces .java tree).map (·.path) = [[0], [0, 2, 0]] ∧
      ¬(x.definitions.map (·.id)).Nodup := by
  obtain ⟨x, hx, hids⟩ : ∃ x, extract .java content "shop/Kiosk.java" 300 tree = .ok x ∧
      x.definitions.map (·.id) = ["shop/Kiosk.java:Kiosk:1", "shop/Kiosk.java:Kiosk:1"] := by
    rw [extract_eq_extractFrom]
    exact ⟨_, rfl, rfl⟩
  refine ⟨x, hx, by decide, ?_⟩
  rw [hids]
  decide

end Kiosk

end CodeAtlas.Ingest
