import CodeAtlas.Issue.Unused
import CodeAtlas.Proofs.Outcome
import CodeAtlas.Proofs.Tree.Place
import Mathlib.Data.List.Nodup

/-! Local variables of methods that are reported as unused. One walk gathers the names that are
declared and the names that are mentioned, and the node that names a variable in its declaration is
an identifier like any other. So a variable is reported only if that node is of another kind. -/

namespace CodeAtlas

/-- Which child has a role. -/
def Node.roleIndex? : Node → String → Option Nat
  | .mk _ _ _ _ roles _, role => roles.lookup role

theorem Node.child?_eq (n : Node) (role : String) :
    n.child? role = (n.roleIndex? role).bind (n.children[·]?) := by
  cases n
  rfl

namespace Issue

variable {tree : Node} {name : String} {line : Nat}

/-! ### The walk -/

def isMethod (n : Node) : Bool := n.kind == functionKind .java

/-- What the walk does at a place, if `inside` tells whether it began in a method. -/
def noteAt (inside : Bool) (l : Locals) (p : Place) : Except Failure Locals :=
  if inside || (p.node :: p.around).any isMethod then noteLocal p.node l else .ok l

theorem noteAt_below (inside : Bool) (parent : Node) (i : Nat) (l : Locals) (p : Place) :
    noteAt inside l (p.below parent i) = noteAt (inside || isMethod parent) l p := by
  have hinside : (inside || (p.node :: (p.around ++ [parent])).any isMethod) =
      (inside || isMethod parent || (p.node :: p.around).any isMethod) := by
    have hparent : [parent].any isMethod = isMethod parent := Bool.or_false _
    rw [← List.cons_append, List.any_append, hparent, Bool.or_assoc, Bool.or_comm (isMethod parent)]
  rw [noteAt, noteAt, Place.below, hinside]

theorem localsAll_eq {inside : Bool} {parent : Node} {cs : List Node} (i : Nat) (l : Locals)
    (h : ∀ c ∈ cs, ∀ l, localsFrom (inside || isMethod parent) c l =
      c.places.foldlM (noteAt (inside || isMethod parent)) l) :
    localsAll (inside || isMethod parent) cs l =
      (Node.placesBelow parent i cs).foldlM (noteAt inside) l := by
  induction cs generalizing i l with
  | nil => rfl
  | cons c cs ih =>
    obtain ⟨hc, hcs⟩ := List.forall_mem_cons.mp h
    rw [localsAll, Node.placesBelow, List.foldlM_append, List.foldlM_map, hc]
    simp only [noteAt_below]
    refine congrArg _ ?_
    funext l
    exact ih (i + 1) l hcs

theorem localsFrom_step (inside : Bool) (n : Node) (l : Locals) :
    localsFrom inside n l =
      noteAt inside l ⟨[], n, []⟩ >>= localsAll (inside || isMethod n) n.children := by
  obtain ⟨kind, first, last, text, roles, children⟩ := n
  rw [localsFrom, noteAt, List.any_cons, List.any_nil, Bool.or_false, isMethod, Node.kind]
  split <;> rfl

/-- The walk takes the places of a tree one after another. -/
theorem localsFrom_eq (inside : Bool) (n : Node) (l : Locals) :
    localsFrom inside n l = n.places.foldlM (noteAt inside) l := by
  induction n using Node.child_induction generalizing inside l with
  | h n ih =>
    rw [localsFrom_step, Node.places_eq, List.foldlM_cons]
    refine congrArg _ ?_
    funext l
    exact localsAll_eq 0 l fun c hc l => ih c hc _ l

/-! ### What is gathered -/

def Locals.names (l : Locals) : List String := l.declared.map Prod.fst

/-- What a step adds to what is gathered, whatever that is, and when it does not fail. -/
structure Gathers (step : Locals → Except Failure Locals) (fine : Prop)
    (declares uses : String → Prop) : Prop where
  ends : ∀ l, (∃ l', step l = .ok l') ↔ fine
  names : ∀ l l', step l = .ok l' → ∀ x, x ∈ l'.names ↔ x ∈ l.names ∨ declares x
  used : ∀ l l', step l = .ok l' → ∀ x, x ∈ l'.used ↔ x ∈ l.used ∨ uses x
  distinct : ∀ l l', step l = .ok l' → l.names.Nodup → l'.names.Nodup

section Gathers
variable {step next : Locals → Except Failure Locals} {fine fine' : Prop}
  {declares declares' uses uses' : String → Prop}

theorem Gathers.congr (h : Gathers step fine declares uses) (hfine : fine ↔ fine')
    (hdeclares : ∀ x, declares x ↔ declares' x) (huses : ∀ x, uses x ↔ uses' x) :
    Gathers step fine' declares' uses' := by
  rwa [propext hfine, funext fun x => propext (hdeclares x),
    funext fun x => propext (huses x)] at h

theorem gathers_nothing : Gathers .ok True (fun _ => False) fun _ => False where
  ends l := ⟨fun _ => trivial, fun _ => ⟨l, rfl⟩⟩
  names l l' h x := by rw [Except.ok.inj h, or_false]
  used l l' h x := by rw [Except.ok.inj h, or_false]
  distinct l l' h hl := by rwa [← Except.ok.inj h]

theorem Gathers.bind (h : Gathers step fine declares uses)
    (h' : Gathers next fine' declares' uses') :
    Gathers (fun l => step l >>= next) (fine ∧ fine') (fun x => declares x ∨ declares' x)
      fun x => uses x ∨ uses' x := by
  refine ⟨fun l => ?_, fun l l' hok x => ?_, fun l l' hok x => ?_, fun l l' hok hl => ?_⟩
  · constructor
    · rintro ⟨l', hok⟩
      obtain ⟨m, hm, hnext⟩ := bind_eq_ok_iff.mp hok
      exact ⟨(h.ends l).mp ⟨m, hm⟩, (h'.ends m).mp ⟨l', hnext⟩⟩
    · rintro ⟨hfine, hfine'⟩
      obtain ⟨m, hm⟩ := (h.ends l).mpr hfine
      obtain ⟨l', hnext⟩ := (h'.ends m).mpr hfine'
      exact ⟨l', bind_eq_ok_iff.mpr ⟨m, hm, hnext⟩⟩
  · obtain ⟨m, hm, hnext⟩ := bind_eq_ok_iff.mp hok
    rw [h'.names m l' hnext x, h.names l m hm x, or_assoc]
  · obtain ⟨m, hm, hnext⟩ := bind_eq_ok_iff.mp hok
    rw [h'.used m l' hnext x, h.used l m hm x, or_assoc]
  · obtain ⟨m, hm, hnext⟩ := bind_eq_ok_iff.mp hok
    exact h'.distinct m l' hnext (h.distinct l m hm hl)

/-- A step that is taken only under a condition. -/
theorem Gathers.guard {condition : Prop} [Decidable condition]
    (h : Gathers step fine declares uses) :
    Gathers (fun l => if condition then step l else .ok l) (condition → fine)
      (fun x => condition ∧ declares x) fun x => condition ∧ uses x := by
  by_cases hc : condition
  · simp only [if_pos hc]
    exact h.congr (by simp [hc]) (by simp [hc]) (by simp [hc])
  · simp only [if_neg hc]
    exact gathers_nothing.congr (by simp [hc]) (by simp [hc]) (by simp [hc])

/-- One step after another for the items of a list. -/
theorem gathers_foldlM {ι : Type} {step : Locals → ι → Except Failure Locals} {fine : ι → Prop}
    {declares uses : ι → String → Prop} {items : List ι}
    (h : ∀ i ∈ items, Gathers (step · i) (fine i) (declares i) (uses i)) :
    Gathers (items.foldlM step) (∀ i ∈ items, fine i) (fun x => ∃ i ∈ items, declares i x)
      fun x => ∃ i ∈ items, uses i x := by
  induction items with
  | nil => exact gathers_nothing.congr (by simp) (by simp) (by simp)
  | cons i items ih =>
    obtain ⟨hi, hitems⟩ := List.forall_mem_cons.mp h
    simp only [List.foldlM_cons]
    exact (hi.bind (ih hitems)).congr (by simp) (by simp) (by simp)

end Gathers

theorem names_setLine (known : List (String × Nat)) :
    (setLine name line known).map Prod.fst =
      if name ∈ known.map Prod.fst then known.map Prod.fst else known.map Prod.fst ++ [name] := by
  have hknown : known.any (·.1 == name) = true ↔ name ∈ known.map Prod.fst := by
    simp [List.any_eq_true]
  unfold setLine
  by_cases h : name ∈ known.map Prod.fst
  · rw [if_pos (hknown.mpr h), if_pos h, List.map_map]
    refine List.map_congr_left fun e _ => ?_
    by_cases he : e.1 = name
    · simp [he]
    · simp [he]
  · rw [if_neg (mt hknown.mp h), if_neg h, List.map_append]
    rfl

/-- Go on with what is gathered once a text was read. -/
def readInto (add : String → Locals → Locals) (text : Except Text.Utf8.Malformed String)
    (l : Locals) : Except Failure Locals :=
  match text with
  | .error e => .error (.undecodable e)
  | .ok s => .ok (add s l)

def addName (line : Nat) (s : String) (l : Locals) : Locals :=
  { l with declared := setLine s line l.declared }

def addUse (s : String) (l : Locals) : Locals := { l with used := s :: l.used }

theorem gathers_addName (line : Nat) (text : Except Text.Utf8.Malformed String) :
    Gathers (readInto (addName line) text) (∃ s, text = .ok s) (text = .ok ·)
      fun _ => False := by
  cases text with
  | error e =>
    refine ⟨fun l => ?_, fun l l' h => ?_, fun l l' h => ?_, fun l l' h => ?_⟩
    · simp [readInto]
    all_goals cases h
  | ok s =>
    refine ⟨fun l => by simp [readInto], fun l l' h x => ?_, fun l l' h x => ?_, fun l l' h hl => ?_⟩
    all_goals obtain rfl : addName line s l = l' := Except.ok.inj h
    · rw [Locals.names, Locals.names, addName, names_setLine, Except.ok.injEq, eq_comm (a := s)]
      split
      next hs => exact ⟨.inl, fun h => h.elim (fun hx => hx) fun hx => hx ▸ hs⟩
      next => rw [List.mem_append, List.mem_singleton]
    · rw [or_false]
      rfl
    · rw [Locals.names, addName, names_setLine]
      split
      next => exact hl
      next hs =>
        refine List.nodup_append.mpr ⟨hl, by simp, fun a ha b hb heq => hs ?_⟩
        rw [← List.mem_singleton.mp hb, ← heq]
        exact ha

theorem gathers_addUse (text : Except Text.Utf8.Malformed String) :
    Gathers (readInto addUse text) (∃ s, text = .ok s) (fun _ => False) (text = .ok ·) := by
  cases text with
  | error e =>
    refine ⟨fun l => ?_, fun l l' h => ?_, fun l l' h => ?_, fun l l' h => ?_⟩
    · simp [readInto]
    all_goals cases h
  | ok s =>
    refine ⟨fun l => by simp [readInto], fun l l' h x => ?_, fun l l' h x => ?_, fun l l' h hl => ?_⟩
    all_goals obtain rfl : addUse s l = l' := Except.ok.inj h
    · rw [or_false]
      rfl
    · rw [addUse, List.mem_cons, Except.ok.injEq, or_comm, eq_comm (a := s)]
    · exact hl

/-! ### At one node -/

/-- A declarator, and the node that names what it declares. -/
def Declares (declarator named : Node) : Prop :=
  declarator.kind = "variable_declarator" ∧ declarator.child? "name" = some named

/-- A declaration of local variables, and the node that names one of them. -/
def DeclaresLocal (n named : Node) : Prop :=
  n.kind = "local_variable_declaration" ∧ ∃ d ∈ n.children, Declares d named

def isIdentifier (n : Node) : Bool := n.kind == "identifier" || n.kind == "type_identifier"

theorem isIdentifier_iff {n : Node} :
    isIdentifier n = true ↔ n.kind = "identifier" ∨ n.kind = "type_identifier" := by
  rw [isIdentifier, Bool.or_eq_true, beq_iff_eq, beq_iff_eq]

theorem declareAll_cons (d : Node) (rest : List Node) (l : Locals) :
    declareAll line (d :: rest) l = declareAll line [d] l >>= declareAll line rest := by
  simp only [declareAll]
  split
  · split
    · rfl
    · split <;> rfl
  · rfl

theorem declareAll_eq (cs : List Node) :
    declareAll line cs = cs.foldlM fun l d => declareAll line [d] l := by
  funext l
  induction cs generalizing l with
  | nil => rfl
  | cons d cs ih =>
    rw [declareAll_cons, List.foldlM_cons]
    exact congrArg _ (funext ih)

theorem gathers_declarator (line : Nat) (d : Node) :
    Gathers (declareAll line [d]) (∀ m, Declares d m → ∃ s, m.text = .ok s)
      (fun x => ∃ m, Declares d m ∧ m.text = .ok x) fun _ => False := by
  cases hname : d.child? "name" with
  | none =>
    have hstep : declareAll line [d] = .ok := by
      funext l
      simp only [declareAll, hname, ite_self]
    rw [hstep]
    exact gathers_nothing.congr (by simp [Declares, hname]) (by simp [Declares, hname]) (by simp)
  | some m =>
    have hstep : declareAll line [d] = fun l =>
        if d.kind = "variable_declarator" then readInto (addName line) m.text l else .ok l := by
      funext l
      simp only [declareAll, hname]
      rfl
    rw [hstep]
    exact (gathers_addName line m.text).guard.congr (by simp [Declares, hname])
      (by simp [Declares, hname]) (by simp)

theorem noteLocal_eq (n : Node) : noteLocal n = fun l =>
    (if n.kind = "local_variable_declaration" then declareAll (n.first + 1) n.children l
      else .ok l) >>= fun l => if isIdentifier n = true then readInto addUse n.text l else .ok l := by
  funext l
  simp only [noteLocal, isIdentifier_iff]
  split <;> rfl

theorem gathers_noteLocal (n : Node) :
    Gathers (noteLocal n)
      ((∀ m, DeclaresLocal n m → ∃ s, m.text = .ok s) ∧
        (isIdentifier n = true → ∃ s, n.text = .ok s))
      (fun x => ∃ m, DeclaresLocal n m ∧ m.text = .ok x)
      fun x => isIdentifier n = true ∧ n.text = .ok x := by
  have hdeclare : Gathers (declareAll (n.first + 1) n.children)
      (∀ d ∈ n.children, ∀ m, Declares d m → ∃ s, m.text = .ok s)
      (fun x => ∃ d ∈ n.children, ∃ m, Declares d m ∧ m.text = .ok x)
      fun x => ∃ d ∈ n.children, False := by
    rw [declareAll_eq]
    exact gathers_foldlM fun d _ => gathers_declarator (n.first + 1) d
  rw [noteLocal_eq]
  refine (hdeclare.guard.bind (gathers_addUse n.text).guard).congr (and_congr_left fun _ => ?_)
    (fun x => ?_) (by simp)
  · constructor
    · rintro h m ⟨hkind, d, hd, hm⟩
      exact h hkind d hd m hm
    · intro h hkind d hd m hm
      exact h m ⟨hkind, d, hd, hm⟩
  · rw [and_false, or_false]
    constructor
    · rintro ⟨hkind, d, hd, m, hm, hx⟩
      exact ⟨m, ⟨hkind, d, hd, hm⟩, hx⟩
    · rintro ⟨m, ⟨hkind, d, hd, hm⟩, hx⟩
      exact ⟨hkind, d, hd, m, hm, hx⟩

/-! ### In a tree -/

/-- Somewhere around a place there is a method. -/
def inMethod (p : Place) : Bool := p.around.any isMethod

/-- The node at a place is the one that names a variable in a declaration of local variables. -/
def namesLocal (p : Place) : Bool :=
  match p.around with
  | declarator :: declaration :: _ =>
    declarator.kind == "variable_declarator" &&
      declaration.kind == "local_variable_declaration" &&
      p.path.getLast? == declarator.roleIndex? "name"
  | _ => false

theorem namesLocal_iff {p : Place} : namesLocal p = true ↔
    ∃ d n around, p.around = d :: n :: around ∧ d.kind = "variable_declarator" ∧
      n.kind = "local_variable_declaration" ∧ p.path.getLast? = d.roleIndex? "name" := by
  obtain ⟨path, node, around⟩ := p
  match around with
  | [] => simp [namesLocal]
  | [_] => simp [namesLocal]
  | d :: n :: around => simp [namesLocal, and_assoc]

theorem isMethod_eq_false {n : Node} {kind : String} (h : n.kind = kind)
    (hkind : kind ≠ "method_declaration") : isMethod n = false := by
  rw [isMethod, h]
  exact beq_eq_false_iff_ne.mpr hkind

/-- What the declarations of a tree name, told from the places of the names. -/
theorem exists_named_iff (property : Node → Prop) :
    (∃ p ∈ tree.places, (p.node :: p.around).any isMethod = true ∧
        ∃ m, DeclaresLocal p.node m ∧ property m) ↔
      ∃ p ∈ tree.places, inMethod p = true ∧ namesLocal p = true ∧ property p.node := by
  constructor
  · rintro ⟨⟨path, n, around⟩, hp, hmethod, m, ⟨hkind, d, hd, hdkind, hname⟩, hm⟩
    obtain ⟨i, hi⟩ := List.mem_iff_getElem?.mp hd
    rw [Node.child?_eq] at hname
    obtain ⟨j, hrole, hj⟩ := Option.bind_eq_some_iff.mp hname
    refine ⟨_, Node.child_mem_places (Node.child_mem_places hp hi) hj, ?_, ?_, hm⟩
    · rw [inMethod, List.any_cons, hmethod, Bool.or_true]
    · exact namesLocal_iff.mpr ⟨d, n, around, rfl, hdkind, hkind, by
        rw [List.getLast?_concat, hrole]⟩
  · rintro ⟨p, hp, hmethod, hnames, hm⟩
    obtain ⟨d, n, around, haround, hdkind, hkind, hrole⟩ := namesLocal_iff.mp hnames
    obtain ⟨path, j, hpath, hd, hj⟩ := Node.exists_parent hp haround
    obtain ⟨path', i, -, hn, hi⟩ := Node.exists_parent hd rfl
    rw [hpath, List.getLast?_concat] at hrole
    have hchild : d.child? "name" = some p.node := by
      rw [Node.child?_eq, ← hrole, Option.bind_some, hj]
    have hnot : isMethod d = false := isMethod_eq_false hdkind (by decide)
    rw [inMethod, haround, List.any_cons, hnot, Bool.false_or] at hmethod
    exact ⟨_, hn, hmethod, p.node, ⟨hkind, d, List.mem_of_getElem? hi, hdkind, hchild⟩, hm⟩

theorem forall_named_iff (property : Node → Prop) :
    (∀ p ∈ tree.places, (p.node :: p.around).any isMethod = true →
        ∀ m, DeclaresLocal p.node m → property m) ↔
      ∀ p ∈ tree.places, inMethod p = true → namesLocal p = true → property p.node := by
  constructor
  · intro h p hp hmethod hnames
    by_contra hnot
    obtain ⟨p', hp', hmethod', m, hm, hnot'⟩ :=
      (exists_named_iff fun m => ¬ property m).mpr ⟨p, hp, hmethod, hnames, hnot⟩
    exact hnot' (h p' hp' hmethod' m hm)
  · intro h p hp hmethod m hm
    by_contra hnot
    obtain ⟨p', hp', hmethod', hnames, hnot'⟩ :=
      (exists_named_iff fun m => ¬ property m).mp ⟨p, hp, hmethod, m, hm, hnot⟩
    exact hnot' (h p' hp' hmethod' hnames)

theorem inMethod_of_isIdentifier {p : Place} (h : isIdentifier p.node = true) :
    (p.node :: p.around).any isMethod = inMethod p := by
  have hnot : isMethod p.node = false := by
    rcases isIdentifier_iff.mp h with hkind | hkind
    · exact isMethod_eq_false hkind (by decide)
    · exact isMethod_eq_false hkind (by decide)
  rw [List.any_cons, hnot, Bool.false_or, inMethod]

/-- A declaration inside a method declares the name. -/
def Declared (tree : Node) (name : String) : Prop :=
  ∃ p ∈ tree.places, inMethod p ∧ namesLocal p ∧ p.node.text = .ok name

/-- An identifier inside a method has the name as its text. -/
def Mentioned (tree : Node) (name : String) : Prop :=
  ∃ p ∈ tree.places, inMethod p ∧ isIdentifier p.node ∧ p.node.text = .ok name

/-- What is read inside methods has a text. -/
def Legible (tree : Node) : Prop :=
  ∀ p ∈ tree.places, inMethod p → namesLocal p ∨ isIdentifier p.node → ∃ s, p.node.text = .ok s

/-- The walk gathers what is declared and what is mentioned inside methods. -/
theorem gathers_localsFrom (tree : Node) :
    Gathers (localsFrom false tree) (Legible tree) (Declared tree) (Mentioned tree) := by
  rw [funext (localsFrom_eq false tree)]
  refine (gathers_foldlM fun p _ => (gathers_noteLocal p.node).guard).congr ?_ (fun x => ?_)
    fun x => ?_
  · have hnamed := @forall_named_iff tree fun m => ∃ s, m.text = .ok s
    constructor
    · rintro h p hp hmethod (hnames | hid)
      · exact hnamed.mp (fun p hp hin => (h p hp hin).1) p hp hmethod hnames
      · exact (h p hp ((inMethod_of_isIdentifier hid).trans hmethod)).2 hid
    · intro h p hp hin
      refine ⟨hnamed.mpr (fun p hp hmethod hnames => h p hp hmethod (.inl hnames)) p hp hin, ?_⟩
      intro hid
      exact h p hp ((inMethod_of_isIdentifier hid).symm.trans hin) (.inr hid)
  · exact exists_named_iff fun m => m.text = .ok x
  · refine exists_congr fun p => and_congr_right fun _ => ?_
    constructor
    · rintro ⟨hin, hid, hx⟩
      exact ⟨(inMethod_of_isIdentifier hid).symm.trans hin, hid, hx⟩
    · rintro ⟨hmethod, hid, hx⟩
      exact ⟨(inMethod_of_isIdentifier hid).trans hmethod, hid, hx⟩

/-! ### The reports -/

/-- The report that a variable is not used. -/
def isAbout (name : String) (i : Issue) : Bool :=
  i.id == "JAVA_UNUSED_VAR" &&
    i.message == "Local variable '" ++ name ++ "' is assigned but never used"

theorem isAbout_unusedVariable_iff {x : String} :
    isAbout name ⟨.java, .unusedVariable x line⟩ = true ↔ x = name := by
  have hid : Issue.id ⟨.java, .unusedVariable x line⟩ = "JAVA_UNUSED_VAR" :=
    (by decide : "JAVA_" ++ "UNUSED_VAR" = "JAVA_UNUSED_VAR")
  rw [isAbout, hid, beq_self_eq_true, Bool.true_and, beq_iff_eq]
  constructor
  · intro h
    have hchars := congrArg String.toList h
    simp only [Issue.message, String.toList_append, List.append_cancel_left_eq,
      List.append_cancel_right_eq] at hchars
    exact String.toList_injective hchars
  · rintro rfl
    rfl

theorem isAbout_unusedImports {code : String} {i : Issue} (h : i ∈ unusedImports code) :
    ¬ isAbout name i = true := by
  obtain ⟨⟨x, line⟩, -, hi⟩ := List.mem_filterMap.mp h
  dsimp only at hi
  split at hi
  · cases hi
  · obtain rfl := Option.some.inj hi
    have hid : Issue.id ⟨.java, .unusedImport x line⟩ = "JAVA_UNUSED_IMPORT" :=
      (by decide : "JAVA_" ++ "UNUSED_IMPORT" = "JAVA_UNUSED_IMPORT")
    rw [isAbout, hid]
    simp

/-- A declared name is reported once, unless it is used. -/
theorem countP_isAbout {code : String} {issues : List Issue} {l : Locals}
    (hl : localsFrom false tree ⟨[], []⟩ = .ok l) (h : unusedNames tree code = .ok issues) :
    issues.countP (isAbout name) = if name ∈ l.used then 0 else l.names.count name := by
  have hreported : ∀ e ∈ l.declared,
      (((if l.used.contains e.1 then none else some ⟨.java, .unusedVariable e.1 e.2⟩ :
        Option Issue).map (isAbout name)).getD false = true) ↔ e.1 = name ∧ name ∉ l.used := by
    intro e _
    by_cases hused : e.1 ∈ l.used
    · have hne : ¬ (e.1 = name ∧ name ∉ l.used) := fun h => h.2 (h.1 ▸ hused)
      simpa [hused] using hne
    · rw [if_neg (by simpa using hused), Option.map_some, Option.getD_some,
        isAbout_unusedVariable_iff]
      exact ⟨fun heq => ⟨heq, heq ▸ hused⟩, And.left⟩
  rw [unusedNames, unusedLocals, hl] at h
  rw [← Except.ok.inj h, List.countP_append,
    List.countP_eq_zero.mpr fun i hi => isAbout_unusedImports hi, Nat.zero_add,
    List.countP_filterMap]
  split
  next hused =>
    refine List.countP_eq_zero.mpr fun e he hcount => ?_
    exact ((hreported e he).mp hcount).2 hused
  next hused =>
    rw [Locals.names, List.count, List.countP_map]
    refine List.countP_congr fun e he => ?_
    rw [Function.comp_apply, beq_iff_eq]
    exact (hreported e he).trans (and_iff_left hused)

/-- An identifier inside a method that does not name a variable in its declaration has the name as
its text. -/
def Elsewhere (tree : Node) (name : String) : Prop :=
  ∃ p ∈ tree.places, inMethod p ∧ isIdentifier p.node ∧ ¬ namesLocal p ∧ p.node.text = .ok name

/-- One of the nodes that name the variable in its declarations is an identifier. -/
def NamedPlainly (tree : Node) (name : String) : Prop :=
  ∃ p ∈ tree.places, inMethod p ∧ namesLocal p ∧ isIdentifier p.node ∧ p.node.text = .ok name

theorem mentioned_iff : Mentioned tree name ↔ Elsewhere tree name ∨ NamedPlainly tree name := by
  constructor
  · rintro ⟨p, hp, hmethod, hid, htext⟩
    by_cases hnames : namesLocal p = true
    · exact .inr ⟨p, hp, hmethod, hnames, hid, htext⟩
    · exact .inl ⟨p, hp, hmethod, hid, hnames, htext⟩
  · rintro (⟨p, hp, hmethod, hid, -, htext⟩ | ⟨p, hp, hmethod, -, hid, htext⟩)
    · exact ⟨p, hp, hmethod, hid, htext⟩
    · exact ⟨p, hp, hmethod, hid, htext⟩

/-- If all that is read has a text, no name is reported twice. One is reported just when it is
declared in a method, occurs nowhere else in methods, and is named in its declarations by nodes
that are no identifiers. -/
theorem unused_local_reported_iff (tree : Node) (code : String) :
    ((∃ issues, unusedNames tree code = .ok issues) ↔ Legible tree) ∧
      ∀ issues, unusedNames tree code = .ok issues → ∀ name,
        issues.countP (isAbout name) ≤ 1 ∧
          (issues.countP (isAbout name) = 1 ↔
            Declared tree name ∧ ¬ Elsewhere tree name ∧ ¬ NamedPlainly tree name) := by
  have hwalk := gathers_localsFrom tree
  have hends : ∀ issues, unusedNames tree code = .ok issues →
      ∃ l, localsFrom false tree ⟨[], []⟩ = .ok l := by
    intro issues h
    cases hl : localsFrom false tree ⟨[], []⟩ with
    | error e =>
      rw [unusedNames, unusedLocals, hl] at h
      cases h
    | ok l => exact ⟨l, rfl⟩
  refine ⟨?_, fun issues h name => ?_⟩
  · rw [← hwalk.ends ⟨[], []⟩]
    constructor
    · rintro ⟨issues, h⟩
      exact hends issues h
    · rintro ⟨l, hl⟩
      exact ⟨_, by rw [unusedNames, unusedLocals, hl]; rfl⟩
  · obtain ⟨l, hl⟩ := hends issues h
    have hdeclared : name ∈ l.names ↔ Declared tree name :=
      (hwalk.names _ l hl name).trans (or_iff_right (by simp [Locals.names]))
    have hused : name ∈ l.used ↔ Mentioned tree name :=
      (hwalk.used _ l hl name).trans (or_iff_right (by simp))
    have hdistinct : l.names.Nodup := hwalk.distinct _ l hl .nil
    rw [countP_isAbout hl h, ← not_or, ← mentioned_iff, ← hdeclared, ← hused]
    split
    next hname => simp [hname]
    next hname =>
      refine ⟨List.nodup_iff_count_le_one.mp hdistinct name, ?_⟩
      rw [and_iff_left hname]
      exact ⟨fun hone => List.count_pos_iff.mp (by omega), List.count_eq_one_of_mem hdistinct⟩

namespace Receipt

def declarator (kind name : String) : Node :=
  .mk "variable_declarator" 1 1 (.ok name) [("name", 0)] [.mk kind 1 1 (.ok name) [] []]

def declaration (kind name : String) : Node :=
  .mk "local_variable_declaration" 1 1 (.ok name) [] [declarator kind name]

/-- A method that only declares a variable. -/
def sum (kind name : String) : Node :=
  .mk "method_declaration" 0 2 (.ok name) [] [declaration kind name]

theorem places_sum (kind name : String) : (sum kind name).places =
    [⟨[], sum kind name, []⟩, ⟨[0], declaration kind name, [sum kind name]⟩,
      ⟨[0, 0], declarator kind name, [declaration kind name, sum kind name]⟩,
      ⟨[0, 0, 0], .mk kind 1 1 (.ok name) [] [],
        [declarator kind name, declaration kind name, sum kind name]⟩] := rfl

theorem declared_sum (kind name : String) : Declared (sum kind name) name :=
  ⟨_, List.mem_of_getElem? (i := 3) rfl, rfl, rfl, rfl⟩

/-- What is mentioned is mentioned where it is declared. -/
theorem not_elsewhere_sum (kind name : String) : ¬ Elsewhere (sum kind name) name := by
  rintro ⟨p, hp, -, hid, hnot, -⟩
  simp only [places_sum, List.mem_cons, List.not_mem_nil, or_false] at hp
  rcases hp with rfl | rfl | rfl | rfl
  · cases hid
  · cases hid
  · cases hid
  · exact hnot rfl

/-- A variable without a name, whose declaration has no identifier, is reported. -/
theorem unnamed_reported :
    ∃ issues, unusedNames (sum "underscore_pattern" "_") "" = .ok issues ∧
      issues.countP (isAbout "_") = 1 := by
  have hlegible : Legible (sum "underscore_pattern" "_") := by
    intro p hp _ _
    simp only [places_sum, List.mem_cons, List.not_mem_nil, or_false] at hp
    rcases hp with rfl | rfl | rfl | rfl
    all_goals exact ⟨_, rfl⟩
  have hplainly : ¬ NamedPlainly (sum "underscore_pattern" "_") "_" := by
    rintro ⟨p, hp, -, -, hid, -⟩
    simp only [places_sum, List.mem_cons, List.not_mem_nil, or_false] at hp
    rcases hp with rfl | rfl | rfl | rfl
    all_goals cases hid
  obtain ⟨hends, hreported⟩ := unused_local_reported_iff (sum "underscore_pattern" "_") ""
  obtain ⟨issues, h⟩ := hends.mpr hlegible
  exact ⟨issues, h, (hreported issues h "_").2.mpr
    ⟨declared_sum _ _, not_elsewhere_sum _ _, hplainly⟩⟩

/-- A variable that is never used is not reported, since its declaration counts as a use. -/
theorem total_not_reported :
    Declared (sum "identifier" "total") "total" ∧ ¬ Elsewhere (sum "identifier" "total") "total" ∧
      unusedNames (sum "identifier" "total") "void sum() \x7b\n    int total = 0;\n\x7d" =
        .ok [] :=
  ⟨declared_sum _ _, not_elsewhere_sum _ _, rfl⟩

end Receipt

end Issue

end CodeAtlas
