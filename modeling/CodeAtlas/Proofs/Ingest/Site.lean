import CodeAtlas.Link.Collect
import CodeAtlas.Proofs.Ingest.Identity

/-! Where in a tree something is extracted from. A node stands inside the nearest definition
around it, and what is extracted from a tree is what each node contributes where it stands. A
call is noted with the text of what is called. Whether the name that is called is also noted as
one that is used depends on the nodes of which that text is made up. -/

namespace CodeAtlas.Ingest

open Link (normalForm)

/-! ### Inversion -/

/-- Whose all is that stands at or below a node: of the definition at the node, or else of the
one around it. -/
def ownerAt (src : Source) (owner : Option String) (n : Node) : Option String :=
  ((definitionAt? src owner n).map (·.id)).or owner

section Inversion
variable {src : Source} {owner : Option String} {n : Node} {x : Extraction}

theorem extractFrom_eq_ok (h : extractFrom src owner n = .ok x) :
    ∃ own below, contribution src owner (definitionAt? src owner n) n = .ok own ∧
      extractAll src (ownerAt src owner n) n.children = .ok below ∧ x = own.append below := by
  rcases n with ⟨kind, first, last, text, roles, children⟩
  simp only [extractFrom] at h
  generalize hn : Node.mk kind first last text roles children = n at h
  rcases hown : contribution src owner (definitionAt? src owner n) n with _ | own
  · simp [hown, bind, Except.bind] at h
  rcases hbelow : extractAll src (ownerAt src owner n) children with _ | below
  · rw [ownerAt] at hbelow
    simp [hown, hbelow, bind, Except.bind] at h
  refine ⟨own, below, rfl, by rw [← hn] at hbelow ⊢; exact hbelow, ?_⟩
  rw [ownerAt] at hbelow
  simpa [hown, hbelow, bind, Except.bind, pure, Except.pure, eq_comm] using h

theorem extractAll_cons_eq_ok {rest : List Node} (h : extractAll src owner (n :: rest) = .ok x) :
    ∃ a b, extractFrom src owner n = .ok a ∧ extractAll src owner rest = .ok b ∧
      x = a.append b := by
  simp only [extractAll] at h
  rcases ha : extractFrom src owner n with _ | a
  · simp [ha, bind, Except.bind] at h
  rcases hb : extractAll src owner rest with _ | b
  · simp [ha, hb, bind, Except.bind] at h
  refine ⟨a, b, rfl, rfl, ?_⟩
  simpa [ha, hb, bind, Except.bind, pure, Except.pure, eq_comm] using h

/-- Outside of all definitions neither calls nor uses are noted. -/
theorem contribution_eq_ok
    (h : contribution src owner (definitionAt? src owner n) n = .ok x) :
    (ownerAt src owner n = none ∧ x.calls = [] ∧ x.usages = []) ∨
      ∃ o, ownerAt src owner n = some o ∧ callsAt src.language o n = .ok x.calls ∧
        usagesAt src.language o n = .ok x.usages := by
  unfold contribution at h
  rw [← ownerAt] at h
  cases ho : ownerAt src owner n with
  | none =>
    simp only [ho, Except.ok.injEq] at h
    exact .inl ⟨rfl, by rw [← h], by rw [← h]⟩
  | some o =>
    simp only [ho] at h
    rcases hc : callsAt src.language o n with _ | calls
    · simp [hc, bind, Except.bind] at h
    rcases hu : usagesAt src.language o n with _ | usages
    · simp [hc, hu, bind, Except.bind] at h
    simp only [hc, hu, bind, Except.bind, pure, Except.pure, Except.ok.injEq] at h
    exact .inr ⟨o, rfl, by rw [← h, hc], by rw [← h, hu]⟩

end Inversion

/-! ### Parts of an extraction -/

/-- Everything in one extraction is in another. -/
structure Extraction.Part (a b : Extraction) : Prop where
  definitions : a.definitions ⊆ b.definitions
  calls : a.calls ⊆ b.calls
  usages : a.usages ⊆ b.usages

namespace Extraction.Part

theorem refl (a : Extraction) : a.Part a :=
  ⟨List.Subset.refl _, List.Subset.refl _, List.Subset.refl _⟩

theorem trans {a b c : Extraction} (h : a.Part b) (h' : b.Part c) : a.Part c :=
  ⟨List.Subset.trans h.definitions h'.definitions, List.Subset.trans h.calls h'.calls,
    List.Subset.trans h.usages h'.usages⟩

theorem left (a b : Extraction) : a.Part (a.append b) :=
  ⟨List.subset_append_left _ _, List.subset_append_left _ _, List.subset_append_left _ _⟩

theorem right (a b : Extraction) : b.Part (a.append b) :=
  ⟨List.subset_append_right _ _, List.subset_append_right _ _, List.subset_append_right _ _⟩

end Extraction.Part

theorem part_of_mem {src : Source} {owner : Option String} {ns : List Node} {n : Node}
    {x : Extraction} (h : extractAll src owner ns = .ok x) (hn : n ∈ ns) :
    ∃ y, extractFrom src owner n = .ok y ∧ y.Part x := by
  induction ns generalizing x with
  | nil => cases hn
  | cons n' rest ih =>
    obtain ⟨a, b, ha, hb, rfl⟩ := extractAll_cons_eq_ok h
    rcases List.mem_cons.mp hn with rfl | hn
    · exact ⟨a, ha, .left a b⟩
    · obtain ⟨y, hy, hpart⟩ := ih hb hn
      exact ⟨y, hy, hpart.trans (.right a b)⟩

theorem part_of_child {src : Source} {owner : Option String} {n c : Node} {x : Extraction}
    (h : extractFrom src owner n = .ok x) (hc : c ∈ n.children) :
    ∃ y, extractFrom src (ownerAt src owner n) c = .ok y ∧ y.Part x := by
  obtain ⟨own, below, -, hbelow, rfl⟩ := extractFrom_eq_ok h
  obtain ⟨y, hy, hpart⟩ := part_of_mem hbelow hc
  exact ⟨y, hy, hpart.trans (.right own below)⟩

/-! ### Sites -/

/-- A node is at or below another one, and the definition around it is this one. -/
inductive Stands (src : Source) : Option String → Node → Option String → Node → Prop where
  | here (owner : Option String) (n : Node) : Stands src owner n owner n
  | under {owner owner' : Option String} {n c m : Node} (hc : c ∈ n.children)
    (h : Stands src (ownerAt src owner n) c owner' m) : Stands src owner n owner' m

theorem Stands.part {src : Source} {owner owner' : Option String} {n m : Node}
    (hm : Stands src owner n owner' m) {x : Extraction} (h : extractFrom src owner n = .ok x) :
    ∃ y, extractFrom src owner' m = .ok y ∧ y.Part x := by
  induction hm generalizing x with
  | here => exact ⟨x, h, .refl x⟩
  | under hc _ ih =>
    obtain ⟨y, hy, hyx⟩ := part_of_child h hc
    obtain ⟨z, hz, hzy⟩ := ih hy
    exact ⟨z, hz, hzy.trans hyx⟩

theorem mem_preorderAll {ns : List Node} {n m : Node} (hn : n ∈ ns) (hm : m ∈ n.preorder) :
    m ∈ Node.preorderAll ns := by
  induction ns with
  | nil => cases hn
  | cons n' rest ih =>
    rw [Node.preorderAll, List.mem_append]
    rcases List.mem_cons.mp hn with rfl | hn
    · exact .inl hm
    · exact .inr (ih hn)

theorem Stands.mem_preorder {src : Source} {owner owner' : Option String} {n m : Node}
    (hm : Stands src owner n owner' m) : m ∈ n.preorder := by
  induction hm with
  | here owner n =>
    cases n
    exact List.mem_cons_self
  | @under owner owner' n c m hc _ ih =>
    cases n
    exact List.mem_cons_of_mem _ (mem_preorderAll hc ih)

theorem ownerAt_extracted {src : Source} {owner : Option String} {n : Node} {x : Extraction}
    (h : extractFrom src owner n = .ok x) {o : String} (ho : ownerAt src owner n = some o) :
    owner = some o ∨ ∃ d ∈ x.definitions, d.id = o := by
  obtain ⟨own, below, hown, -, rfl⟩ := extractFrom_eq_ok h
  rw [ownerAt] at ho
  cases hd : definitionAt? src owner n with
  | none => exact .inl (by simpa [hd] using ho)
  | some d =>
    have hmem : d ∈ own.definitions := by
      rw [definitions_of_contribution hown, hd]
      exact List.mem_singleton.mpr rfl
    exact .inr ⟨d, (Extraction.Part.left own below).definitions hmem, by simpa [hd] using ho⟩

/-- A definition around a node is extracted, unless it is around the whole tree. -/
theorem Stands.owner_extracted {src : Source} {owner owner' : Option String} {n m : Node}
    (hm : Stands src owner n owner' m) {x : Extraction} (h : extractFrom src owner n = .ok x)
    {o : String} (ho : ownerAt src owner' m = some o) :
    owner = some o ∨ ∃ d ∈ x.definitions, d.id = o := by
  induction hm generalizing x with
  | here => exact ownerAt_extracted h ho
  | under hc _ ih =>
    obtain ⟨y, hy, hpart⟩ := part_of_child h hc
    rcases ih hy ho with houter | ⟨d, hd, hid⟩
    · exact ownerAt_extracted h houter
    · exact .inr ⟨d, hpart.definitions hd, hid⟩

mutual

/-- A call that is extracted from a tree is contributed by one of its nodes. -/
theorem exists_site (src : Source) : ∀ (owner : Option String) (n : Node) {x : Extraction},
    extractFrom src owner n = .ok x → ∀ c ∈ x.calls, ∃ owner' m y, Stands src owner n owner' m ∧
      contribution src owner' (definitionAt? src owner' m) m = .ok y ∧ c ∈ y.calls
  | owner, .mk kind first last text roles children, x, h, c, hc => by
    obtain ⟨own, below, hown, hbelow, rfl⟩ := extractFrom_eq_ok h
    rcases List.mem_append.mp hc with hc | hc
    · exact ⟨owner, _, own, .here owner _, hown, hc⟩
    · obtain ⟨n, hn, owner', m, y, hm, hy, hcy⟩ := exists_site_all src _ children hbelow c hc
      exact ⟨owner', m, y, .under hn hm, hy, hcy⟩

theorem exists_site_all (src : Source) : ∀ (owner : Option String) (ns : List Node)
    {x : Extraction}, extractAll src owner ns = .ok x → ∀ c ∈ x.calls, ∃ n ∈ ns, ∃ owner' m y,
      Stands src owner n owner' m ∧
      contribution src owner' (definitionAt? src owner' m) m = .ok y ∧ c ∈ y.calls
  | owner, [], x, h, c, hc => by
    simp only [extractAll, Except.ok.injEq] at h
    rw [← h] at hc
    cases hc
  | owner, n :: rest, x, h, c, hc => by
    obtain ⟨a, b, ha, hb, rfl⟩ := extractAll_cons_eq_ok h
    rcases List.mem_append.mp hc with hc | hc
    · exact ⟨n, List.mem_cons_self, exists_site src owner n ha c hc⟩
    · obtain ⟨n', hn', hsite⟩ := exists_site_all src owner rest hb c hc
      exact ⟨n', List.mem_cons_of_mem _ hn', hsite⟩

end

/-! ### Calls and the names in them -/

theorem mem_children_of_child? {n c : Node} {role : String} (h : n.child? role = some c) :
    c ∈ n.children := by
  cases n
  obtain ⟨i, -, hi⟩ := Option.bind_eq_some_iff.mp h
  exact List.mem_of_getElem? hi

theorem textOf_ok {n : Node} {text : String} (h : n.text = .ok text) : textOf n = .ok text := by
  rw [textOf, h]
  rfl

theorem text_of_textOf {n : Node} {text : String} (h : textOf n = .ok text) : n.text = .ok text := by
  rw [textOf] at h
  cases ht : n.text with
  | ok t =>
    rw [ht] at h
    exact congrArg Except.ok (Except.ok.inj h)
  | error e =>
    rw [ht] at h
    cases h

theorem callsAt_eq_ok {lang : Language} {o : String} {n : Node} {cs : List Mention} {c : Mention}
    (h : callsAt lang o n = .ok cs) (hc : c ∈ cs) :
    c.owner = o ∧ ∃ role how callee, callRole? lang n.kind = some (role, how) ∧
      n.child? role = some callee ∧ callee.text = .ok c.name := by
  unfold callsAt at h
  split at h
  · cases h
    cases hc
  next role how hrole =>
    split at h
    · cases h
      cases hc
    next callee hcallee =>
      cases htext : textOf callee with
      | error e =>
        rw [htext] at h
        cases h
      | ok text =>
        rw [htext] at h
        obtain rfl : [⟨o, text, how⟩] = cs := Except.ok.inj h
        obtain rfl := List.mem_singleton.mp hc
        exact ⟨rfl, role, how, callee, hrole, hcallee, text_of_textOf htext⟩

/-- A call is noted for the definition that it stands in, and so is all in what is called. -/
theorem exists_callSite {src : Source} {tree : Node} {x : Extraction}
    (h : extractFrom src none tree = .ok x) {c : Mention} (hc : c ∈ x.calls) :
    (∃ d ∈ x.definitions, d.id = c.owner) ∧
    ∃ m ∈ tree.preorder, ∃ role how callee, callRole? src.language m.kind = some (role, how) ∧
      m.child? role = some callee ∧ callee.text = .ok c.name ∧
      ∃ y, extractFrom src (some c.owner) callee = .ok y ∧ y.Part x := by
  obtain ⟨owner, m, y, hm, hy, hcy⟩ := exists_site src none tree h c hc
  rcases contribution_eq_ok hy with ⟨-, hnone, -⟩ | ⟨o, ho, hcalls, -⟩
  · rw [hnone] at hcy
    cases hcy
  · obtain ⟨rfl, role, how, callee, hrole, hcallee, htext⟩ := callsAt_eq_ok hcalls hcy
    refine ⟨(hm.owner_extracted h ho).resolve_left (by simp), m, hm.mem_preorder, role, how, callee,
      hrole, hcallee, htext, ?_⟩
    obtain ⟨z, hz, hzx⟩ := hm.part h
    obtain ⟨y', hy', hpart⟩ := part_of_child hz (mem_children_of_child? hcallee)
    rw [ho] at hy'
    exact ⟨y', hy', hpart.trans hzx⟩

/-- A name with this normal form is used at a node, or below it without a definition between. -/
inductive Spells (lang : Language) (symbol : String) : Node → Prop where
  | here {n : Node} {how text : String} (hn : usage? lang n.kind = some how)
    (htext : n.text = .ok text) (h : normalForm text = symbol) : Spells lang symbol n
  | under {n c : Node} (hn : (definitionKinds lang).lookup n.kind = none) (hc : c ∈ n.children)
    (h : Spells lang symbol c) : Spells lang symbol n

/-- Wherever a symbol is called in a tree, it is spelled with names that are noted. -/
def SpelledInCalls (lang : Language) (symbol : String) (tree : Node) : Prop :=
  ∀ m ∈ tree.preorder, ∀ role how callee text, callRole? lang m.kind = some (role, how) →
    m.child? role = some callee → callee.text = .ok text → normalForm text = symbol →
    Spells lang symbol callee

theorem lookup_of_usage? {lang : Language} {kind how : String} (h : usage? lang kind = some how) :
    (definitionKinds lang).lookup kind = none := by
  unfold usage? at h
  split at h <;> first | rfl | cases h

theorem Spells.exists_usage {src : Source} {symbol : String} {n : Node}
    (h : Spells src.language symbol n) {o : String} {x : Extraction}
    (hx : extractFrom src (some o) n = .ok x) :
    ∃ u ∈ x.usages, u.owner = o ∧ normalForm u.name = symbol := by
  -- Where no definition starts, the owner stays the same.
  have howner : ∀ {n : Node}, (definitionKinds src.language).lookup n.kind = none →
      ownerAt src (some o) n = some o := fun hn => by simp [ownerAt, definitionAt?, hn]
  induction h generalizing x with
  | @here n how text hn htext hsymbol =>
    obtain ⟨own, below, hown, -, rfl⟩ := extractFrom_eq_ok hx
    rcases contribution_eq_ok hown with ⟨hnone, -⟩ | ⟨o', ho', -, husages⟩
    · rw [howner (lookup_of_usage? hn)] at hnone
      cases hnone
    · rw [howner (lookup_of_usage? hn)] at ho'
      obtain rfl := Option.some.inj ho'
      have hmem : ⟨o, text, how⟩ ∈ own.usages := by
        rw [usagesAt, hn] at husages
        simp only [textOf_ok htext] at husages
        exact Except.ok.inj husages ▸ List.mem_singleton.mpr rfl
      exact ⟨_, (Extraction.Part.left own below).usages hmem, rfl, hsymbol⟩
  | under hn hc _ ih =>
    obtain ⟨y, hy, hpart⟩ := part_of_child hx hc
    rw [howner hn] at hy
    obtain ⟨u, hu, hou⟩ := ih hy
    exact ⟨u, hpart.usages hu, hou⟩

/-- A call of a symbol that is spelled in its calls is noted as a use as well. -/
theorem exists_usage_of_call {lang : Language} {content path : String} {maxRows : Int}
    {tree : Node} {x : Extraction} (h : extract lang content path maxRows tree = .ok x)
    {c : Mention} (hc : c ∈ x.calls) (hspelled : SpelledInCalls lang (normalForm c.name) tree) :
    ∃ u ∈ x.usages, u.owner = c.owner ∧ normalForm u.name = normalForm c.name := by
  rw [extract_eq_extractFrom] at h
  obtain ⟨-, m, hm, role, how, callee, hrole, hcallee, htext, y, hy, hpart⟩ := exists_callSite h hc
  have hspells := hspelled m hm role how callee c.name hrole hcallee htext rfl
  obtain ⟨u, hu, howner, hname⟩ := hspells.exists_usage hy
  exact ⟨u, hpart.usages hu, howner, hname⟩

end CodeAtlas.Ingest
