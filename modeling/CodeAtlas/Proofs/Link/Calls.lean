import CodeAtlas.Proofs.Ingest.Site
import CodeAtlas.Proofs.Link.Ingested

/-! Calls in the code and calls in the graph, for a file that is taken into an empty database
and then linked. Which links there are is decided by the uses that were noted: the calls that
were noted with them are not looked at again. So a call has its link just if the called name was
noted as a use too, and a link stands for a call just if the use was one. -/

namespace CodeAtlas.Link

open Dialogue Ingest
open CodeAtlas.Graph (CodeRecord)

/-! ### Links and uses -/

/-- A use in a function or method, of a symbol that another one is the first to define. -/
structure LeadsTo (rs : List CodeRecord) (u : Mention) (b : CodeRecord) : Prop where
  caller : ∃ a ∈ rs, a.id = u.owner ∧ a.kind ∈ ["function", "method"]
  first : IsFirst rs ["function", "method"] (normalForm u.name) b
  other : b.id ≠ u.owner

theorem gives_records {f : SourceFile} {nodes : List StoredNode}
    (hgives : ∀ n ∈ nodes, Gives f n.record) : ∀ r ∈ nodes.map (·.record), Gives f r := by
  intro r hr
  obtain ⟨n, hn, rfl⟩ := List.mem_map.mp hr
  exact hgives n hn

section Uses
variable {f : SourceFile} {rs : List CodeRecord} (hgives : ∀ r ∈ rs, Gives f r)
include hgives

theorem calls_iff_leadsTo {l : SemanticLink} : l ∈ linksOf rs ∧ l.relation = .calls ↔
    ∃ u ∈ f.extraction.usages, ∃ b, LeadsTo rs u b ∧
      l = ⟨.string u.owner, .string b.id, .calls⟩ := by
  rw [mem_linksOf_calls_iff]
  constructor
  · rintro ⟨a, ha, hkind, s, hs, b, hb, hne, rfl⟩
    obtain ⟨u, hu, howner, rfl⟩ := ((hgives a ha).mem_used_iff hkind).mp hs
    refine ⟨u, hu, b, ⟨⟨a, ha, howner.symm, hkind⟩, hb, howner ▸ hne⟩, ?_⟩
    rw [howner]
    rfl
  · rintro ⟨u, hu, b, ⟨⟨a, ha, howner, hkind⟩, hb, hne⟩, rfl⟩
    have hs : u.name ∈ a.used := ((hgives a ha).mem_used_iff hkind).mpr ⟨u, hu, howner.symm, rfl⟩
    refine ⟨a, ha, hkind, u.name, hs, b, hb, howner.symm ▸ hne, ?_⟩
    rw [← howner]
    rfl

/-- Records with one id define the same. -/
theorem normalForm_of_offers {b b' : CodeRecord} (hb : b ∈ rs) (hb' : b' ∈ rs) (hid : b.id = b'.id)
    {kinds : List String} {symbol : String} (hoffers : Offers kinds symbol b) {d : String}
    (hd : d ∈ b'.defined) : normalForm d = symbol := by
  obtain ⟨-, e, he, rfl⟩ := hoffers
  have he' := (hgives b hb).mem_definedBy he
  have hd' := (hgives b' hb').mem_definedBy hd
  rw [hid] at he'
  rw [definedBy_unique hd' he']

/-- To what is the only one to offer a symbol there is a link just if the symbol is used. -/
theorem mem_linksOf_iff_used {a b : CodeRecord} (ha : a ∈ rs)
    (hkind : a.kind ∈ ["function", "method"]) (hb : b ∈ rs) {symbol : String}
    (hoffers : Offers ["function", "method"] symbol b)
    (honly : ∀ b' ∈ rs, Offers ["function", "method"] symbol b' → b'.id = b.id)
    (hne : b.id ≠ a.id) : linkBetween .calls a b ∈ linksOf rs ↔
      ∃ u ∈ f.extraction.usages, u.owner = a.id ∧ normalForm u.name = symbol := by
  constructor
  · intro hlink
    obtain ⟨u, hu, b', hleads, heq⟩ := (calls_iff_leadsTo hgives).mp ⟨hlink, rfl⟩
    simp only [linkBetween, SemanticLink.mk.injEq, Json.string.injEq, and_true] at heq
    -- The link has the id of `b` only, but what is defined under one id is one symbol.
    obtain ⟨-, d, hd, rfl⟩ := hoffers
    exact ⟨u, hu, heq.1.symm, (normalForm_of_offers hgives hleads.first.mem hb heq.2.symm
      hleads.first.offers hd).symm⟩
  · rintro ⟨u, hu, howner, rfl⟩
    obtain ⟨b', hb'⟩ := exists_isFirst hb hoffers
    have hsame := honly b' hb'.mem hb'.offers
    have hleads : LeadsTo rs u b' := ⟨⟨a, ha, howner.symm, hkind⟩, hb', by rwa [hsame, howner]⟩
    refine ((calls_iff_leadsTo hgives).mpr ⟨u, hu, b', hleads, ?_⟩).1
    rw [linkBetween, howner, hsame]

end Uses

/-- Where the nodes are known in outline, a use of what only one of them offers leads there. -/
theorem leadsTo_of_onlyOffer {nodes : List StoredNode} {os : List (String × String × List String)}
    (hos : nodes.map (fun n => outline n.record) = os) {u : Mention} {id : String}
    (honly : OnlyOffer os (normalForm u.name) id)
    (hcaller : ∃ o ∈ os, o.1 = u.owner ∧ o.2.1 ∈ ["function", "method"]) (hne : id ≠ u.owner) :
    ∃ b, LeadsTo (nodes.map (·.record)) u b ∧ b.id = id := by
  obtain ⟨n, hn, hoffers, -, honly⟩ := honly.exists_node hos
  obtain ⟨b, hb⟩ := exists_isFirst (List.mem_map_of_mem hn) hoffers
  obtain ⟨n', hn', rfl⟩ := List.mem_map.mp hb.mem
  have hid := honly n' hn' hb.offers
  obtain ⟨o, ho, howner, hkind⟩ := hcaller
  obtain ⟨a, ha, rfl⟩ := exists_node hos o ho
  exact ⟨n'.record, ⟨⟨a.record, List.mem_map_of_mem ha, howner, hkind⟩, hb, hid ▸ hne⟩, hid⟩

/-! ### From a call to its link -/

/-- Every call that is noted has a node for its owner. If that is a function or method, and
what is called is defined under one other id only, then the call has its link just if the owner
also uses a name with the normal form of what is called. It does wherever the calls of that
symbol are spelled with names that are noted. -/
theorem call_linked_iff (w : Surroundings) (mode : Mode) (path project : String) (created : Times)
    (f : SourceFile) (hf : w.source path project = .ok (some f)) (s : Ledger)
    (hrun : (ingestFile mode path project).run w.world .empty = (.ok (), s))
    (hlook : w.refusal s.journal (.graph (.projectNodes (.string project))) = none) :
    ∃ nodes links, HandsOver w s project created nodes links ∧
      ∀ c ∈ f.extraction.calls, (∃ a ∈ nodes, a.record.id = c.owner) ∧
        ∀ a ∈ nodes, a.record.id = c.owner → a.record.kind ∈ ["function", "method"] →
        ∀ b ∈ nodes, Offers ["function", "method"] (normalForm c.name) b.record →
          (∀ b' ∈ nodes, Offers ["function", "method"] (normalForm c.name) b'.record →
            b'.record.id = b.record.id) →
          b.record.id ≠ c.owner →
          (linkBetween .calls a.record b.record ∈ links ↔
            ∃ u ∈ f.extraction.usages, u.owner = c.owner ∧
              normalForm u.name = normalForm c.name) ∧
          ∀ lang tree, extract lang f.content f.path defaultMaxRows tree = .ok f.extraction →
            SpelledInCalls lang (normalForm c.name) tree →
            linkBetween .calls a.record b.record ∈ links := by
  obtain ⟨nodes, hands, hgives, hdefs⟩ := exists_handsOver hf hrun hlook created
  have hall := gives_records hgives
  refine ⟨nodes, _, hands, fun c hc => ⟨?_, ?_⟩⟩
  · obtain ⟨lang, tree, hx⟩ := (Surroundings.isRead_of_source hf).extracted
    rw [extract_eq_extractFrom] at hx
    obtain ⟨⟨d, hd, hid⟩, -⟩ := exists_callSite hx hc
    exact hid ▸ hdefs d hd
  intro a ha hid hkind b hb hoffers honly hne
  have honly' : ∀ r ∈ nodes.map (·.record), Offers ["function", "method"] (normalForm c.name) r →
      r.id = b.record.id := by
    intro r hr hr'
    obtain ⟨n, hn, rfl⟩ := List.mem_map.mp hr
    exact honly n hn hr'
  rw [← hid] at hne
  have hlaw := mem_linksOf_iff_used hall (List.mem_map_of_mem ha) hkind (List.mem_map_of_mem hb)
    hoffers honly' hne
  rw [hid] at hlaw
  exact ⟨hlaw, fun lang tree hx hspelled => hlaw.mpr (exists_usage_of_call hx hc hspelled)⟩

/-- The file has what is extracted from a tree. -/
def isFrom (lang : Language) (tree : Node) (f : SourceFile) : Bool :=
  match extract lang f.content f.path defaultMaxRows tree with
  | .ok x => x.definitions == f.extraction.definitions && x.calls == f.extraction.calls &&
      x.usages == f.extraction.usages
  | .error _ => false

theorem extract_of_isFrom {lang : Language} {tree : Node} {f : SourceFile}
    (h : isFrom lang tree f = true) :
    extract lang f.content f.path defaultMaxRows tree = .ok f.extraction := by
  unfold isFrom at h
  split at h
  next x hx =>
    simp only [Bool.and_eq_true, beq_iff_eq] at h
    obtain ⟨⟨hdefinitions, hcalls⟩, husages⟩ := h
    have heq : x = ⟨x.definitions, x.calls, x.usages⟩ := rfl
    rw [hx, heq, hdefinitions, hcalls, husages]
  · cases h

namespace Till

/-- A function that calls another through what that belongs to. -/
def tree : Node :=
  .mk "module" 0 1 (.ok "") []
    [.mk "function_definition" 0 0 (.ok "") [] [.mk "identifier" 0 0 (.ok "total") [] []],
      .mk "function_definition" 1 1 (.ok "") [] [.mk "identifier" 1 1 (.ok "report") [] [],
        .mk "call" 1 1 (.ok "till.total()") [("function", 0)]
          [.mk "attribute" 1 1 (.ok "till.total") []
            [.mk "identifier" 1 1 (.ok "till") [] [], .mk "identifier" 1 1 (.ok "total") [] []]]]]

def surroundings : Surroundings :=
  .ofText "def total(): pass\ndef report(): return till.total()" tree

theorem spelled : SpelledInCalls .python "total" tree := by
  intro m hm role how callee text hrole hcallee htext hname
  simp only [tree, Node.preorder, Node.preorderAll, List.cons_append, List.nil_append,
    List.append_nil, List.mem_cons, List.not_mem_nil, or_false] at hm
  rcases hm with rfl | rfl | rfl | rfl | rfl | rfl | rfl | rfl | rfl
  case inr.inr.inr.inr.inr.inl =>
    obtain ⟨rfl, -⟩ : role = "function" ∧ how = "python_call" := by
      simpa [callRole?, Node.kind, eq_comm] using hrole
    obtain rfl := Option.some.inj hcallee
    exact .under rfl (List.mem_cons_of_mem _ List.mem_cons_self) (.here rfl rfl (by decide))
  all_goals cases hrole

/-- The nodes that are found in the end. -/
def outlines : List (String × String × List String) :=
  [("shop:shop/till.py", "file", []), ("shop/till.py:total:1", "function", ["total"]),
    ("shop/till.py:report:2", "function", ["report"])]

/-- The databases after the file was taken in. -/
def ledger : Ledger :=
  ((ingestFile (.full 5) "shop/till.py" "shop").run surroundings.world .empty).2

set_option maxRecDepth 10000 in
theorem isOk_and_found :
    ((ingestFile (.full 5) "shop/till.py" "shop").run surroundings.world .empty).1.isOk = true ∧
      (ledger.store.nodesOf (.string "shop")).map outline? = outlines.map some := by
  decide +kernel

theorem run_eq : (ingestFile (.full 5) "shop/till.py" "shop").run surroundings.world .empty =
    (.ok (), ledger) :=
  run_eq_of_isOk _ isOk_and_found.1

theorem found : (ledger.store.nodesOf (.string "shop")).map outline? = outlines.map some :=
  isOk_and_found.2

set_option maxRecDepth 10000 in
/-- The call is linked, since the name of what is called stands in it by itself. -/
theorem report_linked :
    ∃ f nodes links, surroundings.source "shop/till.py" "shop" = .ok (some f) ∧
      f.extraction.calls = [⟨"shop/till.py:report:2", "till.total", "python_call"⟩] ∧
      (ingestFile (.full 5) "shop/till.py" "shop").run surroundings.world .empty =
        (.ok (), ledger) ∧
      HandsOver surroundings ledger "shop" (fun _ => 0) nodes links ∧
      ⟨.string "shop/till.py:report:2", .string "shop/till.py:total:1", .calls⟩ ∈ links := by
  obtain ⟨f, hf, htest⟩ := Surroundings.exists_of_readsTo (w := surroundings) "shop/till.py" "shop"
    (fun f => f.extraction.calls = [⟨"shop/till.py:report:2", "till.total", "python_call"⟩] ∧
      isFrom .python tree f) (by decide +kernel)
  obtain ⟨hcalls, hfrom⟩ := of_decide_eq_true htest
  have hname : normalForm "till.total" = "total" := by decide +kernel
  obtain ⟨nodes, links, hands, hlaw⟩ := call_linked_iff surroundings (.full 5) "shop/till.py" "shop"
    (fun _ => 0) f hf ledger run_eq rfl
  have houtlines := hands.outlines outlines found
  obtain ⟨a, ha, haoutline⟩ := exists_node houtlines
    ("shop/till.py:report:2", "function", ["report"]) (by decide)
  obtain ⟨b, hb, hoffers, hbid, honly⟩ :=
    (by decide +kernel : OnlyOffer outlines "total" "shop/till.py:total:1").exists_node houtlines
  obtain ⟨haid, hakind, -⟩ : a.record.id = "shop/till.py:report:2" ∧ a.record.kind = "function" ∧
      a.record.defined = ["report"] := by simpa [outline] using haoutline
  refine ⟨f, nodes, links, hf, hcalls, run_eq, hands, ?_⟩
  have hlinked := ((hlaw _ (hcalls ▸ List.mem_singleton.mpr rfl)).2 a ha haid (by simp [hakind]) b hb
    (hname ▸ hoffers) (by rwa [hbid, hname]) (by rw [hbid]; decide)).2 .python tree
    (extract_of_isFrom hfrom) (hname ▸ spelled)
  rwa [linkBetween, haid, hbid] at hlinked

end Till

namespace Cart

def name (row : Nat) (text : String) : Node := .mk "identifier" row row (.ok text) [] []

def method (row : Nat) (text : String) (body : List Node) : Node :=
  .mk "method_declaration" row row (.ok "") []
    [.mk "void_type" row row (.ok "void") [] [], name row text,
      .mk "formal_parameters" row row (.ok "()") [] [], .mk "block" row row (.ok "") [] body]

/-- A method that calls another one of its class. -/
def surroundings : Surroundings :=
  .ofText "class Cart \x7b\n    void add() \x7b check(); \x7d\n    void check() \x7b \x7d\n\x7d"
    (.mk "program" 0 3 (.ok "") [] [.mk "class_declaration" 0 3 (.ok "") [] [name 0 "Cart",
      .mk "class_body" 0 3 (.ok "") []
        [method 1 "add" [.mk "expression_statement" 1 1 (.ok "check();") []
          [.mk "method_invocation" 1 1 (.ok "check()") [("name", 0)]
            [name 1 "check", .mk "argument_list" 1 1 (.ok "()") [] []]]],
          method 2 "check" []]]])

set_option maxRecDepth 10000 in
/-- The call is not linked: what is called is one plain name, which is not noted as a use. -/
theorem add_not_linked :
    ∃ f s nodes links, surroundings.source "shop/Cart.java" "shop" = .ok (some f) ∧
      f.extraction.calls = [⟨"shop/Cart.java:add:2", "check", "java_method_invocation"⟩] ∧
      (ingestFile .graphOnly "shop/Cart.java" "shop").run surroundings.world .empty = (.ok (), s) ∧
      HandsOver surroundings s "shop" (fun _ => 0) nodes links ∧
      nodes.map (fun n => outline n.record) =
        [("shop:shop/Cart.java", "file", []), ("shop/Cart.java:Cart:1", "class", ["Cart"]),
          ("shop/Cart.java:add:2", "method", ["add"]),
          ("shop/Cart.java:check:3", "method", ["check"])] ∧
      ∀ l ∈ links, l.relation ≠ .calls := by
  obtain ⟨f, hf, htest⟩ := Surroundings.exists_of_readsTo (w := surroundings) "shop/Cart.java" "shop"
    (fun f => f.extraction.calls =
        [⟨"shop/Cart.java:add:2", "check", "java_method_invocation"⟩] ∧
      f.extraction.usages = []) (by decide +kernel)
  obtain ⟨hcalls, husages⟩ := of_decide_eq_true htest
  have hrun := run_eq_of_isOk (d := ingestFile .graphOnly "shop/Cart.java" "shop") (s := .empty)
    surroundings.world (by decide +kernel)
  obtain ⟨nodes, hands, hgives, -⟩ := exists_handsOver hf hrun rfl fun _ => 0
  refine ⟨f, _, nodes, _, hf, hcalls, hrun, hands, hands.outlines _ (by decide +kernel), ?_⟩
  intro l hl hrelation
  obtain ⟨u, hu, -⟩ := (calls_iff_leadsTo (gives_records hgives)).mp ⟨hl, hrelation⟩
  rw [husages] at hu
  cases hu

end Cart

/-! ### From a link to its call -/

/-- A call was noted for which the link stands. -/
def Justified (x : Extraction) (rs : List CodeRecord) (l : SemanticLink) : Prop :=
  ∃ c ∈ x.calls, l.source = .string c.owner ∧
    ∃ b ∈ rs, l.target = .string b.id ∧ ∃ d ∈ b.defined, normalForm d = normalForm c.name

/-- The links for calls are those of the uses that lead from a function or method to another.
Such a link stands for a call just if there is one with the owner of the use and of a name with
the same normal form. -/
theorem calls_justified_iff (w : Surroundings) (mode : Mode) (path project : String)
    (created : Times) (f : SourceFile) (hf : w.source path project = .ok (some f)) (s : Ledger)
    (hrun : (ingestFile mode path project).run w.world .empty = (.ok (), s))
    (hlook : w.refusal s.journal (.graph (.projectNodes (.string project))) = none) :
    ∃ nodes links, HandsOver w s project created nodes links ∧
      (∀ l, l ∈ links ∧ l.relation = .calls ↔
        ∃ u ∈ f.extraction.usages, ∃ b, LeadsTo (nodes.map (·.record)) u b ∧
          l = ⟨.string u.owner, .string b.id, .calls⟩) ∧
      ∀ u ∈ f.extraction.usages, ∀ b, LeadsTo (nodes.map (·.record)) u b →
        (Justified f.extraction (nodes.map (·.record)) ⟨.string u.owner, .string b.id, .calls⟩ ↔
          ∃ c ∈ f.extraction.calls, c.owner = u.owner ∧
            normalForm c.name = normalForm u.name) := by
  obtain ⟨nodes, hands, hgives, -⟩ := exists_handsOver hf hrun hlook created
  have hall := gives_records hgives
  refine ⟨nodes, _, hands, fun l => calls_iff_leadsTo hall, fun u hu b hleads => ⟨?_, ?_⟩⟩
  · rintro ⟨c, hc, howner, b', hb', hid, d, hd, hname⟩
    refine ⟨c, hc, (Json.string.inj howner).symm, ?_⟩
    rw [← hname]
    exact normalForm_of_offers hall hleads.first.mem hb' (Json.string.inj hid) hleads.first.offers hd
  · rintro ⟨c, hc, howner, hname⟩
    obtain ⟨-, d, hd, hmatch⟩ := hleads.first.offers
    exact ⟨c, hc, by rw [howner], b, hleads.first.mem, rfl, d, hd, hmatch.trans hname.symm⟩

set_option maxRecDepth 10000 in
theorem Till.report_justified :
    ∃ f nodes links, Till.surroundings.source "shop/till.py" "shop" = .ok (some f) ∧
      (ingestFile (.full 5) "shop/till.py" "shop").run Till.surroundings.world .empty =
        (.ok (), Till.ledger) ∧
      HandsOver Till.surroundings Till.ledger "shop" (fun _ => 0) nodes links ∧
      ⟨.string "shop/till.py:report:2", .string "shop/till.py:total:1", .calls⟩ ∈ links ∧
      Justified f.extraction (nodes.map (·.record))
        ⟨.string "shop/till.py:report:2", .string "shop/till.py:total:1", .calls⟩ := by
  obtain ⟨f, hf, htest⟩ := Surroundings.exists_of_readsTo (w := Till.surroundings) "shop/till.py"
    "shop" (fun f => ⟨"shop/till.py:report:2", "till.total", "python_call"⟩ ∈ f.extraction.calls ∧
      ⟨"shop/till.py:report:2", "total", "python_identifier"⟩ ∈ f.extraction.usages)
    (by decide +kernel)
  obtain ⟨hcall, husage⟩ := of_decide_eq_true htest
  obtain ⟨nodes, links, hands, hlinks, hjustified⟩ := calls_justified_iff Till.surroundings
    (.full 5) "shop/till.py" "shop" (fun _ => 0) f hf Till.ledger Till.run_eq rfl
  have houtlines := hands.outlines Till.outlines Till.found
  obtain ⟨b, hleads, hid⟩ := leadsTo_of_onlyOffer houtlines
    (u := ⟨"shop/till.py:report:2", "total", "python_identifier"⟩)
    (by decide +kernel : OnlyOffer Till.outlines (normalForm "total") "shop/till.py:total:1")
    (by decide) (by decide)
  have hlink := (hlinks _).mpr ⟨_, husage, b, hleads, rfl⟩
  have hcalled := (hjustified _ husage b hleads).mpr ⟨_, hcall, rfl, by decide +kernel⟩
  rw [hid] at hlink hcalled
  exact ⟨f, nodes, links, hf, Till.run_eq, hands, hlink.1, hcalled⟩

/-- A function with a parameter that has the name of another function. -/
def Report.surroundings : Surroundings :=
  .ofText "def total(): pass\ndef report(total): return total" (.mk "module" 0 1 (.ok "") []
    [.mk "function_definition" 0 0 (.ok "") [] [.mk "identifier" 0 0 (.ok "total") [] []],
      .mk "function_definition" 1 1 (.ok "") [] [.mk "identifier" 1 1 (.ok "report") [] [],
        .mk "parameters" 1 1 (.ok "(total)") [] [.mk "identifier" 1 1 (.ok "total") [] []],
        .mk "block" 1 1 (.ok "return total") [] [.mk "return_statement" 1 1 (.ok "return total") []
          [.mk "identifier" 1 1 (.ok "total") [] []]]]])

set_option maxRecDepth 10000 in
/-- Nothing is called, and yet there is a link for a call. -/
theorem Report.parameter_linked :
    ∃ f s nodes links, Report.surroundings.source "shop/report.py" "shop" = .ok (some f) ∧
      f.extraction.calls = [] ∧
      (ingestFile .graphOnly "shop/report.py" "shop").run Report.surroundings.world .empty =
        (.ok (), s) ∧
      HandsOver Report.surroundings s "shop" (fun _ => 0) nodes links ∧
      ⟨.string "shop/report.py:report:2", .string "shop/report.py:total:1", .calls⟩ ∈ links := by
  obtain ⟨f, hf, htest⟩ := Surroundings.exists_of_readsTo (w := Report.surroundings)
    "shop/report.py" "shop" (fun f => f.extraction.calls = [] ∧
      ⟨"shop/report.py:report:2", "total", "python_identifier"⟩ ∈ f.extraction.usages)
    (by decide +kernel)
  obtain ⟨hcalls, husage⟩ := of_decide_eq_true htest
  have hrun := run_eq_of_isOk (d := ingestFile .graphOnly "shop/report.py" "shop") (s := .empty)
    Report.surroundings.world (by decide +kernel)
  obtain ⟨nodes, hands, hgives, -⟩ := exists_handsOver hf hrun rfl fun _ => 0
  have houtlines := hands.outlines [("shop:shop/report.py", "file", []),
    ("shop/report.py:total:1", "function", ["total"]),
    ("shop/report.py:report:2", "function", ["report"])] (by decide +kernel)
  obtain ⟨b, hleads, hid⟩ := leadsTo_of_onlyOffer houtlines
    (u := ⟨"shop/report.py:report:2", "total", "python_identifier"⟩)
    (by decide +kernel : OnlyOffer _ (normalForm "total") "shop/report.py:total:1")
    (by decide) (by decide)
  have hlink := (calls_iff_leadsTo (gives_records hgives)).mpr ⟨_, husage, b, hleads, rfl⟩
  rw [hid] at hlink
  exact ⟨f, _, nodes, _, hf, hcalls, hrun, hands, hlink.1⟩

end CodeAtlas.Link
