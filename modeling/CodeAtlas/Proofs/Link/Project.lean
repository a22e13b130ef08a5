import CodeAtlas.Proofs.Dialogue.Transcript
import CodeAtlas.Proofs.Graph.Listing
import CodeAtlas.Proofs.Link.Acceptance
import CodeAtlas.Proofs.Link.Occurrence

/-! Linking a project whose nodes have what storing a record sets. Then nothing is wrong with
any of them, and what is written back, in one go or not at all, are just the links that occur
among the records: each once, and in the order of first places. -/

namespace CodeAtlas.Link

open Dialogue
open CodeAtlas.Graph (CodeRecord)

/-- A node of the database with the properties that storing a record sets; it may have more. -/
structure StoredNode where
  fields : Fields
  record : CodeRecord
  holds : ∀ p ∈ record.fields, fields.get? p.1 = some p.2

namespace StoredNode

/-- What storing a record makes of a node. -/
def stored (old : Fields) (r : CodeRecord) : StoredNode where
  fields := old.merge r.properties
  record := r
  holds p hp := (Fields.settled_merge old r.properties r.properties_nodup p
    (by simp [CodeRecord.properties, Graph.Query.params, hp])).get?

/-- A node as a look-up gives it back. -/
def row (n : StoredNode) : Fields := Graph.Store.record "n" (.object n.fields)

variable (n : StoredNode)

theorem get?_id : n.fields.get? "node_id" = some (.string n.record.id) :=
  n.holds ("node_id", .string n.record.id) (by simp [CodeRecord.fields])

theorem get?_name : n.fields.get? "node_name" = some (.string n.record.name) :=
  n.holds ("node_name", .string n.record.name) (by simp [CodeRecord.fields])

theorem get?_kind : n.fields.get? "node_kind" = some (.string n.record.kind) :=
  n.holds ("node_kind", .string n.record.kind) (by simp [CodeRecord.fields])

theorem get?_defined : n.fields.get? "symbols_defined" = some (.ofStrings n.record.defined) :=
  n.holds ("symbols_defined", .ofStrings n.record.defined) (by simp [CodeRecord.fields])

theorem get?_used : n.fields.get? "symbols_used" = some (.ofStrings n.record.used) :=
  n.holds ("symbols_used", .ofStrings n.record.used) (by simp [CodeRecord.fields])

end StoredNode

/-! ### Reading a node -/

theorem mapM_symbol (xs : List String) : (xs.map Json.string).mapM symbol = .ok xs := by
  induction xs with
  | nil => rfl
  | cons x xs ih =>
    rw [List.map_cons, List.mapM_cons, ih]
    rfl

theorem symbols_eq {r : Fields} {key : String} {xs : List String}
    (h : r.get? key = some (.ofStrings xs)) : symbols r key = .ok xs := by
  rw [symbols, h]
  exact mapM_symbol xs

theorem kindOf_eq (n : StoredNode) : kindOf n.fields = .string n.record.kind := by
  have h := n.get?_kind
  rw [Fields.get?] at h
  rw [kindOf, Fields.getOrNull, h]
  rfl

theorem member_eq (n : StoredNode) : member n.fields = Member.ofRecord n.record := by
  have hid := n.get?_id
  have hname := n.get?_name
  rw [Fields.get?] at hid hname
  simp [member, Member.ofRecord, Fields.getOrNull, hid, hname, kindOf_eq, symbols_eq n.get?_defined,
    symbols_eq n.get?_used, Except.toOption]

/-- Nothing is wrong with a stored node. -/
theorem StoredNode.linkable (n : StoredNode) : Linkable n.fields where
  id := ⟨_, n.get?_id⟩
  kind := by
    rw [kindOf_eq]
    rfl
  defined := ⟨_, symbols_eq n.get?_defined⟩
  used := ⟨_, symbols_eq n.get?_used⟩
  name _ := ⟨_, n.get?_name⟩

theorem members_eq (nodes : List StoredNode) :
    members (nodes.map (·.fields)) = .ok (nodes.map fun n => Member.ofRecord n.record) := by
  refine members_eq_ok_iff.mpr ⟨?_, fun fs hfs => ?_⟩
  · rw [List.map_map]
    exact List.map_congr_left fun n _ => (member_eq n).symm
  · obtain ⟨n, -, rfl⟩ := List.mem_map.mp hfs
    exact n.linkable

/-! ### Links written back -/

section Links
variable (rs : List CodeRecord)

/-- The links of a project in the order in which they are written back. -/
def linksOf (rs : List CodeRecord) : List SemanticLink :=
  dedupe (all (rs.map Member.ofRecord))

variable {rs} {l : SemanticLink}

/-- Both ends of a link are texts. -/
def HasTextEnds (l : SemanticLink) : Prop :=
  ∃ a b, l.source = .string a ∧ l.target = .string b

theorem same_iff_of_textEnds (l l' : SemanticLink) (h : HasTextEnds l) (h' : HasTextEnds l') :
    l.same l' = true ↔ l = l' := by
  obtain ⟨a, b, hsource, htarget⟩ := h
  obtain ⟨a', b', hsource', htarget'⟩ := h'
  cases l
  cases l'
  simp_all [SemanticLink.same, same_string, and_assoc]

/-- The entry of a link in a batch has its ends and its type. -/
theorem keyOf_toJson (created : Times) (h : HasTextEnds l) :
    keyOf (l.toJson created) = .ok [l.source, l.target, .string l.relation.name] := by
  obtain ⟨a, b, hsource, htarget⟩ := h
  cases l
  cases hsource
  cases htarget
  rfl

theorem checkEnds_eq_ok_of_textEnds {links : List SemanticLink}
    (h : ∀ l ∈ links, HasTextEnds l) : checkEnds links = .ok () := by
  refine forM_eq_ok_iff.mpr fun l hl => ?_
  obtain ⟨a, b, hsource, htarget⟩ := h l hl
  rw [hsource, htarget]
  rfl

/-- The ends of a link are ids of records. -/
def Keyed (l : SemanticLink) : Prop := ∃ relation a b, l = linkBetween relation a b

theorem Occurs.keyed {p : List Nat} (h : Occurs rs p l) : Keyed l := by
  cases h <;> exact ⟨_, _, _, rfl⟩

theorem Keyed.hasTextEnds (h : Keyed l) : HasTextEnds l := by
  obtain ⟨relation, a, b, rfl⟩ := h
  exact ⟨a.id, b.id, rfl, rfl⟩

theorem same_iff_of_keyed (l l' : SemanticLink) (h : Keyed l) (h' : Keyed l') :
    l.same l' = true ↔ l = l' :=
  same_iff_of_textEnds l l' h.hasTextEnds h'.hasTextEnds

theorem keyed_of_mem_all (h : l ∈ all (rs.map Member.ofRecord)) : Keyed l := by
  obtain ⟨zs, hzs, -, hmem⟩ := listsInOrder_all rs
  rw [← hzs] at h
  obtain ⟨⟨p, l⟩, hz, rfl⟩ := List.mem_map.mp h
  exact ((hmem p l).mp hz).keyed

theorem checkEnds_eq_ok : checkEnds (all (rs.map Member.ofRecord)) = .ok () :=
  checkEnds_eq_ok_of_textEnds fun _ hl => (keyed_of_mem_all hl).hasTextEnds

/-- Just the links that occur are written back. -/
theorem mem_linksOf_iff : l ∈ linksOf rs ↔ ∃ place, Occurs rs place l := by
  have hkeyed : ∀ l ∈ all (rs.map Member.ofRecord), Keyed l := fun l hl => keyed_of_mem_all hl
  rw [linksOf, dedupe, mem_dedupeBy_iff same_iff_of_keyed hkeyed (by simp)]
  obtain ⟨zs, hzs, -, hmem⟩ := listsInOrder_all rs
  rw [← hzs, List.mem_map]
  constructor
  · rintro ⟨⟨⟨p, l⟩, hz, rfl⟩, -⟩
    exact ⟨p, (hmem p l).mp hz⟩
  · rintro ⟨p, hoccurs⟩
    exact ⟨⟨(p, l), (hmem p l).mpr hoccurs, rfl⟩, by simp⟩

/-- A call leads from what uses a symbol to what is the first to define it. -/
theorem mem_linksOf_calls_iff : l ∈ linksOf rs ∧ l.relation = .calls ↔
    ∃ a ∈ rs, a.kind ∈ ["function", "method"] ∧ ∃ s ∈ a.used, ∃ b,
      IsFirst rs ["function", "method"] (normalForm s) b ∧ b.id ≠ a.id ∧
        l = linkBetween .calls a b := by
  rw [mem_linksOf_iff]
  constructor
  · rintro ⟨⟨place, hoccurs⟩, hcalls⟩
    cases hoccurs with
    | calls ha hkind hs hb hne =>
      exact ⟨_, List.mem_of_getElem? ha, hkind, _, List.mem_of_getElem? hs, _, hb, hne, rfl⟩
    | _ => cases hcalls
  · rintro ⟨a, ha, hkind, s, hs, b, hb, hne, rfl⟩
    obtain ⟨i, hi⟩ := List.getElem?_of_mem ha
    obtain ⟨j, hj⟩ := List.getElem?_of_mem hs
    exact ⟨⟨[0, i, j], .calls hi hkind hj hb hne⟩, rfl⟩

/-- They are different, and stand in the order of their first places. -/
theorem pairwise_linksOf : (linksOf rs).Pairwise fun l l' =>
    l ≠ l' ∧ ∃ place, Occurs rs place l ∧ ∀ place', Occurs rs place' l' → place < place' := by
  obtain ⟨zs, hzs, hsorted, hmem⟩ := listsInOrder_all rs
  rw [linksOf, dedupe, ← hzs]
  have hkeyed : ∀ z ∈ zs, Keyed z.2 := fun z hz => ((hmem z.1 z.2).mp hz).keyed
  refine (pairwise_dedupeBy same_iff_of_keyed hkeyed (by simp) hsorted).imp ?_
  rintro l l' ⟨hne, p, hp, hlt⟩
  exact ⟨hne, p, (hmem p l).mp hp, fun q hq => hlt q ((hmem q l').mpr hq)⟩

end Links

/-! ### The whole run -/

theorem nodesIn_eq (nodes : List StoredNode) :
    Graph.nodesIn (nodes.map StoredNode.row) = .ok (nodes.map (·.fields)) := by
  rw [← Graph.nodesIn_records, List.map_map]
  rfl

/-- The links between the nodes that a look-up gives back, if nothing is wrong with them. -/
def linksIn (rows : List Fields) : Except Failure (List SemanticLink) := do
  let ms ← members (← Graph.nodesIn rows)
  checkEnds (all ms)
  pure (dedupe (all ms))

theorem linksIn_eq (nodes : List StoredNode) :
    linksIn (nodes.map StoredNode.row) = .ok (linksOf (nodes.map (·.record))) := by
  rw [linksIn, nodesIn_eq, ok_bind, members_eq, ok_bind]
  have hmap : (nodes.map fun n => Member.ofRecord n.record) =
      (nodes.map (·.record)).map Member.ofRecord := by rw [List.map_map]; rfl
  rw [hmap, checkEnds_eq_ok]
  rfl

/-- Write links back, if there are any. -/
def writeBack (created : Times) (links : List SemanticLink) : Dialogue Unit :=
  if links.isEmpty then .done ()
  else Graph.linkBatch (.array (links.map (SemanticLink.toJson created)))

theorem linkProject_eq (project : String) (created : Times) :
    linkProject project created = (Graph.records (.projectNodes (.string project))).bind
      fun rows => (ofExcept (linksIn rows)).bind (writeBack created) := by
  rw [linkProject, Graph.nodesByProject, bind_eq, bind_eq, bind_assoc]
  congr 1
  funext rows
  simp only [bind_eq, linksIn]
  cases Graph.nodesIn rows with
  | error e => rfl
  | ok rs =>
    rw [ok_bind]
    change (ofExcept (members rs)).bind _ = _
    cases members rs with
    | error e => rfl
    | ok ms =>
      change (ofExcept (checkEnds (all ms))).bind _ = _
      rw [ok_bind]
      cases checkEnds (all ms) <;> rfl

/-- The links that are written back: none if something is wrong with a node. -/
def linksFor (rows : List Fields) : List SemanticLink := (linksIn rows).toOption.getD []

/-- What is asked to write links back: nothing if there are none, and else one thing. -/
def batchOf (created : Times) (links : List SemanticLink) : List Request :=
  if links.isEmpty then []
  else [.graph (.linkBatch (.array (links.map (SemanticLink.toJson created))))]

section Run
variable {σ : Type} (world : World σ) (s : σ) (created : Times)

theorem transcript_writeBack (links : List SemanticLink) :
    ((writeBack created links).transcript world s).map Exchange.request = batchOf created links := by
  unfold writeBack batchOf
  split
  · rfl
  · rw [Graph.linkBatch, Graph.execute, bind_eq, transcript_bind, transcript_request]
    split <;> rfl

/-- Linking asks for the nodes of the project and writes back what links there are; none are if
something is wrong with a node. -/
theorem requests_linkProject_rows {project : String} {rows : List Fields}
    (hrows : (world (.graph (.projectNodes (.string project))) s).1 = .ok rows) :
    ((linkProject project created).transcript world s).map Exchange.request =
      .graph (.projectNodes (.string project)) :: batchOf created (linksFor rows) := by
  have hrun : (Graph.records (.projectNodes (.string project))).run world s =
      (.ok rows, (world (.graph (.projectNodes (.string project))) s).2) :=
    (run_request world s _).trans (Prod.ext hrows rfl)
  have hasked : (Graph.records (.projectNodes (.string project))).transcript world s =
      [⟨.graph (.projectNodes (.string project)), _⟩] := transcript_request world s _
  rw [linkProject_eq, transcript_bind, hrun, hasked, List.map_append]
  refine congrArg (_ :: ·) ?_
  simp only [linksFor]
  cases linksIn rows with
  | error e => rfl
  | ok links => exact transcript_writeBack world _ created links

theorem requests_linkProject {project : String} {nodes : List StoredNode}
    (hrows : (world (.graph (.projectNodes (.string project))) s).1 =
      .ok (nodes.map StoredNode.row)) :
    ((linkProject project created).transcript world s).map Exchange.request =
      .graph (.projectNodes (.string project)) ::
        batchOf created (linksOf (nodes.map (·.record))) := by
  rw [requests_linkProject_rows world s created hrows, linksFor, linksIn_eq]
  rfl

end Run

/-- Linking a project looks its nodes up once. Then, unless there are none, it writes back in
one go just the links that occur among the records of these nodes, each of them once and in the
order of their first places. The entry of a link names its ends and its type. -/
theorem linkProject_exact {σ : Type} (world : World σ) (s : σ) (project : String)
    (created : Times) (nodes : List StoredNode)
    (hrows : (world (.graph (.projectNodes (.string project))) s).1 =
      .ok (nodes.map StoredNode.row)) :
    ∃ links : List SemanticLink,
      ((linkProject project created).transcript world s).map Exchange.request =
        .graph (.projectNodes (.string project)) ::
          (if links = [] then []
          else [.graph (.linkBatch (.array (links.map (SemanticLink.toJson created))))]) ∧
      (∀ l, l ∈ links ↔ ∃ place, Occurs (nodes.map (·.record)) place l) ∧
      (links.Pairwise fun l l' => l ≠ l' ∧ ∃ place, Occurs (nodes.map (·.record)) place l ∧
        ∀ place', Occurs (nodes.map (·.record)) place' l' → place < place') ∧
      ∀ l ∈ links, keyOf (l.toJson created) =
        .ok [l.source, l.target, .string l.relation.name] := by
  refine ⟨linksOf (nodes.map (·.record)), ?_, fun l => mem_linksOf_iff, ?_, fun l hl => ?_⟩
  · rw [requests_linkProject world s created hrows, batchOf]
    simp only [List.isEmpty_iff]
  · exact pairwise_linksOf
  · obtain ⟨place, hoccurs⟩ := mem_linksOf_iff.mp hl
    exact keyOf_toJson created hoccurs.keyed.hasTextEnds

namespace Stall

/-- A record of a small project. -/
def item (name kind : String) (used : List String) : CodeRecord :=
  ⟨"stall:" ++ name, name, kind, kind, "Java", "stall", "market", 1, 1, "", [name], used, "1"⟩

def drawer : CodeRecord := item "Drawer" "interface" []
def till : CodeRecord := item "Till" "class" ["stall.Drawer", "total"]
def total : CodeRecord := item "total" "method" ["sum"]
def report : CodeRecord := item "report" "function" ["report", "till.total"]

/-- A world in which the records are found, and nothing else. -/
def world : World Unit := fun q _ =>
  (match q with
    | .graph (.projectNodes _) =>
      .ok ([drawer, till, total, report].map fun r => (StoredNode.stored [] r).row)
    | _ => .error (.wrongType "closed"), ())

/-- Calls are linked first. -/
def clock : Times := fun l => if l.relation = .calls then 1 else 2

theorem report_calls_total :
    ∃ links : List SemanticLink,
      ((linkProject "market" clock).transcript world ()).map Exchange.request =
        [.graph (.projectNodes (.string "market")),
          .graph (.linkBatch (.array (links.map (SemanticLink.toJson clock))))] ∧
      linkBetween .calls report total ∈ links ∧ linkBetween .implements till drawer ∈ links ∧
      linkBetween .calls report report ∉ links ∧
      keyOf ((linkBetween .calls report total).toJson clock) =
        .ok [.string "stall:report", .string "stall:total", .string "CALLS"] := by
  obtain ⟨links, hrequests, hmem, -, hkeys⟩ := linkProject_exact world () "market" clock
    ([drawer, till, total, report].map (StoredNode.stored [])) rfl
  -- The fourth record uses as its second symbol what the third one defines.
  have hcalls : linkBetween .calls report total ∈ links :=
    (hmem _).mpr ⟨[0, 3, 1], .calls (s := "till.total") rfl (by decide) rfl
      ⟨[drawer, till], [report], rfl, by decide +kernel, by decide +kernel⟩ (by decide)⟩
  refine ⟨links, ?_, hcalls, (hmem _).mpr ⟨[2, 1, 0, 0, 0], ?_⟩, fun h => ?_, hkeys _ hcalls⟩
  · rw [hrequests, if_neg (List.ne_nil_of_mem hcalls)]
  · exact .implements (s := "stall.Drawer") (d := "Drawer") rfl rfl rfl rfl rfl rfl
      (by decide +kernel)
  · obtain ⟨place, hoccurs⟩ := (hmem _).mp h
    generalize hl : linkBetween .calls report report = l at hoccurs
    cases hoccurs with
    | calls _ _ _ _ hne =>
      simp only [linkBetween, SemanticLink.mk.injEq, Json.string.injEq] at hl
      exact hne (hl.2.1.symm.trans hl.1)
    | _ => simp [linkBetween] at hl

end Stall

end CodeAtlas.Link
