import CodeAtlas.Proofs.Ingest.Turn
import CodeAtlas.Proofs.Link.Project

/-! Linking what a file left in an empty database. The store then has the records of the file
and of its definitions and nothing else, so linking goes by what was extracted: what a record
defines is the name of the definition, and what it uses are the uses noted for its id. -/

namespace CodeAtlas.Link

open Dialogue Ingest
open CodeAtlas.Graph (CodeRecord)

/-! ### What the store has -/

/-- The records that a file gives rise to. -/
inductive Gives (f : SourceFile) : CodeRecord → Prop where
  | file : Gives f f.fileRecord
  | definition {d : Definition} (hd : d ∈ f.extraction.definitions) (summary : String) :
    Gives f (f.record d summary)

namespace Gives

variable {f : SourceFile} {r : CodeRecord}

theorem project_eq (h : Gives f r) : r.project = f.project := by
  cases h <;> rfl

theorem mem_definedBy (h : Gives f r) {symbol : String} (hs : symbol ∈ r.defined) :
    symbol ∈ f.extraction.definedBy r.id := by
  cases h with
  | file => cases hs
  | definition hd summary => exact hs

theorem mem_used_iff (h : Gives f r) (hkind : r.kind ∈ ["function", "method"]) {symbol : String} :
    symbol ∈ r.used ↔ ∃ u ∈ f.extraction.usages, u.owner = r.id ∧ u.name = symbol := by
  cases h with
  | file => simp [SourceFile.fileRecord] at hkind
  | definition hd summary =>
    simp [SourceFile.record, Extraction.usedBy, and_assoc]

end Gives

/-- All symbols that are defined under one id are the same. -/
theorem definedBy_unique {x : Extraction} {id s s' : String} (h : s ∈ x.definedBy id)
    (h' : s' ∈ x.definedBy id) : s = s' := by
  unfold Extraction.definedBy at h h'
  cases hd : x.definitions.find? (·.id == id) with
  | none => simp [hd] at h
  | some d =>
    simp only [hd, Option.map_some, Option.getD_some, List.mem_singleton] at h h'
    rw [h, h']

/-- The store has records of the file and nothing else. -/
def Fills (f : SourceFile) (store : Graph.Store) : Prop :=
  ∀ e ∈ store.nodes, ∃ n : StoredNode, Gives f n.record ∧ e = (n.record.id, n.fields)

theorem Fills.upsert {f : SourceFile} {store : Graph.Store} {r : CodeRecord} (h : Fills f store)
    (hr : Gives f r) : Fills f (store.upsert r.id r.properties) := by
  have hstored : ∀ old : Fields, ∃ n : StoredNode, Gives f n.record ∧
      (r.id, old.merge r.properties) = (n.record.id, n.fields) :=
    fun old => ⟨.stored old r, hr, by simp only [StoredNode.stored]⟩
  intro e he
  unfold Graph.Store.upsert at he
  split at he
  · obtain ⟨e', he', rfl⟩ := List.mem_map.mp he
    by_cases hid : e'.1 = r.id
    · rw [if_pos (by simpa using hid)]
      exact hstored e'.2
    · rw [if_neg (by simpa using hid)]
      exact h e' he'
  · rcases List.mem_append.mp he with he | he
    · exact h e he
    · rw [List.mem_singleton.mp he]
      exact hstored []

/-- No request about a file brings anything else into the store. -/
theorem fills_of_asks {f : SourceFile} {w : Surroundings} {q : Request} (hq : f.Asks q)
    {s : Ledger} (h : Fills f s.store) : Fills f (w.world q s).2.store := by
  have hafter : Fills f (s.storeAfter q) := by
    cases hq with
    | fileRecord =>
      simp only [Ledger.storeAfter, SourceFile.recordQuery, Graph.Store.answer_upsertNode]
      exact h.upsert .file
    | record hd summary =>
      simp only [Ledger.storeAfter, SourceFile.recordQuery, Graph.Store.answer_upsertNode]
      exact h.upsert (.definition hd summary)
    | quiet hq => cases q <;> first | exact hq.elim | exact h
    | project | lookUp _ | link _ | documents _ => exact h
  change Fills f (if (w.result s q).isOk then s.storeAfter q else s.store)
  split
  · exact hafter
  · exact h

/-- A fingerprint that was noted is not lost again. -/
theorem replay_isSome {ws : List (String × String)} {h : String → Option String} {id : String}
    (hid : (h id).isSome ∨ id ∈ ws.map Prod.fst) : (replay h ws id).isSome := by
  induction ws generalizing h with
  | nil => simpa [replay] using hid
  | cons p ws ih =>
    rw [replay_cons]
    refine ih ?_
    rw [noted_apply]
    by_cases hp : id = p.1
    · simp [hp]
    · simpa [hp] using hid

section Taken
variable {w : Surroundings} {mode : Mode} {path project : String} {f : SourceFile} {s : Ledger}
  (hf : w.source path project = .ok (some f))
include hf

theorem fills_of_run {r : Except Failure Unit}
    (hrun : (ingestFile mode path project).run w.world .empty = (r, s)) : Fills f s.store := by
  rw [Surroundings.run_ingestFile, hf] at hrun
  have hend := (SourceFile.keeps_ingest (w := w) (f := f) mode).run_preserves
    (fun s => Fills f s.store) (fun q s hq hs => fills_of_asks hq hs)
    (s := ⟨.empty, w.readings path project⟩) (fun e he => by cases he)
  simp only [Ledger.empty, List.nil_append] at hrun
  rwa [hrun] at hend

theorem get?_isSome_of_run (hrun : (ingestFile mode path project).run w.world .empty = (.ok (), s))
    {d : Definition} (hd : d ∈ f.extraction.definitions) : (s.store.get? d.id).isSome := by
  rw [Surroundings.run_ingestFile, hf] at hrun
  -- A run accounts for fingerprints, and where there is one there is a node.
  have hhash := (SourceFile.run_ingestAll_ok (SourceFile.run_ingest_ok hrun)).1
  have hnoted : (s.store.hash? d.id).isSome := by
    rw [hhash]
    refine replay_isSome (.inr ?_)
    rw [List.map_map]
    exact List.mem_map_of_mem (f := Definition.id) hd
  rw [Graph.Store.hash?] at hnoted
  exact Option.isSome_of_isSome_bind hnoted

end Taken

/-! ### What linking makes of it -/

theorem Fills.exists_nodes {f : SourceFile} {store : Graph.Store} (h : Fills f store) :
    ∃ nodes : List StoredNode, store.nodes = nodes.map (fun n => (n.record.id, n.fields)) ∧
      ∀ n ∈ nodes, Gives f n.record := by
  unfold Fills at h
  generalize store.nodes = es at h
  induction es with
  | nil => exact ⟨[], rfl, by simp⟩
  | cons e es ih =>
    obtain ⟨n, hn, rfl⟩ := h e List.mem_cons_self
    obtain ⟨nodes, rfl, hnodes⟩ := ih fun e he => h e (List.mem_cons_of_mem _ he)
    exact ⟨n :: nodes, rfl, List.forall_mem_cons.mpr ⟨hn, hnodes⟩⟩

/-- All that is in the store belongs to the project of the file. -/
theorem nodesOf_eq {f : SourceFile} {store : Graph.Store} {nodes : List StoredNode}
    (heq : store.nodes = nodes.map fun n => (n.record.id, n.fields))
    (hgives : ∀ n ∈ nodes, Gives f n.record) :
    store.nodesOf (.string f.project) = nodes.map (·.fields) := by
  have hfields : store.nodes.map (·.2) = nodes.map (·.fields) := by
    rw [heq, List.map_map]
    rfl
  rw [Graph.Store.nodesOf, hfields, List.filter_eq_self]
  intro fs hfs
  obtain ⟨n, hn, rfl⟩ := List.mem_map.mp hfs
  have hproject := n.holds ("project", .string n.record.project) (by simp [CodeRecord.fields])
  rw [Fields.get?] at hproject
  rw [Fields.getOrNull, hproject, (hgives n hn).project_eq]
  exact same_string.mpr rfl

/-- Linking a project from here finds these nodes and hands these links over. -/
def HandsOver (w : Surroundings) (s : Ledger) (project : String) (created : Times)
    (nodes : List StoredNode) (links : List SemanticLink) : Prop :=
  s.store.nodesOf (.string project) = nodes.map (·.fields) ∧
    ((linkProject project created).transcript w.world s).map Exchange.request =
      .graph (.projectNodes (.string project)) :: batchOf created links

theorem handsOver_linksOf {w : Surroundings} {s : Ledger} {project : String}
    (hlook : w.refusal s.journal (.graph (.projectNodes (.string project))) = none)
    {nodes : List StoredNode} (hnodes : s.store.nodesOf (.string project) = nodes.map (·.fields))
    (created : Times) :
    HandsOver w s project created nodes (linksOf (nodes.map (·.record))) := by
  refine ⟨hnodes, requests_linkProject w.world s created ?_⟩
  rw [Surroundings.world_graph, hlook]
  simp only [Graph.Store.answer, hnodes, List.map_map]
  rfl

/-- After a file was taken into an empty database, the nodes found are records of the file, with
one for each definition, and the links handed over are those between these records. -/
theorem exists_handsOver {w : Surroundings} {mode : Mode} {path project : String}
    {f : SourceFile} {s : Ledger} (hf : w.source path project = .ok (some f))
    (hrun : (ingestFile mode path project).run w.world .empty = (.ok (), s))
    (hlook : w.refusal s.journal (.graph (.projectNodes (.string project))) = none)
    (created : Times) :
    ∃ nodes : List StoredNode,
      HandsOver w s project created nodes (linksOf (nodes.map (·.record))) ∧
      (∀ n ∈ nodes, Gives f n.record) ∧
      ∀ d ∈ f.extraction.definitions, ∃ n ∈ nodes, n.record.id = d.id := by
  obtain ⟨nodes, hnodes, hgives⟩ := (fills_of_run hf hrun).exists_nodes
  have hof := nodesOf_eq hnodes hgives
  rw [(Surroundings.isRead_of_source hf).project_eq] at hof
  refine ⟨nodes, handsOver_linksOf hlook hof created, hgives, fun d hd => ?_⟩
  obtain ⟨fs, hfs⟩ := Option.isSome_iff_exists.mp (get?_isSome_of_run hf hrun hd)
  rw [Graph.Store.get?, hnodes] at hfs
  obtain ⟨before, after, hsplit, -⟩ := List.lookup_eq_some_iff.mp hfs
  have hmem : (d.id, fs) ∈ nodes.map fun n => (n.record.id, n.fields) := by
    rw [hsplit]
    simp
  obtain ⟨n, hn, heq⟩ := List.mem_map.mp hmem
  exact ⟨n, hn, congrArg Prod.fst heq⟩

/-! ### Nodes in outline -/

/-- The id, the kind and the defined symbols of a node. -/
def outline? (fs : Fields) : Option (String × String × List String) := do
  let id ← (fs.getOrNull "node_id").string?
  let kind ← (kindOf fs).string?
  let defined ← (symbols fs "symbols_defined").toOption
  pure (id, kind, defined)

/-- The same of a record. -/
def outline (r : CodeRecord) : String × String × List String := (r.id, r.kind, r.defined)

theorem outline?_eq (n : StoredNode) : outline? n.fields = some (outline n.record) := by
  have hid := n.get?_id
  rw [Fields.get?] at hid
  simp [outline?, Fields.getOrNull, hid, kindOf_eq, symbols_eq n.get?_defined, Json.string?,
    Except.toOption, outline]

theorem HandsOver.outlines {w : Surroundings} {s : Ledger} {project : String} {created : Times}
    {nodes : List StoredNode} {links : List SemanticLink}
    (h : HandsOver w s project created nodes links) (os : List (String × String × List String))
    (hos : (s.store.nodesOf (.string project)).map outline? = os.map some) :
    nodes.map (fun n => outline n.record) = os := by
  rw [h.1, List.map_map] at hos
  have hsome : nodes.map (outline? ∘ (·.fields)) =
      (nodes.map fun n => outline n.record).map some := by
    rw [List.map_map]
    exact List.map_congr_left fun n _ => outline?_eq n
  exact List.map_injective_iff.mpr (fun _ _ => Option.some.inj) (hsome.symm.trans hos)

theorem exists_node {nodes : List StoredNode} {os : List (String × String × List String)}
    (h : nodes.map (fun n => outline n.record) = os) (o : String × String × List String)
    (ho : o ∈ os) : ∃ n ∈ nodes, outline n.record = o :=
  List.mem_map.mp (h ▸ ho)

/-- The only outline that offers a symbol has this id. -/
def OnlyOffer (os : List (String × String × List String)) (symbol id : String) : Prop :=
  (∃ o ∈ os, o.2.1 ∈ ["function", "method"] ∧ ∃ d ∈ o.2.2, normalForm d = symbol) ∧
    ∀ o ∈ os, (o.2.1 ∈ ["function", "method"] ∧ ∃ d ∈ o.2.2, normalForm d = symbol) → o.1 = id

instance (os : List (String × String × List String)) (symbol id : String) :
    Decidable (OnlyOffer os symbol id) :=
  inferInstanceAs (Decidable (_ ∧ _))

theorem OnlyOffer.exists_node {nodes : List StoredNode} {os : List (String × String × List String)}
    {symbol id : String} (h : OnlyOffer os symbol id)
    (hos : nodes.map (fun n => outline n.record) = os) :
    ∃ b ∈ nodes, Offers ["function", "method"] symbol b.record ∧ b.record.id = id ∧
      ∀ b' ∈ nodes, Offers ["function", "method"] symbol b'.record → b'.record.id = id := by
  subst hos
  obtain ⟨⟨o, ho, hoffers⟩, honly⟩ := h
  obtain ⟨b, hb, rfl⟩ := List.mem_map.mp ho
  exact ⟨b, hb, hoffers, honly _ ho hoffers, fun b' hb' hoffers' =>
    honly (outline b'.record) (List.mem_map_of_mem hb') hoffers'⟩

end CodeAtlas.Link
