import CodeAtlas.Graph.Catalogue
import CodeAtlas.Proofs.Dialogue.Laws
import CodeAtlas.Proofs.Graph.Store
import CodeAtlas.Proofs.Lists

/-! What listing the nodes of a project gives. No statement brings an id into the store twice, so
in a store that began empty every node is found by its id. Where all nodes come from written
records, a node is listed for a project exactly when the record last written under its id names
that project. -/

namespace CodeAtlas.Graph

/-! ### One node for an id -/

theorem CodeRecord.id_mem_properties (r : CodeRecord) :
    ("node_id", .string r.id) ∈ r.properties := by
  simp [CodeRecord.properties, Query.params, CodeRecord.fields]

theorem CodeRecord.project_mem_properties (r : CodeRecord) :
    ("project", .string r.project) ∈ r.properties := by
  simp [CodeRecord.properties, Query.params, CodeRecord.fields]

namespace Store

/-- No id occurs twice. -/
def Distinct (s : Store) : Prop := (s.nodes.map Prod.fst).Nodup

theorem Distinct.get?_eq_some_iff {s : Store} (h : s.Distinct) {id : String} {n : Fields} :
    s.get? id = some n ↔ (id, n) ∈ s.nodes :=
  lookup_eq_some_iff_mem h

theorem distinct_empty : Store.empty.Distinct := List.nodup_nil

theorem nodes_addProject (s : Store) (name : String) : (s.addProject name).nodes = s.nodes := by
  unfold addProject
  split <;> rfl

/-- The ids after a node was created or changed. -/
theorem ids_upsert (s : Store) (id : String) (props : Fields) :
    (s.upsert id props).nodes.map Prod.fst =
      s.nodes.map Prod.fst ++ if (s.get? id).isSome then [] else [id] := by
  unfold upsert
  cases hget : s.get? id with
  | none => simp
  | some n =>
    simp only [List.map_map, Option.isSome_some, if_true, List.append_nil]
    refine List.map_congr_left fun e _ => ?_
    by_cases he : e.1 = id <;> simp [he]

theorem Distinct.upsert {s : Store} (h : s.Distinct) (id : String) (props : Fields) :
    (s.upsert id props).Distinct := by
  rw [Distinct, ids_upsert]
  cases hget : s.get? id with
  | some n => simpa [Distinct] using h
  | none =>
    refine List.nodup_append.mpr ⟨h, by simp, fun a ha b hb => ?_⟩
    obtain ⟨e, he, rfl⟩ := List.mem_map.mp ha
    have hne := List.lookup_eq_none_iff.mp hget e he
    simp only [Option.isSome_none, Bool.false_eq_true, if_false, List.mem_singleton] at hb
    subst hb
    exact fun heq => by simp [heq] at hne

/-- No statement brings an id in twice. -/
theorem Distinct.answer {s : Store} (h : s.Distinct) (q : Query) : (s.answer q).2.Distinct := by
  cases q with
  | upsertNode props hash =>
    simp only [Store.answer]
    split
    · exact h.upsert _ _
    · exact h
  | upsertProject name =>
    cases name with
    | string name =>
      change ((s.addProject name).nodes.map Prod.fst).Nodup
      rw [nodes_addProject]
      exact h
    | _ => exact h
  | _ => exact h

/-! ### Nodes and records -/

/-- The project that a node is in. -/
def project? (s : Store) (id : String) : Option String :=
  (s.get? id).bind fun n => (n.getOrNull "project").string?

theorem project?_of_properties {s : Store} {id : String} {n : Fields} {r : CodeRecord}
    (hn : s.get? id = some n) (h : ∀ p ∈ r.properties, n.get? p.1 = some p.2) :
    s.project? id = some r.project := by
  have hget := h _ r.project_mem_properties
  rw [Fields.get?] at hget
  rw [project?, hn, Option.bind_some, Fields.getOrNull, hget]
  rfl

theorem project?_upsert (s : Store) (r : CodeRecord) (id : String) :
    (s.upsert r.id r.properties).project? id =
      if id = r.id then some r.project else s.project? id := by
  by_cases hid : id = r.id
  · rw [if_pos hid]
    refine project?_of_properties ((get?_upsert ..).trans (if_pos hid)) fun p hp => ?_
    exact (Fields.settled_merge _ _ r.properties_nodup p hp).get?
  · rw [if_neg hid, project?, get?_upsert, if_neg hid, project?]

/-- A node has all properties of a record that was written under its id. -/
def Shows (written : CodeRecord → Prop) (id : String) (n : Fields) : Prop :=
  ∃ r, written r ∧ r.id = id ∧ ∀ p ∈ r.properties, n.get? p.1 = some p.2

/-- Every node comes from a written record. -/
structure Stems (written : CodeRecord → Prop) (s : Store) : Prop where
  distinct : s.Distinct
  shows : ∀ e ∈ s.nodes, Shows written e.1 e.2

section Stems
variable {written written' : CodeRecord → Prop} {s : Store}

theorem stems_empty : Store.empty.Stems written :=
  ⟨distinct_empty, fun e he => by cases he⟩

theorem Stems.mono (h : s.Stems written) (hsub : ∀ r, written r → written' r) :
    s.Stems written' := by
  refine ⟨h.distinct, fun e he => ?_⟩
  obtain ⟨r, hr, hrest⟩ := h.shows e he
  exact ⟨r, hsub r hr, hrest⟩

theorem Stems.addProject (h : s.Stems written) (name : String) :
    (s.addProject name).Stems written := by
  refine ⟨?_, ?_⟩
  · rw [Distinct, nodes_addProject]
    exact h.distinct
  · rw [nodes_addProject]
    exact h.shows

theorem Stems.upsert (h : s.Stems written) {r : CodeRecord} (hr : written r) :
    (s.upsert r.id r.properties).Stems written := by
  have hnew : ∀ old : Fields, Shows written r.id (old.merge r.properties) := fun old =>
    ⟨r, hr, rfl, fun p hp => (Fields.settled_merge old _ r.properties_nodup p hp).get?⟩
  refine ⟨h.distinct.upsert _ _, fun e he => ?_⟩
  unfold Store.upsert at he
  split at he
  · obtain ⟨e', he', rfl⟩ := List.mem_map.mp he
    by_cases hid : e'.1 = r.id
    · simp only [hid, beq_self_eq_true, if_true]
      exact hnew e'.2
    · simp only [beq_iff_eq, hid, if_false]
      exact h.shows e' he'
  · rcases List.mem_append.mp he with he | he
    · exact h.shows e he
    · simp only [List.mem_singleton.mp he]
      exact hnew []

/-- What is found under an id comes from a record with that id. -/
theorem Stems.get? (h : s.Stems written) {id : String} {n : Fields}
    (hn : s.get? id = some n) : Shows written id n :=
  h.shows (id, n) (h.distinct.get?_eq_some_iff.mp hn)

end Stems

end Store

/-! ### The listing -/

/-- A node with this id is among the nodes. -/
def Lists (nodes : List Fields) (id : String) : Prop :=
  ∃ n ∈ nodes, n.get? "node_id" = some (.string id)

theorem lists_iff {nodes : List Fields} {id : String} :
    Lists nodes id ↔ some id ∈ nodes.map fun n => (n.getOrNull "node_id").string? := by
  simp only [Lists, List.mem_map]
  refine exists_congr fun n => and_congr_right fun _ => ?_
  rw [Fields.getOrNull, Fields.get?]
  cases n.lookup "node_id" with
  | none => simp [Json.string?]
  | some v => cases v <;> simp [Json.string?]

instance (nodes : List Fields) (id : String) : Decidable (Lists nodes id) :=
  decidable_of_iff _ lists_iff.symm

theorem nodesIn_records (nodes : List Fields) :
    nodesIn (nodes.map fun n => Store.record "n" (.object n)) = .ok nodes := by
  induction nodes with
  | nil => rfl
  | cons n nodes ih =>
    rw [nodesIn] at ih
    rw [nodesIn, List.map_cons, List.mapM_cons, ih]
    rfl

/-- A look-up for nodes gives those in the answer. -/
theorem run_nodes {σ : Type} {world : Dialogue.World σ} {s : σ} {q : Query} {nodes : List Fields}
    (h : (world (.graph q) s).1 = .ok (nodes.map fun n => Store.record "n" (.object n))) :
    ((records q).bind fun rs => Dialogue.ofExcept (nodesIn rs)).run world s =
      (.ok nodes, (world (.graph q) s).2) := by
  have hrecords : (records q).run world s =
      (.ok (nodes.map fun n => Store.record "n" (.object n)), (world (.graph q) s).2) :=
    (Dialogue.run_request ..).trans (Prod.ext h rfl)
  rw [Dialogue.run_bind_of_ok _ hrecords, nodesIn_records, Dialogue.run_ofExcept]

theorem run_nodesByProject {σ : Type} {world : Dialogue.World σ} {s : σ} {project : Json}
    {nodes : List Fields}
    (h : (world (.graph (.projectNodes project)) s).1 =
      .ok (nodes.map fun n => Store.record "n" (.object n))) :
    (nodesByProject project).run world s =
      (.ok nodes, (world (.graph (.projectNodes project)) s).2) :=
  run_nodes h

/-- A node is listed for the project that it is in. -/
theorem Store.Stems.lists_nodesOf_iff {written : CodeRecord → Prop} {s : Store}
    (h : s.Stems written) {project id : String} :
    Lists (s.nodesOf (.string project)) id ↔ s.project? id = some project := by
  constructor
  · rintro ⟨n, hn, hid⟩
    obtain ⟨hmem, hproject⟩ := List.mem_filter.mp hn
    obtain ⟨⟨key, n⟩, he, rfl⟩ := List.mem_map.mp hmem
    obtain ⟨r, -, rfl, hprops⟩ := h.shows _ he
    obtain rfl : id = r.id := by
      have hkey := hprops _ r.id_mem_properties
      rw [hid] at hkey
      simpa using hkey
    rw [project?, h.distinct.get?_eq_some_iff.mpr he]
    exact (same_string_iff _ _).mp hproject
  · intro hproject
    obtain ⟨n, hn, htext⟩ := Option.bind_eq_some_iff.mp hproject
    obtain ⟨r, -, rfl, hprops⟩ := h.get? hn
    have he := h.distinct.get?_eq_some_iff.mp hn
    refine ⟨n, List.mem_filter.mpr ⟨List.mem_map_of_mem (f := (·.2)) he, ?_⟩,
      hprops _ r.id_mem_properties⟩
    exact (same_string_iff _ _).mpr htext

end CodeAtlas.Graph
