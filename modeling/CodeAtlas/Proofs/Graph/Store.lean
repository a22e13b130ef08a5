import CodeAtlas.Graph.Store

/-! What the graph store holds after it was written to. Writing a record changes what is
found under its own id and nothing else. All properties of the record can then be read
back, and writing the same record again changes nothing at all. Nothing is assumed of
the store beforehand: ids and fields may occur in it more than once. -/

namespace CodeAtlas

/-! ### Lists of entries -/

/-- Changing the values under one key changes what is found there and nothing else. -/
theorem lookup_adjust {α : Type} (l : List (String × α)) (key : String) (g : α → α) (k : String) :
    (l.map fun e => if e.1 == key then (key, g e.2) else e).lookup k =
      if k = key then (l.lookup k).map g else l.lookup k := by
  induction l with
  | nil => simp
  | cons e rest ih =>
    rw [List.map_cons]
    by_cases he : e.1 = key <;> by_cases hk : k = e.1 <;> grind

theorem same_string_iff (v : Json) (text : String) :
    v.same (.string text) = true ↔ v.string? = some text := by
  cases v <;> simp [Json.same, Json.string?, Json.whole?]

namespace Fields

/-- A field is there, and wherever it is it has this value. -/
def Settled (fs : Fields) (key : String) (value : Json) : Prop :=
  fs.has key = true ∧ ∀ f ∈ fs, f.1 = key → f.2 = value

theorem Settled.get? {fs : Fields} {key : String} {value : Json} (h : fs.Settled key value) :
    fs.get? key = some value := by
  obtain ⟨hhas, hval⟩ := h
  cases hl : fs.lookup key with
  | none =>
    simp only [has, List.any_eq_true, beq_iff_eq] at hhas
    obtain ⟨f, hf, hk⟩ := hhas
    have := List.lookup_eq_none_iff.mp hl f hf
    simp [hk] at this
  | some v =>
    obtain ⟨l₁, l₂, rfl, -⟩ := List.lookup_eq_some_iff.mp hl
    have hv : v = value := hval (key, v) (by simp) rfl
    rw [Fields.get?, hl, hv]

theorem Settled.put_eq {fs : Fields} {key : String} {value : Json} (h : fs.Settled key value) :
    fs.put key value = fs := by
  obtain ⟨hhas, hval⟩ := h
  rw [put, if_pos hhas]
  refine (List.map_congr_left fun f hf => ?_).trans (List.map_id fs)
  by_cases hk : f.1 = key
  · rw [if_pos (by simp [hk]), ← hk, ← hval f hf hk]
    rfl
  · rw [if_neg (by simp [hk])]
    rfl

theorem settled_put (fs : Fields) (key : String) (value : Json) :
    (fs.put key value).Settled key value := by
  by_cases h : fs.has key = true
  · rw [put, if_pos h]
    refine ⟨?_, ?_⟩
    · simp only [has, List.any_eq_true, beq_iff_eq, List.mem_map] at h ⊢
      obtain ⟨f, hf, hk⟩ := h
      exact ⟨(key, value), ⟨f, hf, by simp [hk]⟩, rfl⟩
    · intro f hf hk
      obtain ⟨g, -, rfl⟩ := List.mem_map.mp hf
      by_cases hg : g.1 = key <;> simp_all
  · rw [put, if_neg h]
    refine ⟨by simp [has], ?_⟩
    intro f hf hk
    rcases List.mem_append.mp hf with hf | hf
    · exact absurd (List.any_eq_true.mpr ⟨f, hf, by simp [hk]⟩) h
    · rw [List.mem_singleton.mp hf]

theorem Settled.put {fs : Fields} {key other : String} {value : Json} (h : fs.Settled key value)
    (hne : key ≠ other) (new : Json) : (fs.put other new).Settled key value := by
  obtain ⟨hhas, hval⟩ := h
  simp only [has, List.any_eq_true, beq_iff_eq] at hhas
  obtain ⟨f, hf, hk⟩ := hhas
  unfold Fields.put
  split
  · refine ⟨?_, ?_⟩
    · simp only [has, List.any_eq_true, beq_iff_eq, List.mem_map]
      exact ⟨f, ⟨f, hf, by simp [hk, hne]⟩, hk⟩
    · intro g hg hgk
      obtain ⟨g', hg', rfl⟩ := List.mem_map.mp hg
      by_cases ho : g'.1 = other
      · simp only [ho, beq_self_eq_true, if_true] at hgk
        exact absurd hgk.symm hne
      · simp only [beq_iff_eq, ho, if_false] at hgk ⊢
        exact hval g' hg' hgk
  · refine ⟨?_, ?_⟩
    · simp only [has, List.any_eq_true, beq_iff_eq, List.mem_append]
      exact ⟨f, .inl hf, hk⟩
    · intro g hg hgk
      rcases List.mem_append.mp hg with hg | hg
      · exact hval g hg hgk
      · rw [List.mem_singleton.mp hg] at hgk
        exact absurd hgk.symm hne

@[simp] theorem merge_nil (fs : Fields) : fs.merge [] = fs := rfl

@[simp] theorem merge_cons (fs new : Fields) (f : String × Json) :
    fs.merge (f :: new) = (fs.put f.1 f.2).merge new := rfl

theorem Settled.merge {fs new : Fields} {key : String} {value : Json} (h : fs.Settled key value)
    (hne : ∀ f ∈ new, f.1 ≠ key) : (fs.merge new).Settled key value := by
  induction new generalizing fs with
  | nil => exact h
  | cons f new ih =>
    exact ih (h.put (Ne.symm (hne f List.mem_cons_self)) f.2)
      fun g hg => hne g (List.mem_cons_of_mem _ hg)

/-- After a merge every merged field has its new value. -/
theorem settled_merge (fs new : Fields) (hnew : (new.map Prod.fst).Nodup) :
    ∀ f ∈ new, (fs.merge new).Settled f.1 f.2 := by
  induction new generalizing fs with
  | nil => simp
  | cons g new ih =>
    obtain ⟨hg, hrest⟩ := List.nodup_cons.mp hnew
    intro f hf
    rcases List.mem_cons.mp hf with rfl | hf
    · refine (settled_put fs f.1 f.2).merge fun g' hg' he => hg ?_
      exact he ▸ List.mem_map_of_mem hg'
    · exact ih _ hrest f hf

theorem merge_eq_self {fs new : Fields} (h : ∀ f ∈ new, fs.Settled f.1 f.2) :
    fs.merge new = fs := by
  induction new with
  | nil => rfl
  | cons f new ih =>
    rw [merge_cons, (h f List.mem_cons_self).put_eq]
    exact ih fun g hg => h g (List.mem_cons_of_mem _ hg)

end Fields

namespace Graph

/-! ### Records -/

/-- The properties that writing a record sets. -/
def CodeRecord.properties (r : CodeRecord) : Fields :=
  (Query.upsertNode r.fields (.string r.hash)).params

theorem CodeRecord.properties_eq (r : CodeRecord) (h : r.hash ≠ "") :
    r.properties = r.fields ++ [("node_hash", .string r.hash)] := by
  simp [properties, Query.params, Json.truthy, h]

theorem CodeRecord.properties_nodup (r : CodeRecord) : (r.properties.map Prod.fst).Nodup := by
  by_cases h : r.hash = ""
  · simp [properties, Query.params, Json.truthy, h, fields]
  · simp [r.properties_eq h, fields]

namespace Store

/-! ### Reading after writing -/

theorem get?_upsert (s : Store) (id : String) (props : Fields) (k : String) :
    (s.upsert id props).get? k =
      if k = id then some (((s.get? id).getD []).merge props) else s.get? k := by
  unfold upsert
  rcases h : s.get? id with _ | n
  · have hnone : s.nodes.lookup id = none := h
    change (s.nodes ++ [(id, Fields.merge [] props)]).lookup k = _
    rw [List.lookup_append]
    by_cases hk : k = id
    · subst hk
      simp [hnone]
    · have hb : (k == id) = false := by simpa using hk
      simp [hk, get?, List.lookup_cons, hb]
  · have hsome : s.nodes.lookup id = some n := h
    change (s.nodes.map fun e => if e.1 == id then (id, e.2.merge props) else e).lookup k = _
    rw [lookup_adjust s.nodes id (·.merge props)]
    by_cases hk : k = id
    · subst hk
      simp [hsome]
    · simp [hk, get?]

/-- The fingerprint that is stored for a node. -/
def hash? (s : Store) (id : String) : Option String :=
  (s.get? id).bind fun n => (n.getOrNull "node_hash").string?

theorem hash?_upsert (s : Store) (r : CodeRecord) (h : r.hash ≠ "") (id : String) :
    (s.upsert r.id r.properties).hash? id = if id = r.id then some r.hash else s.hash? id := by
  rw [hash?, get?_upsert]
  by_cases hid : id = r.id
  · have hset := Fields.settled_merge ((s.get? r.id).getD []) r.properties r.properties_nodup
      ("node_hash", .string r.hash) (by simp [r.properties_eq h])
    have hget := hset.get?
    simp only [Fields.get?] at hget
    simp [hid, Fields.getOrNull, hget, Json.string?]
  · simp [hid, hash?]

@[simp] theorem answer_upsertNode (s : Store) (r : CodeRecord) :
    s.answer (.upsertNode r.fields (.string r.hash)) = ([], s.upsert r.id r.properties) := by
  simp [answer, CodeRecord.fields, Fields.get?, CodeRecord.properties]

@[simp] theorem answer_node (s : Store) (id : String) :
    s.answer (.node (.string id)) =
      (((s.get? id).map fun n => record "n" (.object n)).toList, s) := rfl

@[simp] theorem answer_link (s : Store) (source target relation props : Json) :
    s.answer (.link source target relation props) = ([], s) := rfl

@[simp] theorem answer_linkProject (s : Store) (project target relation props : Json) :
    s.answer (.linkProject project target relation props) = ([], s) := rfl

/-- What a statement makes of the record under an id. -/
def recordAfter (q : Query) (id : String) (old : Option Fields) : Option Fields :=
  match q with
  | .upsertNode props hash =>
    match props.get? "node_id" with
    | some (.string key) =>
      if id = key then some ((old.getD []).merge (Query.upsertNode props hash).params) else old
    | _ => old
  | _ => old

theorem recordAfter_upsertNode (r : CodeRecord) (id : String) (old : Option Fields) :
    recordAfter (.upsertNode r.fields (.string r.hash)) id old =
      if id = r.id then some ((old.getD []).merge r.properties) else old := by
  simp [recordAfter, CodeRecord.fields, Fields.get?, CodeRecord.properties]

/-- A statement looks at no other record to change one. -/
theorem get?_answer (s : Store) (q : Query) (id : String) :
    (s.answer q).2.get? id = recordAfter q id (s.get? id) := by
  cases q with
  | upsertNode props hash =>
    simp only [answer, recordAfter]
    cases props.get? "node_id" with
    | none => rfl
    | some key =>
      cases key with
      | string key =>
        simp only [get?_upsert]
        by_cases h : id = key
        · rw [if_pos h, if_pos h, h]
        · rw [if_neg h, if_neg h]
      | _ => rfl
  | upsertProject name =>
    cases name with
    | string name =>
      change (s.addProject name).nodes.lookup id = s.nodes.lookup id
      unfold addProject
      split <;> rfl
    | _ => rfl
  | _ => rfl

/-! ### Writing again -/

/-- A node with this id is there, and every one has these properties. -/
def Holds (s : Store) (id : String) (props : Fields) : Prop :=
  (s.get? id).isSome ∧ ∀ e ∈ s.nodes, e.1 = id → ∀ p ∈ props, e.2.Settled p.1 p.2

theorem holds_upsert (s : Store) (id : String) (props : Fields)
    (hprops : (props.map Prod.fst).Nodup) : (s.upsert id props).Holds id props := by
  refine ⟨by simp [get?_upsert], ?_⟩
  rcases h : s.get? id with _ | n
  · have habsent := List.lookup_eq_none_iff.mp h
    simp only [upsert, h]
    intro e he hid
    rcases List.mem_append.mp he with he | he
    · exact absurd hid.symm (by simpa using habsent e he)
    · rw [List.mem_singleton.mp he]
      exact Fields.settled_merge [] props hprops
  · simp only [upsert, h]
    intro e he hid
    obtain ⟨e', -, rfl⟩ := List.mem_map.mp he
    by_cases hk : e'.1 = id
    · simp only [hk, beq_self_eq_true, if_true]
      exact Fields.settled_merge e'.2 props hprops
    · simp [hk] at hid

theorem Holds.upsert {s : Store} {id other : String} {props : Fields} (h : s.Holds id props)
    (hne : id ≠ other) (new : Fields) : (s.upsert other new).Holds id props := by
  refine ⟨by simpa [get?_upsert, hne] using h.1, ?_⟩
  intro e he hid
  unfold Store.upsert at he
  split at he
  · obtain ⟨e', he', rfl⟩ := List.mem_map.mp he
    by_cases hk : e'.1 = other
    · simp only [hk, beq_self_eq_true, if_true] at hid
      exact absurd hid.symm hne
    · simp only [beq_iff_eq, hk, if_false] at hid ⊢
      exact h.2 e' he' hid
  · rcases List.mem_append.mp he with he | he
    · exact h.2 e he hid
    · rw [List.mem_singleton.mp he] at hid
      exact absurd hid.symm hne

theorem Holds.upsert_eq {s : Store} {id : String} {props : Fields} (h : s.Holds id props) :
    s.upsert id props = s := by
  obtain ⟨n, hn⟩ := Option.isSome_iff_exists.mp h.1
  simp only [Store.upsert, hn]
  suffices s.nodes.map (fun e => if e.1 == id then (id, e.2.merge props) else e) = s.nodes by
    rw [this]
  refine (List.map_congr_left fun e he => ?_).trans (List.map_id _)
  by_cases hk : e.1 = id
  · rw [if_pos (by simp [hk]), Fields.merge_eq_self (h.2 e he hk), ← hk]
    rfl
  · rw [if_neg (by simp [hk])]
    rfl

end Store

end Graph

end CodeAtlas
