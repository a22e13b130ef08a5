import CodeAtlas.Link.Project
import CodeAtlas.Proofs.Link.Index
import CodeAtlas.Proofs.Outcome

/-! Which nodes can be linked. Collecting links looks at every node of a project and, again and
again, at those that define a used symbol. Still, whether something is wrong is told node by node:
a project can be linked exactly when each of its nodes has an id, a kind that can be looked up,
symbols that are texts and, if it is a method, a name. -/

namespace CodeAtlas.Link

/-! ### Symbols -/

/-- Symbols are told before anything is done with them. -/
theorem forM_symbol_eq_ok_iff {xs : List Json} {f : String → Except Failure Unit} :
    xs.forM (fun x => symbol x >>= f) = .ok () ↔
      ∃ us, xs.mapM symbol = .ok us ∧ ∀ u ∈ us, f u = .ok () := by
  induction xs with
  | nil => simp [List.forM, pure_eq_ok_iff]
  | cons x xs ih =>
    rw [List.forM, bind_eq_ok_iff, List.mapM_cons]
    simp only [bind_eq_ok_iff, ih, pure_eq_ok_iff]
    constructor
    · rintro ⟨_, ⟨u, hu, hfu⟩, us, hus, hf⟩
      exact ⟨u :: us, ⟨u, hu, us, hus, rfl⟩, List.forall_mem_cons.mpr ⟨hfu, hf⟩⟩
    · rintro ⟨_, ⟨u, hu, us, hus, rfl⟩, hf⟩
      obtain ⟨hfu, hf⟩ := List.forall_mem_cons.mp hf
      exact ⟨(), ⟨u, hu, hfu⟩, us, hus, hf⟩

theorem forUsed_eq_ok_iff {n : Fields} {f : String → Except Failure Unit} :
    forUsed n f = .ok () ↔ ∃ us, symbols n "symbols_used" = .ok us ∧ ∀ u ∈ us, f u = .ok () := by
  rw [forUsed, symbols]
  cases n.get? "symbols_used" with
  | none => simp
  | some v =>
    simp only [bind_eq_ok_iff]
    constructor
    · rintro ⟨xs, hxs, hall⟩
      obtain ⟨us, hus, hf⟩ := forM_symbol_eq_ok_iff.mp hall
      exact ⟨us, ⟨xs, hxs, hus⟩, hf⟩
    · rintro ⟨us, ⟨xs, hxs, hus⟩, hf⟩
      exact ⟨xs, hxs, forM_symbol_eq_ok_iff.mpr ⟨us, hus, hf⟩⟩

/-! ### One node -/

/-- What linking needs of a node. -/
structure Linkable (n : Fields) : Prop where
  id : ∃ v, n.get? "node_id" = some v
  kind : (kindOf n).asKey = .ok (kindOf n)
  defined : ∃ ds, symbols n "symbols_defined" = .ok ds
  used : ∃ us, symbols n "symbols_used" = .ok us
  name : hasKind ["method"] n = true → ∃ v, n.get? "node_name" = some v

theorem asKey_eq_of_ok {v k : Json} (h : v.asKey = .ok k) : v.asKey = .ok v := by
  cases v <;> first | rfl | cases h

theorem hasId_eq_ok_iff {n : Fields} : hasId n = .ok () ↔ ∃ v, n.get? "node_id" = some v := by
  rw [hasId, bind_eq_ok_iff]
  simp [need_eq_ok_iff, pure_eq_ok_iff]

theorem Linkable.hasId_eq {n : Fields} (h : Linkable n) : hasId n = .ok () :=
  hasId_eq_ok_iff.mpr h.id

theorem Linkable.forUsed_eq {n : Fields} (h : Linkable n) {f : String → Except Failure Unit}
    (hf : ∀ s, f s = .ok ()) : forUsed n f = .ok () := by
  obtain ⟨us, hus⟩ := h.used
  exact forUsed_eq_ok_iff.mpr ⟨us, hus, fun u _ => hf u⟩

/-! ### Nothing is wrong -/

theorem mem_of_mem_definers {nodes : List Fields} {symbol : String} {n : Fields}
    (h : n ∈ definers nodes symbol) : n ∈ nodes := by
  rw [definers, definersIn_indexBy] at h
  obtain ⟨n', hn', h⟩ := List.mem_flatMap.mp h
  obtain ⟨-, -, rfl⟩ := List.mem_map.mp h
  exact hn'

theorem firstOfKind_eq_ok (kinds : List String) {nodes : List Fields}
    (h : ∀ n ∈ nodes, Linkable n) :
    ∃ found, firstOfKind kinds nodes = .ok found ∧ ∀ n, found = some n → n ∈ nodes := by
  induction nodes with
  | nil => exact ⟨none, rfl, by simp⟩
  | cons n nodes ih =>
    obtain ⟨hn, hrest⟩ := List.forall_mem_cons.mp h
    obtain ⟨found, hfound, hmem⟩ := ih hrest
    by_cases hkind : isOneOf (kindOf n) kinds = true
    · refine ⟨some n, ?_, by simp⟩
      rw [firstOfKind, hn.kind, ok_bind, if_pos hkind]
      rfl
    · refine ⟨found, ?_, fun r hr => List.mem_cons_of_mem _ (hmem r hr)⟩
      rw [firstOfKind, hn.kind, ok_bind, if_neg hkind, hfound]

section Check
variable {nodes : List Fields} (h : ∀ n ∈ nodes, Linkable n)
include h

theorem firstHasId_eq_ok (kinds : List String) (symbol : String) :
    firstHasId nodes kinds symbol = .ok () := by
  obtain ⟨found, hfound, hmem⟩ := firstOfKind_eq_ok kinds
    fun n (hn : n ∈ definers nodes symbol) => h n (mem_of_mem_definers hn)
  rw [firstHasId, hfound]
  cases found with
  | none => rfl
  | some n => exact (h n (mem_of_mem_definers (hmem n rfl))).hasId_eq

theorem checkCalls_eq_ok : checkCalls nodes = .ok () := by
  refine forM_eq_ok_iff.mpr fun n hn => ?_
  have hused := (h n hn).forUsed_eq fun s => firstHasId_eq_ok h calleeKinds (normalForm s)
  rw [(h n hn).hasId_eq]
  simp only [(h n hn).kind, ok_bind, hused]
  split <;> rfl

theorem checkUsages_eq_ok : checkUsages nodes = .ok () := by
  refine forM_eq_ok_iff.mpr fun n hn => ?_
  rw [(h n hn).hasId_eq]
  exact (h n hn).forUsed_eq fun s => firstHasId_eq_ok h usableKinds (lastPart s)

theorem checkImplementations_eq_ok : checkImplementations nodes = .ok () := by
  refine forM_eq_ok_iff.mpr fun n hn => ?_
  split
  · rw [(h n hn).hasId_eq]
    refine (h n hn).forUsed_eq fun s => forM_eq_ok_iff.mpr fun n' hn' => ?_
    exact (h n' (mem_of_mem_definers (List.mem_filter.mp hn').1)).hasId_eq
  · rfl

theorem checkOverridings_eq_ok : checkOverridings nodes = .ok () := by
  -- Candidates are methods of the project themselves, so they have names as well.
  have hparent : ∀ name n, n ∈ nodes → hasKind ["method"] n = true →
      checkParent name n = .ok () := by
    intro name n hn hkind
    obtain ⟨v, hv⟩ := (h n hn).name hkind
    rw [checkParent, need_eq_ok_iff.mpr hv, ok_bind, (h n hn).hasId_eq]
    split <;> rfl
  refine forM_eq_ok_iff.mpr fun n hn => ?_
  split
  next hkind =>
    obtain ⟨v, hv⟩ := (h n hn).name hkind
    rw [need_eq_ok_iff.mpr hv, ok_bind, (h n hn).hasId_eq]
    refine (h n hn).forUsed_eq fun s => forM_eq_ok_iff.mpr fun n' hn' => ?_
    obtain ⟨hmem, hkind'⟩ := List.mem_filter.mp hn'
    exact hparent v n' (mem_of_mem_definers hmem) hkind'
  · rfl

theorem check_eq_ok : check nodes = .ok () := by
  rw [check, checkCalls_eq_ok h, checkUsages_eq_ok h, checkImplementations_eq_ok h,
    checkOverridings_eq_ok h]
  rfl

end Check

/-- What passes has been looked at for all that linking needs. -/
theorem linkable_of_check {nodes : List Fields} (h : check nodes = .ok ()) {n : Fields}
    (hn : n ∈ nodes) (hdefined : ∃ ds, symbols n "symbols_defined" = .ok ds) : Linkable n := by
  obtain ⟨_, hcalls, h⟩ := bind_eq_ok_iff.mp h
  obtain ⟨_, husages, h⟩ := bind_eq_ok_iff.mp h
  obtain ⟨_, -, hoverridings⟩ := bind_eq_ok_iff.mp h
  obtain ⟨_, hid, hkind⟩ := bind_eq_ok_iff.mp (forM_eq_ok_iff.mp hcalls n hn)
  obtain ⟨k, hk, -⟩ := bind_eq_ok_iff.mp hkind
  obtain ⟨_, -, hused⟩ := bind_eq_ok_iff.mp (forM_eq_ok_iff.mp husages n hn)
  obtain ⟨us, hus, -⟩ := forUsed_eq_ok_iff.mp hused
  refine ⟨hasId_eq_ok_iff.mp hid, asKey_eq_of_ok hk, hdefined, ⟨us, hus⟩, fun hmethod => ?_⟩
  have hname := forM_eq_ok_iff.mp hoverridings n hn
  rw [if_pos hmethod] at hname
  obtain ⟨v, hv, -⟩ := bind_eq_ok_iff.mp hname
  exact ⟨v, need_eq_ok_iff.mp hv⟩

theorem records_eq_ok_iff {nodes rs : List Fields} :
    records (nodes.map .object) = .ok rs ↔
      rs = nodes ∧ ∀ n ∈ nodes, ∃ ds, symbols n "symbols_defined" = .ok ds := by
  induction nodes generalizing rs with
  | nil =>
    rw [records, List.map_nil, List.mapM_nil, pure_eq_ok_iff]
    simp [eq_comm]
  | cons n nodes ih =>
    rw [records] at ih
    rw [records, List.map_cons, List.mapM_cons, record]
    simp only [ok_bind, bind_eq_ok_iff, ih, pure_eq_ok_iff]
    constructor
    · rintro ⟨_, ⟨ds, hds, rfl⟩, _, ⟨rfl, hall⟩, rfl⟩
      exact ⟨rfl, List.forall_mem_cons.mpr ⟨⟨ds, hds⟩, hall⟩⟩
    · rintro ⟨rfl, hall⟩
      obtain ⟨⟨ds, hds⟩, hall⟩ := List.forall_mem_cons.mp hall
      exact ⟨n, ⟨ds, hds, rfl⟩, nodes, ⟨rfl, hall⟩, rfl⟩

/-- Nodes can be linked exactly when each of them can. -/
theorem members_eq_ok_iff {nodes : List Fields} {ms : List Member} :
    members nodes = .ok ms ↔ ms = nodes.map member ∧ ∀ n ∈ nodes, Linkable n := by
  rw [members, bind_eq_ok_iff]
  simp only [bind_eq_ok_iff, records_eq_ok_iff, pure_eq_ok_iff]
  constructor
  · rintro ⟨_, ⟨rfl, hdefined⟩, _, hcheck, rfl⟩
    exact ⟨rfl, fun n hn => linkable_of_check hcheck hn (hdefined n hn)⟩
  · rintro ⟨rfl, hall⟩
    exact ⟨nodes, ⟨rfl, fun n hn => (hall n hn).defined⟩, (), check_eq_ok hall, rfl⟩

end CodeAtlas.Link
