import CodeAtlas.Link.Collect
import Mathlib.Data.List.Basic

/-! Lists that are put together by nested loops. Each item stands at a place, given by the
counters of the loops from the outside in, and the list follows the lexicographic order of the
places. When every item is kept only once, it stands where its first place is. -/

namespace CodeAtlas.Link

variable {α β : Type}

/-! ### Items at places -/

/-- The list has an item for every place at which something occurs, in the order of places. -/
def ListsInOrder (xs : List α) (occurs : List Nat → α → Prop) : Prop :=
  ∃ zs : List (List Nat × α), zs.map Prod.snd = xs ∧ (zs.map Prod.fst).Pairwise (· < ·) ∧
    ∀ p a, (p, a) ∈ zs ↔ occurs p a

theorem ListsInOrder.congr {xs : List α} {occurs occurs' : List Nat → α → Prop}
    (h : ListsInOrder xs occurs) (hiff : ∀ p a, occurs p a ↔ occurs' p a) :
    ListsInOrder xs occurs' := by
  obtain ⟨zs, hxs, hsorted, hmem⟩ := h
  exact ⟨zs, hxs, hsorted, fun p a => (hmem p a).trans (hiff p a)⟩

theorem listsInOrder_nil : ListsInOrder ([] : List α) fun _ _ => False :=
  ⟨[], rfl, .nil, by simp⟩

/-- What is not inside a loop has no counters. -/
theorem listsInOrder_toList (o : Option α) :
    ListsInOrder o.toList fun p a => p = [] ∧ o = some a := by
  cases o with
  | none => exact listsInOrder_nil.congr (by simp)
  | some a => exact ⟨[([], a)], rfl, by simp, by simp [eq_comm]⟩

/-- A guard on an item, or on a whole loop. -/
theorem ListsInOrder.ite {c : Prop} [Decidable c] {xs : List α} {occurs : List Nat → α → Prop}
    (h : ListsInOrder xs occurs) :
    ListsInOrder (if c then xs else []) fun p a => c ∧ occurs p a := by
  by_cases hc : c
  · rw [if_pos hc]
    exact h.congr (by simp [hc])
  · rw [if_neg hc]
    exact listsInOrder_nil.congr (by simp [hc])

/-- A loop whose counter begins at `offset`. -/
theorem listsInOrder_flatMapFrom (offset : Nat) (xs : List β) {f : β → List α}
    {occurs : β → List Nat → α → Prop} (h : ∀ x, ListsInOrder (f x) (occurs x)) :
    ListsInOrder (xs.flatMap f) fun p a =>
      ∃ i x q, xs[i]? = some x ∧ p = (offset + i) :: q ∧ occurs x q a := by
  induction xs generalizing offset with
  | nil => exact listsInOrder_nil.congr (by simp)
  | cons x xs ih =>
    obtain ⟨zs, hzs, hsorted, hmem⟩ := h x
    obtain ⟨zs', hzs', hsorted', hmem'⟩ := ih (offset + 1)
    refine ⟨zs.map (fun z => (offset :: z.1, z.2)) ++ zs', ?_, ?_, ?_⟩
    · rw [List.map_append, List.flatMap_cons, hzs', ← hzs, List.map_map]
      rfl
    · rw [List.map_append, List.pairwise_append]
      refine ⟨?_, hsorted', ?_⟩
      · rw [List.map_map, List.pairwise_map]
        rw [List.pairwise_map] at hsorted
        exact hsorted.imp fun hlt => List.cons_lt_cons_iff.mpr (.inr ⟨rfl, hlt⟩)
      · intro p hp p' hp'
        obtain ⟨⟨q, a⟩, hz, rfl⟩ := List.mem_map.mp hp
        obtain ⟨⟨q', a'⟩, hz', rfl⟩ := List.mem_map.mp hp'
        obtain ⟨z, -, hz⟩ := List.mem_map.mp hz
        obtain ⟨i, -, r, -, rfl, -⟩ := (hmem' q' a').mp hz'
        obtain ⟨rfl, -⟩ := Prod.mk.inj hz
        exact List.cons_lt_cons_iff.mpr (.inl (by omega))
    · intro p a
      rw [List.mem_append, hmem', List.mem_map]
      constructor
      · rintro (⟨⟨q, b⟩, hz, heq⟩ | ⟨i, y, q, hi, rfl, hoccurs⟩)
        · obtain ⟨rfl, rfl⟩ := Prod.mk.inj heq
          exact ⟨0, x, q, rfl, rfl, (hmem q b).mp hz⟩
        · exact ⟨i + 1, y, q, hi, by rw [Nat.add_assoc, Nat.add_comm 1], hoccurs⟩
      · rintro ⟨i, y, q, hi, rfl, hoccurs⟩
        cases i with
        | zero =>
          obtain rfl : x = y := Option.some.inj hi
          exact .inl ⟨(q, a), (hmem q a).mpr hoccurs, rfl⟩
        | succ i => exact .inr ⟨i, y, q, hi, by rw [Nat.add_assoc, Nat.add_comm 1], hoccurs⟩

/-- A loop: its counter comes before those of the loops inside it. -/
theorem listsInOrder_flatMap (xs : List β) {f : β → List α}
    {occurs : β → List Nat → α → Prop} (h : ∀ x, ListsInOrder (f x) (occurs x)) :
    ListsInOrder (xs.flatMap f) fun p a =>
      ∃ i x q, xs[i]? = some x ∧ p = i :: q ∧ occurs x q a :=
  (listsInOrder_flatMapFrom 0 xs h).congr (by simp)

/-- A loop over the items that pass a test counts the others too. -/
theorem listsInOrder_filter_flatMap (xs : List β) (test : β → Bool) {f : β → List α}
    {occurs : β → List Nat → α → Prop} (h : ∀ x, ListsInOrder (f x) (occurs x)) :
    ListsInOrder ((xs.filter test).flatMap f) fun p a =>
      ∃ i x q, xs[i]? = some x ∧ p = i :: q ∧ test x = true ∧ occurs x q a := by
  have heq : (xs.filter test).flatMap f = xs.flatMap fun x => if test x = true then f x else [] := by
    induction xs with
    | nil => rfl
    | cons x xs ih => by_cases hx : test x = true <;> simp [hx, ih]
  rw [heq]
  exact listsInOrder_flatMap xs fun x => (h x).ite

/-- A loop with at most one item for each turn. -/
theorem listsInOrder_filterMap (xs : List β) (g : β → Option α) :
    ListsInOrder (xs.filterMap g) fun p a => ∃ i x, xs[i]? = some x ∧ p = [i] ∧ g x = some a := by
  rw [List.filterMap_eq_flatMap_toList]
  exact (listsInOrder_flatMap xs fun x => listsInOrder_toList (g x)).congr (by grind)

/-! ### Each item once -/

section Dedupe
variable {same : α → α → Bool} {key : α → Prop}

/-- Items that have not been seen are kept, and no others. -/
theorem mem_dedupeBy_iff (hsame : ∀ a b, key a → key b → (same a b = true ↔ a = b))
    {xs seen : List α} (hxs : ∀ a ∈ xs, key a) (hseen : ∀ a ∈ seen, key a) (a : α) :
    a ∈ dedupeBy same id seen xs ↔ a ∈ xs ∧ a ∉ seen := by
  induction xs generalizing seen with
  | nil => simp [dedupeBy]
  | cons x xs ih =>
    have hx := hxs x List.mem_cons_self
    have hrest : ∀ a ∈ xs, key a := fun a ha => hxs a (List.mem_cons_of_mem _ ha)
    have hany : seen.any (same x) = true ↔ x ∈ seen := by
      rw [List.any_eq_true]
      constructor
      · rintro ⟨b, hb, heq⟩
        rwa [(hsame x b hx (hseen b hb)).mp heq]
      · exact fun h => ⟨x, h, (hsame x x hx hx).mpr rfl⟩
    rw [dedupeBy]
    by_cases hmem : x ∈ seen
    · rw [id, if_pos (hany.mpr hmem), ih hrest hseen]
      constructor
      · exact fun ⟨ha, hns⟩ => ⟨List.mem_cons_of_mem _ ha, hns⟩
      · rintro ⟨ha, hns⟩
        rcases List.mem_cons.mp ha with rfl | ha
        · exact absurd hmem hns
        · exact ⟨ha, hns⟩
    · have hseen' : ∀ a ∈ x :: seen, key a := by
        intro a ha
        rcases List.mem_cons.mp ha with rfl | ha
        · exact hx
        · exact hseen a ha
      rw [id, if_neg (fun h => hmem (hany.mp h)), List.mem_cons, ih hrest hseen']
      by_cases hax : a = x
      · simp [hax, hmem]
      · simp [hax]

/-- What is kept stands in the order of first places. -/
theorem pairwise_dedupeBy (hsame : ∀ a b, key a → key b → (same a b = true ↔ a = b))
    {zs : List (List Nat × α)} {seen : List α} (hzs : ∀ z ∈ zs, key z.2)
    (hseen : ∀ a ∈ seen, key a) (hsorted : (zs.map Prod.fst).Pairwise (· < ·)) :
    (dedupeBy same id seen (zs.map Prod.snd)).Pairwise fun a b =>
      a ≠ b ∧ ∃ p, (p, a) ∈ zs ∧ ∀ q, (q, b) ∈ zs → p < q := by
  induction zs generalizing seen with
  | nil => exact .nil
  | cons z zs ih =>
    obtain ⟨p, x⟩ := z
    obtain ⟨hfirst, hrest⟩ := List.pairwise_cons.mp hsorted
    have hx : key x := hzs (p, x) List.mem_cons_self
    have hkeys : ∀ z ∈ zs, key z.2 := fun z hz => hzs z (List.mem_cons_of_mem _ hz)
    have hxs : ∀ a ∈ zs.map Prod.snd, key a := by
      intro a ha
      obtain ⟨z, hz, rfl⟩ := List.mem_map.mp ha
      exact hkeys z hz
    -- Going on in the longer list adds a place of `x` only, which is not among what is kept.
    have hgoOn : ∀ {seen : List α}, (∀ a ∈ seen, key a) → x ∈ seen →
        (dedupeBy same id seen (zs.map Prod.snd)).Pairwise fun a b =>
          a ≠ b ∧ ∃ q, (q, a) ∈ (p, x) :: zs ∧ ∀ r, (r, b) ∈ (p, x) :: zs → q < r := by
      intro seen hseen hmem
      refine (ih hkeys hseen hrest).imp_of_mem fun {a b} _ hb hab => ?_
      obtain ⟨hne, q, hq, hlt⟩ := hab
      refine ⟨hne, q, List.mem_cons_of_mem _ hq, fun r hr => ?_⟩
      rcases List.mem_cons.mp hr with hr | hr
      · have hns := ((mem_dedupeBy_iff hsame hxs hseen b).mp hb).2
        exact absurd ((Prod.mk.inj hr).2 ▸ hmem) hns
      · exact hlt r hr
    rw [List.map_cons, dedupeBy]
    split
    next hany =>
      obtain ⟨b, hb, heq⟩ := List.any_eq_true.mp hany
      exact hgoOn hseen ((hsame x b hx (hseen b hb)).mp heq ▸ hb)
    next =>
      have hseen' : ∀ a ∈ x :: seen, key a := by
        intro a ha
        rcases List.mem_cons.mp ha with rfl | ha
        · exact hx
        · exact hseen a ha
      refine List.pairwise_cons.mpr ⟨fun b hb => ?_, hgoOn hseen' List.mem_cons_self⟩
      have hne : b ≠ x := fun h => ((mem_dedupeBy_iff hsame hxs hseen' b).mp hb).2 (by simp [h])
      refine ⟨Ne.symm hne, p, List.mem_cons_self, fun q hq => ?_⟩
      rcases List.mem_cons.mp hq with hq | hq
      · exact absurd (Prod.mk.inj hq).2 hne
      · exact hfirst q (List.mem_map_of_mem (f := Prod.fst) hq)

end Dedupe

end CodeAtlas.Link
