import Mathlib.Data.List.Forall2
import Mathlib.Data.List.Nodup

/-! Lists item by item: two lists side by side, keys and their values, texts that are joined. -/

namespace CodeAtlas

variable {α β γ : Type}

/-! ### Side by side -/

theorem forall₂_filter_filterMap {p : α → Prop} [DecidablePred p] {f : α → Option β}
    {R : α → β → Prop} {xs : List α} (hsome : ∀ a ∈ xs, p a → ∃ b, f a = some b ∧ R a b)
    (hnone : ∀ a ∈ xs, ¬ p a → f a = none) : List.Forall₂ R (xs.filter p) (xs.filterMap f) := by
  induction xs with
  | nil => exact .nil
  | cons a xs ih =>
    obtain ⟨hsomeA, hsome⟩ := List.forall_mem_cons.mp hsome
    obtain ⟨hnoneA, hnone⟩ := List.forall_mem_cons.mp hnone
    by_cases ha : p a
    · obtain ⟨b, hb, hab⟩ := hsomeA ha
      rw [List.filter_cons_of_pos (by simpa using ha), List.filterMap_cons_some hb]
      exact .cons hab (ih hsome hnone)
    · rw [List.filter_cons_of_neg (by simpa using ha), List.filterMap_cons_none (hnoneA ha)]
      exact ih hsome hnone

theorem map_eq_of_forall₂ {R : α → β → Prop} {f : α → γ} {g : β → γ} {xs : List α}
    {ys : List β} (h : List.Forall₂ R xs ys) (hR : ∀ x y, R x y → g y = f x) :
    ys.map g = xs.map f := by
  induction h with
  | nil => rfl
  | cons hxy _ ih => rw [List.map_cons, List.map_cons, hR _ _ hxy, ih]

theorem forall₂_and_mem {R : α → β → Prop} {xs : List α} {ys : List β}
    (h : List.Forall₂ R xs ys) : List.Forall₂ (fun x y => y ∈ ys ∧ R x y) xs ys := by
  induction h with
  | nil => exact .nil
  | cons hxy _ ih =>
    exact .cons ⟨List.mem_cons_self, hxy⟩
      (ih.imp fun _ _ h => ⟨List.mem_cons_of_mem _ h.1, h.2⟩)

theorem exists_left_of_forall₂ {R : α → β → Prop} {xs : List α} {ys : List β} {y : β}
    (h : List.Forall₂ R xs ys) (hy : y ∈ ys) : ∃ x ∈ xs, R x y := by
  induction h with
  | nil => cases hy
  | cons hfirst _ ih =>
    rcases List.mem_cons.mp hy with rfl | hrest
    · exact ⟨_, List.mem_cons_self, hfirst⟩
    · obtain ⟨x, hx, hxy⟩ := ih hrest
      exact ⟨x, List.mem_cons_of_mem _ hx, hxy⟩

/-! ### Items with a property -/

theorem filter_flatMap_eq (xs : List α) (test : α → Bool) (f : α → List β) :
    (xs.filter test).flatMap f = xs.flatMap fun x => if test x then f x else [] := by
  induction xs with
  | nil => rfl
  | cons x xs ih => by_cases hx : test x = true <;> simp [hx, ih]

/-! ### Keys -/

theorem lookup_eq_some_iff_mem {l : List (String × α)} (h : (l.map Prod.fst).Nodup)
    {key : String} {value : α} : l.lookup key = some value ↔ (key, value) ∈ l := by
  induction l with
  | nil => simp
  | cons e l ih =>
    obtain ⟨hkey, hl⟩ := List.nodup_cons.mp h
    by_cases he : key = e.1
    · have hrest : (key, value) ∉ l := fun hmem => hkey (List.mem_map.mpr ⟨_, hmem, he⟩)
      have hb : (key == e.1) = true := by simpa using he
      rw [List.lookup_cons, hb, List.mem_cons, or_iff_left hrest]
      simp [Prod.ext_iff, he, eq_comm]
    · have hne : (key, value) ≠ e := fun heq => he (congrArg Prod.fst heq)
      have hb : (key == e.1) = false := by simpa using he
      rw [List.lookup_cons, hb, List.mem_cons, or_iff_right hne]
      exact ih hl

/-! ### Joined texts -/

theorem exists_intercalate_eq (sep first : String) (texts : List String) :
    ∃ rest, sep.intercalate (first :: texts) = first ++ rest := by
  cases texts with
  | nil => exact ⟨"", by rw [String.intercalate_singleton, String.append_empty]⟩
  | cons text texts =>
    exact ⟨_, (String.intercalate_cons_cons).trans (String.append_assoc ..)⟩

end CodeAtlas
