import CodeAtlas.Text.Search
import Mathlib.Data.List.Infix

/-! Finding one text inside another. The search finds a text wherever it occurs, and finds its first
occurrence, so a text is cut there. -/

namespace CodeAtlas.Text

variable {needle s : List Char}

/-- The first occurrence is found: what stands before it is no longer than what stands before any
other. -/
theorem exists_find? (h : needle <:+: s) :
    ∃ before after, find? needle s = some before.length ∧ s = before ++ needle ++ after ∧
      ∀ x y, s = x ++ needle ++ y → before.length ≤ x.length := by
  induction s with
  | nil =>
    obtain rfl := List.infix_nil.mp h
    exact ⟨[], [], rfl, rfl, fun _ _ _ => Nat.zero_le _⟩
  | cons c s ih =>
    by_cases hfront : needle <+: c :: s
    · obtain ⟨after, hafter⟩ := hfront
      refine ⟨[], after, ?_, hafter.symm, fun _ _ _ => Nat.zero_le _⟩
      rw [find?, if_pos (List.isPrefixOf_iff_prefix.mpr ⟨after, hafter⟩)]
      rfl
    · obtain ⟨before, after, hfind, rfl, hfirst⟩ :=
        ih ((List.infix_cons_iff.mp h).resolve_left hfront)
      refine ⟨c :: before, after, ?_, rfl, fun x y hxy => ?_⟩
      · rw [find?, if_neg (fun hp => hfront (List.isPrefixOf_iff_prefix.mp hp)), hfind]
        rfl
      · cases x with
        | nil => exact absurd ⟨y, hxy.symm⟩ hfront
        | cons d x =>
          obtain ⟨-, hrest⟩ := List.cons.inj hxy
          exact Nat.succ_le_succ (hfirst x y hrest)

theorem infix_of_find? {i : Nat} (h : find? needle s = some i) : needle <:+: s := by
  induction s generalizing i with
  | nil =>
    rw [find?] at h
    split at h
    · next hempty => exact List.isEmpty_iff.mp hempty ▸ List.nil_infix
    · cases h
  | cons c s ih =>
    rw [find?] at h
    split at h
    · next hfront => exact (List.isPrefixOf_iff_prefix.mp hfront).isInfix
    · obtain ⟨j, hj, -⟩ := Option.map_eq_some_iff.mp h
      exact List.infix_cons (ih hj)

theorem occurs_iff : occurs needle s = true ↔ needle <:+: s := by
  constructor
  · intro h
    obtain ⟨i, hi⟩ := Option.isSome_iff_exists.mp h
    exact infix_of_find? hi
  · intro h
    obtain ⟨before, -, hfind, -⟩ := exists_find? h
    rw [occurs, hfind]
    rfl

/-- A text is cut at the first occurrence of another. -/
theorem exists_cut? (h : needle <:+: s) :
    ∃ before after, cut? needle s = some (before, after) ∧ s = before ++ needle ++ after ∧
      ∀ x y, s = x ++ needle ++ y → before.length ≤ x.length := by
  obtain ⟨before, after, hfind, hs, hfirst⟩ := exists_find? h
  refine ⟨before, after, ?_, hs, hfirst⟩
  rw [cut?, hfind, hs]
  simp

variable {word xs ys : List Char}

/-- A text that occurs in front is cut there, whatever comes behind. -/
theorem exists_cut?_append (h : needle <:+: xs) (ys : List Char) :
    ∃ before after, cut? needle (xs ++ ys) = some (before, after ++ ys) := by
  obtain ⟨before, after, hcut, hs, hfirst⟩ :=
    exists_cut? (h.trans (List.prefix_append xs ys).isInfix)
  obtain ⟨x, y, hxy⟩ := h
  have hle : before.length ≤ x.length := hfirst x (y ++ ys) (by simp [← hxy])
  have hfront : before ++ needle <+: xs :=
    List.prefix_of_prefix_length_le ⟨after, hs.symm⟩ (List.prefix_append xs ys)
      (by simp [← hxy]; omega)
  obtain ⟨z, rfl⟩ := hfront
  refine ⟨before, z, ?_⟩
  rw [hcut, List.append_cancel_left (hs.symm.trans (List.append_assoc ..))]

/-! ### Where a row ends -/

/-- A word with the line feed behind it cannot stand across another line feed. -/
theorem prefix_row_iff (hword : '\n' ∉ word) :
    word ++ ['\n'] <+: xs ++ '\n' :: ys ↔ word ++ ['\n'] <+: xs ++ ['\n'] := by
  have hrest : xs ++ '\n' :: ys = (xs ++ ['\n']) ++ ys := by simp
  rw [hrest]
  refine ⟨fun h => ?_, fun h => h.trans (List.prefix_append _ _)⟩
  -- a word longer than `xs` would hold the line feed after it
  rcases Nat.lt_or_ge xs.length word.length with hlt | hle
  · have hfeed : xs ++ ['\n'] <+: word :=
      List.prefix_of_prefix_length_le (List.prefix_append _ _)
        ((List.prefix_append _ _).trans h) (by simpa [Nat.succ_le_iff] using hlt)
    exact absurd (hfeed.subset (by simp)) hword
  · exact List.prefix_of_prefix_length_le h (List.prefix_append _ _) (by simpa using hle)

theorem infix_row_iff (hword : '\n' ∉ word) :
    word ++ ['\n'] <:+: xs ++ '\n' :: ys ↔
      word ++ ['\n'] <:+: xs ++ ['\n'] ∨ word ++ ['\n'] <:+: ys := by
  induction xs with
  | nil =>
    have hfront : word ++ ['\n'] <+: [] ++ '\n' :: ys ↔ word ++ ['\n'] <+: [] ++ ['\n'] :=
      prefix_row_iff hword
    simp only [List.nil_append] at hfront ⊢
    rw [List.infix_cons_iff, List.infix_cons_iff, hfront, List.infix_nil]
    simp
  | cons c xs ih =>
    rw [List.cons_append, List.infix_cons_iff, ← List.cons_append, prefix_row_iff hword, ih,
      ← or_assoc, List.cons_append, List.infix_cons_iff]

/-- After a line feed a row is found, unless it stands in front of that already. -/
theorem cut?_row (hword : '\n' ∉ word) (h : ¬ word ++ ['\n'] <:+: xs ++ ['\n']) (ys : List Char) :
    cut? (word ++ ['\n']) (xs ++ ['\n'] ++ (word ++ ['\n']) ++ ys) = some (xs ++ ['\n'], ys) := by
  obtain ⟨before, after, hcut, hs, hfirst⟩ :=
    exists_cut? (List.infix_append (xs ++ ['\n']) (word ++ ['\n']) ys)
  have hle : before.length ≤ (xs ++ ['\n']).length := hfirst _ ys rfl
  rw [List.append_assoc, List.append_assoc before] at hs
  rcases Nat.lt_or_ge xs.length before.length with hlt | hxs
  · have hlen : (xs ++ ['\n']).length = before.length := by
      rw [List.length_append] at hle ⊢
      exact Nat.le_antisymm hlt hle
    obtain ⟨rfl, hrest⟩ := List.append_inj hs hlen
    rw [hcut, List.append_cancel_left hrest]
  · -- an earlier one would begin before the line feed, and so end there at the latest
    have hbefore : before <+: xs :=
      List.prefix_of_prefix_length_le ⟨_, hs.symm⟩
        ((List.prefix_append _ _).trans (List.prefix_append _ _)) hxs
    obtain ⟨zs, rfl⟩ := hbefore
    simp only [List.append_assoc, List.singleton_append] at hs
    have hmet : word ++ ['\n'] <+: zs ++ '\n' :: (word ++ '\n' :: ys) :=
      ⟨after, by simpa using (List.append_cancel_left hs).symm⟩
    have hin : word ++ ['\n'] <:+: zs ++ ['\n'] := ((prefix_row_iff hword).mp hmet).isInfix
    rw [List.append_assoc] at h
    exact absurd (hin.trans (List.suffix_append _ _).isInfix) h

/-- A text is not found in what does not have its first character. -/
theorem infix_append_iff_of_notMem {c : Char} (hc : c ∉ xs) :
    c :: needle <:+: xs ++ ys ↔ c :: needle <:+: ys := by
  induction xs with
  | nil => rfl
  | cons d xs ih =>
    obtain ⟨hne, hc⟩ := List.ne_and_not_mem_of_not_mem_cons hc
    rw [List.cons_append, List.infix_cons_iff, ih hc, List.cons_prefix_cons]
    simp [hne]

end CodeAtlas.Text
