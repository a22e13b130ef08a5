import CodeAtlas.Proofs.Paths

/-! Rows by line feeds against rows of a listing. A listing also breaks at characters other than
the line feed. Before the first of these both have the same rows; from there on a listing has more
of them, and in none of its rows is such a character. -/

namespace CodeAtlas.Text

/-- How many rows a text has by its line feeds; there is none behind a line feed at its end. -/
def rowCount (cs : List Char) : Nat :=
  if cs.getLast? = some '\n' then (splitAt '\n' cs).length - 1 else (splitAt '\n' cs).length

/-- No character in these rows would end a row of a listing. -/
def Unbroken (rs : List (List Char)) : Prop :=
  ∀ r ∈ rs, ∀ c ∈ r, isRowBreak c = false

theorem unbroken_cons {r : List Char} {rs : List (List Char)} :
    Unbroken (r :: rs) ↔ (∀ c ∈ r, isRowBreak c = false) ∧ Unbroken rs :=
  List.forall_mem_cons

/-! ### Joined rows -/

theorem mem_joinRows {c : Char} (hc : c ≠ '\n') (rs : List (List Char)) :
    c ∈ joinRows rs ↔ ∃ r ∈ rs, c ∈ r := by
  induction rs with
  | nil => simp [joinRows]
  | cons r rs ih =>
    cases rs with
    | nil => simp [joinRows]
    | cons r' rs =>
      have hjoin : joinRows (r :: r' :: rs) = r ++ ['\n'] ++ joinRows (r' :: rs) :=
        List.intercalate_cons_cons
      rw [hjoin, List.mem_append, List.mem_append, List.mem_singleton, ih]
      simp [hc]

theorem joinRows_splitAt (cs : List Char) : joinRows (splitAt '\n' cs) = cs := by
  rw [splitAt_eq_splitOn]
  exact List.intercalate_splitOn '\n'

/-! ### Rows by line feeds -/

theorem exists_splitAt_eq (sep : Char) (cs : List Char) : ∃ r rs, splitAt sep cs = r :: rs := by
  rw [splitAt_eq_splitOn]
  exact List.exists_cons_of_ne_nil (List.splitOn_ne_nil sep cs)

theorem splitAt_cons_sep (sep : Char) (cs : List Char) :
    splitAt sep (sep :: cs) = [] :: splitAt sep cs := by
  simp [splitAt]

theorem splitAt_cons_of_ne {sep c : Char} (h : c ≠ sep) (cs : List Char) :
    splitAt sep (c :: cs) = consRow c (splitAt sep cs) := by
  simp [splitAt, h]

theorem rowCount_cons_newline {cs : List Char} (h : cs ≠ []) :
    rowCount ('\n' :: cs) = rowCount cs + 1 := by
  obtain ⟨r, rs, hsplit⟩ := exists_splitAt_eq '\n' cs
  rw [rowCount, rowCount, List.getLast?_cons_of_ne_nil h, splitAt_cons_sep, hsplit]
  split <;> simp

theorem rowCount_cons_of_ne {c : Char} {cs : List Char} (hc : c ≠ '\n') (h : cs ≠ []) :
    rowCount (c :: cs) = rowCount cs := by
  obtain ⟨r, rs, hsplit⟩ := exists_splitAt_eq '\n' cs
  rw [rowCount, rowCount, List.getLast?_cons_of_ne_nil h, splitAt_cons_of_ne hc, hsplit]
  rfl

/-- Only an empty row is left out of the count. -/
theorem lt_rowCount {cs r : List Char} {i : Nat} (h : (splitAt '\n' cs)[i]? = some r)
    (hr : r ≠ []) : i < rowCount cs := by
  obtain ⟨hi, hget⟩ := List.getElem?_eq_some_iff.mp h
  rw [rowCount]
  split
  next hlast =>
    -- The row behind the last line feed is empty, so `r` stands before it.
    obtain ⟨ds, rfl⟩ := List.getLast?_eq_some_iff.mp hlast
    have hsplit : splitAt '\n' (ds ++ ['\n']) = splitAt '\n' ds ++ [[]] := by
      rw [splitAt_eq_splitOn, splitAt_eq_splitOn]
      exact List.splitOn_append_cons_self ds []
    rw [hsplit] at h hi ⊢
    rw [List.length_append, List.length_singleton] at hi ⊢
    rcases Nat.lt_succ_iff_lt_or_eq.mp hi with hlt | rfl
    · exact hlt
    · rw [List.getElem?_append_right (Nat.le_refl _), Nat.sub_self] at h
      exact absurd (Option.some.inj h).symm hr
  next => exact hi

/-- A character that is no line feed is in one of the rows that count. -/
theorem exists_row_of_mem {c : Char} (hc : c ≠ '\n') {cs : List Char} (h : c ∈ cs) :
    ∃ (i : Nat) (r : List Char), (splitAt '\n' cs)[i]? = some r ∧ c ∈ r ∧ i < rowCount cs := by
  rw [← joinRows_splitAt cs, mem_joinRows hc] at h
  obtain ⟨r, hr, hcr⟩ := h
  obtain ⟨i, hi⟩ := List.mem_iff_getElem?.mp hr
  exact ⟨i, r, hi, hcr, lt_rowCount hi (List.ne_nil_of_mem hcr)⟩

theorem ne_newline_of_mem_row {cs r : List Char} (hr : r ∈ splitAt '\n' cs) {c : Char}
    (hc : c ∈ r) : c ≠ '\n' := by
  rintro rfl
  exact sep_notMem_of_mem_splitAt hr hc

theorem unbroken_splitAt {cs : List Char} (h : ∀ c ∈ cs, isRowBreak c = true → c = '\n') :
    Unbroken (splitAt '\n' cs) := by
  intro r hr c hc
  have hne : c ≠ '\n' := ne_newline_of_mem_row hr hc
  have hmem : c ∈ cs := by
    rw [← joinRows_splitAt cs, mem_joinRows hne]
    exact ⟨r, hr, hc⟩
  exact Bool.eq_false_iff.mpr fun hbreak => hne (h c hmem hbreak)

/-! ### Rows of a listing -/

theorem unbroken_consRow {c : Char} {rs : List (List Char)} (hc : isRowBreak c = false)
    (h : Unbroken rs) : Unbroken (consRow c rs) := by
  cases rs with
  | nil => simp [consRow, Unbroken, hc]
  | cons r rs =>
    obtain ⟨hr, hrs⟩ := unbroken_cons.mp h
    exact unbroken_cons.mpr ⟨List.forall_mem_cons.mpr ⟨hc, hr⟩, hrs⟩

theorem unbroken_rows (cs : List Char) : Unbroken (rows cs) := by
  fun_induction rows cs with
  | case1 => simp [Unbroken]
  | case2 c hc => simp [Unbroken]
  | case3 c hc => simp [Unbroken, hc]
  | case4 c d cs hcr ih => exact unbroken_cons.mpr ⟨by simp, ih⟩
  | case5 c d cs hcr hc ih => exact unbroken_cons.mpr ⟨by simp, ih⟩
  | case6 c d cs hcr hc ih => exact unbroken_consRow (by simpa using hc) ih

theorem rows_cons_newline {cs : List Char} (h : cs ≠ []) : rows ('\n' :: cs) = [] :: rows cs := by
  obtain ⟨d, cs, rfl⟩ := List.exists_cons_of_ne_nil h
  simp [rows, isRowBreak]

theorem rows_cons_of_not_break {c : Char} (hc : isRowBreak c = false) {cs : List Char}
    (h : cs ≠ []) : rows (c :: cs) = consRow c (rows cs) := by
  obtain ⟨d, cs, rfl⟩ := List.exists_cons_of_ne_nil h
  have hcr : c ≠ '\r' := by
    rintro rfl
    exact absurd hc (by decide)
  simp [rows, hcr, hc]

theorem exists_rows_eq {cs : List Char} (h : cs ≠ []) : ∃ r rs, rows cs = r :: rs := by
  fun_cases rows cs with
  | case1 => exact absurd rfl h
  | case2 | case3 | case4 | case5 => exact ⟨_, _, rfl⟩
  | case6 c d cs hcr hc =>
    cases rows (d :: cs) with
    | nil => exact ⟨_, _, rfl⟩
    | cons r rs => exact ⟨_, _, rfl⟩

theorem take_rows_singleton {c : Char} {k : Nat} (hk : k + 1 ≤ rowCount [c])
    (h : Unbroken ((splitAt '\n' [c]).take (k + 1))) :
    (rows [c]).take (k + 1) = (splitAt '\n' [c]).take (k + 1) := by
  by_cases hc : c = '\n'
  · subst hc
    obtain rfl : k = 0 := by
      simp [rowCount, splitAt] at hk
      omega
    decide
  · have hsplit : splitAt '\n' [c] = [[c]] := by simp [splitAt, hc, consRow]
    have hbreak : isRowBreak c = false := by
      rw [hsplit] at h
      exact h [c] (by simp) c (by simp)
    simp [rows, hsplit, hbreak]

/-- As long as no other character ends a row, a listing has the rows that line feeds make. -/
theorem take_rows {cs : List Char} (hne : cs ≠ []) {k : Nat} (hk : k ≤ rowCount cs)
    (h : Unbroken ((splitAt '\n' cs).take k)) : (rows cs).take k = (splitAt '\n' cs).take k := by
  -- By characters: a line feed closes a row on both sides, and any other goes to the row behind it.
  induction cs generalizing k with
  | nil => exact absurd rfl hne
  | cons c cs ih =>
    cases k with
    | zero => rfl
    | succ k =>
      by_cases hcs : cs = []
      · subst hcs
        exact take_rows_singleton hk h
      by_cases hc : c = '\n'
      · subst hc
        rw [rowCount_cons_newline hcs, Nat.add_le_add_iff_right] at hk
        rw [splitAt_cons_sep, List.take_succ_cons] at h ⊢
        rw [rows_cons_newline hcs, List.take_succ_cons, ih hcs hk (unbroken_cons.mp h).2]
      · obtain ⟨r, rs, hsplit⟩ := exists_splitAt_eq '\n' cs
        obtain ⟨r', rs', hrows⟩ := exists_rows_eq hcs
        rw [rowCount_cons_of_ne hc hcs] at hk
        rw [splitAt_cons_of_ne hc, hsplit, consRow, List.take_succ_cons, unbroken_cons] at h
        obtain ⟨hrow, hrest⟩ := h
        obtain ⟨hbreak, hr⟩ := List.forall_mem_cons.mp hrow
        have htail := ih hcs hk (by
          rw [hsplit, List.take_succ_cons]
          exact unbroken_cons.mpr ⟨hr, hrest⟩)
        rw [hsplit, hrows, List.take_succ_cons, List.take_succ_cons, List.cons.injEq] at htail
        rw [splitAt_cons_of_ne hc, rows_cons_of_not_break hbreak hcs, hsplit, hrows]
        simp only [consRow, List.take_succ_cons, htail.1, htail.2]

end CodeAtlas.Text
