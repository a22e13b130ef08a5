import CodeAtlas.Chat.Retrieval
import CodeAtlas.Proofs.Text.Blank
import CodeAtlas.Proofs.Text.Rows
import Mathlib.Data.List.Forall2

/-! Retrieved code keeps its indentation in the task that the model is given. Common indentation is
taken away only after code and question have been put into the task. But the task has rows of its
own that are not indented, so that there is none, whatever stands in the other rows. -/

namespace CodeAtlas

namespace Text

/-! ### Common indentation -/

theorem commonStart_isPrefix (a b : List Char) :
    commonStart a b <+: a ∧ commonStart a b <+: b := by
  fun_induction commonStart a b with
  | case1 a as b bs heq ih =>
    obtain rfl : a = b := by simpa using heq
    exact ⟨List.cons_prefix_cons.mpr ⟨rfl, ih.1⟩, List.cons_prefix_cons.mpr ⟨rfl, ih.2⟩⟩
  | case2 | case3 => exact ⟨List.nil_prefix, List.nil_prefix⟩

theorem foldl_commonStart_isPrefix (first : List Char) (rest : List (List Char)) :
    ∀ x ∈ first :: rest, rest.foldl commonStart first <+: x := by
  induction rest generalizing first with
  | nil =>
    intro x hx
    rw [List.mem_singleton.mp hx]
    exact List.prefix_rfl
  | cons next rest ih =>
    have hstep := commonStart_isPrefix first next
    have hfold := ih (commonStart first next)
    have hboth := hfold _ List.mem_cons_self
    intro x hx
    rcases List.mem_cons.mp hx with rfl | hx
    · exact hboth.trans hstep.1
    rcases List.mem_cons.mp hx with rfl | hx
    · exact hboth.trans hstep.2
    · exact hfold x (List.mem_cons_of_mem _ hx)

/-- Every row that is not empty begins with the common indentation. -/
theorem margin_isPrefix {rs : List (List Char)} {row : List Char} (hrow : row ∈ rs)
    (hne : row ≠ []) : margin rs <+: row.takeWhile isIndent := by
  have hmem : row.takeWhile isIndent ∈ (rs.filter (!·.isEmpty)).map (·.takeWhile isIndent) :=
    List.mem_map_of_mem (List.mem_filter.mpr ⟨hrow, by simpa using hne⟩)
  rw [margin]
  cases hindents : (rs.filter (!·.isEmpty)).map (·.takeWhile isIndent) with
  | nil =>
    rw [hindents] at hmem
    cases hmem
  | cons first rest =>
    rw [hindents] at hmem
    exact foldl_commonStart_isPrefix first rest _ hmem

/-- A row that begins with something else than a space or a tab. -/
def Unindented (row : List Char) : Prop :=
  ∃ c cs, row = c :: cs ∧ isIndent c = false

theorem Unindented.blankRow_eq {row : List Char} (h : Unindented row) : blankRow row = row := by
  obtain ⟨c, cs, rfl, hc⟩ := h
  simp [blankRow, hc]

/-- With such a row no indentation is taken away from any row. -/
theorem dedent_eq_of_unindented {s row : List Char} (hrow : row ∈ splitAt '\n' s)
    (h : Unindented row) : dedent s = joinRows ((splitAt '\n' s).map blankRow) := by
  have hmem : row ∈ (splitAt '\n' s).map blankRow :=
    List.mem_map.mpr ⟨row, hrow, h.blankRow_eq⟩
  obtain ⟨c, cs, rfl, hc⟩ := h
  have hmargin : margin ((splitAt '\n' s).map blankRow) = [] := by
    have hstart := margin_isPrefix hmem (List.cons_ne_nil c cs)
    rwa [List.takeWhile_cons_of_neg (by simp [hc]), List.prefix_nil] at hstart
  rw [dedent, hmargin]
  simp only [List.isPrefixOf_nil_left, if_true, List.length_nil, List.drop_zero, List.map_id']

-- The second row keeps its spaces, the third is emptied, the last keeps its tab.
example : dedent "a\n  b\n \t\n\tc".toList = "a\n  b\n\n\tc".toList := by decide

/-- A row that is kept: emptied if there is nothing but spaces and tabs in it, and else as it is. -/
structure Kept (row kept : List Char) : Prop where
  blank : (∀ c ∈ row, c = ' ' ∨ c = '\t') → kept = []
  other : (∃ c ∈ row, c ≠ ' ' ∧ c ≠ '\t') → kept = row

theorem isIndent_iff {c : Char} : isIndent c = true ↔ c = ' ' ∨ c = '\t' := by
  simp [isIndent]

theorem kept_blankRow (row : List Char) : Kept row (blankRow row) := by
  have hall : row.all isIndent = true ↔ ∀ c ∈ row, c = ' ' ∨ c = '\t' := by
    simp only [List.all_eq_true, isIndent_iff]
  constructor
  · intro hblank
    rw [blankRow, if_pos (hall.mpr hblank)]
  · rintro ⟨c, hc, hspace, htab⟩
    rw [blankRow, if_neg fun hblank => ?_]
    rcases hall.mp hblank c hc with rfl | rfl
    · exact hspace rfl
    · exact htab rfl

theorem forall₂_kept (rs : List (List Char)) : List.Forall₂ Kept rs (rs.map blankRow) :=
  List.forall₂_map_right_iff.mpr (List.forall₂_same.mpr fun row _ => kept_blankRow row)

/-! ### Rows put together -/

theorem joinRows_append {as bs : List (List Char)} (ha : as ≠ []) (hb : bs ≠ []) :
    joinRows (as ++ bs) = joinRows as ++ '\n' :: joinRows bs := by
  induction as with
  | nil => exact absurd rfl ha
  | cons a as ih =>
    by_cases has : as = []
    · subst has
      simp [joinRows, List.intercalate_cons_of_ne_nil hb]
    · have hrest : as ++ bs ≠ [] := by simp [has]
      have hjoin := ih has
      simp only [joinRows] at hjoin ⊢
      rw [List.cons_append, List.intercalate_cons_of_ne_nil hrest, hjoin,
        List.intercalate_cons_of_ne_nil has]
      simp

theorem splitAt_joinRows {rs : List (List Char)} (hne : rs ≠ []) (h : ∀ r ∈ rs, '\n' ∉ r) :
    splitAt '\n' (joinRows rs) = rs := by
  rw [splitAt_eq_splitOn]
  exact List.splitOn_intercalate '\n' h hne

/-- Rows with an empty one before and behind them. -/
theorem joinRows_framed {rs : List (List Char)} (hne : rs ≠ []) :
    joinRows ([] :: rs ++ [[]]) = '\n' :: joinRows rs ++ ['\n'] := by
  rw [joinRows_append (List.cons_ne_nil _ _) (List.cons_ne_nil _ _),
    ← List.singleton_append, joinRows_append (List.cons_ne_nil _ _) hne]
  rfl

end Text

namespace Chat

open Text

/-! ### The rows of the task -/

/-- Before the context. -/
def openingRows : List (List Char) :=
  ["Relevant semantic context (vector retrieval):".toList]

/-- Between the context and the question. -/
def middleRows : List (List Char) :=
  [[], "User question:".toList]

/-- Behind the question. -/
def closingRows : List (List Char) :=
  [[], "Using the information above, answer the user's question.".toList,
    "Focus on correctness, clarity, and actionable insights.".toList,
    "If the answer is not in the context, respond with EXACTLY: \"I don't know\".".toList,
    "Do not mention the fact that the code was provided to you; answer like you know the code."
      |>.toList]

/-- The rows of the task, with those of the context and of the question in it. -/
def taskRows (context question : List (List Char)) : List (List Char) :=
  openingRows ++ (context ++ (middleRows ++ (question ++ closingRows)))

variable {context question : List (List Char)}

theorem taskRows_ne_nil : taskRows context question ≠ [] := List.cons_ne_nil _ _

theorem joinRows_taskRows (hcontext : context ≠ []) (hquestion : question ≠ []) :
    joinRows (taskRows context question) = joinRows openingRows ++ '\n' :: (joinRows context ++
      '\n' :: (joinRows middleRows ++ '\n' :: (joinRows question ++
        '\n' :: joinRows closingRows))) := by
  have hopening : openingRows ≠ [] := List.cons_ne_nil _ _
  have hmiddle : middleRows ≠ [] := List.cons_ne_nil _ _
  have hclosing : closingRows ≠ [] := List.cons_ne_nil _ _
  rw [taskRows, joinRows_append hopening (by simp [hcontext]),
    joinRows_append hcontext (by simp [hmiddle]), joinRows_append hmiddle (by simp [hquestion]),
    joinRows_append hquestion hclosing]

/-- The rows of the context stand behind the first one. -/
theorem getElem?_taskRows {i : Nat} {r : List Char} (h : context[i]? = some r) :
    (taskRows context question)[i + 1]? = some r := by
  obtain ⟨hi, -⟩ := List.getElem?_eq_some_iff.mp h
  rw [taskRows, openingRows, List.singleton_append, List.getElem?_cons_succ,
    List.getElem?_append_left hi, h]

/-- The task's own rows have no line feed in them and stay as they are. -/
theorem own_rows :
    ∀ r ∈ openingRows ++ (middleRows ++ closingRows), '\n' ∉ r ∧ blankRow r = r := by
  unfold openingRows middleRows closingRows
  repeat rw [String.toList_ofList]
  decide

theorem newline_notMem_taskRows (hcontext : ∀ r ∈ context, '\n' ∉ r)
    (hquestion : ∀ r ∈ question, '\n' ∉ r) : ∀ r ∈ taskRows context question, '\n' ∉ r := by
  obtain ⟨hopening, hown⟩ := List.forall_mem_append.mp own_rows
  obtain ⟨hmiddle, hclosing⟩ := List.forall_mem_append.mp hown
  simp only [taskRows, List.forall_mem_append]
  exact ⟨fun r hr => (hopening r hr).1, hcontext, fun r hr => (hmiddle r hr).1, hquestion,
    fun r hr => (hclosing r hr).1⟩

theorem map_blankRow_taskRows (context question : List (List Char)) :
    (taskRows context question).map blankRow =
      taskRows (context.map blankRow) (question.map blankRow) := by
  obtain ⟨hopening, hown⟩ := List.forall_mem_append.mp own_rows
  obtain ⟨hmiddle, hclosing⟩ := List.forall_mem_append.mp hown
  have hsame {rs : List (List Char)} (h : ∀ r ∈ rs, '\n' ∉ r ∧ blankRow r = r) :
      rs.map blankRow = rs :=
    (List.map_congr_left fun r hr => (h r hr).2).trans (List.map_id rs)
  simp only [taskRows, List.map_append, hsame hopening, hsame hmiddle, hsame hclosing]

theorem bare_taskRows (hcontext : context ≠ []) (hquestion : question ≠ []) :
    Bare (joinRows (taskRows context question)) := by
  have hhead : (joinRows openingRows).head? = some 'R' := by
    rw [openingRows, String.toList_ofList]
    rfl
  have hlast : (joinRows closingRows).getLast? = some '.' := by
    unfold closingRows
    repeat rw [String.toList_ofList]
    rfl
  rw [joinRows_taskRows hcontext hquestion]
  constructor
  · intro c hc
    rw [List.head?_append, hhead] at hc
    obtain rfl := Option.some.inj hc
    decide
  · intro c hc
    simp only [List.getLast?_append, List.getLast?_cons, hlast, Option.getD_some,
      Option.some_or] at hc
    obtain rfl := Option.some.inj hc
    decide

theorem toList_rawRetrievalPrompt (prompt context : String) :
    (rawRetrievalPrompt prompt context).toList =
      joinRows ([] :: taskRows (splitAt '\n' context.toList) (splitAt '\n' prompt.toList) ++
        [[]]) := by
  obtain ⟨c, cs, hcontext⟩ := exists_splitAt_eq '\n' context.toList
  obtain ⟨q, qs, hquestion⟩ := exists_splitAt_eq '\n' prompt.toList
  have hopening : "\nRelevant semantic context (vector retrieval):\n".toList =
      '\n' :: joinRows openingRows ++ ['\n'] := by
    rw [openingRows, String.toList_ofList, String.toList_ofList]
    rfl
  have hmiddle : "\n\nUser question:\n".toList = '\n' :: joinRows middleRows ++ ['\n'] := by
    rw [middleRows, String.toList_ofList, String.toList_ofList]
    rfl
  have hclosing : "\n\nUsing the information above, answer the user's question.\n".toList ++
      ("Focus on correctness, clarity, and actionable insights.\n".toList ++
      ("If the answer is not in the context, respond with EXACTLY: \"I don't know\".\n".toList ++
      ("Do not mention the fact that the code was provided to you; answer like you know the code.\n"
        |>.toList))) =
      '\n' :: joinRows closingRows ++ ['\n'] := by
    unfold closingRows
    repeat rw [String.toList_ofList]
    decide +kernel
  rw [joinRows_framed taskRows_ne_nil,
    joinRows_taskRows (by simp [hcontext]) (by simp [hquestion]), joinRows_splitAt,
    joinRows_splitAt]
  unfold rawRetrievalPrompt
  simp only [String.toList_append, List.append_assoc, hopening, hmiddle, hclosing,
    List.cons_append, List.nil_append]

theorem splitAt_rawRetrievalPrompt (prompt context : String) :
    splitAt '\n' (rawRetrievalPrompt prompt context).toList =
      [] :: taskRows (splitAt '\n' context.toList) (splitAt '\n' prompt.toList) ++ [[]] := by
  have hrows := newline_notMem_taskRows
    (fun r (hr : r ∈ splitAt '\n' context.toList) => sep_notMem_of_mem_splitAt hr)
    (fun r (hr : r ∈ splitAt '\n' prompt.toList) => sep_notMem_of_mem_splitAt hr)
  rw [toList_rawRetrievalPrompt, splitAt_joinRows (by simp)]
  simpa [or_imp, forall_and] using hrows

/-! ### What is left of them -/

/-- The rows that are kept of a text. -/
def keptRows (s : String) : List (List Char) :=
  (splitAt '\n' s.toList).map blankRow

theorem keptRows_ne_nil (s : String) : keptRows s ≠ [] := by
  obtain ⟨r, rs, hsplit⟩ := exists_splitAt_eq '\n' s.toList
  simp [keptRows, hsplit]

theorem newline_notMem_keptRows (s : String) : ∀ r ∈ keptRows s, '\n' ∉ r := by
  intro r hr hnewline
  obtain ⟨row, hrow, rfl⟩ := List.mem_map.mp hr
  rw [blankRow] at hnewline
  split at hnewline
  · cases hnewline
  · exact sep_notMem_of_mem_splitAt hrow hnewline

theorem keptRows_rawRetrievalPrompt (prompt context : String) :
    keptRows (rawRetrievalPrompt prompt context) =
      [] :: taskRows (keptRows context) (keptRows prompt) ++ [[]] := by
  rw [keptRows, splitAt_rawRetrievalPrompt, List.map_append, List.map_cons, map_blankRow_taskRows]
  rfl

/-- The first row of the task's own is not indented. -/
theorem dedent_rawRetrievalPrompt (prompt context : String) :
    dedent (rawRetrievalPrompt prompt context).toList =
      joinRows (keptRows (rawRetrievalPrompt prompt context)) := by
  have hrow : "Relevant semantic context (vector retrieval):".toList ∈
      splitAt '\n' (rawRetrievalPrompt prompt context).toList := by
    rw [splitAt_rawRetrievalPrompt]
    simp [taskRows, openingRows]
  have hunindented : Unindented "Relevant semantic context (vector retrieval):".toList := by
    rw [String.toList_ofList]
    exact ⟨_, _, rfl, by decide⟩
  exact dedent_eq_of_unindented hrow hunindented

theorem toList_retrievalPrompt (prompt context : String) :
    (retrievalPrompt prompt context).toList =
      strip (joinRows (keptRows (rawRetrievalPrompt prompt context))) := by
  rw [retrievalPrompt, trim, String.toList_ofList, String.toList_ofList,
    dedent_rawRetrievalPrompt]

/-- Stripping takes away the empty rows at the ends. -/
theorem splitAt_retrievalPrompt (prompt context : String) :
    splitAt '\n' (retrievalPrompt prompt context).toList =
      taskRows (keptRows context) (keptRows prompt) := by
  have hnewline : Blanks ['\n'] := by simp [Blanks, isBlank]
  have hbare := bare_taskRows (keptRows_ne_nil context) (keptRows_ne_nil prompt)
  rw [toList_retrievalPrompt, keptRows_rawRetrievalPrompt, joinRows_framed taskRows_ne_nil,
    ← List.singleton_append, strip_between hnewline hnewline, strip_eq_self_iff.mpr hbare,
    splitAt_joinRows taskRows_ne_nil]
  exact newline_notMem_taskRows (newline_notMem_keptRows context) (newline_notMem_keptRows prompt)

/-- The task that the model is given is the one into which context and question have been put, with
each row of nothing but spaces and tabs emptied and blanks stripped from its ends. Stripping takes
away an empty row at either end and nothing else. So all other rows are in it as they were: those of
the context from its second row on, each with its indentation, and then those of the question. -/
theorem retrievalPrompt_keeps_rows (prompt context : String) :
    (∃ kept, List.Forall₂ Kept (splitAt '\n' (rawRetrievalPrompt prompt context).toList) kept ∧
      (retrievalPrompt prompt context).toList = strip (joinRows kept) ∧
      kept = [] :: splitAt '\n' (retrievalPrompt prompt context).toList ++ [[]]) ∧
    (∃ contextRows questionRows,
      List.Forall₂ Kept (splitAt '\n' context.toList) contextRows ∧
      List.Forall₂ Kept (splitAt '\n' prompt.toList) questionRows ∧
      splitAt '\n' (retrievalPrompt prompt context).toList = taskRows contextRows questionRows) ∧
    ∀ i row, (splitAt '\n' context.toList)[i]? = some row → (∃ c ∈ row, c ≠ ' ' ∧ c ≠ '\t') →
      (splitAt '\n' (retrievalPrompt prompt context).toList)[i + 1]? = some row := by
  have hrows := splitAt_retrievalPrompt prompt context
  refine ⟨⟨keptRows (rawRetrievalPrompt prompt context), forall₂_kept _,
    toList_retrievalPrompt prompt context, ?_⟩,
    ⟨keptRows context, keptRows prompt, forall₂_kept _, forall₂_kept _, hrows⟩, ?_⟩
  · rw [keptRows_rawRetrievalPrompt, hrows]
  · intro i row hi hrow
    have hkept : (keptRows context)[i]? = some row := by
      rw [keptRows, List.getElem?_map, hi, Option.map_some, (kept_blankRow row).other hrow]
    rw [hrows, getElem?_taskRows hkept]

end Chat

end CodeAtlas
