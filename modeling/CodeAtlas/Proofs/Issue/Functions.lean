import CodeAtlas.Proofs.Issue.Repeats
import CodeAtlas.Proofs.Text.Pattern

/-! Repeated functions of Python code. Each function ends before a line feed, so the next one starts
on a later row. But a report does not stand on the row of its function: it stands on the row on
which the function's text first occurs, and that is mostly the function it repeats. -/

namespace CodeAtlas.Issue

open CodeAtlas.Text (Match Spot)

/-! ### Where functions stand -/

section Heads
variable {cs : List Char} {m m' : Match} {p q : Spot}

/-- What looks ahead takes nothing. -/
theorem mem_ends_ahead_iff {body : Text.Pattern} :
    q ∈ (Text.Pattern.ahead body).ends p ↔ q = p ∧ body.ends p ≠ [] := by
  rw [Text.Pattern.ends_ahead]
  split <;> simp_all

/-- A function begins with a letter, and behind it the text is at its end or a row is. -/
theorem functionPattern_ends (h : q ∈ functionPattern.ends p) :
    p.rest.head? = some 'd' ∧ (q.rest = [] ∨ q.rest.head? = some '\n') := by
  constructor
  · obtain ⟨r, hr, -⟩ := List.mem_flatMap.mp h
    rw [(Text.passes_of_skip? (Option.mem_toList.mp hr)).1]
    rfl
  · iterate 8 obtain ⟨r, -, h⟩ := List.mem_flatMap.mp h
    obtain ⟨rfl, hne⟩ := mem_ends_ahead_iff.mp h
    obtain ⟨s, hs⟩ := List.exists_mem_of_ne_nil _ hne
    rcases List.mem_append.mp hs with hs | hs
    · rw [(Text.passes_of_skip? (Option.mem_toList.mp hs)).1]
      exact .inr rfl
    · rw [Text.Pattern.ends_finish] at hs
      split at hs
      next hempty => exact .inl (List.isEmpty_iff.mp hempty)
      next => cases hs

/-- The row of a text on which the character at an offset stands. -/
def rowAt (cs : List Char) (offset : Nat) : Nat := (cs.take offset).count '\n' + 1

theorem rowAt_mono (cs : List Char) {i j : Nat} (h : i ≤ j) : rowAt cs i ≤ rowAt cs j :=
  Nat.succ_le_succ ((List.take_sublist_take_left h).count_le '\n')

theorem drop_of_standsIn {pat : Text.Pattern} (h : m.StandsIn pat cs) :
    cs.drop m.offset = m.matched ++ m.after.rest :=
  List.append_cancel_left ((List.take_append_drop ..).trans h.text)

/-- Of two functions the later one starts on a later row. -/
theorem rowAt_lt (hm : m.StandsIn functionPattern cs) (hm' : m'.StandsIn functionPattern cs)
    (hle : m.offset + m.matched.length ≤ m'.offset) :
    rowAt cs m.offset < rowAt cs m'.offset := by
  obtain ⟨p, hp, hends⟩ := hm.ends
  obtain ⟨p', hp', hends'⟩ := hm'.ends
  have hbegin : cs[m'.offset]? = some 'd' := by
    rw [← List.head?_drop, drop_of_standsIn hm', ← hp']
    exact (functionPattern_ends hends').1
  have hbehind : cs.drop (m.offset + m.matched.length) = m.after.rest := by
    rw [← List.drop_drop, drop_of_standsIn hm, List.drop_left]
  rcases (functionPattern_ends hends).2 with hend | hfeed
  · rw [hend, List.drop_eq_nil_iff] at hbehind
    rw [List.getElem?_eq_none (hbehind.trans hle)] at hbegin
    cases hbegin
  · rw [← hbehind, List.head?_drop] at hfeed
    have hne : m.offset + m.matched.length ≠ m'.offset := fun heq => by
      rw [heq, hbegin] at hfeed
      exact absurd hfeed (by decide)
    have hrow : rowAt cs (m.offset + m.matched.length + 1) =
        rowAt cs (m.offset + m.matched.length) + 1 := by
      rw [rowAt, rowAt, List.take_add_one, hfeed, List.count_append]
      rfl
    have hbefore := rowAt_mono cs (Nat.le_add_right m.offset m.matched.length)
    have hafter : rowAt cs (m.offset + m.matched.length + 1) ≤ rowAt cs m'.offset :=
      rowAt_mono cs (by omega)
    omega

end Heads

/-! ### Where texts are found -/

section Found
variable {cs t : List Char}

/-- The row on which a text first occurs. -/
def firstRow (cs t : List Char) : Nat := rowAt cs ((Text.find? t cs).getD 0)

theorem functionBlocks_eq (cs : List Char) :
    functionBlocks cs =
      (functionPattern.matches cs).map fun m => ⟨m.matched, firstRow cs m.matched⟩ := rfl

/-- It is the least of the rows on which the text occurs. -/
theorem firstRow_le {x y : List Char} (h : cs = x ++ t ++ y) :
    firstRow cs t ≤ x.count '\n' + 1 := by
  obtain ⟨before, after, hfind, hcs, hfirst⟩ := Text.exists_find? ⟨x, y, h.symm⟩
  have hx : cs.take x.length = x := by rw [h, List.append_assoc, List.take_left]
  rw [firstRow, hfind, Option.getD_some, ← hx]
  exact rowAt_mono cs (hfirst x y h)

theorem exists_at_firstRow (h : t <:+: cs) :
    ∃ x y, cs = x ++ t ++ y ∧ firstRow cs t = x.count '\n' + 1 := by
  obtain ⟨before, after, hfind, hcs, -⟩ := Text.exists_find? h
  refine ⟨before, after, hcs, ?_⟩
  rw [firstRow, hfind, Option.getD_some, rowAt, hcs, List.append_assoc, List.take_left]

variable {pat : Text.Pattern} {m : Match}

theorem firstRow_le_of_standsIn (h : m.StandsIn pat cs) (ht : t <+: m.matched) :
    firstRow cs t ≤ rowAt cs m.offset := by
  obtain ⟨z, hz⟩ := ht
  have hcs := h.text
  rw [← hz, List.append_assoc, ← List.append_assoc] at hcs
  exact firstRow_le hcs

/-- A function's text first occurs on its own row unless it occurs on an earlier one. -/
theorem firstRow_eq_iff (h : m.StandsIn pat cs) :
    firstRow cs m.matched = rowAt cs m.offset ↔
      ∀ x y, cs = x ++ m.matched ++ y → rowAt cs m.offset ≤ x.count '\n' + 1 := by
  have hle := firstRow_le_of_standsIn h (List.prefix_refl _)
  constructor
  · intro heq x y hxy
    exact heq ▸ firstRow_le hxy
  · intro hall
    obtain ⟨x, y, hxy, hrow⟩ := exists_at_firstRow (t := m.matched)
      ⟨_, _, (List.append_assoc ..).trans h.text.symm⟩
    exact Nat.le_antisymm hle (hrow ▸ hall x y hxy)

end Found

/-! ### The reports -/

/-- The functions of a source. -/
def functions (code : String) : List Match := functionPattern.matches code.toList

/-- The words about a function that repeats one starting on the given row. -/
def functionText (line : Nat) : String :=
  "Duplicate function found matching block starting at line " ++ toString line ++ "."

theorem message_duplicate_python (line own : Nat) :
    (⟨.python, .duplicate line own⟩ : Issue).message = functionText line := by
  have hwords : "Duplicate function" ++ " found matching block starting at line " =
      "Duplicate function found matching block starting at line " := by decide +kernel
  exact congrArg (· ++ toString line ++ ".") hwords

/-- Each report is about a function whose text an earlier one has, and names a row above the one on
which that function starts. It stands itself on the row on which the function starts just if the
function's text does not occur on an earlier row; so never if it is a plain copy. All this holds
under any digest that is different for different texts among the functions. -/
theorem python_report_row_iff (code : String) :
    List.Forall₂ (fun i issue => ∃ (k line : Nat) (first own : Match),
        FirstLike ((functions code).map (·.matched)) k i ∧ (functions code)[k]? = some first ∧
        (functions code)[i]? = some own ∧ own.StandsIn functionPattern code.toList ∧
        issue.message = functionText line ∧ line < rowAt code.toList own.offset ∧
        (issue.lineStart = (rowAt code.toList own.offset : Int) ↔
          ∀ x y, code.toList = x ++ own.matched ++ y →
            rowAt code.toList own.offset ≤ x.count '\n' + 1) ∧
        (own.matched <+: first.matched → issue.lineStart < (rowAt code.toList own.offset : Int)))
      (repeats ((functions code).map (·.matched))) (duplicates .python code) ∧
      ∀ {δ : Type} [DecidableEq δ] (digest : List Char → δ),
        NoCollision digest ((functions code).map fun m => Text.strip m.matched) →
          duplicatesBy digest .python code = duplicates .python code := by
  refine ⟨?_, fun digest hdigest => duplicatesBy_eq ?_⟩
  · have hall := forall₂_repeatedFrom .python (functionBlocks code.toList)
    rw [functionBlocks_eq, List.map_map] at hall
    rw [duplicates_eq, blocks, functionBlocks_eq]
    refine hall.imp ?_
    rintro i issue ⟨k, a, b, hk, ha, hb, rfl⟩
    rw [List.getElem?_map, Option.map_eq_some_iff] at ha hb
    obtain ⟨first, hfirst, rfl⟩ := ha
    obtain ⟨own, hown, rfl⟩ := hb
    have hstands := Text.Pattern.standsIn_of_mem_matches (List.mem_of_getElem? hfirst)
    have hstands' := Text.Pattern.standsIn_of_mem_matches (List.mem_of_getElem? hown)
    have hlater : rowAt code.toList first.offset < rowAt code.toList own.offset := by
      obtain ⟨hi, rfl⟩ := List.getElem?_eq_some_iff.mp hfirst
      obtain ⟨hj, rfl⟩ := List.getElem?_eq_some_iff.mp hown
      exact rowAt_lt hstands hstands'
        (List.pairwise_iff_getElem.mp (Text.Pattern.pairwise_matches _ _) _ _ hi hj hk.lt)
    refine ⟨k, _, first, own, hk, hfirst, hown, hstands', message_duplicate_python .., ?_, ?_, ?_⟩
    · exact (firstRow_le_of_standsIn hstands (List.prefix_refl _)).trans_lt hlater
    · rw [← firstRow_eq_iff hstands']
      exact Int.ofNat_inj
    · intro hprefix
      exact Int.ofNat_lt.mpr ((firstRow_le_of_standsIn hstands hprefix).trans_lt hlater)
  · rw [blocks, functionBlocks_eq, List.map_map]
    exact hdigest

/-! ### A copy of a function -/

namespace Chime

def ring : String := "def ring():\n    pass"

/-- The same function twice. -/
def twice : String := ring ++ "\n\n" ++ ring

/-- The copy starts on the fourth row, and the report stands on the first, which it also names. -/
theorem copy_reported_on_first :
    (functions twice).map (·.offset) = [0, 22] ∧ rowAt twice.toList 22 = 4 ∧
      duplicates .python twice = [⟨.python, .duplicate 1 1⟩] ∧
      (⟨.python, .duplicate 1 1⟩ : Issue).lineStart ≠ rowAt twice.toList 22 := by
  decide +kernel

end Chime

end CodeAtlas.Issue
