import CodeAtlas.Proofs.Text.Rows
import Mathlib.Data.List.Infix

/-! Blocks between empty lines. A text is cut at the first pair of line feeds, and what comes behind
it in the same way. So no block but the last ends with a line feed, and where line feeds alone end
rows, the rows of a block can be told from its line feeds. -/

namespace CodeAtlas.Text

/-- What stands between two blocks. -/
def pair : List Char := ['\n', '\n']

/-- A text is cut at its first pair of line feeds, the rest likewise. -/
inductive Cuts : List Char → List (List Char) → Prop where
  | whole {cs : List Char} (h : ¬ pair <:+: cs) : Cuts cs [cs]
  | front {b cs : List Char} {rest : List (List Char)}
    (hfirst : ∀ x y, b ++ pair ++ cs = x ++ pair ++ y → b.length ≤ x.length) (h : Cuts cs rest) :
    Cuts (b ++ pair ++ cs) (b :: rest)

theorem Cuts.ne_nil {cs : List Char} {blocks : List (List Char)} (h : Cuts cs blocks) :
    blocks ≠ [] := by
  cases h <;> exact List.cons_ne_nil _ _

/-- With a character in front the first pair is still the first, unless it makes up one itself. -/
theorem Cuts.cons {c : Char} {cs b : List Char} {rest : List (List Char)}
    (hc : ¬ pair <+: c :: cs) (h : Cuts cs (b :: rest)) : Cuts (c :: cs) ((c :: b) :: rest) := by
  cases h with
  | whole h => exact .whole fun hin => (List.infix_cons_iff.mp hin).elim hc h
  | @front _ cs _ hfirst h =>
    refine .front (b := c :: b) (fun x y hxy => ?_) h
    cases x with
    | nil => exact absurd ⟨y, hxy.symm⟩ hc
    | cons d x => exact Nat.succ_le_succ (hfirst x y (List.cons.inj hxy).2)

theorem cuts_splitBlocks (cs : List Char) : Cuts cs (splitBlocks cs) := by
  fun_induction splitBlocks cs with
  | case1 => exact .whole (by decide)
  | case2 c =>
    refine .whole fun hin => ?_
    have hlen := hin.length_le
    simp [pair] at hlen
  | case3 c d cs hcd ih =>
    obtain ⟨rfl, rfl⟩ : c = '\n' ∧ d = '\n' := by simpa using hcd
    exact .front (b := []) (fun x y _ => Nat.zero_le _) ih
  | case4 c d cs hcd ih =>
    have hc : ¬ pair <+: c :: d :: cs := by
      rintro ⟨t, ht⟩
      obtain ⟨hc, hd, -⟩ : '\n' = c ∧ '\n' = d ∧ t = cs := by simpa [pair] using ht
      simp [← hc, ← hd] at hcd
    obtain ⟨b, rest, hsplit⟩ := List.exists_cons_of_ne_nil ih.ne_nil
    rw [hsplit] at ih ⊢
    exact ih.cons hc

section Cuts
variable {cs : List Char} {blocks : List (List Char)}

/-- What stands before block `i` in the text. -/
def before (blocks : List (List Char)) (i : Nat) : List Char :=
  (blocks.take i).flatMap (· ++ pair)

theorem before_cons_succ (b : List Char) (blocks : List (List Char)) (i : Nat) :
    before (b :: blocks) (i + 1) = b ++ pair ++ before blocks i := by
  simp [before]

/-- That is where a block stands. -/
theorem Cuts.before_append_prefix (h : Cuts cs blocks) {i : Nat} {b : List Char}
    (hb : blocks[i]? = some b) : before blocks i ++ b <+: cs := by
  induction h generalizing i with
  | whole h =>
    cases i with
    | zero =>
      obtain rfl := Option.some.inj hb
      exact List.prefix_rfl
    | succ i => cases hb
  | @front b' cs rest hfirst h ih =>
    cases i with
    | zero =>
      obtain rfl := Option.some.inj hb
      exact ⟨pair ++ cs, by simp [before]⟩
    | succ i =>
      rw [before_cons_succ, List.append_assoc]
      exact (List.prefix_append_right_inj _).mpr (ih hb)

/-- A block that is followed by another does not end with a line feed. -/
theorem Cuts.getLast?_ne (h : Cuts cs blocks) {i : Nat} {b : List Char} (hb : blocks[i]? = some b)
    (hi : i + 1 < blocks.length) : b.getLast? ≠ some '\n' := by
  induction h generalizing i with
  | whole h => simp at hi
  | @front b' cs rest hfirst h ih =>
    cases i with
    | zero =>
      obtain rfl := Option.some.inj hb
      intro hlast
      obtain ⟨ds, rfl⟩ := List.getLast?_eq_some_iff.mp hlast
      -- the pair would begin with that line feed already
      have hle := hfirst ds ('\n' :: cs) (by simp [pair])
      exact absurd hle (by simp)
    | succ i => exact ih hb (by simpa using hi)

end Cuts

/-! ### Rows of a block -/

/-- No other character than the line feed ends a row. -/
def FeedsOnly (cs : List Char) : Prop := ∀ c ∈ cs, isRowBreak c = true → c = '\n'

theorem all_iff_feedsOnly (cs : List Char) :
    (cs.all fun c => !isRowBreak c || c == '\n') = true ↔ FeedsOnly cs := by
  rw [List.all_eq_true, FeedsOnly]
  refine forall₂_congr fun c _ => ?_
  cases isRowBreak c <;> simp

instance : DecidablePred FeedsOnly := fun cs => decidable_of_iff _ (all_iff_feedsOnly cs)

theorem length_consRow {c : Char} {rs : List (List Char)} (h : rs ≠ []) :
    (consRow c rs).length = rs.length := by
  obtain ⟨r, rs, rfl⟩ := List.exists_cons_of_ne_nil h
  rfl

/-- A text that does not end with a line feed has a row more than line feeds, unless it is empty. -/
theorem length_rows {cs : List Char} (h : FeedsOnly cs) (hlast : cs.getLast? ≠ some '\n') :
    (rows cs).length = if cs = [] then 0 else cs.count '\n' + 1 := by
  induction cs with
  | nil => rfl
  | cons c cs ih =>
    obtain ⟨hc, hcs⟩ := List.forall_mem_cons.mp h
    rw [if_neg (List.cons_ne_nil c cs)]
    by_cases hnil : cs = []
    · subst hnil
      have hne : c ≠ '\n' := by simpa using hlast
      have hbreak : isRowBreak c = false := Bool.eq_false_iff.mpr fun hb => hne (hc hb)
      simp [rows, hbreak, hne]
    · rw [List.getLast?_cons_of_ne_nil hnil] at hlast
      have hrest := ih hcs hlast
      rw [if_neg hnil] at hrest
      by_cases hfeed : c = '\n'
      · subst hfeed
        rw [rows_cons_newline hnil, List.length_cons, hrest, List.count_cons_self]
      · have hbreak : isRowBreak c = false := Bool.eq_false_iff.mpr fun hb => hfeed (hc hb)
        obtain ⟨r, rs, hrows⟩ := exists_rows_eq hnil
        rw [rows_cons_of_not_break hbreak hnil, length_consRow (by simp [hrows]), hrest,
          List.count_cons_of_ne hfeed]

end CodeAtlas.Text
