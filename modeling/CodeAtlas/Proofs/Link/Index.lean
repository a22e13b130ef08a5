import CodeAtlas.Link.Collect
import Mathlib.Tactic.SplitIfs

/-! The table of symbols is made by going through items and putting each under the symbols that
it defines, one after another. Under a symbol it then has every item once for each time that it
defines the symbol, in order. -/

namespace CodeAtlas.Link

section Index
variable {α : Type}

/-- The items that define a symbol in its normal form, once for each time. -/
def definersOf (defined : α → List String) (items : List α) (symbol : String) : List α :=
  items.flatMap fun a => ((defined a).filter (normalForm · == symbol)).map fun _ => a

/-! ### One item under one symbol -/

theorem definersIn_cons (e : String × List α) (table : List (String × List α)) (symbol : String) :
    definersIn (e :: table) symbol = if e.1 = symbol then e.2 else definersIn table symbol := by
  rw [definersIn, List.lookup_cons]
  split_ifs with h
  · rw [h, beq_self_eq_true]
    rfl
  · rw [beq_false_of_ne (Ne.symm h)]
    rfl

theorem definersIn_putUnder (a : α) (s symbol : String) (table : List (String × List α)) :
    definersIn (putUnder a s table) symbol =
      definersIn table symbol ++ if s = symbol then [a] else [] := by
  induction table with
  | nil => rw [putUnder, definersIn_cons]; rfl
  | cons e table ih =>
    rw [putUnder]
    by_cases hkey : e.1 = s
    · rw [if_pos (beq_iff_eq.mpr hkey), definersIn_cons, definersIn_cons, ← hkey]
      split_ifs
      · rfl
      · rw [List.append_nil]
    · rw [if_neg (by simpa using hkey), definersIn_cons, definersIn_cons, ih]
      split_ifs with hsymbol hs
      · exact absurd (hsymbol.trans hs.symm) hkey
      · rw [List.append_nil]
      · rfl
      · rfl

/-! ### All items -/

variable (defined : α → List String) (items : List α)

/-- The symbols of one item. -/
theorem definersIn_foldl_putUnder (a : α) (ss : List String) (table : List (String × List α))
    (symbol : String) :
    definersIn (ss.foldl (fun table s => putUnder a (normalForm s) table) table) symbol =
      definersIn table symbol ++ (ss.filter (normalForm · == symbol)).map fun _ => a := by
  induction ss generalizing table with
  | nil => exact (List.append_nil _).symm
  | cons s ss ih =>
    rw [List.foldl_cons, ih, definersIn_putUnder, List.append_assoc, List.filter_cons]
    split_ifs with h h' h' <;> simp_all

theorem definersIn_indexBy (symbol : String) :
    definersIn (indexBy defined items) symbol = definersOf defined items symbol := by
  suffices hfold : ∀ table, definersIn (items.foldl (fun table a =>
      (defined a).foldl (fun table s => putUnder a (normalForm s) table) table) table) symbol =
        definersIn table symbol ++ definersOf defined items symbol from hfold []
  induction items with
  | nil => exact fun _ => (List.append_nil _).symm
  | cons a items ih =>
    intro table
    rw [List.foldl_cons, ih, definersIn_foldl_putUnder, List.append_assoc]
    rfl

end Index

/-! ### Members -/

theorem candidates_eq (ms : List Member) (symbol : String) :
    candidates ms symbol = definersOf Member.defined ms symbol :=
  definersIn_indexBy _ _ _

@[simp] theorem candidates_nil (symbol : String) : candidates [] symbol = [] := rfl

theorem candidates_cons (m : Member) (ms : List Member) (symbol : String) :
    candidates (m :: ms) symbol =
      ((m.defined.filter (normalForm · == symbol)).map fun _ => m) ++ candidates ms symbol := by
  rw [candidates_eq, candidates_eq]
  exact List.flatMap_cons

theorem candidates_append (ms more : List Member) (symbol : String) :
    candidates (ms ++ more) symbol = candidates ms symbol ++ candidates more symbol := by
  rw [candidates_eq, candidates_eq, candidates_eq]
  exact List.flatMap_append

theorem mem_candidates_iff {ms : List Member} {symbol : String} {t : Member} :
    t ∈ candidates ms symbol ↔ t ∈ ms ∧ ∃ d ∈ t.defined, normalForm d = symbol := by
  rw [candidates_eq]
  simp only [definersOf, List.mem_flatMap, List.mem_map, List.mem_filter, beq_iff_eq]
  constructor
  · rintro ⟨m, hm, d, ⟨hd, hmatch⟩, rfl⟩
    exact ⟨hm, d, hd, hmatch⟩
  · rintro ⟨hm, d, hd, hmatch⟩
    exact ⟨t, hm, d, ⟨hd, hmatch⟩, rfl⟩

end CodeAtlas.Link
