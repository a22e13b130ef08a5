import CodeAtlas.Excerpt.Braced
import CodeAtlas.Proofs.Text.Pattern
import Mathlib.Data.List.Infix

/-! Methods that are cut out of a class. The search for a method begins behind the opening brace of
the class and does not end at the closing one. So what is cut out stands in the class only if the
first method of that name does. -/

namespace CodeAtlas.Excerpt

open Text (Match Spot)

/-! ### Braces -/

/-- Braces that are opened, less those that are closed. -/
def balance (s : List Char) : Int := (s.count '\x7b' : Int) - s.count '\x7d'

variable {count : Int} {c : Char} {s t w : List Char}

@[simp] theorem balance_nil : balance [] = 0 := rfl

theorem balance_append (s t : List Char) : balance (s ++ t) = balance s + balance t := by
  simp only [balance, List.count_append]
  omega

theorem balance_cons (c : Char) (s : List Char) : balance (c :: s) = balance [c] + balance s :=
  balance_append [c] s

theorem balance_opening : balance ['\x7b'] = 1 := rfl

theorem balance_closing : balance ['\x7d'] = -1 := rfl

theorem balance_eq_zero (hopening : '\x7b' ∉ s) (hclosing : '\x7d' ∉ s) : balance s = 0 := by
  rw [balance, List.count_eq_zero.mpr hopening, List.count_eq_zero.mpr hclosing]
  rfl

/-- Only a closing brace takes something away. -/
theorem balance_singleton_nonneg (h : c ≠ '\x7d') : 0 ≤ balance [c] := by
  have hcount : [c].count '\x7d' = 0 := List.count_eq_zero.mpr (by simpa using h.symm)
  rw [balance, hcount]
  omega

theorem balance_singleton_ge (c : Char) : -1 ≤ balance [c] := by
  by_cases h : c = '\x7d'
  · subst h
    decide
  · have := balance_singleton_nonneg h
    omega

/-- A text that ends with a brace which closes the last of those that are open, `count` of them
before the text. -/
def Closes (count : Int) (s : List Char) : Prop :=
  s.getLast? = some '\x7d' ∧ count + balance s = 0

theorem closes_singleton : Closes count [c] ↔ c = '\x7d' ∧ count + balance [c] = 0 := by
  simp [Closes]

theorem closes_cons : Closes count (c :: s) ↔
    s = [] ∧ Closes count [c] ∨ Closes (count + balance [c]) s := by
  cases s with
  | nil => simp [Closes]
  | cons d s =>
    have hbalance : count + balance (c :: d :: s) = count + balance [c] + balance (d :: s) := by
      rw [balance_cons, Int.add_assoc]
    simp [Closes, hbalance, List.getLast?_cons_cons]

/-- Where braces are open before and none are open after, some brace has closed the last one. -/
theorem exists_closes (hs : 0 < count + balance s) (ht : count + balance (s ++ t) ≤ 0) :
    ∃ w, w <+: s ++ t ∧ Closes count w := by
  induction t generalizing s with
  | nil =>
    rw [List.append_nil] at ht
    omega
  | cons c t ih =>
    have hmove : s ++ c :: t = (s ++ [c]) ++ t := by simp
    have hstep : balance (s ++ [c]) = balance s + balance [c] := balance_append s [c]
    by_cases hc : 0 < count + balance (s ++ [c])
    · rw [hmove] at ht ⊢
      exact ih hc ht
    · have hclosing : c = '\x7d' := by
        by_contra hne
        have := balance_singleton_nonneg hne
        omega
      refine ⟨s ++ [c], by rw [hmove]; exact List.prefix_append _ _, ?_, ?_⟩
      · rw [List.getLast?_concat, hclosing]
      · have := balance_singleton_ge c
        omega

/-! ### Up to the closing brace -/

theorem untilBalanced_of_closes (h : Closes count [c]) (cs : List Char) :
    untilBalanced count (c :: cs) = [c] := by
  obtain ⟨rfl, hcount⟩ := closes_singleton.mp h
  rw [balance_closing] at hcount
  rw [untilBalanced, if_neg (by decide), if_pos rfl, if_pos (by omega)]

theorem untilBalanced_of_not_closes (h : ¬ Closes count [c]) (cs : List Char) :
    untilBalanced count (c :: cs) = c :: untilBalanced (count + balance [c]) cs := by
  rw [untilBalanced]
  split
  next hc => rw [hc, balance_opening]
  next hopening =>
    split
    next hc =>
      subst hc
      rw [closes_singleton, balance_closing] at h
      rw [if_neg fun hzero => h ⟨rfl, by omega⟩, balance_closing]
      rfl
    next hclosing =>
      rw [balance_eq_zero (by simpa using Ne.symm hopening) (by simpa using Ne.symm hclosing),
        Int.add_zero]

theorem untilBalanced_isPrefix (count : Int) (text : List Char) :
    untilBalanced count text <+: text := by
  induction text generalizing count with
  | nil => exact List.nil_prefix
  | cons c cs ih =>
    by_cases hc : Closes count [c]
    · rw [untilBalanced_of_closes hc]
      exact List.prefix_append [c] cs
    · rw [untilBalanced_of_not_closes hc]
      exact List.cons_prefix_cons.mpr ⟨rfl, ih _⟩

theorem untilBalanced_ne_nil {text : List Char} (h : text ≠ []) : untilBalanced count text ≠ [] := by
  obtain ⟨c, cs, rfl⟩ := List.exists_cons_of_ne_nil h
  by_cases hc : Closes count [c]
  · rw [untilBalanced_of_closes hc]
    exact List.cons_ne_nil _ _
  · rw [untilBalanced_of_not_closes hc]
    exact List.cons_ne_nil _ _

/-- It ends at the first brace that closes the last open one. -/
theorem untilBalanced_length_le {text : List Char} (hw : w <+: text) (h : Closes count w) :
    (untilBalanced count text).length ≤ w.length := by
  induction text generalizing count w with
  | nil => exact Nat.zero_le _
  | cons c cs ih =>
    cases w with
    | nil => cases h.1
    | cons d w =>
      obtain ⟨rfl, hw'⟩ := List.cons_prefix_cons.mp hw
      by_cases hd : Closes count [d]
      · rw [untilBalanced_of_closes hd]
        exact Nat.succ_le_succ (Nat.zero_le _)
      · rw [untilBalanced_of_not_closes hd]
        rcases closes_cons.mp h with ⟨-, hd'⟩ | hrest
        · exact absurd hd' hd
        · exact Nat.succ_le_succ (ih hw' hrest)

/-- Without such a brace it is the whole text. -/
theorem untilBalanced_cases (count : Int) (text : List Char) :
    Closes count (untilBalanced count text) ∨ untilBalanced count text = text := by
  induction text generalizing count with
  | nil => exact .inr rfl
  | cons c cs ih =>
    by_cases hc : Closes count [c]
    · rw [untilBalanced_of_closes hc]
      exact .inl hc
    · rw [untilBalanced_of_not_closes hc]
      rcases ih (count + balance [c]) with hcloses | hall
      · exact .inl (closes_cons.mpr (.inr hcloses))
      · exact .inr (by rw [hall])

/-! ### The body of a class -/

/-- The text behind an opening brace up to the brace that closes it; if none does, all of it. -/
structure IsBody (text body : List Char) : Prop where
  nested : ∀ s, s <+: body → 0 ≤ balance s
  ends : body = text ∨ balance body = 0 ∧ body ++ ['\x7d'] <+: text

theorem IsBody.isPrefix {text body : List Char} (h : IsBody text body) : body <+: text := by
  rcases h.ends with rfl | ⟨-, hclosed⟩
  · exact List.prefix_rfl
  · exact (List.prefix_append _ _).trans hclosed

theorem IsBody.length_le {text body other : List Char} (h : IsBody text body)
    (hother : IsBody text other) : other.length ≤ body.length := by
  rcases h.ends with rfl | ⟨hzero, hclosed⟩
  · exact hother.isPrefix.length_le
  · by_contra hlt
    have hinside : body ++ ['\x7d'] <+: other :=
      List.prefix_of_prefix_length_le hclosed hother.isPrefix (by simp; omega)
    have := hother.nested _ hinside
    rw [balance_append, hzero, balance_closing] at this
    omega

/-- A text in which more braces are closed than opened is longer than the text up to the first of
those that are too many. -/
theorem untilBalanced_length_le_of_neg {text : List Char} (hs : s <+: text)
    (hneg : balance s < 0) :
    ∃ w, w <+: s ∧ Closes 1 w ∧ (untilBalanced 1 text).length ≤ w.length := by
  have hend : (1 : Int) + balance ([] ++ s) ≤ 0 := by
    rw [List.nil_append]
    omega
  obtain ⟨w, hw, hcloses⟩ := exists_closes (by rw [balance_nil]; omega) hend
  exact ⟨w, hw, hcloses, untilBalanced_length_le (hw.trans hs) hcloses⟩

/-- There is one body: the text for which the braces are counted when one is open before it. -/
theorem existsUnique_isBody (text : List Char) : ∃! body, IsBody text body := by
  have hbody : ∃ body, IsBody text body := by
    have hprefix := untilBalanced_isPrefix 1 text
    by_cases hcloses : Closes 1 (untilBalanced 1 text)
    · obtain ⟨body, hbody⟩ := List.getLast?_eq_some_iff.mp hcloses.1
      have hzero : balance body = 0 := by
        have hcount := hcloses.2
        rw [hbody, balance_append, balance_closing] at hcount
        omega
      have hlength : (untilBalanced 1 text).length = body.length + 1 := by
        rw [hbody, List.length_append, List.length_singleton]
      rw [hbody] at hprefix
      refine ⟨body, fun s hs => ?_, .inr ⟨hzero, hprefix⟩⟩
      by_contra hneg
      obtain ⟨w, hw, -, hle⟩ := untilBalanced_length_le_of_neg
        ((hs.trans (List.prefix_append _ _)).trans hprefix) (Int.not_le.mp hneg)
      have := hw.length_le
      have := hs.length_le
      omega
    · have hall := (untilBalanced_cases 1 text).resolve_left hcloses
      refine ⟨text, fun s hs => ?_, .inl rfl⟩
      by_contra hneg
      obtain ⟨w, hw, hcloses', hle⟩ := untilBalanced_length_le_of_neg hs (Int.not_le.mp hneg)
      rw [hall] at hcloses hle
      exact hcloses ((hw.trans hs).eq_of_length_le hle ▸ hcloses')
  obtain ⟨body, h⟩ := hbody
  refine ⟨body, h, fun other hother => ?_⟩
  exact (List.prefix_of_prefix_length_le hother.isPrefix h.isPrefix
    (h.length_le hother)).eq_of_length_le (hother.length_le h)

/-! ### Inside the body -/

section Inside
variable {text body : List Char} {offset : Nat}

theorem take_append_isPrefix (h : s <+: text.drop offset) : text.take offset ++ s <+: text :=
  calc text.take offset ++ s <+: text.take offset ++ text.drop offset :=
        (List.prefix_append_right_inj _).mpr h
    _ = text := List.take_append_drop _ _

/-- In a body that is closed, what is cut out ends with a brace. Without that brace more are
opened than closed. -/
theorem exists_of_inside (h : IsBody text body) (hoffset : offset ≤ text.length)
    (hlonger : body.length < text.length)
    (hinside : offset + (untilBalanced 0 (text.drop offset)).length ≤ body.length) :
    ∃ s, text.take offset ++ s <+: body ∧ 0 < balance s := by
  have hcloses : Closes 0 (untilBalanced 0 (text.drop offset)) := by
    refine (untilBalanced_cases 0 (text.drop offset)).resolve_right fun hall => ?_
    rw [hall, List.length_drop] at hinside
    omega
  obtain ⟨s, hs⟩ := List.getLast?_eq_some_iff.mp hcloses.1
  have hdrop : s <+: text.drop offset := by
    refine .trans ?_ (untilBalanced_isPrefix 0 (text.drop offset))
    rw [hs]
    exact List.prefix_append _ _
  refine ⟨s, List.prefix_of_prefix_length_le (take_append_isPrefix hdrop) h.isPrefix ?_, ?_⟩
  · rw [hs, List.length_append, List.length_singleton] at hinside
    rw [List.length_append, List.length_take_of_le hoffset]
    omega
  · have hcount := hcloses.2
    rw [hs, balance_append, balance_closing] at hcount
    omega

/-- What is opened in a body that is closed is closed in it too. -/
theorem inside_of_exists (h : IsBody text body) (hoffset : offset ≤ text.length)
    (hzero : balance body = 0) (hs : text.take offset ++ s <+: body) (hpositive : 0 < balance s) :
    offset + (untilBalanced 0 (text.drop offset)).length ≤ body.length := by
  have htake : (text.take offset).length = offset := List.length_take_of_le hoffset
  obtain ⟨t, rfl⟩ := hs
  have hdrop : s ++ t <+: text.drop offset := by
    obtain ⟨rest, hrest⟩ := h.isPrefix
    have hrest := congrArg (List.drop offset) hrest
    simp only [List.append_assoc] at hrest
    rw [List.drop_left' htake, ← List.append_assoc] at hrest
    exact ⟨_, hrest⟩
  have hbefore : 0 ≤ balance (text.take offset) :=
    h.nested _ ((List.prefix_append _ _).trans (List.prefix_append _ _))
  rw [balance_append, balance_append] at hzero
  have hstart : 0 < 0 + balance s := by omega
  have hend : 0 + balance (s ++ t) ≤ 0 := by
    rw [balance_append]
    omega
  obtain ⟨w, hw, hcloses⟩ := exists_closes hstart hend
  have hle := untilBalanced_length_le (hw.trans hdrop) hcloses
  have hlength := hw.length_le
  simp only [List.length_append, htake] at hlength ⊢
  omega

/-- What is cut out ends inside the body just when, from where it begins, more braces are opened
than closed somewhere in the body. -/
theorem inside_iff (h : IsBody text body) (hoffset : offset ≤ text.length) :
    offset + (untilBalanced 0 (text.drop offset)).length ≤ body.length ↔
      body = text ∨ ∃ s, text.take offset ++ s <+: body ∧ 0 < balance s := by
  rcases h.ends with rfl | ⟨hzero, hclosed⟩
  · have hspan := (untilBalanced_isPrefix 0 (body.drop offset)).length_le
    rw [List.length_drop] at hspan
    exact iff_of_true (by omega) (.inl rfl)
  · have hlonger : body.length < text.length := by
      have := hclosed.length_le
      rw [List.length_append, List.length_singleton] at this
      omega
    rw [or_iff_right fun heq => by rw [heq] at hlonger; omega]
    constructor
    · exact exists_of_inside h hoffset hlonger
    · rintro ⟨s, hs, hpositive⟩
      exact inside_of_exists h hoffset hzero hs hpositive

/-- The head of a method, whose only brace is the last sign, does not reach out of the body. -/
theorem inside_iff_of_plain {head rest : List Char} (h : IsBody text body)
    (hoffset : offset ≤ text.length) (htext : text.drop offset = head ++ '\x7b' :: rest)
    (hopening : '\x7b' ∉ head) (hclosing : '\x7d' ∉ head) :
    offset + (untilBalanced 0 (text.drop offset)).length ≤ body.length ↔
      offset < body.length := by
  have hnonempty : 0 < (untilBalanced 0 (text.drop offset)).length :=
    List.length_pos_iff.mpr (untilBalanced_ne_nil (by rw [htext]; simp))
  constructor
  · intro hinside
    omega
  · intro hbegins
    rw [inside_iff h hoffset]
    rcases h.ends with heq | ⟨-, hclosed⟩
    · exact .inl heq
    have htake : (text.take offset).length = offset := List.length_take_of_le hoffset
    have hhead : text.take offset ++ (head ++ ['\x7b']) <+: text := by
      refine take_append_isPrefix ⟨rest, ?_⟩
      rw [htext, List.append_assoc, List.singleton_append]
    refine .inr ⟨head ++ ['\x7b'], List.prefix_of_prefix_length_le hhead h.isPrefix ?_, ?_⟩
    · -- Otherwise the closing brace of the body stands in the head.
      by_contra hshort
      obtain ⟨y, rfl⟩ : text.take offset <+: body :=
        List.prefix_of_prefix_length_le (List.take_prefix _ _) h.isPrefix (by omega)
      obtain ⟨z, hz⟩ := List.prefix_of_prefix_length_le hclosed hhead (by
        simp only [List.length_append, List.length_singleton] at hshort ⊢
        omega)
      rw [List.append_assoc, List.append_assoc, List.append_cancel_left_eq] at hz
      have hmem : '\x7d' ∈ head ++ ['\x7b'] := by
        rw [← hz]
        simp
      rcases List.mem_append.mp hmem with hin | hlast
      · exact hclosing hin
      · exact absurd (List.mem_singleton.mp hlast) (by decide)
    · rw [balance_append, balance_eq_zero hopening hclosing, balance_opening]
      decide

end Inside

/-! ### Heads -/

/-- A pattern whose last part is an opening brace. -/
def EndsInBrace (pat : Text.Pattern) : Prop :=
  ∃ ps, pat = .sequence (ps ++ [.text ['\x7b']])

theorem endsInBrace_classPattern (cls : String) : EndsInBrace (classPattern cls) :=
  ⟨[_, _, _, _, _, _], rfl⟩

theorem endsInBrace_methodPattern (method : String) : EndsInBrace (methodPattern method) :=
  ⟨[_, _, _, _, _, _, _, _, _, _, _], rfl⟩

/-- It is found up to such a brace. -/
theorem EndsInBrace.exists_head {pat : Text.Pattern} {text : List Char} {m : Match}
    (hpat : EndsInBrace pat) (h : pat.search? text = some m) :
    ∃ before head, text = before ++ (head ++ '\x7b' :: m.after.rest) ∧
      m.offset = before.length ∧ m.matched = head ++ ['\x7b'] := by
  obtain ⟨ps, rfl⟩ := hpat
  obtain ⟨p, before, htext, hoffset, hm, hafter, hrest⟩ := Text.Pattern.exists_of_searchFrom h
  obtain ⟨r, head, hhead, hlast⟩ := Text.Pattern.exists_mem_ends_last hafter
  have hbrace : r.rest = ['\x7b'] ++ m.after.rest :=
    (Text.passes_of_skip? (Option.mem_toList.mp hlast)).1
  have hp : p.rest = head ++ '\x7b' :: m.after.rest := by
    rw [hhead.1, hbrace]
    rfl
  refine ⟨before, head, by rw [htext, hp], by rw [hm, hoffset, Nat.zero_add], ?_⟩
  rw [hp, List.append_cons, List.append_cancel_right_eq] at hrest
  exact hrest.symm

/-- A method is cut out of a class: the head of the class is the first in the code and ends with its
opening brace, the head of the method is the first behind that, and there the cut begins. -/
structure CutsOut (code method cls : String) (head m : Match) : Prop where
  headOfClass : (classPattern cls).search? code.toList = some head
  opens : ∃ before, code.toList = before ++ (head.matched ++ head.after.rest) ∧
    head.offset = before.length ∧ head.matched.getLast? = some '\x7b'
  headOfMethod : (methodPattern method).search? head.after.rest = some m
  begins : (braced code method (some cls)).toList <+: head.after.rest.drop m.offset

theorem within_eq {code : List Char} {cls : String} (hcls : cls ≠ "") :
    within code (some cls) = ((classPattern cls).search? code).map (·.after.rest) := by
  have hasked : (some cls).filter (· ≠ "") = some cls := by simp [hcls]
  rw [within, hasked]

theorem exists_cutsOut {code method cls : String} (hcls : cls ≠ "")
    (hfound : braced code method (some cls) ≠ "") :
    ∃ head m, CutsOut code method cls head m ∧ (braced code method (some cls)).toList =
      untilBalanced 0 (head.after.rest.drop m.offset) := by
  cases hhead : (classPattern cls).search? code.toList with
  | none =>
    rw [braced, within_eq hcls, hhead] at hfound
    exact absurd rfl hfound
  | some head =>
    have hcut : braced code method (some cls) =
        String.ofList (bracedIn head.after.rest method) := by
      rw [braced, within_eq hcls, hhead]
      rfl
    rw [hcut] at hfound
    cases hm : (methodPattern method).search? head.after.rest with
    | none =>
      rw [bracedIn, hm] at hfound
      exact absurd rfl hfound
    | some m =>
      rw [bracedIn, hm] at hcut
      have hchars : (braced code method (some cls)).toList =
          untilBalanced 0 (head.after.rest.drop m.offset) := by
        rw [hcut, String.toList_ofList]
      obtain ⟨before, start, hcode, hoffset, hmatched⟩ :=
        (endsInBrace_classPattern cls).exists_head hhead
      refine ⟨head, m, ⟨hhead, ⟨before, ?_, hoffset, ?_⟩, hm, ?_⟩, hchars⟩
      · rw [hcode, hmatched, List.append_assoc]
        rfl
      · rw [hmatched, List.getLast?_concat]
      · rw [hchars]
        exact untilBalanced_isPrefix _ _

/-- What is cut out of a class ends inside the body of the class just when the body is not closed
or, from where the cut begins, more braces are opened in it than closed. Where the method's head has
no brace but its last sign, this is so just when the head begins inside the body. -/
theorem braced_inside_iff {code method cls : String} (hcls : cls ≠ "")
    (hfound : braced code method (some cls) ≠ "") :
    ∃ head m, CutsOut code method cls head m ∧ (∃! body, IsBody head.after.rest body) ∧
      ∀ body, IsBody head.after.rest body →
        (m.offset + (braced code method (some cls)).length ≤ body.length ↔
          body = head.after.rest ∨
            ∃ s, head.after.rest.take m.offset ++ s <+: body ∧ 0 < balance s) ∧
        ('\x7b' ∉ m.matched.dropLast → '\x7d' ∉ m.matched.dropLast →
          (m.offset + (braced code method (some cls)).length ≤ body.length ↔
            m.offset < body.length)) := by
  obtain ⟨head, m, hcuts, hcut⟩ := exists_cutsOut hcls hfound
  obtain ⟨before, start, htext, hoffset, hmatched⟩ :=
    (endsInBrace_methodPattern method).exists_head hcuts.headOfMethod
  refine ⟨head, m, hcuts, existsUnique_isBody _, fun body hbody => ?_⟩
  have hlength : (braced code method (some cls)).length =
      (untilBalanced 0 (head.after.rest.drop m.offset)).length := by
    rw [← hcut, String.length_toList]
  have hinside : m.offset ≤ head.after.rest.length := by
    rw [htext, hoffset, List.length_append]
    omega
  rw [hlength]
  refine ⟨inside_iff hbody hinside, fun hopening hclosing => ?_⟩
  rw [hmatched, List.dropLast_concat] at hopening hclosing
  have hdrop : head.after.rest.drop m.offset = start ++ '\x7b' :: m.after.rest := by
    rw [hoffset, htext, List.drop_left]
  exact inside_iff_of_plain hbody hinside hdrop hopening hclosing

/-! ### Two classes in a row -/

namespace Street

theorem isBody_of_all {text body : List Char}
    (hnested : body.inits.all (fun s => decide (0 ≤ balance s)) = true) (hzero : balance body = 0)
    (hclosed : body ++ ['\x7d'] <+: text) : IsBody text body := by
  refine ⟨fun s hs => ?_, .inr ⟨hzero, hclosed⟩⟩
  exact of_decide_eq_true (List.all_eq_true.mp hnested s ((List.mem_inits s body).mpr hs))

/-- A class with a method, and one without. -/
def tillOpens : String := "class Till \x7b public void open() \x7b \x7d \x7d class Desk \x7b \x7d"

/-- A class without the method, and behind it one that has it. -/
def deskOpens : String := "class Till \x7b \x7d class Desk \x7b public void open() \x7b \x7d \x7d"

theorem open_cut_from_till :
    braced tillOpens "open" (some "Till") ≠ "" ∧
      ∃ head m body, CutsOut tillOpens "open" "Till" head m ∧ IsBody head.after.rest body ∧
        m.offset + (braced tillOpens "open" (some "Till")).length ≤ body.length := by
  have hfound : braced tillOpens "open" (some "Till") ≠ "" := by decide +kernel
  obtain ⟨head, m, hcuts, -, hinside⟩ := braced_inside_iff (by decide) hfound
  have hhead : head = ⟨0, "class Till \x7b".toList, ⟨12, some '\x7b',
      " public void open() \x7b \x7d \x7d class Desk \x7b \x7d".toList⟩⟩ :=
    Option.some.inj (hcuts.headOfClass.symm.trans (by rfl))
  subst hhead
  have hm : m = ⟨1, "public void open() \x7b".toList, ⟨21, some '\x7b',
      " \x7d \x7d class Desk \x7b \x7d".toList⟩⟩ :=
    Option.some.inj (hcuts.headOfMethod.symm.trans (by rfl))
  subst hm
  have hbody : IsBody " public void open() \x7b \x7d \x7d class Desk \x7b \x7d".toList
      " public void open() \x7b \x7d ".toList :=
    isBody_of_all (by decide) (by decide) (by decide)
  exact ⟨hfound, _, _, _, hcuts, hbody,
    ((hinside _ hbody).2 (by decide) (by decide)).mpr (by decide)⟩

/-- The class has no such method, and one is cut out behind its closing brace. -/
theorem open_cut_behind_till :
    ∃ head m, CutsOut deskOpens "open" "Till" head m ∧ IsBody head.after.rest [' '] ∧
      1 < m.offset ∧ braced deskOpens "open" (some "Till") = "public void open() \x7b \x7d" := by
  have hcut : braced deskOpens "open" (some "Till") = "public void open() \x7b \x7d" := by
    decide +kernel
  have hfound : braced deskOpens "open" (some "Till") ≠ "" := by simp [hcut]
  obtain ⟨head, m, hcuts, -⟩ := exists_cutsOut (by decide) hfound
  have hhead : head = ⟨0, "class Till \x7b".toList, ⟨12, some '\x7b',
      " \x7d class Desk \x7b public void open() \x7b \x7d \x7d".toList⟩⟩ :=
    Option.some.inj (hcuts.headOfClass.symm.trans (by rfl))
  subst hhead
  have hm : m = ⟨16, "public void open() \x7b".toList, ⟨36, some '\x7b', " \x7d \x7d".toList⟩⟩ :=
    Option.some.inj (hcuts.headOfMethod.symm.trans (by rfl))
  subst hm
  exact ⟨_, _, hcuts, isBody_of_all (by decide) (by decide) (by decide), by decide, hcut⟩

end Street

end CodeAtlas.Excerpt
