import CodeAtlas.Proofs.Excerpt.Body

/-! Where the cut of a method ends. Its head opens a brace, and from there on braces are open until
one of them closes the last. If the head has no other brace, this is the first place at which as
many braces have been closed as opened; if there is no such place, the cut goes to the end. -/

namespace CodeAtlas.Excerpt

open Text (Match)

variable {count : Int} {text s t : List Char}

/-! ### Counting from the head on -/

/-- A beginning of a text that ends with a closing brace and has as many opening braces as closing
ones. -/
structure Balanced (text s : List Char) : Prop where
  isPrefix : s <+: text
  ends : s.getLast? = some '\x7d'
  even : s.count '\x7b' = s.count '\x7d'

theorem balanced_iff_closes : Balanced text s ↔ s <+: text ∧ Closes 0 s := by
  constructor
  · rintro ⟨hstart, hends, heven⟩
    exact ⟨hstart, hends, by rw [balance, heven]; omega⟩
  · rintro ⟨hstart, hends, hzero⟩
    rw [balance] at hzero
    exact ⟨hstart, hends, by omega⟩

/-- What has no braces is passed over. -/
theorem untilBalanced_append (hopening : '\x7b' ∉ s) (hclosing : '\x7d' ∉ s) (t : List Char) :
    untilBalanced count (s ++ t) = s ++ untilBalanced count t := by
  induction s with
  | nil => rfl
  | cons c s ih =>
    obtain ⟨hopen, hopening⟩ := List.ne_and_not_mem_of_not_mem_cons hopening
    obtain ⟨hclose, hclosing⟩ := List.ne_and_not_mem_of_not_mem_cons hclosing
    have hzero : balance [c] = 0 :=
      balance_eq_zero (List.mem_singleton.not.mpr hopen) (List.mem_singleton.not.mpr hclose)
    have hgoes : ¬ Closes count [c] := fun h => hclose (closes_singleton.mp h).1.symm
    rw [List.cons_append, untilBalanced_of_not_closes hgoes, hzero, Int.add_zero,
      ih hopening hclosing, List.cons_append]

/-- Behind the head one brace is open. -/
theorem untilBalanced_head (hopening : '\x7b' ∉ s) (hclosing : '\x7d' ∉ s) (rest : List Char) :
    untilBalanced 0 (s ++ '\x7b' :: rest) = s ++ ['\x7b'] ++ untilBalanced 1 rest := by
  have hgoes : ¬ Closes 0 ['\x7b'] := fun h => absurd (closes_singleton.mp h).1 (by decide)
  rw [untilBalanced_append hopening hclosing, untilBalanced_of_not_closes hgoes, balance_opening,
    Int.zero_add, List.append_assoc, List.singleton_append]

/-- Once a brace is open, one is open at every place before the cut ends. -/
theorem balance_pos_of_inside (hs : 0 < count + balance s) (hst : s <+: t)
    (ht : t <+: untilBalanced count text) (hne : t ≠ untilBalanced count text) :
    0 < count + balance t := by
  by_contra hclosed
  obtain ⟨u, rfl⟩ := hst
  obtain ⟨w, hw, hcloses⟩ := exists_closes hs (Int.not_lt.mp hclosed)
  have hend := untilBalanced_length_le
    ((hw.trans ht).trans (untilBalanced_isPrefix count text)) hcloses
  exact hne (ht.eq_of_length_le (hend.trans hw.length_le))

/-! ### The cut of a method -/

/-- A cut that begins with a head and ends at the brace that closes the one of the head. -/
structure EndsAtBrace (text head cut : List Char) : Prop where
  begins : head <+: cut
  isPrefix : cut <+: text
  /-- Before its end, some brace of the cut is open. -/
  open_inside : ∀ s, s <+: cut → s ≠ cut → head.length ≤ s.length →
    s.count '\x7d' < s.count '\x7b'
  shortest : (∃ s, Balanced text s) →
    Balanced text cut ∧ ∀ s, Balanced text s → cut.length ≤ s.length
  whole : (¬ ∃ s, Balanced text s) → cut = text

theorem endsAtBrace_untilBalanced {rest : List Char} (htext : text = s ++ '\x7b' :: rest)
    (hopening : '\x7b' ∉ s) (hclosing : '\x7d' ∉ s) :
    EndsAtBrace text (s ++ ['\x7b']) (untilBalanced 0 text) := by
  have hbegins : s ++ ['\x7b'] <+: untilBalanced 0 text := by
    rw [htext, untilBalanced_head hopening hclosing]
    exact List.prefix_append _ _
  have hopen : 0 < 0 + balance (s ++ ['\x7b']) := by
    rw [balance_append, balance_eq_zero hopening hclosing, balance_opening]
    decide
  have hcut := untilBalanced_isPrefix 0 text
  have hend (t : List Char) (ht : Balanced text t) : (untilBalanced 0 text).length ≤ t.length :=
    untilBalanced_length_le ht.isPrefix (balanced_iff_closes.mp ht).2
  refine ⟨hbegins, hcut, fun t ht hne hlong => ?_, ?_, fun hnone => ?_⟩
  · have hpos := balance_pos_of_inside hopen
      (List.prefix_of_prefix_length_le hbegins ht hlong) ht hne
    rw [balance] at hpos
    omega
  · rintro ⟨w, hw⟩
    refine ⟨?_, hend⟩
    rcases untilBalanced_cases 0 text with hcloses | hall
    · exact balanced_iff_closes.mpr ⟨hcut, hcloses⟩
    · -- The cut is the whole text, and so is the beginning that is balanced.
      have hlength := hend w hw
      rw [hall] at hlength ⊢
      exact hw.isPrefix.eq_of_length_le hlength ▸ hw
  · refine (untilBalanced_cases 0 text).resolve_left fun hcloses => ?_
    exact hnone ⟨_, balanced_iff_closes.mpr ⟨hcut, hcloses⟩⟩

theorem toList_braced {code method : String} {cls : Option String} {m : Match}
    (htext : within code.toList cls = some text)
    (hfound : (methodPattern method).search? text = some m) :
    (braced code method cls).toList = untilBalanced 0 (text.drop m.offset) := by
  simp only [braced, htext, bracedIn, hfound, String.toList_ofList]

/-- In the code, or behind the head of the class if one is given, let the first head of a method of
that name have no brace but its last sign. Then the cut begins with this head and is the shortest
beginning of what stands there that ends with a closing brace and has as many opening as closing
ones; if there is none it is all of it. Within the cut more braces are opened than closed. -/
theorem braced_ends_at_closing_brace {code method : String} {cls : Option String} {m : Match}
    (htext : within code.toList cls = some text)
    (hfound : (methodPattern method).search? text = some m)
    (hopening : '\x7b' ∉ m.matched.dropLast) (hclosing : '\x7d' ∉ m.matched.dropLast) :
    m.matched.getLast? = some '\x7b' ∧
      EndsAtBrace (text.drop m.offset) m.matched (braced code method cls).toList := by
  obtain ⟨before, head, hcode, hoffset, hmatched⟩ :=
    (endsInBrace_methodPattern method).exists_head hfound
  rw [hmatched, List.dropLast_concat] at hopening hclosing
  have hdrop : text.drop m.offset = head ++ '\x7b' :: m.after.rest := by
    rw [hoffset, hcode, List.drop_left]
  rw [toList_braced htext hfound, hmatched]
  exact ⟨List.getLast?_concat, endsAtBrace_untilBalanced hdrop hopening hclosing⟩

/-! ### A block in a body, and a body that is not closed -/

namespace Hall

/-- A method with a block in its body, and another one behind it. -/
def light : String :=
  "class Hall \x7b public void light() \x7b if (up) \x7b on(); \x7d \x7d void on() \x7b \x7d \x7d"

/-- A method whose body is not closed, though the block in it is. -/
def glow : String := "public void light() \x7b if (up) \x7b on(); \x7d "

theorem light_cut_at_closing_brace :
    ∃ text m n, within light.toList (some "Hall") = some text ∧
      (methodPattern "light").search? text = some m ∧
      EndsAtBrace (text.drop m.offset) m.matched
        "public void light() \x7b if (up) \x7b on(); \x7d \x7d".toList ∧
      (methodPattern "light").search? glow.toList = some n ∧
      EndsAtBrace (glow.toList.drop n.offset) n.matched glow.toList := by
  have htext : within light.toList (some "Hall") = some
      " public void light() \x7b if (up) \x7b on(); \x7d \x7d void on() \x7b \x7d \x7d".toList := by
    rw [light, String.toList_ofList, String.toList_ofList]
    rfl
  have hm : (methodPattern "light").search?
      " public void light() \x7b if (up) \x7b on(); \x7d \x7d void on() \x7b \x7d \x7d".toList =
      some ⟨1, "public void light() \x7b".toList, ⟨22, some '\x7b',
        " if (up) \x7b on(); \x7d \x7d void on() \x7b \x7d \x7d".toList⟩⟩ := by
    rw [String.toList_ofList, String.toList_ofList, String.toList_ofList]
    rfl
  have hn : (methodPattern "light").search? glow.toList =
      some ⟨0, "public void light() \x7b".toList, ⟨21, some '\x7b',
        " if (up) \x7b on(); \x7d ".toList⟩⟩ := by
    rw [glow, String.toList_ofList, String.toList_ofList, String.toList_ofList]
    rfl
  have hglow : within glow.toList none = some glow.toList := rfl
  have hlight := (braced_ends_at_closing_brace htext hm (by decide) (by decide)).2
  have hopen := (braced_ends_at_closing_brace hglow hn (by decide) (by decide)).2
  have hcut : untilBalanced 0 (List.drop 1
      " public void light() \x7b if (up) \x7b on(); \x7d \x7d void on() \x7b \x7d \x7d".toList) =
      "public void light() \x7b if (up) \x7b on(); \x7d \x7d".toList := by
    rw [String.toList_ofList, String.toList_ofList]
    rfl
  have hall : untilBalanced 0 (List.drop 0 glow.toList) = glow.toList := by
    rw [glow, String.toList_ofList]
    rfl
  rw [toList_braced htext hm, hcut] at hlight
  rw [toList_braced hglow hn, hall] at hopen
  exact ⟨_, _, _, htext, hm, hlight, hn, hopen⟩

end Hall

end CodeAtlas.Excerpt
