import CodeAtlas.Text.Pattern

/-! What patterns take of a text. Of the places where a match can end the first one counts. A
repetition of characters goes on as long as they are accepted, and parts in sequence take what
follows each other. A search passes over what a match cannot begin with, and whatever it finds
stands in the text. -/

namespace CodeAtlas.Text

namespace Pattern

/-- Wherever the first text is followed by the second one, the pattern takes the first. -/
def Takes (pat : Pattern) (s t : List Char) : Prop :=
  ∀ p : Spot, p.rest = s ++ t →
    ∃ q, (pat.ends p).head? = some q ∧ q.offset = p.offset + s.length ∧ q.rest = t

variable {accepts : Char → Bool} {first second : Pattern} {c : Char} {s t u : List Char}

theorem ends_text (s : List Char) (p : Spot) : (text s).ends p = (p.skip? s).toList := rfl

theorem ends_seq (first second : Pattern) (p : Spot) :
    (seq first second).ends p = (first.ends p).flatMap second.ends := rfl

theorem ends_finish (p : Spot) : finish.ends p = if p.rest.isEmpty then [p] else [] := rfl

theorem ends_ahead (body : Pattern) (p : Spot) :
    (ahead body).ends p = if (body.ends p).isEmpty then [] else [p] := rfl

theorem ends_one {p : Spot} (hp : p.rest = c :: t) (hc : accepts c = true) :
    (one accepts).ends p = [⟨p.offset + 1, some c, t⟩] := by
  obtain ⟨offset, before, rest⟩ := p
  obtain rfl : rest = c :: t := hp
  exact if_pos hc

theorem ends_one_eq_nil {p : Spot} (h : ∀ c, p.rest.head? = some c → accepts c = false) :
    (one accepts).ends p = [] := by
  obtain ⟨offset, before, rest⟩ := p
  cases rest with
  | nil => rfl
  | cons c t => exact if_neg (Bool.eq_false_iff.mp (h c rfl))

theorem takes_one (hc : accepts c = true) : (one accepts).Takes [c] t := by
  intro p hp
  rw [ends_one hp hc]
  exact ⟨_, rfl, rfl, rfl⟩

theorem takes_text (s t : List Char) : (text s).Takes s t := by
  intro p hp
  induction s generalizing p with
  | nil => exact ⟨p, rfl, rfl, hp⟩
  | cons c s ih =>
    have hstep : (text (c :: s)).ends p = (text s).ends ⟨p.offset + 1, some c, s ++ t⟩ := by
      simp [ends_text, Spot.skip?, hp]
    obtain ⟨q, hq, hoffset, hrest⟩ := ih ⟨p.offset + 1, some c, s ++ t⟩ rfl
    refine ⟨q, by rw [hstep, hq], ?_, hrest⟩
    simp only [hoffset, List.length_cons]
    omega

/-- Repetition goes as far as characters are accepted. -/
theorem takes_many (hs : ∀ c ∈ s, accepts c = true)
    (ht : ∀ c, t.head? = some c → accepts c = false) : (many (one accepts)).Takes s t := by
  -- The number of rounds is bounded by the length of the text, which is more than enough.
  have hrounds : ∀ (n : Nat) (p : Spot), s.length ≤ n → p.rest = s ++ t →
      ∃ q, (repeatFrom true (one accepts).ends n p).head? = some q ∧
        q.offset = p.offset + s.length ∧ q.rest = t := by
    induction s with
    | nil =>
      intro n p _ hp
      cases n with
      | zero => exact ⟨p, rfl, rfl, hp⟩
      | succ n =>
        have hend : (one accepts).ends p = [] := ends_one_eq_nil (by rwa [hp])
        exact ⟨p, by simp [repeatFrom, hend], rfl, hp⟩
    | cons c s ih =>
      intro n p hn hp
      cases n with
      | zero => exact absurd hn (by simp)
      | succ n =>
        have hround := ends_one hp (hs c List.mem_cons_self)
        obtain ⟨q, hq, hoffset, hrest⟩ := ih (fun d hd => hs d (List.mem_cons_of_mem _ hd)) n
          ⟨p.offset + 1, some c, s ++ t⟩ (by simpa using hn) rfl
        refine ⟨q, ?_, ?_, hrest⟩
        · simp [repeatFrom, hround, hq]
        · simp only [hoffset, List.length_cons]
          omega
  intro p hp
  exact hrounds _ p (by rw [hp, List.length_append]; omega) hp

theorem Takes.seq (hfirst : first.Takes s (u ++ t)) (hsecond : second.Takes u t) :
    (seq first second).Takes (s ++ u) t := by
  intro p hp
  obtain ⟨q, hq, hoffset, hrest⟩ := hfirst p (by rw [hp, List.append_assoc])
  obtain ⟨r, hr, hoffset', hrest'⟩ := hsecond q hrest
  obtain ⟨qs, hqs⟩ := List.head?_eq_some_iff.mp hq
  refine ⟨r, ?_, ?_, hrest'⟩
  · rw [ends_seq, hqs, List.flatMap_cons, List.head?_append, hr]
    rfl
  · rw [hoffset', hoffset, List.length_append]
    omega

theorem takes_several (hs : ∀ c ∈ s, accepts c = true) (hne : s ≠ [])
    (ht : ∀ c, t.head? = some c → accepts c = false) : (several (one accepts)).Takes s t := by
  obtain ⟨c, s, rfl⟩ := List.exists_cons_of_ne_nil hne
  obtain ⟨hc, hs⟩ := List.forall_mem_cons.mp hs
  exact (takes_one hc).seq (takes_many hs ht)

/-! ### Searches -/

theorem Takes.matchAt? {pat : Pattern} (h : pat.Takes s t) {p : Spot} (hp : p.rest = s ++ t) :
    ∃ m, pat.matchAt? p = some m ∧ m.matched = s := by
  obtain ⟨q, hq, hoffset, -⟩ := h p hp
  refine ⟨⟨p.offset, p.rest.take (q.offset - p.offset), q⟩, ?_, ?_⟩
  · rw [Pattern.matchAt?, hq]
    rfl
  · simp only [hp, hoffset, Nat.add_sub_cancel_left, List.take_left]

/-- A pattern that begins with a text matches only there. -/
theorem matchAt?_text_eq_none {p : Spot} (h : p.rest.head? ≠ some c) :
    (seq (text (c :: s)) second).matchAt? p = none := by
  have hskip : p.skip? (c :: s) = none := by
    cases hp : p.rest with
    | nil => simp [Spot.skip?, hp]
    | cons d t =>
      have hne : c ≠ d := fun heq => h (by rw [hp, heq]; rfl)
      simp [Spot.skip?, hp, hne]
  simp [Pattern.matchAt?, ends, hskip]

/-- A search finds what a pattern takes, if nothing before it begins like the pattern. -/
theorem Takes.search? (h : Takes (.seq (.text (c :: u)) second) s t) (before : List Char)
    (hbefore : c ∉ before) :
    ∃ m, Pattern.search? (.seq (.text (c :: u)) second) (before ++ (s ++ t)) = some m ∧
      m.matched = s := by
  have hfrom : ∀ offset last, ∃ m,
      searchFrom (.seq (.text (c :: u)) second) offset last (before ++ (s ++ t)) = some m ∧
        m.matched = s := by
    induction before with
    | nil =>
      intro offset last
      obtain ⟨m, hm, hmatched⟩ := h.matchAt? (p := ⟨offset, last, s ++ t⟩) rfl
      refine ⟨m, ?_, hmatched⟩
      rw [List.nil_append]
      cases hst : s ++ t with
      | nil => rw [searchFrom, ← hst, hm]
      | cons d ds => rw [searchFrom, ← hst, hm]
    | cons d before ih =>
      intro offset last
      obtain ⟨hne, hrest⟩ : c ≠ d ∧ c ∉ before := by simpa using hbefore
      rw [List.cons_append, searchFrom, matchAt?_text_eq_none]
      · exact ih hrest _ _
      · intro heq
        exact hne (Option.some.inj heq).symm
  exact hfrom 0 none

end Pattern

/-! ### What a match covers -/

/-- Between one place and the next there is this text. -/
def Spot.Passes (p : Spot) (s : List Char) (q : Spot) : Prop :=
  p.rest = s ++ q.rest ∧ q.offset = p.offset + s.length

theorem Spot.passes_refl (p : Spot) : p.Passes [] p := ⟨rfl, rfl⟩

theorem Spot.Passes.trans {p q r : Spot} {s t : List Char} (hp : p.Passes s q)
    (hq : q.Passes t r) : p.Passes (s ++ t) r := by
  refine ⟨by rw [hp.1, hq.1, List.append_assoc], ?_⟩
  rw [hq.2, hp.2, List.length_append, Nat.add_assoc]

theorem passes_of_skip? {s : List Char} {p q : Spot} (h : p.skip? s = some q) : p.Passes s q := by
  induction s generalizing p with
  | nil =>
    obtain rfl : p = q := Option.some.inj h
    exact p.passes_refl
  | cons c s ih =>
    cases hrest : p.rest with
    | nil => simp [Spot.skip?, hrest] at h
    | cons d ds =>
      simp only [Spot.skip?, hrest, beq_iff_eq] at h
      split at h
      next hc =>
        have hstep : p.Passes [c] ⟨p.offset + 1, some d, ds⟩ := ⟨by rw [hrest, hc]; rfl, rfl⟩
        exact hstep.trans (ih h)
      next => cases h

theorem passes_of_mem_repeatFrom {greedy : Bool} {round : Spot → List Spot} {n : Nat} {p q : Spot}
    (hround : ∀ p, ∀ q ∈ round p, ∃ s, p.Passes s q) (h : q ∈ repeatFrom greedy round n p) :
    ∃ s, p.Passes s q := by
  induction n generalizing p with
  | zero => exact ⟨[], List.mem_singleton.mp h ▸ p.passes_refl⟩
  | succ n ih =>
    have hcases : q = p ∨
        ∃ r, (r ∈ round p ∧ p.offset < r.offset) ∧ q ∈ repeatFrom greedy round n r := by
      cases greedy with
      | true => simpa [repeatFrom, or_comm] using h
      | false => simpa [repeatFrom] using h
    rcases hcases with rfl | ⟨r, ⟨hr, -⟩, hq⟩
    · exact ⟨[], q.passes_refl⟩
    · obtain ⟨s, hs⟩ := hround p r hr
      obtain ⟨t, ht⟩ := ih hq
      exact ⟨s ++ t, hs.trans ht⟩

theorem passes_of_mem_ite {condition : Prop} [Decidable condition] {p q : Spot}
    (h : q ∈ if condition then [p] else []) : ∃ s, p.Passes s q := by
  split at h
  · exact ⟨[], List.mem_singleton.mp h ▸ p.passes_refl⟩
  · cases h

namespace Pattern

/-- A match ends further on in the same text. -/
theorem passes_of_mem_ends {pat : Pattern} {p q : Spot} (h : q ∈ pat.ends p) :
    ∃ s, p.Passes s q := by
  induction pat generalizing p q with
  | one accepts =>
    cases hrest : p.rest with
    | nil =>
      rw [ends_one_eq_nil (by simp [hrest])] at h
      cases h
    | cons c cs =>
      by_cases hc : accepts c = true
      · rw [ends_one hrest hc] at h
        obtain rfl := List.mem_singleton.mp h
        exact ⟨[c], hrest, rfl⟩
      · rw [ends_one_eq_nil (by simpa [hrest] using hc)] at h
        cases h
  | text s => exact ⟨s, passes_of_skip? (Option.mem_toList.mp h)⟩
  | seq first second ihFirst ihSecond =>
    obtain ⟨r, hr, hq⟩ := List.mem_flatMap.mp h
    obtain ⟨s, hs⟩ := ihFirst hr
    obtain ⟨t, ht⟩ := ihSecond hq
    exact ⟨s ++ t, hs.trans ht⟩
  | either first second ihFirst ihSecond =>
    exact (List.mem_append.mp h).elim ihFirst ihSecond
  | many body ih => exact passes_of_mem_repeatFrom (fun _ _ => ih) h
  | few body ih => exact passes_of_mem_repeatFrom (fun _ _ => ih) h
  | wordEdge => exact passes_of_mem_ite h
  | start => exact passes_of_mem_ite h
  | finish => exact passes_of_mem_ite h
  | lastLine => exact passes_of_mem_ite h
  | ahead body _ =>
    rw [ends_ahead] at h
    split at h
    · cases h
    · exact ⟨[], List.mem_singleton.mp h ▸ p.passes_refl⟩

/-- A match of patterns in sequence ends with a match of the last one. -/
theorem exists_mem_ends_last {ps : List Pattern} {last : Pattern} {p q : Spot}
    (h : q ∈ (sequence (ps ++ [last])).ends p) :
    ∃ r s, p.Passes s r ∧ q ∈ last.ends r := by
  induction ps generalizing p with
  | nil => exact ⟨p, [], p.passes_refl, h⟩
  | cons first ps ih =>
    have hseq : sequence (first :: (ps ++ [last])) = .seq first (sequence (ps ++ [last])) := by
      cases ps <;> rfl
    rw [List.cons_append, hseq] at h
    obtain ⟨r, hr, hq⟩ := List.mem_flatMap.mp h
    obtain ⟨s, hs⟩ := passes_of_mem_ends hr
    obtain ⟨r', t, ht, hlast⟩ := ih hq
    exact ⟨r', s ++ t, hs.trans ht, hlast⟩

/-- What a search finds stands in the text, behind what it skips. -/
theorem exists_of_searchFrom {pat : Pattern} {offset : Nat} {before : Option Char}
    {s : List Char} {m : Match} (h : pat.searchFrom offset before s = some m) :
    ∃ (p : Spot) (skipped : List Char), s = skipped ++ p.rest ∧
      p.offset = offset + skipped.length ∧ m.offset = p.offset ∧ m.after ∈ pat.ends p ∧
      p.rest = m.matched ++ m.after.rest := by
  have hfirst : ∀ {p : Spot}, pat.matchAt? p = some m →
      m.offset = p.offset ∧ m.after ∈ pat.ends p ∧ p.rest = m.matched ++ m.after.rest := by
    intro p hm
    obtain ⟨q, hq, rfl⟩ := Option.map_eq_some_iff.mp hm
    have hmem := List.mem_of_mem_head? hq
    obtain ⟨t, hrest, hoffset⟩ := passes_of_mem_ends hmem
    refine ⟨rfl, hmem, ?_⟩
    rw [hoffset, Nat.add_sub_cancel_left, hrest, List.take_left]
  induction s generalizing offset before with
  | nil => exact ⟨⟨offset, before, []⟩, [], rfl, rfl, hfirst h⟩
  | cons c cs ih =>
    rw [searchFrom] at h
    split at h
    next m' hm =>
      obtain rfl := Option.some.inj h
      exact ⟨⟨offset, before, c :: cs⟩, [], rfl, rfl, hfirst hm⟩
    next =>
      obtain ⟨p, skipped, hs, hoffset, hm⟩ := ih h
      refine ⟨p, c :: skipped, by rw [hs, List.cons_append], ?_, hm⟩
      rw [hoffset, List.length_cons, Nat.add_assoc, Nat.add_comm 1]

end Pattern

/-! ### All matches -/

/-- A match where it stands: the text has it at its offset, and the pattern can end where it does. -/
structure Match.StandsIn (m : Match) (pat : Pattern) (cs : List Char) : Prop where
  text : cs = cs.take m.offset ++ (m.matched ++ m.after.rest)
  within : m.offset ≤ cs.length
  ends : ∃ p : Spot, p.rest = m.matched ++ m.after.rest ∧ m.after ∈ pat.ends p

namespace Pattern

/-- The matches from a place on stand in the text one behind another. -/
theorem standsIn_of_allFrom {pat : Pattern} {n : Nat} {p : Spot} {cs : List Char}
    (front : List Char) (hcs : cs = front ++ p.rest) (hp : p.offset = front.length) :
    (∀ m ∈ pat.allFrom n p, p.offset ≤ m.offset ∧ m.StandsIn pat cs) ∧
      (pat.allFrom n p).Pairwise fun m m' => m.offset + m.matched.length ≤ m'.offset := by
  induction n generalizing p front with
  | zero => exact ⟨nofun, .nil⟩
  | succ n ih =>
    rw [allFrom]
    split
    next => exact ⟨nofun, .nil⟩
    next m hm =>
      obtain ⟨q, skipped, hrest, hq, hoffset, hends, hmatched⟩ := exists_of_searchFrom hm
      have hfront : cs = (front ++ skipped) ++ (m.matched ++ m.after.rest) := by
        rw [hcs, hrest, hmatched, List.append_assoc]
      have hm : m.offset = (front ++ skipped).length := by
        rw [hoffset, hq, hp, List.length_append]
      have hstands : m.StandsIn pat cs := by
        refine ⟨?_, by rw [hfront, hm]; simp, q, hmatched, hends⟩
        rw [hm, hfront, List.take_left]
      have hle : p.offset ≤ m.offset := by omega
      split
      · exact ⟨by simpa using ⟨hle, hstands⟩, List.pairwise_singleton _ _⟩
      · obtain ⟨t, ht, hafter⟩ := passes_of_mem_ends hends
        obtain rfl : m.matched = t := List.append_cancel_right (hmatched.symm.trans ht)
        obtain ⟨hall, hpairs⟩ := ih (p := m.after) (front ++ skipped ++ m.matched)
          (by rw [hfront]; simp) (by rw [hafter, ← hoffset, hm, ← List.length_append])
        refine ⟨List.forall_mem_cons.mpr ⟨⟨hle, hstands⟩, fun m' hm' => ?_⟩,
          List.pairwise_cons.mpr ⟨fun m' hm' => ?_, hpairs⟩⟩
        · exact ⟨by have := (hall m' hm').1; omega, (hall m' hm').2⟩
        · rw [hoffset, ← hafter]
          exact (hall m' hm').1

theorem standsIn_of_mem_matches {pat : Pattern} {cs : List Char} {m : Match}
    (h : m ∈ pat.matches cs) : m.StandsIn pat cs :=
  ((standsIn_of_allFrom [] rfl rfl).1 m h).2

theorem pairwise_matches (pat : Pattern) (cs : List Char) :
    (pat.matches cs).Pairwise fun m m' => m.offset + m.matched.length ≤ m'.offset :=
  (standsIn_of_allFrom [] rfl rfl).2

end Pattern

end CodeAtlas.Text
