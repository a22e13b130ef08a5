import CodeAtlas.Proofs.Json.ReadBack

/-! Why a text is refused. A reader takes characters off the front of a text, so what it leaves is
an end of the text. It gives up on nesting only after more opening brackets than it has room for,
and on a number only at a run of digits that is too long. So a text with few brackets and short
numbers is read or it is no JSON. -/

namespace CodeAtlas.Json

/-- The brackets that open a list or an object. -/
def openings (cs : List Char) : Nat := cs.countP fun c => c == '[' || c == '\x7b'

theorem openings_mono {part cs : List Char} (h : part <:+: cs) : openings part ≤ openings cs :=
  h.sublist.countP_le

theorem openings_cons {c : Char} (hc : c = '[' ∨ c = '\x7b') (cs : List Char) :
    openings (c :: cs) = openings cs + 1 :=
  List.countP_cons_of_pos (by rcases hc with rfl | rfl <;> rfl)

/-- What a text has that a reader with this room refuses for a given reason. -/
def Warrants (room : Nat) (cs : List Char) : ReadError → Prop
  | .malformed => True
  | .tooDeep => room < openings cs
  | .tooManyDigits n =>
    Text.maxDigits < n ∧ ∃ ds, ds <:+: cs ∧ ds.length = n ∧ ∀ c ∈ ds, isDigit c = true

/-- What a reader leaves of a text is an end of it, and what it refuses has a reason in it. -/
def Heeds {α : Type} (room : Nat) (cs : List Char) : Except ReadError (α × List Char) → Prop
  | .ok r => r.2 <:+ cs
  | .error e => Warrants room cs e

section Heeds
variable {α β : Type} {room : Nat} {cs rest : List Char}

theorem Warrants.mono {e : ReadError} (h : Warrants room rest e) (hrest : rest <:+: cs) :
    Warrants room cs e := by
  cases e with
  | malformed => trivial
  | tooDeep => exact Nat.lt_of_lt_of_le h (openings_mono hrest)
  | tooManyDigits n =>
    obtain ⟨hn, ds, hds, hlength, hdigits⟩ := h
    exact ⟨hn, ds, hds.trans hrest, hlength, hdigits⟩

/-- One more bracket is warranted by a bracket. -/
theorem Warrants.opened {e : ReadError} {c : Char} (h : Warrants room cs e)
    (hc : c = '[' ∨ c = '\x7b') : Warrants (room + 1) (c :: cs) e := by
  cases e with
  | malformed => trivial
  | tooDeep =>
    change room + 1 < openings (c :: cs)
    rw [openings_cons hc]
    exact Nat.succ_lt_succ h
  | tooManyDigits n => exact h.mono (List.suffix_cons c cs).isInfix

theorem Heeds.mono {r : Except ReadError (α × List Char)} (h : Heeds room rest r)
    (hrest : rest <:+ cs) : Heeds room cs r := by
  cases r with
  | ok r => exact h.trans hrest
  | error e => exact Warrants.mono h hrest.isInfix

theorem Heeds.map {r : Except ReadError (α × List Char)} {f : α × List Char → β × List Char}
    (h : Heeds room cs r) (hf : ∀ p, (f p).2 = p.2) : Heeds room cs (r.map f) := by
  cases r with
  | ok r =>
    change (f r).2 <:+ cs
    rw [hf]
    exact h
  | error e => exact h

theorem Heeds.opened {r : Except ReadError (α × List Char)} {c : Char} (h : Heeds room cs r)
    (hc : c = '[' ∨ c = '\x7b') : Heeds (room + 1) (c :: cs) r := by
  cases r with
  | ok r => exact h.trans (List.suffix_cons c cs)
  | error e => exact Warrants.opened h hc

theorem Heeds.suffix_of_ok {r : Except ReadError (α × List Char)} {a : α} (h : Heeds room cs r)
    (hr : r = .ok (a, rest)) : rest <:+ cs := by
  subst hr
  exact h

theorem Heeds.warrants_of_error {r : Except ReadError (α × List Char)} {e : ReadError}
    (h : Heeds room cs r) (hr : r = .error e) : Warrants room cs e := by
  subst hr
  exact h

end Heeds

theorem skipSpace_suffix (cs : List Char) : skipSpace cs <:+ cs :=
  List.dropWhile_suffix _

theorem suffix_of_skipSpace_eq {c : Char} {cs rest : List Char} (h : skipSpace cs = c :: rest) :
    rest <:+ cs :=
  (List.suffix_cons c rest).trans (h ▸ skipSpace_suffix cs)

/-! ### Texts and words -/

theorem heeds_readUnits (room : Nat) (cs : List Char) : Heeds room cs (readUnits cs) := by
  fun_induction readUnits cs with
  | case1 => trivial
  | case2 rest => exact List.suffix_cons _ rest
  | case3 => trivial
  | case4 a b c d rest n hn ih =>
    exact Heeds.mono (Heeds.map ih (by simp)) ⟨['\\', 'u', a, b, c, d], rfl⟩
  | case5 => trivial
  | case6 e rest _ c hc ih => exact Heeds.mono (Heeds.map ih (by simp)) ⟨['\\', e], rfl⟩
  | case7 => trivial
  | case8 c rest _ _ _ _ ih => exact Heeds.mono (Heeds.map ih (by simp)) (List.suffix_cons c rest)

theorem heeds_readText (room : Nat) (cs : List Char) : Heeds room cs (readText cs) :=
  (heeds_readUnits room cs).map fun _ => rfl

theorem suffix_of_afterWord? {ws cs rest : List Char} (h : afterWord? ws cs = some rest) :
    rest <:+ cs := by
  fun_induction afterWord? ws cs with
  | case1 cs => exact (Option.some.inj h) ▸ List.suffix_rfl
  | case2 ws c cs ih => exact (ih h).trans (List.suffix_cons c cs)
  | case3 => cases h
  | case4 => cases h

theorem suffix_of_readWord? {cs : List Char} {r : Json × List Char} (h : readWord? cs = some r) :
    r.2 <:+ cs := by
  obtain ⟨w, -, hw⟩ := List.exists_of_findSome?_eq_some h
  obtain ⟨rest, hrest, rfl⟩ := Option.map_eq_some_iff.mp hw
  exact suffix_of_afterWord? hrest

/-! ### Numbers -/

/-- The whole part of a number is digits at the front of the text. -/
theorem readWhole_eq_some {cs whole rest : List Char} (h : readWhole cs = some (whole, rest)) :
    cs = whole ++ rest ∧ ∀ c ∈ whole, isDigit c = true := by
  unfold readWhole at h
  split at h
  · obtain ⟨rfl, rfl⟩ := Prod.mk.inj (Option.some.inj h)
    exact ⟨rfl, List.forall_mem_singleton.mpr rfl⟩
  · next c rest' _ =>
    split at h
    · obtain ⟨rfl, rfl⟩ := Prod.mk.inj (Option.some.inj h)
      exact ⟨List.takeWhile_append_dropWhile.symm, fun c hc => List.mem_takeWhile_imp hc⟩
    · cases h
  · cases h

theorem readFraction_suffix (cs : List Char) : (readFraction cs).2 <:+ cs := by
  unfold readFraction
  split
  · next c rest =>
    split
    · exact (List.dropWhile_suffix _).trans (List.suffix_cons _ _)
    · exact List.suffix_rfl
  · exact List.suffix_rfl

theorem readPower_suffix (cs : List Char) : (readPower cs).2 <:+ cs := by
  unfold readPower
  split
  · next e rest =>
    split
    · split
      next negative digits hdigits =>
        have hrest : digits <:+ e :: rest := by
          split at hdigits
          · obtain ⟨-, rfl⟩ := Prod.mk.inj hdigits
            exact ⟨[e, '-'], rfl⟩
          · obtain ⟨-, rfl⟩ := Prod.mk.inj hdigits
            exact ⟨[e, '+'], rfl⟩
          · obtain ⟨-, rfl⟩ := Prod.mk.inj hdigits
            exact List.suffix_cons e rest
        split
        · exact (List.dropWhile_suffix _).trans hrest
        · exact List.suffix_rfl
    · exact List.suffix_rfl
  · exact List.suffix_rfl

theorem heeds_readNumber (room : Nat) (negative : Bool) (cs : List Char) :
    Heeds room cs (readNumber negative cs) := by
  unfold readNumber
  cases hwhole : readWhole cs with
  | none => trivial
  | some r =>
    obtain ⟨whole, rest⟩ := r
    obtain ⟨hcs, hdigits⟩ := readWhole_eq_some hwhole
    have hrest : (readPower (readFraction rest).2).2 <:+ cs :=
      ((readPower_suffix _).trans (readFraction_suffix _)).trans ⟨whole, hcs.symm⟩
    dsimp only
    split
    · split
      · next hlong => exact ⟨hlong, whole, ⟨[], rest, by simpa using hcs.symm⟩, rfl, hdigits⟩
      · exact hrest
    · exact hrest

/-! ### Values -/

/-- The text of a value, from what is left behind the name of its field. -/
theorem value_suffix {rest rest₁ rest₂ : List Char} {key : String}
    (hkey : readText rest = .ok (key, rest₁)) (hcolon : skipSpace rest₁ = ':' :: rest₂) :
    skipSpace rest₂ <:+ '"' :: rest := by
  have hrest : rest₁ <:+ rest := (heeds_readText 0 rest).suffix_of_ok hkey
  exact (((skipSpace_suffix rest₂).trans (suffix_of_skipSpace_eq hcolon)).trans hrest).trans
    (List.suffix_cons _ _)

/-- With so much fuel, all readers leave ends of texts and refuse texts for reasons in them. -/
structure AllHeed (fuel : Nat) : Prop where
  value : ∀ room cs, Heeds room cs (readValue fuel room cs)
  items : ∀ room cs, Heeds room cs (readItems fuel room cs)
  fields : ∀ room cs, Heeds room cs (readFields fuel room cs)

-- Each reader is followed for one step, given what all do with less fuel. Items and fields go on
-- after a comma with what the first of them has left.
section Step
variable {fuel : Nat} (h : ∀ n < fuel, AllHeed n) (room : Nat) (cs : List Char)
include h

theorem heeds_readValue : Heeds room cs (readValue fuel room cs) := by
  fun_cases readValue fuel room cs with
  | case1 => trivial
  | case2 n _ rest =>
    exact Heeds.mono (Heeds.map (heeds_readText room rest) (by simp)) (List.suffix_cons _ _)
  | case3 n tail =>
    change 0 < openings _
    rw [openings_cons (.inl rfl)]
    exact Nat.zero_lt_succ _
  | case4 n tail =>
    change 0 < openings _
    rw [openings_cons (.inr rfl)]
    exact Nat.zero_lt_succ _
  | case5 n rest room rest' hskip =>
    exact (suffix_of_skipSpace_eq hskip).trans (List.suffix_cons _ _)
  | case6 n rest room _ =>
    refine Heeds.opened (Heeds.mono (Heeds.map ?_ (by simp)) (skipSpace_suffix rest)) (.inl rfl)
    exact (h n (Nat.lt_succ_self n)).items room _
  | case7 n rest room rest' hskip =>
    exact (suffix_of_skipSpace_eq hskip).trans (List.suffix_cons _ _)
  | case8 n rest room _ =>
    refine Heeds.opened (Heeds.mono (Heeds.map ?_ (by simp)) (skipSpace_suffix rest)) (.inr rfl)
    exact (h n (Nat.lt_succ_self n)).fields room _
  | case9 n _ cs _ r hword => exact suffix_of_readWord? hword
  | case10 n _ rest => exact (heeds_readNumber room true rest).mono (List.suffix_cons _ _)
  | case11 => exact heeds_readNumber room false cs

theorem heeds_readItems : Heeds room cs (readItems fuel room cs) := by
  fun_cases readItems fuel room cs with
  | case1 => trivial
  | case2 n _ _ e hx => exact ((h n (Nat.lt_succ_self n)).value room cs).warrants_of_error hx
  | case3 n _ _ x rest hx rest' hskip =>
    obtain ⟨hvalue, hitems, -⟩ := h n (Nat.lt_succ_self n)
    have hrest : rest' <:+ cs :=
      (suffix_of_skipSpace_eq hskip).trans ((hvalue room cs).suffix_of_ok hx)
    exact Heeds.mono (Heeds.map (hitems room _) (by simp)) ((skipSpace_suffix rest').trans hrest)
  | case4 n _ _ x rest hx rest' hskip =>
    have hrest := ((h n (Nat.lt_succ_self n)).value room cs).suffix_of_ok hx
    exact (suffix_of_skipSpace_eq hskip).trans hrest
  | case5 => trivial

theorem heeds_readFields : Heeds room cs (readFields fuel room cs) := by
  fun_cases readFields fuel room cs with
  | case1 => trivial
  | case2 n _ rest e hkey =>
    exact ((heeds_readText room rest).mono (List.suffix_cons _ _)).warrants_of_error hkey
  | case3 n _ rest key rest₁ hkey rest₂ hcolon e hx =>
    have hvalue := (h n (Nat.lt_succ_self n)).value room (skipSpace rest₂)
    exact (hvalue.warrants_of_error hx).mono (value_suffix hkey hcolon).isInfix
  | case4 n _ rest key rest₁ hkey rest₂ hcolon x rest₃ hx rest₄ hcomma =>
    obtain ⟨hvalue, -, hfields⟩ := h n (Nat.lt_succ_self n)
    have hrest : rest₄ <:+ '"' :: rest := ((suffix_of_skipSpace_eq hcomma).trans
      ((hvalue room _).suffix_of_ok hx)).trans (value_suffix hkey hcolon)
    exact Heeds.mono (Heeds.map (hfields room _) (by simp)) ((skipSpace_suffix rest₄).trans hrest)
  | case5 n _ rest key rest₁ hkey rest₂ hcolon x rest₃ hx rest₄ hclose =>
    have hvalue := (h n (Nat.lt_succ_self n)).value room (skipSpace rest₂)
    exact ((suffix_of_skipSpace_eq hclose).trans (hvalue.suffix_of_ok hx)).trans
      (value_suffix hkey hcolon)
  | case6 => trivial
  | case7 => trivial
  | case8 => trivial

end Step

theorem allHeed (fuel : Nat) : AllHeed fuel := by
  induction fuel using Nat.strongRecOn with
  | ind fuel ih => exact ⟨heeds_readValue ih, heeds_readItems ih, heeds_readFields ih⟩

/-- A text from outside is refused for its nesting only if it has more opening brackets than may
stand in one another, and for a number only if it has that many digits in a row. -/
theorem warrants_of_readChars {cs : List Char} {e : ReadError} (h : readChars cs = .error e) :
    Warrants maxNesting cs e := by
  have hvalue := ((allHeed (2 * cs.length + 2)).value maxNesting _).mono (skipSpace_suffix cs)
  rw [readChars, readWithin] at h
  split at h
  · next e' he =>
    rw [he] at hvalue
    exact Except.error.inj h ▸ hvalue
  · split at h
    · cases h
    · exact Except.error.inj h ▸ trivial

end CodeAtlas.Json
