import CodeAtlas.Proofs.Link.Stability
import CodeAtlas.Proofs.Lists
import CodeAtlas.Proofs.Text.Blank

/-! How the links depend on the spelling of the symbols in use. Symbols are defined under their
normal form, without the blanks around the last part. Calls look for the normal form of what is
used, so that blanks there do not matter. The other three relations look for the last part as it
stands: a symbol that is spelled with blanks around it finds nothing, and all other symbols find
what their normal form does. -/

namespace CodeAtlas.Link

open Text (Blanks Bare)

/-! ### Spellings -/

/-- Two spellings of a symbol. They are the same up to the last dot, and what follows it is the
same but for the blanks around. -/
inductive Respelled : String → String → Prop where
  | mk (front core b c b' c' : List Char) (hfront : front = [] ∨ ∃ path, front = path ++ ['.'])
    (hcore : '.' ∉ core) (hb : Blanks b) (hc : Blanks c) (hb' : Blanks b') (hc' : Blanks c') :
    Respelled (String.ofList (front ++ (b ++ core ++ c)))
      (String.ofList (front ++ (b' ++ core ++ c')))

/-- There is no blank at either end of the last part. -/
def Tidy (s : String) : Prop := Bare (Text.afterLast '.' s.toList)

theorem tidy_iff {s : String} : Tidy s ↔ lastPart s = normalForm s := by
  rw [Tidy, ← Text.strip_eq_self_iff, normalForm, Text.trim, lastPart, String.toList_ofList,
    String.ofList_inj]
  exact eq_comm

instance : DecidablePred Tidy := fun _ => decidable_of_iff _ tidy_iff.symm

theorem trim_normalForm (s : String) : Text.trim (normalForm s) = normalForm s := by
  simp only [normalForm, Text.trim, String.toList_ofList, Text.strip_strip]

theorem afterLast_append {front rest : List Char}
    (hfront : front = [] ∨ ∃ path, front = path ++ ['.']) (hrest : '.' ∉ rest) :
    Text.afterLast '.' (front ++ rest) = rest := by
  have hall : ∀ c ∈ rest.reverse, (c != '.') = true := by
    intro c hc
    have hne : c ≠ '.' := by
      rintro rfl
      exact hrest (List.mem_reverse.mp hc)
    simpa using hne
  have hstop : front.reverse.takeWhile (· != '.') = [] := by
    rcases hfront with rfl | ⟨path, rfl⟩
    · rfl
    · simp
  rw [Text.afterLast, List.reverse_append, List.takeWhile_append_of_pos hall, hstop,
    List.append_nil, List.reverse_reverse]

theorem dot_notMem_of_blanks {b : List Char} (h : Blanks b) : '.' ∉ b := by
  intro hdot
  have hblank := h _ hdot
  revert hblank
  decide

theorem normalForm_spelled {front core b c : List Char}
    (hfront : front = [] ∨ ∃ path, front = path ++ ['.']) (hcore : '.' ∉ core) (hb : Blanks b)
    (hc : Blanks c) :
    normalForm (String.ofList (front ++ (b ++ core ++ c))) = String.ofList (Text.strip core) := by
  have hrest : '.' ∉ b ++ core ++ c := by
    simp [hcore, dot_notMem_of_blanks hb, dot_notMem_of_blanks hc]
  rw [normalForm, lastPart, Text.trim, String.toList_ofList, String.toList_ofList,
    afterLast_append hfront hrest, Text.strip_between hb hc]

/-- All spellings of a symbol have one normal form. -/
theorem Respelled.normalForm_eq {s t : String} (h : Respelled s t) :
    normalForm s = normalForm t := by
  obtain ⟨front, core, b, c, b', c', hfront, hcore, hb, hc, hb', hc'⟩ := h
  rw [normalForm_spelled hfront hcore hb hc, normalForm_spelled hfront hcore hb' hc']

/-! ### Members without what they use -/

namespace Member

/-- A member with other symbols in use. -/
def withUsed (m : Member) (used : List String) : Member := { m with used := used }

/-- All of a member but the symbols in use. -/
def outline (m : Member) : Member := m.withUsed []

@[simp] theorem outline_withUsed (m : Member) (used : List String) :
    (m.withUsed used).outline = m.outline := rfl

end Member

theorem candidates_outline (ms : List Member) (symbol : String) :
    candidates (ms.map Member.outline) symbol = (candidates ms symbol).map Member.outline := by
  simp only [candidates_eq, definersOf, List.flatMap_map, List.map_flatMap, List.map_map]
  rfl

theorem map_id_select_outline (xs : List Member) (kinds : List String) :
    (select (xs.map Member.outline) kinds).map (·.id) = (select xs kinds).map (·.id) := by
  rw [select, select, List.find?_map, Option.map_map]
  rfl

theorem linkToFirst_outline (ms : List Member) (relation : Relation) (kinds : List String)
    (m : Member) (symbol : String) :
    linkToFirst (ms.map Member.outline) relation kinds m.outline symbol =
      linkToFirst ms relation kinds m symbol := by
  rw [linkToFirst_eq, linkToFirst_eq, candidates_outline, map_id_select_outline]
  rfl

/-! ### The links for one symbol -/

/-- The links of a relation that a member gets when it is found to use a symbol. -/
def linksTo (ms : List Member) (m : Member) (symbol : String) : Relation → List SemanticLink
  | .calls =>
    if m.isOneOf callerKinds then (linkToFirst ms .calls calleeKinds m symbol).toList else []
  | .uses => (linkToFirst ms .uses usableKinds m symbol).toList
  | .implements =>
    if m.isOneOf ["class"] then
      ((candidates ms symbol).filter (·.isOneOf ["interface"])).map fun target =>
        ⟨m.id, target.id, .implements⟩
    else []
  | .overrides =>
    if m.isOneOf ["method"] then
      ((candidates ms symbol).filter fun target =>
        target.isOneOf ["method"] && target.name.same m.name).map fun target =>
        ⟨m.id, target.id, .overrides⟩
    else []

/-- What a relation looks for when a symbol is used. -/
def Relation.reading : Relation → String → String
  | .calls => normalForm
  | .uses | .implements | .overrides => lastPart

/-- A relation goes through the members, and for each through the symbols that it uses. -/
theorem collected_eq (ms : List Member) (relation : Relation) :
    collected ms relation = ms.flatMap fun m => m.used.flatMap fun s =>
      linksTo ms m (relation.reading s) relation := by
  cases relation with
  | calls =>
    simp only [collected, calls, filter_flatMap_eq, List.filterMap_eq_flatMap_toList]
    congr 1
    funext m
    by_cases hm : m.isOneOf callerKinds = true <;> simp [linksTo, Relation.reading, hm]
  | uses =>
    simp only [collected, usages, List.filterMap_eq_flatMap_toList]
    rfl
  | implements =>
    simp only [collected, implementations, filter_flatMap_eq]
    congr 1
    funext m
    by_cases hm : m.isOneOf ["class"] = true <;> simp [linksTo, Relation.reading, hm]
  | overrides =>
    simp only [collected, overridings, filter_flatMap_eq]
    congr 1
    funext m
    by_cases hm : m.isOneOf ["method"] = true <;> simp [linksTo, Relation.reading, hm]

/-- What members use has no part in the links for a symbol. -/
theorem linksTo_outline (ms : List Member) (m : Member) (symbol : String) (relation : Relation) :
    linksTo (ms.map Member.outline) m.outline symbol relation = linksTo ms m symbol relation := by
  cases relation with
  | calls => rw [linksTo, linksTo, linkToFirst_outline]; rfl
  | uses => rw [linksTo, linksTo, linkToFirst_outline]
  | implements =>
    rw [linksTo, linksTo, candidates_outline, List.filter_map, List.map_map]
    rfl
  | overrides =>
    rw [linksTo, linksTo, candidates_outline, List.filter_map, List.map_map]
    rfl

theorem linksTo_congr {ms ms' : List Member} {m m' : Member}
    (hms : ms.map Member.outline = ms'.map Member.outline) (hm : m.outline = m'.outline)
    (symbol : String) (relation : Relation) :
    linksTo ms m symbol relation = linksTo ms' m' symbol relation := by
  rw [← linksTo_outline ms, ← linksTo_outline ms', hms, hm]

/-- Nothing is defined under a symbol with blanks around it. -/
theorem candidates_eq_nil {ms : List Member} {symbol : String} (h : Text.trim symbol ≠ symbol) :
    candidates ms symbol = [] := by
  rw [List.eq_nil_iff_forall_not_mem]
  intro t ht
  obtain ⟨-, d, -, rfl⟩ := mem_candidates_iff.mp ht
  exact h (trim_normalForm d)

theorem linksTo_eq_nil {ms : List Member} {symbol : String} (h : Text.trim symbol ≠ symbol)
    (m : Member) (relation : Relation) : linksTo ms m symbol relation = [] := by
  cases relation <;> simp [linksTo, linkToFirst, select, candidates_eq_nil h]

/-- Besides calls, a relation makes of a tidy symbol what its normal form calls for, and nothing of
any other. -/
theorem linksTo_reading (ms : List Member) (m : Member) (s : String) {relation : Relation}
    (hrelation : relation ≠ .calls) :
    linksTo ms m (relation.reading s) relation =
      if Tidy s then linksTo ms m (normalForm s) relation else [] := by
  have hread : relation.reading s = lastPart s := by
    cases relation with
    | calls => exact absurd rfl hrelation
    | uses | implements | overrides => rfl
  rw [hread]
  split
  next htidy => rw [tidy_iff.mp htidy]
  next htidy => exact linksTo_eq_nil (fun heq => htidy (tidy_iff.mpr heq.symm)) m relation

/-! ### Another spelling -/

/-- All four relations look a symbol up by its normal form, but only calls look up all of them. -/
theorem collected_eq_of_reading (ms : List Member) (relation : Relation) :
    collected ms relation = ms.flatMap fun m =>
      (m.used.filter fun s => relation = .calls ∨ Tidy s).flatMap fun s =>
        linksTo ms m (normalForm s) relation := by
  rw [collected_eq]
  refine congrArg ms.flatMap (funext fun m => ?_)
  rw [filter_flatMap_eq]
  refine congrArg m.used.flatMap (funext fun s => ?_)
  by_cases hrelation : relation = .calls
  · subst hrelation
    simp [Relation.reading]
  · rw [linksTo_reading ms m s hrelation]
    by_cases htidy : Tidy s <;> simp [htidy, hrelation]

/-- What one member uses has its own part in the links, between those of the others. -/
theorem collected_withUsed (before after : List Member) (m : Member) (relation : Relation) :
    ∃ front back, ∀ used, collected (before ++ m.withUsed used :: after) relation =
      front ++ (used.flatMap (fun s =>
        linksTo (before ++ m :: after) m (relation.reading s) relation) ++ back) := by
  let links := fun (m' : Member) (s : String) =>
    linksTo (before ++ m :: after) m' (relation.reading s) relation
  refine ⟨before.flatMap fun m' => m'.used.flatMap (links m'),
    after.flatMap fun m' => m'.used.flatMap (links m'), fun used => ?_⟩
  have houtline : (before ++ m.withUsed used :: after).map Member.outline =
      (before ++ m :: after).map Member.outline := by simp
  have hlinks : ∀ m' m'' : Member, m'.outline = m''.outline → (fun s =>
      linksTo (before ++ m.withUsed used :: after) m' (relation.reading s) relation) = links m'' :=
    fun m' m'' hm => funext fun s => linksTo_congr houtline hm _ relation
  rw [collected_eq, List.flatMap_append, List.flatMap_cons, hlinks (m.withUsed used) m rfl]
  simp only [hlinks _ _ rfl]
  rfl

/-- Spelling a symbol otherwise changes the links of a relation just when it is not calls, blanks
come to stand around the last part or go away there, and the symbol has links. -/
theorem collected_respelled_iff {s t : String} (h : Respelled s t) (before after : List Member)
    (m : Member) (xs ys : List String) (relation : Relation) :
    (∀ ms, collected ms relation = ms.flatMap fun m =>
      (m.used.filter fun s => relation = .calls ∨ Tidy s).flatMap fun s =>
        linksTo ms m (normalForm s) relation) ∧
    (collected (before ++ m.withUsed (xs ++ s :: ys) :: after) relation =
        collected (before ++ m.withUsed (xs ++ t :: ys) :: after) relation ↔
      relation = .calls ∨ (Tidy s ↔ Tidy t) ∨
        linksTo (before ++ m :: after) m (normalForm s) relation = []) := by
  refine ⟨fun ms => collected_eq_of_reading ms relation, ?_⟩
  obtain ⟨front, back, hparts⟩ := collected_withUsed before after m relation
  rw [hparts, hparts, List.append_right_inj, List.append_left_inj, List.flatMap_append,
    List.flatMap_append, List.append_right_inj, List.flatMap_cons, List.flatMap_cons,
    List.append_left_inj]
  by_cases hrelation : relation = .calls
  · subst hrelation
    simp [Relation.reading, h.normalForm_eq]
  · rw [linksTo_reading _ _ _ hrelation, linksTo_reading _ _ _ hrelation, ← h.normalForm_eq]
    by_cases hs : Tidy s <;> by_cases ht : Tidy t <;> simp [hs, ht, hrelation]

/-! ### A kiosk -/

namespace Kiosk

/-- A class that uses an interface, and a method of it that uses a method of the same name. -/
def members (till pay : String) : List Member :=
  [⟨.string "till", .string "interface", .string "Till", ["Till"], []⟩,
    ⟨.string "pay", .string "method", .string "pay", ["pay"], []⟩,
    ⟨.string "kiosk", .string "class", .string "Kiosk", ["Kiosk"], [till]⟩,
    ⟨.string "kiosk.pay", .string "method", .string "pay", ["pay"], [pay]⟩]

theorem blanks_space : Blanks [' '] := by
  intro c hc
  rw [List.mem_singleton.mp hc]
  decide

theorem blanks_nil : Blanks [] := fun c hc => by cases hc

theorem respelled_till : Respelled "shop.Till" "shop. Till" :=
  .mk "shop.".toList "Till".toList [] [] [' '] [] (.inr ⟨"shop".toList, rfl⟩) (by decide) blanks_nil
    blanks_nil blanks_space blanks_nil

theorem respelled_pay : Respelled "super.pay" "super. pay" :=
  .mk "super.".toList "pay".toList [] [] [' '] [] (.inr ⟨"super".toList, rfl⟩) (by decide)
    blanks_nil blanks_nil blanks_space blanks_nil

/-- The call is found in either spelling. -/
theorem call_kept :
    Respelled "super.pay" "super. pay" ∧
      collected (members "shop.Till" "super.pay") .calls =
        [⟨.string "kiosk.pay", .string "pay", .calls⟩] ∧
      collected (members "shop.Till" "super.pay") .calls =
        collected (members "shop.Till" "super. pay") .calls :=
  ⟨respelled_pay, rfl, (collected_respelled_iff respelled_pay
    ((members "shop.Till" "super.pay").take 3) []
    ⟨.string "kiosk.pay", .string "method", .string "pay", ["pay"], []⟩ [] [] .calls).2.mpr
      (.inl rfl)⟩

/-- A space after the dot, and what is used, implemented and overridden is no longer found. -/
theorem spaced_symbols_lost :
    Respelled "shop.Till" "shop. Till" ∧ Respelled "super.pay" "super. pay" ∧
      ∀ relation, relation ≠ .calls →
        collected (members "shop.Till" "super.pay") relation ≠ [] ∧
        collected (members "shop. Till" "super. pay") relation = [] := by
  refine ⟨respelled_till, respelled_pay, fun relation hrelation => ?_⟩
  cases relation with
  | calls => exact absurd rfl hrelation
  | uses => exact ⟨List.cons_ne_nil _ _, rfl⟩
  | implements => exact ⟨List.cons_ne_nil _ _, rfl⟩
  | overrides => exact ⟨List.cons_ne_nil _ _, rfl⟩

end Kiosk

end CodeAtlas.Link
