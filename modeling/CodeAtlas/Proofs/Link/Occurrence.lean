import CodeAtlas.Graph.Query
import CodeAtlas.Proofs.Link.Index
import CodeAtlas.Proofs.Link.Order

/-! Which links the records of a project call for, said of the records alone. A link occurs at
a place: the number of its relation, of the record that it starts from, of the used symbol that
asks for it, and, where all matching records count and not the first one only, of the record
that it leads to and of the symbol defined there. What is collected are just these links, in the
order of their places. -/

namespace CodeAtlas.Link

open CodeAtlas.Graph (CodeRecord)

/-- A record as linking looks at it. -/
def Member.ofRecord (r : CodeRecord) : Member :=
  ⟨.string r.id, .string r.kind, .string r.name, r.defined, r.used⟩

/-- The link from one record to another. -/
def linkBetween (relation : Relation) (a b : CodeRecord) : SemanticLink :=
  ⟨.string a.id, .string b.id, relation⟩

/-- The record is of one of the kinds and defines a symbol with this normal form. -/
def Offers (kinds : List String) (symbol : String) (r : CodeRecord) : Prop :=
  r.kind ∈ kinds ∧ ∃ d ∈ r.defined, normalForm d = symbol

instance (kinds : List String) (symbol : String) (r : CodeRecord) :
    Decidable (Offers kinds symbol r) :=
  inferInstanceAs (Decidable (_ ∧ _))

/-- The first record that offers a symbol. -/
def IsFirst (rs : List CodeRecord) (kinds : List String) (symbol : String) (r : CodeRecord) : Prop :=
  ∃ before after, rs = before ++ r :: after ∧ Offers kinds symbol r ∧
    ∀ r' ∈ before, ¬ Offers kinds symbol r'

/-- The places of links. -/
inductive Occurs (rs : List CodeRecord) : List Nat → SemanticLink → Prop where
  /-- A function or method uses what a function or method is the first to define. -/
  | calls {i j : Nat} {a b : CodeRecord} {s : String} (ha : rs[i]? = some a)
    (hkind : a.kind ∈ ["function", "method"]) (hs : a.used[j]? = some s)
    (hb : IsFirst rs ["function", "method"] (normalForm s) b) (hne : b.id ≠ a.id) :
    Occurs rs [0, i, j] (linkBetween .calls a b)
  /-- Anything uses what something usable is the first to define. -/
  | uses {i j : Nat} {a b : CodeRecord} {s : String} (ha : rs[i]? = some a)
    (hs : a.used[j]? = some s)
    (hb : IsFirst rs ["class", "interface", "enum", "function", "method"] (lastPart s) b)
    (hne : b.id ≠ a.id) : Occurs rs [1, i, j] (linkBetween .uses a b)
  /-- A class uses what an interface defines. -/
  | implements {i j k l : Nat} {a b : CodeRecord} {s d : String} (ha : rs[i]? = some a)
    (hkind : a.kind = "class") (hs : a.used[j]? = some s) (hb : rs[k]? = some b)
    (hkind' : b.kind = "interface") (hd : b.defined[l]? = some d)
    (hmatch : normalForm d = lastPart s) : Occurs rs [2, i, j, k, l] (linkBetween .implements a b)
  /-- A method uses what a method of the same name defines. -/
  | overrides {i j k l : Nat} {a b : CodeRecord} {s d : String} (ha : rs[i]? = some a)
    (hkind : a.kind = "method") (hs : a.used[j]? = some s) (hb : rs[k]? = some b)
    (hkind' : b.kind = "method") (hname : b.name = a.name) (hd : b.defined[l]? = some d)
    (hmatch : normalForm d = lastPart s) : Occurs rs [3, i, j, k, l] (linkBetween .overrides a b)

/-! ### Kinds and candidates -/

theorem same_string {a b : String} : (Json.string a).same (.string b) = true ↔ a = b := by
  simp [Json.same]

theorem isOneOf_ofRecord (r : CodeRecord) (kinds : List String) :
    (Member.ofRecord r).isOneOf kinds = true ↔ r.kind ∈ kinds := by
  simp [Member.ofRecord, Member.isOneOf, Link.isOneOf]

/-- The first record is that of its own symbols, or else one of the others. -/
theorem isFirst_cons_iff {r r' : CodeRecord} {rs : List CodeRecord} {kinds : List String}
    {symbol : String} : IsFirst (r :: rs) kinds symbol r' ↔
      (Offers kinds symbol r ∧ r' = r) ∨ (¬ Offers kinds symbol r ∧ IsFirst rs kinds symbol r') := by
  constructor
  · rintro ⟨before, after, heq, hoffers, hnone⟩
    cases before with
    | nil =>
      obtain ⟨rfl, -⟩ := List.cons.inj heq
      exact .inl ⟨hoffers, rfl⟩
    | cons r₀ before =>
      obtain ⟨rfl, rfl⟩ := List.cons.inj heq
      exact .inr ⟨hnone r List.mem_cons_self, before, after, rfl, hoffers,
        fun r' h => hnone r' (List.mem_cons_of_mem _ h)⟩
  · rintro (⟨hoffers, rfl⟩ | ⟨hnot, before, after, rfl, hoffers, hnone⟩)
    · exact ⟨[], rs, rfl, hoffers, by simp⟩
    · refine ⟨r :: before, after, rfl, hoffers, fun r₀ h => ?_⟩
      rcases List.mem_cons.mp h with rfl | h
      · exact hnot
      · exact hnone r₀ h

theorem IsFirst.mem {rs : List CodeRecord} {kinds : List String} {symbol : String} {r : CodeRecord}
    (h : IsFirst rs kinds symbol r) : r ∈ rs := by
  obtain ⟨before, after, rfl, -⟩ := h
  simp

theorem IsFirst.offers {rs : List CodeRecord} {kinds : List String} {symbol : String}
    {r : CodeRecord} (h : IsFirst rs kinds symbol r) : Offers kinds symbol r := by
  obtain ⟨-, -, -, hoffers, -⟩ := h
  exact hoffers

/-- Where a symbol is offered, there is a first to offer it. -/
theorem exists_isFirst {rs : List CodeRecord} {kinds : List String} {symbol : String}
    {r : CodeRecord} (hr : r ∈ rs) (hoffers : Offers kinds symbol r) :
    ∃ r', IsFirst rs kinds symbol r' := by
  induction rs with
  | nil => cases hr
  | cons r₀ rs ih =>
    by_cases h : Offers kinds symbol r₀
    · exact ⟨r₀, isFirst_cons_iff.mpr (.inl ⟨h, rfl⟩)⟩
    · rcases List.mem_cons.mp hr with rfl | hr
      · exact absurd hoffers h
      · obtain ⟨r', hr'⟩ := ih hr
        exact ⟨r', isFirst_cons_iff.mpr (.inr ⟨h, hr'⟩)⟩

/-- A record is selected before those after it if it offers the symbol, and else not. -/
theorem select_candidates_cons (r : CodeRecord) (rs : List CodeRecord) (kinds : List String)
    (symbol : String) :
    select (candidates ((r :: rs).map Member.ofRecord) symbol) kinds =
      if Offers kinds symbol r then some (Member.ofRecord r)
      else select (candidates (rs.map Member.ofRecord) symbol) kinds := by
  rw [select, List.map_cons, candidates_cons, List.find?_append]
  have hown : ((Member.ofRecord r).defined.filter (normalForm · == symbol)).map
      (fun _ => Member.ofRecord r) =
        List.replicate (r.defined.filter (normalForm · == symbol)).length (Member.ofRecord r) := by
    rw [List.map_const']
    rfl
  rw [hown]
  by_cases hoffers : Offers kinds symbol r
  · obtain ⟨hkind, d, hd, hmatch⟩ := hoffers
    have hpos : 0 < (r.defined.filter (normalForm · == symbol)).length :=
      List.length_pos_of_mem (List.mem_filter.mpr ⟨hd, by simpa using hmatch⟩)
    rw [if_pos ⟨hkind, d, hd, hmatch⟩, List.find?_replicate_of_length_pos hpos,
      if_pos ((isOneOf_ofRecord r kinds).mpr hkind)]
    rfl
  · rw [if_neg hoffers]
    have hnone : (List.replicate (r.defined.filter (normalForm · == symbol)).length
        (Member.ofRecord r)).find? (·.isOneOf kinds) = none := by
      rw [List.find?_eq_none]
      intro m hm hkind
      obtain ⟨hne, rfl⟩ := List.mem_replicate.mp hm
      obtain ⟨d, hd⟩ := List.exists_mem_of_length_pos (Nat.pos_of_ne_zero hne)
      obtain ⟨hmem, hmatch⟩ := List.mem_filter.mp hd
      exact hoffers ⟨(isOneOf_ofRecord r kinds).mp hkind, d, hmem, by simpa using hmatch⟩
    rw [hnone]
    rfl

/-- What is selected among the candidates is the first record that offers the symbol. -/
theorem select_candidates_iff {rs : List CodeRecord} {kinds : List String} {symbol : String}
    {m : Member} : select (candidates (rs.map Member.ofRecord) symbol) kinds = some m ↔
      ∃ r, IsFirst rs kinds symbol r ∧ m = Member.ofRecord r := by
  induction rs with
  | nil => simp [select, IsFirst]
  | cons r rs ih =>
    rw [select_candidates_cons]
    by_cases hoffers : Offers kinds symbol r
    · simp [hoffers, isFirst_cons_iff, eq_comm]
    · simp [hoffers, isFirst_cons_iff, ih]

theorem linkToFirst_iff {rs : List CodeRecord} {relation : Relation} {kinds : List String}
    {a : CodeRecord} {symbol : String} {l : SemanticLink} :
    linkToFirst (rs.map Member.ofRecord) relation kinds (Member.ofRecord a) symbol = some l ↔
      ∃ b, IsFirst rs kinds symbol b ∧ b.id ≠ a.id ∧ l = linkBetween relation a b := by
  have hselect := @select_candidates_iff rs kinds symbol
  unfold linkToFirst
  cases h : select (candidates (rs.map Member.ofRecord) symbol) kinds with
  | none =>
    constructor
    · exact fun hl => by cases hl
    · rintro ⟨b, hb, -⟩
      rw [hselect.mpr ⟨b, hb, rfl⟩] at h
      cases h
  | some m =>
    obtain ⟨b, hb, rfl⟩ := hselect.mp h
    have hunique : ∀ b', IsFirst rs kinds symbol b' → Member.ofRecord b' = Member.ofRecord b := by
      intro b' hb'
      have := hselect.mpr ⟨b', hb', rfl⟩
      rw [h] at this
      exact (Option.some.inj this).symm
    have hid : ∀ b', IsFirst rs kinds symbol b' → b'.id = b.id :=
      fun b' hb' => Json.string.inj (congrArg Member.id (hunique b' hb'))
    simp only [Member.ofRecord, same_string]
    constructor
    · intro hl
      split at hl
      · cases hl
      next hne => exact ⟨b, hb, hne, (Option.some.inj hl).symm⟩
    · rintro ⟨b', hb', hne, rfl⟩
      rw [hid b' hb'] at hne
      rw [if_neg hne, linkBetween, hid b' hb']

/-- One record's part of the candidates that pass a test: all of it or nothing. -/
theorem own_candidates_filter_map {γ : Type} (ds : List String) (m : Member) (symbol : String)
    (test : Member → Bool) (f : Member → γ) :
    (((ds.filter (normalForm · == symbol)).map fun _ => m).filter test).map f =
      if test m = true then ds.filterMap fun d => if normalForm d = symbol then some (f m) else none
      else [] := by
  induction ds with
  | nil => simp
  | cons d ds ih =>
    by_cases hd : normalForm d = symbol <;> by_cases ht : test m = true <;> simp_all

/-- The candidates that pass a test, record by record and symbol by symbol. -/
theorem candidates_filter_map {γ : Type} (rs : List CodeRecord) (symbol : String)
    (test : Member → Bool) (f : Member → γ) :
    ((candidates (rs.map Member.ofRecord) symbol).filter test).map f =
      (rs.filter fun r => test (.ofRecord r)).flatMap fun r => r.defined.filterMap fun d =>
        if normalForm d = symbol then some (f (.ofRecord r)) else none := by
  induction rs with
  | nil => rfl
  | cons r rs ih =>
    rw [List.map_cons, candidates_cons, List.filter_append, List.map_append, ih,
      own_candidates_filter_map, List.filter_cons]
    by_cases htest : test (Member.ofRecord r) = true
    · rw [if_pos htest, if_pos htest, List.flatMap_cons]
      rfl
    · rw [if_neg htest, if_neg htest, List.nil_append]

/-! ### One relation after another -/

section Relations
variable (rs : List CodeRecord)

/-- A loop over records as members is one over records. -/
theorem filter_flatMap_ofRecord {γ : Type} (test : Member → Bool) (f : Member → List γ) :
    ((rs.map Member.ofRecord).filter test).flatMap f =
      (rs.filter fun r => test (.ofRecord r)).flatMap fun r => f (.ofRecord r) := by
  rw [List.filter_map, List.flatMap_map]
  rfl

theorem listsInOrder_calls :
    ListsInOrder (calls (rs.map Member.ofRecord)) fun q l => Occurs rs (0 :: q) l := by
  rw [calls, filter_flatMap_ofRecord]
  refine (listsInOrder_filter_flatMap rs _ fun a => listsInOrder_filterMap a.used _).congr ?_
  intro q l
  constructor
  · rintro ⟨i, a, _, ha, rfl, hkind, j, s, hs, rfl, hl⟩
    obtain ⟨b, hb, hne, rfl⟩ := linkToFirst_iff.mp hl
    exact .calls ha ((isOneOf_ofRecord a _).mp hkind) hs hb hne
  · intro h
    cases h with
    | @calls i j a b s ha hkind hs hb hne =>
      exact ⟨i, a, [j], ha, rfl, (isOneOf_ofRecord a _).mpr hkind, j, s, hs, rfl,
        linkToFirst_iff.mpr ⟨b, hb, hne, rfl⟩⟩

theorem listsInOrder_usages :
    ListsInOrder (usages (rs.map Member.ofRecord)) fun q l => Occurs rs (1 :: q) l := by
  rw [usages, List.flatMap_map]
  refine (listsInOrder_flatMap rs fun a => listsInOrder_filterMap a.used _).congr ?_
  intro q l
  constructor
  · rintro ⟨i, a, _, ha, rfl, j, s, hs, rfl, hl⟩
    obtain ⟨b, hb, hne, rfl⟩ := linkToFirst_iff.mp hl
    exact .uses ha hs hb hne
  · intro h
    cases h with
    | @uses i j a b s ha hs hb hne =>
      exact ⟨i, a, [j], ha, rfl, j, s, hs, rfl, linkToFirst_iff.mpr ⟨b, hb, hne, rfl⟩⟩

/-- Links to all candidates that pass a test. -/
theorem listsInOrder_candidates (symbol : String) (test : Member → Bool)
    (f : Member → SemanticLink) :
    ListsInOrder (((candidates (rs.map Member.ofRecord) symbol).filter test).map f) fun p l =>
      ∃ k b r, rs[k]? = some b ∧ p = k :: r ∧ test (.ofRecord b) = true ∧
        ∃ n d, b.defined[n]? = some d ∧ r = [n] ∧
          (if normalForm d = symbol then some (f (.ofRecord b)) else none) = some l := by
  rw [candidates_filter_map]
  exact listsInOrder_filter_flatMap rs _ fun b => listsInOrder_filterMap b.defined _

theorem listsInOrder_implementations :
    ListsInOrder (implementations (rs.map Member.ofRecord)) fun q l => Occurs rs (2 :: q) l := by
  rw [implementations, filter_flatMap_ofRecord]
  refine (listsInOrder_filter_flatMap rs _ fun a => listsInOrder_flatMap a.used fun s =>
    listsInOrder_candidates rs (lastPart s) _ _).congr ?_
  intro q l
  constructor
  · rintro ⟨i, a, _, ha, rfl, hkind, j, s, _, hs, rfl, k, b, _, hb, rfl, hkind', n, d, hd, rfl, hl⟩
    split at hl
    next hmatch =>
      obtain rfl := Option.some.inj hl
      exact .implements ha (List.mem_singleton.mp ((isOneOf_ofRecord a _).mp hkind)) hs hb
        (List.mem_singleton.mp ((isOneOf_ofRecord b _).mp hkind')) hd hmatch
    next => cases hl
  · intro h
    cases h with
    | @implements i j k n a b s d ha hkind hs hb hkind' hd hmatch =>
      exact ⟨i, a, _, ha, rfl, (isOneOf_ofRecord a _).mpr (by simp [hkind]), j, s, _, hs, rfl, k, b, _,
        hb, rfl, (isOneOf_ofRecord b _).mpr (by simp [hkind']), n, d, hd, rfl, if_pos hmatch⟩

theorem listsInOrder_overridings :
    ListsInOrder (overridings (rs.map Member.ofRecord)) fun q l => Occurs rs (3 :: q) l := by
  rw [overridings, filter_flatMap_ofRecord]
  refine (listsInOrder_filter_flatMap rs _ fun a => listsInOrder_flatMap a.used fun s =>
    listsInOrder_candidates rs (lastPart s) _ _).congr ?_
  have hname : ∀ a b : CodeRecord,
      (Member.ofRecord b).name.same (Member.ofRecord a).name = true ↔ b.name = a.name := by
    intro a b
    simp [Member.ofRecord, same_string]
  intro q l
  constructor
  · rintro ⟨i, a, _, ha, rfl, hkind, j, s, _, hs, rfl, k, b, _, hb, rfl, htest, n, d, hd, rfl, hl⟩
    obtain ⟨hkind', hsame⟩ := (Bool.and_eq_true ..).mp htest
    split at hl
    next hmatch =>
      obtain rfl := Option.some.inj hl
      exact .overrides ha (List.mem_singleton.mp ((isOneOf_ofRecord a _).mp hkind)) hs hb
        (List.mem_singleton.mp ((isOneOf_ofRecord b _).mp hkind')) ((hname a b).mp hsame) hd hmatch
    next => cases hl
  · intro h
    cases h with
    | @overrides i j k n a b s d ha hkind hs hb hkind' hsame hd hmatch =>
      have htest : ((Member.ofRecord b).isOneOf ["method"] &&
          (Member.ofRecord b).name.same (Member.ofRecord a).name) = true :=
        (Bool.and_eq_true ..).mpr
          ⟨(isOneOf_ofRecord b _).mpr (by simp [hkind']), (hname a b).mpr hsame⟩
      exact ⟨i, a, _, ha, rfl, (isOneOf_ofRecord a _).mpr (by simp [hkind]), j, s, _, hs, rfl, k, b, _,
        hb, rfl, htest, n, d, hd, rfl, if_pos hmatch⟩

/-- What is collected for a relation. -/
def collected (ms : List Member) : Relation → List SemanticLink
  | .calls => calls ms
  | .uses => usages ms
  | .implements => implementations ms
  | .overrides => overridings ms

/-- The number of a relation, in the order in which links are collected. -/
def Relation.number : Relation → Nat
  | .calls => 0
  | .uses => 1
  | .implements => 2
  | .overrides => 3

theorem listsInOrder_collected (relation : Relation) :
    ListsInOrder (collected (rs.map Member.ofRecord) relation) fun q l =>
      Occurs rs (relation.number :: q) l := by
  cases relation with
  | calls => exact listsInOrder_calls rs
  | uses => exact listsInOrder_usages rs
  | implements => exact listsInOrder_implementations rs
  | overrides => exact listsInOrder_overridings rs

/-- All links, with their places. -/
theorem listsInOrder_all : ListsInOrder (all (rs.map Member.ofRecord)) (Occurs rs) := by
  have heq : all (rs.map Member.ofRecord) =
      [.calls, .uses, .implements, .overrides].flatMap (collected (rs.map Member.ofRecord)) := by
    simp [all, collected]
  rw [heq]
  refine (listsInOrder_flatMap _ fun relation => listsInOrder_collected rs relation).congr ?_
  intro p l
  constructor
  · rintro ⟨i, relation, q, hi, rfl, hoccurs⟩
    match i with
    | 0 | 1 | 2 | 3 =>
      obtain rfl := Option.some.inj hi
      exact hoccurs
  · intro h
    cases h with
    | calls ha hkind hs hb hne => exact ⟨0, .calls, _, rfl, rfl, .calls ha hkind hs hb hne⟩
    | uses ha hs hb hne => exact ⟨1, .uses, _, rfl, rfl, .uses ha hs hb hne⟩
    | implements ha hkind hs hb hkind' hd hmatch =>
      exact ⟨2, .implements, _, rfl, rfl, .implements ha hkind hs hb hkind' hd hmatch⟩
    | overrides ha hkind hs hb hkind' hname hd hmatch =>
      exact ⟨3, .overrides, _, rfl, rfl, .overrides ha hkind hs hb hkind' hname hd hmatch⟩

end Relations

end CodeAtlas.Link
