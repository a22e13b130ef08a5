import CodeAtlas.Proofs.Chat.Parts
import CodeAtlas.Proofs.Decimal.Rounding
import CodeAtlas.Proofs.Outcome
import Mathlib.Tactic.IntervalCases

/-! The files that an answer from retrieved code shows are the nearest of those that the vector
database found. Its columns are read side by side; what stands at one place stays together. The
order is by distance, and by place where distances are equal, so that it is one order. -/

namespace CodeAtlas.Chat

open Dialogue

/-! ### Columns read side by side -/

section Columns
variable {answer : Json} {texts abouts distances : List Json}

/-- The columns of an answer. -/
structure Columns (answer : Json) (texts abouts distances : List Json) : Prop where
  texts : (column answer "documents").bind Json.itemsIn = .ok texts
  abouts : (column answer "metadatas").bind Json.itemsIn = .ok abouts
  distances : (column answer "distances").bind Json.itemsIn = .ok distances

/-- The hits of three columns. -/
def sideBySide (texts abouts distances : List Json) : List (Hit Json) :=
  (texts.zip (abouts.zip distances)).map fun (t, a, d) => ⟨t, a, d⟩

/-- The length of the shortest column. -/
def shortest (texts abouts distances : List Json) : Nat :=
  min texts.length (min abouts.length distances.length)

theorem length_sideBySide : (sideBySide texts abouts distances).length =
    shortest texts abouts distances := by
  rw [sideBySide, List.length_map, List.length_zip, List.length_zip, shortest]

/-- What stands at one place stays together. -/
theorem getElem?_sideBySide {i : Nat} {h : Hit Json}
    (hi : (sideBySide texts abouts distances)[i]? = some h) :
    texts[i]? = some h.text ∧ abouts[i]? = some h.about ∧ distances[i]? = some h.distance := by
  rw [sideBySide, List.getElem?_map, Option.map_eq_some_iff] at hi
  obtain ⟨⟨t, a, d⟩, htriple, rfl⟩ := hi
  rw [List.getElem?_zip_eq_some] at htriple
  obtain ⟨ht, hrest⟩ := htriple
  rw [List.getElem?_zip_eq_some] at hrest
  exact ⟨ht, hrest⟩

theorem distance_mem_take {i : Nat} {d : Json} (hi : i < shortest texts abouts distances)
    (hd : distances[i]? = some d) : d ∈ distances.take (shortest texts abouts distances) := by
  refine List.mem_of_getElem? (i := i) ?_
  rw [List.getElem?_take, if_pos hi, hd]

theorem map_distance_sideBySide_subset :
    (sideBySide texts abouts distances).map (·.distance) ⊆
      distances.take (shortest texts abouts distances) := by
  intro d hd
  obtain ⟨h, hh, rfl⟩ := List.mem_map.mp hd
  obtain ⟨i, hi⟩ := List.getElem?_of_mem hh
  obtain ⟨hlt, -⟩ := List.getElem?_eq_some_iff.mp hi
  rw [length_sideBySide] at hlt
  exact distance_mem_take hlt (getElem?_sideBySide hi).2.2

theorem Columns.hitsIn_eq (h : Columns answer texts abouts distances) :
    hitsIn answer = .ok (sideBySide texts abouts distances) := by
  obtain ⟨t, ht, hts⟩ := bind_eq_ok_iff.mp h.texts
  obtain ⟨a, ha, has⟩ := bind_eq_ok_iff.mp h.abouts
  obtain ⟨d, hd, hds⟩ := bind_eq_ok_iff.mp h.distances
  rw [hitsIn, ht, ha, hd]
  change (t.itemsIn >>= fun _ => _) = _
  rw [hts, has, hds]
  rfl

end Columns

/-! ### The order of hits -/

section Order
variable {ω : Type} [LinearOrder ω] {point : Json → ω}

/-- The values compare as their points do. -/
def Measures (point : Json → ω) (values : List Json) : Prop :=
  ∀ a ∈ values, ∀ b ∈ values, Json.compare? a b = some (compare (point a) (point b))

theorem Measures.mono {values values' : List Json} (h : Measures point values)
    (hsub : values' ⊆ values) : Measures point values' :=
  fun a ha b hb => h a (hsub ha) b (hsub hb)

theorem Measures.isLe_eq {values : List Json} (h : Measures point values) {a b : Json}
    (ha : a ∈ values) (hb : b ∈ values) : Json.isLe a b = decide (point a ≤ point b) := by
  rw [Json.isLe, h a ha b hb]
  rcases lt_trichotomy (point a) (point b) with hlt | heq | hgt
  · rw [compare_lt_iff_lt.mpr hlt, decide_eq_true hlt.le]
  · rw [compare_eq_iff_eq.mpr heq, decide_eq_true heq.le]
  · rw [compare_gt_iff_gt.mpr hgt, decide_eq_false hgt.not_ge]

theorem Measures.areOrdered {values : List Json} (h : Measures point values) :
    Json.areOrdered values = true := by
  induction values with
  | nil => rfl
  | cons v values ih =>
    rw [Json.areOrdered, Bool.and_eq_true, List.all_eq_true]
    refine ⟨fun b hb => ?_, ih (h.mono (List.subset_cons_self v values))⟩
    rw [h v List.mem_cons_self b (List.mem_cons_of_mem v hb)]
    rfl

/-- Hits with their places, the nearest first and hits of one distance by place. -/
structure Ranking (point : Json → ω) (texts abouts distances : List Json)
    (ranked : List (Hit Json × Nat)) : Prop where
  places : (ranked.map (·.2)).Perm (List.range (shortest texts abouts distances))
  together : ∀ p ∈ ranked, texts[p.2]? = some p.1.text ∧ abouts[p.2]? = some p.1.about ∧
    distances[p.2]? = some p.1.distance
  ascending : ranked.Pairwise fun p r =>
    point p.1.distance < point r.1.distance ∨
      point p.1.distance = point r.1.distance ∧ p.2 < r.2

def isNearer (point : Json → ω) (a b : Hit Json) : Bool :=
  decide (point a.distance ≤ point b.distance)

/-- The hits with their places, in order. -/
def rankedBy (point : Json → ω) (hits : List (Hit Json)) : List (Hit Json × Nat) :=
  hits.zipIdx.mergeSort (List.zipIdxLE (isNearer point))

theorem places_rankedBy (hits : List (Hit Json)) :
    ((rankedBy point hits).map (·.2)).Perm (List.range hits.length) := by
  have hzip : hits.zipIdx.map (·.2) = List.range hits.length := by
    rw [List.zipIdx_map_snd, List.range_eq_range']
  rw [← hzip]
  exact (List.mergeSort_perm _ _).map _

theorem pairwise_rankedBy (hits : List (Hit Json)) :
    (rankedBy point hits).Pairwise fun p r =>
      point p.1.distance < point r.1.distance ∨
        point p.1.distance = point r.1.distance ∧ p.2 < r.2 := by
  have htrans (a b c : Hit Json) (hab : isNearer point a b) (hbc : isNearer point b c) :
      isNearer point a c :=
    decide_eq_true ((of_decide_eq_true hab).trans (of_decide_eq_true hbc))
  have htotal (a b : Hit Json) : isNearer point a b || isNearer point b a := by
    simpa [isNearer] using le_total (point a.distance) (point b.distance)
  have hsorted := List.pairwise_mergeSort (List.zipIdxLE_trans htrans)
    (List.zipIdxLE_total htotal) hits.zipIdx
  have hplaces : ((rankedBy point hits).map (·.2)).Nodup :=
    (places_rankedBy hits).nodup_iff.mpr List.nodup_range
  -- No two hits have the same place, so a tie is broken.
  refine (hsorted.and (List.pairwise_map.mp hplaces)).imp ?_
  rintro p r ⟨hle, hne⟩
  simp only [List.zipIdxLE, isNearer, decide_eq_true_eq] at hle
  split_ifs at hle with hpr hrp
  · exact .inr ⟨le_antisymm hpr hrp, lt_of_le_of_ne (of_decide_eq_true hle) hne⟩
  · exact .inl (not_le.mp hrp)

theorem ranking_rankedBy (texts abouts distances : List Json) :
    Ranking point texts abouts distances (rankedBy point (sideBySide texts abouts distances)) where
  places := by
    rw [← length_sideBySide]
    exact places_rankedBy _
  together p hp := by
    have hzip : p ∈ (sideBySide texts abouts distances).zipIdx :=
      (List.mergeSort_perm _ _).mem_iff.mp hp
    exact getElem?_sideBySide (List.mem_zipIdx_iff_getElem?.mp hzip)
  ascending := pairwise_rankedBy _

theorem rank_eq {hits : List (Hit Json)} (h : Measures point (hits.map (·.distance))) :
    rank hits = .ok (((rankedBy point hits).take maxHits).map (·.1)) := by
  have hle : ∀ a ∈ hits, ∀ b ∈ hits, Json.isLe a.distance b.distance = isNearer point a b :=
    fun a ha b hb => h.isLe_eq (List.mem_map_of_mem ha) (List.mem_map_of_mem hb)
  have hsort : hits.mergeSort (fun a b => Json.isLe a.distance b.distance) =
      hits.mergeSort (isNearer point) := by
    simpa only [List.map_id] using List.map_mergeSort (f := id) hle
  rw [rank, if_pos h.areOrdered, nearest, hsort, ← List.mergeSort_zipIdx, ← List.map_take]
  rfl

/-- Values that are finite numbers are in the order of these. -/
theorem Measures.le_of_rational {values : List Json} (h : Measures point values) {a b : Json}
    (ha : a ∈ values) (hb : b ∈ values) {x y : ℚ} (hx : a.rational? = some x)
    (hy : b.rational? = some y) (hle : point a ≤ point b) : x ≤ y := by
  have hsame : compare (point a) (point b) = compare x y :=
    Option.some.inj ((h a ha b hb).symm.trans (Json.compare?_of_rational hx hy))
  by_contra hlt
  rw [compare_gt_iff_gt.mpr (not_le.mp hlt), compare_gt_iff_gt] at hsame
  exact hle.not_gt hsame

/-- Finite numbers come from a total order. -/
theorem measures_rational {values : List Json} (h : ∀ v ∈ values, v.rational?.isSome) :
    Measures (fun v => v.rational?.getD 0) values := by
  intro a ha b hb
  obtain ⟨x, hx⟩ := Option.isSome_iff_exists.mp (h a ha)
  obtain ⟨y, hy⟩ := Option.isSome_iff_exists.mp (h b hb)
  simpa only [hx, hy, Option.getD_some] using Json.compare?_of_rational hx hy

theorem nearness_pos {x : ℚ} (hx : 0 ≤ x) : 0 < nearness x := by
  rw [nearness]
  positivity

theorem nearness_le_one {x : ℚ} (hx : 0 ≤ x) : nearness x ≤ 1 := by
  rw [nearness, div_le_one (by positivity)]
  linarith

theorem nearness_antitone {x y : ℚ} (hx : 0 ≤ x) (hxy : x ≤ y) : nearness y ≤ nearness x := by
  rw [nearness, nearness]
  gcongr

end Order

/-! ### Relevances -/

section Relevance
open Decimal
variable {x : ℚ}

/-- A double from zero to one that is a number but for the rounding of a sum and a quotient. -/
def IsAbout (f : Float) (x : ℚ) : Prop :=
  ∃ r, (Binary.ofFloat f).rational? = some r ∧ 0 ≤ r ∧ r ≤ 1 ∧
    |r - x| ≤ 2 ^ (-51 : Int) * x + 2 ^ (-1075 : Int)

theorem one_le_top : 1 ≤ top :=
  le_top rational?_one

theorem isAbout_ofRat {n : Int} (hn : 0 ≤ n) :
    IsAbout (ofRat (nearness (n : ℚ))) (nearness (n : ℚ)) := by
  obtain ⟨k, rfl⟩ := Int.eq_ofNat_of_zero_le hn
  have hinv : nearness (((k : Int) : Int) : ℚ) = ((k + 1 : Nat) : ℚ)⁻¹ := by
    rw [nearness, one_div, add_comm]
    push_cast
    rfl
  have hone : ((1 : Nat) : ℚ) / (k + 1 : Nat) = nearness (((k : Int) : Int) : ℚ) := by
    rw [hinv, Nat.cast_one, one_div]
  have hratio : ofRat (nearness (((k : Int) : Int) : ℚ)) = ratio 1 (k + 1) := by
    rw [ofRat, hinv, Rat.inv_natCast_num_of_pos k.succ_pos, Rat.inv_natCast_den_of_pos k.succ_pos]
    rfl
  have hpos := nearness_pos (Int.cast_nonneg hn (R := ℚ))
  have hle := nearness_le_one (Int.cast_nonneg hn (R := ℚ))
  obtain ⟨r, hr, hnonneg, hnearest⟩ := ratio_nearest Nat.one_pos k.succ_pos
    (by rw [hone]; linarith [one_le_top])
  rw [hone] at hnearest
  rw [hratio]
  refine ⟨r, hr, hnonneg, hnearest.le_one hle, hnearest.close.trans ?_⟩
  gcongr
  · norm_num
  · norm_num

/-- The inverse of what is off by little is off by little. -/
theorem abs_inverse_sub_le {s z u : ℚ} (hs : 0 < s) (hz : 0 < z) (h : |z - s| ≤ 2 * u * s) :
    |1 / z - 1 / s| ≤ 2 * u * (1 / z) := by
  rw [div_sub_div _ _ hz.ne' hs.ne', abs_div, abs_of_pos (mul_pos hz hs),
    div_le_iff₀ (mul_pos hz hs), one_mul, mul_one, abs_sub_comm]
  calc |z - s| ≤ 2 * u * s := h
    _ = 2 * u * (1 / z) * (z * s) := by field_simp

/-- Of a double neither the sum nor the quotient misses much. -/
theorem isAbout_nearness {d : Float} (hx : (Binary.ofFloat d).rational? = some x) (h0 : 0 ≤ x) :
    (∃ z, (Binary.ofFloat (1 + d)).rational? = some z ∧ 1 ≤ z) ∧
      IsAbout (nearness d) (nearness x) := by
  have hs : 1 ≤ 1 + x := le_add_of_nonneg_right h0
  obtain ⟨z, hz, -, hsum⟩ := add_nearest rational?_one hx one_pos h0 (by linarith [le_top hx])
  have hz1 : 1 ≤ z := hsum.one_le hs
  have hinverse : 1 / z ≤ 1 := (div_le_one (by linarith)).mpr hz1
  obtain ⟨r, hr, hnonneg, hquotient⟩ := div_nearest rational?_one hz one_pos (by linarith)
    (by linarith [one_le_top])
  refine ⟨⟨z, hz, hz1⟩, r, hr, hnonneg, hquotient.le_one hinverse, ?_⟩
  have hu : (2 : ℚ) ^ (-51 : Int) = 4 * 2 ^ (-53 : Int) := by norm_num
  have htiny : (2 : ℚ) ^ (-1075 : Int) ≤ 2 ^ (-53 : Int) :=
    zpow_le_zpow_right₀ one_le_two (by decide)
  have hsmall : (2 : ℚ) ^ (-53 : Int) ≤ 1 / 8 := by norm_num
  have hpos : (0 : ℚ) < 2 ^ (-53 : Int) := by positivity
  have hclose := hsum.close
  have hclose' := hquotient.close
  rw [hu]
  generalize (2 : ℚ) ^ (-53 : Int) = u at *
  generalize (2 : ℚ) ^ (-1075 : Int) = tiny at *
  have hoff : |z - (1 + x)| ≤ 2 * u * (1 + x) := by nlinarith
  have hnot : 3 / 4 * (1 + x) ≤ z := by nlinarith [(abs_le.mp hoff).1]
  have hscale : 1 / z ≤ 4 / 3 * nearness x := by
    calc 1 / z ≤ 1 / (3 / 4 * (1 + x)) := one_div_le_one_div_of_le (by linarith) hnot
      _ = 4 / 3 * nearness x := by
          rw [nearness]
          field_simp
  calc |r - nearness x| ≤ |r - 1 / z| + |1 / z - nearness x| := abs_sub_le _ _ _
    _ ≤ u * (1 / z) + tiny + 2 * u * (1 / z) :=
        add_le_add hclose' (abs_inverse_sub_le (by linarith) (by linarith) hoff)
    _ = 3 * u * (1 / z) + tiny := by ring
    _ ≤ 3 * u * (4 / 3 * nearness x) + tiny := by gcongr
    _ = 4 * u * nearness x + tiny := by ring

/-- The relevance of an exact distance that is not negative is its nearness. -/
theorem relevance_eq_ok {distance : Json} (hx : distance.rational? = some x) (h0 : 0 ≤ x) :
    ∃ f, relevance distance = .ok f ∧ IsAbout f (nearness x) := by
  obtain ⟨n, hn, rfl⟩ | ⟨d, rfl, hd⟩ := Json.rational?_eq_some hx
  · have hn0 : 0 ≤ n := Int.cast_nonneg_iff.mp h0
    refine ⟨_, ?_, isAbout_ofRat hn0⟩
    simp only [relevance, hn]
    rw [if_neg (by omega)]
  · obtain ⟨⟨z, hz, hz1⟩, habout⟩ := isAbout_nearness hd h0
    have hsum : (1.0 + d == 0.0) = false := by
      have hzero : (Binary.ofFloat 0.0).rational? = some 0 := by
        have hparts : Binary.ofFloat 0.0 = .finite false 0 (-1074) false := by decide +kernel
        rw [hparts, Binary.rational?, scaled_false, Nat.cast_zero, zero_mul]
      have hone : (1.0 : Float) = 1 := rfl
      rw [hone, ← Bool.not_eq_true, Json.float_beq_iff, Json.compare_unpack hz hzero,
        Option.some.injEq, compare_eq_iff_eq]
      linarith
    refine ⟨_, ?_, habout⟩
    simp only [relevance, Json.whole?, Json.number?, hsum]
    rfl

theorem isAbout_of_relevance {distance : Json} {f : Float} (hf : relevance distance = .ok f)
    (hx : distance.rational? = some x) (h0 : 0 ≤ x) : IsAbout f (nearness x) := by
  obtain ⟨g, hg, habout⟩ := relevance_eq_ok hx h0
  cases hf.symm.trans hg
  exact habout

end Relevance

/-! ### What is shown of a hit -/

/-- The file of a hit. A description with no language is not shown. -/
structure Shows (h : Hit Json) (file : RetrievedFile) : Prop where
  path : describe h.about "file_path" = .ok (.string file.path)
  language : ∃ v, describe h.about "language" = .ok v
  content : codeOf h.text = .ok (.string file.content)
  relevance : relevance h.distance = .ok file.relevance
  nearness : ∀ x, h.distance.rational? = some x → 0 ≤ x → IsAbout file.relevance (nearness x)

theorem shows_iff {h : Hit Json} {file : RetrievedFile} :
    Shows h file ↔ ∃ block, present h = .ok (file, block) := by
  constructor
  · rintro ⟨hpath, ⟨v, hv⟩, hcontent, hrelevance, -⟩
    rw [present, hpath, hcontent, hrelevance]
    change ∃ block, (describe h.about "language" >>= fun _ => _) = _
    rw [hv]
    exact ⟨_, rfl⟩
  · rintro ⟨block, hpresent⟩
    obtain ⟨path, hpath, hpresent⟩ := bind_eq_ok_iff.mp hpresent
    obtain ⟨content, hcontent, hpresent⟩ := bind_eq_ok_iff.mp hpresent
    obtain ⟨r, hr, hpresent⟩ := bind_eq_ok_iff.mp hpresent
    split at hpresent
    · obtain ⟨v, hv, hpresent⟩ := bind_eq_ok_iff.mp hpresent
      cases hpresent
      exact ⟨hpath, ⟨v, hv⟩, hcontent, hr, fun _ => isAbout_of_relevance hr⟩
    · cases hpresent

section HandsOut
variable {σ : Type} {world : World σ} {q : Question} {intent : Intent} {s t : σ}

/-- Both ways to answer show the files of these hits, one by one, or fail alike because one of
them cannot be shown. Without any the answer declines. -/
def HandsOut (world : World σ) (q : Question) (intent : Intent) (s : σ) (hits : List (Hit Json)) :
    Prop :=
  (∃ files, List.Forall₂ Shows hits files ∧
    (if files = [] then (view world (answerByRetrieval q intent) s).Declines
      else (view world (answerByRetrieval q intent) s).BeginsWith
        (.metadata intent (some files) none)) ∧
    ∃ text t, (retrievalContext q).run world s = (.ok (text, files), t)) ∨
  ∃ h ∈ hits, (∀ file, ¬ Shows h file) ∧ ∃ e t, present h = .error e ∧
    (view world (answerByRetrieval q intent) s).FailsFirst e ∧
    (retrievalContext q).run world s = (.error e, t)

theorem run_retrieve {answer : Json}
    (hanswer : world (.nearest .code (.string q.prompt) (.int 30) (projectFilter q)) s =
      (.ok answer, t)) :
    (retrieve q).run world s = (presentAll answer, t) := by
  have hasked := run_bind_of_ok world ((run_request world s _).trans hanswer)
    fun answer : Json => ofExcept (presentAll answer)
  exact hasked.trans (run_ofExcept world t _)

theorem presentAll_eq {answer : Json} {hits kept : List (Hit Json)}
    (hhits : hitsIn answer = .ok hits) (hkept : rank hits = .ok kept) :
    presentAll answer =
      (kept.mapM present).map fun shown => (shown.map (·.1), shown.map (·.2)) := by
  rw [presentAll, hhits]
  change (rank hits >>= fun _ => _) = _
  rw [hkept]
  rfl

theorem handsOut_of_run (htakes : TakesLines world) {kept : List (Hit Json)}
    (hrun : (retrieve q).run world s =
      ((kept.mapM present).map fun shown => (shown.map (·.1), shown.map (·.2)), t)) :
    HandsOut world q intent s kept := by
  cases hshown : kept.mapM present with
  | error e =>
    rw [hshown] at hrun
    obtain ⟨h, hmem, herror⟩ := exists_of_mapM_error hshown
    refine .inr ⟨h, hmem, fun file hfile => ?_, e, t, herror, ?_, retrievalContext_error hrun⟩
    · obtain ⟨block, hok⟩ := shows_iff.mp hfile
      rw [herror] at hok
      cases hok
    · rw [view_retrieval_error hrun]
      exact ⟨rfl, rfl⟩
  | ok shown =>
    rw [hshown] at hrun
    obtain ⟨text, t', hcontext, -⟩ := retrievalContext_ok hrun
    refine .inl ⟨shown.map (·.1), ?_, ?_, text, t', hcontext⟩
    · rw [List.forall₂_map_right_iff]
      exact (forall₂_of_mapM hshown).imp fun h shown hok => shows_iff.mpr ⟨shown.2, hok⟩
    · split_ifs with hnone
      · change (retrieve q).run world s = (.ok (shown.map (·.1), _), t) at hrun
        rw [hnone] at hrun
        rw [view_retrieval_nil hrun]
        exact (view_refuse world t).1
      · rw [view_retrieval_files hrun hnone]
        exact (view_answer htakes _ _ _ t).1

end HandsOut

/-! ### The nearest ten -/

section Ranking
variable {ω : Type} [LinearOrder ω] {point : Json → ω} {texts abouts distances : List Json}
  {ranked : List (Hit Json × Nat)} (hranking : Ranking point texts abouts distances ranked)
include hranking

namespace Ranking

theorem length_eq : ranked.length = shortest texts abouts distances := by
  simpa using hranking.places.length_eq

theorem place_lt {p : Hit Json × Nat} (hp : p ∈ ranked) :
    p.2 < shortest texts abouts distances :=
  List.mem_range.mp (hranking.places.mem_iff.mp (List.mem_map_of_mem hp))

theorem distance_mem {p : Hit Json × Nat} (hp : p ∈ ranked) :
    p.1.distance ∈ distances.take (shortest texts abouts distances) :=
  distance_mem_take (hranking.place_lt hp) (hranking.together p hp).2.2

theorem sorted : ranked.Pairwise fun p r => point p.1.distance ≤ point r.1.distance :=
  hranking.ascending.imp fun h => h.elim le_of_lt fun heq => heq.1.le

/-- There is one order of the places. -/
theorem places_eq (key : Nat → ω) (hkey : ∀ p ∈ ranked, point p.1.distance = key p.2)
    {places : List Nat} (hperm : places.Perm (List.range (shortest texts abouts distances)))
    (hsorted : places.Pairwise fun i j => key i < key j ∨ key i = key j ∧ i < j) :
    ranked.map (·.2) = places := by
  have hranked : (ranked.map (·.2)).Pairwise fun i j => key i < key j ∨ key i = key j ∧ i < j := by
    refine List.pairwise_map.mpr (hranking.ascending.imp_of_mem fun {p r} hp hr h => ?_)
    rwa [hkey p hp, hkey r hr] at h
  refine List.Perm.eq_of_pairwise ?_ hranked hsorted (hranking.places.trans hperm.symm)
  rintro i j - - (hij | hij) (hji | hji)
  · exact absurd hij hji.not_gt
  · exact absurd hji.1 hij.ne'
  · exact absurd hij.1 hji.ne'
  · exact absurd hij.2 hji.2.not_gt

/-- What is left out is not nearer. -/
theorem le_of_mem_drop (n : Nat) {p r : Hit Json × Nat} (hp : p ∈ ranked.take n)
    (hr : r ∈ ranked.drop n) : point p.1.distance ≤ point r.1.distance := by
  have hsplit := hranking.sorted
  rw [← List.take_append_drop n ranked] at hsplit
  exact (List.pairwise_append.mp hsplit).2.2 p hp r hr

/-- Exact relevances do not grow. -/
theorem pairwise_nearness
    (hmeasures : Measures point (distances.take (shortest texts abouts distances))) (n : Nat)
    {value : Json → ℚ}
    (hvalue : ∀ p ∈ ranked.take n, p.1.distance.rational? = some (value p.1.distance) ∧
      0 ≤ value p.1.distance) :
    ((ranked.take n).map fun p => nearness (value p.1.distance)).Pairwise (· ≥ ·) := by
  have hsorted := hranking.sorted.take (i := n)
  refine List.pairwise_map.mpr (hsorted.imp_of_mem fun {p r} hp hr hle => ?_)
  obtain ⟨hx, hpos⟩ := hvalue p hp
  obtain ⟨hy, -⟩ := hvalue r hr
  exact nearness_antitone hpos (hmeasures.le_of_rational
    (hranking.distance_mem (List.mem_of_mem_take hp))
    (hranking.distance_mem (List.mem_of_mem_take hr)) hx hy hle)

end Ranking

end Ranking

/-- Where the distances come from a total order, the files that an answer from retrieved code
begins with, and those that its part of a larger answer comes with, are those of the first ten in
the one order by distance and place of what the vector database found. Nothing nearer is left
out. Of exact distances that are not negative the relevances are from zero to one and do not
grow, and each is what a file is shown with but for its rounding to a double. -/
theorem retrieval_hands_out_nearest {σ ω : Type} [LinearOrder ω] {world : World σ} {q : Question}
    {s t : σ} {answer : Json} {texts abouts distances : List Json} {point : Json → ω}
    (htakes : TakesLines world)
    (hanswer : world (.nearest .code (.string q.prompt) (.int 30) (projectFilter q)) s =
      (.ok answer, t))
    (hcolumns : Columns answer texts abouts distances)
    (hmeasures : Measures point (distances.take (shortest texts abouts distances)))
    (intent : Intent) :
    ∃ ranked, Ranking point texts abouts distances ranked ∧
      (ranked.take 10).length = min 10 (shortest texts abouts distances) ∧
      (∀ p ∈ ranked.take 10, ∀ r ∈ ranked.drop 10, point p.1.distance ≤ point r.1.distance) ∧
      HandsOut world q intent s ((ranked.take 10).map (·.1)) ∧
      ∀ value : Json → ℚ,
        (∀ p ∈ ranked.take 10, p.1.distance.rational? = some (value p.1.distance) ∧
          0 ≤ value p.1.distance) →
        ((ranked.take 10).map fun p => nearness (value p.1.distance)).Pairwise (· ≥ ·) ∧
          ∀ p ∈ ranked.take 10, 0 < nearness (value p.1.distance) ∧
            nearness (value p.1.distance) ≤ 1 ∧
            ∃ r, relevance p.1.distance = .ok r ∧ IsAbout r (nearness (value p.1.distance)) := by
  have hranking : Ranking point texts abouts distances _ := ranking_rankedBy _ _ _
  -- What is not side by side with the rest need not compare.
  have hrank := rank_eq (hmeasures.mono map_distance_sideBySide_subset)
  have hrun := run_retrieve hanswer
  rw [presentAll_eq hcolumns.hitsIn_eq hrank] at hrun
  refine ⟨_, hranking, ?_, fun p hp r hr => hranking.le_of_mem_drop 10 hp hr,
    handsOut_of_run htakes hrun, fun value hvalue =>
      ⟨hranking.pairwise_nearness hmeasures 10 hvalue, fun p hp => ?_⟩⟩
  · rw [List.length_take, hranking.length_eq]
  · obtain ⟨hx, h0⟩ := hvalue p hp
    exact ⟨nearness_pos h0, nearness_le_one h0, relevance_eq_ok hx h0⟩

/-! ### Eleven jars -/

namespace Pantry

def texts : List Json := (List.range 12).map fun i => .string ("jar = " ++ toString i)

def abouts : List Json := (List.range 11).map fun i =>
  .object [("file_path", .string (toString i ++ ".py")), ("language", .string "python")]

/-- Ten at one distance, one that is nearer, and one of which the shortest column has nothing. -/
def distances : List Json := List.replicate 10 (.int 1) ++ [.float 0.5, .null]

def answer : Json :=
  .object [("documents", .array [.array texts]), ("metadatas", .array [.array abouts]),
    ("distances", .array [.array distances])]

def question : Question := ⟨"Where are the jars?", none⟩

def pantry : World Unit
  | .nearest _ _ _ _, _ => (.ok answer, ())
  | .chatStream _, _ => (.ok ⟨[some "In the pantry."], none⟩, ())
  | .emit _, _ => (.ok (), ())
  | _, _ => (.error .untold, ())

theorem rational?_half : (Json.float 0.5).rational? = some (1 / 2) := by
  have hparts : Decimal.Binary.ofFloat 0.5 = .finite false (2 ^ 52) (-53) true := by
    decide +kernel
  have hscaled : Decimal.scaled false (2 ^ 52) (-53) = 1 / 2 := by norm_num [Decimal.scaled]
  change (Decimal.Binary.ofFloat 0.5).rational? = _
  rw [hparts, Decimal.Binary.rational?, hscaled]

theorem columns : Columns answer texts abouts distances := ⟨rfl, rfl, rfl⟩

theorem distances_getElem? {i : Nat} (hi : i < 11) :
    distances[i]? = some (if i = 10 then .float 0.5 else .int 1) := by
  interval_cases i <;> rfl

theorem rational?_distance {i : Nat} {d : Json} (hi : i < 11) (hd : distances[i]? = some d) :
    d.rational? = some (if i = 10 then 1 / 2 else 1) := by
  rw [distances_getElem? hi] at hd
  rw [← Option.some.inj hd]
  split_ifs
  · exact rational?_half
  · rfl

theorem measures : Measures (fun v => v.rational?.getD 0)
    (distances.take (shortest texts abouts distances)) := by
  refine measures_rational fun v hv => ?_
  obtain ⟨i, hi⟩ := List.getElem?_of_mem hv
  rw [List.getElem?_take] at hi
  split_ifs at hi with hlt
  rw [rational?_distance hlt hi]
  rfl

theorem exists_shows {h : Hit Json} {i : Nat} (hi : i < 11) (htext : texts[i]? = some h.text)
    (habout : abouts[i]? = some h.about) (hdistance : distances[i]? = some h.distance) :
    ∃ file, Shows h file := by
  have htext' : Json.string ("jar = " ++ toString i) = h.text := by
    rw [texts, List.getElem?_map, List.getElem?_range (by omega)] at htext
    exact Option.some.inj htext
  have habout' : Json.object [("file_path", .string (toString i ++ ".py")),
      ("language", .string "python")] = h.about := by
    rw [abouts, List.getElem?_map, List.getElem?_range (by omega)] at habout
    exact Option.some.inj habout
  obtain ⟨r, hr, -⟩ := relevance_eq_ok (rational?_distance hi hdistance) (by positivity)
  refine ⟨⟨toString i ++ ".py", codeIn ("jar = " ++ toString i), r⟩, ?_, ⟨.string "python", ?_⟩,
    ?_, hr, fun _ => isAbout_of_relevance hr⟩
  · rw [← habout']
    rfl
  · rw [← habout']
    rfl
  · rw [← htext']
    rfl

theorem pantry_answer :
    pantry (.nearest .code (.string question.prompt) (.int 30) (projectFilter question)) () =
      (.ok answer, ()) := rfl

theorem nearness_of_places {α} {ranked : List (α × Nat)}
    (hplaces : ranked.map (·.2) = [10, 0, 1, 2, 3, 4, 5, 6, 7, 8, 9]) :
    (ranked.take 10).map (fun p => nearness (if p.2 = 10 then 1 / 2 else 1 : ℚ)) =
      2 / 3 :: List.replicate 9 (1 / 2) := by
  have hten : (ranked.take 10).map (·.2) = [10, 0, 1, 2, 3, 4, 5, 6, 7, 8] := by
    rw [List.map_take, hplaces]
    rfl
  have hcomp := congrArg (List.map fun i => nearness (if i = 10 then 1 / 2 else 1 : ℚ)) hten
  rw [List.map_map] at hcomp
  refine hcomp.trans ?_
  norm_num [nearness, List.replicate]

/-- The jar that is nearer comes first, and of those at one distance the last is left out. One
over one and a half is two thirds. -/
theorem jars_nearest_ten :
    ∃ ranked files, Ranking (fun v => v.rational?.getD 0) texts abouts distances ranked ∧
      ranked.map (·.2) = [10, 0, 1, 2, 3, 4, 5, 6, 7, 8, 9] ∧
      List.Forall₂ Shows ((ranked.take 10).map (·.1)) files ∧
      (view pantry (answerByRetrieval question .codeRetrieval) ()).BeginsWith
        (.metadata .codeRetrieval (some files) none) ∧
      List.Forall₂ (fun x file => IsAbout file.relevance x) (2 / 3 :: List.replicate 9 (1 / 2))
        files ∧
      ((ranked.take 10).map fun p => nearness (p.1.distance.rational?.getD 0)).Pairwise
        (· ≥ ·) := by
  obtain ⟨ranked, hranking, hlength, -, hout, hrelevances⟩ := retrieval_hands_out_nearest
    (fun _ _ => rfl) pantry_answer columns measures .codeRetrieval
  have hvalue : ∀ p ∈ ranked, p.1.distance.rational? = some (if p.2 = 10 then 1 / 2 else 1) :=
    fun p hp => rational?_distance (hranking.place_lt hp) (hranking.together p hp).2.2
  have hplaces : ranked.map (·.2) = [10, 0, 1, 2, 3, 4, 5, 6, 7, 8, 9] := by
    refine hranking.places_eq (fun i => if i = 10 then 1 / 2 else 1) (fun p hp => ?_) (by decide)
      (by decide +kernel)
    simp only [hvalue p hp, Option.getD_some]
  refine ⟨ranked, ?_⟩
  obtain ⟨files, hfiles, hview, -⟩ | ⟨h, hh, hnone, -⟩ := hout
  · refine ⟨files, hranking, hplaces, hfiles, ?_, ?_,
      (hrelevances (fun v => v.rational?.getD 0) fun p hp => ?_).1⟩
    · have hne : files ≠ [] := by
        rintro rfl
        have hnone := hfiles.length_eq
        rw [List.length_map, hlength] at hnone
        cases hnone
      rwa [if_neg hne] at hview
    · have habout : List.Forall₂ (fun p file => IsAbout file.relevance
          (nearness (if p.2 = 10 then 1 / 2 else 1))) (ranked.take 10) files := by
        have hshown := (List.forall₂_and_left _ _).mpr
          ⟨fun p hp => hvalue p (List.mem_of_mem_take hp), List.forall₂_map_left_iff.mp hfiles⟩
        exact hshown.imp fun p file ⟨hx, hshows⟩ => hshows.nearness _ hx (by positivity)
      rw [← nearness_of_places hplaces, List.forall₂_map_left_iff]
      exact habout
    · rw [hvalue p (List.mem_of_mem_take hp)]
      refine ⟨rfl, ?_⟩
      rw [Option.getD_some]
      split_ifs <;> norm_num
  · obtain ⟨p, hp, rfl⟩ := List.mem_map.mp hh
    have hmem := List.mem_of_mem_take hp
    obtain ⟨ht, ha, hd⟩ := hranking.together p hmem
    obtain ⟨file, hfile⟩ := exists_shows (hranking.place_lt hmem) ht ha hd
    exact absurd hfile (hnone file)

end Pantry

end CodeAtlas.Chat
