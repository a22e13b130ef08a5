import CodeAtlas.Proofs.Decimal.Exact
import CodeAtlas.Proofs.Training.Course

/-! When training stops, and which model it ends with. Finite losses are totally ordered, so the
round whose loss is the best so far is the last one that was below all before it, and the count of
rounds since then is how long it has stood. From this it follows which rounds are saved, which one
is the last, and that what is loaded in the end comes from the first round with the least loss. -/

namespace CodeAtlas.Training

open CodeAtlas.Decimal (unpacked? unpacked?_unpack isNormal_unpack compare_unpacked)
open CodeAtlas.Json (float_lt_iff)

/-! ### Finite losses -/

section Finite
variable {x y : Float} {p q : ℚ}

theorem exists_unpacked (h : x.isFinite = true) : ∃ q, unpacked? x.toModel.unpack = some q := by
  change x.toModel.unpack.isFinite = true at h
  cases hx : x.toModel.unpack with
  | zero => exact ⟨_, rfl⟩
  | finite => exact ⟨_, rfl⟩
  | infinity => rw [hx] at h; cases h
  | notANumber => rw [hx] at h; cases h

theorem lt_topLoss (h : x.isFinite = true) : x < topLoss := by
  have htop : topLoss.toModel.unpack = .infinity .positive := rfl
  obtain ⟨q, hq⟩ := exists_unpacked h
  rw [float_lt_iff, htop]
  cases hx : x.toModel.unpack with
  | zero => rfl
  | finite => rfl
  | infinity => rw [hx] at hq; cases hq
  | notANumber => rw [hx] at hq; cases hq

theorem float_le_iff :
    x ≤ y ↔ (x.toModel.unpack.compare y.toModel.unpack).any Ordering.isLE = true := by
  change decide _ = true ↔ _
  rw [decide_eq_true_iff]
  rfl

/-- Finite losses are in the order of rational numbers. -/
theorem exists_rank {v : Nat → Float} {n : Nat} (h : ∀ k < n, (v k).isFinite = true) :
    ∃ rank : Nat → ℚ, ∀ i < n, ∀ j < n,
      (v i < v j ↔ rank i < rank j) ∧ (v i ≤ v j ↔ rank i ≤ rank j) := by
  have hrank : ∀ k, ∃ q, k < n → unpacked? (v k).toModel.unpack = some q := by
    intro k
    by_cases hk : k < n
    · obtain ⟨q, hq⟩ := exists_unpacked (h k hk)
      exact ⟨q, fun _ => hq⟩
    · exact ⟨0, fun hlt => absurd hlt hk⟩
  choose rank hrank using hrank
  refine ⟨rank, fun i hi j hj => ?_⟩
  have hcompare : (v i).toModel.unpack.compare (v j).toModel.unpack =
      some (compare (rank i) (rank j)) :=
    compare_unpacked (isNormal_unpack _) (isNormal_unpack _) (hrank i hi) (hrank j hj)
  rw [float_lt_iff, float_le_iff, hcompare, Option.some.injEq, compare_lt_iff_lt, Option.any_some,
    Std.LawfulBCmp.isLE_iff_le]
  exact ⟨Iff.rfl, Iff.rfl⟩

end Finite

/-! ### New bests -/

/-- The loss of round `k` is below all earlier ones. -/
def NewBest (v : Nat → Float) (k : Nat) : Prop := ∀ j < k, v k < v j

instance (v : Nat → Float) : DecidablePred (NewBest v) := fun k =>
  inferInstanceAs (Decidable (∀ j, j < k → v k < v j))

/-- Round `k` ends a row of as many rounds as are waited for, none of them a new best. -/
def Stale (v : Nat → Float) (patience : Int) (k : Nat) : Prop :=
  patience ≤ k + 1 ∧ ∀ i ≤ k, (k : Int) < i + patience → ¬ NewBest v i

/-- Of the rounds before round `k`, the last new best is round `b`. -/
structure Leads (v : Nat → Float) (k b : Nat) : Prop where
  lt : b < k
  newBest : NewBest v b
  since : ∀ i, b < i → i < k → ¬ NewBest v i

/-- Of the first `n` rounds, round `b` is the earliest one with the least loss. -/
structure EarliestLeast (v : Nat → Float) (n b : Nat) : Prop where
  lt : b < n
  least : ∀ k < n, v b ≤ v k
  earliest : ∀ k < b, v b < v k

section Watch
variable {v : Nat → Float} {n k b : Nat} {patience : Int}

/-- No loss is below that of the last new best, for the first such loss would be a newer one. -/
theorem Leads.least (h : Leads v k b) (hfinite : ∀ k < n, (v k).isFinite = true) (hk : k ≤ n) :
    ∀ i < k, v b ≤ v i := by
  obtain ⟨rank, hrank⟩ := exists_rank hfinite
  have hb : b < n := h.lt.trans_le hk
  intro i
  induction i using Nat.strong_induction_on with
  | _ i ih =>
    intro hik
    have hin : i < n := hik.trans_le hk
    rw [(hrank b hb i hin).2]
    by_contra hlt
    rw [not_le] at hlt
    rcases Nat.lt_trichotomy i b with hib | rfl | hbi
    · exact absurd ((hrank b hb i hin).1.mp (h.newBest i hib)) hlt.not_gt
    · exact absurd hlt (lt_irrefl _)
    · refine h.since i hbi hik fun j hji => ?_
      have hjn : j < n := hji.trans hin
      rw [(hrank i hin j hjn).1]
      exact hlt.trans_le ((hrank b hb j hjn).2.mp (ih j hji (hji.trans hik)))

theorem Leads.earliestLeast (h : Leads v n b) (hfinite : ∀ k < n, (v k).isFinite = true) :
    EarliestLeast v n b :=
  ⟨h.lt, h.least hfinite le_rfl, h.newBest⟩

theorem Leads.lt_iff_newBest (h : Leads v k b) (hfinite : ∀ k < n, (v k).isFinite = true)
    (hk : k < n) : v k < v b ↔ NewBest v k := by
  obtain ⟨rank, hrank⟩ := exists_rank hfinite
  have hb : b < n := h.lt.trans hk
  refine ⟨fun hlt j hjk => ?_, fun hnew => hnew b h.lt⟩
  have hjn : j < n := hjk.trans hk
  rw [(hrank k hk j hjn).1]
  exact ((hrank k hk b hb).1.mp hlt).trans_le
    ((hrank b hb j hjn).2.mp (h.least hfinite hk.le j hjk))

theorem Leads.stale_iff (h : Leads v k b) (hpatience : 1 ≤ patience) :
    Stale v patience k ↔ ¬ NewBest v k ∧ patience + b ≤ k := by
  have hlt := h.lt
  constructor
  · rintro ⟨-, hrow⟩
    refine ⟨hrow k le_rfl (by omega), ?_⟩
    by_contra hlate
    exact hrow b hlt.le (by omega) h.newBest
  · rintro ⟨hnot, hlong⟩
    refine ⟨by omega, fun i hik hin => ?_⟩
    rcases Nat.lt_or_eq_of_le hik with hlt | rfl
    · exact h.since i (by omega) hlt
    · exact hnot

/-- Before round `k` the last new best is known, and for how many rounds it has stood. -/
theorem exists_leads (patience : Int) (hfinite : ∀ k < n, (v k).isFinite = true) (hpos : 0 < k)
    (hk : k ≤ n) :
    ∃ b, Leads v k b ∧ (watchAt patience v k).best = v b ∧
      (watchAt patience v k).waited + b + 1 = k := by
  induction k with
  | zero => exact absurd hpos (Nat.lt_irrefl 0)
  | succ k ih =>
    rw [watchAt, Watch.see]
    rcases Nat.eq_zero_or_pos k with rfl | hpos
    · rw [watchAt, if_pos (decide_eq_true (lt_topLoss (hfinite 0 hk)))]
      exact ⟨0, ⟨Nat.one_pos, fun _ hj => absurd hj (Nat.not_lt_zero _), by omega⟩, rfl, rfl⟩
    · obtain ⟨b, hleads, hbest, hwaited⟩ := ih hpos (by omega)
      have hnew := hleads.lt_iff_newBest hfinite hk
      have hlt := hleads.lt
      rw [hbest]
      split
      next hbelow =>
        refine ⟨k, ⟨Nat.lt_succ_self k, hnew.mp (of_decide_eq_true hbelow), by omega⟩, rfl, ?_⟩
        dsimp only
        omega
      next hbelow =>
        refine ⟨b, ⟨by omega, hleads.newBest, fun i hbi hik => ?_⟩, rfl, by dsimp only; omega⟩
        rcases Nat.lt_succ_iff_lt_or_eq.mp hik with hik | rfl
        · exact hleads.since i hbi hik
        · exact fun h => hbelow (decide_eq_true (hnew.mpr h))

/-- A round is judged by whether it is a new best, and if not, by how long there was none. -/
theorem verdictOn_eq (hfinite : ∀ k < n, (v k).isFinite = true) (hk : k < n)
    (hpatience : 1 ≤ patience) :
    (verdictOn patience v k = .better ↔ NewBest v k) ∧
      (verdictOn patience v k = .stop ↔ Stale v patience k) := by
  rw [verdictOn, Watch.see]
  rcases Nat.eq_zero_or_pos k with rfl | hpos
  · have hnew : NewBest v 0 := fun _ hj => absurd hj (Nat.not_lt_zero _)
    rw [watchAt, if_pos (decide_eq_true (lt_topLoss (hfinite 0 hk)))]
    refine ⟨⟨fun _ => hnew, fun _ => rfl⟩, ⟨fun h => (by cases h), fun hstale => ?_⟩⟩
    exact absurd hnew (hstale.2 0 le_rfl (by omega))
  · obtain ⟨b, hleads, hbest, hwaited⟩ := exists_leads patience hfinite hpos hk.le
    have hnew := hleads.lt_iff_newBest hfinite hk
    rw [hbest, hleads.stale_iff hpatience]
    split
    next hbelow => simp [hnew.mp (of_decide_eq_true hbelow)]
    next hbelow =>
      have hnot : ¬ NewBest v k := fun h => hbelow (decide_eq_true (hnew.mpr h))
      have hlong : patience ≤ (watchAt patience v k).waited + 1 ↔ patience + b ≤ k := by omega
      by_cases hend : patience + b ≤ k <;> simp [hnot, hlong, hend]

end Watch

/-! ### What is loaded -/

/-- The weights of a network, and those in its file. -/
structure Shelf (W : Type) where
  weights : W
  file : Option W

/-- What a step does, where `change` tells what training does to weights. -/
def Shelf.after {W : Type} (change : W → Event → W) (s : Shelf W) : Event → Shelf W
  | .save => ⟨s.weights, some s.weights⟩
  | .loadState => ⟨s.file.getD s.weights, s.file⟩
  | e => ⟨change s.weights e, s.file⟩

/-- A step that does not touch the file. -/
def Event.trains : Event → Bool
  | .save | .loadState => false
  | _ => true

section Shelf
variable {W : Type} {change : W → Event → W} {parameters : List String} {accumulation : Int}
  {feed : Nat → Feed} {saves : Nat → Prop} [DecidablePred saves]

theorem foldl_after {es : List Event} (h : ∀ e ∈ es, e.trains = true) (s : Shelf W) :
    es.foldl (Shelf.after change) s = ⟨es.foldl change s.weights, s.file⟩ := by
  induction es generalizing s with
  | nil => rfl
  | cons e es ih =>
    obtain ⟨he, hes⟩ := List.forall_mem_cons.mp h
    have hstep : s.after change e = ⟨change s.weights e, s.file⟩ := by
      cases e <;> first | rfl | cases he
    rw [List.foldl_cons, hstep, ih hes, List.foldl_cons]

theorem trains_of_mem_trainEvents {step : Nat} {losses : List Float} :
    ∀ e ∈ trainEvents accumulation step losses, e.trains = true := by
  induction losses generalizing step with
  | nil => exact fun _ he => nomatch he
  | cons loss losses ih =>
    have hbatch : ∀ e ∈ batchEvents accumulation step loss, e.trains = true := by
      rw [batchEvents, updateEvents]
      split <;> simp [Event.trains]
    exact List.forall_mem_append.mpr ⟨hbatch, ih⟩

theorem trains_of_mem_roundEvents {f : Feed} :
    ∀ e ∈ roundEvents accumulation f, e.trains = true := by
  simp only [roundEvents, List.forall_mem_cons, List.forall_mem_append]
  exact ⟨rfl, rfl, trains_of_mem_trainEvents, rfl, nofun⟩

theorem fitEvents_succ (n : Nat) :
    fitEvents parameters accumulation feed saves (n + 1) =
      fitEvents parameters accumulation feed saves n ++
        (roundEvents accumulation (feed n) ++ if saves n then [.save] else []) := by
  rw [fitEvents, fitEvents, eventsOf, List.range'_concat, List.flatMap_append, List.cons_append]
  simp [eventsOf]

/-- The weights go through every round, and in the file are those of the last round saved. -/
theorem foldl_after_fitEvents (s : Shelf W) (n : Nat) :
    ((fitEvents parameters accumulation feed saves n).foldl (Shelf.after change) s).weights =
        (fitEvents parameters accumulation feed (fun _ => False) n).foldl change s.weights ∧
      ∀ b < n, saves b → (∀ i, b < i → i < n → ¬ saves i) →
        ((fitEvents parameters accumulation feed saves n).foldl (Shelf.after change) s).file =
          some ((fitEvents parameters accumulation feed (fun _ => False) (b + 1)).foldl change
            s.weights) := by
  induction n with
  | zero => exact ⟨rfl, fun b hb => absurd hb (Nat.not_lt_zero b)⟩
  | succ n ih =>
    obtain ⟨hweights, hfile⟩ := ih
    have hround : (fitEvents parameters accumulation feed (fun _ => False) (n + 1)).foldl change
        s.weights = (roundEvents accumulation (feed n)).foldl change
          ((fitEvents parameters accumulation feed saves n).foldl (Shelf.after change) s).weights := by
      rw [fitEvents_succ, if_neg not_false, List.append_nil, List.foldl_append, hweights]
    rw [fitEvents_succ, List.foldl_append, List.foldl_append,
      foldl_after trains_of_mem_roundEvents, ← hround]
    split
    next hsaved =>
      refine ⟨rfl, fun b hb _ hlast => ?_⟩
      obtain rfl : b = n := by
        by_contra hne
        exact hlast n (by omega) (Nat.lt_succ_self n) hsaved
      rfl
    next hsaved =>
      refine ⟨rfl, fun b hb hb' hlast => ?_⟩
      have hbn : b ≠ n := fun h => hsaved (h ▸ hb')
      exact hfile b (by omega) hb' fun i hbi hin => hlast i hbi (by omega)

end Shelf

/-! ### A whole training -/

section Fit
variable {r : Regime} {train val : Loader} {feed : Nat → Feed} {v : Nat → Float} {n : Nat}

/-- A training of `n` rounds that keeps the model of round `b`. -/
structure KeepsBest (parameters : List String) (r : Regime) (feed : Nat → Feed) (v : Nat → Float)
    (outcome : Except Failure Unit × Journal) (n b : Nat) : Prop where
  /-- It ends well, and the rounds that are saved are the new bests. -/
  course : ∃ (plots : List Plot) (lines : List String) (left : List Float),
    outcome = (.ok (), ⟨fitEvents parameters r.accumulation feed (NewBest v) n ++
      .loadState :: plots.map .plot, lines, left⟩)
  /-- It stops at the first round that was waited for in vain, or with the last one. -/
  stops : EndsAfter (Stale v r.patience) r.epochs n
  best : EarliestLeast v n b
  /-- What is loaded are the weights as they were after round `b`. -/
  loaded : ∀ (W : Type) (change : W → Event → W) (s : Shelf W),
    ((fitEvents parameters r.accumulation feed (NewBest v) n ++ [Event.loadState]).foldl
        (Shelf.after change) s).weights =
      (fitEvents parameters r.accumulation feed (fun _ => False) (b + 1)).foldl change s.weights

theorem EndsAfter.congr {stops stops' : Nat → Prop} {epochs : Nat} (h : EndsAfter stops epochs n)
    (hiff : ∀ k < epochs, stops k ↔ stops' k) : EndsAfter stops' epochs n := by
  have hle := h.le
  refine ⟨hle, fun k hk => ?_, h.ends.imp_right ?_⟩
  · rw [← hiff k (by omega)]
    exact h.goesOn k hk
  · rintro ⟨k, rfl, hstop⟩
    exact ⟨k, rfl, (hiff k hle).mp hstop⟩

theorem fitEvents_congr {saves saves' : Nat → Prop} [DecidablePred saves] [DecidablePred saves']
    (parameters : List String) (accumulation : Int) (feed : Nat → Feed)
    (h : ∀ k < n, saves k ↔ saves' k) :
    fitEvents parameters accumulation feed saves n =
      fitEvents parameters accumulation feed saves' n := by
  induction n with
  | zero => rfl
  | succ n ih =>
    rw [fitEvents_succ, fitEvents_succ, ih fun k hk => h k (by omega)]
    simp only [h n (Nat.lt_succ_self n)]

/-- If the losses by which rounds are judged are finite, a training saves its model after just those
rounds whose loss is below all earlier ones, stops after the first round that ends a row of as many
rounds without that as are waited for, or after the last round, and loads the model of the earliest
round with the least loss. -/
theorem fit_keeps_best (h : Supplied r train val feed) (hv : ∀ k, (feed k).score val = v k)
    (hepochs : 1 ≤ r.epochs) (hpatience : 1 ≤ r.patience)
    (hfinite : ∀ k < r.epochs, (v k).isFinite = true) (parameters : List String) (seconds : Float) :
    ∃ n b, KeepsBest parameters r feed v
      ((fit parameters r train val seconds).start (lossesOf feed 0 r.epochs)) n b := by
  obtain ⟨n, plots, lines, left, hends, hrun⟩ := start_fit h hv parameters seconds
  have hbelow : ∀ k < n, (v k).isFinite = true := fun k hk => hfinite k (hk.trans_le hends.le)
  have hsaves : fitEvents parameters r.accumulation feed (verdictOn r.patience v · = .better) n =
      fitEvents parameters r.accumulation feed (NewBest v) n :=
    fitEvents_congr _ _ _ fun k hk => (verdictOn_eq hbelow hk hpatience).1
  obtain ⟨b, hleads, -, -⟩ := exists_leads r.patience hbelow (hends.pos hepochs) le_rfl
  refine ⟨n, b, ⟨plots, lines, left, by rw [hrun, hsaves]⟩,
    hends.congr fun k hk => (verdictOn_eq hfinite hk hpatience).2, hleads.earliestLeast hbelow,
    fun W change s => ?_⟩
  rw [List.foldl_append, List.foldl_cons, List.foldl_nil, Shelf.after,
    (foldl_after_fitEvents s n).2 b hleads.lt hleads.newBest hleads.since]
  rfl

end Fit

/-! ### A short training -/

namespace Trial

/-- Five rounds, of which two are waited for. -/
def regime : Regime := ⟨5, 2, 2⟩

/-- One batch to train on and one to judge by. -/
def batch : Loader := ⟨[1], 1⟩

/-- The fourth round only comes up to the second one, so the last round, the best of all, is not
reached. -/
def feed (k : Nat) : Feed := ⟨[1.0], [[3.0, 1.0, 2.0, 1.0, 0.5].getD k 0.0]⟩

theorem supplied : Supplied regime batch batch feed :=
  ⟨by decide, by decide, by decide, fun _ _ => ⟨rfl, rfl⟩⟩

theorem keeps_best :
    Supplied regime batch batch feed ∧ 1 ≤ regime.epochs ∧ 1 ≤ regime.patience ∧
      (∀ k < regime.epochs, ((feed k).score batch).isFinite = true) ∧
      ∃ n b, KeepsBest ["pooler"] regime feed (fun k => (feed k).score batch)
        ((fit ["pooler"] regime batch batch 0.0).start (lossesOf feed 0 regime.epochs)) n b := by
  have hfinite : ∀ k < regime.epochs, ((feed k).score batch).isFinite = true := by decide +kernel
  exact ⟨supplied, by decide, by decide, hfinite,
    fit_keeps_best supplied (fun _ => rfl) (by decide) (by decide) hfinite _ _⟩

end Trial

end CodeAtlas.Training
