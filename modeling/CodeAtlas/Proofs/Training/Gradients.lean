import CodeAtlas.Proofs.Training.Course

/-! Which batches a training makes use of. The gradients of batches are added up until the weights
are changed, and then cleared. They are also cleared when a round begins, so a batch counts for
nothing if its round ends before the weights are changed once more. -/

namespace CodeAtlas.Training

/-- Gradients that are there before these steps are used: of changing the weights and clearing the
gradients, the former comes first. -/
def isUsed : List Event → Bool
  | [] => false
  | .step :: _ => true
  | .zeroGrad :: _ => false
  | _ :: es => isUsed es

/-- Of every batch that is gone through, in order, whether it is used. -/
def usage : List Event → List Bool
  | [] => []
  | .backward _ :: es => isUsed es :: usage es
  | _ :: es => usage es

/-- Of `n` batches those are used that are in full groups of size `a`. -/
def groupUsage (a n : Nat) : List Bool :=
  (List.range n).map fun i => decide (i < n - n % a)

/-! ### Full groups -/

section Groups
variable {a n i : Nat}

theorem updatesAfter_iff : updatesAfter a i = true ↔ a ∣ i + 1 := by
  rw [updatesAfter, beq_iff_eq, ← Int.natCast_dvd_natCast, Int.dvd_iff_emod_eq_zero]
  rfl

/-- The batch after which the weights are changed ends a full group. -/
theorem lt_of_updatesAfter (ha : 1 ≤ a) (h : updatesAfter a i = true) (hi : i < n) :
    i < n - n % a := by
  obtain ⟨d, hd⟩ := updatesAfter_iff.mp h
  have hsplit := Nat.div_add_mod n a
  have hgroup : a * d ≤ a * (n / a) :=
    Nat.mul_le_mul_left a ((Nat.le_div_iff_mul_le ha).mpr (by rw [Nat.mul_comm]; omega))
  omega

/-- Any other batch is in a full group together with the next one. -/
theorem succ_lt_iff_of_not_updatesAfter (h : updatesAfter a i = false) :
    i + 1 < n - n % a ↔ i < n - n % a := by
  have hsplit := Nat.div_add_mod n a
  have hne : i + 1 ≠ n - n % a := fun heq => by
    have hdvd : a ∣ i + 1 := ⟨n / a, by omega⟩
    rw [← updatesAfter_iff, h] at hdvd
    cases hdvd
  omega

theorem groupUsage_all_iff (ha : 1 ≤ a) : (∀ u ∈ groupUsage a n, u = true) ↔ a ∣ n := by
  have hlt := Nat.mod_lt n ha
  have hle := Nat.mod_le n a
  simp only [groupUsage, List.forall_mem_map, List.mem_range, decide_eq_true_iff]
  constructor
  · intro hall
    refine Nat.dvd_of_mod_eq_zero (Nat.eq_zero_of_not_pos fun hpos => ?_)
    have hlast := hall (n - 1) (by omega)
    omega
  · intro hdvd i hi
    rwa [Nat.mod_eq_zero_of_dvd hdvd, Nat.sub_zero]

end Groups

/-! ### A round -/

section Round
variable {a n : Nat} {after : List Event}

theorem isUsed_updateEvents (step : Nat) (es : List Event) :
    isUsed (updateEvents a step ++ es) = (updatesAfter a step || isUsed es) := by
  rw [updateEvents]
  split
  next h => rw [h]; rfl
  next h => rw [Bool.eq_false_iff.mpr h]; rfl

theorem usage_updateEvents (step : Nat) (es : List Event) :
    usage (updateEvents a step ++ es) = usage es := by
  rw [updateEvents]
  split <;> rfl

/-- The first of some batches, the steps behind it and the other batches. -/
theorem trainEvents_cons (step : Nat) (loss : Float) (losses : List Float) :
    trainEvents a step (loss :: losses) ++ after =
      .backward (loss / Float.ofInt a) ::
        (updateEvents a step ++ (trainEvents a (step + 1) losses ++ after)) := by
  rw [trainEvents, batchEvents, List.append_assoc, List.cons_append]

/-- Before the batches from `step` up to `n` there is something to gain if there is a full group
among them. -/
theorem isUsed_trainEvents (ha : 1 ≤ a) (h : isUsed after = false) {step : Nat}
    {losses : List Float} (hn : step + losses.length = n) :
    isUsed (trainEvents a step losses ++ after) = decide (step < n - n % a) := by
  induction losses generalizing step with
  | nil =>
    obtain rfl : step = n := hn
    rw [trainEvents, List.nil_append, h]
    exact (decide_eq_false (by omega)).symm
  | cons loss losses ih =>
    rw [List.length_cons] at hn
    rw [trainEvents_cons, isUsed, isUsed_updateEvents, ih (by omega)]
    · cases hupdates : updatesAfter a step with
      | true => simp [lt_of_updatesAfter ha hupdates (by omega : step < n)]
      | false => simp [succ_lt_iff_of_not_updatesAfter hupdates]
    all_goals exact nofun

theorem usage_trainEvents (ha : 1 ≤ a) (h : isUsed after = false) {step : Nat}
    {losses : List Float} (hn : step + losses.length = n) :
    usage (trainEvents a step losses ++ after) =
      (List.range' step losses.length).map (fun i => decide (i < n - n % a)) ++ usage after := by
  induction losses generalizing step with
  | nil => rfl
  | cons loss losses ih =>
    have hused := isUsed_trainEvents ha h hn
    rw [trainEvents_cons] at hused
    rw [List.length_cons] at hn
    rw [trainEvents_cons, usage, usage_updateEvents, ih (by omega), List.length_cons,
      List.range'_succ, List.map_cons, List.cons_append, ← hused]
    rfl

theorem usage_roundEvents (ha : 1 ≤ a) (h : isUsed after = false) {f : Feed}
    (hf : f.trained.length = n) :
    usage (roundEvents a f ++ after) = groupUsage a n ++ usage after := by
  have heval : isUsed (.evalMode :: after) = false := h
  have htrain := usage_trainEvents ha heval ((Nat.zero_add _).trans hf)
  rw [hf, ← List.range_eq_range'] at htrain
  rw [roundEvents, List.cons_append, List.cons_append, List.append_assoc]
  exact htrain

end Round

/-! ### All rounds -/

section Fit
variable {r : Regime} {train val : Loader} {feed : Nat → Feed} {saves : Nat → Prop}
  [DecidablePred saves] {a n : Nat}

/-- A round begins by clearing the gradients, and after the last one nothing more is changed. -/
theorem isUsed_eventsOf (a : Nat) (feed : Nat → Feed) (saves : Nat → Prop) [DecidablePred saves]
    (k m : Nat) (plots : List Plot) :
    isUsed (eventsOf a feed saves k m ++ .loadState :: plots.map .plot) = false := by
  cases m with
  | zero => induction plots with
    | nil => rfl
    | cons p plots ih => exact ih
  | succ m =>
    rw [eventsOf_succ]
    rfl

theorem usage_eventsOf (ha : 1 ≤ a) {k m : Nat} (hfeed : ∀ i < k + m, (feed i).trained.length = n)
    (plots : List Plot) :
    usage (eventsOf a feed saves k m ++ .loadState :: plots.map .plot) =
      (List.replicate m (groupUsage a n)).flatten := by
  induction m generalizing k with
  | zero => induction plots with
    | nil => rfl
    | cons p plots ih => exact ih
  | succ m ih =>
    have hrest := isUsed_eventsOf a feed saves (k + 1) m plots
    rw [eventsOf_succ, List.append_assoc, List.append_assoc, usage_roundEvents ha ?_
      (hfeed k (by omega)), List.replicate_succ, List.flatten_cons]
    · rw [← ih (k := k + 1) fun i hi => hfeed i (by omega)]
      split <;> rfl
    · split <;> exact hrest

/-- In every round that is gone through the batches of full groups are used, and no others. -/
theorem start_fit_usage (h : Supplied r train val feed) (hr : r.accumulation = a) (ha : 1 ≤ a)
    (parameters : List String) (seconds : Float) :
    ∃ (n : Nat) (es : List Event) (lines : List String) (left : List Float),
      (fit parameters r train val seconds).start (lossesOf feed 0 r.epochs) =
        (.ok (), ⟨es, lines, left⟩) ∧
      n ≤ r.epochs ∧ (1 ≤ r.epochs → 1 ≤ n) ∧
      usage es = (List.replicate n (groupUsage a train.batches.length)).flatten := by
  obtain ⟨n, plots, lines, left, hends, hrun⟩ := start_fit h (fun _ => rfl) parameters seconds
  rw [hr] at hrun
  have hfeed : ∀ i < 0 + n, (feed i).trained.length = train.batches.length := fun i hi => by
    have hle := hends.le
    exact (h.fits i (by omega)).trained
  exact ⟨n, _, lines, left, hrun, hends.le, hends.pos, usage_eventsOf ha hfeed plots⟩

/-- Batches are used in full groups only: of the batches of a round those are used whose number in
it is below the greatest multiple of the group's size that is at most their number. So all batches
are used only if the groups come out even. -/
theorem batches_used_in_groups (h : Supplied r train val feed) (hr : r.accumulation = a)
    (ha : 1 ≤ a) (parameters : List String) (seconds : Float) :
    ∃ (n : Nat) (es : List Event) (lines : List String) (left : List Float),
      (fit parameters r train val seconds).start (lossesOf feed 0 r.epochs) =
        (.ok (), ⟨es, lines, left⟩) ∧
      n ≤ r.epochs ∧ (1 ≤ r.epochs → 1 ≤ n) ∧
      usage es = (List.replicate n (groupUsage a train.batches.length)).flatten ∧
      (1 ≤ r.epochs → ((∀ u ∈ usage es, u = true) ↔ a ∣ train.batches.length)) := by
  obtain ⟨n, es, lines, left, hrun, hle, hn, husage⟩ :=
    start_fit_usage h hr ha parameters seconds
  refine ⟨n, es, lines, left, hrun, hle, hn, husage, fun hepochs => ?_⟩
  have hne : n ≠ 0 := Nat.ne_zero_of_lt (hn hepochs)
  rw [husage, ← groupUsage_all_iff ha]
  simp [List.mem_flatten, List.mem_replicate, hne]

end Fit

/-! ### Batches in pairs -/

namespace Pairs

def three : Loader := ⟨[4, 4, 1], 9⟩

def one : Loader := ⟨[1], 1⟩

theorem supplied : Supplied ⟨2, 2, 5⟩ three one fun _ => ⟨[1.0, 1.0, 1.0], [1.0]⟩ :=
  ⟨by decide, by decide, by decide, fun _ _ => ⟨rfl, rfl⟩⟩

theorem two_of_three_used :
    Supplied ⟨2, 2, 5⟩ three one (fun _ => ⟨[1.0, 1.0, 1.0], [1.0]⟩) ∧
      ∃ (n : Nat) (es : List Event) (lines : List String) (left : List Float),
        (fit [] ⟨2, 2, 5⟩ three one 0.0).start [1.0, 1.0, 1.0, 1.0, 1.0, 1.0, 1.0, 1.0] =
          (.ok (), ⟨es, lines, left⟩) ∧
        n ≤ 2 ∧ (1 ≤ 2 → 1 ≤ n) ∧
        usage es = (List.replicate n [true, true, false]).flatten ∧
        (1 ≤ 2 → ((∀ u ∈ usage es, u = true) ↔ 2 ∣ 3)) :=
  ⟨supplied, batches_used_in_groups supplied rfl (by decide) _ _⟩

/-- A single batch is gone through, and the weights are not changed by it. -/
theorem single_batch_unused :
    ∃ es lines left,
      (fit [] ⟨1, 2, 5⟩ one one 0.0).start [1.0, 1.0] = (.ok (), ⟨es, lines, left⟩) ∧
      usage es = [false] := by
  have hsupplied : Supplied ⟨1, 2, 5⟩ one one fun _ => ⟨[1.0], [1.0]⟩ :=
    ⟨by decide, by decide, by decide, fun _ _ => ⟨rfl, rfl⟩⟩
  obtain ⟨n, es, lines, left, hrun, hle, hn, husage⟩ :=
    start_fit_usage (a := 2) hsupplied rfl (by decide) [] 0.0
  obtain rfl : n = 1 := Nat.le_antisymm hle (hn (Nat.le_refl 1))
  exact ⟨es, lines, left, hrun, husage⟩

end Pairs

end CodeAtlas.Training
