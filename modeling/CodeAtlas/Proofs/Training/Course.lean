import CodeAtlas.Training.Fit

/-! The course of a training. What a part of it does can be told apart from what was done before:
it takes the next losses, adds its steps to those written down and leaves the other losses alone.
A round is then a fixed list of steps, and a whole training is the rounds that are gone through,
one after another, with the model saved where a round is found better. -/

namespace CodeAtlas.Training

/-! ### Parts of a training -/

section Laws
variable {α β : Type} {s : Session α} {f : α → Session β} {a : α} {b : β}
  {used used' : List Float} {done done' : List Event}

/-- A part that takes these losses, does these steps and ends well with this result, whatever was
done before and whatever losses are left. -/
def Session.Does (s : Session α) (used : List Float) (done : List Event) (a : α) : Prop :=
  ∀ (j : Journal) (rest : List Float), j.losses = used ++ rest →
    ∃ lines, (ExceptT.run s).run j = (.ok a, ⟨j.events ++ done, lines, rest⟩)

theorem does_pure (a : α) : Session.Does (pure a) [] [] a := by
  rintro j rest rfl
  exact ⟨j.printed, by rw [List.append_nil]; rfl⟩

theorem does_note (e : Event) : (note e).Does [] [e] () := by
  rintro j rest rfl
  exact ⟨j.printed, rfl⟩

theorem does_print (line : String) : (print line).Does [] [] () := by
  rintro j rest rfl
  exact ⟨j.printed ++ [line], by rw [List.append_nil]; rfl⟩

theorem does_nextLoss (loss : Float) : nextLoss.Does [loss] [] loss := by
  rintro ⟨events, printed, losses⟩ rest hj
  cases hj
  exact ⟨printed, by rw [List.append_nil]; rfl⟩

theorem Session.Does.bind (hs : s.Does used done a) (hf : (f a).Does used' done' b) :
    Session.Does (s >>= f) (used ++ used') (done ++ done') b := by
  intro j rest hj
  obtain ⟨lines, hrun⟩ := hs j (used' ++ rest) (by rw [hj, List.append_assoc])
  obtain ⟨lines', hrun'⟩ := hf ⟨j.events ++ done, lines, used' ++ rest⟩ rest rfl
  refine ⟨lines', ?_⟩
  have hbind : (ExceptT.run (s >>= f)).run j =
      (ExceptT.run (f a)).run ⟨j.events ++ done, lines, used' ++ rest⟩ := by
    rw [ExceptT.run_bind, StateT.run_bind, hrun]
    rfl
  rw [hbind, hrun', List.append_assoc]

/-- What follows takes no loss and does no step. -/
theorem Session.Does.bind_quiet (hs : s.Does used done a) (hf : (f a).Does [] [] b) :
    Session.Does (s >>= f) used done b := by
  have hboth := hs.bind hf
  rwa [List.append_nil, List.append_nil] at hboth

/-- A step and what comes after it. -/
theorem Session.Does.after_note (e : Event) {s : Session α} (hs : s.Does used done a) :
    Session.Does (do note e; s) used (e :: done) a :=
  (does_note e).bind hs

/-- A line and what comes after it. -/
theorem Session.Does.after_print (line : String) {s : Session α} (hs : s.Does used done a) :
    Session.Does (do print line; s) used done a :=
  (does_print line).bind hs

theorem does_forM_note (event : α → Event) (xs : List α) :
    (xs.forM fun x => note (event x)).Does [] (xs.map event) () := by
  induction xs with
  | nil => exact does_pure ()
  | cons x xs ih => exact ih.after_note (event x)

end Laws

/-! ### A round -/

/-- The losses of a round: on the batches trained on, then on those that are not. -/
structure Feed where
  trained : List Float
  heldOut : List Float

def Feed.losses (f : Feed) : List Float := f.trained ++ f.heldOut

/-- There is a loss for each batch. -/
structure Feed.Fits (f : Feed) (train val : Loader) : Prop where
  trained : f.trained.length = train.batches.length
  heldOut : f.heldOut.length = val.batches.length

/-- The losses on data that is not trained on, each times the size of its batch, added up. -/
def weighed (total : Float) (sizes : List Nat) (losses : List Float) : Float :=
  (sizes.zip losses).foldl (fun total b => total + b.2 * b.1.toFloat) total

/-- The loss by which a round is judged. -/
def Feed.score (val : Loader) (f : Feed) : Float :=
  weighed 0.0 val.batches f.heldOut / val.size.toFloat

/-- The steps that change the weights, if it is time for that. -/
def updateEvents (accumulation : Int) (step : Nat) : List Event :=
  if updatesAfter accumulation step then [.step, .update, .zeroGrad] else []

/-- The steps for one batch. -/
def batchEvents (accumulation : Int) (step : Nat) (loss : Float) : List Event :=
  .backward (loss / Float.ofInt accumulation) :: updateEvents accumulation step

/-- The steps for batches that are numbered from `step` on. -/
def trainEvents (accumulation : Int) (step : Nat) : List Float → List Event
  | [] => []
  | loss :: rest => batchEvents accumulation step loss ++ trainEvents accumulation (step + 1) rest

/-- The steps of a round, before it is judged. -/
def roundEvents (accumulation : Int) (f : Feed) : List Event :=
  .trainMode :: .zeroGrad :: (trainEvents accumulation 0 f.trained ++ [.evalMode])

section Round
variable {accumulation : Int} {sizes : List Nat} {losses : List Float} {r : Regime}
  {train val : Loader} {f : Feed}

theorem does_trainBatch (h : accumulation ≠ 0) (step size : Nat) (loss : Float) :
    (trainBatch accumulation step size).Does [loss] (batchEvents accumulation step loss)
      (loss / Float.ofInt accumulation * Float.ofInt accumulation * size.toFloat) := by
  unfold trainBatch batchEvents updateEvents
  refine (does_nextLoss loss).bind ?_
  rw [if_neg h]
  refine Session.Does.after_note _ ?_
  split
  · exact (((does_pure _).after_note _).after_note _).after_note _
  · exact does_pure _

theorem does_trainFrom (h : accumulation ≠ 0) (hlen : losses.length = sizes.length) (step : Nat)
    (total : Float) :
    ∃ sum, (trainFrom accumulation step total sizes).Does losses
      (trainEvents accumulation step losses) sum := by
  induction sizes generalizing losses step total with
  | nil =>
    obtain rfl := List.length_eq_zero_iff.mp hlen
    exact ⟨total, does_pure total⟩
  | cons size sizes ih =>
    obtain ⟨loss, losses, rfl⟩ := List.exists_cons_of_length_eq_add_one hlen
    obtain ⟨sum, hsum⟩ := ih (Nat.succ.inj hlen) (step + 1) _
    exact ⟨sum, (does_trainBatch h step size loss).bind hsum⟩

theorem does_validateFrom (hlen : losses.length = sizes.length) (total : Float) :
    (validateFrom total sizes).Does losses [] (weighed total sizes losses) := by
  induction sizes generalizing losses total with
  | nil =>
    obtain rfl := List.length_eq_zero_iff.mp hlen
    exact does_pure total
  | cons size sizes ih =>
    obtain ⟨loss, losses, rfl⟩ := List.exists_cons_of_length_eq_add_one hlen
    exact (does_nextLoss loss).bind (ih (Nat.succ.inj hlen) _)

theorem does_average {size : Nat} (h : size ≠ 0) (total : Float) :
    (average total size).Does [] [] (total / size.toFloat) := by
  rw [average, if_neg h]
  exact does_pure _

theorem does_validate (hsize : val.size ≠ 0) (hlen : f.heldOut.length = val.batches.length) :
    (validate val).Does f.heldOut [.evalMode] (f.score val) :=
  ((does_validateFrom hlen 0.0).bind_quiet (does_average hsize _)).after_note .evalMode

/-- A round does its steps and is judged by the losses on data that is not trained on. -/
theorem does_trainRound (haccum : r.accumulation ≠ 0) (htrain : train.size ≠ 0)
    (hval : val.size ≠ 0) (hfits : f.Fits train val) :
    ∃ trainLoss, (trainRound r train val).Does f.losses (roundEvents r.accumulation f)
      (trainLoss, f.score val) := by
  obtain ⟨sum, hsum⟩ := does_trainFrom haccum hfits.trained 0 0.0
  refine ⟨sum / train.size.toFloat, ?_⟩
  refine Session.Does.after_note _ (Session.Does.after_note _ (hsum.bind ?_))
  refine (does_validate hval hfits.heldOut).bind_quiet ?_
  exact (does_average htrain sum).bind_quiet (does_pure _)

end Round

/-! ### All rounds -/

/-- Training can go through: there is data of both kinds, and losses for every round. -/
structure Supplied (r : Regime) (train val : Loader) (feed : Nat → Feed) : Prop where
  accumulation : r.accumulation ≠ 0
  trained : train.size ≠ 0
  heldOut : val.size ≠ 0
  fits : ∀ k < r.epochs, (feed k).Fits train val

/-- What stands to be judged before round `k`, given the loss of every round. -/
def watchAt (patience : Int) (v : Nat → Float) : Nat → Watch Float
  | 0 => ⟨topLoss, 0⟩
  | k + 1 => ((watchAt patience v k).see (fun a b => decide (a < b)) patience (v k)).2

/-- How round `k` is judged. -/
def verdictOn (patience : Int) (v : Nat → Float) (k : Nat) : Verdict :=
  ((watchAt patience v k).see (fun a b => decide (a < b)) patience (v k)).1

/-- Of `epochs` rounds only the first `n` are gone through, since the last of these puts an end to
it and none before does. -/
structure EndsAfter (stops : Nat → Prop) (epochs n : Nat) : Prop where
  le : n ≤ epochs
  goesOn : ∀ k, k + 1 < n → ¬ stops k
  ends : n = epochs ∨ ∃ k, n = k + 1 ∧ stops k

theorem EndsAfter.pos {stops : Nat → Prop} {epochs n : Nat} (h : EndsAfter stops epochs n)
    (hpos : 0 < epochs) : 0 < n := by
  obtain rfl | ⟨k, rfl, -⟩ := h.ends
  · exact hpos
  · exact k.succ_pos

/-- A first round that is not the last. -/
theorem EndsAfter.succ {stops : Nat → Prop} {epochs n : Nat}
    (h : EndsAfter (fun k => stops (k + 1)) epochs n) (hfirst : ¬ stops 0) :
    EndsAfter stops (epochs + 1) (n + 1) := by
  refine ⟨Nat.succ_le_succ h.le, fun k hk => ?_, ?_⟩
  · cases k with
    | zero => exact hfirst
    | succ k => exact h.goesOn k (by omega)
  · obtain rfl | ⟨k, rfl, hstop⟩ := h.ends
    · exact .inl rfl
    · exact .inr ⟨k + 1, rfl, hstop⟩

theorem endsAfter_one {stops : Nat → Prop} (epochs : Nat) (hfirst : stops 0) :
    EndsAfter stops (epochs + 1) 1 :=
  ⟨by omega, fun _ hk => absurd hk (by omega), .inr ⟨0, rfl, hfirst⟩⟩

/-- The losses of rounds from `k` on, `n` of them. -/
def lossesOf (feed : Nat → Feed) (k n : Nat) : List Float :=
  (List.range' k n).flatMap fun i => (feed i).losses

/-- The steps of rounds from `k` on, `n` of them, each with what is saved after it. -/
def eventsOf (accumulation : Int) (feed : Nat → Feed) (saves : Nat → Prop) [DecidablePred saves]
    (k n : Nat) : List Event :=
  (List.range' k n).flatMap fun i =>
    roundEvents accumulation (feed i) ++ if saves i then [.save] else []

section Rounds
variable {r : Regime} {train val : Loader} {feed : Nat → Feed} {v : Nat → Float}

theorem lossesOf_succ (feed : Nat → Feed) (k n : Nat) :
    lossesOf feed k (n + 1) = (feed k).losses ++ lossesOf feed (k + 1) n := by
  rw [lossesOf, List.range'_succ, List.flatMap_cons, lossesOf]

theorem eventsOf_succ (accumulation : Int) (feed : Nat → Feed) (saves : Nat → Prop)
    [DecidablePred saves] (k n : Nat) :
    eventsOf accumulation feed saves k (n + 1) =
      roundEvents accumulation (feed k) ++
        ((if saves k then [.save] else []) ++ eventsOf accumulation feed saves (k + 1) n) := by
  rw [eventsOf, List.range'_succ, List.flatMap_cons, List.append_assoc, eventsOf]

/-- Rounds from `k` on go through their steps until one of them puts an end to it. -/
theorem does_rounds (h : Supplied r train val feed) (hv : ∀ k, (feed k).score val = v k)
    {m k : Nat} (hm : k + m ≤ r.epochs) :
    ∃ n results, EndsAfter (fun i => verdictOn r.patience v (k + i) = .stop) m n ∧
      (rounds r train val m k (watchAt r.patience v k)).Does (lossesOf feed k n)
        (eventsOf r.accumulation feed (verdictOn r.patience v · = .better) k n) results := by
  induction m generalizing k with
  | zero => exact ⟨0, [], ⟨Nat.le_refl _, by omega, .inl rfl⟩, does_pure []⟩
  | succ m ih =>
    obtain ⟨trainLoss, hround⟩ :=
      does_trainRound h.accumulation h.trained h.heldOut (h.fits k (by omega))
    rw [hv] at hround
    obtain ⟨n, results, hends, hrest⟩ := ih (k := k + 1) (by omega)
    simp only [Nat.add_assoc, Nat.add_comm 1] at hends
    rcases hsee : (watchAt r.patience v k).see (fun a b => decide (a < b)) r.patience (v k)
      with ⟨verdict, watch⟩
    have hverdict : verdictOn r.patience v k = verdict := congrArg Prod.fst hsee
    rw [watchAt, hsee] at hrest
    rw [rounds]
    cases verdict with
    | better =>
      refine ⟨n + 1, (trainLoss, v k) :: results, hends.succ (by simp [hverdict]), ?_⟩
      rw [lossesOf_succ, eventsOf_succ, if_pos hverdict]
      refine hround.bind (Session.Does.after_print _ ?_)
      rw [hsee]
      exact Session.Does.after_note .save (hrest.bind_quiet (does_pure _))
    | wait =>
      refine ⟨n + 1, (trainLoss, v k) :: results, hends.succ (by simp [hverdict]), ?_⟩
      rw [lossesOf_succ, eventsOf_succ, if_neg (by simp [hverdict])]
      refine hround.bind (Session.Does.after_print _ ?_)
      rw [hsee]
      exact hrest.bind_quiet (does_pure _)
    | stop =>
      refine ⟨1, [(trainLoss, v k)], endsAfter_one m hverdict, ?_⟩
      rw [lossesOf_succ, eventsOf_succ, if_neg (by simp [hverdict])]
      refine hround.bind (Session.Does.after_print _ ?_)
      rw [hsee]
      exact (does_pure _).after_print _

theorem does_plotCurve (results : List (Float × Float)) :
    ∃ plots : List Plot, (plotCurve results).Does [] (plots.map .plot) () :=
  ⟨_, (does_forM_note Event.plot _).bind_quiet (does_print _)⟩

/-- The steps of a training of `n` rounds, up to where the model is loaded. -/
def fitEvents (parameters : List String) (accumulation : Int) (feed : Nat → Feed)
    (saves : Nat → Prop) [DecidablePred saves] (n : Nat) : List Event :=
  .optimizer (parameters.filter isTrained) learningRate :: eventsOf accumulation feed saves 0 n

/-- A training goes through rounds until one puts an end to it, loads the model and draws. -/
theorem start_fit (h : Supplied r train val feed) (hv : ∀ k, (feed k).score val = v k)
    (parameters : List String) (seconds : Float) :
    ∃ (n : Nat) (plots : List Plot) (lines : List String) (left : List Float),
      EndsAfter (verdictOn r.patience v · = .stop) r.epochs n ∧
      (fit parameters r train val seconds).start (lossesOf feed 0 r.epochs) =
        (.ok (), ⟨fitEvents parameters r.accumulation feed (verdictOn r.patience v · = .better) n ++
          .loadState :: plots.map .plot, lines, left⟩) := by
  obtain ⟨n, results, hends, hrounds⟩ := does_rounds h hv (m := r.epochs) (k := 0) (by omega)
  simp only [Nat.zero_add] at hends
  obtain ⟨plots, hplots⟩ := does_plotCurve results
  have hfit : (fit parameters r train val seconds).Does (lossesOf feed 0 n ++ [])
      (fitEvents parameters r.accumulation feed (verdictOn r.patience v · = .better) n ++
        .loadState :: plots.map .plot) () := by
    refine Session.Does.after_note _ (hrounds.bind (Session.Does.after_note _ ?_))
    exact hplots.after_print _
  rw [List.append_nil] at hfit
  have hlosses : lossesOf feed 0 r.epochs = lossesOf feed 0 n ++ lossesOf feed n (r.epochs - n) := by
    have hrange := List.range'_append_1 (s := 0) (m := n) (n := r.epochs - n)
    rw [Nat.add_sub_cancel' hends.le, Nat.zero_add] at hrange
    rw [lossesOf, ← hrange, List.flatMap_append]
    rfl
  obtain ⟨lines, hrun⟩ := hfit ⟨[], [], lossesOf feed 0 r.epochs⟩ _ hlosses
  exact ⟨n, plots, lines, _, hends, hrun⟩

end Rounds

end CodeAtlas.Training
