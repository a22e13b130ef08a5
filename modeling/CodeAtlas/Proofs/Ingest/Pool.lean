import CodeAtlas.Ingest.File
import CodeAtlas.Proofs.Dialogue.Laws

/-! Tasks that share a world. A pool advances its tasks one request at a time in any
order, and any of them may be broken off at any time. When what one task asks
neither reads nor changes what another one sees, every task that is not broken off
ends as it would have ended alone. Carrying the tasks out one after another is one of
the orders. The worlds are arbitrary; which requests are separate is a hypothesis. -/

namespace CodeAtlas.Ingest

open Dialogue

variable {σ : Type}

/-- A step of a pool: task `i` gets the answer to its next request, or is broken off.
A task whose last request was carried out but not answered is broken off at its end. -/
inductive Move where
  | advance (i : Nat)
  | abort (i : Nat) (e : Failure)

structure Pool (σ : Type) where
  tasks : List (Dialogue Unit)
  shared : σ

/-- A task that asks for nothing any more. -/
def IsOver : Dialogue Unit → Prop
  | .ask _ _ => False
  | _ => True

instance : DecidablePred IsOver
  | .ask _ _ => isFalse id
  | .done _ | .fail _ => isTrue trivial

theorem isOver_ofExcept (r : Except Failure Unit) : IsOver (Dialogue.ofExcept r) := by
  cases r <;> trivial

/-- The failure that a result is, if it is one. -/
def error? : Except Failure Unit → Option Failure
  | .ok _ => none
  | .error e => some e

namespace Pool

/-- A task that is over cannot be advanced. -/
def step (world : World σ) (p : Pool σ) : Move → Pool σ
  | .advance i =>
    match p.tasks[i]? with
    | some (.ask q next) =>
      ⟨p.tasks.set i (next (world q p.shared).1), (world q p.shared).2⟩
    | _ => p
  | .abort i e => ⟨p.tasks.set i (.fail e), p.shared⟩

def run (world : World σ) (moves : List Move) (p : Pool σ) : Pool σ :=
  moves.foldl (step world) p

def Finished (p : Pool σ) : Prop := ∀ t ∈ p.tasks, IsOver t

instance (p : Pool σ) : Decidable p.Finished :=
  inferInstanceAs (Decidable (∀ t ∈ p.tasks, IsOver t))

@[simp] theorem run_nil (world : World σ) (p : Pool σ) : p.run world [] = p := rfl

@[simp] theorem run_cons (world : World σ) (m : Move) (moves : List Move) (p : Pool σ) :
    p.run world (m :: moves) = (p.step world m).run world moves := rfl

theorem run_append (world : World σ) (l₁ l₂ : List Move) (p : Pool σ) :
    p.run world (l₁ ++ l₂) = (p.run world l₁).run world l₂ := List.foldl_append

/-- What a step can do: nothing, answer one request, or break one task off. -/
theorem step_cases (world : World σ) (p : Pool σ) (m : Move) :
    p.step world m = p ∨
    (∃ i q next, m = .advance i ∧ p.tasks[i]? = some (.ask q next) ∧
      p.step world m = ⟨p.tasks.set i (next (world q p.shared).1), (world q p.shared).2⟩) ∨
    ∃ i e, m = .abort i e ∧ p.step world m = ⟨p.tasks.set i (.fail e), p.shared⟩ := by
  cases m with
  | advance i =>
    rcases h : p.tasks[i]? with _ | _ | _ | ⟨q, next⟩
    case some.ask => exact .inr (.inl ⟨i, q, next, rfl, h, by simp [step, h]⟩)
    all_goals exact .inl (by simp [step, h])
  | abort i e => exact .inr (.inr ⟨i, e, rfl, rfl⟩)

theorem length_run (world : World σ) (moves : List Move) (p : Pool σ) :
    (p.run world moves).tasks.length = p.tasks.length := by
  induction moves generalizing p with
  | nil => rfl
  | cons m moves ih =>
    rw [run_cons, ih]
    rcases step_cases world p m with h | ⟨_, _, _, -, -, h⟩ | ⟨_, _, -, h⟩ <;> simp [h]

end Pool

/-! ### Separate tasks -/

/-- Task `i` may ask what `allowed i` admits. Whether it does so in one state or in
another that agrees for `i` makes no difference, and for all others the states before
and after agree. -/
structure Separated (world : World σ) (allowed : Nat → Request → Prop)
    (agree : Nat → σ → σ → Prop) : Prop where
  refl : ∀ i s, agree i s s
  trans : ∀ i s t u, agree i s t → agree i t u → agree i s u
  answer : ∀ i q s t, allowed i q → agree i s t →
    (world q s).1 = (world q t).1 ∧ agree i (world q s).2 (world q t).2
  frame : ∀ i j q s, i ≠ j → allowed j q → agree i (world q s).2 s

/-- Every task asks only what it may. -/
def Pool.Confined (world : World σ) (allowed : Nat → Request → Prop) (p : Pool σ) : Prop :=
  ∀ i t, p.tasks[i]? = some t → Keeps world (allowed i) (fun _ => True) t

/-- Left alone from here on, task `i` ends with this result, in a state that agrees. -/
def Pool.EndsAs (world : World σ) (agree : Nat → σ → σ → Prop) (i : Nat)
    (result : Except Failure Unit × σ) (p : Pool σ) : Prop :=
  ∃ t, p.tasks[i]? = some t ∧ (t.run world p.shared).1 = result.1 ∧
    agree i (t.run world p.shared).2 result.2

section Separated
variable {world : World σ} {allowed : Nat → Request → Prop} {agree : Nat → σ → σ → Prop}

/-- A task runs in the same way from states that agree for it. -/
theorem Separated.run_agree (hsep : Separated world allowed agree) {i : Nat} {t : Dialogue Unit}
    (ht : Keeps world (allowed i) (fun _ => True) t) {s s' : σ} (hs : agree i s s') :
    (t.run world s).1 = (t.run world s').1 ∧ agree i (t.run world s).2 (t.run world s').2 := by
  induction ht generalizing s s' with
  | done _ => exact ⟨rfl, hs⟩
  | fail e => exact ⟨rfl, hs⟩
  | ask hq _ ih =>
    obtain ⟨hr, hagree⟩ := hsep.answer i _ s s' hq hs
    have := ih s hagree
    rw [run_ask, run_ask, ← hr]
    exact this

theorem Pool.Confined.asks {p : Pool σ} (h : p.Confined world allowed) {i : Nat} {q : Request}
    {next : Except Failure q.Answer → Dialogue Unit} (hi : p.tasks[i]? = some (.ask q next)) :
    allowed i q := by
  cases h i _ hi with
  | ask hq _ => exact hq

theorem Pool.Confined.step {p : Pool σ} (h : p.Confined world allowed) (m : Move) :
    (p.step world m).Confined world allowed := by
  intro i t hi
  rcases p.step_cases world m with hs | ⟨j, q, next, -, hj, hs⟩ | ⟨j, e, -, hs⟩
  · exact h i t (hs ▸ hi)
  · simp only [hs] at hi
    by_cases hij : j = i
    · subst hij
      obtain ⟨hlt, -⟩ := List.getElem?_eq_some_iff.mp hj
      rw [List.getElem?_set_self hlt, Option.some.injEq] at hi
      cases h j _ hj with
      | ask _ hnext => exact hi ▸ hnext p.shared
    · rw [List.getElem?_set_ne hij] at hi
      exact h i t hi
  · simp only [hs] at hi
    rw [List.getElem?_set] at hi
    split at hi
    · split at hi
      · exact Option.some.inj hi ▸ .fail e
      · cases hi
    · exact h i t hi

/-- A step that does not break task `i` off leaves open only what `i` still has to do. -/
theorem Pool.EndsAs.step (hsep : Separated world allowed agree) {p : Pool σ} {i : Nat}
    {result : Except Failure Unit × σ} (hp : p.Confined world allowed)
    (h : p.EndsAs world agree i result) {m : Move} (hm : ∀ e, m ≠ .abort i e) :
    (p.step world m).EndsAs world agree i result := by
  obtain ⟨t, hi, hres, hagree⟩ := h
  rcases p.step_cases world m with hs | ⟨j, q, next, -, hj, hs⟩ | ⟨j, e, hme, hs⟩
  · rw [hs]
    exact ⟨t, hi, hres, hagree⟩
  · rw [hs]
    by_cases hij : j = i
    · subst hij
      rw [hj, Option.some.injEq] at hi
      subst hi
      obtain ⟨hlt, -⟩ := List.getElem?_eq_some_iff.mp hj
      exact ⟨_, List.getElem?_set_self hlt, hres, hagree⟩
    · have hframe := hsep.frame i j q p.shared (Ne.symm hij) (hp.asks hj)
      obtain ⟨hr, ha⟩ := hsep.run_agree (hp i t hi) hframe
      refine ⟨t, by rw [List.getElem?_set_ne hij]; exact hi, hr.trans hres, ?_⟩
      exact hsep.trans i _ _ _ ha hagree
  · have hij : j ≠ i := fun hij => hm e (hij ▸ hme)
    exact hs ▸ ⟨t, by rw [List.getElem?_set_ne hij]; exact hi, hres, hagree⟩

/-- However a pool is advanced, a task that is never broken off is on its way to the
result that it has alone. -/
theorem Pool.run_endsAs (hsep : Separated world allowed agree) {p : Pool σ}
    (hp : p.Confined world allowed) {i : Nat} {t : Dialogue Unit} (ht : p.tasks[i]? = some t)
    {moves : List Move} (hm : ∀ e, .abort i e ∉ moves) :
    (p.run world moves).EndsAs world agree i (t.run world p.shared) := by
  suffices ∀ (moves : List Move) (p : Pool σ) (result : Except Failure Unit × σ),
      (∀ e, .abort i e ∉ moves) → p.Confined world allowed → p.EndsAs world agree i result →
        (p.run world moves).EndsAs world agree i result from
    this moves p _ hm hp ⟨t, ht, rfl, hsep.refl i _⟩
  intro moves
  induction moves with
  | nil => exact fun _ _ _ _ h => h
  | cons m moves ih =>
    intro p result hm hp h
    refine ih _ _ (fun e he => hm e (List.mem_cons_of_mem _ he)) (hp.step m) ?_
    exact h.step hsep hp (fun e he => hm e (he ▸ List.mem_cons_self))

/-- What every allowed request preserves, a pool preserves. -/
theorem Pool.run_preserves (inv : σ → Prop)
    (hstep : ∀ i q s, allowed i q → inv s → inv (world q s).2) (moves : List Move) {p : Pool σ}
    (hp : p.Confined world allowed) (h : inv p.shared) : inv (p.run world moves).shared := by
  induction moves generalizing p with
  | nil => exact h
  | cons m moves ih =>
    refine ih (hp.step m) ?_
    rcases p.step_cases world m with hs | ⟨j, q, next, -, hj, hs⟩ | ⟨j, e, -, hs⟩
    · rwa [hs]
    · rw [hs]
      exact hstep j q _ (hp.asks hj) h
    · rwa [hs]

/-- A task that is over holds its result. -/
theorem Pool.EndsAs.finished {p : Pool σ} {i : Nat} {result : Except Failure Unit × σ}
    (h : p.EndsAs world agree i result) (hf : p.Finished) :
    p.tasks[i]? = some (Dialogue.ofExcept result.1) ∧ agree i p.shared result.2 := by
  obtain ⟨t, hi, hres, hagree⟩ := h
  have hover := hf t (List.mem_of_getElem? hi)
  cases t with
  | done a => exact ⟨by rw [hi, ← hres]; rfl, hagree⟩
  | fail e => exact ⟨by rw [hi, ← hres]; rfl, hagree⟩
  | ask q next => exact hover.elim

end Separated

/-! ### One after another -/

section Sequential
variable (world : World σ)

/-- Advanced often enough without interruption, a task comes to its end. -/
theorem Pool.exists_advances (i : Nat) (t : Dialogue Unit) (p : Pool σ)
    (ht : p.tasks[i]? = some t) :
    ∃ n, p.run world (List.replicate n (.advance i)) =
      ⟨p.tasks.set i (Dialogue.ofExcept (t.run world p.shared).1), (t.run world p.shared).2⟩ := by
  obtain ⟨hlt, hget⟩ := List.getElem?_eq_some_iff.mp ht
  induction t generalizing p with
  | done a =>
    have hself : p.tasks.set i (.done a) = p.tasks := hget ▸ List.set_getElem_self hlt
    exact ⟨0, by simp [Dialogue.ofExcept, hself]⟩
  | fail e =>
    have hself : p.tasks.set i (.fail e) = p.tasks := hget ▸ List.set_getElem_self hlt
    exact ⟨0, by simp [Dialogue.ofExcept, hself]⟩
  | ask q next ih =>
    have hstep : p.step world (.advance i) =
        ⟨p.tasks.set i (next (world q p.shared).1), (world q p.shared).2⟩ := by
      simp [Pool.step, ht]
    obtain ⟨n, hn⟩ := ih _ ⟨p.tasks.set i (next (world q p.shared).1), (world q p.shared).2⟩
      (List.getElem?_set_self hlt) (by simpa using hlt) (by simp)
    refine ⟨n + 1, ?_⟩
    rw [List.replicate_succ, Pool.run_cons, hstep, hn]
    simp

theorem runTasks_cons (t : Dialogue Unit) (rest : List (Dialogue Unit)) (failed : Option Failure)
    (s : σ) :
    (runTasks (t :: rest) failed).run world s =
      (runTasks rest (failed.or (error? (t.run world s).1))).run world (t.run world s).2 := by
  rw [runTasks, Dialogue.bind_eq, run_bind, run_attempt]
  rcases t.run world s with ⟨e | a, s'⟩ <;> simp [error?]

/-- The results of tasks tell how carrying them out ends. -/
theorem runTasks_ofExcept (r : Except Failure Unit) (rest : List (Dialogue Unit))
    (failed : Option Failure) :
    runTasks (Dialogue.ofExcept r :: rest) failed = runTasks rest (failed.or (error? r)) := by
  cases r with
  | ok a =>
    rw [error?, Option.or_none]
    rfl
  | error e => rfl

/-- Carrying tasks out one after another is one of the ways to advance a pool. -/
theorem Pool.exists_sequential (ended rest : List (Dialogue Unit)) (failed : Option Failure)
    (s : σ) :
    ∃ moves ends, (∀ i e, .abort i e ∉ moves) ∧ (∀ t ∈ ends, IsOver t) ∧
      (⟨ended ++ rest, s⟩ : Pool σ).run world moves =
        ⟨ended ++ ends, ((runTasks rest failed).run world s).2⟩ ∧
      runTasks ends failed = Dialogue.ofExcept ((runTasks rest failed).run world s).1 := by
  induction rest generalizing ended failed s with
  | nil =>
    cases failed
    all_goals exact ⟨[], [], by simp, by simp, rfl, rfl⟩
  | cons t rest ih =>
    obtain ⟨n, hn⟩ := Pool.exists_advances world ended.length t ⟨ended ++ t :: rest, s⟩ (by simp)
    obtain ⟨moves, ends, hm, he, hrun, hend⟩ := ih (ended ++ [Dialogue.ofExcept (t.run world s).1])
      (failed.or (error? (t.run world s).1)) (t.run world s).2
    refine ⟨List.replicate n (.advance ended.length) ++ moves,
      Dialogue.ofExcept (t.run world s).1 :: ends, ?_, ?_, ?_, ?_⟩
    · intro i e hmem
      rcases List.mem_append.mp hmem with h | h
      · exact absurd (List.eq_of_mem_replicate h) (by simp)
      · exact hm i e h
    · intro u hu
      rcases List.mem_cons.mp hu with rfl | h
      · exact isOver_ofExcept _
      · exact he u h
    · rw [Pool.run_append, hn, runTasks_cons]
      simpa using hrun
    · rw [runTasks_ofExcept, hend, runTasks_cons]

/-- Looking at the results of tasks that are over fails exactly when one of them has. -/
theorem runTasks_fails_iff (tasks : List (Dialogue Unit)) (h : ∀ t ∈ tasks, IsOver t)
    (failed : Option Failure) :
    (∃ e, runTasks tasks failed = .fail e) ↔ failed.isSome ∨ ∃ e, .fail e ∈ tasks := by
  induction tasks generalizing failed with
  | nil => cases failed <;> simp [runTasks]
  | cons t rest ih =>
    have hrest : ∀ t ∈ rest, IsOver t := fun t ht => h t (List.mem_cons_of_mem _ ht)
    cases t with
    | done a =>
      have hd : runTasks (.done a :: rest) failed = runTasks rest failed := rfl
      rw [hd, ih hrest failed]
      simp
    | fail e =>
      have hf : runTasks (.fail e :: rest) failed = runTasks rest (failed.or (some e)) := rfl
      rw [hf, ih hrest]
      cases failed <;> simp
    | ask q next => exact (h _ List.mem_cons_self).elim

end Sequential

end CodeAtlas.Ingest
