import CodeAtlas.Dialogue

/-! Laws of dialogues. Running is compositional, so a dialogue can be followed part by
part in any world. `Keeps` bounds what a dialogue may ask and end with, whatever
state the world is in when each request is answered; from a bound on the requests
follows what a whole run preserves. -/

namespace CodeAtlas.Dialogue

variable {α β γ σ : Type}

/-! ### Composition -/

@[simp] theorem pure_eq (a : α) : (pure a : Dialogue α) = .done a := rfl

@[simp] theorem bind_eq (d : Dialogue α) (f : α → Dialogue β) : (d >>= f) = d.bind f := rfl

@[simp] theorem map_eq (f : α → β) (d : Dialogue α) : f <$> d = d.bind fun a => .done (f a) := rfl

@[simp] theorem monadLift_eq (e : Except Failure α) : (monadLift e : Dialogue α) = ofExcept e := rfl

@[simp] theorem done_bind (a : α) (f : α → Dialogue β) : (done a).bind f = f a := rfl

@[simp] theorem fail_bind (e : Failure) (f : α → Dialogue β) : (fail e).bind f = .fail e := rfl

@[simp] theorem ask_bind (q : Request) (next : Except Failure q.Answer → Dialogue α)
    (f : α → Dialogue β) : (ask q next).bind f = .ask q fun r => (next r).bind f := rfl

theorem bind_assoc (d : Dialogue α) (f : α → Dialogue β) (g : β → Dialogue γ) :
    (d.bind f).bind g = d.bind fun a => (f a).bind g := by
  induction d with
  | done a => rfl
  | fail e => rfl
  | ask q next ih =>
    simp only [ask_bind]
    congr 1
    funext r
    exact ih r

/-! ### Running -/

section Running
variable (world : World σ) (s : σ)

@[simp] theorem run_done (a : α) : (done a).run world s = (.ok a, s) := rfl

@[simp] theorem run_fail (e : Failure) : (fail e : Dialogue α).run world s = (.error e, s) := rfl

@[simp] theorem run_ask (q : Request) (next : Except Failure q.Answer → Dialogue α) :
    (ask q next).run world s = (next (world q s).1).run world (world q s).2 := rfl

@[simp] theorem run_ofExcept (e : Except Failure α) : (ofExcept e).run world s = (e, s) := by
  cases e <;> rfl

@[simp] theorem run_request (q : Request) : (request q).run world s = world q s := by
  simp only [request, run_ask]
  rcases world q s with ⟨_ | _, _⟩ <;> rfl

/-- The second part runs where the first one ends, unless that has failed. -/
theorem run_bind (d : Dialogue α) (f : α → Dialogue β) :
    (d.bind f).run world s =
      match d.run world s with
      | (.ok a, s) => (f a).run world s
      | (.error e, s) => (.error e, s) := by
  induction d generalizing s with
  | done a => rfl
  | fail e => rfl
  | ask q next ih => exact ih _ _

@[simp] theorem run_attempt (d : Dialogue α) :
    d.attempt.run world s = (.ok (d.run world s).1, (d.run world s).2) := by
  induction d generalizing s with
  | done a => rfl
  | fail e => rfl
  | ask q next ih => exact ih _ _

theorem run_bind_of_ok {d : Dialogue α} {a : α} {s s' : σ} (h : d.run world s = (.ok a, s'))
    (f : α → Dialogue β) : (d.bind f).run world s = (f a).run world s' := by
  rw [run_bind, h]

theorem run_bind_done (d : Dialogue α) (g : α → β) :
    ((d.bind fun a => done (g a)).run world s).1 = (d.run world s).1 >>= fun a => .ok (g a) := by
  rw [run_bind]
  rcases d.run world s with ⟨_ | _, _⟩ <;> rfl

theorem run_request_of_ok {q : Request} {a : q.Answer} {s : σ} (h : (world q s).1 = .ok a) :
    (request q).run world s = (.ok a, (world q s).2) := by
  rw [run_request]
  exact Prod.ext h rfl

/-- A composed dialogue ends well only through both of its parts. -/
theorem run_bind_eq_ok {d : Dialogue α} {f : α → Dialogue β} {b : β} {s t : σ}
    (h : (d.bind f).run world s = (.ok b, t)) :
    ∃ a s', d.run world s = (.ok a, s') ∧ (f a).run world s' = (.ok b, t) := by
  rw [run_bind] at h
  rcases hd : d.run world s with ⟨e | a, s'⟩
  · rw [hd] at h
    simp at h
  · rw [hd] at h
    exact ⟨a, s', rfl, h⟩

theorem run_done_eq_ok {a b : α} {s t : σ} (h : (done a).run world s = (.ok b, t)) :
    a = b ∧ s = t :=
  ⟨Except.ok.inj (Prod.mk.inj h).1, (Prod.mk.inj h).2⟩

theorem run_eq_of_isOk {d : Dialogue Unit} {s : σ} (h : (d.run world s).1.isOk = true) :
    d.run world s = (.ok (), (d.run world s).2) := by
  rcases hrun : d.run world s with ⟨_ | _, t⟩
  · rw [hrun] at h
    cases h
  · rfl

end Running

/-! ### Bounds on what is asked -/

/-- Every request is allowed, and a result satisfies `post`, for all answers that the
world can give. -/
inductive Keeps (world : World σ) (allowed : Request → Prop) (post : α → Prop) :
    Dialogue α → Prop where
  | done {a : α} (ha : post a) : Keeps world allowed post (.done a)
  | fail (e : Failure) : Keeps world allowed post (.fail e)
  | ask {q : Request} {next : Except Failure q.Answer → Dialogue α} (hq : allowed q)
    (hnext : ∀ s, Keeps world allowed post (next (world q s).1)) :
    Keeps world allowed post (.ask q next)

section Keeps
variable {world : World σ} {allowed : Request → Prop} {post : α → Prop}

theorem keeps_bind {post' : β → Prop} {d : Dialogue α} {f : α → Dialogue β}
    (hd : Keeps world allowed post d) (hf : ∀ a, post a → Keeps world allowed post' (f a)) :
    Keeps world allowed post' (d.bind f) := by
  induction hd with
  | done ha => exact hf _ ha
  | fail e => exact .fail e
  | ask hq _ ih => exact .ask hq ih

theorem keeps_seq {d : Dialogue β} {f : β → Dialogue α}
    (hd : Keeps world allowed (fun _ => True) d) (hf : ∀ b, Keeps world allowed post (f b)) :
    Keeps world allowed post (d.bind f) :=
  keeps_bind hd fun b _ => hf b

theorem keeps_attempt {d : Dialogue α} (hd : Keeps world allowed post d) :
    Keeps world allowed (fun r => ∀ a, r = .ok a → post a) d.attempt := by
  induction hd with
  | done ha => exact .done fun b hb => Except.ok.inj hb ▸ ha
  | fail e => exact .done fun b hb => by cases hb
  | ask hq _ ih => exact .ask hq ih

theorem keeps_request {q : Request} {post : q.Answer → Prop} (hq : allowed q)
    (hp : ∀ a, post a) : Keeps world allowed post (request q) := by
  refine .ask hq fun s => ?_
  cases (world q s).1 with
  | ok a => exact .done (hp a)
  | error e => exact .fail e

/-- The world has given the answer in some state. -/
theorem keeps_request_answer {q : Request} (hq : allowed q) :
    Keeps world allowed (fun a => ∃ s, (world q s).1 = .ok a) (request q) := by
  refine .ask hq fun s => ?_
  cases hr : (world q s).1 with
  | ok a => exact .done ⟨s, hr⟩
  | error e => exact .fail e

theorem keeps_request_bind {q : Request} {f : q.Answer → Dialogue α} (hq : allowed q)
    (hf : ∀ a, Keeps world allowed post (f a)) : Keeps world allowed post ((request q).bind f) :=
  keeps_seq (keeps_request hq fun _ => trivial) hf

theorem keeps_ofExcept {e : Except Failure α} (h : ∀ a, e = .ok a → post a) :
    Keeps world allowed post (ofExcept e) := by
  cases e with
  | ok a => exact .done (h a rfl)
  | error e => exact .fail e

theorem keeps_collect {ι : Type} {f : ι → Dialogue α} {xs : List ι}
    (hf : ∀ x ∈ xs, Keeps world allowed post (f x)) :
    Keeps world allowed (fun as => ∀ a ∈ as, post a) (collect xs f) := by
  induction xs with
  | nil => exact .done fun a ha => by cases ha
  | cons x xs ih =>
    have hrest := ih fun y hy => hf y (List.mem_cons_of_mem _ hy)
    refine keeps_bind (hf x List.mem_cons_self) fun a ha => keeps_bind hrest fun as has => .done ?_
    intro b hb
    rcases List.mem_cons.mp hb with rfl | hb
    · exact ha
    · exact has b hb

theorem Keeps.weaken {allowed' : Request → Prop} {post' : α → Prop} {d : Dialogue α}
    (hd : Keeps world allowed post d) (ha : ∀ q, allowed q → allowed' q)
    (hp : ∀ a, post a → post' a) : Keeps world allowed' post' d := by
  induction hd with
  | done h => exact .done (hp _ h)
  | fail e => exact .fail e
  | ask hq _ ih => exact .ask (ha _ hq) ih

theorem Keeps.run_post {d : Dialogue α} (hd : Keeps world allowed post d) {s : σ} {a : α}
    (h : (d.run world s).1 = .ok a) : post a := by
  induction hd generalizing s with
  | done hb => exact Except.ok.inj h ▸ hb
  | fail e => cases h
  | ask _ _ ih => exact ih s h

/-- What every allowed request preserves, a run preserves. -/
theorem Keeps.run_preserves (inv : σ → Prop) {d : Dialogue α} (hd : Keeps world allowed post d)
    (hstep : ∀ q s, allowed q → inv s → inv (world q s).2) {s : σ} (hs : inv s) :
    inv (d.run world s).2 := by
  induction hd generalizing s with
  | done _ => exact hs
  | fail e => exact hs
  | ask hq _ ih => exact ih s (hstep _ s hq hs)

/-- A run does not depend on what the world does with requests that are not allowed. -/
theorem Keeps.run_congr {world' : World σ} {d : Dialogue α} (hd : Keeps world allowed post d)
    (hsame : ∀ q s, allowed q → world' q s = world q s) (s : σ) :
    d.run world' s = d.run world s := by
  induction hd generalizing s with
  | done _ => rfl
  | fail _ => rfl
  | @ask q next hq _ ih =>
    rw [run_ask, run_ask, hsame q s hq]
    exact ih s _

end Keeps

/-! ### Results from every state -/

/-- A run from any state ends with a result, and that satisfies `post`. -/
def EndsWell (world : World σ) (post : α → Prop) (d : Dialogue α) : Prop :=
  ∀ s, ∃ a t, d.run world s = (.ok a, t) ∧ post a

section EndsWell
variable {world : World σ} {post : α → Prop}

theorem endsWell_done {a : α} (ha : post a) : EndsWell world post (.done a) :=
  fun s => ⟨a, s, rfl, ha⟩

theorem endsWell_ofExcept {e : Except Failure α} (h : ∃ a, e = .ok a ∧ post a) :
    EndsWell world post (ofExcept e) := by
  obtain ⟨a, rfl, ha⟩ := h
  exact endsWell_done ha

theorem endsWell_request {q : Request} {post : q.Answer → Prop}
    (h : ∀ s, ∃ a, (world q s).1 = .ok a ∧ post a) : EndsWell world post (request q) := by
  intro s
  obtain ⟨a, hanswer, ha⟩ := h s
  exact ⟨a, (world q s).2, run_request_of_ok world hanswer, ha⟩

theorem endsWell_bind {post' : β → Prop} {d : Dialogue α} {f : α → Dialogue β}
    (hd : EndsWell world post d) (hf : ∀ a, post a → EndsWell world post' (f a)) :
    EndsWell world post' (d.bind f) := by
  intro s
  obtain ⟨a, t, hrun, ha⟩ := hd s
  rw [run_bind_of_ok world hrun]
  exact hf a ha t

theorem endsWell_collect {ι : Type} {f : ι → Dialogue α} {xs : List ι}
    (hf : ∀ x ∈ xs, EndsWell world post (f x)) :
    EndsWell world (fun _ => True) (collect xs f) := by
  induction xs with
  | nil => exact endsWell_done trivial
  | cons x xs ih =>
    refine endsWell_bind (hf x List.mem_cons_self) fun a _ => ?_
    refine endsWell_bind (ih fun y hy => hf y (List.mem_cons_of_mem _ hy)) fun as _ => ?_
    exact endsWell_done trivial

end EndsWell

end CodeAtlas.Dialogue
