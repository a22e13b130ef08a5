import CodeAtlas.Proofs.Dialogue.Laws

/-! What requests rely on. Some requests only come to something when a thing that they speak of
is there already. A dialogue is grounded when each of its requests finds what it relies on,
as long as some facts hold at the start and no request ever undoes a fact. Of the state in
which a request is answered nothing else is assumed, so a grounded dialogue stays grounded
beside others that use the same world. -/

namespace CodeAtlas.Dialogue

variable {α β σ φ : Type}

/-- No request undoes a fact. -/
def Lasting (world : World σ) (holds : σ → φ → Prop) : Prop :=
  ∀ q s x, holds s x → holds (world q s).2 x

/-- Each request finds what it needs in every state in which the known facts hold. Once it is
answered, all that holds then is known. -/
inductive Grounded (world : World σ) (holds : σ → φ → Prop) (needs : Request → φ → Prop)
    (post : α → (φ → Prop) → Prop) : (φ → Prop) → Dialogue α → Prop where
  | done {known : φ → Prop} {a : α} (ha : post a known) :
    Grounded world holds needs post known (.done a)
  | fail {known : φ → Prop} (e : Failure) : Grounded world holds needs post known (.fail e)
  | ask {known : φ → Prop} {q : Request} {next : Except Failure q.Answer → Dialogue α}
    (hneeds : ∀ x, needs q x → known x)
    (hnext : ∀ s, (∀ x, known x → holds s x) →
      Grounded world holds needs post (holds (world q s).2) (next (world q s).1)) :
    Grounded world holds needs post known (.ask q next)

section Grounded
variable {world : World σ} {holds : σ → φ → Prop} {needs : Request → φ → Prop}
  {post : α → (φ → Prop) → Prop} {known : φ → Prop}

/-- What was known before the first part is still known after it. -/
theorem Grounded.bind {post' : β → (φ → Prop) → Prop} {d : Dialogue α} {f : α → Dialogue β}
    (hlasting : Lasting world holds) (hd : Grounded world holds needs post known d)
    (hf : ∀ a known', (∀ x, known x → known' x) → post a known' →
      Grounded world holds needs post' known' (f a)) :
    Grounded world holds needs post' known (d.bind f) := by
  induction hd with
  | done ha => exact hf _ _ (fun _ hx => hx) ha
  | fail e => exact .fail e
  | ask hneeds _ ih =>
    refine .ask hneeds fun s hs => ih s hs fun a known' hknown' ha => ?_
    exact hf a known' (fun x hx => hknown' x (hlasting _ s x (hs x hx))) ha

theorem Grounded.attempt {d : Dialogue α} (hd : Grounded world holds needs post known d) :
    Grounded world holds needs (fun _ _ => True) known d.attempt := by
  induction hd with
  | done _ => exact .done trivial
  | fail e => exact .done trivial
  | ask hneeds _ ih => exact .ask hneeds ih

theorem grounded_request {q : Request} {post : q.Answer → (φ → Prop) → Prop}
    (hneeds : ∀ x, needs q x → known x)
    (hpost : ∀ s a, (world q s).1 = .ok a → post a (holds (world q s).2)) :
    Grounded world holds needs post known (request q) := by
  refine .ask hneeds fun s _ => ?_
  cases hr : (world q s).1 with
  | ok a => exact .done (hpost s a hr)
  | error e => exact .fail e

theorem grounded_ofExcept {e : Except Failure α} (h : ∀ a, e = .ok a → post a known) :
    Grounded world holds needs post known (ofExcept e) := by
  cases e with
  | ok a => exact .done (h a rfl)
  | error e => exact .fail e

/-- More may be known at the start. -/
theorem Grounded.mono {known' : φ → Prop} {d : Dialogue α}
    (hd : Grounded world holds needs (fun _ _ => True) known d)
    (hsub : ∀ x, known x → known' x) :
    Grounded world holds needs (fun _ _ => True) known' d := by
  cases hd with
  | done _ => exact .done trivial
  | fail e => exact .fail e
  | ask hneeds hnext =>
    exact .ask (fun x hx => hsub x (hneeds x hx))
      fun s hs => hnext s fun x hx => hs x (hsub x hx)

/-- Requests that need nothing are grounded anyhow. -/
theorem Keeps.grounded {allowed : Request → Prop} {post : α → Prop} {d : Dialogue α}
    (hd : Keeps world allowed post d) (hfree : ∀ q, allowed q → ∀ x, ¬ needs q x)
    (known : φ → Prop) : Grounded world holds needs (fun a _ => post a) known d := by
  induction hd generalizing known with
  | done ha => exact .done ha
  | fail e => exact .fail e
  | ask hq _ ih => exact .ask (fun x hx => absurd hx (hfree _ hq x)) fun s _ => ih s _

/-! ### Runs -/

/-- What a grounded dialogue ends with, of the facts that hold then. -/
theorem Grounded.run_post {d : Dialogue α} (hd : Grounded world holds needs post known d)
    (hmono : ∀ a known known', (∀ x, known x → known' x) → post a known → post a known')
    {s t : σ} {a : α} (hs : ∀ x, known x → holds s x) (h : d.run world s = (.ok a, t)) :
    post a (holds t) := by
  induction hd generalizing s with
  | done ha =>
    cases h
    exact hmono _ _ _ hs ha
  | fail e => cases h
  | ask _ _ ih => exact ih s hs (fun _ hx => hx) h

/-- Every request of a run, with the state in which it is asked. -/
def moments (world : World σ) : Dialogue α → σ → List (Request × σ)
  | .done _, _ | .fail _, _ => []
  | .ask q next, s => (q, s) :: (next (world q s).1).moments world (world q s).2

/-- In a run of a grounded dialogue every request finds what it needs. -/
theorem Grounded.needs_met {d : Dialogue α} (hd : Grounded world holds needs post known d) {s : σ}
    (hs : ∀ x, known x → holds s x) :
    ∀ m ∈ d.moments world s, ∀ x, needs m.1 x → holds m.2 x := by
  induction hd generalizing s with
  | done _ => exact fun m hm => by cases hm
  | fail e => exact fun m hm => by cases hm
  | ask hneeds _ ih =>
    intro m hm x hx
    rcases List.mem_cons.mp hm with rfl | hm
    · exact hs x (hneeds x hx)
    · exact ih s hs (fun _ h => h) m hm x hx

end Grounded

end CodeAtlas.Dialogue
