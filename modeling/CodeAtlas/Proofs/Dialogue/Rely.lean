import CodeAtlas.Proofs.Dialogue.Laws

/-! What a dialogue brings about beside others that use the same world. Before each of its requests
the others may have moved the state along a relation, and its own requests move the state along
that relation too. A result comes with a fact about the state at that moment, which still holds
later if no move along the relation undoes it. -/

namespace CodeAtlas.Dialogue

variable {α β σ : Type}

/-- Others may move the state along `rel` before each request, each request moves it along `rel`,
and a result satisfies `post` at the moment when it is there. -/
inductive Secures (world : World σ) (rel : σ → σ → Prop) (post : α → σ → Prop) :
    σ → Dialogue α → Prop where
  | done {s : σ} {a : α} (ha : post a s) : Secures world rel post s (.done a)
  | fail {s : σ} (e : Failure) : Secures world rel post s (.fail e)
  | ask {s : σ} {q : Request} {next : Except Failure q.Answer → Dialogue α}
    (hmove : ∀ t, rel s t → rel t (world q t).2)
    (hnext : ∀ t, rel s t → Secures world rel post (world q t).2 (next (world q t).1)) :
    Secures world rel post s (.ask q next)

section Secures
variable {world : World σ} {rel : σ → σ → Prop} {post : α → σ → Prop} {s : σ}

theorem Secures.weaken {post' : α → σ → Prop} {d : Dialogue α} (hd : Secures world rel post s d)
    (hp : ∀ a t, post a t → post' a t) : Secures world rel post' s d := by
  induction hd with
  | done ha => exact .done (hp _ _ ha)
  | fail e => exact .fail e
  | ask hmove _ ih => exact .ask hmove ih

/-- Requests that move the state along the relation whatever the state. -/
theorem Keeps.secures {allowed : Request → Prop} {post : α → Prop} {d : Dialogue α}
    (hd : Keeps world allowed post d) (hmove : ∀ q t, allowed q → rel t (world q t).2) (s : σ) :
    Secures world rel (fun a _ => post a) s d := by
  induction hd generalizing s with
  | done ha => exact .done ha
  | fail e => exact .fail e
  | ask hq _ ih => exact .ask (fun t _ => hmove _ t hq) fun t _ => ih t _

section Transitive
variable (htrans : ∀ s t u, rel s t → rel t u → rel s u)
include htrans

/-- Others may move on before the dialogue begins. -/
theorem Secures.moved {t : σ} {d : Dialogue α} (hd : Secures world rel post s d)
    (hstable : ∀ a s t, rel s t → post a s → post a t) (hst : rel s t) :
    Secures world rel post t d := by
  cases hd with
  | done ha => exact .done (hstable _ _ _ hst ha)
  | fail e => exact .fail e
  | ask hmove hnext =>
    exact .ask (fun u htu => hmove u (htrans _ _ _ hst htu)) fun u htu =>
      hnext u (htrans _ _ _ hst htu)

/-- The second part begins at the moment when the first one has its result. -/
theorem Secures.bind {post' : β → σ → Prop} (hrefl : ∀ s, rel s s) {d : Dialogue α}
    {f : α → Dialogue β} (hd : Secures world rel post s d)
    (hf : ∀ a t, rel s t → post a t → Secures world rel post' t (f a)) :
    Secures world rel post' s (d.bind f) := by
  induction hd with
  | done ha => exact hf _ _ (hrefl _) ha
  | fail e => exact .fail e
  | @ask s q next hmove _ ih =>
    refine .ask hmove fun t hst => ih t hst fun a u htu ha => hf a u ?_ ha
    exact htrans _ _ _ (htrans _ _ _ hst (hmove t hst)) htu

/-- What no move undoes stays. -/
theorem Secures.frame {d : Dialogue α} (hd : Secures world rel post s d) (fact : σ → Prop)
    (hfact : ∀ s t, rel s t → fact s → fact t) (hs : fact s) :
    Secures world rel (fun a t => post a t ∧ fact t) s d := by
  induction hd with
  | done ha => exact .done ⟨ha, hs⟩
  | fail e => exact .fail e
  | @ask s q next hmove _ ih =>
    exact .ask hmove fun t hst => ih t hst (hfact _ _ (htrans _ _ _ hst (hmove t hst)) hs)

end Transitive

theorem secures_request {q : Request} {post : q.Answer → σ → Prop}
    (hmove : ∀ t, rel s t → rel t (world q t).2)
    (hpost : ∀ t a, rel s t → (world q t).1 = .ok a → post a (world q t).2) :
    Secures world rel post s (request q) := by
  refine .ask hmove fun t hst => ?_
  cases hr : (world q t).1 with
  | ok a => exact .done (hpost t a hst hr)
  | error e => exact .fail e

end Secures

end CodeAtlas.Dialogue
