import CodeAtlas.Proofs.Dialogue.Laws

/-! What is said in a run: every request with its answer, in order. One dialogue pads another
when it asks the same and in between some extra requests, of whose answers only a failure
matters. In a world where the extra requests leave no trace in what the others get to see,
both then have the same conversation, up to the first extra request that fails. -/

namespace CodeAtlas.Dialogue

variable {α β σ ν : Type}

/-- A request with the answer that it got. -/
structure Exchange where
  request : Request
  answer : Except Failure request.Answer

/-- All that is asked and answered when a dialogue is carried out. -/
def transcript (world : World σ) : Dialogue α → σ → List Exchange
  | .done _, _ | .fail _, _ => []
  | .ask q next, s => ⟨q, (world q s).1⟩ :: (next (world q s).1).transcript world (world q s).2

section Transcript
variable (world : World σ) (s : σ)

@[simp] theorem transcript_done (a : α) : (done a).transcript world s = [] := rfl

@[simp] theorem transcript_fail (e : Failure) :
    (fail e : Dialogue α).transcript world s = [] := rfl

@[simp] theorem transcript_ask (q : Request) (next : Except Failure q.Answer → Dialogue α) :
    (ask q next).transcript world s =
      ⟨q, (world q s).1⟩ :: (next (world q s).1).transcript world (world q s).2 := rfl

@[simp] theorem transcript_request (q : Request) :
    (request q).transcript world s = [⟨q, (world q s).1⟩] := by
  rw [request, transcript_ask]
  cases (world q s).1 <;> rfl

/-- The second part goes on where the first one ends, unless that has failed. -/
theorem transcript_bind (d : Dialogue α) (f : α → Dialogue β) :
    (d.bind f).transcript world s = d.transcript world s ++
      match d.run world s with
      | (.ok a, s) => (f a).transcript world s
      | (.error _, _) => [] := by
  induction d generalizing s with
  | done a => rfl
  | fail e => rfl
  | ask q next ih =>
    rw [ask_bind, transcript_ask, transcript_ask, run_ask, List.cons_append, ih]

/-- Nothing else is said when a failure is caught. -/
@[simp] theorem transcript_attempt (d : Dialogue α) :
    d.attempt.transcript world s = d.transcript world s := by
  induction d generalizing s with
  | done a => rfl
  | fail e => rfl
  | ask q next ih =>
    rw [attempt, transcript_ask, transcript_ask, ih]

/-- Every answer in a conversation is one that the world gives. -/
theorem answer_of_mem_transcript {d : Dialogue α} {e : Exchange}
    (he : e ∈ d.transcript world s) : ∃ t, e.answer = (world e.request t).1 := by
  induction d generalizing s with
  | done _ => cases he
  | fail _ => cases he
  | ask q next ih =>
    rcases List.mem_cons.mp he with rfl | he
    · exact ⟨s, rfl⟩
    · exact ih _ _ he

end Transcript

section Keeps
variable {world : World σ} {allowed : Request → Prop} {post : α → Prop} {d : Dialogue α}

theorem Keeps.allowed_of_mem_transcript (hd : Keeps world allowed post d) {s : σ} {e : Exchange}
    (he : e ∈ d.transcript world s) : allowed e.request := by
  induction hd generalizing s with
  | done _ => cases he
  | fail _ => cases he
  | ask hq _ ih =>
    rcases List.mem_cons.mp he with rfl | he
    · exact hq
    · exact ih s he

section FilterMap
variable {γ : Type} {g : Exchange → Option γ} {s t : σ}

theorem Keeps.filterMap_eq_nil (hd : Keeps world allowed post d)
    (hg : ∀ e, allowed e.request → g e = none) (s : σ) :
    (d.transcript world s).filterMap g = [] :=
  List.filterMap_eq_nil_iff.mpr fun e he => hg e (hd.allowed_of_mem_transcript he)

/-- What the first part does not say is said by the second. -/
theorem Keeps.filterMap_bind_ok (hd : Keeps world allowed post d)
    (hg : ∀ e, allowed e.request → g e = none) {a : α} (hrun : d.run world s = (.ok a, t))
    (f : α → Dialogue β) :
    ((d.bind f).transcript world s).filterMap g = ((f a).transcript world t).filterMap g := by
  rw [transcript_bind, hrun, List.filterMap_append, hd.filterMap_eq_nil hg, List.nil_append]

theorem Keeps.filterMap_bind_error (hd : Keeps world allowed post d)
    (hg : ∀ e, allowed e.request → g e = none) {e : Failure} (hrun : d.run world s = (.error e, t))
    (f : α → Dialogue β) : ((d.bind f).transcript world s).filterMap g = [] := by
  rw [transcript_bind, hrun, List.append_nil, hd.filterMap_eq_nil hg]

end FilterMap

/-- Where the answers to all that may be asked never change, a dialogue goes the same way from
every state. -/
theorem Keeps.same_way (hd : Keeps world allowed post d)
    (hsteady : ∀ q s t, allowed q → (world q s).1 = (world q t).1) (s t : σ) :
    (d.run world s).1 = (d.run world t).1 ∧ d.transcript world s = d.transcript world t := by
  induction hd generalizing s t with
  | done _ => exact ⟨rfl, rfl⟩
  | fail _ => exact ⟨rfl, rfl⟩
  | @ask q next hq _ ih =>
    obtain ⟨hrun, hsaid⟩ := ih s (world q s).2 (world q t).2
    rw [transcript_ask, transcript_ask, run_ask, run_ask, hsteady q t s hq]
    exact ⟨hrun, congrArg _ hsaid⟩

end Keeps

/-! ### Extra requests -/

variable {extra : Request → Bool}

/-- The first dialogue is the second one with extra requests put in between. It goes on after
an extra request whatever the answer, unless that is a failure, with which it ends. -/
inductive Pads (extra : Request → Bool) : Dialogue α → Dialogue α → Prop where
  | done (a : α) : Pads extra (.done a) (.done a)
  | fail (e : Failure) : Pads extra (.fail e) (.fail e)
  | ask {q : Request} {next next' : Except Failure q.Answer → Dialogue α} (hq : extra q = false)
    (h : ∀ r, Pads extra (next r) (next' r)) : Pads extra (.ask q next) (.ask q next')
  | put {q : Request} {next : Except Failure q.Answer → Dialogue α} {d : Dialogue α}
    (hq : extra q = true) (hok : ∀ a, Pads extra (next (.ok a)) d)
    (herror : ∀ e, next (.error e) = .fail e) : Pads extra (.ask q next) d

theorem Pads.bind {d d' : Dialogue α} {f f' : α → Dialogue β} (hd : Pads extra d d')
    (hf : ∀ a, Pads extra (f a) (f' a)) : Pads extra (d.bind f) (d'.bind f') := by
  induction hd with
  | done a => exact hf a
  | fail e => exact .fail e
  | ask hq _ ih => exact .ask hq ih
  | put hq _ herror ih =>
    refine .put hq ih fun e => ?_
    rw [herror, fail_bind]

theorem pads_request {q : Request} (hq : extra q = false) :
    Pads extra (request q) (request q) := by
  refine .ask hq fun r => ?_
  cases r with
  | ok a => exact .done a
  | error e => exact .fail e

theorem pads_ofExcept (e : Except Failure α) : Pads extra (ofExcept e) (ofExcept e) := by
  cases e with
  | ok a => exact .done a
  | error e => exact .fail e

theorem pads_attempt_request {q : Request} (hq : extra q = false) :
    Pads extra (request q).attempt (request q).attempt := by
  refine .ask hq fun r => ?_
  cases r with
  | ok a => exact .done _
  | error e => exact .done _

/-- Extra requests stay unseen: states that look the same give the same answers to all other
requests and look the same after them, and an extra request changes nothing of the look. -/
structure Unseen (world : World σ) (extra : Request → Bool) (view : σ → ν) : Prop where
  answer : ∀ q s t, extra q = false → view s = view t →
    (world q s).1 = (world q t).1 ∧ view (world q s).2 = view (world q t).2
  frame : ∀ q s, extra q = true → view (world q s).2 = view s

/-- What is said besides the extra requests. -/
def besides (extra : Request → Bool) (es : List Exchange) : List Exchange :=
  es.filter fun e => !extra e.request

theorem besides_cons_of_false {e : Exchange} (h : extra e.request = false) (es : List Exchange) :
    besides extra (e :: es) = e :: besides extra es := by
  simp [besides, h]

theorem besides_cons_of_true {e : Exchange} (h : extra e.request = true) (es : List Exchange) :
    besides extra (e :: es) = besides extra es := by
  simp [besides, h]

/-- No extra request fails. -/
def ExtrasGoWell (extra : Request → Bool) (es : List Exchange) : Prop :=
  ∀ e ∈ es, extra e.request = true → e.answer.isOk = true

section Pads
variable {world : World σ} {view : σ → ν} {d d' : Dialogue α} {s t : σ}

/-- The padded dialogue has no other conversation than the plain one. -/
theorem Pads.transcript_prefix (h : Pads extra d d') (hw : Unseen world extra view)
    (hst : view s = view t) : besides extra (d.transcript world s) <+: d'.transcript world t := by
  induction h generalizing s t with
  | done a => exact List.prefix_rfl
  | fail e => exact List.prefix_rfl
  | @ask q next next' hq _ ih =>
    obtain ⟨hanswer, hview⟩ := hw.answer q s t hq hst
    rw [transcript_ask, transcript_ask, besides_cons_of_false hq, hanswer]
    exact (List.prefix_cons_inj _).mpr (ih _ hview)
  | @put q next d' hq _ herror ih =>
    rw [transcript_ask, besides_cons_of_true hq]
    cases (world q s).1 with
    | ok a => exact ih a ((hw.frame q s hq).trans hst)
    | error e =>
      rw [herror, transcript_fail]
      exact List.nil_prefix

/-- Unless an extra request fails, both have the whole conversation and end in the same way. -/
theorem Pads.transcript_eq (h : Pads extra d d') (hw : Unseen world extra view)
    (hst : view s = view t) (hok : ExtrasGoWell extra (d.transcript world s)) :
    besides extra (d.transcript world s) = d'.transcript world t ∧
      (d.run world s).1 = (d'.run world t).1 ∧
      view (d.run world s).2 = view (d'.run world t).2 := by
  induction h generalizing s t with
  | done a => exact ⟨rfl, rfl, hst⟩
  | fail e => exact ⟨rfl, rfl, hst⟩
  | @ask q next next' hq _ ih =>
    obtain ⟨hanswer, hview⟩ := hw.answer q s t hq hst
    rw [transcript_ask] at hok
    obtain ⟨hsaid, hend⟩ := ih _ hview fun e he => hok e (List.mem_cons_of_mem _ he)
    rw [transcript_ask, transcript_ask, besides_cons_of_false hq, hsaid, run_ask, run_ask, hanswer]
    rw [hanswer] at hend
    exact ⟨rfl, hend⟩
  | @put q next d' hq _ herror ih =>
    rw [transcript_ask] at hok
    have hgood : (world q s).1.isOk = true := hok _ List.mem_cons_self hq
    rw [transcript_ask, besides_cons_of_true hq, run_ask]
    cases hr : (world q s).1 with
    | ok a =>
      rw [hr] at hok
      exact ih a ((hw.frame q s hq).trans hst) fun e he => hok e (List.mem_cons_of_mem _ he)
    | error e =>
      rw [hr] at hgood
      cases hgood

/-- An extra request that fails is how the padded dialogue ends. -/
theorem Pads.run_of_failed (h : Pads extra d d') {e : Exchange}
    (he : e ∈ d.transcript world s) (hextra : extra e.request = true) {why : Failure}
    (hfail : e.answer = .error why) : (d.run world s).1 = .error why := by
  induction h generalizing s with
  | done a => cases he
  | fail e => cases he
  | @ask q next next' hq _ ih =>
    rcases List.mem_cons.mp he with rfl | he
    · rw [hq] at hextra
      cases hextra
    · exact ih _ he
  | @put q next d' hq _ herror ih =>
    rw [run_ask]
    rcases List.mem_cons.mp he with rfl | he
    · rw [show (world q s).1 = .error why from hfail, herror, run_fail]
    · cases hr : (world q s).1 with
      | ok a =>
        rw [hr] at he
        exact ih a he
      | error e' =>
        rw [hr, herror] at he
        cases he

end Pads

end CodeAtlas.Dialogue
