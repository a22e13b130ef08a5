import CodeAtlas.Request

/-! Computations that talk to the outside. A dialogue is finished, has failed, or
asks for something and goes on with the answer, which may be a failure too. It
does nothing by itself: running it takes a world that answers. -/

namespace CodeAtlas

inductive Dialogue (α : Type) : Type where
  | done (a : α)
  | fail (e : Failure)
  | ask (q : Request) (next : Except Failure q.Answer → Dialogue α)

namespace Dialogue

variable {α β σ : Type}

def bind : Dialogue α → (α → Dialogue β) → Dialogue β
  | .done a, f => f a
  | .fail e, _ => .fail e
  | .ask q next, f => .ask q fun r => (next r).bind f

instance : Monad Dialogue where
  pure := .done
  bind := bind

/-- Ask, and fail if the answer is a failure. -/
def request (q : Request) : Dialogue q.Answer :=
  .ask q fun r =>
    match r with
    | .ok a => .done a
    | .error e => .fail e

/-- Go on with a failure as a value. -/
def attempt : Dialogue α → Dialogue (Except Failure α)
  | .done a => .done (.ok a)
  | .fail e => .done (.error e)
  | .ask q next => .ask q fun r => (next r).attempt

/-- A result that is already known. -/
def ofExcept : Except Failure α → Dialogue α
  | .ok a => .done a
  | .error e => .fail e

instance : MonadLift (Except Failure) Dialogue where
  monadLift := ofExcept

/-- Answers to requests, from a state that they may change. -/
abbrev World (σ : Type) := (q : Request) → σ → Except Failure q.Answer × σ

/-- Carry a dialogue out in a world. -/
def run (world : World σ) : Dialogue α → σ → Except Failure α × σ
  | .done a, s => (.ok a, s)
  | .fail e, s => (.error e, s)
  | .ask q next, s =>
    let (r, s) := world q s
    (next r).run world s

/-- Do something for every item, in order. -/
def forEach {ι : Type} : List ι → (ι → Dialogue Unit) → Dialogue Unit
  | [], _ => .done ()
  | x :: xs, f => (f x).bind fun _ => forEach xs f

/-- Do something for every item, in order, and collect the results. -/
def collect {ι : Type} : List ι → (ι → Dialogue α) → Dialogue (List α)
  | [], _ => .done []
  | x :: xs, f => (f x).bind fun a => (collect xs f).bind fun as => .done (a :: as)

end Dialogue

end CodeAtlas
