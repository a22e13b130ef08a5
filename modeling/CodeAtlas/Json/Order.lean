import CodeAtlas.Json.Basic

/-! The order of values. Numbers go by value, texts by code points, and lists by the first
items in which they differ. Values of different kinds, objects and null have no order. -/

namespace CodeAtlas.Json

/-- How a whole number compares with a double that is one. -/
def compareWhole? (n : Int) (x : Float) : Option Ordering :=
  match Decimal.Binary.ofFloat x with
  | .nan => none
  | .infinite negative => some (if negative then .gt else .lt)
  | .finite negative mantissa exponent _ =>
    let m : Int := if negative then -(mantissa : Int) else mantissa
    if exponent ≥ 0 then some (compare n (m * (Nat.pow 2 exponent.toNat : Nat)))
    else some (compare (n * (Nat.pow 2 (-exponent).toNat : Nat)) m)

def compareFloat? (x y : Float) : Option Ordering :=
  if x < y then some .lt else if y < x then some .gt else if x == y then some .eq else none

/-- How two numbers compare; truth values count as one and zero. -/
def compareNumber? (a b : Json) : Option Ordering :=
  match a.whole?, b.whole?, a, b with
  | some m, some n, _, _ => some (compare m n)
  | some m, none, _, .float y => compareWhole? m y
  | none, some n, .float x, _ => (compareWhole? n x).map Ordering.swap
  | none, none, .float x, .float y => compareFloat? x y
  | _, _, _, _ => none

mutual

/-- How two values compare, if they do. -/
def compare? : Json → Json → Option Ordering
  | .string a, .string b => some (compare a b)
  | .array xs, .array ys => compareItems? xs ys
  | a, b => compareNumber? a b

def compareItems? : List Json → List Json → Option Ordering
  | [], [] => some .eq
  | [], _ :: _ => some .lt
  | _ :: _, [] => some .gt
  | x :: xs, y :: ys => if same x y then compareItems? xs ys else compare? x y

end

/-- Whether a value does not come after another. -/
def isLe (a b : Json) : Bool :=
  match compare? a b with
  | some .gt => false
  | _ => true

/-- Whether any two of the values compare. -/
def areOrdered : List Json → Bool
  | [] => true
  | x :: xs => xs.all (fun y => (compare? x y).isSome) && areOrdered xs

end CodeAtlas.Json
