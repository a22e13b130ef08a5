import CodeAtlas.Decimal.Shortest
import CodeAtlas.Script.Tree
import CodeAtlas.Text.Quoted

/-! Keys written out in a dictionary, as far as they can be compared without running
anything. -/

namespace CodeAtlas.Lint

open Script

/-- A non-negative real number, or one beyond all that can be written. -/
inductive Amount where
  | finite (r : Decimal.Ratio)
  | infinite
  deriving Repr

def Amount.same : Amount → Amount → Bool
  | .finite a, .finite b => a.num * b.den == b.num * a.den
  | .infinite, .infinite => true
  | _, _ => false

def Amount.ofNat (n : Nat) : Amount := .finite ⟨n, 1⟩

def Amount.ofFloat (x : Float) : Amount :=
  match Decimal.Binary.ofFloat x with
  | .finite _ mantissa exponent _ => .finite (.shifted mantissa exponent)
  | _ => .infinite

/-- Real and imaginary part of a number; a truth value is a number too. -/
def amounts? : Constant → Option (Amount × Amount)
  | .truth b => some (.ofNat (if b then 1 else 0), .ofNat 0)
  | .int n => some (.ofNat n, .ofNat 0)
  | .float x => some (.ofFloat x, .ofNat 0)
  | .imaginary x => some (.ofNat 0, .ofFloat x)
  | _ => none

/-- Equality of values: numbers are equal across their kinds. -/
def sameConstant (a b : Constant) : Bool :=
  match amounts? a, amounts? b with
  | some (x, y), some (u, v) => x.same u && y.same v
  | none, none =>
    match a, b with
    | .nothing, .nothing | .ellipsis, .ellipsis => true
    | .text s, .text t | .bytes s, .bytes t => s == t
    | _, _ => false
  | _, _ => false

inductive Key where
  | constant (c : Constant)
  | tuple (items : List Key)
  | name (id : String)
  /-- A key whose value is not known; it differs from every other. -/
  | unknown
  deriving Repr, Inhabited

mutual

def Key.ofExpr : Expr → Key
  | .constant _ c => .constant c
  | .tuple _ _ items => .tuple (Key.ofExprs items)
  | .name _ _ id => .name id
  | _ => .unknown

def Key.ofExprs : List Expr → List Key
  | [] => []
  | e :: rest => Key.ofExpr e :: Key.ofExprs rest

end

mutual

def Key.same : Key → Key → Bool
  | .constant a, .constant b => sameConstant a b
  | .tuple a, .tuple b => Key.sameAll a b
  | .name a, .name b => a == b
  | _, _ => false

def Key.sameAll : List Key → List Key → Bool
  | [], [] => true
  | a :: as, b :: bs => a.same b && Key.sameAll as bs
  | _, _ => false

end

/-- A number without the fraction that whole numbers are shown with. -/
def shownImaginary (x : Float) : String :=
  let s := (Decimal.floatText x).toList
  String.ofList (if (['0', '.'] : List Char).isPrefixOf s.reverse then s.take (s.length - 2) else s)

/-- A value as messages show it. -/
def shownConstant : Constant → String
  | .nothing => "None"
  | .truth b => if b then "True" else "False"
  | .ellipsis => "Ellipsis"
  | .text points => Text.quotedPoints points
  | .bytes octets => Text.quotedBytes octets
  | .int n => toString n
  | .float x => Decimal.floatText x
  | .imaginary x => shownImaginary x ++ "j"

mutual

def Key.shown : Key → String
  | .constant c => shownConstant c
  | .tuple [k] => "(" ++ k.shown ++ ",)"
  | .tuple items => "(" ++ String.intercalate ", " (Key.shownAll items) ++ ")"
  | .name id => id
  | .unknown => ""

def Key.shownAll : List Key → List String
  | [] => []
  | k :: rest => k.shown :: Key.shownAll rest

end

/-- Whether some value differs from all the others. -/
def someAlone (values : List Key) : Bool :=
  values.any fun v => (values.filter v.same).length ≤ 1

/-- Of the entries whose keys occur more than once with different values: the key as it is
first written, and the place of the entry. -/
def repeatedKeys (keys values : List Key) : List (Key × Nat) :=
  let numbered := keys.zipIdx
  numbered.flatMap fun (key, i) =>
    let same := numbered.filter fun (k, _) => key.same k
    if same.length > 1 && (same.head?.map (·.2)) == some i &&
        someAlone (same.map fun (_, j) => values.getD j .unknown) then
      same.map fun (_, j) => (key, j)
    else []

end CodeAtlas.Lint
