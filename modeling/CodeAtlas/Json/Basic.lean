import CodeAtlas.Decimal.Binary

/-! JSON values. Whole numbers and numbers with a fraction are told apart, and
an object keeps its fields in the order in which they first appeared. -/

namespace CodeAtlas

inductive Json where
  | null
  | bool (b : Bool)
  | int (n : Int)
  | float (x : Float)
  | string (s : String)
  | array (items : List Json)
  | object (fields : List (String × Json))
  deriving Repr, Inhabited

/-- Fields of an object, or of a record of the graph database. -/
abbrev Fields := List (String × Json)

namespace Fields

def get? (fs : Fields) (key : String) : Option Json :=
  fs.lookup key

/-- A field that is missing counts as null. -/
def getOrNull (fs : Fields) (key : String) : Json :=
  (fs.lookup key).getD .null

def has (fs : Fields) (key : String) : Bool :=
  fs.any (·.1 == key)

/-- Set a field in its place, or add it at the end. -/
def put (fs : Fields) (key : String) (value : Json) : Fields :=
  if fs.has key then fs.map fun f => if f.1 == key then (key, value) else f
  else fs ++ [(key, value)]

/-- Set every field of `new`. -/
def merge (fs new : Fields) : Fields :=
  new.foldl (fun fs f => fs.put f.1 f.2) fs

end Fields

namespace Json

def ofStrings (xs : List String) : Json := .array (xs.map .string)

def ofOption (x : Option Json) : Json := x.getD .null

/-- A text, or null. -/
def ofText? (x : Option String) : Json := (x.map Json.string).getD .null

def nat (n : Nat) : Json := .int n

/-- Empty and zero values, false and null are not truthy. -/
def truthy : Json → Bool
  | .null => false
  | .bool b => b
  | .int n => n != 0
  | .float x => x != 0.0
  | .string s => s != ""
  | .array items => !items.isEmpty
  | .object fields => !fields.isEmpty

def string? : Json → Option String
  | .string s => some s
  | _ => none

def array? : Json → Option (List Json)
  | .array xs => some xs
  | _ => none

def object? : Json → Option Fields
  | .object fs => some fs
  | _ => none

/-- The field of an object. -/
def field? (j : Json) (key : String) : Option Json :=
  j.object?.bind (·.get? key)

/-- The texts of a list, if it is one and holds nothing else. -/
def strings? (j : Json) : Option (List String) :=
  j.array?.bind (·.mapM string?)

/-- The value of a number; truth values count as one and zero. -/
def number? : Json → Option Float
  | .bool b => some (if b then 1.0 else 0.0)
  | .int n => some (Float.ofInt n)
  | .float x => some x
  | _ => none

/-- The whole number of a value that is one; truth values count as one and zero. -/
def whole? : Json → Option Int
  | .bool b => some (if b then 1 else 0)
  | .int n => some n
  | _ => none

/-- Whether a double is exactly a whole number. -/
def isWhole (n : Int) (x : Float) : Bool :=
  match Decimal.Binary.ofFloat x with
  | .finite negative mantissa exponent _ =>
    let m : Int := if negative then -(mantissa : Int) else mantissa
    if exponent ≥ 0 then n == m * (Nat.pow 2 exponent.toNat : Nat)
    else n * (Nat.pow 2 (-exponent).toNat : Nat) == m
  | _ => false

mutual

/-- Equality of values: numbers by value, objects without regard to order. -/
def same : Json → Json → Bool
  | .null, .null => true
  | .string a, .string b => a == b
  | .array xs, .array ys => sameAll xs ys
  | .object xs, .object ys => xs.length == ys.length && sameFields xs ys
  | a, b =>
    match a.whole?, b.whole? with
    | some m, some n => m == n
    | some m, none =>
      match b with
      | .float y => isWhole m y
      | _ => false
    | none, some n =>
      match a with
      | .float x => isWhole n x
      | _ => false
    | none, none =>
      match a, b with
      | .float x, .float y => x == y
      | _, _ => false

def sameAll : List Json → List Json → Bool
  | [], [] => true
  | x :: xs, y :: ys => same x y && sameAll xs ys
  | _, _ => false

/-- Every field of the first has an equal one in the second. -/
def sameFields : Fields → Fields → Bool
  | [], _ => true
  | (k, x) :: xs, ys =>
    (match ys.lookup k with
      | some y => same x y
      | none => false) && sameFields xs ys

end

end Json

end CodeAtlas
