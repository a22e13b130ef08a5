import CodeAtlas.Failure
import CodeAtlas.Text.Fraction

/-! What a model gives out: numbers in a block of some shape, from nested lists. Lists at one
depth have one length, or there is no block. -/

namespace CodeAtlas.Classifier

/-- A block of numbers: its extents, outermost first, and its cells in order. -/
structure Outputs where
  shape : List Nat
  cells : List Float
  deriving Repr, Inhabited

mutual

/-- The lengths of the lists on the way down to the first cell. -/
def firstShape : Json → List Nat
  | .array xs => xs.length :: firstShapeIn xs
  | _ => []

def firstShapeIn : List Json → List Nat
  | [] => []
  | x :: _ => firstShape x

end

/-- How many extents lists have in common, and whether that is all there is of them. -/
structure Fit where
  extents : Nat
  even : Bool
  deriving Repr, DecidableEq

mutual

/-- Compare what stands at a depth with the extents that are expected. -/
def fitAt (shape : List Nat) (depth : Nat) (fit : Fit) : Json → Fit
  | .array xs =>
    if fit.extents ≤ depth then { fit with even := false }
    else if shape[depth]? ≠ some xs.length then ⟨depth, false⟩
    else fitItems shape (depth + 1) fit xs
  | _ =>
    if depth < fit.extents then ⟨depth, false⟩
    else { fit with even := fit.even && depth == fit.extents }

def fitItems (shape : List Nat) (depth : Nat) (fit : Fit) : List Json → Fit
  | [] => fit
  | x :: xs => fitItems shape depth (fitAt shape depth fit x) xs

end

/-- Extents as they are shown. -/
def shapeText : List Nat → String
  | [n] => "(" ++ toString n ++ ",)"
  | ns => "(" ++ ", ".intercalate (ns.map toString) ++ ")"

/-- The shape of nested lists. -/
def shapeOf (v : Json) : Except Failure (List Nat) :=
  let shape := firstShape v
  let fit := fitAt shape 0 ⟨shape.length, true⟩ v
  if fit.even then .ok shape
  else
    .error (.badValue ("setting an array element with a sequence. The requested array has an " ++
      "inhomogeneous shape after " ++ toString fit.extents ++ " dimensions. The detected shape " ++
      "was " ++ shapeText (shape.take fit.extents) ++ " + inhomogeneous part."))

/-- The number in a cell; null is no number, and a text is read. -/
def cellOf (v : Json) : Except Failure Float :=
  match v with
  | .null => .ok (0.0 / 0.0)
  | .string s =>
    match Text.readFloat? s with
    | some x => .ok x
    | none => .error (.badValue ("could not convert string to float: " ++ Text.quoted s))
  | v =>
    match v.number? with
    | some x => .ok x
    | none =>
      .error (.wrongType ("a number is needed, not '" ++ v.typeName ++ "'"))

mutual

/-- The cells of nested lists in order. -/
def cellsOf : Json → List Json
  | .array xs => cellsIn xs
  | v => [v]

def cellsIn : List Json → List Json
  | [] => []
  | x :: xs => cellsOf x ++ cellsIn xs

end

/-- The block that nested lists make up. -/
def Outputs.ofJson (v : Json) : Except Failure Outputs := do
  let shape ← shapeOf v
  pure ⟨shape, ← (cellsOf v).mapM cellOf⟩

/-- The place of the first cell of a row that is no number, or else of the first that is
greatest. -/
def greatest (best : Nat) (top : Float) (i : Nat) : List Float → Nat
  | [] => best
  | y :: ys =>
    if top.isNaN then best
    else if y ≤ top then greatest best top (i + 1) ys
    else greatest i y (i + 1) ys

/-- The place of the greatest output in the first row. There has to be one row in the first
of the outermost lists. -/
def Outputs.choice (o : Outputs) : Except Failure Nat :=
  match o.shape.reverse, o.cells with
  | 0 :: _, _ => .error (.badValue "attempt to get argmax of an empty sequence")
  | width :: inner@(_ :: _), x :: xs =>
    if inner.dropLast.all (· == 1) then .ok (greatest 0 x 1 (xs.take (width - 1)))
    else .error (.wrongType "one row is needed")
  | _, _ => .error .outOfRange

end CodeAtlas.Classifier
