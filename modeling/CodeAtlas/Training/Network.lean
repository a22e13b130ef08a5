import CodeAtlas.Text.Search

/-! The classifier's network: a language model as backbone, most of which stays as
it is, and two layers on top. -/

namespace CodeAtlas.Training

/-- The language model that is the backbone. -/
def backboneName : String := "microsoft/codebert-base"

/-- Classes that are told apart. -/
def classCount : Int := 6

/-- Names of the classes. -/
def classLabels : List (Nat × String) :=
  [(0, "Python"), (1, "Java"), (2, "SQL"), (3, "HTML"), (4, "JavaScript"), (5, "PHP")]

/-- Width of the backbone's output. -/
def defaultWidth : Int := 768

/-- Width between the two layers on top. -/
def innerWidth : Int := 256

inductive Layer where
  | dropout (rate : Float)
  | linear (inputs outputs : Int)
  | relu
  | sequential (layers : List Layer)

/-- The layers on top of the backbone, in the order in which they are made. -/
def layers (width classes : Int) : List Layer :=
  let first := Layer.linear width innerWidth
  let second := Layer.linear innerWidth classes
  [.dropout 0.3, first, .relu, second, .sequential [first, .relu, second]]

/-- Parts of the names of those parameters that are trained. -/
def trainedParts : List String :=
  ["encoder.layer.10", "encoder.layer.11", "pooler", "LayerNorm"]

def isTrained (parameter : String) : Bool :=
  trainedParts.any (Text.contains · parameter)

/-- The place of the first greatest number. -/
def firstMaximum (xs : List Float) : Option Nat :=
  match xs with
  | [] => none
  | x :: rest =>
    let (best, _, _) := rest.foldl (fun (best, top, i) y =>
      if top < y then (i, y, i + 1) else (best, top, i + 1)) (0, x, 1)
    some best

end CodeAtlas.Training
