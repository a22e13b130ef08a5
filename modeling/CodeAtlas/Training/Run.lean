import CodeAtlas.Json.Writer
import CodeAtlas.Training.Corpus
import CodeAtlas.Training.Fit

/-! A whole training: the table is read, its labels are numbered, and the network is
trained on most of it and checked on the rest. -/

namespace CodeAtlas.Training

/-- A table with named columns. -/
structure Table where
  columns : List String
  rows : List (List String)
  deriving Repr, DecidableEq

/-- The values of a column. -/
def Table.column (t : Table) (name : String) : Except Failure (List String) :=
  match t.columns.idxOf? name with
  | some i => .ok (t.rows.map fun r => (r[i]?).getD "")
  | none => .error (.missingKey (.string name))

/-- The distinct labels in order. -/
def labelNames (labels : List String) : List String :=
  labels.eraseDups.mergeSort fun a b => decide (a ≤ b)

/-- The number of a label is its place among all. -/
def labelNumbers (labels : List String) : List Nat :=
  labels.map ((labelNames labels).idxOf ·)

/-- Labels as they are kept for later. -/
def labelsText (labels : List String) : String :=
  (Json.ofStrings (labelNames labels)).write

/-- Four fifths are trained on. -/
def trainSize (total : Nat) : Nat :=
  (0.8 * total.toFloat).toUInt64.toNat

/-- Full batches, and a smaller one for what is left. -/
def batches (size : Nat) : Nat → Nat → List Nat
  | 0, _ => []
  | _, 0 => []
  | fuel + 1, n => if n ≤ size then [n] else size :: batches size fuel (n - size)

def loaderOf (n : Nat) : Loader :=
  ⟨batches batchSize n n, n⟩

/-- Train on a table. The labels are handed on as soon as they are known. -/
def train (t : Table) (parameters : List String) :
    Except Failure String × (Session Unit) :=
  match t.column "code_snippet", t.column "label" with
  | .error e, _ | .ok _, .error e => (.error e, throw e)
  | .ok texts, .ok labels =>
    (.ok (labelsText labels), do
      note (.tokenize texts)
      note (.labels (labelNumbers labels))
      let total := texts.length
      let first := trainSize total
      note (.split total [first, total - first])
      note (.loader first batchSize true)
      note (.loader (total - first) batchSize false)
      makeNetwork defaultWidth classCount
      fit parameters defaultRegime (loaderOf first) (loaderOf (total - first)) 0.0)

/-- Write the trained network out for use. -/
def exportNetwork (width : Int) : Session Unit := do
  makeNetwork width classCount
  note .loadState
  note .evalMode
  note .randomIds
  note .fullMask
  note .export_
  print "ONNX export complete!"

end CodeAtlas.Training
