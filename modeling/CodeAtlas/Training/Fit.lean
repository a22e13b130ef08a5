import CodeAtlas.Decimal.Fixed
import CodeAtlas.Failure
import CodeAtlas.Training.Network

/-! Training the network. Gradients of several batches are added up before the
weights are changed; after every round the loss on other data decides whether the
model is kept and whether training goes on. What happens is written down step by
step, and the losses are given from outside. -/

namespace CodeAtlas.Training

/-! ### When to stop

A model is kept whenever its loss is below all earlier ones, and training ends after several
rounds without that. -/

/-- The best loss so far, and for how many rounds it has stood. -/
structure Watch (α : Type) where
  best : α
  waited : Nat
  deriving Repr, DecidableEq

inductive Verdict where
  /-- The loss is a new best: keep the model. -/
  | better
  | wait
  /-- It has not become better for too long. -/
  | stop
  deriving Repr, DecidableEq

/-- Judge the loss of a round. -/
def Watch.see {α : Type} (lt : α → α → Bool) (patience : Int) (w : Watch α) (loss : α) :
    Verdict × Watch α :=
  if lt loss w.best then (.better, ⟨loss, 0⟩)
  else (if patience ≤ w.waited + 1 then .stop else .wait, ⟨w.best, w.waited + 1⟩)

/-! ### Steps of training -/

/-- A step of drawing the curve of losses. -/
inductive Plot where
  | figure
  | curve (losses : List Float) (label : String)
  | title (text : String)
  | xlabel (text : String)
  | ylabel (text : String)
  | legend
  | grid
  | tightLayout
  | savefig (file : String)
  | close

/-- A step of training. -/
inductive Event where
  | backbone
  | layer (l : Layer)
  | optimizer (trained : List String) (rate : Float)
  | trainMode
  | evalMode
  | zeroGrad
  | backward (loss : Float)
  | step
  | update
  | save
  | loadState
  | plot (p : Plot)
  | tokenize (texts : List String)
  | labels (numbers : List Nat)
  | split (total : Nat) (parts : List Nat)
  | loader (length batchSize : Nat) (shuffle : Bool)
  | randomIds
  | fullMask
  | export_

/-- What was done and printed, and the losses that are still to come. -/
structure Journal where
  events : List Event
  printed : List String
  losses : List Float

/-- A part of the training, which may fail. -/
abbrev Session := ExceptT Failure (StateM Journal)

def note (e : Event) : Session Unit :=
  modify fun j => { j with events := j.events ++ [e] }

def print (line : String) : Session Unit :=
  modify fun j => { j with printed := j.printed ++ [line] }

/-- The next loss. -/
def nextLoss : Session Float := do
  let j ← get
  match j.losses with
  | [] => throw .outOfRange
  | l :: rest =>
    set { j with losses := rest }
    pure l

/-- Data in batches of certain sizes, and how much there is of it. -/
structure Loader where
  batches : List Nat
  size : Nat
  deriving Repr, DecidableEq

/-- Where the weights are kept. -/
def stateFile : String := "model.pth"

/-- Where the curve of losses goes. -/
def curveFile : String := "loss_curve.png"

/-- Rounds and batches, unless told otherwise. -/
def defaultEpochs : Nat := 20

def defaultAccumulation : Int := 2

def defaultPatience : Int := 5

def batchSize : Nat := 16

def learningRate : Float := 2e-5

/-- Make the network. -/
def makeNetwork (width classes : Int) : Session Unit := do
  note .backbone
  (layers width classes).forM fun l => note (.layer l)

/-- Whether the weights are changed after a batch. -/
def updatesAfter (accumulation : Int) (step : Nat) : Bool :=
  ((step : Int) + 1) % accumulation == 0

/-- One batch; gives its share of the loss. -/
def trainBatch (accumulation : Int) (step size : Nat) : Session Float := do
  let loss ← nextLoss
  if accumulation = 0 then throw .divisionByZero
  let scaled := loss / Float.ofInt accumulation
  note (.backward scaled)
  if updatesAfter accumulation step then
    note .step
    note .update
    note .zeroGrad
  pure (scaled * Float.ofInt accumulation * size.toFloat)

def trainFrom (accumulation : Int) (step : Nat) (total : Float) : List Nat → Session Float
  | [] => pure total
  | size :: rest => do
    let share ← trainBatch accumulation step size
    trainFrom accumulation (step + 1) (total + share) rest

def validateFrom (total : Float) : List Nat → Session Float
  | [] => pure total
  | size :: rest => do
    let loss ← nextLoss
    validateFrom (total + loss * size.toFloat) rest

/-- A total over a number of items. -/
def average (total : Float) (size : Nat) : Session Float :=
  if size = 0 then throw .divisionByZero else pure (total / size.toFloat)

/-- The loss on data that is not trained on. -/
def validate (data : Loader) : Session Float := do
  note .evalMode
  let total ← validateFrom 0.0 data.batches
  average total data.size

/-- How training goes. -/
structure Regime where
  epochs : Nat
  accumulation : Int
  patience : Int
  deriving Repr, DecidableEq

def defaultRegime : Regime := ⟨defaultEpochs, defaultAccumulation, defaultPatience⟩

/-- One round: the losses on both kinds of data. -/
def trainRound (r : Regime) (train val : Loader) : Session (Float × Float) := do
  note .trainMode
  note .zeroGrad
  let total ← trainFrom r.accumulation 0 0.0 train.batches
  let valLoss ← validate val
  let trainLoss ← average total train.size
  pure (trainLoss, valLoss)

/-- Rounds until training ends; gives the losses of all of them. -/
def rounds (r : Regime) (train val : Loader) :
    Nat → Nat → Watch Float → Session (List (Float × Float))
  | 0, _, _ => pure []
  | remaining + 1, epoch, watch => do
    let (trainLoss, valLoss) ← trainRound r train val
    print ("Epoch " ++ toString epoch ++ ", Train Loss: " ++ Decimal.fixedText 4 trainLoss ++
      ", Val Loss: " ++ Decimal.fixedText 4 valLoss)
    match watch.see (fun a b => decide (a < b)) r.patience valLoss with
    | (.better, watch) =>
      note .save
      pure ((trainLoss, valLoss) :: (← rounds r train val remaining (epoch + 1) watch))
    | (.wait, watch) =>
      pure ((trainLoss, valLoss) :: (← rounds r train val remaining (epoch + 1) watch))
    | (.stop, _) =>
      print ("Early stopping at epoch " ++ toString epoch)
      pure [(trainLoss, valLoss)]

/-- Draw the curve of losses. -/
def plotCurve (losses : List (Float × Float)) : Session Unit := do
  [.figure, .curve (losses.map (·.1)) "train_loss", .curve (losses.map (·.2)) "val_loss",
    .title "Loss Curve", .xlabel "Epoch", .ylabel "Loss", .legend, .grid, .tightLayout,
    .savefig curveFile, .close].forM fun p => note (.plot p)
  print ("Saved loss curve to " ++ curveFile)

/-- No loss is above this one. -/
def topLoss : Float := 1.0 / 0.0

/-- Train the network on given data, which takes some seconds. -/
def fit (parameters : List String) (r : Regime) (train val : Loader) (seconds : Float) :
    Session Unit := do
  note (.optimizer (parameters.filter isTrained) learningRate)
  let losses ← rounds r train val r.epochs 0 ⟨topLoss, 0⟩
  note .loadState
  print ("Training finished in " ++ Decimal.fixedText 2 seconds ++ " seconds")
  plotCurve losses

/-- The class that outputs of the network stand for. -/
def predict (outputs : List Float) : Session Nat := do
  note .evalMode
  match firstMaximum outputs with
  | some i => pure i
  | none => throw .outOfRange

/-- What a session did, and how it ended. -/
def Session.start {α : Type} (s : Session α) (losses : List Float) :
    Except Failure α × Journal :=
  (ExceptT.run s).run ⟨[], [], losses⟩

end CodeAtlas.Training
