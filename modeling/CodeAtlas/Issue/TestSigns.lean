import CodeAtlas.Excerpt.Braced
import CodeAtlas.Excerpt.Indented
import CodeAtlas.Issue.Analysis
import CodeAtlas.Paths
import CodeAtlas.Text.Numeral

/-! Signs in a method's code that it should be tested. -/

namespace CodeAtlas.Issue

structure TestSigns where
  deepNesting : Bool
  longFunction : Bool
  manyParams : Bool
  /-- The number of parameters if they are too many and the message tells it. -/
  paramCount : Option Nat
  deriving Repr, DecidableEq

namespace TestSigns

def none : TestSigns := ⟨false, false, false, .none⟩

/-- A number in brackets. -/
def countPattern : Text.Pattern :=
  .sequence [.text ['('], .several (.one fun c => (Text.digit? c).isSome), .text [')']]

/-- The first number in brackets that a message tells. -/
def countIn? (message : List Char) : Option Nat :=
  (countPattern.search? message).map fun m => Text.ofDigits (m.matched.filterMap Text.digit?)

/-- What one issue adds; of several parameter counts the last stands. -/
def note (s : TestSigns) (i : Issue) : TestSigns :=
  match i.smell with
  | .longFunction _ _ _ => { s with longFunction := true }
  | .deepNesting _ _ _ => { s with deepNesting := true }
  | .manyParams _ _ => { s with manyParams := true, paramCount := countIn? i.message.toList }
  | _ => s

def ofIssues (issues : List Issue) : TestSigns :=
  issues.foldl note none

end TestSigns

/-- A class or method may be any value; only a text can name code. -/
def nameIn (v : Json) : Except Failure (Option String) :=
  match v with
  | .string s => .ok (some s)
  | v => if v.truthy then .error (.wrongType "a name is a text") else .ok none

/-- The code of a method in a file with the given ending; `none` if methods of such
files cannot be found. -/
def methodCode (suffix code : String) (cls method : Json) : Except Failure (Option String) :=
  if suffix = ".py" then
    match nameIn cls, method with
    | .ok cls, .string method => .ok (some (Excerpt.indented code method cls))
    | _, _ => .ok (some "")
  else if suffix = ".java" then do
    let cls ← nameIn cls
    match method with
    | .string method => .ok (some (Excerpt.braced code method cls))
    | _ =>
      if (Excerpt.within code.toList cls).isNone then .ok (some "")
      else .error (.wrongType "a name is a text")
  else .ok none

/-- Signs in the code at a path: of one method if one is named. A file that cannot
be read shows none. -/
def testSigns (path cls method : Json) : Dialogue TestSigns := do
  match path with
  | .string path =>
    match ← (Dialogue.request (.readFile (Paths.normalize path) false)).attempt with
    | .error _ => pure .none
    | .ok (code : String) =>
      let part ← (if method.truthy then methodCode (Paths.suffix path) code cls method
        else .ok (some code) : Except Failure (Option String))
      match part with
      | .none => pure .none
      | some code => do pure (TestSigns.ofIssues (← analyze code))
  | _ => .fail (.wrongType "a path is a text")

end CodeAtlas.Issue
