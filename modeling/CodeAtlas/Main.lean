import CodeAtlas.Console.Plain
import CodeAtlas.Console.Run
import CodeAtlas.Dialogue
import CodeAtlas.FileText
import CodeAtlas.Graph.Store
import CodeAtlas.Issue.Unused
import CodeAtlas.Paths
import Std.Time.DateTime.Timestamp

/-! The command line. Dialogues are carried out with the files of the machine and a
graph that lives as long as the call; a request to a service that is not connected
fails. -/

namespace CodeAtlas.Terminal

def unconnected {α : Type} (service : String) : Except Failure α :=
  .error (.reported (service ++ " is not connected"))

/-- Seconds since the epoch. -/
def clock : IO Float := do
  let t ← Std.Time.Timestamp.now
  pure (Float.ofInt t.toNanosecondsSinceUnixEpoch.val / 1e9)

def pathKind (path : String) : IO PathKind :=
  try
    let place ← IO.FS.realPath path
    pure (if ← place.isDir then .folder else .file)
  catch _ => pure .nothing

/-- Components of all files below a folder, after those in `base`. -/
partial def filesUnder (base : List String) (folder : String) : IO (List (List String)) := do
  let place ← IO.FS.realPath folder
  let mut found := []
  for item in ← place.readDir do
    let path := folder ++ "/" ++ item.fileName
    let parts := base ++ [item.fileName]
    match ← pathKind path with
    | .folder => found := found ++ (← filesUnder parts path)
    | .file => found := found ++ [parts]
    | .nothing => pure ()
  pure found

def filesBelow (folder : String) : IO (List String) := do
  let found ← filesUnder (Paths.parts folder) folder
  let root := if Paths.isAbsolute folder then "/" else ""
  pure ((found.mergeSort Paths.before).map fun ps => root ++ Paths.ofParts ps)

def modified (path : String) : IO Float := do
  let place ← IO.FS.realPath path
  let time := (← place.metadata).modified
  pure (Float.ofInt time.sec + time.nsec.toNat.toFloat / 1e9)

/-- An action whose fault becomes a failure. -/
def guarded {α : Type} (fault : Failure) (act : IO α) : IO (Except Failure α) :=
  try return .ok (← act)
  catch _ => return .error fault

/-- Read a file as text. -/
def readText (path : String) (lossy : Bool) : IO (Except Failure String) := do
  match ← pathKind path with
  | .folder => pure (.error (.isFolder path))
  | _ =>
    let bytes ← guarded (.missingFile path) (IO.FS.readBinFile path)
    pure (bytes >>= fun b => decodeFile (b.toList.map UInt8.toNat) lossy)

/-- The answer to a request, with the graph as it is afterwards. -/
def answer (store : Graph.Store) : (q : Request) → IO (Except Failure q.Answer × Graph.Store)
  | .graph q =>
    let (rs, store) := store.answer q
    pure (.ok rs, store)
  | .chat _ => pure (unconnected "The language model", store)
  | .chatStream _ => pure (unconnected "The language model", store)
  | .generate _ => pure (unconnected "The language model", store)
  | .addDocuments _ _ => pure (unconnected "The vector database", store)
  | .addColumns _ _ _ _ => pure (unconnected "The vector database", store)
  | .nearest _ _ _ _ => pure (unconnected "The vector database", store)
  | .classify _ => pure (unconnected "The classifier", store)
  | .loadParser _ => pure (unconnected "The parser", store)
  | .parseCode _ _ => pure (unconnected "The parser", store)
  | .clone _ _ => pure (unconnected "The network", store)
  | .readFile path lossy => return (← readText path lossy, store)
  | .pathKind path => return (.ok (← pathKind path), store)
  | .modified path => return (← guarded (.missingFile path) (modified path), store)
  | .filesBelow folder => return (← guarded (.missingFile folder) (filesBelow folder), store)
  | .writeFile path text =>
    return (← guarded (.missingFile path) (IO.FS.writeFile path text), store)
  | .now => return (.ok (← clock), store)
  | .lint file code => pure (Issue.lint file code, store)
  | .say line => return (.ok (← IO.println line), store)
  | .emit line => return (.ok (← IO.print line), store)
  | .display item => return (.ok (← (Console.plainLines item).forM IO.println), store)

/-- Carry a dialogue out. -/
def carryOut {α : Type} : Dialogue α → Graph.Store → IO (Except Failure α)
  | .done a, _ => pure (.ok a)
  | .fail e, _ => pure (.error e)
  | .ask q next, store => do
    let (r, store) ← answer store q
    carryOut (next r) store

end CodeAtlas.Terminal

open CodeAtlas in
def main (args : List String) : IO UInt32 := do
  match Console.Command.parse args with
  | .error fault =>
    IO.eprintln ("Error: " ++ fault.message)
    pure 2
  | .ok none =>
    IO.println (Console.plainText Console.infoText)
    pure 0
  | .ok (some command) =>
    let now ← Terminal.clock
    match ← Terminal.carryOut (Console.run (fun _ => now) command) Graph.Store.empty with
    | .ok code => pure (UInt32.ofNat code)
    | .error e =>
      IO.eprintln e.message
      pure 1
