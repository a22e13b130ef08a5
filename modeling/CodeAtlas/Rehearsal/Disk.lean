import CodeAtlas.FileText
import CodeAtlas.Paths
import CodeAtlas.Request

/-! Files and folders held in memory. -/

namespace CodeAtlas.Rehearsal

/-- A file or a folder. -/
inductive Entry where
  | file (bytes : List Nat) (modified : Option Float)
  | folder

structure Disk where
  entries : List (List String × Entry)

namespace Disk

def get? (d : Disk) (place : List String) : Option Entry :=
  if place.isEmpty then some .folder else d.entries.lookup place

/-- A folder with all folders around it. -/
def addFolders (d : Disk) (place : List String) : Disk :=
  (List.range place.length).foldl (fun d i =>
    let p := place.take (i + 1)
    if (d.entries.lookup p).isSome then d else ⟨d.entries ++ [(p, .folder)]⟩) d

/-- Write a file, making the folders around it. -/
def put (d : Disk) (place : List String) (e : Entry) : Disk :=
  let d := d.addFolders place.dropLast
  ⟨d.entries.filter (·.1 != place) ++ [(place, e)]⟩

def delete (d : Disk) (place : List String) : Disk :=
  ⟨d.entries.filter (·.1 != place)⟩

/-- The most bytes of a name. -/
def maxName : Nat := 255

/-- The most bytes of a path. -/
def maxPath : Nat := 4095

/-- Go down from a place along components. All but the last have to be folders, and no name
may be too long; a double dot goes back up. -/
def walk (d : Disk) (path : String) (place : List String) :
    List String → Except Failure (List String)
  | [] => .ok place
  | p :: rest =>
    match d.get? place with
    | some .folder =>
      if maxName < p.utf8ByteSize then .error (.nameTooLong path)
      else walk d path (if p = ".." then place.dropLast else place ++ [p]) rest
    | some (.file _ _) => .error (.notAFolder path)
    | none => .error (.missingFile path)

/-- The place that a path leads to. Only paths from the working folder lead anywhere. -/
def find (d : Disk) (path : String) : Except Failure (List String) :=
  let parts := Paths.parts path
  if path.toList.contains '\x00' then .error (.badValue "embedded null byte")
  else if maxPath < path.utf8ByteSize then .error (.nameTooLong path)
  else if Paths.isAbsolute path then
    .error (if parts.head?.any (maxName < ·.utf8ByteSize) then .nameTooLong path
      else .missingFile path)
  else d.walk path [] parts

/-- What stands at a path. -/
def entry (d : Disk) (path : String) : Except Failure Entry := do
  match d.get? (← d.find path) with
  | some e => .ok e
  | none => .error (.missingFile path)

/-- What kind of thing stands at a path; only a path that is too long cannot be looked up. -/
def kind (d : Disk) (path : String) : Except Failure PathKind :=
  match d.entry path with
  | .error (.nameTooLong path) => .error (.nameTooLong path)
  | .error _ => .ok .nothing
  | .ok (.file _ _) => .ok .file
  | .ok .folder => .ok .folder

/-- The bytes of the file at a path. -/
def read (d : Disk) (path : String) : Except Failure (List Nat) := do
  match ← d.entry path with
  | .file bytes _ => .ok bytes
  | .folder => .error (.isFolder path)

/-- Paths of the files below a folder, in order. -/
def filesBelow (d : Disk) (folder : String) : Except Failure (List String) := do
  match ← d.kind folder, d.find folder with
  | .folder, .ok root =>
    let below := d.entries.filterMap fun
      | (p, .file _ _) =>
        if root.isPrefixOf p && root.length < p.length then some p else none
      | _ => none
    let base := Paths.parts folder
    pure (((below.map fun p => base ++ p.drop root.length).mergeSort Paths.before).map fun ps =>
      Paths.ofParts ps)
  | _, _ => pure []

end Disk

end CodeAtlas.Rehearsal
