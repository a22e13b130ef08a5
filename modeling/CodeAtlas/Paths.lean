import CodeAtlas.Text.Rows
import CodeAtlas.Text.Search

/-! Paths of files, written with slashes. Repeated slashes and single dots in a path
say nothing and are dropped. -/

namespace CodeAtlas.Paths

/-- The components of a relative path. -/
def parts (path : String) : List String :=
  ((Text.splitAt '/' path.toList).map String.ofList).filter fun p => p ≠ "" && p ≠ "."

def isAbsolute (path : String) : Bool :=
  path.toList.head? == some '/'

/-- Components put together again; no component at all is the place itself. -/
def ofParts (ps : List String) : String :=
  if ps.isEmpty then "." else "/".intercalate ps

/-- What an absolute path begins with: a slash, or two if they are exactly two. -/
def root (path : String) : String :=
  match path.toList with
  | '/' :: '/' :: '/' :: _ => "/"
  | '/' :: '/' :: _ => "//"
  | '/' :: _ => "/"
  | _ => ""

/-- A path in its plain form. -/
def normalize (path : String) : String :=
  if isAbsolute path then root path ++ "/".intercalate (parts path) else ofParts (parts path)

/-- The last component. -/
def name (path : String) : String :=
  (parts path).getLast?.getD ""

/-- The ending of a name from its last dot on; a dot that comes first or last
starts no ending. -/
def suffixOf (name : String) : String :=
  let cs := name.toList
  let ending := Text.afterLast '.' cs
  if cs.contains '.' && ending.length + 1 < cs.length && !ending.isEmpty then
    String.ofList ('.' :: ending)
  else ""

/-- The ending of a path's last component. -/
def suffix (path : String) : String :=
  suffixOf (name path)

/-- Drop every component that a double dot after it takes back. -/
def settle (done : List String) : List String → List String
  | [] => done.reverse
  | p :: rest =>
    if p == ".." then
      match done with
      | [] => settle [] rest
      | _ :: outer => settle outer rest
    else settle (p :: done) rest

/-- The components of the place that a path leads to. -/
def place (path : String) : List String :=
  settle [] (parts path)

/-- Order of paths: component by component. -/
def before : List String → List String → Bool
  | [], _ => true
  | _ :: _, [] => false
  | a :: as, b :: bs => if a = b then before as bs else decide (a < b)

end CodeAtlas.Paths
