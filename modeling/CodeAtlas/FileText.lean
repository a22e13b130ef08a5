import CodeAtlas.Failure
import CodeAtlas.Text.Rows
import CodeAtlas.Text.Utf8

/-! Bytes of files as text. -/

namespace CodeAtlas

/-- The text of a file: invalid bytes are left out or refused, and every line break
is a newline. -/
def decodeFile (bytes : List Nat) (lossy : Bool) : Except Failure String :=
  let text := if lossy then .ok (Text.Utf8.decodeLossy bytes) else Text.Utf8.decode bytes
  match text with
  | .ok s => .ok (String.ofList (Text.unixLines s.toList))
  | .error e => .error (.undecodable e)

end CodeAtlas
