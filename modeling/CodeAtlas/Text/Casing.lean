/-! Letter case, as far as names spelled in ASCII can tell. A text is put in
one case only to be compared with such a name, so of the letters above ASCII
only those count whose other case is spelled in ASCII; all others stay as they
are and match no name either way. -/

namespace CodeAtlas.Text

/-- The capital form of a letter. -/
def capital (c : Char) : List Char :=
  match c.toNat with
  | 0xdf => ['S', 'S']
  | 0x131 => ['I']
  | 0x17f => ['S']
  | 0xfb00 => ['F', 'F']
  | 0xfb01 => ['F', 'I']
  | 0xfb02 => ['F', 'L']
  | 0xfb03 => ['F', 'F', 'I']
  | 0xfb04 => ['F', 'F', 'L']
  | 0xfb05 => ['S', 'T']
  | 0xfb06 => ['S', 'T']
  | _ => [c.toUpper]

/-- The small form of a letter. -/
def small (c : Char) : Char :=
  if c.toNat == 0x212a then 'k' else c.toLower

def upper (s : String) : String :=
  String.ofList (s.toList.flatMap capital)

def lower (s : String) : String :=
  String.ofList (s.toList.map small)

end CodeAtlas.Text
