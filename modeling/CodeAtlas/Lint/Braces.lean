import CodeAtlas.Lint.Percent

/-! Texts with fields such as `{name}` and `{0:>{1}}` (in curly brackets), and whether the
arguments put into them fit. -/

namespace CodeAtlas.Lint

/-- A field in curly brackets: what it names, and how the value is shown. -/
structure BraceField where
  name : List Char
  format : List Char
  deriving Repr, DecidableEq

/-- What can be wrong with a text with fields and its arguments. -/
inductive BraceFault where
  | malformed (why : String)
  | mixed
  | unusedPositions (positions : List String)
  | unusedNames (names : List String)
  | missing (names : List String)
  deriving Repr, DecidableEq

def BraceFault.text : BraceFault → String
  | .malformed why => "has invalid format string: " ++ why
  | .mixed => "mixes automatic and manual numbering"
  | .unusedPositions positions =>
    "has unused arguments at position(s): " ++ String.intercalate ", " positions
  | .unusedNames names => "has unused named argument(s): " ++ String.intercalate ", " names
  | .missing names =>
    "is missing argument(s) for placeholder(s): " ++ String.intercalate ", " names

/-- The format of a field, up to the bracket that closes it. -/
def braceFormat (depth : Nat) (taken : List Char) : List Char → Option (List Char × List Char)
  | [] => none
  | '\x7b' :: cs => braceFormat (depth + 1) ('\x7b' :: taken) cs
  | '\x7d' :: cs =>
    match depth with
    | 0 => some (taken.reverse, cs)
    | depth + 1 => braceFormat depth ('\x7d' :: taken) cs
  | c :: cs => braceFormat depth (c :: taken) cs

/-- What follows the name of a field. -/
inductive NameEnd where
  | close
  | colon
  | conversion
  | none
  deriving Repr, DecidableEq

/-- The name of a field: an index in square brackets may hold anything. -/
def braceName (inIndex : Bool) (taken : List Char) :
    List Char → Except String (List Char × NameEnd × List Char)
  | [] => .ok (taken.reverse, .none, [])
  | c :: cs =>
    if inIndex then braceName (c != ']') (c :: taken) cs
    else if c == '\x7b' then .error "unexpected '\x7b' in field name"
    else if c == '[' then braceName true (c :: taken) cs
    else if c == '\x7d' then .ok (taken.reverse, .close, cs)
    else if c == ':' then .ok (taken.reverse, .colon, cs)
    else if c == '!' then .ok (taken.reverse, .conversion, cs)
    else braceName false (c :: taken) cs

/-- A field after its opening bracket, and the text after it. -/
def braceField (cs : List Char) : Except String (BraceField × List Char) :=
  let formatted := fun (name cs : List Char) =>
    match braceFormat 0 [] cs with
    | some (format, rest) => .ok (⟨name, format⟩, rest)
    | none => .error "unmatched '\x7b' in format spec"
  match braceName false [] cs with
  | .error why => .error why
  | .ok (name, .close, rest) => .ok (⟨name, []⟩, rest)
  | .ok (_, .none, _) => .error "expected '\x7d' before end of string"
  | .ok (name, .colon, rest) => formatted name rest
  | .ok (name, .conversion, rest) =>
    match rest with
    | [] => .error "end of string while looking for conversion specifier"
    | [_] => formatted name []
    | _ :: c :: rest =>
      if c == '\x7d' then .ok (⟨name, []⟩, rest)
      else if c == ':' then formatted name rest
      else .error "expected ':' after conversion specifier"

/-- The fields of a text, `fuel` steps at most; a bracket written twice stands for itself. -/
def braceFieldsFrom : Nat → List Char → Except String (List BraceField)
  | 0, _ => .ok []
  | fuel + 1, cs =>
    match cs.dropWhile fun c => c != '\x7b' && c != '\x7d' with
    | [] => .ok []
    | c :: rest =>
      if rest.head? == some c then braceFieldsFrom fuel (rest.drop 1)
      else if c == '\x7d' then .error "Single '\x7d' encountered in format string"
      else if rest.isEmpty then .error "Single '\x7b' encountered in format string"
      else
        match braceField rest with
        | .error why => .error why
        | .ok (field, after) => (braceFieldsFrom fuel after).map (field :: ·)

def braceFields (text : List Char) : Except String (List BraceField) :=
  braceFieldsFrom (text.length + 1) text

/-- The arguments that the fields of a text ask for. -/
structure Asked where
  /-- Whether fields are numbered by themselves; unknown before the first number. -/
  automatic : Option Bool
  next : Nat
  positions : List Int
  names : List String
  deriving Repr

/-- Note the argument that a field asks for; numbering by hand and by itself do not mix. -/
def Asked.add (a : Asked) (name : List Char) : Option Asked :=
  let key := (name.takeWhile (· != '.')).takeWhile (· != '[')
  match Text.readInt (String.ofList key) with
  | .ok n =>
    if a.automatic == some true then none
    else some { a with automatic := some false, positions := n :: a.positions }
  | .error _ =>
    if key.isEmpty then
      if a.automatic == some false then none
      else some { a with
        automatic := some true, next := a.next + 1, positions := (a.next : Int) :: a.positions }
    else some { a with names := String.ofList key :: a.names }

/-- Note the fields inside a format; they hold no formats with fields of their own. -/
def Asked.addInner (a : Asked) : List BraceField → Except BraceFault Asked
  | [] => .ok a
  | field :: rest =>
    if field.format.contains '\x7b' then .error (.malformed "Max string recursion exceeded")
    else
      match a.add field.name with
      | none => .error .mixed
      | some a => a.addInner rest

def Asked.addAll (a : Asked) : List BraceField → Except BraceFault Asked
  | [] => .ok a
  | field :: rest =>
    match a.add field.name with
    | none => .error .mixed
    | some a =>
      match braceFields field.format with
      | .error why => .error (.malformed why)
      | .ok inner =>
        match a.addInner inner with
        | .error e => .error e
        | .ok a => a.addAll rest

/-- Whether `count` arguments by place and those of the given names are what is asked for. -/
def Asked.against (a : Asked) (count : Nat) (names : List String) : List BraceFault :=
  let places := (List.range count).map Int.ofNat
  let extra := sortedTexts ((places.filter fun i => !a.positions.contains i).map toString)
  let extraNames := sortedTexts (names.filter fun n => !a.names.contains n)
  let missing := sortedTexts
    (((a.positions.filter fun i => !places.contains i).map toString) ++
      a.names.filter fun n => !names.contains n)
  (if extra.isEmpty then [] else [.unusedPositions extra]) ++
    (if extraNames.isEmpty then [] else [.unusedNames extraNames]) ++
    (if missing.isEmpty then [] else [.missing missing])

/-- What is wrong with a text that is formatted with arguments. Nothing is said about the
number of arguments where some are unpacked. -/
def braceFaults (text : List Char) (args : List Script.Expr) (keywords : List Script.Keyword) :
    List BraceFault :=
  match braceFields text with
  | .error why => [.malformed why]
  | .ok fields =>
    match Asked.addAll ⟨none, 0, [], []⟩ fields with
    | .error e => [e]
    | .ok asked =>
      let unpacked := args.any fun e => match e with | .starred _ _ _ => true | _ => false
      match unpacked, keywords.mapM fun | .mk _ name _ => name with
      | false, some names => asked.against args.length names
      | _, _ => []

end CodeAtlas.Lint
