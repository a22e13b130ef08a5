import CodeAtlas.Script.Tree
import CodeAtlas.Text.Numeral

/-! Texts with placeholders such as `%s` and `%(name)d`, and whether the values put into them
fit. -/

namespace CodeAtlas.Lint

/-- A placeholder: its name, how many of its measures are taken from the values, and the letter
that says how the value is shown. -/
structure Placeholder where
  name : Option String
  stars : Nat
  conversion : Char
  deriving Repr, DecidableEq

/-- A name in parentheses at the start of a text. -/
def placeholderName (cs : List Char) : Option String × List Char :=
  match cs with
  | '(' :: rest =>
    let name := rest.takeWhile fun c => c != '(' && c != ')'
    match rest.drop name.length with
    | ')' :: after => (some (String.ofList name), after)
    | _ => (none, cs)
  | _ => (none, cs)

/-- A measure: a star or digits. -/
def measure : List Char → Nat × List Char
  | '*' :: rest => (1, rest)
  | cs => (0, cs.dropWhile fun c => (Text.digit? c).isSome)

/-- The placeholder after a percent sign; there is none if the text ends in it. -/
def placeholder? (cs : List Char) : Option (Placeholder × List Char) :=
  let (name, cs) := placeholderName cs
  let (width, cs) := measure (cs.dropWhile fun c => "#0+ -".toList.contains c)
  let (precision, cs) :=
    match cs with
    | '.' :: rest => measure rest
    | _ => (0, cs)
  let cs :=
    match cs with
    | c :: rest => if c == 'h' || c == 'l' || c == 'L' then rest else cs
    | [] => []
  match cs with
  | [] => none
  | c :: rest => some (⟨name, width + precision, c⟩, rest)

/-- The placeholders of a text, `fuel` of them at most. -/
def placeholdersFrom : Nat → List Char → Option (List Placeholder)
  | 0, _ => some []
  | fuel + 1, cs =>
    match cs.dropWhile (· != '%') with
    | [] => some []
    | _ :: rest =>
      match placeholder? rest with
      | none => none
      | some (p, after) => (placeholdersFrom fuel after).map (p :: ·)

def placeholders (text : List Char) : Option (List Placeholder) :=
  placeholdersFrom (text.length + 1) text

/-- What can be wrong with a text with placeholders and its values. -/
inductive PercentFault where
  | cutShort
  | mixed
  | unsupported (conversion : Char)
  | count (places values : Nat)
  | unusedNames (names : List String)
  | missing (names : List String)
  | wantsMapping
  | wantsSequence
  | starWantsSequence
  deriving Repr, DecidableEq

def PercentFault.text : PercentFault → String
  | .cutShort => "has invalid format string: incomplete format"
  | .mixed => "has mixed positional and named placeholders"
  | .unsupported c => "has unsupported format character " ++ Text.quoted c.toString
  | .count places values =>
    "has " ++ toString places ++ " placeholder(s) but " ++ toString values ++ " substitution(s)"
  | .unusedNames names => "has unused named argument(s): " ++ String.intercalate ", " names
  | .missing names =>
    "is missing argument(s) for placeholder(s): " ++ String.intercalate ", " names
  | .wantsMapping => "expected mapping but got sequence"
  | .wantsSequence => "expected sequence but got mapping"
  | .starWantsSequence => "\x60*\x60 specifier requires sequence"

/-- What the placeholders of a text ask for. -/
structure Wanted where
  /-- Whether values are taken in order; unknown before the first placeholder. -/
  inOrder : Option Bool
  count : Nat
  names : List String
  deriving Repr

/-- Texts in order, each once. -/
def sortedTexts (names : List String) : List String :=
  names.eraseDups.mergeSort fun a b => !(b < a)

/-- Go through placeholders. Mixing names with places ends the examination. -/
def want (w : Wanted) : List Placeholder → List PercentFault × Option Wanted
  | [] => ([], some w)
  | p :: rest =>
    if p.conversion == '%' then want w rest
    else
      let strange : List PercentFault :=
        if "diouxXeEfFgGcrsa".toList.contains p.conversion then [] else [.unsupported p.conversion]
      let inOrder := w.inOrder.getD p.name.isNone
      let stars : List PercentFault :=
        if inOrder then [] else List.replicate p.stars .starWantsSequence
      let count := if inOrder then w.count + p.stars else w.count
      if inOrder != p.name.isNone then (strange ++ stars ++ [.mixed], none)
      else
        let w : Wanted :=
          match p.name with
          | none => ⟨some inOrder, count + 1, w.names⟩
          | some name => ⟨some inOrder, count, name :: w.names⟩
        let (more, found) := want w rest
        (strange ++ stars ++ more, found)

/-- The values that are put into a text. -/
inductive Supply where
  | sequence (count : Nat)
  | mapping (names : List String)
  | other
  deriving Repr

def Supply.ofExpr : Script.Expr → Supply
  | .tuple _ _ items | .list _ _ items =>
    if items.any fun e => match e with | .starred _ _ _ => true | _ => false then .other
    else .sequence items.length
  | .dict _ keys _ =>
    match keys.mapM fun k =>
        match k with
        | some (.constant _ (.text points)) => some (String.ofList (Text.ofPoints points))
        | _ => none with
    | some names => .mapping names
    | none => .other
  | _ => .other

/-- Whether what is supplied is what is wanted. -/
def Wanted.against (w : Wanted) : Supply → List PercentFault
  | .sequence n =>
    if w.inOrder == some true then (if w.count != n then [.count w.count n] else [])
    else [.wantsMapping]
  | .mapping names =>
    if w.inOrder == some true then (if w.count > 1 then [.wantsSequence] else [])
    else
      let extra := sortedTexts (names.filter fun n => !w.names.contains n)
      let missing := sortedTexts (w.names.filter fun n => !names.contains n)
      (if extra.isEmpty then [] else [.unusedNames extra]) ++
        (if missing.isEmpty then [] else [.missing missing])
  | .other => []

/-- What is wrong with a text into which values are put. -/
def percentFaults (text : List Char) (values : Script.Expr) : List PercentFault :=
  match placeholders text with
  | none => [.cutShort]
  | some ps =>
    match want ⟨none, 0, []⟩ ps with
    | (faults, none) => faults
    | (faults, some w) => faults ++ w.against (.ofExpr values)

end CodeAtlas.Lint
