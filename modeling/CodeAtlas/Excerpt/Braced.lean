import CodeAtlas.Text.Blank
import CodeAtlas.Text.Pattern

/-! Cutting a method out of Java source: its head is found by a pattern, and the
braces after it are counted until they balance. -/

namespace CodeAtlas.Excerpt

open Text

/-- The head of a class up to its opening brace. -/
def classPattern (name : String) : Text.Pattern :=
  .sequence [.wordEdge, .text "class".toList, .several (.one isBlank), .text name.toList, .wordEdge,
    .few (.one fun _ => true), .text ['\x7b']]

/-- A modifier of a method, or a blank. -/
def modifier : Text.Pattern :=
  .oneOf [.text "public".toList, .text "protected".toList, .text "private".toList,
    .text "static".toList, .one isBlank]

/-- The head of a method: modifiers, type, name, parameters, opening brace. -/
def methodPattern (name : String) : Text.Pattern :=
  .sequence [.wordEdge, .several modifier, .several (.one isBlank),
    .several (.one fun c => isWord c || c == '<' || c == '>' || c == '[' || c == ']'),
    .several (.one isBlank), .text name.toList, .many (.one isBlank), .text ['('],
    .many (.one (· != ')')), .text [')'], .many (.one isBlank), .text ['\x7b']]

/-- The text up to the brace that closes the first one, with `count` braces open
before it; the whole text if there is none. -/
def untilBalanced (count : Int) : List Char → List Char
  | [] => []
  | c :: cs =>
    if c = '\x7b' then c :: untilBalanced (count + 1) cs
    else if c = '\x7d' then
      if count - 1 = 0 then [c] else c :: untilBalanced (count - 1) cs
    else c :: untilBalanced count cs

/-- The first method of that name in a text. -/
def bracedIn (code : List Char) (method : String) : List Char :=
  match (methodPattern method).search? code with
  | none => []
  | some m => untilBalanced 0 (code.drop m.offset)

/-- The text after the head of a class; without a class, the whole text. -/
def within (code : List Char) (cls : Option String) : Option (List Char) :=
  match cls.filter (· ≠ "") with
  | none => some code
  | some c => ((classPattern c).search? code).map (·.after.rest)

/-- The source of a method, or nothing; with a class, the search begins after the
head of that class. -/
def braced (code method : String) (cls : Option String) : String :=
  match within code.toList cls with
  | none => ""
  | some body => String.ofList (bracedIn body method)

end CodeAtlas.Excerpt
