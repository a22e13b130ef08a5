import CodeAtlas.Lint.Braces
import CodeAtlas.Lint.Key

/-! What can be found in a source without running it, and the words for each finding. -/

namespace CodeAtlas.Lint

inductive Finding where
  | unusedImport (shown : String)
  /-- A name is bound anew before what it was bound to has been used. -/
  | redefinition (name : String) (line : Nat)
  | shadowedImport (name : String) (line : Nat)
  | nestedStarImport (module : String)
  | starImport (module : String)
  /-- A name that some module imported whole may offer. -/
  | perhapsImported (name : List Nat) (modules : List String)
  | undefinedName (name : String)
  | undefinedExport (name : List Nat)
  /-- A local variable is read before its assignment; an outer one is told by its row, and a
  name that every module knows by none. -/
  | earlyUse (name : String) (line : Option Nat)
  | repeatedParam (name : String)
  | repeatedKey (key : Key)
  | lateFuture
  | unknownFuture (name : String)
  | unusedVariable (name : String)
  | unusedTypeNote (name : String)
  | returnOutside
  | yieldOutside
  | continueOutside
  | breakOutside
  | bareHandlerNotLast
  | twoStarred
  | manyBeforeStarred
  | tupleTest
  | tupleAssertion
  | malformedType (text : List Nat)
  | raisedNotImplemented
  | shiftedPrint
  | literalIdentity
  | noPlaceholders
  | braces (fault : BraceFault)
  | percent (fault : PercentFault)
  deriving Repr

/-- The words for a finding. -/
def Finding.text : Finding → String
  | .unusedImport shown => Text.quoted shown ++ " imported but unused"
  | .redefinition name line =>
    "redefinition of unused " ++ Text.quoted name ++ " from line " ++ toString line
  | .shadowedImport name line =>
    "import " ++ Text.quoted name ++ " from line " ++ toString line ++ " shadowed by loop variable"
  | .nestedStarImport module => "'from " ++ module ++ " import *' only allowed at module level"
  | .starImport module =>
    "'from " ++ module ++ " import *' used; unable to detect undefined names"
  | .perhapsImported name modules =>
    Text.quotedPoints name ++ " may be undefined, or defined from star imports: " ++
      String.intercalate ", " modules
  | .undefinedName name => "undefined name " ++ Text.quoted name
  | .undefinedExport name => "undefined name " ++ Text.quotedPoints name ++ " in __all__"
  | .earlyUse name (some line) =>
    "local variable " ++ Text.quoted name ++ " defined in enclosing scope on line " ++
      toString line ++ " referenced before assignment"
  | .earlyUse name none =>
    "local variable " ++ Text.quoted name ++ " defined as a builtin referenced before assignment"
  | .repeatedParam name =>
    "duplicate argument " ++ Text.quoted name ++ " in function definition"
  | .repeatedKey (.name id) => "dictionary key variable " ++ id ++ " repeated with different values"
  | .repeatedKey key => "dictionary key " ++ key.shown ++ " repeated with different values"
  | .lateFuture => "from __future__ imports must occur at the beginning of the file"
  | .unknownFuture name => "future feature not defined: " ++ Text.quoted name
  | .unusedVariable name =>
    "local variable " ++ Text.quoted name ++ " is assigned to but never used"
  | .unusedTypeNote name => "local variable " ++ Text.quoted name ++ " is annotated but never used"
  | .returnOutside => "'return' outside function"
  | .yieldOutside => "'yield' outside function"
  | .continueOutside => "'continue' not properly in loop"
  | .breakOutside => "'break' outside loop"
  | .bareHandlerNotLast => "an 'except:' block as not the last exception handler"
  | .twoStarred => "two starred expressions in assignment"
  | .manyBeforeStarred => "too many expressions in star-unpacking assignment"
  | .tupleTest => "'if tuple literal' is always true, perhaps remove accidental comma?"
  | .tupleAssertion => "assertion is always true, perhaps remove parentheses?"
  | .malformedType text => "syntax error in forward annotation " ++ Text.quotedPoints text
  | .raisedNotImplemented => "'raise NotImplemented' should be 'raise NotImplementedError'"
  | .shiftedPrint => "use of >> is invalid with print function"
  | .literalIdentity =>
    "use ==/!= to compare constant literals (str, bytes, int, float, tuple)"
  | .noPlaceholders => "f-string is missing placeholders"
  | .braces fault => "'...'.format(...) " ++ fault.text
  | .percent fault => "'...' % ... " ++ fault.text

/-- A place in a source: a row, counted from one, and a column, counted from zero. -/
structure Position where
  line : Nat
  col : Nat
  deriving Repr, DecidableEq, Inhabited

def Position.ofSpan (s : Script.Span) : Position := ⟨s.line, s.col⟩

structure Report where
  position : Position
  finding : Finding
  deriving Repr

end CodeAtlas.Lint
