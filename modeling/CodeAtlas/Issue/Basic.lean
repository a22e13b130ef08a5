import CodeAtlas.Language

/-! Issues found in code: what was found, where, and the words for it. -/

namespace CodeAtlas

inductive Severity where
  | low
  | medium
  | high
  deriving Repr, DecidableEq

def Severity.name : Severity → String
  | .low => "LOW"
  | .medium => "MEDIUM"
  | .high => "HIGH"

/-- What was found. Rows are counted from one. -/
inductive Smell where
  | longFunction (length first last : Nat)
  | deepNesting (depth first last : Nat)
  | manyParams (count line : Nat)
  /-- A block that repeats one starting on an earlier row. -/
  | duplicate (earlier line : Nat)
  | unusedImport (name : String) (line : Nat)
  | unusedVariable (name : String) (line : Nat)
  /-- A line of a lint listing: about a variable or an import. -/
  | listed (isVariable : Bool) (text : String) (line : Int)
  deriving Repr, DecidableEq

structure Issue where
  language : Language
  smell : Smell
  deriving Repr, DecidableEq

namespace Issue

def label : Language → String
  | .python => "PY_"
  | .java => "JAVA_"

def id (i : Issue) : String :=
  label i.language ++
    match i.smell with
    | .longFunction _ _ _ => "LONG_FUNCTION"
    | .deepNesting _ _ _ => "DEEP_NESTING"
    | .manyParams _ _ => "MANY_PARAMS"
    | .duplicate _ _ => "DUPLICATE_CODE"
    | .unusedImport _ _ => "UNUSED_IMPORT"
    | .unusedVariable _ _ => "UNUSED_VAR"
    | .listed isVariable _ _ => if isVariable then "UNUSED_VAR" else "UNUSED_IMPORT"

/-- The name of the kind of issue. -/
def type (i : Issue) : String :=
  match i.smell with
  | .longFunction _ _ _ => "long_function"
  | .deepNesting _ _ _ => "deep_nesting"
  | .manyParams _ _ => "many_params"
  | .duplicate _ _ => "duplicate_code"
  | .unusedImport _ _ => "unused_import"
  | .unusedVariable _ _ => "unused_variable"
  | .listed isVariable _ _ => if isVariable then "unused_variable" else "unused_import"

def severity (i : Issue) : Severity :=
  match i.smell with
  | .longFunction _ _ _ | .deepNesting _ _ _ => .medium
  | _ => .low

def message (i : Issue) : String :=
  match i.smell with
  | .longFunction length _ _ => "Function too long (" ++ toString length ++ " lines)."
  | .deepNesting depth _ _ => "Code nested too deeply (depth=" ++ toString depth ++ ")."
  | .manyParams count _ => "Function has too many parameters (" ++ toString count ++ ")."
  | .duplicate earlier _ =>
    let what :=
      match i.language with
      | .python => "Duplicate function"
      | .java => "Duplicate code block"
    what ++ " found matching block starting at line " ++ toString earlier ++ "."
  | .unusedImport name _ => "Import '" ++ name ++ "' is never used"
  | .unusedVariable name _ => "Local variable '" ++ name ++ "' is assigned but never used"
  | .listed _ text _ => text

def lineStart (i : Issue) : Int :=
  match i.smell with
  | .longFunction _ first _ | .deepNesting _ first _ => first
  | .manyParams _ line | .duplicate _ line => line
  | .unusedImport _ line | .unusedVariable _ line => line
  | .listed _ _ line => line

def lineEnd (i : Issue) : Option Nat :=
  match i.smell with
  | .longFunction _ _ last | .deepNesting _ _ last => some last
  | _ => none

end Issue

end CodeAtlas
