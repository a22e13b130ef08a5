import CodeAtlas.Json.Basic

/-! Looking into objects: the values of fields, with something in their place when
they are missing or of another kind. -/

namespace CodeAtlas.Json

/-- A field; a missing one is null. -/
def at_ (j : Json) (key : String) : Json :=
  (j.field? key).getD .null

def text? (j : Json) (key : String) : Option String :=
  (j.field? key).bind string?

def textOr (j : Json) (key fallback : String) : String :=
  (j.text? key).getD fallback

/-- A text; a missing one is empty. -/
def text (j : Json) (key : String) : String :=
  j.textOr key ""

/-- The items of a list; a missing one is empty. -/
def items (j : Json) (key : String) : List Json :=
  ((j.field? key).bind array?).getD []

/-- The texts in a list. -/
def texts (j : Json) (key : String) : List String :=
  (j.items key).filterMap string?

/-- The fields of an object; a missing one has none. -/
def fields (j : Json) (key : String) : Fields :=
  ((j.field? key).bind object?).getD []

def wholeOr (j : Json) (key : String) (fallback : Int) : Int :=
  ((j.field? key).bind whole?).getD fallback

def numberOr (j : Json) (key : String) (fallback : Float) : Float :=
  ((j.field? key).bind number?).getD fallback

/-- The numbers in a list. -/
def numbers (j : Json) (key : String) : List Float :=
  (j.items key).filterMap number?

/-- Whether a field is there and says yes. -/
def flag (j : Json) (key : String) : Bool :=
  (j.at_ key).truthy

/-- The objects in a list. -/
def objectsIn (xs : List Json) : List Fields :=
  xs.filterMap object?

end CodeAtlas.Json
