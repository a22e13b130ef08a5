/-! Tables as text: values separated by commas, rows ended by a carriage return and a
newline. A value that holds a comma, a quote or a row end is put into quotes, and a
quote in it is written twice. -/

namespace CodeAtlas.Text

def needsQuotes (value : List Char) : Bool :=
  value.any fun c => c == ',' || c == '"' || c == '\r' || c == '\n'

def quoteTwice : List Char → List Char
  | [] => []
  | c :: cs => if c = '"' then '"' :: '"' :: quoteTwice cs else c :: quoteTwice cs

def writeValue (value : List Char) : List Char :=
  if needsQuotes value then '"' :: quoteTwice value ++ ['"'] else value

/-- Values with commas between them. -/
def writeValues : List (List Char) → List Char
  | [] => []
  | [v] => writeValue v
  | v :: rest => writeValue v ++ ',' :: writeValues rest

/-- A row; one empty value alone is quoted, so that the row can be seen. -/
def writeRow (values : List String) : List Char :=
  (if values = [""] then ['"', '"'] else writeValues (values.map String.toList)) ++ ['\r', '\n']

def writeTable (rows : List (List String)) : String :=
  String.ofList (rows.flatMap writeRow)

end CodeAtlas.Text
