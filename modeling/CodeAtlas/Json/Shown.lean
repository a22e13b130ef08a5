import CodeAtlas.Decimal.Shortest
import CodeAtlas.Json.Basic
import CodeAtlas.Text.Quoted

/-! Values as they are shown inside a message: `None`, `True` and `False`,
quoted texts inside lists and objects, a text by itself as it is. -/

namespace CodeAtlas.Json

mutual

/-- A value with its texts in quotes. -/
def quoted : Json → String
  | .null => "None"
  | .bool b => if b then "True" else "False"
  | .int n => toString n
  | .float x => Decimal.floatText x
  | .string s => Text.quoted s
  | .array items => "[" ++ quotedItems items ++ "]"
  | .object fields => "\x7b" ++ quotedFields fields ++ "\x7d"

def quotedItems : List Json → String
  | [] => ""
  | [x] => quoted x
  | x :: y :: rest => quoted x ++ ", " ++ quotedItems (y :: rest)

def quotedFields : Fields → String
  | [] => ""
  | [(k, x)] => Text.quoted k ++ ": " ++ quoted x
  | (k, x) :: f :: rest => Text.quoted k ++ ": " ++ quoted x ++ ", " ++ quotedFields (f :: rest)

end

/-- A value inside running text: a text stands without quotes. -/
def shown : Json → String
  | .string s => s
  | j => j.quoted

/-- The name of a value's type, for messages. -/
def typeName : Json → String
  | .null => "NoneType"
  | .bool _ => "bool"
  | .int _ => "int"
  | .float _ => "float"
  | .string _ => "str"
  | .array _ => "list"
  | .object _ => "dict"

end CodeAtlas.Json
