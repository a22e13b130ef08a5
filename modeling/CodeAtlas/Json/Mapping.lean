import CodeAtlas.Failure

/-! Values that are looked up or looked through: which can be keys, what a value is made of
when it is gone through item by item, and when a list of pairs is a mapping. -/

namespace CodeAtlas.Json

/-- Lists and objects cannot be keys. -/
def asKey (v : Json) : Except Failure Json :=
  match v with
  | .array _ | .object _ => .error (.wrongType ("unhashable type: '" ++ v.typeName ++ "'"))
  | v => .ok v

/-- The items of a value: characters of a text, names of an object's fields. -/
def itemsIn? : Json → Option (List Json)
  | .array xs => some xs
  | .string s => some (s.toList.map fun c => .string c.toString)
  | .object fs => some (fs.map fun f => .string f.1)
  | _ => none

/-- The items of a value that has to have some. -/
def itemsIn (v : Json) : Except Failure (List Json) :=
  match v.itemsIn? with
  | some xs => .ok xs
  | none => .error (.wrongType ("'" ++ v.typeName ++ "' object is not iterable"))

/-- How a key is written as the name of a field. -/
def keyText : Json → String
  | .null => "null"
  | .bool b => if b then "true" else "false"
  | .string s => s
  | v => v.quoted

/-- The entry that the item number `i` of a list stands for: two items, a key and a value. -/
def entryOf (i : Nat) (v : Json) : Except Failure (Json × Json) :=
  match v.itemsIn? with
  | none =>
    .error (.wrongType ("cannot convert dictionary update sequence element #" ++ toString i ++
      " to a sequence"))
  | some [key, value] => (asKey key).map fun key => (key, value)
  | some xs =>
    .error (.badValue ("dictionary update sequence element #" ++ toString i ++ " has length " ++
      toString xs.length ++ "; 2 is required"))

/-- Enter a value under a key; of keys that are the same the first stays, with the new value. -/
def enter (key value : Json) : List (Json × Json) → List (Json × Json)
  | [] => [(key, value)]
  | (k, v) :: rest => if k.same key then (k, value) :: rest else (k, v) :: enter key value rest

/-- Enter items number `i` and on into a mapping. -/
def mappingFrom (entries : List (Json × Json)) (i : Nat) :
    List Json → Except Failure (List (Json × Json))
  | [] => .ok entries
  | v :: rest =>
    match entryOf i v with
    | .error e => .error e
    | .ok (key, value) => mappingFrom (enter key value entries) (i + 1) rest

/-- The fields that entries are written as. -/
def fieldsOfEntries (entries : List (Json × Json)) : Fields :=
  entries.foldl (fun fields e => fields.put e.1.keyText e.2) []

/-- A value as a mapping: an object, or items that are entries. -/
def mapping (v : Json) : Except Failure Fields :=
  match v with
  | .object fields => .ok fields
  | v =>
    match v.itemsIn with
    | .error e => .error e
    | .ok items => (mappingFrom [] 0 items).map fieldsOfEntries

end CodeAtlas.Json
